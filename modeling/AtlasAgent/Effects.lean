import Mathlib.Logic.Function.Basic
import Mathlib.Logic.IsEmpty.Basic
import Mathlib.Tactic.TypeStar

/-!
# Programs with a state, outputs and failures

A program changes a state, emits outputs in order and ends with a value or
with a failure. What it has changed and emitted before a failure stays, and
the steps after it do not happen. The equations here run a program step by
step; how a function fails is up to the component that uses the library.
-/

namespace AtlasAgent.Effects

universe v

variable {σ ο ε : Type*} {α β : Type v}

/-- How a program has ended. -/
structure Outcome (σ ο ε α : Type*) where
  /-- The state when it ended. -/
  state : σ
  /-- Everything it has emitted, in order. -/
  outputs : List ο
  /-- Its value, or the failure that ended it. -/
  result : Except ε α

/-- A program, given by its outcome from every state. -/
def Program (σ ο ε α : Type*) := σ → Outcome σ ο ε α

/-- The outcome of what follows, which a failure leaves out. -/
def Outcome.andThen (outcome : Outcome σ ο ε α) (next : α → Program σ ο ε β) :
    Outcome σ ο ε β :=
  match outcome.result with
  | .error failure => ⟨outcome.state,outcome.outputs,.error failure⟩
  | .ok value =>
    let rest := next value outcome.state
    ⟨rest.state,outcome.outputs++rest.outputs,rest.result⟩

instance : Monad (Program σ ο ε) where
  pure value := fun s => ⟨s,[],.ok value⟩
  bind program next := fun s => (program s).andThen next

/-- Emit one output. -/
def emit (output : ο) : Program σ ο ε Unit := fun s => ⟨s,[output],.ok ()⟩

/-- Read the state. -/
def getState : Program σ ο ε σ := fun s => ⟨s,[],.ok s⟩

/-- Change the state. -/
def modifyState (change : σ → σ) : Program σ ο ε Unit := fun s => ⟨change s,[],.ok ()⟩

/-- End with a failure. -/
def fail (failure : ε) : Program σ ο ε α := fun s => ⟨s,[],.error failure⟩

/-- A computation that neither reads the state nor emits. -/
def lift (result : Except ε α) : Program σ ο ε α := fun s => ⟨s,[],result⟩

/-- A handler around a program: a failure becomes a value, and what was
changed and emitted before it stays. -/
def catchAll (program : Program σ ο ε α) (handler : ε → α) : Program σ ο ε α := fun s =>
  match (program s).result with
  | .ok value => ⟨(program s).state,(program s).outputs,.ok value⟩
  | .error failure => ⟨(program s).state,(program s).outputs,.ok (handler failure)⟩

@[simp] theorem pure_apply (value : α) (s : σ) :
    (pure value : Program σ ο ε α) s=⟨s,[],.ok value⟩ := rfl

@[simp] theorem bind_apply (program : Program σ ο ε α) (next : α → Program σ ο ε β) (s : σ) :
    (program >>= next) s=(program s).andThen next := rfl

@[simp] theorem emit_apply (output : ο) (s : σ) :
    (emit output : Program σ ο ε Unit) s=⟨s,[output],.ok ()⟩ := rfl

@[simp] theorem getState_apply (s : σ) :
    (getState : Program σ ο ε σ) s=⟨s,[],.ok s⟩ := rfl

@[simp] theorem modifyState_apply (change : σ → σ) (s : σ) :
    (modifyState change : Program σ ο ε Unit) s=⟨change s,[],.ok ()⟩ := rfl

@[simp] theorem fail_apply (failure : ε) (s : σ) :
    (fail failure : Program σ ο ε α) s=⟨s,[],.error failure⟩ := rfl

@[simp] theorem lift_apply (result : Except ε α) (s : σ) :
    (lift result : Program σ ο ε α) s=⟨s,[],result⟩ := rfl

@[simp] theorem andThen_ok (s : σ) (outputs : List ο) (value : α)
    (next : α → Program σ ο ε β) :
    (⟨s,outputs,.ok value⟩ : Outcome σ ο ε α).andThen next=
      ⟨(next value s).state,outputs++(next value s).outputs,(next value s).result⟩ := rfl

@[simp] theorem andThen_error (s : σ) (outputs : List ο) (failure : ε)
    (next : α → Program σ ο ε β) :
    (⟨s,outputs,.error failure⟩ : Outcome σ ο ε α).andThen next=⟨s,outputs,.error failure⟩ := rfl

@[simp] theorem catchAll_apply_ok {program : Program σ ο ε α} {handler : ε → α} {s s' : σ}
    {outputs : List ο} {value : α} (h : program s=⟨s',outputs,.ok value⟩) :
    catchAll program handler s=⟨s',outputs,.ok value⟩ := by
  simp only [catchAll,h]

/-- A program that branches runs the branch that is taken. -/
@[simp] theorem ite_apply (c : Prop) [Decidable c] (yes no : Program σ ο ε α) (s : σ) :
    (if c then yes else no) s=if c then yes s else no s := by
  split <;> rfl

/-- The program ends with a value. -/
def Returns (program : Program σ ο ε α) (s : σ) : Prop := ∃ value, (program s).result=.ok value

/-- A program without a value to speak of returns by ending with it. -/
theorem returns_unit {program : Program σ ο ε Unit} {s : σ} :
    Returns program s ↔ (program s).result=.ok () :=
  ⟨fun ⟨(),h⟩ => h,fun h => ⟨(),h⟩⟩

/-- A program without failures returns. -/
theorem returns_of_isEmpty [IsEmpty ε] (program : Program σ ο ε α) (s : σ) :
    Returns program s := by
  unfold Returns
  cases (program s).result with
  | error failure => exact isEmptyElim failure
  | ok value => exact ⟨value,rfl⟩

/-- A program that ends with a value runs what follows from there. -/
theorem bind_apply_of_result {program : Program σ ο ε α} {value : α} {s : σ}
    (h : (program s).result=.ok value) (next : α → Program σ ο ε β) :
    (program >>= next) s=⟨(next value (program s).state).state,
      (program s).outputs++(next value (program s).state).outputs,
        (next value (program s).state).result⟩ := by
  rw [bind_apply,Outcome.andThen,h]

/-- What follows a program of a known value. -/
theorem bind_of_result {program : Program σ ο ε α} {value : α}
    (h : ∀ s, (program s).result=.ok value) (next : α → Program σ ο ε β) :
    program >>= next=program >>= fun _ => next value := by
  funext s
  rw [bind_apply_of_result (h s),bind_apply_of_result (h s)]

/-- What follows is reached exactly with a value, and returns from there. -/
theorem returns_bind {program : Program σ ο ε α} {next : α → Program σ ο ε β} {s : σ} :
    Returns (program >>= next) s ↔
      ∃ value, (program s).result=.ok value ∧ Returns (next value) (program s).state := by
  unfold Returns
  rw [bind_apply]
  obtain ⟨s',outputs,result⟩ := program s
  cases result with
  | error failure => simp
  | ok value => simp

/-- Two programs in sequence, neither of which depends on the state in whether
it returns. -/
theorem returns_seq {program : Program σ ο ε α} {next : α → Program σ ο ε β} {s : σ}
    {First Second : Prop} (hfirst : Returns program s ↔ First)
    (hnext : ∀ value s', Returns (next value) s' ↔ Second) :
    Returns (program >>= next) s ↔ First ∧ Second := by
  rw [returns_bind]
  constructor
  · rintro ⟨value,hvalue,hrest⟩
    exact ⟨hfirst.mp ⟨value,hvalue⟩,(hnext value _).mp hrest⟩
  · rintro ⟨hf,hs⟩
    obtain ⟨value,hvalue⟩ := hfirst.mpr hf
    exact ⟨value,hvalue,(hnext value _).mpr hs⟩

@[simp] theorem returns_pure (value : α) (s : σ) :
    Returns (pure value : Program σ ο ε α) s ↔ True := by
  simp [Returns]

@[simp] theorem returns_emit (output : ο) (s : σ) :
    Returns (emit output : Program σ ο ε Unit) s ↔ True := by
  simp [Returns]

@[simp] theorem returns_getState (s : σ) : Returns (getState : Program σ ο ε σ) s ↔ True := by
  simp [Returns]

@[simp] theorem returns_modifyState (change : σ → σ) (s : σ) :
    Returns (modifyState change : Program σ ο ε Unit) s ↔ True := by
  simp [Returns]

@[simp] theorem returns_fail (failure : ε) (s : σ) :
    Returns (fail failure : Program σ ο ε α) s ↔ False := by
  simp [Returns]

/-- A program behind a condition returns unless it runs and does not. -/
theorem returns_when {c : Prop} [Decidable c] {program : Program σ ο ε Unit} {s : σ} :
    Returns (if c then program else pure ()) s ↔ (c → Returns program s) := by
  split <;> simp [*]

/-- From every state where the first condition holds, the program emits only
good outputs, and a value it ends with satisfies the last condition together
with the state. Nothing is asked of the state after a failure. -/
def Triple (Before : σ → Prop) (program : Program σ ο ε α) (Good : ο → Prop)
    (After : α → σ → Prop) : Prop :=
  ∀ s, Before s → (∀ o∈(program s).outputs,Good o) ∧
    ∀ value, (program s).result=.ok value → After value (program s).state

section Rules

variable {Before : σ → Prop} {Good : ο → Prop} {After : α → σ → Prop}

/-- Sequence rule, with what holds between the two programs. -/
theorem triple_bind {program : Program σ ο ε α} {next : α → Program σ ο ε β}
    {Last : β → σ → Prop} (Mid : α → σ → Prop) (hfirst : Triple Before program Good Mid)
    (hnext : ∀ value, Triple (Mid value) (next value) Good Last) :
    Triple Before (program >>= next) Good Last := by
  intro s hs
  have hprogram := hfirst s hs
  rw [bind_apply]
  generalize program s=outcome at hprogram
  obtain ⟨s',outputs,result⟩ := outcome
  obtain ⟨hgood,hmid⟩ := hprogram
  cases result with
  | error failure => exact ⟨hgood,by simp⟩
  | ok value =>
    obtain ⟨hgood',hlast⟩ := hnext value s' (hmid value rfl)
    refine ⟨fun o ho => ?_,hlast⟩
    rcases List.mem_append.mp ho with ho|ho
    · exact hgood o ho
    · exact hgood' o ho

theorem triple_pure {value : α} (h : ∀ s, Before s → After value s) :
    Triple Before (pure value : Program σ ο ε α) Good After := by
  intro s hs
  simpa using h s hs

theorem triple_emit {output : ο} {Last : Unit → σ → Prop} (hgood : ∀ s, Before s → Good output)
    (h : ∀ s, Before s → ∀ u, Last u s) :
    Triple Before (emit output : Program σ ο ε Unit) Good Last := by
  intro s hs
  simpa using ⟨hgood s hs,h s hs⟩

/-- The state that is read is the state from which the rest runs. -/
theorem triple_getState {σ : Type v} {Before : σ → Prop} {After : α → σ → Prop}
    {next : σ → Program σ ο ε α} (h : ∀ s, Before s → Triple (· = s) (next s) Good After) :
    Triple Before (getState >>= next) Good After := by
  intro s hs
  simpa using h s hs s rfl

theorem triple_modifyState {change : σ → σ} {Last : Unit → σ → Prop}
    (h : ∀ s, Before s → ∀ u, Last u (change s)) :
    Triple Before (modifyState change : Program σ ο ε Unit) Good Last := by
  intro s hs
  simpa using h s hs

theorem triple_fail {failure : ε} :
    Triple Before (fail failure : Program σ ο ε α) Good After := by
  intro s _
  simp

/-- A program behind a condition, which keeps what is known when it does not
run. -/
theorem triple_when {c : Prop} [Decidable c] {program : Program σ ο ε Unit}
    {Last : Unit → σ → Prop} (hrun : c → Triple Before program Good Last)
    (hskip : ¬c → ∀ s, Before s → ∀ u, Last u s) :
    Triple Before (if c then program else pure ()) Good Last := by
  split
  · next hc => exact hrun hc
  · next hc => exact triple_pure fun s hs => hskip hc s hs ()

end Rules

section Loops

variable {ι : Type*} {program : ι → Program σ ο ε Unit} {items : List ι}

/-- A loop that runs a program for one item after another. -/
def forEach (program : ι → Program σ ο ε Unit) : List ι → Program σ ο ε Unit
  | [] => pure ()
  | item::items => do
    program item
    forEach program items

/-- Where no item fails or changes the state, the outputs come in the order of
the items. -/
theorem forEach_apply (outputs : ι → List ο) {s : σ}
    (h : ∀ item∈items,program item s=⟨s,outputs item,.ok ()⟩) :
    forEach program items s=⟨s,items.flatMap outputs,.ok ()⟩ := by
  induction items with
  | nil => rfl
  | cons item items ih =>
    have hrest := ih fun other hother => h other (List.mem_cons_of_mem item hother)
    rw [forEach,bind_apply,h item List.mem_cons_self,andThen_ok,hrest,List.flatMap_cons]

/-- A loop returns exactly when each of its items does, if that does not depend
on the state. -/
theorem returns_forEach {Ok : ι → Prop} (h : ∀ item s, Returns (program item) s ↔ Ok item)
    (items : List ι) (s : σ) : Returns (forEach program items) s ↔ ∀ item∈items,Ok item := by
  induction items generalizing s with
  | nil => simp [forEach]
  | cons item items ih =>
    rw [forEach,returns_seq (h item s) fun _ s' => ih s',List.forall_mem_cons]

end Loops

end AtlasAgent.Effects
