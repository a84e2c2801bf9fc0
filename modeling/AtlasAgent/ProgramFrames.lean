import AtlasAgent.Effects
import AtlasAgent.RunTotals

/-!
# What a program leaves alone, emits and accounts for

Three properties of a program that hold from every state and of every part it
is put together from: a part of the state it keeps, a kind of output it does
not go beyond, and a level of the state that moves by what it hands out. The
last section runs programs on the elements of a family of states.
-/

namespace AtlasAgent.ProgramFrames

open Effects RunTotals

universe v

variable {σ ο ε τ : Type*} {α β : Type v}

/-- Whatever the program changes, it keeps this part of the state. -/
def Keeps (part : σ → τ) (program : Program σ ο ε α) : Prop :=
  ∀ s, part (program s).state=part s

/-- The program emits nothing but good outputs. -/
def Emits (Good : ο → Prop) (program : Program σ ο ε α) : Prop :=
  ∀ s, ∀ o∈(program s).outputs,Good o

/-- The outcome of two programs in sequence is that of the first, or has the
state of the second one and the outputs of both. -/
theorem bind_cases (program : Program σ ο ε α) (next : α → Program σ ο ε β) (s : σ) :
    (((program >>= next) s).state=(program s).state ∧
        ((program >>= next) s).outputs=(program s).outputs) ∨
      ∃ value, ((program >>= next) s).state=(next value (program s).state).state ∧
        ((program >>= next) s).outputs=
          (program s).outputs++(next value (program s).state).outputs := by
  rw [bind_apply,Outcome.andThen]
  split
  · exact Or.inl ⟨rfl,rfl⟩
  · next value _ => exact Or.inr ⟨value,rfl,rfl⟩

section Keeps

variable {part : σ → τ}

theorem keeps_bind {program : Program σ ο ε α} {next : α → Program σ ο ε β}
    (hfirst : Keeps part program) (hnext : ∀ value, Keeps part (next value)) :
    Keeps part (program >>= next) := by
  intro s
  rcases bind_cases program next s with ⟨hstate,-⟩|⟨value,hstate,-⟩
  · rw [hstate,hfirst]
  · rw [hstate,hnext,hfirst]

theorem keeps_pure (value : α) : Keeps part (pure value : Program σ ο ε α) := fun _ => rfl

theorem keeps_emit (output : ο) : Keeps part (emit output : Program σ ο ε Unit) := fun _ => rfl

theorem keeps_getState {σ : Type v} {part : σ → τ} :
    Keeps part (getState : Program σ ο ε σ) := fun _ => rfl

theorem keeps_lift (result : Except ε α) : Keeps part (lift result : Program σ ο ε α) :=
  fun _ => rfl

theorem keeps_forEach {ι : Type*} {program : ι → Program σ ο ε Unit}
    (h : ∀ item, Keeps part (program item)) (items : List ι) :
    Keeps part (forEach program items) := by
  induction items with
  | nil => exact keeps_pure ()
  | cons item items ih => exact keeps_bind (h item) fun _ => ih

end Keeps

section Emits

variable {Good : ο → Prop}

theorem emits_bind {program : Program σ ο ε α} {next : α → Program σ ο ε β}
    (hfirst : Emits Good program) (hnext : ∀ value, Emits Good (next value)) :
    Emits Good (program >>= next) := by
  intro s o ho
  rcases bind_cases program next s with ⟨-,houtputs⟩|⟨value,-,houtputs⟩
  · exact hfirst s o (houtputs ▸ ho)
  · rw [houtputs] at ho
    rcases List.mem_append.mp ho with ho|ho
    · exact hfirst s o ho
    · exact hnext value _ o ho

theorem emits_pure (value : α) : Emits Good (pure value : Program σ ο ε α) := fun _ _ ho => by
  cases ho

theorem emits_emit {output : ο} (h : Good output) : Emits Good (emit output : Program σ ο ε Unit) :=
  fun _ _ ho => List.mem_singleton.mp ho ▸ h

theorem emits_getState {σ : Type v} : Emits Good (getState : Program σ ο ε σ) := fun _ _ ho => by
  cases ho

theorem emits_ite {c : Prop} [Decidable c] {yes no : Program σ ο ε α} (hyes : Emits Good yes)
    (hno : Emits Good no) : Emits Good (if c then yes else no) := by
  split
  · exact hyes
  · exact hno

end Emits

section Accounts

variable {M : Type*} [AddCommGroup M] {amount : ο → M} {level : σ → M}

/-- The program hands out what it moves the level by. -/
def Accounts (amount : ο → M) (level : σ → M) (program : Program σ ο ε α) : Prop :=
  ∀ s, total amount (program s).outputs=level (program s).state-level s

theorem accounts_bind {program : Program σ ο ε α} {next : α → Program σ ο ε β}
    (hfirst : Accounts amount level program) (hnext : ∀ value, Accounts amount level (next value)) :
    Accounts amount level (program >>= next) := by
  intro s
  rcases bind_cases program next s with ⟨hstate,houtputs⟩|⟨value,hstate,houtputs⟩
  · rw [hstate,houtputs,hfirst]
  · rw [hstate,houtputs,total_append,hfirst,hnext]
    abel

/-- A program that keeps the level and emits nothing with an amount. -/
theorem accounts_of_keeps {program : Program σ ο ε α} (hkeeps : Keeps level program)
    (hemits : Emits (fun o => amount o=0) program) : Accounts amount level program := by
  intro s
  rw [hkeeps,sub_self,total,List.sum_eq_zero]
  intro x hx
  obtain ⟨o,ho,rfl⟩ := List.mem_map.mp hx
  exact hemits s o ho

theorem accounts_ite {c : Prop} [Decidable c] {yes no : Program σ ο ε α}
    (hyes : Accounts amount level yes) (hno : Accounts amount level no) :
    Accounts amount level (if c then yes else no) := by
  split
  · exact hyes
  · exact hno

end Accounts

section Focus

variable {κ ο' : Type*} [DecidableEq κ]

/-- A program on one element of a family of states, whose outputs are tagged. -/
def focus (key : κ) (tag : ο → ο') (program : Program σ ο ε α) : Program (κ → σ) ο' ε α :=
  fun states =>
    let outcome := program (states key)
    ⟨Function.update states key outcome.state,outcome.outputs.map tag,outcome.result⟩

@[simp] theorem focus_state_self (key : κ) (tag : ο → ο') (program : Program σ ο ε α)
    (states : κ → σ) :
    (focus key tag program states).state key=(program (states key)).state :=
  Function.update_self ..

theorem focus_state_of_ne {key other : κ} (h : other≠key) (tag : ο → ο')
    (program : Program σ ο ε α) (states : κ → σ) :
    (focus key tag program states).state other=states other :=
  Function.update_of_ne h ..

@[simp] theorem focus_outputs (key : κ) (tag : ο → ο') (program : Program σ ο ε α)
    (states : κ → σ) :
    (focus key tag program states).outputs=(program (states key)).outputs.map tag := rfl

/-- A program for every element of a list of keys, in order. -/
def focusEach (tag : κ → ο → ο') (program : κ → Program σ ο ε Unit) :
    List κ → Program (κ → σ) ο' ε Unit
  | [] => pure ()
  | key::keys => do
    focus key (tag key) (program key)
    focusEach tag program keys

variable {tag : κ → ο → ο'} {program : κ → Program σ ο ε Unit}

/-- Where the first program returns, the others follow. -/
theorem focusEach_cons (key : κ) (keys : List κ) {states : κ → σ}
    (h : Returns (program key) (states key)) :
    (focusEach tag program (key::keys) states).state=
        (focusEach tag program keys (focus key (tag key) (program key) states).state).state ∧
      (focusEach tag program (key::keys) states).outputs=
        (program key (states key)).outputs.map (tag key)++
          (focusEach tag program keys
            (focus key (tag key) (program key) states).state).outputs := by
  have hresult : (focus key (tag key) (program key) states).result=.ok () :=
    returns_unit.mp h
  rw [focusEach,bind_apply_of_result hresult]
  exact ⟨rfl,rfl⟩

/-- A key outside the list is left alone. -/
theorem focusEach_state_of_notMem (hreturns : ∀ key s, Returns (program key) s) {key : κ}
    {keys : List κ} (h : key∉keys) (states : κ → σ) :
    (focusEach tag program keys states).state key=states key := by
  induction keys generalizing states with
  | nil => rfl
  | cons first keys ih =>
    obtain ⟨hne,hrest⟩ := List.ne_and_not_mem_of_not_mem_cons h
    rw [(focusEach_cons first keys (hreturns _ _)).1,ih hrest,focus_state_of_ne hne]

/-- The state of a key in the list is the one its own program leaves. -/
theorem focusEach_state (hreturns : ∀ key s, Returns (program key) s) {key : κ} {keys : List κ}
    (hkeys : keys.Nodup) (h : key∈keys) (states : κ → σ) :
    (focusEach tag program keys states).state key=(program key (states key)).state := by
  induction keys generalizing states with
  | nil => cases h
  | cons first keys ih =>
    obtain ⟨hfirst,hrest⟩ := List.nodup_cons.mp hkeys
    rw [(focusEach_cons first keys (hreturns _ _)).1]
    rcases List.mem_cons.mp h with rfl|h
    · rw [focusEach_state_of_notMem hreturns hfirst,focus_state_self]
    · rw [ih hrest h,focus_state_of_ne (ne_of_mem_of_not_mem h hfirst)]

section Picked

variable {pick : ο' → Option ο} {key : κ}

/-- Of the tagged outputs of a key, those picked for one key are all or none. -/
theorem filterMap_map_tag
    (hpick : ∀ other o, pick (tag other o)=if other=key then some o else none) (other : κ)
    (outputs : List ο) :
    (outputs.map (tag other)).filterMap pick=if other=key then outputs else [] := by
  rw [List.filterMap_map]
  by_cases ho : other=key <;> simp [hpick,ho]

/-- A key outside the list has no outputs. -/
theorem focusEach_outputs_of_notMem (hreturns : ∀ key s, Returns (program key) s)
    (hpick : ∀ other o, pick (tag other o)=if other=key then some o else none) {keys : List κ}
    (h : key∉keys) (states : κ → σ) :
    (focusEach tag program keys states).outputs.filterMap pick=[] := by
  induction keys generalizing states with
  | nil => rfl
  | cons first keys ih =>
    obtain ⟨hne,hrest⟩ := List.ne_and_not_mem_of_not_mem_cons h
    rw [(focusEach_cons first keys (hreturns _ _)).2,List.filterMap_append,
      filterMap_map_tag hpick,if_neg (Ne.symm hne),ih hrest,List.nil_append]

/-- The outputs for a key in the list are those of its own program, when the
tags tell the keys apart. -/
theorem focusEach_outputs (hreturns : ∀ key s, Returns (program key) s)
    (hpick : ∀ other o, pick (tag other o)=if other=key then some o else none) {keys : List κ}
    (hkeys : keys.Nodup) (h : key∈keys) (states : κ → σ) :
    (focusEach tag program keys states).outputs.filterMap pick=
      (program key (states key)).outputs := by
  induction keys generalizing states with
  | nil => cases h
  | cons first keys ih =>
    obtain ⟨hfirst,hrest⟩ := List.nodup_cons.mp hkeys
    rw [(focusEach_cons first keys (hreturns _ _)).2,List.filterMap_append,
      filterMap_map_tag hpick]
    rcases List.mem_cons.mp h with rfl|h
    · rw [if_pos rfl,focusEach_outputs_of_notMem hreturns hpick hfirst,List.append_nil]
    · have hne := ne_of_mem_of_not_mem h hfirst
      rw [if_neg (Ne.symm hne),List.nil_append,ih hrest h,focus_state_of_ne hne]

end Picked

end Focus

end AtlasAgent.ProgramFrames
