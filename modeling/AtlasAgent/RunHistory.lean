import Mathlib.Data.List.Basic
import Mathlib.Tactic.TypeStar

/-!
# Runs of a step function and what holds along them

A component is a state together with a step that consumes one input and
emits outputs in order. A history is the list of inputs consumed so far.
Conditions on a step read the state before it and its input, so a run meets
a condition without any reference to what the step computes. The rules here
are the only inductions over runs; a component supplies one-step facts.
-/

namespace AtlasAgent.RunHistory

variable {σ ι ο : Type*}

/-- State reached after every input of the history, consumed in order. -/
def runState (step : σ → ι → σ×List ο) (s : σ) : List ι → σ
  | [] => s
  | input::history => runState step (step s input).1 history

/-- Every output of the run, in the order of emission. -/
def runOutput (step : σ → ι → σ×List ο) (s : σ) : List ι → List ο
  | [] => []
  | input::history => (step s input).2++runOutput step (step s input).1 history

/-- Outputs of the one input that follows a history. -/
def outputAfter (step : σ → ι → σ×List ο) (s : σ) (history : List ι) (input : ι) : List ο :=
  (step (runState step s history) input).2

/-- The condition holds of the state before, and the input of, every step. -/
def Meets (step : σ → ι → σ×List ο) (Ok : σ → ι → Prop) (s : σ) : List ι → Prop
  | [] => True
  | input::history => Ok s input ∧ Meets step Ok (step s input).1 history

variable {step : σ → ι → σ×List ο} {s : σ}

@[simp] theorem runState_nil : runState step s []=s := rfl

@[simp] theorem runState_cons (input : ι) (history : List ι) :
    runState step s (input::history)=runState step (step s input).1 history := rfl

@[simp] theorem runOutput_nil : runOutput step s []=[] := rfl

@[simp] theorem runOutput_cons (input : ι) (history : List ι) :
    runOutput step s (input::history)=
      (step s input).2++runOutput step (step s input).1 history := rfl

@[simp] theorem meets_nil {Ok : σ → ι → Prop} : Meets step Ok s [] := trivial

@[simp] theorem meets_cons {Ok : σ → ι → Prop} (input : ι) (history : List ι) :
    Meets step Ok s (input::history) ↔ Ok s input ∧ Meets step Ok (step s input).1 history :=
  Iff.rfl

instance decidableMeets {Ok : σ → ι → Prop} [∀ s input,Decidable (Ok s input)] :
    ∀ s history,Decidable (Meets step Ok s history)
  | _,[] => .isTrue trivial
  | s,input::history =>
    have : Decidable (Meets step Ok (step s input).1 history) :=
      decidableMeets (step s input).1 history
    inferInstanceAs (Decidable (Ok s input ∧ Meets step Ok (step s input).1 history))

/-- A run over two histories continues from the state the first one reached. -/
theorem runState_append (before after : List ι) :
    runState step s (before++after)=runState step (runState step s before) after := by
  induction before generalizing s with
  | nil => rfl
  | cons input before ih => simp only [List.cons_append,runState_cons,ih]

/-- The last step of a history is taken from the state of the rest. -/
theorem runState_concat (history : List ι) (input : ι) :
    runState step s (history++[input])=(step (runState step s history) input).1 := by
  rw [runState_append,runState_cons,runState_nil]

/-- Outputs of two histories appear in the order of the histories. -/
theorem runOutput_append (before after : List ι) :
    runOutput step s (before++after)=
      runOutput step s before++runOutput step (runState step s before) after := by
  induction before generalizing s with
  | nil => rfl
  | cons input before ih =>
    simp only [List.cons_append,runOutput_cons,runState_cons,ih,List.append_assoc]

/-- The last input of a history adds exactly its own outputs. -/
theorem runOutput_concat (history : List ι) (input : ι) :
    runOutput step s (history++[input])=
      runOutput step s history++outputAfter step s history input := by
  rw [runOutput_append,runOutput_cons,runOutput_nil,List.append_nil,outputAfter]

/-- Every output belongs to one input and the history before that input. -/
theorem mem_runOutput {history : List ι} {o : ο} :
    o∈runOutput step s history ↔ ∃ before input after,
      history=before++input::after ∧ o∈outputAfter step s before input := by
  induction history generalizing s with
  | nil => simp [runOutput]
  | cons input history ih =>
    rw [runOutput_cons,List.mem_append,ih]
    constructor
    · rintro (ho|⟨before,other,after,rfl,ho⟩)
      · exact ⟨[],input,history,rfl,ho⟩
      · exact ⟨input::before,other,after,rfl,ho⟩
    · rintro ⟨before,other,after,hsplit,ho⟩
      cases before with
      | nil =>
        obtain ⟨rfl,rfl⟩ := List.cons.inj hsplit
        exact Or.inl ho
      | cons first before =>
        obtain ⟨rfl,rfl⟩ := List.cons.inj hsplit
        exact Or.inr ⟨before,other,after,rfl,ho⟩

/-- When each step emits exactly one output, cutting the outputs of a run at
one of them cuts its history at the input that emitted it. -/
theorem split_runOutput (emit : σ → ι → ο) (hone : ∀ s input, (step s input).2=[emit s input])
    {history : List ι} {earlier later : List ο} {o : ο}
    (h : runOutput step s history=earlier++o::later) :
    ∃ before input after, history=before++input::after ∧
      runOutput step s before=earlier ∧ emit (runState step s before) input=o := by
  induction history generalizing s earlier with
  | nil => simp at h
  | cons first history ih =>
    rw [runOutput_cons,hone,List.singleton_append] at h
    cases earlier with
    | nil => exact ⟨[],first,history,rfl,rfl,(List.cons.inj h).1⟩
    | cons head earlier =>
      obtain ⟨hhead,hrest⟩ := List.cons.inj h
      obtain ⟨before,input,after,rfl,hout,ho⟩ := ih hrest
      exact ⟨first::before,input,after,rfl,
        by rw [runOutput_cons,hone,hout,hhead,List.singleton_append],ho⟩

/-- A run meets a condition exactly when each of its steps does. -/
theorem meets_iff {Ok : σ → ι → Prop} {history : List ι} :
    Meets step Ok s history ↔ ∀ before input after, history=before++input::after →
      Ok (runState step s before) input := by
  induction history generalizing s with
  | nil => simp
  | cons first history ih =>
    rw [meets_cons,ih]
    constructor
    · rintro ⟨hfirst,hrest⟩ before input after hsplit
      cases before with
      | nil =>
        obtain ⟨rfl,rfl⟩ := List.cons.inj hsplit
        exact hfirst
      | cons head before =>
        obtain ⟨rfl,rfl⟩ := List.cons.inj hsplit
        exact hrest before input after rfl
    · intro h
      exact ⟨h [] first history rfl,
        fun before input after hsplit => h (first::before) input after (by rw [hsplit]; rfl)⟩

/-- Meeting a condition along two histories splits at the state between them. -/
theorem meets_append {Ok : σ → ι → Prop} (before after : List ι) :
    Meets step Ok s (before++after) ↔
      Meets step Ok s before ∧ Meets step Ok (runState step s before) after := by
  induction before generalizing s with
  | nil => simp
  | cons input before ih =>
    simp only [List.cons_append,meets_cons,runState_cons,ih,and_assoc]

/-- Invariant rule: what every step keeps holds after every run. -/
theorem invariant_every_run (Inv : σ → Prop)
    (hstep : ∀ s input, Inv s → Inv (step s input).1) (h0 : Inv s) (history : List ι) :
    Inv (runState step s history) := by
  induction history generalizing s with
  | nil => exact h0
  | cons input history ih => exact ih (hstep s input h0)

/-- Output rule: an invariant that makes each step's outputs good makes every
output of an allowed run good. -/
theorem output_run (Inv : σ → Prop) {Ok : σ → ι → Prop} (Good : ο → Prop) {history : List ι}
    (hstep : ∀ s input, Inv s → Ok s input → Inv (step s input).1)
    (hout : ∀ s input, Inv s → Ok s input → ∀ o∈(step s input).2,Good o)
    (h0 : Inv s) (hm : Meets step Ok s history) : ∀ o∈runOutput step s history,Good o := by
  induction history generalizing s with
  | nil => simp
  | cons input history ih =>
    intro o ho
    rcases List.mem_append.mp ho with ho|ho
    · exact hout s input h0 hm.1 o ho
    · exact ih (hstep s input h0 hm.1) hm.2 o ho

/-- Two conditions are met together exactly when each of them is met. -/
theorem meets_and {Ok Ok' : σ → ι → Prop} {history : List ι} :
    Meets step (fun s input => Ok s input ∧ Ok' s input) s history ↔
      Meets step Ok s history ∧ Meets step Ok' s history := by
  induction history generalizing s with
  | nil => simp
  | cons input history ih =>
    simp only [meets_cons,ih]
    exact and_and_and_comm

/-- A run that meets a condition also meets what an invariant and the inputs
add to it. -/
theorem meets_strengthen {Inv : σ → Prop} {Allowed : ι → Prop} {Ok : σ → ι → Prop}
    {history : List ι}
    (hstep : ∀ s input, Inv s → Allowed input → Ok s input → Inv (step s input).1) (h0 : Inv s)
    (hallowed : ∀ input∈history,Allowed input) (hm : Meets step Ok s history) :
    Meets step (fun s input => Inv s ∧ Allowed input ∧ Ok s input) s history := by
  induction history generalizing s with
  | nil => trivial
  | cons input history ih =>
    have hinput := hallowed input (by simp)
    exact ⟨⟨h0,hinput,hm.1⟩,ih (hstep s input h0 hinput hm.1)
      (fun later hl => hallowed later (List.mem_cons_of_mem input hl)) hm.2⟩

/-- Conditions that agree at every step allowed by a third one are met by the
same runs among those it allows. -/
theorem meets_congr {Allowed Ok Ok' : σ → ι → Prop} {history : List ι}
    (hiff : ∀ s input, Allowed s input → (Ok s input ↔ Ok' s input))
    (hm : Meets step Allowed s history) :
    Meets step Ok s history ↔ Meets step Ok' s history := by
  induction history generalizing s with
  | nil => exact Iff.rfl
  | cons input history ih =>
    rw [meets_cons,meets_cons,hiff s input hm.1,ih hm.2]

/-- Conditions that agree wherever an invariant holds are met by the same runs
from there, when the steps that meet the second one keep the invariant. -/
theorem meets_iff_of_invariant {Inv : σ → Prop} {Ok Ok' : σ → ι → Prop} {history : List ι}
    (hiff : ∀ s input,Inv s → (Ok s input ↔ Ok' s input))
    (hstep : ∀ s input,Inv s → Ok' s input → Inv (step s input).1) (h0 : Inv s) :
    Meets step Ok s history ↔ Meets step Ok' s history := by
  induction history generalizing s with
  | nil => exact Iff.rfl
  | cons input history ih =>
    rw [meets_cons,meets_cons,hiff s input h0]
    exact and_congr_right fun hok => ih (hstep s input h0 hok)

end AtlasAgent.RunHistory
