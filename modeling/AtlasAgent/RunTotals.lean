import AtlasAgent.RunHistory
import Mathlib.Algebra.BigOperators.Group.List.Basic
import Mathlib.Algebra.Order.Group.Defs
import Mathlib.Algebra.Order.Monoid.Unbundled.Basic
import Mathlib.Tactic.Abel

/-!
# What a run hands out against the growth it has seen

A component that turns a level into increments keeps the level it accounted
for last. If no step hands out more than the growth of the level, neither
does the run, and the run hands out exactly the growth if and only if every
single step does: a shortfall is never made up later.
-/

namespace AtlasAgent.RunTotals

open RunHistory

variable {σ ι ο M : Type*} [AddCommGroup M]

/-- Sum of the amounts of a list of outputs. -/
def total (amount : ο → M) (outputs : List ο) : M := (outputs.map amount).sum

variable {step : σ → ι → σ×List ο} {amount : ο → M} {level : σ → M} {Ok : σ → ι → Prop}

@[simp] theorem total_nil : total amount []=0 := rfl

/-- Amounts of consecutive outputs add up. -/
theorem total_append (earlier later : List ο) :
    total amount (earlier++later)=total amount earlier+total amount later := by
  rw [total,List.map_append,List.sum_append,total,total]

/-- Outputs of a kind are counted by handing out one for each. -/
theorem total_indicator (kind : ο → Bool) (outputs : List ο) :
    total (fun o => if kind o=true then (1 : ℤ) else 0) outputs=outputs.countP kind := by
  induction outputs with
  | nil => rfl
  | cons o outputs ih =>
    have hcons : total (fun o => if kind o=true then (1 : ℤ) else 0) (o::outputs)=
        (if kind o=true then 1 else 0)+
          total (fun o => if kind o=true then (1 : ℤ) else 0) outputs :=
      List.sum_cons
    rw [hcons,ih,List.countP_cons]
    split <;> omega

/-- A step hands out exactly the growth of the level. -/
def HandsOutGrowth (amount : ο → M) (level : σ → M) (step : σ → ι → σ×List ο)
    (s : σ) (input : ι) : Prop :=
  total amount (step s input).2=level (step s input).1-level s

variable [LinearOrder M] [IsOrderedAddMonoid M]

/-- No run hands out more than the growth of the level over the run. -/
theorem total_run_le
    (hstep : ∀ s input,Ok s input → total amount (step s input).2≤level (step s input).1-level s)
    {s : σ} {history : List ι} (hm : Meets step Ok s history) :
    total amount (runOutput step s history)≤level (runState step s history)-level s := by
  induction history generalizing s with
  | nil => simp
  | cons input history ih =>
    have hfirst := hstep s input hm.1
    have hrest := ih hm.2
    rw [runOutput_cons,total_append,runState_cons]
    have hsum := add_le_add hfirst hrest
    rwa [show level (step s input).1-level s+
      (level (runState step (step s input).1 history)-level (step s input).1)=
        level (runState step (step s input).1 history)-level s by abel] at hsum

/-- A run hands out the whole growth exactly when each of its steps does. -/
theorem total_run_eq_iff (amount : ο → M) (level : σ → M)
    (hstep : ∀ s input,Ok s input → total amount (step s input).2≤level (step s input).1-level s)
    {s : σ} {history : List ι} (hm : Meets step Ok s history) :
    total amount (runOutput step s history)=level (runState step s history)-level s ↔
      Meets step (HandsOutGrowth amount level step) s history := by
  induction history generalizing s with
  | nil => simp
  | cons input history ih =>
    have hfirst := hstep s input hm.1
    have hrest := total_run_le hstep hm.2
    have hgrowth : level (runState step (step s input).1 history)-level s=
        (level (step s input).1-level s)+
          (level (runState step (step s input).1 history)-level (step s input).1) := by abel
    rw [runOutput_cons,total_append,runState_cons,meets_cons,←ih hm.2,HandsOutGrowth,hgrowth,
      add_eq_add_iff_eq_and_eq hfirst hrest]

end AtlasAgent.RunTotals
