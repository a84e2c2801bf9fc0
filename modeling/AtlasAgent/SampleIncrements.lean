import AtlasAgent.RunHistory
import Mathlib.Algebra.BigOperators.Group.List.Basic
import Mathlib.Algebra.Order.Group.Defs
import Mathlib.Tactic.Abel

/-!
# Increments between the samples of a level

A counter fed from a level hands out, at each sample, what the level has grown
by since the sample before. Only the samples count: inputs without one neither
lose nor repeat growth, and the increments of a run add up to the last sample
less the first. The first sample may hand out an opening amount of its own.
-/

namespace AtlasAgent.SampleIncrements

open RunHistory

variable {σ ι ο M : Type*} [AddCommGroup M]

/-- The increment handed out at a sample, given the baseline. -/
def incrementOf (opening : Option M) : Option M → Option M → Option M
  | _,none => none
  | none,some _ => opening
  | some baseline,some sample => some (sample-baseline)

/-- The increments handed out at consecutive samples. -/
def incrementsOf (opening baseline : Option M) : List M → List M
  | [] => []
  | sample::samples =>
    (incrementOf opening baseline (some sample)).toList++incrementsOf opening (some sample) samples

/-- What all increments of a run from no baseline add up to. -/
def growthOf (opening : Option M) : List M → M
  | [] => 0
  | first::rest => opening.getD 0+((first::rest).getLast (List.cons_ne_nil first rest)-first)

/-- From a baseline, the increments add up to the distance to the last sample. -/
theorem sum_incrementsOf_some (opening : Option M) (baseline : M) (samples : List M) :
    (incrementsOf opening (some baseline) samples).sum=
      (baseline::samples).getLast (List.cons_ne_nil baseline samples)-baseline := by
  induction samples generalizing baseline with
  | nil => simp [incrementsOf]
  | cons sample samples ih =>
    rw [incrementsOf,List.sum_append,ih,List.getLast_cons (List.cons_ne_nil sample samples)]
    simp only [incrementOf,Option.toList_some,List.sum_singleton]
    abel

/-- From no baseline, they add up to the growth over the samples. -/
theorem sum_incrementsOf_none (opening : Option M) (samples : List M) :
    (incrementsOf opening none samples).sum=growthOf opening samples := by
  cases samples with
  | nil => rfl
  | cons first rest =>
    rw [incrementsOf,List.sum_append,sum_incrementsOf_some]
    cases opening <;> simp [incrementOf,growthOf]

/-- The increments of a run are those between its samples, when every step
hands out the increment of its own sample and keeps it as the baseline. How an
increment is written in an output is up to the component. -/
theorem filterMap_runOutput {N : Type*} {step : σ → ι → σ×List ο} {Ok : σ → ι → Prop}
    {amount : ο → Option N} (written : M → N) {opening : Option M} (baseline : σ → Option M)
    (sample : ι → Option M)
    (hkept : ∀ s input, Ok s input → baseline (step s input).1=(sample input).or (baseline s))
    (hhanded : ∀ s input, Ok s input → (step s input).2.filterMap amount=
      (incrementOf opening (baseline s) (sample input)).toList.map written)
    {s : σ} {history : List ι} (hm : Meets step Ok s history) :
    (runOutput step s history).filterMap amount=
      (incrementsOf opening (baseline s) (history.filterMap sample)).map written := by
  induction history generalizing s with
  | nil => rfl
  | cons input history ih =>
    rw [runOutput_cons,List.filterMap_append,hhanded s input hm.1,ih hm.2,hkept s input hm.1]
    cases hs : sample input with
    | none => simp [hs,incrementOf]
    | some x => simp [hs,incrementsOf]

variable [LinearOrder M] [IsOrderedAddMonoid M]

/-- Samples that never decrease have increments that are not negative, if the
opening amount is not. -/
theorem incrementsOf_nonneg {opening : Option M} (hopening : ∀ amount∈opening,0≤amount)
    {baseline : Option M} {samples : List M} (hmono : (baseline.toList++samples).Pairwise (·≤·)) :
    ∀ amount∈incrementsOf opening baseline samples,0≤amount := by
  induction samples generalizing baseline with
  | nil => simp [incrementsOf]
  | cons sample samples ih =>
    intro amount hamount
    obtain ⟨hhead,hrest,hcross⟩ := List.pairwise_append.mp hmono
    rcases List.mem_append.mp hamount with ha|ha
    · cases baseline with
      | none => exact hopening amount (Option.mem_toList.mp ha)
      | some b =>
        obtain rfl : amount=sample-b := by simpa [incrementOf] using ha
        exact sub_nonneg.mpr (hcross b (by simp) sample (by simp))
    · have hnext : ((some sample).toList++samples).Pairwise (·≤·) := hrest
      exact ih hnext amount ha

omit [IsOrderedAddMonoid M] in
/-- The same for samples whose order is only known step by step, against the
baseline of the state before. -/
theorem incrementsOf_run_nonneg {step : σ → ι → σ×List ο} {Ok : σ → ι → Prop}
    {opening : Option M} {baseline : σ → Option M} {sample : ι → Option M}
    (hkept : ∀ s input, Ok s input → baseline (step s input).1=(sample input).or (baseline s))
    (hstep : ∀ s input, Ok s input →
      ∀ amount∈incrementOf opening (baseline s) (sample input),0≤amount)
    {s : σ} {history : List ι} (hm : Meets step Ok s history) :
    ∀ amount∈incrementsOf opening (baseline s) (history.filterMap sample),0≤amount := by
  induction history generalizing s with
  | nil => simp [incrementsOf]
  | cons input history ih =>
    have hfirst := hstep s input hm.1
    have hrest := ih hm.2
    rw [hkept s input hm.1] at hrest
    cases hs : sample input with
    | none => simpa [hs] using hrest
    | some x =>
      rw [hs] at hfirst hrest
      intro amount hamount
      simp only [List.filterMap_cons,hs,incrementsOf] at hamount
      rcases List.mem_append.mp hamount with ha|ha
      · exact hfirst amount (Option.mem_toList.mp ha)
      · exact hrest amount ha

end AtlasAgent.SampleIncrements
