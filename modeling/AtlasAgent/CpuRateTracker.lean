import AtlasAgent.LatestSample
import Mathlib.Algebra.Order.Field.Rat
import Mathlib.Algebra.Order.Group.Int

/-!
# CpuRateTracker

A tracker turns samples of a CPU-time counter into percentages of wall time.
It keeps the latest sample with the identity its counter belongs to, and every
update replaces it. Time is integer nanoseconds of steady_clock, counters do
not overflow, and doubles are exact rationals.
-/

namespace AtlasAgent.CpuRateTracker

open LatestSample

variable {Identity : Type}

/-- The arguments of one update. -/
structure CpuSample (Identity : Type) where
  id : Identity
  counterUs : ℕ
  now : ℤ
  deriving DecidableEq

/-- A tracker; without a baseline valid_ is false and the other members are
not read. -/
@[ext] structure Tracker (Identity : Type) where
  /-- id_, counterUs_ and at_. -/
  baseline : Option (CpuSample Identity)
  deriving DecidableEq

/-- A constructed tracker. -/
def Tracker.init : Tracker Identity := ⟨none⟩

/-- Whole microseconds from the first sample to the second. -/
def wallUs (earlier later : CpuSample Identity) : ℤ := (later.now-earlier.now).tdiv 1000

/-- CpuRateTracker::update. -/
def Tracker.update [DecidableEq Identity] (tracker : Tracker Identity)
    (sample : CpuSample Identity) : Tracker Identity×Option ℚ :=
  let pct := match tracker.baseline with
    | none => none
    | some baseline =>
      if sample.id=baseline.id ∧ baseline.counterUs ≤ sample.counterUs then
        if 0<wallUs baseline sample then
          some (100*((sample.counterUs-baseline.counterUs : ℕ) : ℚ)/wallUs baseline sample)
        else none
      else none
  (⟨some sample⟩,pct)

/-- A cycle with or without a sample; without one the tracker is not called. -/
def Tracker.offer [DecidableEq Identity] (tracker : Tracker Identity) :
    Option (CpuSample Identity) → Tracker Identity×Option ℚ
  | none => (tracker,none)
  | some sample => tracker.update sample

/-- The later sample closes an interval of the same counter that began at the
earlier one, and the value is the percentage of that interval. -/
structure ClosesInterval (earlier later : CpuSample Identity) (value : ℚ) : Prop where
  same_id : earlier.id=later.id
  counter_le : earlier.counterUs≤later.counterUs
  elapsed : 0<wallUs earlier later
  value_eq : value=100*((later.counterUs : ℚ)-earlier.counterUs)/wallUs earlier later

/-- The baseline becomes the sample, if there is one. -/
theorem offer_baseline [DecidableEq Identity] (tracker : Tracker Identity)
    (sample : Option (CpuSample Identity)) :
    (tracker.offer sample).1.baseline=sample.or tracker.baseline := by
  cases sample <;> rfl

/-- A percentage is returned exactly when a sample closes an interval with the
baseline. -/
theorem offer_snd_iff [DecidableEq Identity] {tracker : Tracker Identity}
    {sample : Option (CpuSample Identity)} {value : ℚ} :
    (tracker.offer sample).2=some value ↔ ∃ earlier later,tracker.baseline=some earlier ∧
      sample=some later ∧ ClosesInterval earlier later value := by
  cases sample with
  | none => simp [Tracker.offer]
  | some later =>
    rw [Tracker.offer,Tracker.update]
    cases tracker.baseline with
    | none => simp
    | some earlier =>
      dsimp only
      constructor
      · intro h
        split at h
        · next hsame =>
          split at h
          · next helapsed =>
            refine ⟨earlier,later,rfl,rfl,hsame.1.symm,hsame.2,helapsed,?_⟩
            rw [←Option.some.inj h,Nat.cast_sub hsame.2]
          · cases h
        · cases h
      · rintro ⟨_,_,⟨rfl⟩,⟨rfl⟩,hid,hcounter,helapsed,rfl⟩
        rw [if_pos ⟨hid.symm,hcounter⟩,if_pos helapsed,Nat.cast_sub hcounter]

end AtlasAgent.CpuRateTracker
