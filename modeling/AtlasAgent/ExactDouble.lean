import Mathlib.Algebra.Order.Field.Rat
import Mathlib.Tactic.NormNum

/-!
# Doubles with exact arithmetic and a mark for division by zero

The value of a double computation is taken as the exact rational it rounds.
A division by zero gives an infinity or a NaN in the program; here it gives
the one value that is not a number, so that it cannot be mistaken for one.
-/

namespace AtlasAgent.ExactDouble

/-- A double that is a number, or the result of a division by zero. -/
inductive Double
  | finite (value : ℚ)
  | nonFinite
  deriving DecidableEq

/-- Division of two finite doubles. -/
def divide (numerator denominator : ℚ) : Double :=
  if denominator=0 then .nonFinite else .finite (numerator/denominator)

/-- A number between the two bounds, which no division by zero gives. -/
def Double.Between (value : Double) (low high : ℚ) : Prop :=
  ∃ q,value=.finite q ∧ low≤q ∧ q≤high

/-- A quotient is a number exactly when its divisor is not zero. -/
theorem divide_eq_finite_iff {numerator denominator q : ℚ} :
    divide numerator denominator=.finite q ↔ denominator≠0 ∧ numerator/denominator=q := by
  unfold divide
  split <;> simp_all

/-- A percentage of two amounts that are not negative is between 0 and 100
exactly when the divisor is positive and not below the dividend. -/
theorem percentage_between_iff {part whole : ℚ} (hpart : 0≤part) (hwhole : 0≤whole) :
    (divide (100*part) whole).Between 0 100 ↔ 0<whole ∧ part≤whole := by
  unfold Double.Between
  constructor
  · rintro ⟨q,hq,-,hle⟩
    obtain ⟨hne,rfl⟩ := divide_eq_finite_iff.mp hq
    have hpos : 0<whole := lt_of_le_of_ne hwhole (Ne.symm hne)
    rw [div_le_iff₀ hpos] at hle
    exact ⟨hpos,le_of_mul_le_mul_left hle (by norm_num)⟩
  · rintro ⟨hpos,hle⟩
    refine ⟨100*part/whole,divide_eq_finite_iff.mpr ⟨hpos.ne',rfl⟩,?_,?_⟩
    · exact div_nonneg (mul_nonneg (by norm_num) hpart) hwhole
    · rw [div_le_iff₀ hpos]
      exact mul_le_mul_of_nonneg_left hle (by norm_num)

end AtlasAgent.ExactDouble
