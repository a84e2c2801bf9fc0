import Mathlib.Algebra.Order.Group.Int
import Mathlib.Algebra.Ring.Int.Parity
import Mathlib.Tactic.Linarith
import Mathlib.Tactic.Ring

/-!
# Deadlines that catch up one period at a time

A periodic job keeps its next deadline. Whenever a clock reading has reached
the deadline the job runs once and the deadline moves on by one period, so a
job that has fallen behind runs at every reading until it has caught up. Two
such jobs read the same clock, one with a period that divides the other's.
No assumption is made on the readings: they may stall or step backward.
-/

namespace AtlasAgent.PeriodicDeadlines

/-- A deadline reached by the reading moves on by one period. -/
def advance (period deadline reading : ℤ) : ℤ :=
  if deadline ≤ reading then deadline+period else deadline

@[simp] theorem advance_of_due {period deadline reading : ℤ} (h : deadline ≤ reading) :
    advance period deadline reading=deadline+period := if_pos h

@[simp] theorem advance_of_not_due {period deadline reading : ℤ} (h : ¬deadline ≤ reading) :
    advance period deadline reading=deadline := if_neg h

/-- The fast deadline is never past the slow one, and whole fast periods
separate the two. -/
structure Aligned (period fast slow : ℤ) : Prop where
  /-- The fast job is never scheduled after the slow one. -/
  le : fast ≤ slow
  /-- The fast job will land on the slow deadline exactly. -/
  dvd : period∣slow-fast

/-- A reading that has reached the slow deadline has reached the fast one. -/
theorem Aligned.due {period fast slow reading : ℤ} (h : Aligned period fast slow)
    (hdue : slow ≤ reading) : fast ≤ reading := h.le.trans hdue

/-- When only the fast deadline is reached, a whole fast period still fits
before the slow one. -/
theorem Aligned.add_period_le {period fast slow : ℤ} (h : Aligned period fast slow)
    (hlt : fast<slow) : fast+period ≤ slow := by
  have hp := Int.le_of_dvd (by omega) h.dvd
  omega

/-- One reading keeps the two deadlines aligned, whatever its value and
however far either job has fallen behind. -/
theorem Aligned.advance {period fast slow : ℤ} {factor : ℕ} (hperiod : 0<period)
    (hfactor : 0<factor) (h : Aligned period fast slow) (reading : ℤ) :
    Aligned period (advance period fast reading) (advance (factor*period) slow reading) := by
  have hle : period≤factor*period := by
    have hone : (1 : ℤ)≤factor := by exact_mod_cast hfactor
    nlinarith
  by_cases hslow : slow ≤ reading
  · rw [advance_of_due hslow,advance_of_due (h.due hslow)]
    refine ⟨by have hf := h.le; omega,?_⟩
    have hsplit : slow+factor*period-(fast+period)=(slow-fast)+period*(factor-1) := by ring
    rw [hsplit]
    exact Int.dvd_add h.dvd (Int.dvd_mul_right _ _)
  · rw [advance_of_not_due hslow]
    by_cases hfast : fast ≤ reading
    · rw [advance_of_due hfast]
      refine ⟨h.add_period_le (by omega),?_⟩
      have hsplit : slow-(fast+period)=(slow-fast)-period := by ring
      rw [hsplit]
      exact Int.dvd_sub h.dvd (Int.dvd_refl _)
    · rw [advance_of_not_due hfast]
      exact h

end AtlasAgent.PeriodicDeadlines
