import Mathlib.Data.Nat.Init
import Mathlib.Data.List.Range

/-!
# Attempts that are repeated a bounded number of times

Attempts are numbered in their order. After an attempt that asks for it, and
while some are left, another one follows; the attempt that none follows is
the last one.
-/

namespace AtlasAgent.BoundedRetry

variable (wants : ℕ → Prop) [DecidablePred wants]

/-- The last attempt of those that begin with the given one, with some left after it. -/
def lastAttempt : ℕ → ℕ → ℕ
  | 0,attempt => attempt
  | left+1,attempt => if wants attempt then lastAttempt left (attempt+1) else attempt

/-- The attempts made. -/
def made (left attempt : ℕ) : List ℕ :=
  List.range' attempt (lastAttempt wants left attempt+1-attempt)

theorem le_lastAttempt (left attempt : ℕ) : attempt ≤ lastAttempt wants left attempt := by
  induction left generalizing attempt with
  | zero => exact le_rfl
  | succ left ih =>
    rw [lastAttempt]
    split
    · exact (Nat.le_succ attempt).trans (ih (attempt+1))
    · exact le_rfl

theorem lastAttempt_le (left attempt : ℕ) : lastAttempt wants left attempt≤attempt+left := by
  induction left generalizing attempt with
  | zero => exact le_rfl
  | succ left ih =>
    rw [lastAttempt]
    split
    · have hnext := ih (attempt+1)
      omega
    · omega

/-- Another attempt follows exactly when one is left and the attempt asks for it. -/
theorem lt_lastAttempt_iff {left attempt k : ℕ} (hk : attempt≤k)
    (hlast : k≤lastAttempt wants left attempt) :
    k<lastAttempt wants left attempt ↔ k<attempt+left ∧ wants k := by
  induction left generalizing attempt with
  | zero =>
    rw [lastAttempt] at hlast ⊢
    omega
  | succ left ih =>
    rw [lastAttempt] at hlast ⊢
    by_cases hwants : wants attempt
    · rw [if_pos hwants] at hlast ⊢
      rcases hk.eq_or_lt with rfl|hlt
      · have hle := le_lastAttempt wants left (attempt+1)
        exact ⟨fun _ => ⟨by omega,hwants⟩,fun _ => by omega⟩
      · rw [ih hlt hlast]
        exact and_congr_left' (by omega)
    · rw [if_neg hwants] at hlast ⊢
      obtain rfl : k=attempt := le_antisymm hlast hk
      exact ⟨fun h => absurd h (lt_irrefl _),fun h => absurd h.2 hwants⟩

/-- An attempt that another one follows comes before those that follow. -/
theorem made_of_wants {left attempt : ℕ} (h : wants attempt) :
    made wants (left+1) attempt=attempt::made wants left (attempt+1) := by
  have hle := le_lastAttempt wants left (attempt+1)
  rw [made,made,lastAttempt,if_pos h]
  have hcount : lastAttempt wants left (attempt+1)+1-attempt=
      lastAttempt wants left (attempt+1)+1-(attempt+1)+1 := by omega
  rw [hcount,List.range'_succ]

/-- The last attempt comes alone. -/
theorem made_of_last {left attempt : ℕ} (h : lastAttempt wants left attempt=attempt) :
    made wants left attempt=[attempt] := by
  rw [made,h,Nat.add_sub_cancel_left]
  rfl

end AtlasAgent.BoundedRetry
