import Mathlib.Algebra.Order.Floor.Ring
import Mathlib.Data.Int.Log
import Mathlib.Data.Rat.Floor
import Mathlib.Tactic.Linarith

/-!
# Rounding to a number of significant bits

A positive rational is written with a fixed number of significant bits by
dividing it by the weight of its last bit and rounding the quotient to the
nearest integer, a tie going to the even one. Exponents have no bounds here,
so this is IEEE arithmetic for as long as nothing overflows or is subnormal.
The rules tell when a rounded value stays below a bound without computing it.
-/

namespace AtlasAgent.NearestEven

/-- The nearest integer, the even one of two. -/
def nearestInt (x : ℚ) : ℤ :=
  if x-⌊x⌋<1/2 ∨ x-⌊x⌋=1/2 ∧ ⌊x⌋%2=0 then ⌊x⌋ else ⌊x⌋+1

/-- The weight of the last of the significant bits. -/
def lastBit (bits : ℕ) (x : ℚ) : ℚ := 2^(Int.log 2 x+1-bits)

/-- A rational with so many significant bits. -/
def roundBits (bits : ℕ) (x : ℚ) : ℚ := nearestInt (x/lastBit bits x)*lastBit bits x

/-- The integer is the floor or the next one. -/
theorem floor_le_nearestInt (x : ℚ) : ⌊x⌋≤nearestInt x ∧ nearestInt x≤⌊x⌋+1 := by
  rw [nearestInt]
  split <;> omega

theorem nearestInt_intCast (n : ℤ) : nearestInt n=n := by
  rw [nearestInt,Int.floor_intCast,sub_self,if_pos (Or.inl (by norm_num))]

/-- An even integer is reached from a half below it and not passed up to a half
above it. -/
theorem nearestInt_le_even_iff {n : ℤ} (heven : n%2=0) (x : ℚ) :
    nearestInt x≤n ↔ x≤n+1/2 := by
  have hfloor := Int.floor_le x
  have hnext := Int.lt_floor_add_one x
  have hbetween := floor_le_nearestInt x
  rcases lt_trichotomy ⌊x⌋ n with hlt|heq|hgt
  · have hcast : (⌊x⌋ : ℚ)+1≤n := by exact_mod_cast hlt
    exact iff_of_true (by omega) (by linarith)
  · have hcast : (⌊x⌋ : ℚ)=n := by exact_mod_cast heq
    rw [nearestInt,heq,hcast.symm]
    split
    · next h => exact iff_of_true le_rfl (by rcases h with h|h <;> linarith)
    · next h =>
      rw [not_or,not_lt,not_and] at h
      refine iff_of_false (by omega) fun hle => ?_
      exact h.2 (le_antisymm (by linarith) h.1) heven
  · have hcast : (n : ℚ)+1≤⌊x⌋ := by exact_mod_cast hgt
    exact iff_of_false (by omega) (by linarith)

theorem nearestInt_mono {x y : ℚ} (h : x≤y) : nearestInt x≤nearestInt y := by
  have hfloors := Int.floor_le_floor h
  rcases hfloors.eq_or_lt with heq|hlt
  · have hcast : (⌊x⌋ : ℚ)=⌊y⌋ := by exact_mod_cast heq
    by_cases hdown : y-⌊y⌋<1/2 ∨ y-⌊y⌋=1/2 ∧ ⌊y⌋%2=0
    · have hdown' : x-⌊x⌋<1/2 ∨ x-⌊x⌋=1/2 ∧ ⌊x⌋%2=0 := by
        rw [hcast,heq]
        rcases hdown with hdown|⟨hhalf,heven⟩
        · exact Or.inl (by linarith)
        · rcases h.eq_or_lt with rfl|hlt
          · exact Or.inr ⟨hhalf,heven⟩
          · exact Or.inl (by linarith)
      rw [nearestInt,nearestInt,if_pos hdown,if_pos hdown']
      exact hfloors
    · rw [nearestInt.eq_1 y,if_neg hdown,←heq]
      exact (floor_le_nearestInt x).2
  · have hx := (floor_le_nearestInt x).2
    have hy := (floor_le_nearestInt y).1
    omega

theorem lastBit_pos (bits : ℕ) (x : ℚ) : 0<lastBit bits x := zpow_pos (by norm_num) _

/-- In units of the last bit a number has the given number of bits. -/
theorem div_lastBit_bounds (bits : ℕ) {x : ℚ} (hx : 0<x) :
    (2 : ℚ)^bits≤2*(x/lastBit bits x) ∧ x/lastBit bits x<2^bits := by
  have hlow := Int.zpow_log_le_self one_lt_two hx
  have hhigh := Int.lt_zpow_succ_log_self one_lt_two x
  have hsplit : (2 : ℚ)^bits*lastBit bits x=2^(Int.log 2 x+1) := by
    rw [lastBit,←zpow_natCast,←zpow_add₀ (by norm_num)]
    congr 1
    omega
  rw [Nat.cast_ofNat] at hlow hhigh
  rw [zpow_add_one₀ (by norm_num)] at hsplit hhigh
  constructor
  · rw [←mul_div_assoc,le_div_iff₀ (lastBit_pos bits x),hsplit]
    linarith
  · rw [div_lt_iff₀ (lastBit_pos bits x),hsplit]
    exact hhigh

/-- A rounded number stays between the same two powers of two. -/
theorem roundBits_bounds {bits : ℕ} (hbits : 0<bits) {x : ℚ} (hx : 0<x) :
    2^Int.log 2 x ≤ roundBits bits x ∧ roundBits bits x≤2^(Int.log 2 x+1) := by
  obtain ⟨bits,rfl⟩ := Nat.exists_eq_succ_of_ne_zero hbits.ne'
  obtain ⟨hlow,hhigh⟩ := div_lastBit_bounds (bits+1) hx
  have hunit : (2 : ℚ)^bits*lastBit (bits+1) x=2^Int.log 2 x := by
    rw [lastBit,←zpow_natCast,←zpow_add₀ (by norm_num)]
    congr 1
    push_cast
    ring
  have hpos := lastBit_pos (bits+1) x
  rw [pow_succ] at hlow hhigh
  have hdown : ((2^bits : ℤ) : ℚ)≤nearestInt (x/lastBit (bits+1) x) := by
    refine Int.cast_le.mpr ((nearestInt_intCast (2^bits)).ge.trans (nearestInt_mono ?_))
    push_cast
    linarith
  have hup : (nearestInt (x/lastBit (bits+1) x) : ℚ)≤((2^bits*2 : ℤ) : ℚ) := by
    refine Int.cast_le.mpr ((nearestInt_mono ?_).trans (nearestInt_intCast (2^bits*2)).le)
    push_cast
    exact hhigh.le
  push_cast at hdown hup
  rw [zpow_add_one₀ (by norm_num),←hunit,roundBits]
  constructor
  · exact mul_le_mul_of_nonneg_right hdown hpos.le
  · rw [mul_right_comm]
    exact mul_le_mul_of_nonneg_right hup hpos.le

theorem roundBits_pos {bits : ℕ} (hbits : 0<bits) {x : ℚ} (hx : 0<x) : 0 < roundBits bits x :=
  (zpow_pos (by norm_num) _).trans_le (roundBits_bounds hbits hx).1

theorem roundBits_zero (bits : ℕ) : roundBits bits 0=0 := by
  rw [roundBits,zero_div,←Int.cast_zero,nearestInt_intCast,Int.cast_zero,zero_mul]

/-- Rounding keeps the order of positive numbers. -/
theorem roundBits_mono {bits : ℕ} (hbits : 0<bits) {x y : ℚ} (hx : 0<x) (h : x≤y) :
    roundBits bits x ≤ roundBits bits y := by
  have hlog : Int.log 2 x≤Int.log 2 y := Int.log_mono_right hx h
  rcases hlog.eq_or_lt with heq|hlt
  · have hsame : lastBit bits x=lastBit bits y := by rw [lastBit,lastBit,heq]
    rw [roundBits,roundBits,hsame]
    have hpos := lastBit_pos bits y
    refine mul_le_mul_of_nonneg_right (Int.cast_le.mpr (nearestInt_mono ?_)) hpos.le
    exact div_le_div_of_nonneg_right h hpos.le
  · calc roundBits bits x≤2^(Int.log 2 x+1) := (roundBits_bounds hbits hx).2
      _ ≤ 2^Int.log 2 y := zpow_le_zpow_right₀ (by norm_num) hlt
      _ ≤ roundBits bits y := (roundBits_bounds hbits (hx.trans_le h)).1

/-- A number that has no more bits is its own rounding. -/
theorem roundBits_eq_self (bits : ℕ) {m : ℕ} (hm : m<2^bits) (e : ℤ) :
    roundBits bits (m*2^e)=m*2^e := by
  rcases m.eq_zero_or_pos with rfl|hpos
  · rw [Nat.cast_zero,zero_mul,roundBits_zero]
  · have hx : (0 : ℚ) < m*2^e := mul_pos (Nat.cast_pos.mpr hpos) (zpow_pos (by norm_num) e)
    have hlog : Int.log 2 ((m : ℚ)*2^e)<bits+e := by
      refine (Int.lt_zpow_iff_log_lt one_lt_two hx).mp ?_
      rw [Nat.cast_ofNat,zpow_add₀ (by norm_num),zpow_natCast]
      exact mul_lt_mul_of_pos_right (by exact_mod_cast hm) (zpow_pos (by norm_num) e)
    obtain ⟨k,hk⟩ : ∃ k : ℕ,e=Int.log 2 ((m : ℚ)*2^e)+1-bits+k :=
      ⟨(e-(Int.log 2 ((m : ℚ)*2^e)+1-bits)).toNat,by omega⟩
    have hunit : (m : ℚ)*2^e/lastBit bits (m*2^e)=((m*2^k : ℤ) : ℚ) := by
      rw [div_eq_iff (lastBit_pos _ _).ne',lastBit]
      push_cast
      rw [mul_assoc,←zpow_natCast,←zpow_add₀ (by norm_num)]
      congr 2
      omega
    rw [roundBits,hunit,nearestInt_intCast,←hunit,div_mul_cancel₀ _ (lastBit_pos _ _).ne']

theorem roundBits_natCast {bits m : ℕ} (hm : m<2^bits) : roundBits bits m=m := by
  have h := roundBits_eq_self bits hm 0
  rwa [zpow_zero,mul_one] at h

/-- What rounds to no more than a number whose last bit is zero: everything up
to half of the last bit above it. -/
theorem roundBits_le_even_iff (bits : ℕ) {n : ℤ} (heven : n%2=0) (hlow : 2^bits≤n)
    (hhigh : n<2^(bits+1)) (e : ℤ) {x : ℚ} (hx : 0<x) :
    roundBits (bits+1) x≤n*2^e ↔ x≤(n+1/2)*2^e := by
  have hpow : (0 : ℚ)<2^e := zpow_pos (by norm_num) e
  have hlow' : (2 : ℚ)^((bits : ℤ)+e)≤n*2^e := by
    rw [zpow_add₀ (by norm_num),zpow_natCast]
    exact mul_le_mul_of_nonneg_right (by exact_mod_cast hlow) hpow.le
  have hhigh' : ((n : ℚ)+1)*2^e≤2^((bits : ℤ)+e+1) := by
    rw [add_right_comm,zpow_add₀ (by norm_num)]
    exact mul_le_mul_of_nonneg_right (by exact_mod_cast hhigh) hpow.le
  have hbounds := roundBits_bounds bits.succ_pos hx
  rcases lt_trichotomy (Int.log 2 x) (bits+e) with hlt|heq|hgt
  · have hle : (2 : ℚ)^(Int.log 2 x+1)≤2^((bits : ℤ)+e) :=
      zpow_le_zpow_right₀ (by norm_num) hlt
    have hbelow := Int.lt_zpow_succ_log_self one_lt_two x
    rw [Nat.cast_ofNat] at hbelow
    exact iff_of_true (hbounds.2.trans (hle.trans hlow')) (by linarith)
  · have hunit : lastBit (bits+1) x=2^e := by
      rw [lastBit,heq]
      congr 1
      push_cast
      ring
    rw [roundBits,hunit,mul_le_mul_iff_of_pos_right hpow,Int.cast_le,
      nearestInt_le_even_iff heven,div_le_iff₀ hpow]
  · have hle : (2 : ℚ)^((bits : ℤ)+e+1)≤2^Int.log 2 x :=
      zpow_le_zpow_right₀ (by norm_num) hgt
    have habove := Int.zpow_log_le_self one_lt_two hx
    rw [Nat.cast_ofNat] at habove
    exact iff_of_false (by linarith) (by linarith)

end AtlasAgent.NearestEven
