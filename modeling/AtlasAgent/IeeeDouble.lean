import Mathlib.Algebra.Order.Field.Rat
import Mathlib.Tactic.FieldSimp
import Mathlib.Tactic.NormNum
import Mathlib.Tactic.Ring

/-!
# Doubles with exact finite arithmetic, infinities and NaN

A finite double is the exact rational it rounds. The special values follow the
rules of the standard, with one zero only: a quotient by zero is an infinity
of the dividend's sign, or NaN for a dividend of zero.
-/

namespace AtlasAgent.IeeeDouble

/-- A double. -/
inductive Ieee
  | finite (value : ℚ)
  | infinite (negative : Bool)
  | nan
  deriving DecidableEq

namespace Ieee

/-- Change of sign. -/
def neg : Ieee → Ieee
  | finite a => finite (-a)
  | infinite negative => infinite !negative
  | nan => nan

/-- Sum; infinities of opposite signs have none. -/
def add : Ieee → Ieee → Ieee
  | finite a,finite b => finite (a+b)
  | infinite m,infinite n => if m=n then infinite m else nan
  | infinite m,finite _ => infinite m
  | finite _,infinite n => infinite n
  | nan,_ => nan
  | _,nan => nan

/-- Difference. -/
def sub (a b : Ieee) : Ieee := add a (neg b)

/-- Product of an infinity of the given sign and a finite value. -/
def scaleInfinite (negative : Bool) (b : ℚ) : Ieee :=
  if b=0 then nan else infinite (negative ^^ decide (b<0))

/-- Product. -/
def mul : Ieee → Ieee → Ieee
  | finite a,finite b => finite (a*b)
  | infinite m,infinite n => infinite (m ^^ n)
  | infinite m,finite b => scaleInfinite m b
  | finite a,infinite n => scaleInfinite n a
  | nan,_ => nan
  | _,nan => nan

/-- Quotient. -/
def div : Ieee → Ieee → Ieee
  | finite a,finite b =>
    if b=0 then (if a=0 then nan else infinite (decide (a<0))) else finite (a/b)
  | finite _,infinite _ => finite 0
  | infinite m,finite b => infinite (m ^^ decide (b<0))
  | infinite _,infinite _ => nan
  | nan,_ => nan
  | _,nan => nan

/-- The comparison a < b, false for NaN. -/
def less : Ieee → Ieee → Bool
  | finite a,finite b => decide (a<b)
  | infinite m,infinite n => m && !n
  | infinite m,finite _ => m
  | finite _,infinite n => !n
  | nan,_ => false
  | _,nan => false

/-- The number a double is, if it is one. -/
def number : Ieee → Option ℚ
  | finite q => some q
  | _ => none

instance : Add Ieee := ⟨add⟩
instance : Sub Ieee := ⟨sub⟩
instance : Mul Ieee := ⟨mul⟩
instance : Div Ieee := ⟨div⟩
instance : Zero Ieee := ⟨finite 0⟩

@[simp] theorem finite_add (a b : ℚ) : finite a+finite b=finite (a+b) := rfl

@[simp] theorem finite_sub (a b : ℚ) : finite a-finite b=finite (a-b) :=
  congrArg finite (sub_eq_add_neg a b).symm

@[simp] theorem finite_mul (a b : ℚ) : finite a*finite b=finite (a*b) := rfl

/-- A quotient of finite values by anything but zero is finite. -/
theorem finite_div {a b : ℚ} (hb : b≠0) : finite a/finite b=finite (a/b) := if_neg hb

@[simp] theorem number_finite (q : ℚ) : (finite q).number=some q := rfl

theorem number_eq_some {a : Ieee} {q : ℚ} : a.number=some q ↔ a=finite q := by
  cases a <;> simp [number]

@[simp] theorem zero_eq_finite : (0 : Ieee)=finite 0 := rfl

@[simp] theorem finite_less (a b : ℚ) : less (finite a) (finite b)=true ↔ a<b :=
  decide_eq_true_iff

/-- A value above zero is a positive number or the positive infinity. -/
theorem zero_less_iff {a : Ieee} :
    less 0 a=true ↔ (∃ q,a=finite q ∧ 0<q) ∨ a=infinite false := by
  cases a with
  | finite q => simp
  | infinite negative => cases negative <;> simp [less]
  | nan => simp [less]

/-- An infinity keeps its sign under a positive factor. -/
theorem scaleInfinite_of_pos {q : ℚ} (hq : 0<q) (negative : Bool) :
    scaleInfinite negative q=infinite negative := by
  simp [scaleInfinite,hq.ne',hq.not_gt]

/-- A positive factor on either side leaves an infinity as it is. -/
theorem finite_mul_infinite {q : ℚ} (hq : 0<q) (negative : Bool) :
    finite q*infinite negative=infinite negative := scaleInfinite_of_pos hq negative

theorem infinite_mul_finite {q : ℚ} (hq : 0<q) (negative : Bool) :
    infinite negative*finite q=infinite negative := scaleInfinite_of_pos hq negative

/-- Only the sign of the finite factor matters to an infinity. -/
theorem scaleInfinite_div {c : ℚ} (hc : 0<c) (negative : Bool) (q : ℚ) :
    scaleInfinite negative (q/c)=scaleInfinite negative q := by
  have hneg : q/c<0 ↔ q<0 := by rw [div_lt_iff₀ hc,zero_mul]
  simp only [scaleInfinite,div_eq_zero_iff,hc.ne',or_false,hneg]

/-- A positive number divided out of one factor may be put into the other. -/
theorem div_mul_mul_cancel {p : ℚ} (hp : 0<p) (t : ℚ) (a : Ieee) :
    finite t/finite p*(finite p*a)=a*finite t := by
  rw [finite_div hp.ne']
  cases a with
  | finite c =>
    simp only [finite_mul]
    congr 1
    field_simp
  | infinite negative =>
    rw [finite_mul_infinite hp]
    exact scaleInfinite_div hp negative t
  | nan => rfl

/-- A positive factor of a quotient may be applied before the division. -/
theorem div_mul_of_pos {c : ℚ} (hc : 0<c) (a b : Ieee) :
    a/b*finite c=finite c*a/b := by
  cases a with
  | nan => rfl
  | infinite m =>
    rw [finite_mul_infinite hc]
    cases b with
    | nan => rfl
    | infinite n => rfl
    | finite q => exact infinite_mul_finite hc (m ^^ decide (q<0))
  | finite r =>
    rw [finite_mul]
    cases b with
    | nan => rfl
    | infinite n =>
      change finite 0*finite c=finite 0
      rw [finite_mul,zero_mul]
    | finite q =>
      by_cases hq : q=0
      · subst hq
        change div (finite r) (finite 0)*finite c=div (finite (c*r)) (finite 0)
        by_cases hr : r=0
        · subst hr
          simp [div]
          rfl
        · have hsign : c*r<0 ↔ r<0 := mul_neg_iff.trans (by simp [hc,hc.not_gt])
          simp only [div,if_true,if_neg hr,if_neg (mul_ne_zero hc.ne' hr),hsign,
            infinite_mul_finite hc]
      · rw [finite_div hq,finite_div hq,finite_mul]
        congr 1
        ring

/-- A product with a finite value other than zero is zero for zero only. -/
theorem mul_finite_ne_zero {a : Ieee} {q : ℚ} (ha : a≠0) (hq : q≠0) : a*finite q≠0 := by
  cases a with
  | finite c =>
    rw [finite_mul,zero_eq_finite,Ne,finite.injEq]
    have hc : c≠0 := fun h => ha (congrArg finite h)
    exact mul_ne_zero hc hq
  | infinite negative =>
    change scaleInfinite negative q≠finite 0
    simp [scaleInfinite,hq]
  | nan => exact Ieee.noConfusion

/-- A product of values above zero is above zero, and so is its denominator. -/
theorem zero_less_mul {a : Ieee} (ha : less 0 a=true) {q : ℚ} (hq : 0<q) :
    less 0 (a*finite q)=true := by
  rcases zero_less_iff.mp ha with ⟨c,rfl,hc⟩|rfl
  · rw [finite_mul,zero_eq_finite,finite_less]
    exact mul_pos hc hq
  · exact zero_less_iff.mpr (Or.inr (infinite_mul_finite hq false))

/-- A part that does not exceed the whole is no more than a hundred percent
of it. -/
theorem percentage_le_hundred {part whole : Ieee} (hwhole : less 0 whole=true)
    (h : less whole part=false) : less (finite 100) (finite 100*part/whole)=false := by
  rcases zero_less_iff.mp hwhole with ⟨w,rfl,hw⟩|rfl
  · cases part with
    | finite p =>
      have hle : p≤w := by
        by_contra hlt
        rw [(finite_less w p).mpr (not_le.mp hlt)] at h
        cases h
      rw [finite_mul,finite_div hw.ne',Bool.eq_false_iff,Ne,finite_less,not_lt,div_le_iff₀ hw]
      exact mul_le_mul_of_nonneg_left hle (by norm_num)
    | infinite negative =>
      cases negative with
      | false => cases h
      | true =>
        rw [finite_mul_infinite (by norm_num)]
        change less (finite 100) (infinite (true ^^ decide (w<0)))=false
        simp [hw.not_gt,less]
    | nan => rfl
  · cases part with
    | finite p =>
      change less (finite 100) (finite 0)=false
      rw [Bool.eq_false_iff,Ne,finite_less]
      norm_num
    | infinite negative =>
      rw [finite_mul_infinite (by norm_num)]
      rfl
    | nan => rfl

end Ieee

end AtlasAgent.IeeeDouble
