import Mathlib.Data.Int.Init
import Mathlib.Logic.Function.Iterate
import Mathlib.Tactic.IntervalCases

/-!
# Dates of the Gregorian calendar

A date is a day of a month of a year, and every date has a day after it. The
dates from the epoch on are those reached from it day by day, so a function of
dates that is zero at the epoch and grows by one each day counts the days.
-/

namespace AtlasAgent.CivilTime

/-- A year of 366 days. -/
def Leap (year : ℤ) : Prop := year%4=0 ∧ (year%100=0 → year%400=0)

instance : DecidablePred Leap := fun year =>
  inferInstanceAs (Decidable (year%4=0 ∧ (year%100=0 → year%400=0)))

/-- How many days a month has; the first month is number one. -/
def monthLength (year : ℤ) (month : ℕ) : ℕ :=
  if month=2 then if Leap year then 29 else 28
  else if month=4 ∨ month=6 ∨ month=9 ∨ month=11 then 30
  else 31

theorem monthLength_pos (year : ℤ) (month : ℕ) : 1 ≤ monthLength year month := by
  unfold monthLength
  repeat' split
  all_goals decide

theorem monthLength_le (year : ℤ) (month : ℕ) : monthLength year month≤31 := by
  unfold monthLength
  repeat' split
  all_goals decide

/-- A date. -/
@[ext] structure Date where
  year : ℤ
  month : ℕ
  day : ℕ
  month_pos : 1 ≤ month
  month_le : month≤12
  day_pos : 1≤day
  day_le : day ≤ monthLength year month

/-- The first of January 1970. -/
def epoch : Date := ⟨1970,1,1,by decide,by decide,by decide,by decide⟩

namespace Date

/-- The first day of a month. -/
def first (year : ℤ) (month : ℕ) (hpos : 1 ≤ month) (hle : month≤12) : Date :=
  ⟨year,month,1,hpos,hle,le_rfl,monthLength_pos year month⟩

/-- The day after. -/
def next (date : Date) : Date :=
  if hday : date.day < monthLength date.year date.month then
    ⟨date.year,date.month,date.day+1,date.month_pos,date.month_le,by omega,hday⟩
  else if hmonth : date.month<12 then
    first date.year (date.month+1) (by omega) hmonth
  else first (date.year+1) 1 le_rfl (by decide)

/-- The date a number of days after the epoch. -/
def after (days : ℕ) : Date := next^[days] epoch

theorem after_succ (days : ℕ) : after (days+1)=(after days).next :=
  Function.iterate_succ_apply' next days epoch

/-- What is zero at the epoch and grows by one each day counts the days. -/
theorem count_after (count : Date → ℤ) (hepoch : count epoch=0)
    (hnext : ∀ date,count date.next=count date+1) (days : ℕ) : count (after days)=days := by
  induction days with
  | zero => exact hepoch
  | succ days ih => rw [after_succ,hnext,ih,Nat.cast_succ]

end Date

end AtlasAgent.CivilTime
