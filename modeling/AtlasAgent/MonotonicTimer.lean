import AtlasAgent.RunTotals
import Mathlib.Algebra.Order.Field.Rat
import Mathlib.Data.List.Chain
import Mathlib.Tactic.Linarith
import Mathlib.Tactic.NormNum

/-!
# MonotonicTimer: two counters fed from monotonic totals

The timer is handed a total time and a total count and passes their growth
to the totalTime and count counters. The previous count doubles as the mark
that there is a baseline, and the baseline moves on in every branch, so the
growth of a call that increments nothing is gone for good. An absl::Duration
is an integer number of its quarter-nanosecond ticks; a difference of two
counts or durations is taken to fit its type, and doubles are exact.
-/

namespace AtlasAgent.MonotonicTimer

open RunHistory RunTotals

/-- absl::Milliseconds, in quarter-nanosecond ticks. -/
def milliseconds (n : ℤ) : ℤ := n*4000000

/-- absl::ToDoubleSeconds. -/
def toDoubleSeconds (duration : ℤ) : ℚ := duration/4000000000

/-- The two arguments of one call of update. -/
structure TimerReading where
  /-- monotonic_time. -/
  monotonicTime : ℤ
  /-- monotonic_count. -/
  monotonicCount : ℤ
  deriving DecidableEq

/-- The members that outlive a call. -/
structure Timer where
  /-- prev_time. -/
  prevTime : ℤ
  /-- prev_count; a value above zero also means that there is a baseline. -/
  prevCount : ℤ
  deriving DecidableEq

/-- The members as the constructor leaves them. -/
def Timer.init : Timer := ⟨0,0⟩

/-- The baseline left by a call. -/
def Timer.ofReading (reading : TimerReading) : Timer :=
  ⟨reading.monotonicTime,reading.monotonicCount⟩

/-- An Increment of one of the two counters of the timer's meter. -/
inductive TimerIncrement
  /-- Counter with statistic totalTime. -/
  | totalTime (seconds : ℚ)
  /-- Counter with statistic count. -/
  | count (deltaCount : ℤ)
  deriving DecidableEq

/-- MonotonicTimer::update. -/
def update (timer : Timer) (reading : TimerReading) : Timer×List TimerIncrement :=
  (Timer.ofReading reading,
    if 0<timer.prevCount then
      let deltaCount := reading.monotonicCount-timer.prevCount
      if 0<deltaCount then
        let seconds := toDoubleSeconds (reading.monotonicTime-timer.prevTime)
        if 0 ≤ seconds then [.totalTime seconds,.count deltaCount] else []
      else []
    else [])

/-- Seconds an increment adds to the totalTime counter. -/
def TimerIncrement.timeAmount : TimerIncrement → ℚ
  | .totalTime seconds => seconds
  | .count _ => 0

/-- What an increment adds to the count counter. -/
def TimerIncrement.countAmount : TimerIncrement → ℤ
  | .totalTime _ => 0
  | .count deltaCount => deltaCount

/-- Every increment of a timer that starts without a baseline. -/
def increments (readings : List TimerReading) : List TimerIncrement :=
  runOutput update Timer.init readings

/-- Neither argument is below its value in the previous call. -/
def NotBefore (earlier later : TimerReading) : Prop :=
  earlier.monotonicTime≤later.monotonicTime ∧ earlier.monotonicCount≤later.monotonicCount

/-- The counters receive exactly the growth between the first and last call. -/
structure Conserves (first : TimerReading) (rest : List TimerReading) : Prop where
  /-- Increments of the count counter add up to the growth of the count. -/
  count : total TimerIncrement.countAmount (increments (first::rest))=
    (rest.getLastD first).monotonicCount-first.monotonicCount
  /-- Increments of the totalTime counter add up to the growth of the time. -/
  time : total TimerIncrement.timeAmount (increments (first::rest))=
    toDoubleSeconds ((rest.getLastD first).monotonicTime-first.monotonicTime)

/-- One call increments nothing, or both counters by amounts not below zero. -/
def Paired (outputs : List TimerIncrement) : Prop :=
  outputs=[] ∨ ∃ seconds deltaCount,
    outputs=[.totalTime seconds,.count deltaCount] ∧ 0 ≤ seconds ∧ 0≤deltaCount

/-- Every call of a run is paired, whether or not its arguments went back. -/
def PairedIncrements (readings : List TimerReading) : Prop :=
  ∀ before reading after,readings=before++reading::after →
    Paired (outputAfter update Timer.init before reading)

/-- The contract of a run: paired increments always, and conservation when
neither argument ever goes back. -/
def TimerContract (first : TimerReading) (rest : List TimerReading) : Prop :=
  ((first::rest).IsChain NotBefore → Conserves first rest) ∧ PairedIncrements (first::rest)

/-- A call whose growth, if there is any, reaches the counters: it repeats the
previous arguments, or raises the count from a count above zero. -/
def GrowthCounted (earlier later : TimerReading) : Prop :=
  later=earlier ∨ 0<earlier.monotonicCount ∧ earlier.monotonicCount<later.monotonicCount

@[simp] theorem update_fst (timer : Timer) (reading : TimerReading) :
    (update timer reading).1=Timer.ofReading reading := rfl

/-- Seconds keep the order and the zero of the ticks they come from. -/
theorem toDoubleSeconds_nonneg_iff (duration : ℤ) : 0≤toDoubleSeconds duration ↔ 0≤duration := by
  rw [toDoubleSeconds,le_div_iff₀ (by norm_num),zero_mul,Int.cast_nonneg_iff]

/-- A difference of durations is the difference of their seconds. -/
theorem toDoubleSeconds_sub (a b : ℤ) :
    toDoubleSeconds (a-b)=toDoubleSeconds a-toDoubleSeconds b := by
  rw [toDoubleSeconds,toDoubleSeconds,toDoubleSeconds,Int.cast_sub,sub_div]

/-- A call increments exactly when there is a baseline, the count has grown
and the time has not gone back; then it passes on both differences. -/
theorem update_snd (timer : Timer) (reading : TimerReading) :
    (update timer reading).2=
      if 0<timer.prevCount ∧ timer.prevCount<reading.monotonicCount ∧
          timer.prevTime ≤ reading.monotonicTime then
        [.totalTime (toDoubleSeconds (reading.monotonicTime-timer.prevTime)),
          .count (reading.monotonicCount-timer.prevCount)]
      else [] := by
  simp only [update,toDoubleSeconds_nonneg_iff,sub_pos,sub_nonneg,ite_and]

/-- Every call is paired, in every state and for every pair of arguments. -/
theorem update_paired (timer : Timer) (reading : TimerReading) :
    Paired (update timer reading).2 := by
  rw [update_snd]
  split
  · next h =>
    obtain ⟨-,hcount,htime⟩ := h
    exact Or.inr ⟨_,_,rfl,(toDoubleSeconds_nonneg_iff _).mpr (by omega),by omega⟩
  · exact Or.inl rfl

/-- Paired increments hold over every run. -/
theorem pairedIncrements (readings : List TimerReading) : PairedIncrements readings :=
  fun before reading _ _ => update_paired (runState update Timer.init before) reading

/-- A condition on the baseline and the arguments of each later call is a
condition on neighbouring readings, for the baseline is the last reading. -/
theorem meets_update_iff (R : TimerReading → TimerReading → Prop)
    (first : TimerReading) (rest : List TimerReading) :
    Meets update (fun timer reading => R ⟨timer.prevTime,timer.prevCount⟩ reading)
      (Timer.ofReading first) rest ↔ (first::rest).IsChain R := by
  induction rest generalizing first with
  | nil => simp
  | cons next rest ih =>
    rw [meets_cons,update_fst,ih next,List.isChain_cons_cons]
    rfl

/-- The baseline after a run is its last reading. -/
theorem runState_update (first : TimerReading) (rest : List TimerReading) :
    runState update (Timer.ofReading first) rest=Timer.ofReading (rest.getLastD first) := by
  induction rest generalizing first with
  | nil => rfl
  | cons next rest ih =>
    rw [runState_cons,update_fst,ih next,List.getLastD_cons]

/-- What one call passes to the count counter. -/
theorem countAmount_update (timer : Timer) (reading : TimerReading) :
    total TimerIncrement.countAmount (update timer reading).2=
      if 0<timer.prevCount ∧ timer.prevCount<reading.monotonicCount ∧
          timer.prevTime ≤ reading.monotonicTime then
        reading.monotonicCount-timer.prevCount else 0 := by
  rw [update_snd]
  split <;> simp [total,TimerIncrement.countAmount]

/-- What one call passes to the totalTime counter. -/
theorem timeAmount_update (timer : Timer) (reading : TimerReading) :
    total TimerIncrement.timeAmount (update timer reading).2=
      if 0<timer.prevCount ∧ timer.prevCount<reading.monotonicCount ∧
          timer.prevTime ≤ reading.monotonicTime then
        toDoubleSeconds (reading.monotonicTime-timer.prevTime) else 0 := by
  rw [update_snd]
  split <;> simp [total,TimerIncrement.timeAmount]

/-- A call whose arguments have not gone back passes on no more than the
growth of the count. -/
theorem countAmount_le {timer : Timer} {reading : TimerReading}
    (h : NotBefore ⟨timer.prevTime,timer.prevCount⟩ reading) :
    total TimerIncrement.countAmount (update timer reading).2≤
      (update timer reading).1.prevCount-timer.prevCount := by
  rw [countAmount_update]
  have hcount := h.2
  dsimp only [update_fst,Timer.ofReading] at hcount ⊢
  split <;> omega

/-- The time accounted for so far, in seconds. -/
def Timer.prevSeconds (timer : Timer) : ℚ := toDoubleSeconds timer.prevTime

/-- A call whose arguments have not gone back passes on no more than the
growth of the time. -/
theorem timeAmount_le {timer : Timer} {reading : TimerReading}
    (h : NotBefore ⟨timer.prevTime,timer.prevCount⟩ reading) :
    total TimerIncrement.timeAmount (update timer reading).2≤
      (update timer reading).1.prevSeconds-timer.prevSeconds := by
  rw [timeAmount_update,update_fst,Timer.prevSeconds,Timer.prevSeconds,←toDoubleSeconds_sub]
  split
  · exact le_rfl
  · rw [toDoubleSeconds_nonneg_iff,sub_nonneg]
    exact h.1

/-- With arguments that have not gone back, a call passes on the whole growth
of both totals exactly when its growth is counted. -/
theorem handsOutGrowth_iff {timer : Timer} {reading : TimerReading}
    (h : NotBefore ⟨timer.prevTime,timer.prevCount⟩ reading) :
    HandsOutGrowth TimerIncrement.countAmount Timer.prevCount update timer reading ∧
        HandsOutGrowth TimerIncrement.timeAmount Timer.prevSeconds update timer reading ↔
      GrowthCounted ⟨timer.prevTime,timer.prevCount⟩ reading := by
  obtain ⟨htime,hcount⟩ := h
  obtain ⟨time,count⟩ := reading
  dsimp only at htime hcount
  rw [HandsOutGrowth,HandsOutGrowth,countAmount_update,timeAmount_update,update_fst]
  dsimp only [Timer.ofReading,Timer.prevSeconds,GrowthCounted]
  rw [←toDoubleSeconds_sub,TimerReading.mk.injEq]
  by_cases hgrown : 0<timer.prevCount ∧ timer.prevCount<count
  · rw [if_pos ⟨hgrown.1,hgrown.2,htime⟩,if_pos ⟨hgrown.1,hgrown.2,htime⟩]
    simp [hgrown]
  · have hzero : toDoubleSeconds (time-timer.prevTime)=0 ↔ time=timer.prevTime := by
      rw [toDoubleSeconds,div_eq_zero_iff]
      norm_num [sub_eq_zero]
    rw [if_neg (fun hc => hgrown ⟨hc.1,hc.2.1⟩),if_neg (fun hc => hgrown ⟨hc.1,hc.2.1⟩),
      eq_comm (a:=(0 : ℚ)),hzero,or_iff_left hgrown]
    constructor
    · rintro ⟨hc,ht⟩
      exact ⟨ht,by omega⟩
    · rintro ⟨ht,hc⟩
      exact ⟨by omega,ht⟩

/-- A run whose arguments never go back conserves both totals exactly when
each call after the first repeats its predecessor or raises a positive count. -/
theorem conserves_iff {first : TimerReading} {rest : List TimerReading}
    (hmono : (first::rest).IsChain NotBefore) :
    Conserves first rest ↔ (first::rest).IsChain GrowthCounted := by
  have hm := (meets_update_iff NotBefore first rest).mpr hmono
  have hcount := total_run_eq_iff TimerIncrement.countAmount Timer.prevCount
    (fun _ _ h => countAmount_le h) hm
  have htime := total_run_eq_iff TimerIncrement.timeAmount Timer.prevSeconds
    (fun _ _ h => timeAmount_le h) hm
  have hgrowth := meets_congr (fun _ _ h => handsOutGrowth_iff h) hm
  rw [meets_and,←hcount,←htime,runState_update,meets_update_iff GrowthCounted] at hgrowth
  rw [←hgrowth]
  dsimp only [Timer.ofReading,Timer.prevSeconds]
  rw [←toDoubleSeconds_sub]
  exact ⟨fun h => ⟨h.count,h.time⟩,fun h => ⟨h.1,h.2⟩⟩

/-- The contract holds of a run exactly when, provided that its arguments never
go back, each call after the first repeats its predecessor or raises the count
from a count above zero. -/
theorem timerContract_iff (first : TimerReading) (rest : List TimerReading) :
    TimerContract first rest ↔
      ((first::rest).IsChain NotBefore → (first::rest).IsChain GrowthCounted) := by
  rw [TimerContract,and_iff_left (pairedIncrements (first::rest))]
  exact imp_congr_right conserves_iff

/-- A device whose first listed count is zero and which then completes five
operations in a second: the five operations and the second are dropped. -/
theorem zero_first_count_dropped :
    ¬TimerContract ⟨milliseconds 0,0⟩ [⟨milliseconds 1000,5⟩] := by
  intro h
  have hcount := (h.1 (by simp [NotBefore,milliseconds])).count
  exact absurd hcount (by decide)

end AtlasAgent.MonotonicTimer
