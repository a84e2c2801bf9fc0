import AtlasAgent.CGroupIo
import Mathlib.Tactic.Linarith

/-!
# Throttle utilization against the time between reads

A utilization is recorded for the growth of a device since it was last parsed,
however long ago that was, while the divisor takes five seconds to have
passed. A span is the growth, its limit and the time between the two reads.
-/

namespace AtlasAgent.CGroupThrottle

open CGroupIo IeeeDouble LatestSample RunHistory TextFields

/-- A read of a device: its time and what it has parsed. -/
def readOf (device : Token) (tick : IoTick) : Option (ℚ×IOStats) :=
  (tick.parsed.lookup device).map fun stats => (tick.now,stats)

/-- What a recorded utilization is about. -/
structure Span where
  dev : Token
  delta : Ieee
  limit : Ieee
  /-- Seconds between the two reads. -/
  elapsed : ℚ
  deriving DecidableEq

/-- The span of a counter at a call, from the latest earlier read of the
device, when the call finds the device and its limits. -/
def spanOf (device : Token) (activity : Activity) (before : List IoTick) (tick : IoTick) :
    Option Span := do
  let (time,prevStat) ← latest (readOf device) before
  let currentStat ← tick.parsed.lookup device
  let throttle ← tick.throttles.lookup device
  some ⟨currentStat.deviceName,growth prevStat currentStat activity,
    throttle.value activity.limit,tick.now-time⟩

/-- The growth as a percentage of what the limit allows between the reads. -/
def Span.utilization (span : Span) : Ieee :=
  .finite 100*span.delta/(span.limit*.finite span.elapsed)

/-- The growth is not more than the limit allows between the reads. -/
def Span.Within (span : Span) : Prop :=
  Ieee.less (span.limit*.finite span.elapsed) span.delta=false

/-- The times of a run increase. -/
def Increasing (history : List IoTick) : Prop :=
  history.Pairwise fun before tick => before.now<tick.now

/-- Every utilization recorded in a run is that of its span, and no more than a
hundred percent for a growth within the limit. -/
def ThrottleContract (history : List IoTick) : Prop :=
  Increasing history → ∀ before tick after, history=before++tick::after →
    ∀ device dev activity utilization,
      .throttleActivity device dev activity utilization∈outputAfter ioStats ∅ before tick →
        ∃ span, spanOf device activity before tick=some span ∧ utilization=span.utilization ∧
          (span.Within → Ieee.less (.finite 100) utilization=false)

/-- The divisor is right for the span: its reads are five seconds apart, unless
no time makes a difference. -/
def Span.Fits (span : Span) : Prop :=
  ∀ delta limit, span.delta=.finite delta → delta≠0 → span.limit=.finite limit → span.elapsed=5

/-- Every span with a limit above zero fits. -/
def SpansFit (history : List IoTick) : Prop :=
  ∀ before tick after, history=before++tick::after → ∀ device activity span,
    spanOf device activity before tick=some span → Ieee.less 0 span.limit=true → span.Fits

/-- The statistics of the latest read are those stored after the run. -/
theorem latest_readOf (device : Token) (history : List IoTick) :
    (latest (readOf device) history).map Prod.snd=(runState ioStats ∅ history).lookup device := by
  rw [lookup_every_run,←latest_map]
  congr 1
  funext tick
  cases h : tick.parsed.lookup device <;> simp [readOf,h]

/-- Spans end later than they begin when times increase. -/
theorem elapsed_pos {device : Token} {activity : Activity} {before : List IoTick} {tick : IoTick}
    {span : Span} (hincreasing : Increasing (before++[tick]))
    (hspan : spanOf device activity before tick=some span) : 0<span.elapsed := by
  simp only [spanOf,Option.bind_eq_bind,Option.bind_eq_some_iff,Option.some.injEq] at hspan
  obtain ⟨⟨time,prevStat⟩,hlatest,currentStat,-,throttle,-,rfl⟩ := hspan
  obtain ⟨first,earlier,rest,rfl,hread,-⟩ := latest_eq_some_iff.mp hlatest
  obtain ⟨stats,-,hpair⟩ := Option.map_eq_some_iff.mp hread
  have hnow : earlier.now<tick.now :=
    (List.pairwise_append.mp hincreasing).2.2 earlier (by simp) tick (by simp)
  rw [(Prod.mk.inj hpair).1] at hnow
  exact sub_pos.mpr hnow

/-- Utilizations are recorded exactly for the spans with a limit above zero. -/
theorem throttleActivity_mem {device dev : Token} {activity : Activity} {utilization : Ieee}
    {before : List IoTick} {tick : IoTick} :
    .throttleActivity device dev activity utilization∈outputAfter ioStats ∅ before tick ↔
      ∃ span, spanOf device activity before tick=some span ∧ Ieee.less 0 span.limit=true ∧
        dev=span.dev ∧ utilization=throttleUtilization span.delta span.limit := by
  have hfilter : .throttleActivity device dev activity utilization∈
        outputAfter ioStats ∅ before tick ↔
      .throttleActivity device dev activity utilization∈
        (outputAfter ioStats ∅ before tick).filter (·.device=device) := by
    simp [IoMetric.device]
  rw [hfilter,outputAfter,filter_ioStats,←latest_readOf]
  unfold spanOf
  cases hparsed : tick.parsed.lookup device with
  | none => simp
  | some currentStat =>
    cases hlatest : latest (readOf device) before with
    | none => simp [deviceMetrics]
    | some read =>
      obtain ⟨time,prevStat⟩ := read
      cases hthrottle : tick.throttles.lookup device with
      | none => simp [deviceMetrics,throttleMetrics]
      | some throttle =>
        simp [deviceMetrics,throttleMetrics,recordThrottleUtilization,mem_activities]

/-- A recorded value is the utilization of its span exactly when the span fits. -/
theorem utilization_eq_iff {span : Span} (hlimit : Ieee.less 0 span.limit=true)
    (helapsed : 0<span.elapsed) :
    throttleUtilization span.delta span.limit=span.utilization ↔ span.Fits := by
  obtain ⟨dev,delta,limit,elapsed⟩ := span
  dsimp only at hlimit helapsed
  rw [throttleUtilization,Ieee.div_mul_of_pos (by norm_num [percentMultiplier]),Span.utilization]
  unfold Span.Fits
  dsimp only
  rcases Ieee.zero_less_iff.mp hlimit with ⟨l,rfl,hl⟩|rfl
  · have hfive : 0<l*intervalSeconds := mul_pos hl (by norm_num [intervalSeconds])
    have hspan : 0<l*elapsed := mul_pos hl helapsed
    rw [Ieee.finite_mul,Ieee.finite_mul]
    cases delta with
    | finite d =>
      rw [Ieee.finite_mul,Ieee.finite_mul,Ieee.finite_div hfive.ne',Ieee.finite_div hspan.ne',
        Ieee.finite.injEq,div_eq_div_iff hfive.ne' hspan.ne']
      constructor
      · rintro h _ _ ⟨⟩ hd ⟨⟩
        have hfactor : percentMultiplier*d*l≠0 :=
          mul_ne_zero (mul_ne_zero (by norm_num [percentMultiplier]) hd) hl.ne'
        apply mul_left_cancel₀ hfactor
        unfold percentMultiplier intervalSeconds at *
        linarith
      · intro h
        by_cases hd : d=0
        · rw [hd]
          ring
        · rw [h d l rfl hd rfl]
          unfold percentMultiplier intervalSeconds
          ring
    | infinite negative =>
      have hsame : Ieee.infinite negative/.finite (l*intervalSeconds)=
          .infinite negative/.finite (l*elapsed) := by
        change Ieee.infinite (negative ^^ decide _)=Ieee.infinite (negative ^^ decide _)
        simp only [hfive.not_gt,hspan.not_gt]
      rw [Ieee.finite_mul_infinite (by norm_num [percentMultiplier]),
        Ieee.finite_mul_infinite (by norm_num),hsame]
      simp
    | nan => exact iff_of_true rfl fun _ _ h => nomatch h
  · rw [Ieee.infinite_mul_finite (by norm_num [intervalSeconds]),
      Ieee.infinite_mul_finite helapsed]
    exact iff_of_true rfl fun _ _ _ _ h => nomatch h

/-- A run records utilizations of its spans exactly when its spans fit: every
growth other than zero that is measured against a finite limit lies between
reads five seconds apart. -/
theorem throttleContract_iff (history : List IoTick) :
    ThrottleContract history ↔ (Increasing history → SpansFit history) := by
  refine forall_congr' fun hincreasing => ?_
  have hpositive {before after : List IoTick} {tick : IoTick} {device : Token}
      {activity : Activity} {span : Span} (hsplit : history=before++tick::after)
      (hspan : spanOf device activity before tick=some span) : 0<span.elapsed := by
    rw [hsplit,List.append_cons] at hincreasing
    exact elapsed_pos (List.pairwise_append.mp hincreasing).1 hspan
  constructor
  · intro hlaw before tick after hsplit device activity span hspan hlimit
    obtain ⟨span',hspan',heq,-⟩ := hlaw before tick after hsplit device span.dev activity _
      (throttleActivity_mem.mpr ⟨span,hspan,hlimit,rfl,rfl⟩)
    obtain rfl := Option.some.inj (hspan.symm.trans hspan')
    exact (utilization_eq_iff hlimit (hpositive hsplit hspan)).mp heq
  · intro hfit before tick after hsplit device dev activity utilization hmem
    obtain ⟨span,hspan,hlimit,-,rfl⟩ := throttleActivity_mem.mp hmem
    have helapsed := hpositive hsplit hspan
    have heq := (utilization_eq_iff hlimit helapsed).mpr
      (hfit before tick after hsplit device activity span hspan hlimit)
    refine ⟨span,hspan,heq,fun hwithin => ?_⟩
    rw [heq]
    exact Ieee.percentage_le_hundred (Ieee.zero_less_mul hlimit helapsed) hwithin

/-- A call that finds a device with the given growth of its bytes read, under
a limit of 1000 bytes per second. -/
def limitedRead (now : ℚ) (ioStat : String) : IoTick :=
  ⟨now,some ioStat.toList,none,some "8:0 rbps=1000 wbps=max riops=max wiops=max\n".toList⟩

/-- Two calls at which the device is found, ten seconds apart, and one between
them that finds io.stat empty. -/
def emptyBetween : List IoTick :=
  [limitedRead 0 "8:0 rbytes=0 wbytes=0 rios=0 wios=0 dbytes=0 dios=0\n",limitedRead 5 ""]

def afterEmpty : IoTick :=
  limitedRead 10 "8:0 rbytes=8000 wbytes=0 rios=0 wios=0 dbytes=0 dios=0\n"

/-- The growth stays within the limit for ten seconds, and 160 percent are
recorded. -/
theorem emptyBetween_overstated : ¬ThrottleContract (emptyBetween++[afterEmpty]) := by
  intro h
  have hincreasing : Increasing (emptyBetween++[afterEmpty]) := by
    unfold Increasing
    decide +kernel
  obtain ⟨span,hspan,-,hwithin⟩ := h hincreasing emptyBetween afterEmpty [] rfl "8:0".toList
    "unknown".toList .readBytes (.finite 160) (by decide +kernel)
  have hvalue : spanOf "8:0".toList .readBytes emptyBetween afterEmpty=
      some ⟨"unknown".toList,.finite 8000,.finite 1000,10⟩ := by decide +kernel
  obtain rfl := Option.some.inj (hvalue.symm.trans hspan)
  exact absurd (hwithin (by unfold Span.Within; decide +kernel)) (by decide +kernel)

end AtlasAgent.CGroupThrottle
