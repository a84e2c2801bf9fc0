import AtlasAgent.CGroupIo
import AtlasAgent.CGroupUtilization
import AtlasAgent.SampleIncrements

/-!
# What the counters of the control group add up to

CpuStats and IOStats in one run. Each counter is a series with its own
samples: the calls at which its function runs, or at which its device is
parsed. The increments of a series are those between its samples, so calls
without one neither lose growth nor count it twice.
-/

namespace AtlasAgent.CGroupTotals

open CGroupCpu CGroupFootprint CGroupIo CGroupUtilization Effects FileReaders IeeeDouble
open NumberText RunHistory SampleIncrements TextFields

/-- A call of one of the two functions. -/
inductive CGroupTick
  | cpu (tick : CpuTick)
  | io (tick : IoTick)

/-- A metric of one of them. -/
inductive CGroupMetric
  | cpu (metric : CpuMetric)
  | io (metric : IoMetric)
  deriving DecidableEq

/-- The agent and the static map of IOStats. -/
structure CGroupState where
  agent : Agent
  previousStats : IOStatsMap

def CGroupState.init : CGroupState := ⟨.running .init,∅⟩

/-- One call. An agent that has ended makes none. -/
def cGroupStep (s : CGroupState) : CGroupTick → CGroupState×List CGroupMetric
  | .cpu tick =>
    (⟨(agentStep s.agent tick).1,s.previousStats⟩,(agentStep s.agent tick).2.map .cpu)
  | .io tick =>
    match s.agent with
    | .ended => (s,[])
    | .running _ =>
      (⟨s.agent,(ioStats s.previousStats tick).1⟩,(ioStats s.previousStats tick).2.map .io)

/-- A counter with its tags. -/
inductive Series
  /-- cgroup.cpu.throttledTime. -/
  | throttledTime
  /-- cgroup.cpu.processingTime. -/
  | processingTime
  /-- cgroup.cpu.usageTime. -/
  | usageTime (id : CpuId)
  /-- cgroup.cpu.processingCapacity. -/
  | processingCapacity
  /-- disk.io.bytes and disk.io.ops. -/
  | diskIo (device : Token) (activity : Activity)
  deriving DecidableEq

/-- The increment that a metric is, with the series it belongs to. -/
def entry : CGroupMetric → Option (Series×Ieee)
  | .cpu (.throttledTime secs) => some (.throttledTime,.finite secs)
  | .cpu (.processingTime secs) => some (.processingTime,.finite secs)
  | .cpu (.usageTime id secs) => some (.usageTime id,.finite secs)
  | .cpu (.processingCapacity value) => some (.processingCapacity,value)
  | .io (.increment device _ activity delta) => some (.diskIo device activity,delta)
  | _ => none

/-- The increment of one series. -/
def Series.amount (series : Series) (o : CGroupMetric) : Option Ieee :=
  (entry o).bind fun e => if e.1=series then some e.2 else none

/-- The value of a key in seconds, at the calls for which a flag is set. -/
def secondsAt (flag : Bool) (tick : CpuTick) (key : Token) : Option ℚ :=
  if flag then (tick.stats.lookup key).map fun usec => (usec : ℚ)/micros else none

/-- The level a series is fed from, at the calls that sample it. -/
def Series.sample (cpuCount : ℚ) : Series → CGroupTick → Option ℚ
  | .throttledTime,.cpu tick => secondsAt tick.sixtySecond tick throttledUsec
  | .processingTime,.cpu tick => secondsAt tick.fiveSecond tick usageUsec
  | .usageTime id,.cpu tick => secondsAt tick.fiveSecond tick (usecKey id)
  | .processingCapacity,.cpu tick =>
    if tick.fiveSecond then some (cpuCount*toDoubleSeconds tick.capacityNow) else none
  | .diskIo device activity,.io tick =>
    (tick.parsed.lookup device).bind fun stats => (stats.value activity.statistic).number
  | _,_ => none

/-- What the first sample hands out: five seconds of processor time, or nothing. -/
def Series.opening (cpuCount : ℚ) : Series → Option ℚ
  | .processingCapacity => some (cpuCount*5)
  | _ => none

/-- cpu.stat has what the flags of a call make the functions look up. -/
def KeysRead (tick : CpuTick) : Prop :=
  (tick.sixtySecond=true → HasKey tick.cpuStat throttledUsec ∧ HasKey tick.cpuStat nrThrottled) ∧
    (tick.fiveSecond=true → HasKey tick.cpuStat usageUsec) ∧
      HasKey tick.cpuStat systemUsec ∧ HasKey tick.cpuStat userUsec

/-- What is promised of a run: cpu.stat has the keys and io.stat the numbers
that are read, the number of processors is constant, and no kernel counter is
negative or decreases. -/
structure Steady (cpuCount : ℚ) (history : List CGroupTick) : Prop where
  keys : ∀ tick, .cpu tick∈history → KeysRead tick
  processors : ∀ tick, .cpu tick∈history → tick.cpuCount=.finite cpuCount
  numbers : ∀ tick, .io tick∈history → ∀ device stats, tick.parsed.lookup device=some stats →
    ∀ activity : Activity, (stats.value activity.statistic).number.isSome=true
  nonneg : ∀ series : Series, series≠.processingCapacity →
    ∀ level∈history.filterMap (series.sample cpuCount),0≤level
  monotone : ∀ series : Series, series≠.processingCapacity →
    (history.filterMap (series.sample cpuCount)).Pairwise (·≤·)

/-- The increments of every series in a run are numbers that are not negative
and add up to the growth of its level over its samples. -/
def TotalsContract (history : List CGroupTick) : Prop :=
  ∀ cpuCount, Steady cpuCount history → ∀ series : Series, ∃ amounts : List ℚ,
    (runOutput cGroupStep .init history).filterMap series.amount=amounts.map .finite ∧
      amounts.sum=growthOf (series.opening cpuCount)
        (history.filterMap (series.sample cpuCount)) ∧ ∀ amount∈amounts,0≤amount

/-- The first condition on a call: cpu.max has its second field wherever it is
read. -/
def PeriodsRead (tick : CpuTick) : Prop :=
  (tick.sixtySecond=true → HasSecondField tick.utilizationMax) ∧ HasSecondField tick.peakMax

/-- With it, a call of a steady run returns. -/
theorem KeysRead.complete {tick : CpuTick} (hkeys : KeysRead tick) (hperiods : PeriodsRead tick) :
    ReadsComplete tick := by
  obtain ⟨hsixty,hfive,hsystem,huser⟩ := hkeys
  exact ⟨fun hflag => ⟨(hsixty hflag).1,(hsixty hflag).2,hperiods.1 hflag⟩,hfive,hsystem,huser,
    hperiods.2⟩

/-- The second condition, on a step: at a five-second call there is not less than no
processor, and after an earlier one the clock has neither gone back nor stood
at the epoch, which passes for a first call. -/
def ClockForward (s : CGroupState) : CGroupTick → Prop
  | .io _ => True
  | .cpu tick => tick.fiveSecond=true → Ieee.less tick.cpuCount 0=false ∧
      match s.agent with
      | .ended => True
      | .running statics => 0 ≤ statics.prev .procTime →
          statics.lastUpdated .capacity≠0 ∧ statics.lastUpdated .capacity≤tick.capacityNow

instance : ∀ s tick,Decidable (ClockForward s tick)
  | _,.io _ => .isTrue trivial
  | ⟨.ended,_⟩,.cpu tick => inferInstanceAs (Decidable (tick.fiveSecond=true → _ ∧ True))
  | ⟨.running st,_⟩,.cpu tick => inferInstanceAs (Decidable (tick.fiveSecond=true → _ ∧
      (0 ≤ st.prev .procTime →
        st.lastUpdated .capacity≠0 ∧ st.lastUpdated .capacity≤tick.capacityNow)))

/-- The statics behind the series and their metrics. -/
def seriesFootprint : Footprint :=
  ⟨(·∈[.throttledTime,.procTime,.sysUsage,.userUsage]),(.capacity = ·),
    fun o => (entry (.cpu o)).isSome=true⟩

/-- The entry of a counter that is sampled at a value. -/
def entriesOf (series : Series) (prev value : ℤ) : List (Series×Ieee) :=
  if 0≤prev then [(series,.finite ((value-prev : ℤ)/micros))] else []

/-- Seconds of capacity handed out at a call. -/
def capacitySeconds (lastUpdated now : ℤ) : ℚ :=
  toDoubleSeconds (now-if lastUpdated=0 then now-5*abslTicks else lastUpdated)

/-- The entries among the outputs of a call. -/
def entriesIn (outputs : List CpuMetric) : List (Series×Ieee) :=
  outputs.filterMap fun o => entry (.cpu o)

theorem entriesIn_append (earlier later : List CpuMetric) :
    entriesIn (earlier++later)=entriesIn earlier++entriesIn later := List.filterMap_append ..

/-- The program returns with these entries, and leaves statics that agree with
the given ones on the series. -/
structure Ends (program : CpuProgram Unit) (s s' : Statics) (entries : List (Series×Ieee)) :
    Prop where
  returns : (program s).result=.ok ()
  state : SameOn seriesFootprint s' (program s).state
  entries : entriesIn (program s).outputs=entries

/-- Two programs in sequence: the second one need only be known from statics
that agree with those the first one leaves. -/
theorem Ends.seq {first second : CpuProgram Unit} {s s' s'' : Statics}
    {earlier later : List (Series×Ieee)} (hfirst : Ends first s s' earlier)
    (hsecond : ∀ t, SameOn seriesFootprint s' t → Ends second t s'' later) :
    Ends (first >>= fun _ => second) s s'' (earlier++later) := by
  have hrest := hsecond _ hfirst.state
  have hrun : (first >>= fun _ => second) s=⟨(second (first s).state).state,
      (first s).outputs++(second (first s).state).outputs,
        (second (first s).state).result⟩ := by
    rw [bind_apply,Outcome.andThen,hfirst.returns]
  refine ⟨?_,?_,?_⟩
  · rw [hrun]
    exact hrest.returns
  · rw [hrun]
    exact hrest.state
  · rw [hrun,entriesIn_append,hfirst.entries,hrest.entries]

/-- A program behind a condition. -/
theorem Ends.when {c : Prop} [Decidable c] {program : CpuProgram Unit} {s s' t : Statics}
    {entries : List (Series×Ieee)} (hrun : c → Ends program t s' entries)
    (hskip : ¬c → SameOn seriesFootprint s t) :
    Ends (if c then program else pure ()) t (if c then s' else s) (if c then entries else []) := by
  by_cases hc : c
  · simpa only [if_pos hc] using hrun hc
  · simp only [if_neg hc]
    exact ⟨rfl,hskip hc,rfl⟩

/-- A program that avoids the series has no entries. -/
theorem Ends.of_avoids {program : CpuProgram Unit} {s t : Statics}
    (h : Avoids seriesFootprint program) (hreturns : Returns program t)
    (hsame : SameOn seriesFootprint s t) : Ends program t s [] := by
  obtain ⟨hout,hstate⟩ := h s t hsame
  obtain ⟨⟨⟩,hok⟩ := hreturns
  exact ⟨hok,hstate () hok,List.filterMap_eq_nil_iff.mpr fun o ho =>
    Option.not_isSome_iff_eq_none.mp (hout o ho)⟩

/-- The block around a counter of a series. -/
theorem Ends.sampleCounter {stats : Stats} {key : Token} {counter : Counter}
    {publish : ℚ → CpuMetric} {series : Series} {s t : Statics} {value : ℤ}
    (hkey : stats.lookup key=some value) (hcounter : seriesFootprint.counter counter)
    (hentry : ∀ secs, entry (.cpu (publish secs))=some (series,.finite secs))
    (hsame : SameOn seriesFootprint s t) :
    Ends (sampleCounter stats key counter publish) t (s.setPrev counter value)
      (entriesOf series (s.prev counter) value) := by
  have hprev := hsame.1 counter hcounter
  have hrun : CGroupCpu.sampleCounter stats key counter publish t=
      ⟨t.setPrev counter value,growthSince (t.prev counter) value publish,.ok ()⟩ :=
    sampleCounter_of_lookup hkey
  refine ⟨by rw [hrun],by rw [hrun]; exact hsame.setPrev counter value,?_⟩
  rw [hrun,hprev]
  by_cases h : 0 ≤ s.prev counter <;> simp [growthSince,entriesOf,entriesIn,h,hentry]

theorem Ends.cpuProcessingCapacity {now : ℤ} {cpuCount : Ieee} {s t : Statics}
    (hsame : SameOn seriesFootprint s t) :
    Ends (cpuProcessingCapacity now cpuCount (5*abslTicks)) t (s.setUpdated .capacity now)
      [(.processingCapacity,
        .finite (capacitySeconds (s.lastUpdated .capacity) now)*cpuCount)] := by
  have hrun : CGroupCpu.cpuProcessingCapacity now cpuCount (5*abslTicks) t=
      ⟨t.setUpdated .capacity now,[.processingCapacity
        (.finite (capacitySeconds (t.lastUpdated .capacity) now)*cpuCount)],.ok ()⟩ := by
    simp [CGroupCpu.cpuProcessingCapacity,elapsedSince,capacitySeconds]
  refine ⟨by rw [hrun],by rw [hrun]; exact hsame.setUpdated .capacity now,?_⟩
  rw [hrun,hsame.2 .capacity rfl]
  rfl

/-- The value of a key that a call looks up. -/
def valueAt (tick : CpuTick) (key : Token) : ℤ := (tick.stats.lookup key).getD 0

theorem lookup_valueAt {tick : CpuTick} {key : Token} (h : HasKey tick.cpuStat key) :
    tick.stats.lookup key=some (valueAt tick key) := by
  obtain ⟨value,hvalue⟩ := lookup_parseKvFromFile.mpr h
  rw [valueAt,CpuTick.stats,hvalue]
  rfl

/-- The statics of the series after the sixty-second functions. -/
def afterSixty (tick : CpuTick) (s : Statics) : Statics :=
  if tick.sixtySecond=true then s.setPrev .throttledTime (valueAt tick throttledUsec) else s

/-- And after the five-second functions. -/
def afterFive (tick : CpuTick) (s : Statics) : Statics :=
  if tick.fiveSecond=true then
    (((s.setPrev .procTime (valueAt tick usageUsec)).setPrev .sysUsage
      (valueAt tick systemUsec)).setPrev .userUsage (valueAt tick userUsec)).setUpdated .capacity
        tick.capacityNow
  else s

/-- The entries of the sixty-second functions. -/
def sixtyEntries (tick : CpuTick) (s : Statics) : List (Series×Ieee) :=
  if tick.sixtySecond=true then
    entriesOf .throttledTime (s.prev .throttledTime) (valueAt tick throttledUsec)
  else []

/-- And of the five-second functions. -/
def fiveEntries (tick : CpuTick) (s : Statics) : List (Series×Ieee) :=
  if tick.fiveSecond=true then
    (entriesOf .processingTime (s.prev .procTime) (valueAt tick usageUsec)++
      (entriesOf (.usageTime .system) (s.prev .sysUsage) (valueAt tick systemUsec)++
        entriesOf (.usageTime .user) (s.prev .userUsage) (valueAt tick userUsec)))++
          [(.processingCapacity,.finite (capacitySeconds (s.lastUpdated .capacity)
            tick.capacityNow)*tick.cpuCount)]
  else []

/-- The sixty-second functions of a complete call. -/
theorem sixtySecond_ends {tick : CpuTick} (h : ReadsComplete tick) (s : Statics) :
    Ends (if tick.sixtySecond=true then do
      cpuThrottleV2 tick.stats
      cpuUtilizationV2 tick (60*abslTicks)
      else pure ()) s (afterSixty tick s) (sixtyEntries tick s) := by
  obtain ⟨hsixty,-,hsystem,huser,-⟩ := h
  refine .when (fun hflag => ?_) fun _ => SameOn.refl _ s
  obtain ⟨hthrottled,hperiods,hperiod⟩ := hsixty hflag
  have hthrottle : Ends (cpuThrottleV2 tick.stats) s
      (s.setPrev .throttledTime (valueAt tick throttledUsec))
        (entriesOf .throttledTime (s.prev .throttledTime) (valueAt tick throttledUsec)++[]) := by
    refine .seq (.sampleCounter (lookup_valueAt hthrottled) (by simp [seriesFootprint])
      (fun _ => rfl) (SameOn.refl _ s)) fun t ht =>
        .of_avoids (.seq (.statsAt _ _) fun _ => .emit ?_) ?_ ht
    · simp [seriesFootprint,entry]
    · rw [returns_bind]
      simp [statsAt,lookup_valueAt hperiods]
  have hutilization : Avoids seriesFootprint (cpuUtilizationV2 tick (60*abslTicks)) := by
    refine .cpuUtilizationV2 ?_ ?_ ?_ ?_ ?_ ?_ ?_ tick _
    all_goals simp [seriesFootprint,entry]
  have hboth := hthrottle.seq fun t ht => .of_avoids hutilization (cpuUtilizationV2_returns.mpr
    ⟨hperiod,⟨_,lookup_valueAt hsystem⟩,⟨_,lookup_valueAt huser⟩⟩) ht
  simpa only [List.append_nil] using hboth

/-- The five-second functions of a complete call. -/
theorem fiveSecond_ends {tick : CpuTick} (h : ReadsComplete tick) {s t : Statics}
    (hsame : SameOn seriesFootprint s t) :
    Ends (if tick.fiveSecond=true then do
      cpuTimeV2 tick.stats
      cpuProcessingCapacity tick.capacityNow tick.cpuCount (5*abslTicks)
      else pure ()) t (afterFive tick s) (fiveEntries tick s) := by
  obtain ⟨-,hfive,hsystem,huser,-⟩ := h
  refine .when (fun hflag => ?_) fun _ => hsame
  let afterProc := s.setPrev .procTime (valueAt tick usageUsec)
  let afterSystem := afterProc.setPrev .sysUsage (valueAt tick systemUsec)
  have hproc : Ends (sampleCounter tick.stats usageUsec .procTime .processingTime) t afterProc
      (entriesOf .processingTime (s.prev .procTime) (valueAt tick usageUsec)) :=
    .sampleCounter (lookup_valueAt (hfive hflag)) (by simp [seriesFootprint]) (fun _ => rfl) hsame
  have hsys (u : Statics) (hu : SameOn seriesFootprint afterProc u) :
      Ends (sampleCounter tick.stats systemUsec .sysUsage (.usageTime .system)) u afterSystem
        (entriesOf (.usageTime .system) (s.prev .sysUsage) (valueAt tick systemUsec)) :=
    .sampleCounter (lookup_valueAt hsystem) (by simp [seriesFootprint]) (fun _ => rfl) hu
  have hus (u : Statics) (hu : SameOn seriesFootprint afterSystem u) :
      Ends (sampleCounter tick.stats userUsec .userUsage (.usageTime .user)) u
        (afterSystem.setPrev .userUsage (valueAt tick userUsec))
          (entriesOf (.usageTime .user) (s.prev .userUsage) (valueAt tick userUsec)) :=
    .sampleCounter (lookup_valueAt huser) (by simp [seriesFootprint]) (fun _ => rfl) hu
  have htime : Ends (cpuTimeV2 tick.stats) t _ _ := hproc.seq fun u hu => (hsys u hu).seq hus
  exact htime.seq fun u hu => .cpuProcessingCapacity hu

/-- A complete call returns with the entries of its functions. -/
theorem cpuStats_ends {tick : CpuTick} (h : ReadsComplete tick) (s : Statics) :
    Ends (cpuStats tick) s (afterFive tick (afterSixty tick s))
      (sixtyEntries tick s++fiveEntries tick (afterSixty tick s)) := by
  have hpeak : Avoids seriesFootprint (cpuPeakUtilizationV2 tick) := by
    refine .cpuPeakUtilizationV2 ?_ ?_ ?_ ?_ tick
    all_goals simp [seriesFootprint,entry]
  have hall := (sixtySecond_ends h s).seq fun t ht => (fiveSecond_ends h ht).seq fun u hu =>
    .of_avoids hpeak (cpuPeakUtilizationV2_returns.mpr
      ⟨h.2.2.2.2,⟨_,lookup_valueAt h.2.2.1⟩,⟨_,lookup_valueAt h.2.2.2.1⟩⟩) hu
  unfold cpuStats
  simpa only [List.append_nil] using hall

/-- A static counter as a baseline: a negative value is none. -/
def counterBaseline (prev : ℤ) : Option ℚ := if 0≤prev then some (prev/micros) else none

/-- The baseline of a series in the statics. The capacity has one once the
five-second functions have run. -/
def Series.cpuBaseline (cpuCount : ℚ) : Series → Statics → Option ℚ
  | .throttledTime,st => counterBaseline (st.prev .throttledTime)
  | .processingTime,st => counterBaseline (st.prev .procTime)
  | .usageTime .system,st => counterBaseline (st.prev .sysUsage)
  | .usageTime .user,st => counterBaseline (st.prev .userUsage)
  | .processingCapacity,st =>
    if 0 ≤ st.prev .procTime then some (cpuCount*toDoubleSeconds (st.lastUpdated .capacity))
    else none
  | .diskIo _ _,_ => none

/-- The baseline of a series. -/
def Series.baseline (cpuCount : ℚ) (series : Series) (s : CGroupState) : Option ℚ :=
  match series with
  | .diskIo device activity =>
    (s.previousStats.lookup device).bind fun stats => (stats.value activity.statistic).number
  | series =>
    match s.agent with
    | .ended => none
    | .running st => series.cpuBaseline cpuCount st

/-- Every statistic of a device is a number. -/
def Numbers (devices : IOStatsMap) : Prop :=
  ∀ device stats, devices.lookup device=some stats →
    ∀ activity : Activity, (stats.value activity.statistic).number.isSome=true

/-- A running agent with numbers stored, which keeps no time of the capacity
before its first five-second call. -/
def Sound (s : CGroupState) : Prop :=
  (∃ st, s.agent=.running st ∧ (st.prev .procTime<0 → st.lastUpdated .capacity=0)) ∧
    Numbers s.previousStats

/-- What a steady run promises of one call. -/
def Allowed (cpuCount : ℚ) : CGroupTick → Prop
  | .cpu tick => ReadsComplete tick ∧ tick.cpuCount=.finite cpuCount ∧
      (tick.sixtySecond=true → 0≤valueAt tick throttledUsec) ∧
        (tick.fiveSecond=true → 0≤valueAt tick usageUsec ∧ 0≤valueAt tick systemUsec ∧
          0≤valueAt tick userUsec)
  | .io tick => Numbers tick.parsed

/-- Numbers stored before and parsed now are numbers stored after. -/
theorem numbers_ioStats {previousStats : IOStatsMap} {tick : IoTick}
    (hstored : Numbers previousStats) (hparsed : Numbers tick.parsed) :
    Numbers (ioStats previousStats tick).1 := by
  intro device stats hlookup
  rw [lookup_ioStats] at hlookup
  cases h : tick.parsed.lookup device with
  | none =>
    rw [h,Option.none_or] at hlookup
    exact hstored device stats hlookup
  | some parsed =>
    rw [h,Option.some_or] at hlookup
    exact hparsed device stats (h.trans hlookup)

/-- A complete call of CpuStats keeps the agent running. -/
theorem agentStep_complete {tick : CpuTick} (h : ReadsComplete tick) (st : Statics) :
    agentStep (.running st) tick=
      (.running (cpuStats tick st).state,(cpuStats tick st).outputs) := by
  rw [agentStep,(cpuStats_ends h st).returns]

/-- The statics of the series after a complete call: each has the value of the
call if its functions ran, and is as it was otherwise. -/
theorem cpuStats_state {tick : CpuTick} (h : ReadsComplete tick) (st : Statics) :
    (cpuStats tick st).state.prev .throttledTime=
        (if tick.sixtySecond=true then valueAt tick throttledUsec else st.prev .throttledTime) ∧
      (cpuStats tick st).state.prev .procTime=
        (if tick.fiveSecond=true then valueAt tick usageUsec else st.prev .procTime) ∧
      (cpuStats tick st).state.prev .sysUsage=
        (if tick.fiveSecond=true then valueAt tick systemUsec else st.prev .sysUsage) ∧
      (cpuStats tick st).state.prev .userUsage=
        (if tick.fiveSecond=true then valueAt tick userUsec else st.prev .userUsage) ∧
      (cpuStats tick st).state.lastUpdated .capacity=
        (if tick.fiveSecond=true then tick.capacityNow else st.lastUpdated .capacity) := by
  obtain ⟨hprev,hupdated⟩ := (cpuStats_ends h st).state
  rw [hprev .throttledTime (by simp [seriesFootprint]),hprev .procTime (by simp [seriesFootprint]),
    hprev .sysUsage (by simp [seriesFootprint]),hprev .userUsage (by simp [seriesFootprint]),
    hupdated .capacity rfl]
  unfold afterFive afterSixty
  refine ⟨?_,?_,?_,?_,?_⟩ <;> split <;> split <;> rfl

/-- An allowed call that meets the condition keeps the agent sound. -/
theorem sound_step {cpuCount : ℚ} {s : CGroupState} {tick : CGroupTick} (hs : Sound s)
    (hallowed : Allowed cpuCount tick) (_ : ClockForward s tick) : Sound (cGroupStep s tick).1 := by
  obtain ⟨⟨st,hst,hfirst⟩,hnumbers⟩ := hs
  cases tick with
  | io tick =>
    simp only [cGroupStep,hst]
    exact ⟨⟨st,rfl,hfirst⟩,numbers_ioStats hnumbers hallowed⟩
  | cpu tick =>
    obtain ⟨hcomplete,-,-,hfive⟩ := hallowed
    simp only [cGroupStep,hst,agentStep_complete hcomplete]
    refine ⟨⟨_,rfl,fun hneg => ?_⟩,hnumbers⟩
    obtain ⟨-,hproc,-,-,hcapacity⟩ := cpuStats_state hcomplete st
    rw [hproc] at hneg
    rw [hcapacity]
    by_cases hflag : tick.fiveSecond=true
    · rw [if_pos hflag] at hneg
      exact absurd (hfive hflag).1 (not_le.mpr hneg)
    · rw [if_neg hflag] at hneg ⊢
      exact hfirst hneg

/-- The part of a list of entries that belongs to a series. -/
def pick (series : Series) (e : Series×Ieee) : Option Ieee :=
  if e.1=series then some e.2 else none

/-- Amounts of a series are picked from the entries. -/
theorem filterMap_amount (series : Series) (outputs : List CpuMetric) :
    (outputs.map .cpu).filterMap series.amount=(entriesIn outputs).filterMap (pick series) := by
  rw [List.filterMap_map,entriesIn,List.filterMap_filterMap]
  rfl

theorem pick_entriesOf (series : Series) (prev value : ℤ) :
    (entriesOf series prev value).filterMap (pick series)=
      (incrementOf none (counterBaseline prev) (some (value/micros))).toList.map .finite := by
  by_cases h : 0≤prev
  · simp [entriesOf,counterBaseline,incrementOf,pick,h,sub_div]
  · simp [entriesOf,counterBaseline,incrementOf,h]

theorem pick_entriesOf_ne {series other : Series} (h : other≠series) (prev value : ℤ) :
    (entriesOf other prev value).filterMap (pick series)=[] := by
  by_cases hprev : 0≤prev <;> simp [entriesOf,pick,hprev,h]

/-- The sample of a counter at a complete call. -/
theorem secondsAt_eq {tick : CpuTick} {key : Token} {flag : Bool}
    (h : flag=true → HasKey tick.cpuStat key) :
    secondsAt flag tick key=if flag then some ((valueAt tick key : ℚ)/micros) else none := by
  unfold secondsAt
  by_cases hflag : flag=true
  · rw [if_pos hflag,if_pos hflag,lookup_valueAt (h hflag)]
    rfl
  · rw [if_neg hflag,if_neg hflag]

/-- A counter keeps the value of the call as its baseline if it was sampled. -/
theorem counterBaseline_ite {flag : Bool} {value prev : ℤ} (h : flag=true → 0≤value) :
    counterBaseline (if flag=true then value else prev)=
      (if flag then some ((value : ℚ)/micros) else none).or (counterBaseline prev) := by
  by_cases hflag : flag=true
  · simp [counterBaseline,hflag,h hflag]
  · simp [hflag]

/-- After a call, the baseline of a series is its sample, if it has one. -/
theorem baseline_step {cpuCount : ℚ} (series : Series) {s : CGroupState} {tick : CGroupTick}
    (hs : Sound s) (hallowed : Allowed cpuCount tick) :
    series.baseline cpuCount (cGroupStep s tick).1=
      (series.sample cpuCount tick).or (series.baseline cpuCount s) := by
  obtain ⟨⟨st,hst,hfirst⟩,hnumbers⟩ := hs
  cases tick with
  | io tick =>
    cases series with
    | diskIo device activity =>
      simp only [cGroupStep,hst,Series.baseline,Series.sample,lookup_ioStats]
      cases h : tick.parsed.lookup device with
      | none => simp
      | some stats =>
        obtain ⟨q,hq⟩ := Option.isSome_iff_exists.mp (hallowed device stats h activity)
        simp [hq]
    | _ => simp [cGroupStep,hst,Series.baseline,Series.sample]
  | cpu tick =>
    obtain ⟨hcomplete,hcount,hsixty,hfive⟩ := hallowed
    obtain ⟨hthrottled,hproc,hsys,huser,hcapacity⟩ := cpuStats_state hcomplete st
    cases series with
    | diskIo device activity => simp [cGroupStep,Series.baseline,Series.sample]
    | throttledTime =>
      simp only [cGroupStep,hst,agentStep_complete hcomplete,Series.baseline,Series.cpuBaseline,
        Series.sample,hthrottled]
      rw [counterBaseline_ite hsixty,secondsAt_eq fun hflag => (hcomplete.1 hflag).1]
    | processingTime =>
      simp only [cGroupStep,hst,agentStep_complete hcomplete,Series.baseline,Series.cpuBaseline,
        Series.sample,hproc]
      rw [counterBaseline_ite fun hflag => (hfive hflag).1,secondsAt_eq hcomplete.2.1]
    | usageTime id =>
      cases id with
      | system =>
        simp only [cGroupStep,hst,agentStep_complete hcomplete,Series.baseline,Series.cpuBaseline,
          Series.sample,hsys,usecKey]
        rw [counterBaseline_ite fun hflag => (hfive hflag).2.1,
          secondsAt_eq fun _ => hcomplete.2.2.1]
      | user =>
        simp only [cGroupStep,hst,agentStep_complete hcomplete,Series.baseline,Series.cpuBaseline,
          Series.sample,huser,usecKey]
        rw [counterBaseline_ite fun hflag => (hfive hflag).2.2,
          secondsAt_eq fun _ => hcomplete.2.2.2.1]
    | processingCapacity =>
      simp only [cGroupStep,hst,agentStep_complete hcomplete,Series.baseline,Series.cpuBaseline,
        Series.sample,hproc,hcapacity]
      by_cases hflag : tick.fiveSecond=true
      · simp [hflag,(hfive hflag).1]
      · simp [hflag]

/-- The two groups of functions share no counter. -/
theorem fiveEntries_afterSixty (tick : CpuTick) (s : Statics) :
    fiveEntries tick (afterSixty tick s)=fiveEntries tick s := by
  unfold afterSixty
  split <;> rfl

/-- What a complete call hands out in a series. -/
theorem handed_cpu {tick : CpuTick} (h : ReadsComplete tick) (series : Series) (st : Statics) :
    ((cpuStats tick st).outputs.map .cpu).filterMap series.amount=
      (sixtyEntries tick st).filterMap (pick series)++
        (fiveEntries tick st).filterMap (pick series) := by
  rw [filterMap_amount,(cpuStats_ends h st).entries,fiveEntries_afterSixty,List.filterMap_append]

/-- The increments a counter hands out when it is sampled at a value. -/
def handedAt (prev value : ℤ) : List Ieee :=
  (incrementOf none (counterBaseline prev) (some ((value : ℚ)/micros))).toList.map .finite

/-- A counter that is sampled when its flag is set hands out the increment of
its sample. -/
theorem handedAt_ite (flag : Bool) (prev value : ℤ) :
    (if flag=true then handedAt prev value else [])=
      (incrementOf none (counterBaseline prev)
        (if flag=true then some ((value : ℚ)/micros) else none)).toList.map .finite := by
  cases flag with
  | false => simp [incrementOf]
  | true => rfl

/-- The sixty-second entries of a series. -/
theorem pick_sixtyEntries (tick : CpuTick) (st : Statics) (series : Series) :
    (sixtyEntries tick st).filterMap (pick series)=
      if tick.sixtySecond=true then
        match series with
        | .throttledTime => handedAt (st.prev .throttledTime) (valueAt tick throttledUsec)
        | _ => []
      else [] := by
  unfold sixtyEntries
  split
  · cases series with
    | throttledTime => exact pick_entriesOf ..
    | _ => exact pick_entriesOf_ne Series.noConfusion ..
  · rfl

/-- The five-second entries of a series. -/
theorem pick_fiveEntries (tick : CpuTick) (st : Statics) (series : Series) :
    (fiveEntries tick st).filterMap (pick series)=
      if tick.fiveSecond=true then
        match series with
        | .processingTime => handedAt (st.prev .procTime) (valueAt tick usageUsec)
        | .usageTime .system => handedAt (st.prev .sysUsage) (valueAt tick systemUsec)
        | .usageTime .user => handedAt (st.prev .userUsage) (valueAt tick userUsec)
        | .processingCapacity =>
          [.finite (capacitySeconds (st.lastUpdated .capacity) tick.capacityNow)*tick.cpuCount]
        | _ => []
      else [] := by
  unfold fiveEntries
  split
  · have hne {other : Series} (h : other≠series) (prev value : ℤ) :
        (entriesOf other prev value).filterMap (pick series)=[] := pick_entriesOf_ne h prev value
    simp only [List.filterMap_append]
    cases series with
    | processingTime => simp [hne,pick_entriesOf,handedAt,pick]
    | usageTime id => cases id <;> simp [hne,pick_entriesOf,handedAt,pick]
    | processingCapacity => simp [hne,pick]
    | throttledTime => simp [hne,pick]
    | diskIo device activity => simp [hne,pick]
  · rfl

/-- Seconds of capacity between two readings of the clock. -/
theorem capacitySeconds_eq {lastUpdated : ℤ} (h : lastUpdated≠0) (now : ℤ) :
    capacitySeconds lastUpdated now=toDoubleSeconds now-toDoubleSeconds lastUpdated := by
  rw [capacitySeconds,if_neg h,toDoubleSeconds,toDoubleSeconds,toDoubleSeconds,Int.cast_sub,sub_div]

/-- Seconds of capacity of a first call. -/
theorem capacitySeconds_first (now : ℤ) : capacitySeconds 0 now=5 := by
  rw [capacitySeconds,if_pos rfl,sub_sub_cancel,toDoubleSeconds]
  norm_num [abslTicks]

/-- A call of CpuStats hands out the increments of its samples. -/
theorem handed_cpu_step {cpuCount : ℚ} (series : Series) {s : CGroupState} {tick : CpuTick}
    (hs : Sound s) (hallowed : Allowed cpuCount (.cpu tick)) (hclock : ClockForward s (.cpu tick)) :
    (cGroupStep s (.cpu tick)).2.filterMap series.amount=
      (incrementOf (series.opening cpuCount) (series.baseline cpuCount s)
        (series.sample cpuCount (.cpu tick))).toList.map .finite := by
  obtain ⟨⟨st,hst,hfirst⟩,hnumbers⟩ := hs
  obtain ⟨hcomplete,hcount,hsixty,hfive⟩ := hallowed
  simp only [cGroupStep,hst,agentStep_complete hcomplete,handed_cpu hcomplete,pick_sixtyEntries,
    pick_fiveEntries]
  cases series with
  | throttledTime =>
    simp only [Series.baseline,Series.cpuBaseline,Series.sample,Series.opening,hst,ite_self,
      List.append_nil]
    rw [secondsAt_eq fun hflag => (hcomplete.1 hflag).1,handedAt_ite]
  | processingTime =>
    simp only [Series.baseline,Series.cpuBaseline,Series.sample,Series.opening,hst,ite_self,
      List.nil_append]
    rw [secondsAt_eq hcomplete.2.1,handedAt_ite]
  | usageTime id =>
    cases id with
    | system =>
      simp only [Series.baseline,Series.cpuBaseline,Series.sample,Series.opening,hst,ite_self,
        List.nil_append,usecKey]
      rw [secondsAt_eq fun _ => hcomplete.2.2.1,handedAt_ite]
    | user =>
      simp only [Series.baseline,Series.cpuBaseline,Series.sample,Series.opening,hst,ite_self,
        List.nil_append,usecKey]
      rw [secondsAt_eq fun _ => hcomplete.2.2.2.1,handedAt_ite]
  | processingCapacity =>
    cases hflag : tick.fiveSecond with
    | false => simp [Series.sample,hflag,incrementOf]
    | true =>
      obtain ⟨-,hforward⟩ := hclock hflag
      rw [hst] at hforward
      by_cases hproc : 0 ≤ st.prev .procTime
      · have hseconds := capacitySeconds_eq (hforward hproc).1 tick.capacityNow
        simp [Series.baseline,Series.cpuBaseline,Series.sample,hst,hflag,hcount,hproc,hseconds,
          incrementOf]
        ring
      · have hseconds := capacitySeconds_first tick.capacityNow
        simp [Series.baseline,Series.cpuBaseline,Series.sample,Series.opening,hst,hflag,hcount,
          hproc,hfirst (not_le.mp hproc),hseconds,incrementOf]
        ring
  | diskIo device activity => simp [Series.sample,incrementOf]

/-- Amounts of a device are found among its own metrics. -/
theorem filterMap_diskIo (device : Token) (activity : Activity) (outputs : List IoMetric) :
    outputs.filterMap ((Series.diskIo device activity).amount ∘ .io)=
      (outputs.filter (·.device=device)).filterMap
        ((Series.diskIo device activity).amount ∘ .io) := by
  rw [List.filterMap_filter]
  refine List.filterMap_congr fun o _ => ?_
  cases o with
  | increment device' dev activity' delta =>
    by_cases h : device'=device <;> simp [Series.amount,entry,IoMetric.device,h]
  | throttleActivity device' dev activity' utilization => simp [Series.amount,entry]

/-- The increment of a counter of a device, among all that the device hands out. -/
theorem filterMap_deviceMetrics {device : Token} {activity : Activity}
    {prev : Option IOStats} {throttle : Option IOThrottle} {currentStat : IOStats} :
    (deviceMetrics device prev throttle currentStat).filterMap
        ((Series.diskIo device activity).amount ∘ .io)=
      (prev.map fun prevStat => growth prevStat currentStat activity).toList := by
  cases prev with
  | none => rfl
  | some prevStat =>
    have hthrottle : (throttleMetrics device prevStat currentStat throttle).filterMap
        ((Series.diskIo device activity).amount ∘ .io)=[] := by
      rw [List.filterMap_eq_nil_iff]
      intro o ho
      obtain ⟨dev,other,utilization,rfl⟩ := mem_throttleMetrics ho
      rfl
    rw [deviceMetrics,List.filterMap_append,hthrottle]
    cases activity <;> simp [activities,Series.amount,entry]

/-- A call of IOStats hands out the increments of its samples. -/
theorem handed_io_step {cpuCount : ℚ} (series : Series) {s : CGroupState} {tick : IoTick}
    (hs : Sound s) (hparsed : Numbers tick.parsed) :
    (cGroupStep s (.io tick)).2.filterMap series.amount=
      (incrementOf (series.opening cpuCount) (series.baseline cpuCount s)
        (series.sample cpuCount (.io tick))).toList.map .finite := by
  obtain ⟨⟨st,hst,hfirst⟩,hnumbers⟩ := hs
  simp only [cGroupStep,hst,List.filterMap_map]
  have hother (h : ∀ device activity, series≠.diskIo device activity) :
      (ioStats s.previousStats tick).2.filterMap (series.amount ∘ .io)=[] := by
    rw [List.filterMap_eq_nil_iff]
    intro o _
    cases o with
    | increment device dev activity delta =>
      simp [Series.amount,entry,Ne.symm (h device activity)]
    | throttleActivity device dev activity utilization => simp [Series.amount,entry]
  cases series with
  | diskIo device activity =>
    rw [filterMap_diskIo,filter_ioStats]
    simp only [Series.baseline,Series.sample,Series.opening]
    cases hnow : tick.parsed.lookup device with
    | none => simp [incrementOf]
    | some currentStat =>
      obtain ⟨q,hq⟩ := Option.isSome_iff_exists.mp (hparsed device currentStat hnow activity)
      simp only [filterMap_deviceMetrics]
      cases hprev : s.previousStats.lookup device with
      | none => simp [hq,incrementOf]
      | some prevStat =>
        obtain ⟨q',hq'⟩ := Option.isSome_iff_exists.mp (hnumbers device prevStat hprev activity)
        simp [incrementOf,growth,Ieee.number_eq_some.mp hq,Ieee.number_eq_some.mp hq']
  | _ =>
    rw [hother fun _ _ => Series.noConfusion]
    simp [Series.sample,incrementOf]

/-- A value sampled in a steady run is not negative. -/
theorem Steady.sampled_nonneg {cpuCount : ℚ} {history : List CGroupTick}
    (h : Steady cpuCount history) (series : Series) (hseries : series≠.processingCapacity)
    {tick : CpuTick} (htick : .cpu tick∈history) {value : ℤ}
    (hsample : series.sample cpuCount (.cpu tick)=some ((value : ℚ)/micros)) : 0≤value := by
  have hlevel := h.nonneg series hseries _ (List.mem_filterMap.mpr ⟨_,htick,hsample⟩)
  have hmicros : (0 : ℚ) < micros := by norm_num [micros]
  rw [le_div_iff₀ hmicros,zero_mul] at hlevel
  exact_mod_cast hlevel

/-- Every call of a steady run is allowed if it finds cpu.max complete. -/
theorem Steady.allowed {cpuCount : ℚ} {history : List CGroupTick} (h : Steady cpuCount history)
    (hperiods : ∀ tick, .cpu tick∈history → PeriodsRead tick) :
    ∀ tick∈history,Allowed cpuCount tick := by
  intro tick htick
  cases tick with
  | io tick => exact h.numbers tick htick
  | cpu tick =>
    have hcomplete := (h.keys tick htick).complete (hperiods tick htick)
    refine ⟨hcomplete,h.processors tick htick,fun hflag => ?_,fun hflag => ⟨?_,?_,?_⟩⟩
    · refine h.sampled_nonneg .throttledTime Series.noConfusion htick ?_
      rw [Series.sample,secondsAt_eq fun _ => (hcomplete.1 hflag).1,if_pos hflag]
    · refine h.sampled_nonneg .processingTime Series.noConfusion htick ?_
      rw [Series.sample,secondsAt_eq hcomplete.2.1,if_pos hflag]
    · refine h.sampled_nonneg (.usageTime .system) Series.noConfusion htick ?_
      rw [Series.sample,usecKey,secondsAt_eq fun _ => hcomplete.2.2.1,if_pos hflag]
    · refine h.sampled_nonneg (.usageTime .user) Series.noConfusion htick ?_
      rw [Series.sample,usecKey,secondsAt_eq fun _ => hcomplete.2.2.2.1,if_pos hflag]

/-- The agent is sound before the first call. -/
theorem sound_init : Sound .init :=
  ⟨⟨_,rfl,fun _ => rfl⟩,fun device stats h => by simp [CGroupState.init] at h⟩

/-- No series has a baseline before the first call. -/
theorem baseline_init (cpuCount : ℚ) (series : Series) :
    series.baseline cpuCount .init=none := by
  cases series with
  | usageTime id => cases id <;> rfl
  | _ => rfl

/-- An increment of the capacity is not negative at a step that meets the
condition. -/
theorem capacity_nonneg {cpuCount : ℚ} {s : CGroupState} {tick : CGroupTick} (hs : Sound s)
    (hallowed : Allowed cpuCount tick) (hclock : ClockForward s tick) :
    ∀ amount∈incrementOf (Series.processingCapacity.opening cpuCount)
      (Series.processingCapacity.baseline cpuCount s)
        (Series.processingCapacity.sample cpuCount tick),0≤amount := by
  intro amount hamount
  obtain ⟨⟨st,hst,-⟩,-⟩ := hs
  cases tick with
  | io tick => cases hamount
  | cpu tick =>
    simp only [Series.sample,Series.baseline,hst,Series.cpuBaseline,Series.opening] at hamount
    cases hflag : tick.fiveSecond with
    | false =>
      rw [hflag] at hamount
      cases hamount
    | true =>
      obtain ⟨hcount,hforward⟩ := hclock hflag
      rw [hst] at hforward
      have hnonneg : 0 ≤ cpuCount := by
        rw [hallowed.2.1,Bool.eq_false_iff,Ne,Ieee.zero_eq_finite,Ieee.finite_less] at hcount
        exact not_lt.mp hcount
      simp only [hflag,if_true] at hamount
      by_cases hproc : 0 ≤ st.prev .procTime
      · obtain ⟨-,hle⟩ := hforward hproc
        simp only [hproc,if_true,incrementOf,Option.mem_def,Option.some.injEq] at hamount
        rw [←hamount,←mul_sub]
        refine mul_nonneg hnonneg (sub_nonneg.mpr ?_)
        exact div_le_div_of_nonneg_right (Int.cast_le.mpr hle) (by norm_num [abslTicks])
      · simp only [hproc,if_false,incrementOf,Option.mem_def,Option.some.injEq] at hamount
        rw [←hamount]
        positivity

/-- In every run that finds cpu.max complete and at whose five-second calls the
clock has moved forward, the increments of every counter are not negative and
add up to its growth. -/
theorem totals_of_clockForward (history : List CGroupTick)
    (hperiods : ∀ tick, .cpu tick∈history → PeriodsRead tick)
    (hm : Meets cGroupStep ClockForward .init history) : TotalsContract history := by
  intro cpuCount hsteady series
  have hstrong : Meets cGroupStep
      (fun s tick => Sound s ∧ Allowed cpuCount tick ∧ ClockForward s tick) .init history :=
    meets_strengthen (fun _ _ => sound_step) sound_init (hsteady.allowed hperiods) hm
  have hkept (s : CGroupState) (tick : CGroupTick)
      (h : Sound s ∧ Allowed cpuCount tick ∧ ClockForward s tick) :
      series.baseline cpuCount (cGroupStep s tick).1=
        (series.sample cpuCount tick).or (series.baseline cpuCount s) :=
    baseline_step series h.1 h.2.1
  have hamounts := filterMap_runOutput Ieee.finite (series.baseline cpuCount)
    (series.sample cpuCount) hkept (fun s tick h => by
      cases tick with
      | cpu tick => exact handed_cpu_step series h.1 h.2.1 h.2.2
      | io tick => exact handed_io_step series h.1 h.2.1) hstrong
  rw [baseline_init] at hamounts
  refine ⟨_,hamounts,sum_incrementsOf_none _ _,?_⟩
  by_cases hseries : series=.processingCapacity
  · subst hseries
    have hnonneg := incrementsOf_run_nonneg hkept
      (fun s tick h => capacity_nonneg h.1 h.2.1 h.2.2) hstrong
    rwa [baseline_init] at hnonneg
  · refine incrementsOf_nonneg (fun amount hamount => ?_) (hsteady.monotone series hseries)
    cases series with
    | processingCapacity => exact absurd rfl hseries
    | _ => cases hamount

/-- A call with both flags of two processors. -/
def grownCall (now : ℤ) (cpuStat : String) : CGroupTick :=
  .cpu ⟨true,true,some cpuStat.toList,none,some "max 100000\n".toList,some "max 100000\n".toList,
    some ['2'],now,now,now⟩

/-- A call of IOStats with one device. -/
def ioTick (ioStat : String) : IoTick :=
  ⟨0,some ioStat.toList,
    some "   8       0 sda 1 0 2 0 3 0 4 0 0 0 0 0 0 0 0 0 0\n".toList,none⟩

/-- cpu.stat at the first call and at the second one. -/
def firstStat : String :=
  "usage_usec 5\nuser_usec 3\nsystem_usec 2\nnr_throttled 1\nthrottled_usec 4\n"

def secondStat : String :=
  "usage_usec 4000005\nuser_usec 1000003\nsystem_usec 3000002\nnr_throttled 2\n"++
    "throttled_usec 500004\n"

/-- io.stat at the calls of IOStats. -/
def firstIo : String := "8:0 rbytes=100 wbytes=200 rios=3 wios=4 dbytes=0 dios=0\n"

def secondIo : String := "8:0 rbytes=600 wbytes=200 rios=3 wios=4 dbytes=0 dios=0\n"

/-- Calls of both functions between which every counter of the first one and one
of the second one grow. -/
def grownCalls : List CGroupTick :=
  [grownCall (10*abslTicks) firstStat,.io (ioTick firstIo),
    grownCall (15*abslTicks) secondStat,.io (ioTick secondIo)]

/-- The calls of CpuStats among them. -/
theorem cpu_mem_grownCalls {tick : CpuTick} (h : .cpu tick∈grownCalls) :
    ∃ now,∃ stat∈[firstStat,secondStat],.cpu tick=grownCall now stat := by
  simp only [grownCalls,List.mem_cons,List.not_mem_nil,or_false,reduceCtorEq,false_or] at h
  rcases h with hfirst|hsecond
  · exact ⟨_,_,by simp,hfirst⟩
  · exact ⟨_,_,by simp,hsecond⟩

/-- The calls of IOStats among them. -/
theorem io_mem_grownCalls {tick : IoTick} (h : .io tick∈grownCalls) :
    ∃ stat∈[firstIo,secondIo],tick=ioTick stat := by
  simp only [grownCalls,grownCall,List.mem_cons,CGroupTick.io.injEq,List.not_mem_nil,or_false,
    reduceCtorEq,false_or] at h
  rcases h with hfirst|hsecond
  · exact ⟨_,by simp,hfirst⟩
  · exact ⟨_,by simp,hsecond⟩

/-- They find the keys of cpu.stat, cpu.max complete and two processors. -/
theorem grownCalls_read {tick : CpuTick} (h : .cpu tick∈grownCalls) :
    KeysRead tick ∧ PeriodsRead tick ∧ tick.cpuCount=.finite 2 := by
  have hkeys : ∀ stat∈[firstStat,secondStat],∀ key∈[throttledUsec,nrThrottled,usageUsec,systemUsec,
      userUsec],HasKey (some stat.toList) key := by
    have hfound : ∀ stat∈[firstStat,secondStat],∀ key∈[throttledUsec,nrThrottled,usageUsec,
        systemUsec,userUsec],((parseKvFromFile (some stat.toList)).lookup key).isSome=true := by
      decide +kernel
    exact fun stat hstat key hkey =>
      lookup_parseKvFromFile.mp (Option.isSome_iff_exists.mp (hfound stat hstat key hkey))
  have hfield : HasSecondField (some "max 100000\n".toList) :=
    second_readNumVectorFromFile.mp ⟨100000,by decide +kernel⟩
  obtain ⟨now,stat,hstat,heq⟩ := cpu_mem_grownCalls h
  cases heq
  have hread := hkeys stat hstat
  simp only [List.forall_mem_cons] at hread
  obtain ⟨hthrottled,hnumber,husage,hsystem,huser,-⟩ := hread
  have hcount : getNumCpu (some ['2'])=.finite 2 := by decide +kernel
  exact ⟨⟨fun _ => ⟨hthrottled,hnumber⟩,fun _ => husage,hsystem,huser⟩,⟨fun _ => hfield,hfield⟩,
    hcount⟩

/-- A device that io.stat does not name is not parsed. -/
theorem grownCalls_device {tick : IoTick} (h : .io tick∈grownCalls) {device : Token}
    (hdevice : device≠"8:0".toList) : tick.parsed.lookup device=none := by
  have hkeys : ∀ stat∈[firstIo,secondIo],(ioTick stat).parsed.keys=["8:0".toList] := by
    decide +kernel
  obtain ⟨stat,hstat,rfl⟩ := io_mem_grownCalls h
  refine AList.lookup_eq_none.mpr fun hmem => ?_
  rw [AList.mem_keys,hkeys stat hstat] at hmem
  exact hdevice (List.mem_singleton.mp hmem)

/-- Of the device that it names every number is read. -/
theorem grownCalls_numbers {tick : IoTick} (h : .io tick∈grownCalls) {device : Token}
    {stats : IOStats} (hstats : tick.parsed.lookup device=some stats) (activity : Activity) :
    (stats.value activity.statistic).number.isSome=true := by
  have hnumbers : ∀ stat∈[firstIo,secondIo],∀ stats∈(ioTick stat).parsed.lookup "8:0".toList,
      ∀ activity∈activities,(stats.value activity.statistic).number.isSome=true := by
    decide +kernel
  by_cases hdevice : device="8:0".toList
  · obtain ⟨stat,hstat,rfl⟩ := io_mem_grownCalls h
    rw [hdevice] at hstats
    exact hnumbers stat hstat stats hstats activity (mem_activities activity)
  · rw [grownCalls_device h hdevice] at hstats
    cases hstats

/-- The samples of every series rise from zero on. -/
theorem grownCalls_rising (series : Series) (h : series≠.processingCapacity) :
    (∀ level∈grownCalls.filterMap (series.sample 2),0≤level) ∧
      (grownCalls.filterMap (series.sample 2)).Pairwise (·≤·) := by
  cases series with
  | processingCapacity => exact absurd rfl h
  | throttledTime => decide +kernel
  | processingTime => decide +kernel
  | usageTime id => cases id <;> decide +kernel
  | diskIo device activity =>
    by_cases hdevice : device="8:0".toList
    · subst hdevice
      cases activity <;> decide +kernel
    · have hnone : grownCalls.filterMap (Series.sample 2 (.diskIo device activity))=[] := by
        refine List.filterMap_eq_nil_iff.mpr fun tick htick => ?_
        cases tick with
        | cpu tick => rfl
        | io tick => rw [Series.sample,grownCalls_device htick hdevice]; rfl
      rw [hnone]
      exact ⟨List.forall_mem_nil _,.nil⟩

theorem grownCalls_steady : Steady 2 grownCalls where
  keys _ htick := (grownCalls_read htick).1
  processors _ htick := (grownCalls_read htick).2.2
  numbers _ htick _ _ hstats activity := grownCalls_numbers htick hstats activity
  nonneg series h := (grownCalls_rising series h).1
  monotone series h := (grownCalls_rising series h).2

/-- Five seconds apart, two processors have done four seconds of work and were
held back for half a second, and a device has been read. -/
theorem totals_fiveSecondsApart :
    TotalsContract grownCalls ∧ Steady 2 grownCalls ∧
      let added := fun series : Series =>
        (runOutput cGroupStep .init grownCalls).filterMap series.amount
      added .processingCapacity=[.finite 10,.finite 10] ∧ added .processingTime=[.finite 4] ∧
        added (.usageTime .user)=[.finite 1] ∧ added .throttledTime=[.finite (1/2)] ∧
        added (.diskIo "8:0".toList .readBytes)=[.finite 500] ∧
        added (.diskIo "8:0".toList .writeBytes)=[.finite 0] :=
  ⟨totals_of_clockForward _ (fun _ htick => (grownCalls_read htick).2.1) (by decide +kernel),
    grownCalls_steady,by decide +kernel⟩

/-- cpu.stat of the calls below. -/
def idleStat : Token := "usage_usec 5\nuser_usec 3\nsystem_usec 2\n".toList

/-- A five-second call of two processors at a reading of the clock. -/
def capacityCall (now : ℤ) : CGroupTick :=
  .cpu ⟨true,false,some idleStat,none,none,some "max 100000\n".toList,some ['2'],now,now,now⟩

/-- A call of CpuStats among two of these is one of them. -/
theorem mem_capacityCalls {first second : ℤ} {tick : CpuTick}
    (h : .cpu tick∈[capacityCall first,capacityCall second]) :
    ∃ now, tick=⟨true,false,some idleStat,none,none,some "max 100000\n".toList,some ['2'],
      now,now,now⟩ := by
  simp only [capacityCall,List.mem_cons,CGroupTick.cpu.injEq,List.not_mem_nil,or_false] at h
  rcases h with hfirst|hsecond
  · exact ⟨first,hfirst⟩
  · exact ⟨second,hsecond⟩

/-- Two such calls read what is promised, whatever the clock does. -/
theorem capacityCalls_steady (first second : ℤ) :
    Steady 2 [capacityCall first,capacityCall second] := by
  have husage : (parseKvFromFile (some idleStat)).lookup usageUsec=some 5 := by decide +kernel
  have husystem : (parseKvFromFile (some idleStat)).lookup systemUsec=some 2 := by decide +kernel
  have huser : (parseKvFromFile (some idleStat)).lookup userUsec=some 3 := by decide +kernel
  have hcount : getNumCpu (some ['2'])=.finite 2 := by decide +kernel
  have hsamples (series : Series) (h : series≠.processingCapacity) :
      ∃ level : ℚ,0≤level ∧ ([capacityCall first,capacityCall second].filterMap
        (series.sample 2)=[] ∨ [capacityCall first,capacityCall second].filterMap
          (series.sample 2)=[level,level]) := by
    cases series with
    | processingCapacity => exact absurd rfl h
    | throttledTime => exact ⟨0,le_rfl,Or.inl rfl⟩
    | diskIo device activity => exact ⟨0,le_rfl,Or.inl rfl⟩
    | processingTime =>
      refine ⟨5/micros,by norm_num [micros],Or.inr ?_⟩
      simp [capacityCall,Series.sample,secondsAt,CpuTick.stats,husage]
    | usageTime id =>
      cases id with
      | system =>
        refine ⟨2/micros,by norm_num [micros],Or.inr ?_⟩
        simp [capacityCall,Series.sample,secondsAt,CpuTick.stats,usecKey,husystem]
      | user =>
        refine ⟨3/micros,by norm_num [micros],Or.inr ?_⟩
        simp [capacityCall,Series.sample,secondsAt,CpuTick.stats,usecKey,huser]
  refine ⟨?_,?_,?_,fun series h => ?_,fun series h => ?_⟩
  · intro tick htick
    obtain ⟨now,rfl⟩ := mem_capacityCalls htick
    exact ⟨Bool.noConfusion,fun _ => lookup_parseKvFromFile.mp ⟨5,husage⟩,
      lookup_parseKvFromFile.mp ⟨2,husystem⟩,lookup_parseKvFromFile.mp ⟨3,huser⟩⟩
  · intro tick htick
    obtain ⟨now,rfl⟩ := mem_capacityCalls htick
    exact hcount
  · intro tick htick
    simp [capacityCall] at htick
  · obtain ⟨level,hlevel,hnone|hboth⟩ := hsamples series h
    · simp [hnone]
    · simp [hboth,hlevel]
  · obtain ⟨level,hlevel,hnone|hboth⟩ := hsamples series h
    · simp [hnone]
    · simp [hboth]

/-- A clock set back by six seconds between two calls takes twelve processor
seconds away. -/
theorem clockSetBack_negative :
    ¬TotalsContract [capacityCall (10*abslTicks),capacityCall (4*abslTicks)] := by
  intro h
  obtain ⟨amounts,hamounts,-,hnonneg⟩ := h 2 (capacityCalls_steady _ _) .processingCapacity
  have hvalue : (runOutput cGroupStep .init
      [capacityCall (10*abslTicks),capacityCall (4*abslTicks)]).filterMap
        Series.processingCapacity.amount=[.finite 10,.finite (-12)] := by decide +kernel
  rw [hvalue] at hamounts
  have hmem : Ieee.finite (-12)∈amounts.map Ieee.finite := hamounts ▸ by simp
  obtain ⟨amount,ha,heq⟩ := List.mem_map.mp hmem
  have hbound := hnonneg amount ha
  rw [Ieee.finite.inj heq] at hbound
  exact absurd hbound (by norm_num)

end AtlasAgent.CGroupTotals
