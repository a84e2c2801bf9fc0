import AtlasAgent.CGroupFootprint
import AtlasAgent.LatestSample

/-!
# The rates of the control group's CPU utilization

CpuUtilizationV2 and CpuPeakUtilizationV2 publish the growth of two counters
over the time of the processors between two calls. Each function keeps its
own time and its own counters, so each is a rate function with a view of the
statics that the rest of CpuStats leaves alone.
-/

namespace AtlasAgent.CGroupUtilization

open CGroupCpu CGroupFootprint Effects FileReaders IeeeDouble LatestSample RunHistory TextFields

/-- The two functions that publish a rate. -/
inductive RateFunction
  /-- CpuUtilizationV2, at sixty-second calls. -/
  | utilization
  /-- CpuPeakUtilizationV2, at every call. -/
  | peak
  deriving DecidableEq

instance : Fintype RateFunction := ⟨{.utilization,.peak},fun f => by cases f <;> decide⟩

namespace RateFunction

def timer : RateFunction → Timer
  | utilization => .utilization
  | peak => .peak

def counter : RateFunction → CpuId → Counter
  | utilization,.system => .utilizationSystem
  | utilization,.user => .utilizationUser
  | peak,.system => .peakSystem
  | peak,.user => .peakUser

/-- The function runs at a call. -/
def runs : RateFunction → CpuTick → Bool
  | utilization,tick => tick.sixtySecond
  | peak,_ => true

/-- The clock it reads. -/
def now : RateFunction → CpuTick → ℤ
  | utilization,tick => tick.utilizationNow
  | peak,tick => tick.peakNow

/-- cpu.max as it finds it. -/
def cpuMax : RateFunction → CpuTick → Option Token
  | utilization,tick => tick.utilizationMax
  | peak,tick => tick.peakMax

/-- The metric it sets. -/
def metric : RateFunction → CpuId → Ieee → CpuMetric
  | utilization => .utilization
  | peak => .peakUtilization

end RateFunction

/-- The key of cpu.stat behind a tag. -/
def usecKey : CpuId → Token
  | .system => systemUsec
  | .user => userUsec

/-- What a rate function finds in the statics. -/
structure RateView where
  lastUpdated : ℤ
  prev : CpuId → ℤ

/-- The statics of a rate function. -/
def view (f : RateFunction) (s : Statics) : RateView :=
  ⟨s.lastUpdated f.timer,fun id => s.prev (f.counter id)⟩

/-- The view holds what the function read at the call before, or nothing. -/
def Based (f : RateFunction) (earlier : Option CpuTick) (v : RateView) : Prop :=
  match earlier with
  | none => ∀ id, v.prev id<0
  | some before => v.lastUpdated=f.now before ∧
      ∀ id, before.stats.lookup (usecKey id)=some (v.prev id)

/-- Processor seconds between two calls of a rate function. -/
def available (f : RateFunction) (before tick : CpuTick) : Ieee :=
  tick.cpuCount*.finite (toDoubleSeconds (f.now tick-f.now before))

/-- The value is the growth of one key between two calls, as a percentage of
the processor seconds between the same two calls, which are not zero. -/
def RateBetween (f : RateFunction) (id : CpuId) (before tick : CpuTick) (value : Ieee) : Prop :=
  ∃ usec usec', tick.stats.lookup (usecKey id)=some usec ∧
    before.stats.lookup (usecKey id)=some usec' ∧ available f before tick≠0 ∧
      value=.finite (100*(usec-usec' : ℤ)/1000000)/available f before tick

/-- A value that a rate function sets is a rate since the call before. -/
def Lawful (f : RateFunction) (earlier : Option CpuTick) (tick : CpuTick) (o : CpuMetric) : Prop :=
  ∀ id value, o=f.metric id value →
    ∃ before, earlier=some before ∧ RateBetween f id before tick value

/-- The call at which a rate function ran. -/
def ran (f : RateFunction) (tick : CpuTick) : Option CpuTick :=
  if f.runs tick then some tick else none

/-- What is promised of the calls of a run: wherever a rate function runs, its
clock has moved on and the second field of cpu.max is positive. -/
structure Regular (history : List CpuTick) : Prop where
  increasing : ∀ f : RateFunction, history.Pairwise fun before tick =>
    f.runs before=true → f.runs tick=true → f.now before<f.now tick
  period : ∀ f : RateFunction, ∀ tick∈history, f.runs tick=true →
    ∀ cfsPeriod, (readNumVectorFromFile (f.cpuMax tick))[1]?=some cfsPeriod → 0<cfsPeriod

/-- Every value set on either metric in a run is a rate since the latest call
at which the same function ran. -/
def RateContract (history : List CpuTick) : Prop :=
  Regular history → ∀ before tick after, history=before++tick::after →
    ∀ f, ∀ o∈outputAfter agentStep (.running .init) before tick,
      Lawful f (latest (ran f) before) tick o

/-- A rate function that has a baseline finds processors to divide by, and a
time that it does not take for a first call. -/
def Divisible (f : RateFunction) (v : RateView) (tick : CpuTick) : Prop :=
  f.runs tick=true → (∃ id, 0≤v.prev id) →
    tick.cpuCount≠0 ∧ (f=.utilization → v.lastUpdated≠0)

instance (f : RateFunction) (v : RateView) (tick : CpuTick) : Decidable (Divisible f v tick) :=
  inferInstanceAs (Decidable (_ → _ → _))

/-- The condition on a step of the agent: both functions can divide. -/
def DivisorsReady : Agent → CpuTick → Prop
  | .ended,_ => True
  | .running s,tick => ∀ f, Divisible f (view f s) tick

instance : ∀ agent tick,Decidable (DivisorsReady agent tick)
  | .ended,_ => .isTrue trivial
  | .running s,tick => inferInstanceAs (Decidable (∀ f, Divisible f (view f s) tick))

/-- The statics of a rate function and its metric. -/
def RateFunction.footprint (f : RateFunction) : Footprint :=
  ⟨fun counter => ∃ id, f.counter id=counter,(f.timer = ·),
    fun o => ∃ id value, f.metric id value=o⟩

/-- A program avoids the footprint of each function it is foreign to. -/
theorem avoids_keeps {f : RateFunction} {program : CpuProgram Unit} (h : Avoids f.footprint program)
    (earlier : Option CpuTick) (tick : CpuTick) (Known : RateView → Prop) :
    Triple (fun s => Known (view f s)) program (Lawful f earlier tick)
      fun _ s => Known (view f s) := by
  intro s hs
  obtain ⟨hout,hsame⟩ := h s s (SameOn.refl f.footprint s)
  refine ⟨fun o ho id value hmetric => absurd ⟨id,value,hmetric.symm⟩ (hout o ho),fun u hu => ?_⟩
  obtain ⟨hprev,hupdated⟩ := hsame u hu
  have hview : view f (program s).state=view f s :=
    congrArg₂ RateView.mk (hupdated f.timer rfl) (funext fun id => hprev _ ⟨id,rfl⟩)
  exact (congrArg Known hview).mpr hs

/-- The two blocks at the end of a rate function. -/
def rateSamples (f : RateFunction) (tick : CpuTick) (availCpuTime : Ieee) : CpuProgram Unit := do
  sampleCounter tick.stats systemUsec (f.counter .system)
    fun secs => f.metric .system (percentOf availCpuTime secs)
  sampleCounter tick.stats userUsec (f.counter .user)
    fun secs => f.metric .user (percentOf availCpuTime secs)

/-- The sixty-second functions are foreign to the peak rate. -/
theorem sixtySecond_avoids (tick : CpuTick) :
    Avoids RateFunction.peak.footprint (if tick.sixtySecond then do
      cpuThrottleV2 tick.stats
      cpuUtilizationV2 tick (60*abslTicks)
      else pure ()) := by
  refine .when (.seq (.cpuThrottleV2 ?_ ?_ ?_ _) fun _ =>
    .cpuUtilizationV2 ?_ ?_ ?_ ?_ ?_ ?_ ?_ tick _)
  all_goals simp [RateFunction.footprint,RateFunction.counter,RateFunction.timer,
    RateFunction.metric,CpuId.exists]

/-- The throttle function is foreign to the rate of its own calls. -/
theorem cpuThrottleV2_avoids (stats : Stats) :
    Avoids RateFunction.utilization.footprint (cpuThrottleV2 stats) := by
  refine .cpuThrottleV2 ?_ ?_ ?_ _
  all_goals simp [RateFunction.footprint,RateFunction.counter,RateFunction.metric,CpuId.exists]

/-- The five-second functions are foreign to both rates. -/
theorem fiveSecond_avoids (f : RateFunction) (tick : CpuTick) :
    Avoids f.footprint (if tick.fiveSecond then do
      cpuTimeV2 tick.stats
      cpuProcessingCapacity tick.capacityNow tick.cpuCount (5*abslTicks)
      else pure ()) := by
  refine .when (.seq (.cpuTimeV2 ?_ ?_ ?_ ?_ ?_ _) fun _ => .cpuProcessingCapacity ?_ ?_ _ _ _)
  all_goals cases f <;> simp [RateFunction.footprint,RateFunction.counter,RateFunction.timer,
    RateFunction.metric,CpuId.exists]

/-- The peak function is foreign to the other rate. -/
theorem cpuPeakUtilizationV2_avoids (tick : CpuTick) :
    Avoids RateFunction.utilization.footprint (cpuPeakUtilizationV2 tick) := by
  refine .cpuPeakUtilizationV2 ?_ ?_ ?_ ?_ tick
  all_goals simp [RateFunction.footprint,RateFunction.counter,RateFunction.timer,
    RateFunction.metric,CpuId.exists]

theorem metric_inj {f : RateFunction} {id id' : CpuId} {value value' : Ieee}
    (h : f.metric id value=f.metric id' value') : id=id' ∧ value=value' := by
  cases f
  · exact CpuMetric.utilization.inj h
  · exact CpuMetric.peakUtilization.inj h

/-- The percentage published with the right processor time is the rate. -/
theorem percentOf_available {f : RateFunction} {before tick : CpuTick} {usec usec' : ℤ} :
    percentOf (available f before tick) ((usec-usec' : ℤ)/micros)=
      .finite (100*(usec-usec' : ℤ)/1000000)/available f before tick := by
  rw [percentOf,Ieee.div_mul_of_pos (by norm_num),Ieee.finite_mul,micros]
  congr 2
  ring

/-- With the processor time since the call before, the two blocks publish
rates and leave the values of this call. -/
theorem rateSamples_lawful {f : RateFunction} {earlier : Option CpuTick} {tick : CpuTick}
    {availCpuTime : Ieee} {prev : CpuId → ℤ} {last : ℤ} (hbased : Based f earlier ⟨last,prev⟩)
    (havail : ∀ before, earlier=some before → (∃ id, 0≤prev id) →
      availCpuTime=available f before tick ∧ available f before tick≠0) :
    Triple (view f · = ⟨f.now tick,prev⟩) (rateSamples f tick availCpuTime) (Lawful f earlier tick)
      fun _ s => Based f (some tick) (view f s) := by
  have hlawful (id : CpuId) (value : ℤ) (hvalue : tick.stats.lookup (usecKey id)=some value)
      (hprev : 0≤prev id) :
      Lawful f earlier tick
        (f.metric id (percentOf availCpuTime ((value-prev id : ℤ)/micros))) := by
    intro id' value' hmetric
    obtain ⟨rfl,rfl⟩ := metric_inj hmetric
    cases earlier with
    | none => exact absurd hprev (not_le.mpr (hbased id))
    | some before =>
      obtain ⟨hav,hne⟩ := havail before rfl ⟨id,hprev⟩
      refine ⟨before,rfl,value,prev id,hvalue,hbased.2 id,hne,?_⟩
      rw [hav,percentOf_available]
  have hcounters : f.counter .user≠f.counter .system := by cases f <;> decide
  refine triple_bind (fun _ s => s.lastUpdated f.timer=f.now tick ∧
      s.prev (f.counter .user)=prev .user ∧
        tick.stats.lookup systemUsec=some (s.prev (f.counter .system)))
    (triple_sampleCounter fun s value hs hvalue => ⟨fun hprev => ?_,fun _ => ?_⟩)
    fun _ => triple_sampleCounter fun s value hs hvalue => ⟨fun hprev => ?_,fun _ => ?_⟩
  · have hsystem : s.prev (f.counter .system)=prev .system :=
      congrFun (RateView.mk.inj hs).2 .system
    rw [hsystem] at hprev ⊢
    exact hlawful .system value hvalue hprev
  · have hview := RateView.mk.inj hs
    refine ⟨hview.1,?_,?_⟩
    · rw [←congrFun hview.2 .user]
      exact setPrev_of_ne hcounters s value
    · rw [hvalue,setPrev_self]
  · obtain ⟨-,huser,-⟩ := hs
    rw [huser] at hprev ⊢
    exact hlawful .user value hvalue hprev
  · obtain ⟨hlast,-,hsystem⟩ := hs
    refine ⟨hlast,fun id => ?_⟩
    cases id with
    | system => exact hsystem.trans (congrArg some (setPrev_of_ne hcounters.symm s value).symm)
    | user => exact hvalue.trans (congrArg some (setPrev_self ..).symm)

/-- What a rate function needs in order to divide: with a baseline from the
call before, processors, a time and a clock that has moved on. -/
def Ready (f : RateFunction) (earlier : Option CpuTick) (v : RateView) (tick : CpuTick) : Prop :=
  ∀ before, earlier=some before → (∃ id, 0≤v.prev id) →
    tick.cpuCount≠0 ∧ (f=.utilization → v.lastUpdated≠0) ∧ f.now before<f.now tick

/-- The processor time of a ready function is not zero. -/
theorem available_ne_zero {f : RateFunction} {before tick : CpuTick} (hcount : tick.cpuCount≠0)
    (hnow : f.now before<f.now tick) : available f before tick≠0 := by
  refine Ieee.mul_finite_ne_zero hcount (div_ne_zero ?_ (by norm_num [abslTicks]))
  exact Int.cast_ne_zero.mpr (sub_pos.mpr hnow).ne'

/-- The processor time computed from any period is the one between the calls. -/
theorem availCpuTime_eq {f : RateFunction} {before tick : CpuTick} {cfsPeriod : ℤ}
    (h : 0<cfsPeriod) :
    Ieee.finite (toDoubleSeconds (f.now tick-f.now before))/.finite cfsPeriod*
      (.finite cfsPeriod*tick.cpuCount)=available f before tick :=
  Ieee.div_mul_mul_cancel (Int.cast_pos.mpr h) _ _

/-- CpuUtilizationV2 publishes rates since the call before. -/
theorem cpuUtilizationV2_lawful {earlier : Option CpuTick} {tick : CpuTick} {v : RateView}
    (hperiod : ∀ cfsPeriod : ℤ,
      (readNumVectorFromFile tick.utilizationMax)[1]?=some cfsPeriod → 0<cfsPeriod)
    (hbased : Based .utilization earlier v) (hready : Ready .utilization earlier v tick)
    (interval : ℤ) :
    Triple (view .utilization · = v) (cpuUtilizationV2 tick interval)
      (Lawful .utilization earlier tick)
        fun _ s => Based .utilization (some tick) (view .utilization s) := by
  let next : RateView := ⟨tick.utilizationNow,v.prev⟩
  have hsilent {o : CpuMetric} (ho : ∀ id value, o≠.utilization id value) :
      Lawful .utilization earlier tick o := fun id value h => absurd h (ho id value)
  unfold cpuUtilizationV2
  refine triple_bind (fun deltaT s => view .utilization s=next ∧ (v.lastUpdated≠0 →
      deltaT=toDoubleSeconds (tick.utilizationNow-v.lastUpdated)))
    (triple_elapsedSince fun s hs => ?_) fun deltaT => ?_
  · subst hs
    refine ⟨?_,fun hne => congrArg (fun last => toDoubleSeconds (tick.utilizationNow-last))
      (if_neg hne)⟩
    exact congrArg (RateView.mk · _) (setUpdated_self s .utilization _)
  refine triple_bind (fun _ s => view .utilization s=next ∧ (v.lastUpdated≠0 →
      deltaT=toDoubleSeconds (tick.utilizationNow-v.lastUpdated)))
    (triple_when (fun _ => triple_emit (fun _ _ => ?_) fun _ hs _ => hs) fun _ _ hs _ => hs)
    fun _ => ?_
  · exact hsilent fun _ _ => CpuMetric.noConfusion
  refine triple_bind (fun availCpuTime s => view .utilization s=next ∧
      ∀ before, earlier=some before → (∃ id, 0≤v.prev id) →
        availCpuTime=available .utilization before tick ∧ available .utilization before tick≠0)
    (triple_getAvailCpuTime fun s cfsPeriod hs hfile => ⟨hs.1,fun before hb hid => ?_⟩)
    fun availCpuTime => ?_
  · obtain ⟨hcount,hlast,hnow⟩ := hready before hb hid
    subst hb
    rw [hs.2 (hlast rfl),hbased.1]
    exact ⟨availCpuTime_eq (f := .utilization) (hperiod cfsPeriod hfile),
      available_ne_zero hcount hnow⟩
  refine triple_bind _ (triple_emit (fun _ _ => hsilent fun _ _ => CpuMetric.noConfusion)
    fun _ hs _ => hs) fun _ => ?_
  refine triple_bind _ (triple_emit (fun _ _ => hsilent fun _ _ => CpuMetric.noConfusion)
    fun _ hs _ => hs) fun _ => ?_
  exact fun s hs => rateSamples_lawful (f := .utilization) hbased hs.2 s hs.1

/-- So does CpuPeakUtilizationV2. -/
theorem cpuPeakUtilizationV2_lawful {earlier : Option CpuTick} {tick : CpuTick} {v : RateView}
    (hperiod : ∀ cfsPeriod : ℤ,
      (readNumVectorFromFile tick.peakMax)[1]?=some cfsPeriod → 0<cfsPeriod)
    (hbased : Based .peak earlier v) (hready : Ready .peak earlier v tick) :
    Triple (view .peak · = v) (cpuPeakUtilizationV2 tick) (Lawful .peak earlier tick)
      fun _ s => Based .peak (some tick) (view .peak s) := by
  let next : RateView := ⟨tick.peakNow,v.prev⟩
  unfold cpuPeakUtilizationV2
  refine triple_getState fun s hs => ?_
  refine triple_bind (fun _ s' => view .peak s'=next) (triple_modifyState fun s' hs' _ => ?_)
    fun _ => ?_
  · subst hs' hs
    exact congrArg (RateView.mk · _) (setUpdated_self s' .peak _)
  refine triple_bind (fun availCpuTime s' => view .peak s'=next ∧
      ∀ before, earlier=some before → (∃ id, 0≤v.prev id) →
        availCpuTime=available .peak before tick ∧ available .peak before tick≠0)
    (triple_getAvailCpuTime fun s' cfsPeriod hs' hfile => ⟨hs',fun before hb hid => ?_⟩)
    fun availCpuTime => ?_
  · obtain ⟨hcount,-,hnow⟩ := hready before hb hid
    subst hb
    have hlast : s.lastUpdated .peak=before.peakNow :=
      (congrArg RateView.lastUpdated hs).trans hbased.1
    rw [hlast]
    exact ⟨availCpuTime_eq (f := .peak) (hperiod cfsPeriod hfile),available_ne_zero hcount hnow⟩
  exact fun s' hs' => rateSamples_lawful (f := .peak) hbased hs'.2 s' hs'.1

/-- One call of CpuStats, seen from one of its rate functions. -/
theorem cpuStats_lawful (f : RateFunction) {earlier : Option CpuTick} {tick : CpuTick}
    {v : RateView} (hperiod : f.runs tick=true → ∀ cfsPeriod : ℤ,
      (readNumVectorFromFile (f.cpuMax tick))[1]?=some cfsPeriod → 0<cfsPeriod)
    (hbased : Based f earlier v) (hready : f.runs tick=true → Ready f earlier v tick) :
    Triple (view f · = v) (cpuStats tick) (Lawful f earlier tick)
      fun _ s => Based f ((ran f tick).or earlier) (view f s) := by
  unfold cpuStats
  cases f with
  | utilization =>
    let Known : RateView → Prop := Based .utilization ((ran .utilization tick).or earlier)
    refine triple_bind (fun _ s => Known (view .utilization s)) ?_ fun _ => triple_bind _
      (avoids_keeps (fiveSecond_avoids _ tick) earlier tick Known) fun _ =>
        avoids_keeps (cpuPeakUtilizationV2_avoids tick) earlier tick Known
    refine triple_when (fun hsixty => ?_) fun hsixty s hs _ => ?_
    · refine triple_bind (fun _ s => view .utilization s=v)
        (avoids_keeps (cpuThrottleV2_avoids tick.stats) earlier tick (· = v)) fun _ => ?_
      have hran : (ran .utilization tick).or earlier=some tick := by
        simp [ran,RateFunction.runs,hsixty]
      simp only [Known,hran]
      exact cpuUtilizationV2_lawful (hperiod hsixty) hbased (hready hsixty) _
    · have hran : (ran .utilization tick).or earlier=earlier := by
        simp [ran,RateFunction.runs,hsixty]
      simp only [Known,hran,hs]
      exact hbased
  | peak =>
    refine triple_bind _ (avoids_keeps (sixtySecond_avoids tick) earlier tick (· = v)) fun _ => ?_
    refine triple_bind _ (avoids_keeps (fiveSecond_avoids _ tick) earlier tick (· = v)) fun _ => ?_
    exact cpuPeakUtilizationV2_lawful (hperiod rfl) hbased (hready rfl)

/-- A part of a regular run from its beginning is regular. -/
theorem Regular.of_append {before after : List CpuTick} (h : Regular (before++after)) :
    Regular before :=
  ⟨fun f => (List.pairwise_append.mp (h.increasing f)).1,
    fun f tick ht => h.period f tick (List.mem_append_left _ ht)⟩

/-- A latest call at which a rate function ran is one of the history. -/
theorem latest_ran {f : RateFunction} {history : List CpuTick} {earlier : CpuTick}
    (h : latest (ran f) history=some earlier) : earlier∈history ∧ f.runs earlier=true := by
  obtain ⟨before,input,after,rfl,hran,-⟩ := latest_eq_some_iff.mp h
  obtain ⟨hruns,rfl⟩ : f.runs input=true ∧ input=earlier := by simpa [ran] using hran
  exact ⟨by simp,hruns⟩

/-- In a regular run a function that can divide is ready. -/
theorem ready_of_divisible {f : RateFunction} {before : List CpuTick} {tick : CpuTick}
    {v : RateView} (hregular : Regular (before++[tick])) (hdiv : Divisible f v tick)
    (hruns : f.runs tick=true) : Ready f (latest (ran f) before) v tick := by
  intro earlier hearlier hid
  obtain ⟨hmem,hran⟩ := latest_ran hearlier
  obtain ⟨hcount,hlast⟩ := hdiv hruns hid
  have hpair := (List.pairwise_append.mp (hregular.increasing f)).2.2 earlier hmem tick (by simp)
  exact ⟨hcount,hlast,hpair hran hruns⟩

/-- One call of a regular run publishes rates since the latest calls, and
leaves the views of this one. -/
theorem call_lawful {before : List CpuTick} {tick : CpuTick} {s : Statics} (f : RateFunction)
    (hregular : Regular (before++[tick])) (hbased : Based f (latest (ran f) before) (view f s))
    (hdiv : Divisible f (view f s) tick) :
    (∀ o∈(cpuStats tick s).outputs,Lawful f (latest (ran f) before) tick o) ∧
      ((cpuStats tick s).result=.ok () →
        Based f (latest (ran f) (before++[tick])) (view f (cpuStats tick s).state)) := by
  obtain ⟨hout,hafter⟩ := cpuStats_lawful f (hregular.period f tick (by simp)) hbased
    (ready_of_divisible hregular hdiv) s rfl
  rw [latest_concat]
  exact ⟨hout,hafter ()⟩

/-- A run that goes on after a call has returned from it. -/
theorem agentStep_running {agent : Agent} {tick : CpuTick} {s' : Statics}
    (h : (agentStep agent tick).1=.running s') :
    ∃ s, agent=.running s ∧ (cpuStats tick s).result=.ok () ∧ (cpuStats tick s).state=s' := by
  cases agent with
  | ended => cases h
  | running s =>
    refine ⟨s,rfl,?_⟩
    unfold agentStep at h
    dsimp only at h
    split at h
    · next hok => exact ⟨hok,Agent.running.inj h⟩
    · cases h

/-- What a call publishes, whether or not it ends the agent. -/
theorem agentStep_outputs (s : Statics) (tick : CpuTick) :
    (agentStep (.running s) tick).2=(cpuStats tick s).outputs := by
  unfold agentStep
  dsimp only
  split <;> rfl

/-- As long as the agent runs, each rate function has the view of the latest
call at which it ran. -/
theorem based_every_run {history : List CpuTick} (hregular : Regular history)
    (hm : Meets agentStep DivisorsReady (.running .init) history) {s : Statics}
    (hs : runState agentStep (.running .init) history=.running s) (f : RateFunction) :
    Based f (latest (ran f) history) (view f s) := by
  induction history using List.reverseRecOn generalizing s with
  | nil =>
    cases Agent.running.inj hs
    exact fun _ => by simp [view,Statics.init]
  | append_singleton before tick ih =>
    rw [runState_concat] at hs
    obtain ⟨s',hbefore,hok,rfl⟩ := agentStep_running hs
    obtain ⟨hm,hlast⟩ := meets_append before [tick] |>.mp hm
    rw [hbefore,meets_cons] at hlast
    exact (call_lawful f hregular (ih hregular.of_append hm hbefore) (hlast.1 f)).2 hok

/-- In every run at whose steps both functions can divide, every value that is
set is a rate since the latest call of the same function. -/
theorem rateContract_of_divisors (history : List CpuTick)
    (hm : Meets agentStep DivisorsReady (.running .init) history) : RateContract history := by
  rintro hregular before tick after rfl f o ho
  obtain ⟨hbefore,hrest⟩ := meets_append before (tick::after) |>.mp hm
  have hregular' : Regular (before++[tick]) := by
    rw [List.append_cons] at hregular
    exact hregular.of_append
  unfold outputAfter at ho
  cases hs : runState agentStep (.running .init) before with
  | ended => rw [hs] at ho; cases ho
  | running s =>
    rw [hs,agentStep_outputs] at ho
    rw [hs,meets_cons] at hrest
    exact (call_lawful f hregular' (based_every_run hregular'.of_append hbefore hs f)
      (hrest.1 f)).1 o ho

/-- A call with no flag set, at the given user time. -/
def peakCall (titusNumCpu : Option Token) (usec : String) (now : ℤ) : CpuTick :=
  ⟨false,false,some ("user_usec "++usec++"\nsystem_usec 0\n").toList,none,none,
    some "max 100000\n".toList,titusNumCpu,now,now,now⟩

/-- Two of them, one second apart. -/
def peakCalls (titusNumCpu : Option Token) : List CpuTick :=
  [peakCall titusNumCpu "0" abslTicks,peakCall titusNumCpu "500000" (2*abslTicks)]

theorem peakCalls_regular (titusNumCpu : Option Token) : Regular (peakCalls titusNumCpu) := by
  refine ⟨fun f => ?_,fun f tick ht hruns cfsPeriod hperiod => ?_⟩
  · cases f <;> simp [peakCalls,peakCall,RateFunction.runs,RateFunction.now,abslTicks]
  · have hfile : f.cpuMax tick=some "max 100000\n".toList := by
      cases f <;> simp [peakCalls] at ht <;> rcases ht with rfl|rfl <;>
        first | exact absurd hruns Bool.noConfusion | rfl
    have hvalue : (readNumVectorFromFile (some "max 100000\n".toList))[1]?=some 100000 := by
      decide +kernel
    rw [hfile,hvalue] at hperiod
    cases hperiod
    decide

/-- With two processors the second call sets 25 percent. -/
theorem rateContract_twoProcessors :
    RateContract (peakCalls (some ['2'])) ∧ Regular (peakCalls (some ['2'])) ∧
      .peakUtilization .user (.finite 25)∈
        runOutput agentStep (.running .init) (peakCalls (some ['2'])) :=
  ⟨rateContract_of_divisors _ (by decide +kernel),peakCalls_regular _,by decide +kernel⟩

/-- Without TITUS_NUM_CPU the same calls divide by zero. -/
theorem noProcessors_infinite : ¬RateContract (peakCalls none) := by
  intro h
  obtain ⟨before,hbefore,-,-,-,-,hne,-⟩ := h (peakCalls_regular none)
    [peakCall none "0" abslTicks] (peakCall none "500000" (2*abslTicks)) [] rfl
      .peak (.peakUtilization .user (.infinite false)) (by decide +kernel) .user _ rfl
  obtain rfl := Option.some.inj hbefore
  exact hne (by decide +kernel)

end AtlasAgent.CGroupUtilization
