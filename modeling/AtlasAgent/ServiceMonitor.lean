import AtlasAgent.CpuRateTracker
import Mathlib.Data.List.AList
import Mathlib.Tactic.NormNum

/-!
# ServiceMonitor::update_metrics

One cycle reads the properties of every monitored service and, for a service
that is active and running, its process and its control group. Each service
has two CPU trackers, created on its first active cycle. What D-Bus and the
files give is input, one outcome for each service and cycle. Logging is left
out, as is the time to live of the gauges.
-/

namespace AtlasAgent.ServiceMonitor

open RunHistory LatestSample CpuRateTracker

/-- ServiceMonitorConstants::RssName. -/
def rssName : String := "systemd.service.rss"

/-- ServiceMonitorConstants::MemoryName. -/
def memoryName : String := "systemd.service.memory"

/-- ServiceMonitorConstants::FdsName. -/
def fdsName : String := "systemd.service.fds"

/-- ServiceMonitorConstants::CpuUsageName. -/
def cpuUsageName : String := "systemd.service.cpuUsage"

/-- ServiceMonitorConstants::ServiceStatusName. -/
def serviceStatusName : String := "systemd.service.status"

/-- ServiceMonitorUtilConstants::Active. -/
def active : String := "active"

/-- ServiceMonitorUtilConstants::Running. -/
def running : String := "running"

/-- The results of sysconf, which init_monitored_services accepts only when
they are positive. -/
structure SystemConfig where
  pageSize : ℕ
  clkTck : ℕ
  pageSize_pos : 0<pageSize
  clkTck_pos : 0<clkTck

/-- ServiceProperties. -/
structure ServiceProperties where
  activeState : String
  subState : String
  mainPid : ℕ
  controlGroup : String
  deriving DecidableEq

/-- ProcessTimes. -/
structure ProcessTimes where
  uTime : ℕ
  sTime : ℕ
  deriving DecidableEq

/-- What one cycle reads of one service; none for a read that fails. -/
structure ServiceOutcome where
  /-- get_service_properties. -/
  properties : Option ServiceProperties
  /-- get_rss. -/
  rss : Option ℕ
  /-- get_number_fds. -/
  numberFds : Option ℕ
  /-- get_process_times. -/
  processTimes : Option ProcessTimes
  /-- get_cgroup_memory. -/
  cgroupMemory : Option ℕ
  /-- get_total_fds. -/
  totalFds : Option ℕ
  /-- get_cgroup_cpu_usage. -/
  cgroupCpuUsage : Option ℕ
  deriving DecidableEq

/-- A gauge is known by its name and its tags; an empty text stands for a tag
that is not set. -/
structure Gauge where
  name : String
  /-- The tag service.name. -/
  serviceName : String
  /-- The tag scope. -/
  scope : String
  /-- The tag state. -/
  state : String
  deriving DecidableEq

/-- A gauge with the value it is set to. -/
structure GaugeSet where
  gauge : Gauge
  value : ℚ
  deriving DecidableEq

/-- The two trackers of a service. -/
structure ServiceCpuState where
  process : Tracker ℕ
  cgroup : Tracker String
  deriving DecidableEq

/-- The entry that operator[] creates. -/
def ServiceCpuState.init : ServiceCpuState := ⟨.init,.init⟩

/-- cpuState_. -/
abbrev CpuStates := AList fun _ : String => ServiceCpuState

/-- ServiceMonitor::publish_metric with its result. -/
def publishMetric (service : String) (val : Option ℚ) (scale : ℚ) (name scope errMsg : String) :
    List GaugeSet×Bool :=
  match val with
  | some v => ([⟨⟨name,service,scope,""⟩,v*scale⟩],true)
  | none => ([],decide (errMsg=""))

/-- The accumulated CPU time of a process in microseconds, in 64-bit arithmetic. -/
def processCounterUs (config : SystemConfig) (times : ProcessTimes) : ℕ :=
  (times.uTime+times.sTime)*1000000%2^64/config.clkTck

/-- ServiceMonitor::collect_process_metrics: the tracker afterwards, what is
published and the result. -/
def collectProcessMetrics (config : SystemConfig) (service : String) (props : ServiceProperties)
    (outcome : ServiceOutcome) (now : ℤ) (cpu : Tracker ℕ) : Tracker ℕ×List GaugeSet×Bool :=
  let rss := publishMetric service (outcome.rss.map Nat.cast) config.pageSize rssName ""
    "Failed to get RSS"
  let fds := publishMetric service (outcome.numberFds.map Nat.cast) 1 fdsName "process"
    "Failed to get FD count"
  match outcome.processTimes with
  | none => (cpu,rss.1++fds.1,false)
  | some times =>
    let updated := cpu.update ⟨props.mainPid,processCounterUs config times,now⟩
    let usage := publishMetric service updated.2 1 cpuUsageName "process" ""
    (updated.1,rss.1++fds.1++usage.1,rss.2 && fds.2)

/-- ServiceMonitor::collect_cgroup_metrics. -/
def collectCgroupMetrics (service : String) (props : ServiceProperties)
    (outcome : ServiceOutcome) (now : ℤ) (cpu : Tracker String) :
    Tracker String×List GaugeSet×Bool :=
  let memory := publishMetric service (outcome.cgroupMemory.map Nat.cast) 1 memoryName ""
    "Failed to get cgroup memory"
  let fds := publishMetric service (outcome.totalFds.map Nat.cast) 1 fdsName "service"
    "Failed to get cgroup total FDs"
  match outcome.cgroupCpuUsage with
  | none => (cpu,memory.1++fds.1,false)
  | some usageUs =>
    let updated := cpu.update ⟨props.controlGroup,usageUs,now⟩
    let usage := publishMetric service updated.2 1 cpuUsageName "service" ""
    (updated.1,memory.1++fds.1++usage.1,memory.2 && fds.2)

/-- One cycle of update_metrics: the time read at its start and the outcome of
every service. -/
structure MonitorCycle where
  now : ℤ
  outcome : String → ServiceOutcome

/-- The body of the loop of update_metrics for one service. -/
def updateService (config : SystemConfig) (cycle : MonitorCycle) (cpuState : CpuStates)
    (service : String) : CpuStates×List GaugeSet×Bool :=
  let outcome := cycle.outcome service
  match outcome.properties with
  | none => (cpuState,[],false)
  | some props =>
    let status : GaugeSet :=
      ⟨⟨serviceStatusName,service,"",props.activeState++"."++props.subState⟩,1⟩
    if props.activeState≠active ∨ props.subState≠running then (cpuState,[status],true)
    else
      let state := (cpuState.lookup service).getD .init
      let process := collectProcessMetrics config service props outcome cycle.now state.process
      let cgroup := collectCgroupMetrics service props outcome cycle.now state.cgroup
      (cpuState.insert service ⟨process.1,cgroup.1⟩,status::(process.2.1++cgroup.2.1),
        process.2.2 && cgroup.2.2)

/-- ServiceMonitor::update_metrics. -/
def updateMetrics (config : SystemConfig) (cycle : MonitorCycle) (cpuState : CpuStates) :
    List String → CpuStates×List GaugeSet×Bool
  | [] => (cpuState,[],true)
  | service::rest =>
    let one := updateService config cycle cpuState service
    let others := updateMetrics config cycle one.1 rest
    (others.1,one.2.1++others.2.1,one.2.2 && others.2.2)

/-- One cycle as a step over the trackers. -/
def monitorStep (config : SystemConfig) (monitoredServices : List String) (cpuState : CpuStates)
    (cycle : MonitorCycle) : CpuStates×List GaugeSet :=
  let updated := updateMetrics config cycle cpuState monitoredServices
  (updated.1,updated.2.1)

/-- The properties of a service that is active and running. -/
def activeProperties (service : String) (cycle : MonitorCycle) : Option ServiceProperties :=
  (cycle.outcome service).properties.filter fun props =>
    props.activeState=active ∧ props.subState=running

/-- The sample of the process scope in a cycle, if it has one. -/
def processSample (config : SystemConfig) (service : String) (cycle : MonitorCycle) :
    Option (CpuSample ℕ) :=
  (activeProperties service cycle).bind fun props =>
    (cycle.outcome service).processTimes.map fun times =>
      ⟨props.mainPid,processCounterUs config times,cycle.now⟩

/-- The sample of the service scope in a cycle, if it has one. -/
def cgroupSample (service : String) (cycle : MonitorCycle) : Option (CpuSample String) :=
  (activeProperties service cycle).bind fun props =>
    (cycle.outcome service).cgroupCpuUsage.map fun usageUs =>
      ⟨props.controlGroup,usageUs,cycle.now⟩

/-- The process reading of a cycle in which the service is active and running
and its times are read: the counter is the microseconds of both times. -/
def processReading (config : SystemConfig) (service : String) (cycle : MonitorCycle) :
    Option (CpuSample ℕ) :=
  (cycle.outcome service).properties.bind fun props =>
    if props.activeState="active" ∧ props.subState="running" then
      -- the product is reduced as unsigned long long reduces it
      (cycle.outcome service).processTimes.map fun times =>
        ⟨props.mainPid,(times.uTime+times.sTime)*1000000%2^64/config.clkTck,cycle.now⟩
    else none

/-- The control group reading of such a cycle. -/
def cgroupReading (service : String) (cycle : MonitorCycle) : Option (CpuSample String) :=
  (cycle.outcome service).properties.bind fun props =>
    if props.activeState="active" ∧ props.subState="running" then
      (cycle.outcome service).cgroupCpuUsage.map fun usageUs =>
        ⟨props.controlGroup,usageUs,cycle.now⟩
    else none

/-- The value that is set on the CPU gauge of a service and scope. -/
def cpuUsageSet (service scope : String) (set : GaugeSet) : Option ℚ :=
  if set.gauge=⟨"systemd.service.cpuUsage",service,scope,""⟩ then some set.value else none

/-- What one scope of a service promises, in terms of its readings alone. Time
is in nanoseconds. -/
structure ScopeContract {Identity : Type} (reading : MonitorCycle → Option (CpuSample Identity))
    (tracker : List MonitorCycle → Tracker Identity)
    (published : List MonitorCycle → MonitorCycle → List ℚ) : Prop where
  /-- A value is published exactly when the cycle has a reading, an earlier cycle
  had one, and the latest such cycle has the same identity, no larger counter and
  lies at least a microsecond back; it is the percentage of the time between. -/
  published_iff : ∀ before cycle value,value∈published before cycle ↔
    ∃ older sampled skipped earlier later,before=older++sampled::skipped ∧
      reading sampled=some earlier ∧ (∀ other∈skipped,reading other=none) ∧
      reading cycle=some later ∧ earlier.id=later.id ∧ earlier.counterUs≤later.counterUs ∧
      0<(later.now-earlier.now)/1000 ∧
      value=100*((later.counterUs : ℚ)-earlier.counterUs)/((later.now-earlier.now)/1000 : ℤ)
  /-- At most one value is published in a cycle. -/
  once : ∀ before cycle,(published before cycle).length≤1
  /-- A cycle without a reading leaves the tracker alone. -/
  unchanged : ∀ before cycle,reading cycle=none → tracker (before++[cycle])=tracker before
  /-- Nothing but the readings of this scope has any influence. -/
  independent : ∀ before cycle before' cycle',before.map reading=before'.map reading →
    reading cycle=reading cycle' → published before cycle=published before' cycle'

/-- The interval in whole microseconds, as a quotient of the nanoseconds. -/
theorem closesInterval_iff {Identity : Type} {earlier later : CpuSample Identity} {value : ℚ} :
    ClosesInterval earlier later value ↔ earlier.id=later.id ∧
      earlier.counterUs≤later.counterUs ∧ 0<(later.now-earlier.now)/1000 ∧
      value=100*((later.counterUs : ℚ)-earlier.counterUs)/((later.now-earlier.now)/1000 : ℤ) := by
  have hwall (hpos : 0≤later.now-earlier.now) :
      wallUs earlier later=(later.now-earlier.now)/1000 := Int.tdiv_eq_ediv_of_nonneg hpos
  constructor
  · rintro ⟨hid,hcounter,helapsed,hvalue⟩
    have hpos : 0≤later.now-earlier.now := by
      by_contra hneg
      have hback : 0≤(-(later.now-earlier.now)).tdiv 1000 := Int.tdiv_nonneg (by omega) (by omega)
      rw [Int.neg_tdiv,←wallUs] at hback
      omega
    rw [hwall hpos] at helapsed hvalue
    exact ⟨hid,hcounter,helapsed,hvalue⟩
  · rintro ⟨hid,hcounter,helapsed,hvalue⟩
    have hpos : 0≤later.now-earlier.now := by omega
    rw [←hwall hpos] at helapsed hvalue
    exact ⟨hid,hcounter,helapsed,hvalue⟩

/-- The properties of a service that is active and running, tested one by one. -/
theorem activeProperties_bind {α : Type} (service : String) (cycle : MonitorCycle)
    (f : ServiceProperties → Option α) :
    (activeProperties service cycle).bind f=(cycle.outcome service).properties.bind fun props =>
      if props.activeState="active" ∧ props.subState="running" then f props else none := by
  rw [activeProperties]
  cases (cycle.outcome service).properties with
  | none => rfl
  | some props =>
    by_cases hactive : props.activeState=active ∧ props.subState=running
    · rw [Option.filter_some_pos (by simpa using hactive)]
      exact (if_pos hactive).symm
    · rw [Option.filter_some_neg (by simpa using hactive)]
      exact (if_neg hactive).symm

/-- The readings are the samples that the code takes. -/
theorem processReading_eq (config : SystemConfig) (service : String) :
    processReading config service=processSample config service := by
  funext cycle
  rw [processSample,activeProperties_bind]
  rfl

theorem cgroupReading_eq (service : String) : cgroupReading service=cgroupSample service := by
  funext cycle
  rw [cgroupSample,activeProperties_bind]
  rfl

/-- A tracker that is offered the sample of every cycle, and whose percentages
are published, keeps the contract. -/
theorem scopeContract_of_offers {Identity : Type} [DecidableEq Identity]
    {sample : MonitorCycle → Option (CpuSample Identity)}
    {tracker : List MonitorCycle → Tracker Identity}
    {published : List MonitorCycle → MonitorCycle → List ℚ} (hinit : tracker []=.init)
    (htracker : ∀ before cycle,
      tracker (before++[cycle])=((tracker before).offer (sample cycle)).1)
    (hpublished : ∀ before cycle,
      published before cycle=((tracker before).offer (sample cycle)).2.toList) :
    ScopeContract sample tracker published := by
  have hbaseline (before : List MonitorCycle) :
      (tracker before).baseline=latest sample before := by
    induction before using List.reverseRecOn with
    | nil => rw [hinit]; rfl
    | append_singleton before cycle ih => rw [htracker,offer_baseline,latest_concat,ih]
  refine ⟨fun before cycle value => ?_,fun before cycle => ?_,fun before cycle hnone => ?_,
    fun before cycle before' cycle' hbefore hcycle => ?_⟩
  · simp only [hpublished,Option.mem_toList,offer_snd_iff,hbaseline,←closesInterval_iff]
    constructor
    · rintro ⟨earlier,later,hlatest,hsample,hcloses⟩
      obtain ⟨older,sampled,skipped,rfl,hearlier,hskipped⟩ := latest_eq_some_iff.mp hlatest
      exact ⟨older,sampled,skipped,earlier,later,rfl,hearlier,hskipped,hsample,hcloses⟩
    · rintro ⟨older,sampled,skipped,earlier,later,rfl,hearlier,hskipped,hsample,hcloses⟩
      exact ⟨earlier,later,latest_eq_some_iff.mpr ⟨older,sampled,skipped,rfl,hearlier,hskipped⟩,
        hsample,hcloses⟩
  · rw [hpublished]
    exact Option.length_toList_le
  · rw [htracker,hnone]
    rfl
  · have hsame : tracker before=tracker before' :=
      Tracker.ext (by rw [hbaseline,hbaseline,latest_congr hbefore])
    rw [hpublished,hpublished,hsame,hcycle]

theorem cpuUsageSet_eq (service scope : String) (set : GaugeSet) :
    cpuUsageSet service scope set=
      if set.gauge=⟨cpuUsageName,service,scope,""⟩ then some set.value else none := rfl

/-- A metric reaches a CPU gauge exactly when it is published under that name
and scope. -/
theorem publishMetric_cpuUsage (service : String) (val : Option ℚ) (scale : ℚ)
    (name scope errMsg scope' : String) :
    (publishMetric service val scale name scope errMsg).1.filterMap (cpuUsageSet service scope')=
      if name=cpuUsageName ∧ scope=scope' then (val.map (·*scale)).toList else [] := by
  cases val with
  | none => simp [publishMetric]
  | some v =>
    rw [publishMetric]
    by_cases h : name=cpuUsageName ∧ scope=scope' <;> simp [cpuUsageSet_eq,h]

/-- The process metrics offer the sample of the process scope and publish its
percentage, under that scope only. -/
theorem collectProcessMetrics_cpu (config : SystemConfig) (service : String)
    (props : ServiceProperties) (outcome : ServiceOutcome) (now : ℤ) (cpu : Tracker ℕ) :
    (collectProcessMetrics config service props outcome now cpu).1=
        (cpu.offer (outcome.processTimes.map fun times =>
          ⟨props.mainPid,processCounterUs config times,now⟩)).1 ∧
      (collectProcessMetrics config service props outcome now cpu).2.1.filterMap
          (cpuUsageSet service "process")=
        (cpu.offer (outcome.processTimes.map fun times =>
          ⟨props.mainPid,processCounterUs config times,now⟩)).2.toList ∧
      (collectProcessMetrics config service props outcome now cpu).2.1.filterMap
          (cpuUsageSet service "service")=[] := by
  rw [collectProcessMetrics]
  cases outcome.processTimes with
  | none =>
    simp [publishMetric_cpuUsage,Tracker.offer,rssName,fdsName,cpuUsageName]
  | some times =>
    simp [publishMetric_cpuUsage,Tracker.offer,rssName,fdsName,cpuUsageName]

/-- The control group metrics offer the sample of the service scope and publish
its percentage, under that scope only. -/
theorem collectCgroupMetrics_cpu (service : String) (props : ServiceProperties)
    (outcome : ServiceOutcome) (now : ℤ) (cpu : Tracker String) :
    (collectCgroupMetrics service props outcome now cpu).1=
        (cpu.offer (outcome.cgroupCpuUsage.map fun usageUs =>
          ⟨props.controlGroup,usageUs,now⟩)).1 ∧
      (collectCgroupMetrics service props outcome now cpu).2.1.filterMap
          (cpuUsageSet service "service")=
        (cpu.offer (outcome.cgroupCpuUsage.map fun usageUs =>
          ⟨props.controlGroup,usageUs,now⟩)).2.toList ∧
      (collectCgroupMetrics service props outcome now cpu).2.1.filterMap
          (cpuUsageSet service "process")=[] := by
  rw [collectCgroupMetrics]
  cases outcome.cgroupCpuUsage with
  | none =>
    simp [publishMetric_cpuUsage,Tracker.offer,memoryName,fdsName,cpuUsageName]
  | some usageUs =>
    simp [publishMetric_cpuUsage,Tracker.offer,memoryName,fdsName,cpuUsageName]

/-- The trackers of a service, created when there are none. -/
def trackersOf (cpuState : CpuStates) (service : String) : ServiceCpuState :=
  (cpuState.lookup service).getD .init

/-- One cycle offers each tracker of a service the sample of its scope and
publishes its percentage. -/
theorem updateService_cpu (config : SystemConfig) (cycle : MonitorCycle) (cpuState : CpuStates)
    (service : String) :
    trackersOf (updateService config cycle cpuState service).1 service=
        ⟨((trackersOf cpuState service).process.offer (processSample config service cycle)).1,
          ((trackersOf cpuState service).cgroup.offer (cgroupSample service cycle)).1⟩ ∧
      (updateService config cycle cpuState service).2.1.filterMap (cpuUsageSet service "process")=
        ((trackersOf cpuState service).process.offer
          (processSample config service cycle)).2.toList ∧
      (updateService config cycle cpuState service).2.1.filterMap (cpuUsageSet service "service")=
        ((trackersOf cpuState service).cgroup.offer (cgroupSample service cycle)).2.toList := by
  rw [updateService,processSample,cgroupSample,activeProperties]
  cases (cycle.outcome service).properties with
  | none => simp [Tracker.offer]
  | some props =>
    have hstatus (scope state : String) :
        cpuUsageSet service scope ⟨⟨serviceStatusName,service,"",state⟩,1⟩=none := by
      simp [cpuUsageSet,serviceStatusName]
    by_cases hactive : props.activeState=active ∧ props.subState=running
    · have hgo : ¬(props.activeState≠active ∨ props.subState≠running) := by
        rw [not_or,not_ne_iff,not_ne_iff]
        exact hactive
      obtain ⟨hprocess,hprocessUsage,hprocessOther⟩ := collectProcessMetrics_cpu config service
        props (cycle.outcome service) cycle.now (trackersOf cpuState service).process
      obtain ⟨hcgroup,hcgroupUsage,hcgroupOther⟩ := collectCgroupMetrics_cpu service
        props (cycle.outcome service) cycle.now (trackersOf cpuState service).cgroup
      rw [trackersOf] at hprocess hprocessUsage hprocessOther hcgroup hcgroupUsage hcgroupOther
      rw [Option.filter_some_pos (by simpa using hactive),Option.bind_some,Option.bind_some]
      simp [if_neg hgo,hstatus,trackersOf,hprocess,hprocessUsage,hprocessOther,hcgroup,
        hcgroupUsage,hcgroupOther]
    · have hskip : props.activeState≠active ∨ props.subState≠running := not_and_or.mp hactive
      rw [Option.filter_some_neg (by simpa using hactive),Option.bind_none,Option.bind_none]
      simp [if_pos hskip,hstatus,Tracker.offer]

/-- The trackers of a service that is monitored alone, after some cycles. -/
def trackersAfter (config : SystemConfig) (service : String) (before : List MonitorCycle) :
    ServiceCpuState :=
  trackersOf (runState (monitorStep config [service]) ∅ before) service

/-- What is set on the CPU gauge of a scope of such a service in the next cycle. -/
def cpuUsageAfter (config : SystemConfig) (service scope : String) (before : List MonitorCycle)
    (cycle : MonitorCycle) : List ℚ :=
  (outputAfter (monitorStep config [service]) ∅ before cycle).filterMap (cpuUsageSet service scope)

/-- A cycle over one service is the update of that service. -/
theorem monitorStep_singleton (config : SystemConfig) (service : String) (cpuState : CpuStates)
    (cycle : MonitorCycle) :
    monitorStep config [service] cpuState cycle=
      ((updateService config cycle cpuState service).1,
        (updateService config cycle cpuState service).2.1) := by
  simp [monitorStep,updateMetrics]

/-- Over any cycles of one service, each scope publishes the percentage between
its two latest readings of one counter, and nothing else has any influence. -/
theorem monitor_scopeContracts (config : SystemConfig) (service : String) :
    ScopeContract (processReading config service)
        (fun before => (trackersAfter config service before).process)
        (cpuUsageAfter config service "process") ∧
      ScopeContract (cgroupReading service)
        (fun before => (trackersAfter config service before).cgroup)
        (cpuUsageAfter config service "service") := by
  have hupdate (before : List MonitorCycle) (cycle : MonitorCycle) :=
    updateService_cpu config cycle (runState (monitorStep config [service]) ∅ before) service
  have htrackers (before : List MonitorCycle) (cycle : MonitorCycle) :
      trackersAfter config service (before++[cycle])=trackersOf (updateService config cycle
        (runState (monitorStep config [service]) ∅ before) service).1 service := by
    rw [trackersAfter,runState_concat,monitorStep_singleton]
  rw [processReading_eq,cgroupReading_eq]
  constructor
  · refine scopeContract_of_offers rfl (fun before cycle => ?_) fun before cycle => ?_
    · rw [htrackers,(hupdate before cycle).1]
      rfl
    · rw [cpuUsageAfter,outputAfter,monitorStep_singleton]
      exact (hupdate before cycle).2.1
  · refine scopeContract_of_offers rfl (fun before cycle => ?_) fun before cycle => ?_
    · rw [htrackers,(hupdate before cycle).1]
      rfl
    · rw [cpuUsageAfter,outputAfter,monitorStep_singleton]
      exact (hupdate before cycle).2.2

/-- A host with a hundred clock ticks a second. -/
def usualConfig : SystemConfig := ⟨4096,100,by decide,by decide⟩

/-- A cycle in which the service is active and running as process 7, with what
it reads of the process times and of the control group. -/
def runningCycle (now : ℤ) (processTimes : Option ProcessTimes) (cgroupCpuUsage : Option ℕ) :
    MonitorCycle :=
  ⟨now,fun _ => ⟨some ⟨"active","running",7,"/system.slice/nginx"⟩,none,none,processTimes,none,
    none,cgroupCpuUsage⟩⟩

/-- Two cycles, the second three seconds after the first and without process
times. -/
def earlierCycles : List MonitorCycle :=
  [runningCycle 0 (some ⟨100,50⟩) (some 1000000),runningCycle 3000000000 none (some 1500000)]

/-- The next cycle, five seconds after the first. -/
def laterCycle : MonitorCycle := runningCycle 5000000000 (some ⟨180,70⟩) (some 2000000)

/-- The process took a hundred ticks in the five seconds since its last reading,
the control group half a second in the two seconds since its own. -/
theorem monitor_scopeContracts_laterCycle :
    20∈cpuUsageAfter usualConfig "nginx" "process" earlierCycles laterCycle ∧
      25∈cpuUsageAfter usualConfig "nginx" "service" earlierCycles laterCycle := by
  obtain ⟨hprocess,hcgroup⟩ := monitor_scopeContracts usualConfig "nginx"
  constructor
  · refine (hprocess.published_iff _ _ _).mpr ⟨[],_,[_],⟨7,1500000,0⟩,⟨7,2500000,5000000000⟩,
      rfl,rfl,List.forall_mem_singleton.mpr rfl,rfl,rfl,?_⟩
    norm_num
  · refine (hcgroup.published_iff _ _ _).mpr ⟨[_],_,[],⟨"/system.slice/nginx",1500000,3000000000⟩,
      ⟨"/system.slice/nginx",2000000,5000000000⟩,rfl,rfl,List.forall_mem_nil _,rfl,rfl,?_⟩
    norm_num

end AtlasAgent.ServiceMonitor
