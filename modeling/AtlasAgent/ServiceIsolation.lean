import AtlasAgent.Effects
import AtlasAgent.RunProjections
import AtlasAgent.ServiceReads

/-!
# One handler around all services

update_metrics has a single handler, around its whole loop: an exception at one
service would end the cycle for all that follow. Here the loop runs on the
contents of the files, with every helper free to throw and every change and
gauge in the order of the source. No helper does throw, so the loop is the
cycle over outcomes, and each service goes its own way.
-/

namespace AtlasAgent.ServiceIsolation

open CpuRateTracker Effects RunHistory RunProjections ServiceMonitor ServiceReads TextFields

/-- What one cycle finds for one service. The stat file of the process is read
twice. -/
structure ServiceFiles where
  /-- get_service_properties. -/
  properties : Option ServiceProperties
  statForRss : Option Token
  fdDirectory : Directory
  statForTimes : Option Token
  memoryCurrent : Option Token
  cgroupProcs : Option Token
  /-- The directory of a process of the control group, at its position. -/
  cgroupFdDirectory : ℕ → ℕ → Directory
  cpuStat : Option Token

/-- One cycle: the time read at its start and what is found for each service. -/
structure FileCycle where
  now : ℤ
  files : String → ServiceFiles

/-- A function of the monitor: it changes the trackers, sets gauges and may end
with an exception. -/
abbrev MonitorProgram (α : Type) := Program CpuStates GaugeSet ReadException α

/-- cpuState_[service]: the entry of the service, created if there is none. -/
def cpuStateAt (service : String) : MonitorProgram Unit :=
  modifyState fun cpuState => cpuState.insert service (trackersOf cpuState service)

/-- ServiceMonitor::publish_metric. -/
def publish (service : String) (val : Option ℚ) (scale : ℚ) (name scope errMsg : String) :
    MonitorProgram Bool :=
  match val with
  | some v => do
    emit ⟨⟨name,service,scope,""⟩,v*scale⟩
    pure true
  | none => pure (decide (errMsg=""))

/-- CpuRateTracker::update of the process tracker in the entry. -/
def updateProcess (service : String) (sample : CpuSample ℕ) : MonitorProgram (Option ℚ) := do
  let cpuState ← getState
  let state := trackersOf cpuState service
  modifyState fun cpuState => cpuState.insert service ⟨(state.process.update sample).1,state.cgroup⟩
  pure (state.process.update sample).2

/-- And of the tracker of the control group. -/
def updateCgroup (service : String) (sample : CpuSample String) : MonitorProgram (Option ℚ) := do
  let cpuState ← getState
  let state := trackersOf cpuState service
  modifyState fun cpuState => cpuState.insert service ⟨state.process,(state.cgroup.update sample).1⟩
  pure (state.cgroup.update sample).2

/-- ServiceMonitor::collect_process_metrics. -/
def collectProcess (config : SystemConfig) (service : String) (props : ServiceProperties)
    (files : ServiceFiles) (now : ℤ) : MonitorProgram Bool := do
  let rss ← lift (getRss files.statForRss)
  let rssOk ← publish service (rss.map Nat.cast) config.pageSize rssName "" "Failed to get RSS"
  let fds ← lift (getNumberFds files.fdDirectory)
  let fdsOk ← publish service (fds.map Nat.cast) 1 fdsName "process" "Failed to get FD count"
  let times ← lift (getProcessTimes files.statForTimes)
  match times with
  | none => pure false
  | some times => do
    let usage ← updateProcess service ⟨props.mainPid,processCounterUs config times,now⟩
    let _ ← publish service usage 1 cpuUsageName "process" ""
    pure (rssOk && fdsOk)

/-- ServiceMonitor::collect_cgroup_metrics. -/
def collectCgroup (service : String) (props : ServiceProperties) (files : ServiceFiles)
    (now : ℤ) : MonitorProgram Bool := do
  let memory ← lift (getCgroupMemory files.memoryCurrent)
  let memoryOk ← publish service (memory.map Nat.cast) 1 memoryName ""
    "Failed to get cgroup memory"
  let fds ← lift (getTotalFds files.cgroupProcs files.cgroupFdDirectory)
  let fdsOk ← publish service (fds.map Nat.cast) 1 fdsName "service"
    "Failed to get cgroup total FDs"
  let usage ← lift (getCgroupCpuUsage files.cpuStat)
  match usage with
  | none => pure false
  | some usageUs => do
    let pct ← updateCgroup service ⟨props.controlGroup,usageUs,now⟩
    let _ ← publish service pct 1 cpuUsageName "service" ""
    pure (memoryOk && fdsOk)

/-- The body of the loop of update_metrics: what success is and-ed with. -/
def serviceBody (config : SystemConfig) (cycle : FileCycle) (service : String) :
    MonitorProgram Bool :=
  let files := cycle.files service
  match files.properties with
  | none => pure false
  | some props => do
    emit ⟨⟨serviceStatusName,service,"",props.activeState++"."++props.subState⟩,1⟩
    if props.activeState≠active ∨ props.subState≠running then pure true
    else do
      cpuStateAt service
      let process ← collectProcess config service props files cycle.now
      let cgroup ← collectCgroup service props files cycle.now
      pure (process && cgroup)

/-- The loop of update_metrics. -/
def servicesLoop (config : SystemConfig) (cycle : FileCycle) (success : Bool) :
    List String → MonitorProgram Bool
  | [] => pure success
  | service::services => do
    let one ← serviceBody config cycle service
    servicesLoop config cycle (success && one) services

/-- ServiceMonitor::update_metrics with its handler. -/
def updateMetricsFiles (config : SystemConfig) (cycle : FileCycle) (services : List String) :
    MonitorProgram Bool :=
  catchAll (servicesLoop config cycle true services) fun _ => false

/-- One cycle as a step over the trackers. -/
def filesStep (config : SystemConfig) (services : List String) (cpuState : CpuStates)
    (cycle : FileCycle) : CpuStates×List GaugeSet :=
  ((updateMetricsFiles config cycle services cpuState).state,
    (updateMetricsFiles config cycle services cpuState).outputs)

/-- The value of a helper, nothing where it would throw. -/
def readValue {α : Type} : Read (Option α) → Option α
  | .ok value => value
  | .error _ => none

theorem eq_readValue {α : Type} {read : Read (Option α)} (h : Total read) :
    read=.ok (readValue read) := by
  obtain ⟨value,rfl⟩ := h
  rfl

/-- The outcomes that the helpers make of the files. -/
def outcomeOf (files : ServiceFiles) : ServiceOutcome where
  properties := files.properties
  rss := readValue (getRss files.statForRss)
  numberFds := readValue (getNumberFds files.fdDirectory)
  processTimes := readValue (getProcessTimes files.statForTimes)
  cgroupMemory := readValue (getCgroupMemory files.memoryCurrent)
  totalFds := readValue (getTotalFds files.cgroupProcs files.cgroupFdDirectory)
  cgroupCpuUsage := readValue (getCgroupCpuUsage files.cpuStat)

/-- The cycle over outcomes that a cycle over files is. -/
def FileCycle.outcomes (cycle : FileCycle) : MonitorCycle :=
  ⟨cycle.now,fun service => outcomeOf (cycle.files service)⟩

theorem publish_apply (service : String) (val : Option ℚ) (scale : ℚ)
    (name scope errMsg : String) (cpuState : CpuStates) :
    publish service val scale name scope errMsg cpuState=
      ⟨cpuState,(publishMetric service val scale name scope errMsg).1,
        .ok (publishMetric service val scale name scope errMsg).2⟩ := by
  cases val <;> rfl

@[simp] theorem trackersOf_insert (cpuState : CpuStates) (service : String)
    (state : ServiceCpuState) : trackersOf (cpuState.insert service state) service=state := by
  simp [trackersOf]

/-- A helper that does not throw hands its value on. -/
theorem lift_bind_apply {α β : Type} {read : Read (Option α)} (h : Total read)
    (next : Option α → MonitorProgram β) (cpuState : CpuStates) :
    ((lift read : MonitorProgram (Option α)) >>= next) cpuState=
      next (readValue read) cpuState := by
  rw [bind_apply,lift_apply,eq_readValue h]
  exact andThen_ok ..

theorem publish_bind_apply {β : Type} (service : String) (val : Option ℚ) (scale : ℚ)
    (name scope errMsg : String) (next : Bool → MonitorProgram β) (cpuState : CpuStates) :
    (publish service val scale name scope errMsg >>= next) cpuState=
      let published := publishMetric service val scale name scope errMsg
      ⟨(next published.2 cpuState).state,published.1++(next published.2 cpuState).outputs,
        (next published.2 cpuState).result⟩ := by
  rw [bind_apply,publish_apply]
  rfl

/-- The process metrics on files are those on their outcomes. -/
theorem collectProcess_apply (config : SystemConfig) (service : String)
    (props : ServiceProperties) (files : ServiceFiles) (now : ℤ) (cpuState : CpuStates)
    (state : ServiceCpuState) :
    collectProcess config service props files now (cpuState.insert service state)=
      let process := collectProcessMetrics config service props (outcomeOf files) now state.process
      ⟨cpuState.insert service ⟨process.1,state.cgroup⟩,process.2.1,.ok process.2.2⟩ := by
  have htimes : readValue (getProcessTimes files.statForTimes)=(outcomeOf files).processTimes := rfl
  simp only [collectProcess,collectProcessMetrics,lift_bind_apply (getRss_total _),
    lift_bind_apply (getNumberFds_total _),lift_bind_apply (getProcessTimes_total _),
    publish_bind_apply,htimes]
  cases (outcomeOf files).processTimes with
  | none => simp [outcomeOf]
  | some times => simp [outcomeOf,updateProcess,publish_apply]

/-- The control group metrics on files are those on their outcomes. -/
theorem collectCgroup_apply (service : String) (props : ServiceProperties) (files : ServiceFiles)
    (now : ℤ) (cpuState : CpuStates) (state : ServiceCpuState) :
    collectCgroup service props files now (cpuState.insert service state)=
      let cgroup := collectCgroupMetrics service props (outcomeOf files) now state.cgroup
      ⟨cpuState.insert service ⟨state.process,cgroup.1⟩,cgroup.2.1,.ok cgroup.2.2⟩ := by
  have husage : readValue (getCgroupCpuUsage files.cpuStat)=(outcomeOf files).cgroupCpuUsage := rfl
  simp only [collectCgroup,collectCgroupMetrics,lift_bind_apply (getCgroupMemory_total _),
    lift_bind_apply (getTotalFds_total ..),lift_bind_apply (getCgroupCpuUsage_total _),
    publish_bind_apply,husage]
  cases (outcomeOf files).cgroupCpuUsage with
  | none => simp [outcomeOf]
  | some usageUs => simp [outcomeOf,updateCgroup,publish_apply]

/-- One service on files is the service on its outcome. -/
theorem serviceBody_apply (config : SystemConfig) (cycle : FileCycle) (service : String)
    (cpuState : CpuStates) :
    serviceBody config cycle service cpuState=
      let one := updateService config cycle.outcomes cpuState service
      ⟨one.1,one.2.1,.ok one.2.2⟩ := by
  have hproperties : (cycle.outcomes.outcome service).properties=(cycle.files service).properties :=
    rfl
  simp only [serviceBody,updateService,hproperties]
  cases (cycle.files service).properties with
  | none => rfl
  | some props =>
    by_cases hskip : props.activeState≠active ∨ props.subState≠running
    · simp [if_pos hskip]
    · simp only [if_neg hskip,bind_apply,emit_apply,andThen_ok,cpuStateAt,modifyState_apply,
        collectProcess_apply,collectCgroup_apply,pure_apply]
      simp [trackersOf,FileCycle.outcomes]

/-- The loop on files is the cycle on outcomes; it does not throw. -/
theorem servicesLoop_apply (config : SystemConfig) (cycle : FileCycle) (success : Bool)
    (services : List String) (cpuState : CpuStates) :
    servicesLoop config cycle success services cpuState=
      let updated := updateMetrics config cycle.outcomes cpuState services
      ⟨updated.1,updated.2.1,.ok (success && updated.2.2)⟩ := by
  induction services generalizing success cpuState with
  | nil => simp [servicesLoop,updateMetrics]
  | cons service services ih =>
    rw [servicesLoop,bind_apply,serviceBody_apply,andThen_ok,ih]
    simp only [updateMetrics,Bool.and_assoc]

/-- update_metrics on files is the cycle on outcomes: its handler never runs. -/
theorem updateMetricsFiles_apply (config : SystemConfig) (cycle : FileCycle)
    (services : List String) (cpuState : CpuStates) :
    updateMetricsFiles config cycle services cpuState=
      let updated := updateMetrics config cycle.outcomes cpuState services
      ⟨updated.1,updated.2.1,.ok updated.2.2⟩ :=
  catchAll_apply_ok (servicesLoop_apply config cycle true services cpuState)

theorem filesStep_eq (config : SystemConfig) (services : List String) (cpuState : CpuStates)
    (cycle : FileCycle) :
    filesStep config services cpuState cycle=
      monitorStep config services cpuState cycle.outcomes := by
  rw [filesStep,updateMetricsFiles_apply]
  rfl

/-- The gauge is one of this service. -/
def isOf (service : String) (set : GaugeSet) : Bool := set.gauge.serviceName=service

/-- What a cycle holds for a service: the time and its outcome. -/
def outcomeAt (service : String) (cycle : MonitorCycle) : ℤ×ServiceOutcome :=
  (cycle.now,cycle.outcome service)

section OneService

variable {config : SystemConfig} {cycle cycle' : MonitorCycle} {cpuState cpuState' : CpuStates}
  {service other : String}

/-- The gauge that counts the state a service is in. -/
def statusSet (service : String) (props : ServiceProperties) : GaugeSet :=
  ⟨⟨serviceStatusName,service,"",props.activeState++"."++props.subState⟩,1⟩

theorem updateService_unreadable (h : (cycle.outcome service).properties=none) :
    updateService config cycle cpuState service=(cpuState,[],false) := by
  simp only [updateService,h]

theorem updateService_inactive {props : ServiceProperties}
    (h : (cycle.outcome service).properties=some props)
    (hskip : props.activeState≠active ∨ props.subState≠running) :
    updateService config cycle cpuState service=(cpuState,[statusSet service props],true) := by
  simp only [updateService,h,if_pos hskip,statusSet]

theorem updateService_active {props : ServiceProperties}
    (h : (cycle.outcome service).properties=some props)
    (hgo : ¬(props.activeState≠active ∨ props.subState≠running)) :
    updateService config cycle cpuState service=
      let process := collectProcessMetrics config service props (cycle.outcome service) cycle.now
        (trackersOf cpuState service).process
      let cgroup := collectCgroupMetrics service props (cycle.outcome service) cycle.now
        (trackersOf cpuState service).cgroup
      (cpuState.insert service ⟨process.1,cgroup.1⟩,
        statusSet service props::(process.2.1++cgroup.2.1),process.2.2 && cgroup.2.2) := by
  simp only [updateService,h,if_neg hgo,statusSet,trackersOf]

theorem publishMetric_isOf (service : String) (val : Option ℚ) (scale : ℚ)
    (name scope errMsg : String) {set : GaugeSet}
    (h : set∈(publishMetric service val scale name scope errMsg).1) :
    set.gauge.serviceName=service := by
  cases val with
  | none => cases h
  | some v => rw [List.mem_singleton.mp h]

theorem collectProcessMetrics_isOf (props : ServiceProperties) (outcome : ServiceOutcome)
    (now : ℤ) (cpu : Tracker ℕ) {set : GaugeSet}
    (h : set∈(collectProcessMetrics config service props outcome now cpu).2.1) :
    set.gauge.serviceName=service := by
  unfold collectProcessMetrics at h
  cases htimes : outcome.processTimes with
  | none =>
    simp only [htimes,List.mem_append] at h
    rcases h with h|h <;> exact publishMetric_isOf _ _ _ _ _ _ h
  | some times =>
    simp only [htimes,List.mem_append] at h
    rcases h with (h|h)|h <;> exact publishMetric_isOf _ _ _ _ _ _ h

theorem collectCgroupMetrics_isOf (props : ServiceProperties) (outcome : ServiceOutcome)
    (now : ℤ) (cpu : Tracker String) {set : GaugeSet}
    (h : set∈(collectCgroupMetrics service props outcome now cpu).2.1) :
    set.gauge.serviceName=service := by
  unfold collectCgroupMetrics at h
  cases husage : outcome.cgroupCpuUsage with
  | none =>
    simp only [husage,List.mem_append] at h
    rcases h with h|h <;> exact publishMetric_isOf _ _ _ _ _ _ h
  | some usageUs =>
    simp only [husage,List.mem_append] at h
    rcases h with (h|h)|h <;> exact publishMetric_isOf _ _ _ _ _ _ h

/-- The update of a service sets gauges of this service only. -/
theorem updateService_isOf {set : GaugeSet}
    (h : set∈(updateService config cycle cpuState service).2.1) :
    set.gauge.serviceName=service := by
  cases hprops : (cycle.outcome service).properties with
  | none =>
    rw [updateService_unreadable hprops] at h
    cases h
  | some props =>
    by_cases hskip : props.activeState≠active ∨ props.subState≠running
    · rw [updateService_inactive hprops hskip] at h
      rw [List.mem_singleton.mp h,statusSet]
    · rw [updateService_active hprops hskip] at h
      rcases List.mem_cons.mp h with rfl|h
      · rfl
      · rcases List.mem_append.mp h with h|h
        · exact collectProcessMetrics_isOf _ _ _ _ h
        · exact collectCgroupMetrics_isOf _ _ _ _ h

/-- It keeps the trackers of every other service. -/
theorem updateService_lookup_of_ne (h : other≠service) :
    (updateService config cycle cpuState service).1.lookup other=cpuState.lookup other := by
  cases hprops : (cycle.outcome service).properties with
  | none => rw [updateService_unreadable hprops]
  | some props =>
    by_cases hskip : props.activeState≠active ∨ props.subState≠running
    · rw [updateService_inactive hprops hskip]
    · rw [updateService_active hprops hskip]
      exact AList.lookup_insert_ne h

/-- It depends on the trackers of this service, the time and its outcome. -/
theorem updateService_congr (hstate : cpuState.lookup service=cpuState'.lookup service)
    (hcycle : outcomeAt service cycle=outcomeAt service cycle') :
    (updateService config cycle cpuState service).1.lookup service=
        (updateService config cycle' cpuState' service).1.lookup service ∧
      (updateService config cycle cpuState service).2=
        (updateService config cycle' cpuState' service).2 := by
  obtain ⟨hnow,houtcome⟩ := Prod.ext_iff.mp hcycle
  change cycle.now=cycle'.now at hnow
  change cycle.outcome service=cycle'.outcome service at houtcome
  cases hprops : (cycle.outcome service).properties with
  | none =>
    rw [updateService_unreadable hprops,updateService_unreadable (houtcome ▸ hprops)]
    exact ⟨hstate,rfl⟩
  | some props =>
    have hprops' : (cycle'.outcome service).properties=some props := houtcome ▸ hprops
    by_cases hskip : props.activeState≠active ∨ props.subState≠running
    · rw [updateService_inactive hprops hskip,updateService_inactive hprops' hskip]
      exact ⟨hstate,rfl⟩
    · have htrackers : trackersOf cpuState service=trackersOf cpuState' service := by
        rw [trackersOf,trackersOf,hstate]
      rw [updateService_active hprops hskip,updateService_active hprops' hskip,htrackers,houtcome,
        hnow]
      simp only [AList.lookup_insert,and_self]

end OneService

section Loop

variable (config : SystemConfig) (cycle : MonitorCycle) (cpuState : CpuStates)
  {services : List String} {service : String}

/-- The gauges of one service among those of another. -/
theorem filter_isOf_of_ne {other : String} (h : service≠other) :
    (updateService config cycle cpuState other).2.1.filter (isOf service)=[] := by
  refine List.filter_eq_nil_iff.mpr fun set hset => ?_
  have hother := updateService_isOf hset
  simpa [isOf,hother] using h.symm

theorem filter_isOf_self :
    (updateService config cycle cpuState service).2.1.filter (isOf service)=
      (updateService config cycle cpuState service).2.1 :=
  List.filter_eq_self.mpr fun set hset => by simp [isOf,updateService_isOf hset]

/-- A cycle leaves a service that is not monitored alone. -/
theorem updateMetrics_of_notMem (h : service∉services) :
    (updateMetrics config cycle cpuState services).1.lookup service=cpuState.lookup service ∧
      (updateMetrics config cycle cpuState services).2.1.filter (isOf service)=[] := by
  induction services generalizing cpuState with
  | nil => exact ⟨rfl,rfl⟩
  | cons first services ih =>
    obtain ⟨hne,hrest⟩ := List.ne_and_not_mem_of_not_mem_cons h
    obtain ⟨hstate,houtputs⟩ := ih (updateService config cycle cpuState first).1 hrest
    rw [updateMetrics]
    refine ⟨hstate.trans (updateService_lookup_of_ne hne),?_⟩
    rw [List.filter_append,filter_isOf_of_ne config cycle cpuState hne,houtputs,List.append_nil]

/-- A cycle over services of distinct names updates each of them as if it were
the only one. -/
theorem updateMetrics_of_mem (hnames : services.Nodup) (h : service∈services) :
    (updateMetrics config cycle cpuState services).1.lookup service=
        (updateService config cycle cpuState service).1.lookup service ∧
      (updateMetrics config cycle cpuState services).2.1.filter (isOf service)=
        (updateService config cycle cpuState service).2.1 := by
  induction services generalizing cpuState with
  | nil => cases h
  | cons first services ih =>
    obtain ⟨hfirst,hrest⟩ := List.nodup_cons.mp hnames
    rw [updateMetrics]
    simp only [List.filter_append]
    rcases List.mem_cons.mp h with rfl|h
    · obtain ⟨hstate,houtputs⟩ := updateMetrics_of_notMem config cycle
        (updateService config cycle cpuState service).1 hfirst
      exact ⟨hstate,by rw [filter_isOf_self,houtputs,List.append_nil]⟩
    · have hne : service≠first := ne_of_mem_of_not_mem h hfirst
      have hkept : (updateService config cycle cpuState first).1.lookup service=
          cpuState.lookup service := updateService_lookup_of_ne hne
      obtain ⟨hstate,houtputs⟩ := ih (updateService config cycle cpuState first).1 hrest h
      obtain ⟨hlookup,hsame⟩ : (updateService config cycle _ service).1.lookup service=
          (updateService config cycle cpuState service).1.lookup service ∧
            (updateService config cycle _ service).2=
              (updateService config cycle cpuState service).2 := updateService_congr hkept rfl
      exact ⟨hstate.trans hlookup,by
        rw [filter_isOf_of_ne config cycle cpuState hne,houtputs,hsame,List.nil_append]⟩

end Loop

/-- One service on its own: its trackers, if it has any yet, fed with the time
and the outcome of each cycle. -/
def aloneStep (config : SystemConfig) (service : String) (state : Option ServiceCpuState)
    (outcome : ℤ×ServiceOutcome) : Option ServiceCpuState×List GaugeSet :=
  let cpuState : CpuStates := state.elim ∅ fun trackers => AList.insert service trackers ∅
  let one := updateService config ⟨outcome.1,fun _ => outcome.2⟩ cpuState service
  (one.1.lookup service,one.2.1)

/-- The cycles over any services are, for each of them, its own steps. -/
theorem filesStep_projects (config : SystemConfig) {services : List String}
    (hnames : services.Nodup) {service : String} (h : service∈services) :
    Projects (filesStep config services) (aloneStep config service) (·.lookup service)
      (fun cycle => outcomeAt service cycle.outcomes) (Option.guard (isOf service)) := by
  have hstate (cpuState : CpuStates) : cpuState.lookup service=AList.lookup service
      ((cpuState.lookup service).elim (∅ : CpuStates) fun trackers =>
        AList.insert service trackers ∅) := by
    cases cpuState.lookup service with
    | none => rfl
    | some trackers => exact (AList.lookup_insert (∅ : CpuStates)).symm
  constructor
  · intro cpuState cycle
    rw [filesStep_eq]
    exact (updateMetrics_of_mem config cycle.outcomes cpuState hnames h).1.trans
      (updateService_congr (hstate cpuState) rfl).1
  · intro cpuState cycle
    rw [filesStep_eq,List.filterMap_eq_filter]
    exact (updateMetrics_of_mem config cycle.outcomes cpuState hnames h).2.trans
      (congrArg Prod.fst (updateService_congr (hstate cpuState) rfl).2)

/-- What a cycle holds for a service: the time and what is found for it. -/
def filesAt (service : String) (cycle : FileCycle) : ℤ×ServiceFiles :=
  (cycle.now,cycle.files service)

/-- The properties of a service cannot be read, or it is active and running and
one of the six reads fails. -/
def Failed (files : ServiceFiles) : Prop :=
  files.properties=none ∨ ∃ props, files.properties=some props ∧ props.activeState=active ∧
    props.subState=running ∧ (getRss files.statForRss=.ok none ∨
      getNumberFds files.fdDirectory=.ok none ∨ getProcessTimes files.statForTimes=.ok none ∨
        getCgroupMemory files.memoryCurrent=.ok none ∨
          getTotalFds files.cgroupProcs files.cgroupFdDirectory=.ok none ∨
            getCgroupCpuUsage files.cpuStat=.ok none)

theorem readValue_isSome {α : Type} {read : Read (Option α)} (h : Total read) :
    (readValue read).isSome=true ↔ ¬read=.ok none := by
  obtain ⟨value,rfl⟩ := h
  cases value <;> simp [readValue]

theorem publishMetric_snd {service name scope errMsg : String} {val : Option ℚ} {scale : ℚ}
    (h : errMsg≠"") :
    (publishMetric service val scale name scope errMsg).2=val.isSome := by
  cases val <;> simp [publishMetric,h]

/-- The process metrics succeed when the three reads do. -/
theorem collectProcessMetrics_result (config : SystemConfig) (service : String)
    (props : ServiceProperties) (outcome : ServiceOutcome) (now : ℤ) (cpu : Tracker ℕ) :
    (collectProcessMetrics config service props outcome now cpu).2.2=
      (outcome.rss.isSome && outcome.numberFds.isSome && outcome.processTimes.isSome) := by
  unfold collectProcessMetrics
  cases outcome.processTimes with
  | none => simp
  | some times => simp [publishMetric_snd]

theorem collectCgroupMetrics_result (service : String) (props : ServiceProperties)
    (outcome : ServiceOutcome) (now : ℤ) (cpu : Tracker String) :
    (collectCgroupMetrics service props outcome now cpu).2.2=
      (outcome.cgroupMemory.isSome && outcome.totalFds.isSome &&
        outcome.cgroupCpuUsage.isSome) := by
  unfold collectCgroupMetrics
  cases outcome.cgroupCpuUsage with
  | none => simp
  | some usageUs => simp [publishMetric_snd]

/-- The update of a service succeeds unless it has failed. -/
theorem updateService_result (config : SystemConfig) (cycle : FileCycle) (cpuState : CpuStates)
    (service : String) :
    (updateService config cycle.outcomes cpuState service).2.2=true ↔
      ¬Failed (cycle.files service) := by
  have hproperties : (cycle.outcomes.outcome service).properties=(cycle.files service).properties :=
    rfl
  cases hprops : (cycle.files service).properties with
  | none =>
    rw [updateService_unreadable (hproperties.trans hprops)]
    simp [Failed,hprops]
  | some props =>
    by_cases hskip : props.activeState≠active ∨ props.subState≠running
    · rw [updateService_inactive (hproperties.trans hprops) hskip]
      have hnot : ¬(props.activeState=active ∧ props.subState=running) := not_and_or.mpr hskip
      simp only [Failed,hprops,reduceCtorEq,false_or,Option.some.injEq,exists_eq_left',true_iff]
      exact fun hfailed => hnot ⟨hfailed.1,hfailed.2.1⟩
    · obtain ⟨hactive,hrunning⟩ : props.activeState=active ∧ props.subState=running := by
        simpa [not_or] using hskip
      rw [updateService_active (hproperties.trans hprops) hskip]
      simp only [collectProcessMetrics_result,collectCgroupMetrics_result,Bool.and_eq_true,
        FileCycle.outcomes,outcomeOf,readValue_isSome (getRss_total _),
        readValue_isSome (getNumberFds_total _),readValue_isSome (getProcessTimes_total _),
        readValue_isSome (getCgroupMemory_total _),readValue_isSome (getTotalFds_total ..),
        readValue_isSome (getCgroupCpuUsage_total _)]
      simp only [Failed,hprops,reduceCtorEq,false_or,Option.some.injEq,exists_eq_left',hactive,
        hrunning,true_and,not_or,and_assoc]

/-- update_metrics succeeds unless a service has failed. -/
theorem updateMetrics_result (config : SystemConfig) (cycle : FileCycle) (cpuState : CpuStates)
    (services : List String) :
    (updateMetrics config cycle.outcomes cpuState services).2.2=true ↔
      ∀ service∈services,¬Failed (cycle.files service) := by
  induction services generalizing cpuState with
  | nil => simp [updateMetrics]
  | cons service services ih =>
    simp only [updateMetrics,Bool.and_eq_true,updateService_result,ih,List.forall_mem_cons]

/-- What the monitor promises each of its services, and its result. The run of
the service alone need only find the same for this service at the same times. -/
structure Isolated (config : SystemConfig) (services : List String) : Prop where
  trackers : ∀ service∈services,∀ history alone : List FileCycle,
    history.map (filesAt service)=alone.map (filesAt service) →
      (runState (filesStep config services) ∅ history).lookup service=
        (runState (filesStep config [service]) ∅ alone).lookup service
  gauges : ∀ service∈services,∀ (before alone : List FileCycle) (cycle cycle' : FileCycle),
    before.map (filesAt service)=alone.map (filesAt service) →
      filesAt service cycle=filesAt service cycle' →
        (outputAfter (filesStep config services) ∅ before cycle).filter (isOf service)=
          outputAfter (filesStep config [service]) ∅ alone cycle'
  result : ∀ (cycle : FileCycle) (cpuState : CpuStates), ∃ success,
    (updateMetricsFiles config cycle services cpuState).result=.ok success ∧
      (success=false ↔ ∃ service∈services,Failed (cycle.files service))

/-- A cycle over one service sets its gauges only. -/
theorem filter_filesStep_singleton (config : SystemConfig) (service : String)
    (cpuState : CpuStates) (cycle : FileCycle) :
    (filesStep config [service] cpuState cycle).2.filter (isOf service)=
      (filesStep config [service] cpuState cycle).2 := by
  rw [filesStep_eq,monitorStep_singleton]
  exact filter_isOf_self ..

/-- Services of distinct names are isolated from each other, whatever the files
hold. -/
theorem services_isolated (config : SystemConfig) {services : List String}
    (hnames : services.Nodup) : Isolated config services := by
  have hmany {service : String} (h : service∈services) :=
    filesStep_projects config hnames h
  have hone (service : String) :=
    filesStep_projects config (List.nodup_singleton service) (List.mem_singleton_self service)
  have hsame {service : String} {history alone : List FileCycle}
      (h : history.map (filesAt service)=alone.map (filesAt service)) :
      (history.map fun cycle => outcomeAt service cycle.outcomes)=
        alone.map fun cycle => outcomeAt service cycle.outcomes := by
    have hmap := congrArg (List.map fun found : ℤ×ServiceFiles => (found.1,outcomeOf found.2)) h
    rw [List.map_map,List.map_map] at hmap
    exact hmap
  refine ⟨fun service h history alone hmap => ?_,
    fun service h before alone cycle cycle' hmap hcycle => ?_,fun cycle cpuState => ?_⟩
  · rw [(hmany h).runState,hsame hmap,(hone service).runState]
  · have hinput : outcomeAt service cycle.outcomes=outcomeAt service cycle'.outcomes :=
      congrArg (fun found : ℤ×ServiceFiles => (found.1,outcomeOf found.2)) hcycle
    have hfilter : (outputAfter (filesStep config [service]) ∅ alone cycle').filter (isOf service)=
        outputAfter (filesStep config [service]) ∅ alone cycle' :=
      filter_filesStep_singleton config service _ cycle'
    rw [←hfilter,←List.filterMap_eq_filter,(hmany h).outputAfter,
      (hone service).outputAfter,hsame hmap,hinput]
  · refine ⟨_,congrArg Outcome.result (updateMetricsFiles_apply config cycle services cpuState),?_⟩
    rw [←Bool.not_eq_true,updateMetrics_result]
    simp only [not_forall,not_not,exists_prop]

/-- The rule for two services. -/
theorem services_isolated_two :
    Isolated ⟨4096,100,by decide,by decide⟩ ["nginx.service","sshd.service"] :=
  services_isolated _ (by decide)

end AtlasAgent.ServiceIsolation
