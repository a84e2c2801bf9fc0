import AtlasAgent.Effects
import AtlasAgent.FileReaders
import Mathlib.Data.Fintype.Basic

/-!
# CPU statistics of the control group

CGroup::CpuStats with the functions it calls. Their statics are one record.
An exception that leaves a noexcept function ends the agent, and so, at best,
does the read of an element a vector does not have; what was published and
stored before that stays.
-/

namespace AtlasAgent.CGroupCpu

open Effects FileReaders IeeeDouble NumberText TextFields

/-- How a call can end other than by returning. -/
inductive Abort
  /-- std::out_of_range of a map lookup, thrown out of a noexcept function. -/
  | terminate
  /-- A vector element past the end. -/
  | outOfBounds
  deriving DecidableEq

/-- The static counters of the functions, each a value read earlier. -/
inductive Counter
  | throttledTime
  | procTime
  | sysUsage
  | userUsage
  | utilizationSystem
  | utilizationUser
  | peakSystem
  | peakUser
  deriving DecidableEq

/-- The functions with a static time last_updated. -/
inductive Timer
  | capacity
  | utilization
  | peak
  deriving DecidableEq

/-- The statics. A time is a number of absl ticks since the Unix epoch. -/
structure Statics where
  prev : Counter → ℤ
  lastUpdated : Timer → ℤ

/-- The statics before the first call: -1 for every counter, and the default
absl::Time, which is the Unix epoch. -/
def Statics.init : Statics := ⟨fun _ => -1,fun _ => 0⟩

def Statics.setPrev (s : Statics) (counter : Counter) (value : ℤ) : Statics :=
  {s with prev := Function.update s.prev counter value}

def Statics.setUpdated (s : Statics) (timer : Timer) (now : ℤ) : Statics :=
  {s with lastUpdated := Function.update s.lastUpdated timer now}

@[simp] theorem setPrev_self (s : Statics) (counter : Counter) (value : ℤ) :
    (s.setPrev counter value).prev counter=value := Function.update_self ..

theorem setPrev_of_ne {counter counter' : Counter} (h : counter'≠counter) (s : Statics)
    (value : ℤ) : (s.setPrev counter value).prev counter'=s.prev counter' :=
  Function.update_of_ne h ..

@[simp] theorem setPrev_lastUpdated (s : Statics) (counter : Counter) (value : ℤ) :
    (s.setPrev counter value).lastUpdated=s.lastUpdated := rfl

@[simp] theorem setUpdated_self (s : Statics) (timer : Timer) (now : ℤ) :
    (s.setUpdated timer now).lastUpdated timer=now := Function.update_self ..

theorem setUpdated_of_ne {timer timer' : Timer} (h : timer'≠timer) (s : Statics) (now : ℤ) :
    (s.setUpdated timer now).lastUpdated timer'=s.lastUpdated timer' :=
  Function.update_of_ne h ..

@[simp] theorem setUpdated_prev (s : Statics) (timer : Timer) (now : ℤ) :
    (s.setUpdated timer now).prev=s.prev := rfl

/-- The tag id of the time and utilization metrics. -/
inductive CpuId
  | system
  | user
  deriving DecidableEq

instance : Fintype CpuId := ⟨{.system,.user},fun id => by cases id <;> decide⟩

theorem CpuId.exists {P : CpuId → Prop} : (∃ id, P id) ↔ P .system ∨ P .user :=
  ⟨fun ⟨id,h⟩ => by cases id <;> simp [h],by rintro (h|h) <;> exact ⟨_,h⟩⟩

/-- What CpuStats sends to the registry. -/
inductive CpuMetric
  /-- Increment of the counter cgroup.cpu.throttledTime. -/
  | throttledTime (seconds : ℚ)
  /-- The monotonic counter cgroup.cpu.numThrottled. -/
  | numThrottled (value : ℤ)
  /-- Increment of the counter cgroup.cpu.processingTime. -/
  | processingTime (seconds : ℚ)
  /-- Increment of the counter cgroup.cpu.usageTime. -/
  | usageTime (id : CpuId) (seconds : ℚ)
  /-- Increment of the counter cgroup.cpu.processingCapacity. -/
  | processingCapacity (value : Ieee)
  /-- The gauge cgroup.cpu.weight. -/
  | weight (value : ℤ)
  /-- The gauge sys.cpu.numProcessors. -/
  | numProcessors (value : Ieee)
  /-- The gauge titus.cpu.requested. -/
  | requested (value : Ieee)
  /-- The gauge sys.cpu.utilization. -/
  | utilization (id : CpuId) (value : Ieee)
  /-- The max gauge sys.cpu.peakUtilization. -/
  | peakUtilization (id : CpuId) (value : Ieee)
  deriving DecidableEq

/-- A function of the class CGroup. -/
abbrev CpuProgram := Program Statics CpuMetric Abort

/-- Microseconds in a second. -/
def micros : ℚ := 1000*1000

/-- Ticks of absl::Time in a second, four to a nanosecond. -/
def abslTicks : ℤ := 4000000000

/-- absl::ToDoubleSeconds of a duration. -/
def toDoubleSeconds (ticks : ℤ) : ℚ := ticks/abslTicks

/-- The member at of the map, which throws for a key it does not have. -/
def statsAt (stats : Stats) (key : Token) : CpuProgram ℤ :=
  match stats.lookup key with
  | some value => pure value
  | none => fail .terminate

/-- The block around a static counter: publish its growth unless it still has
a negative value, and store the value of this call. -/
def sampleCounter (stats : Stats) (key : Token) (counter : Counter) (publish : ℚ → CpuMetric) :
    CpuProgram Unit := do
  let s ← getState
  (if 0 ≤ s.prev counter then do
    let value ← statsAt stats key
    emit (publish ((value-s.prev counter : ℤ)/micros))
  else pure ())
  let value ← statsAt stats key
  modifyState (·.setPrev counter value)

def throttledUsec : Token := "throttled_usec".toList
def nrThrottled : Token := "nr_throttled".toList
def usageUsec : Token := "usage_usec".toList
def systemUsec : Token := "system_usec".toList
def userUsec : Token := "user_usec".toList

/-- CGroup::CpuThrottleV2. -/
def cpuThrottleV2 (stats : Stats) : CpuProgram Unit := do
  sampleCounter stats throttledUsec .throttledTime .throttledTime
  let value ← statsAt stats nrThrottled
  emit (.numThrottled value)

/-- CGroup::CpuTimeV2. -/
def cpuTimeV2 (stats : Stats) : CpuProgram Unit := do
  sampleCounter stats usageUsec .procTime .processingTime
  sampleCounter stats systemUsec .sysUsage (.usageTime .system)
  sampleCounter stats userUsec .userUsage (.usageTime .user)

/-- CGroup::GetAvailCpuTime. -/
def getAvailCpuTime (cpuMax : Option Token) (deltaT : ℚ) (cpuCount : Ieee) : CpuProgram Ieee :=
  match ((readNumVectorFromFile cpuMax)[1]? : Option ℤ) with
  | none => fail .outOfBounds
  | some cfsPeriod => pure (.finite deltaT/.finite cfsPeriod*(.finite cfsPeriod*cpuCount))

/-- CGroup::GetNumCpu, from the variable TITUS_NUM_CPU. -/
def getNumCpu : Option Token → Ieee
  | none => .finite 0
  | some text => strtod text

/-- Seconds since a static time, moved to now; a time at the epoch is taken as
one interval ago. -/
def elapsedSince (timer : Timer) (now interval : ℤ) : CpuProgram ℚ := do
  let s ← getState
  let lastUpdated := if s.lastUpdated timer=0 then now-interval else s.lastUpdated timer
  modifyState (·.setUpdated timer now)
  pure (toDoubleSeconds (now-lastUpdated))

/-- CGroup::CpuProcessingCapacity. -/
def cpuProcessingCapacity (now : ℤ) (cpuCount : Ieee) (interval : ℤ) : CpuProgram Unit := do
  let deltaT ← elapsedSince .capacity now interval
  emit (.processingCapacity (.finite deltaT*cpuCount))

/-- The percentage both utilization functions publish. -/
def percentOf (availCpuTime : Ieee) (secs : ℚ) : Ieee := .finite secs/availCpuTime*.finite 100

/-- One call of CpuStats: its flags, the files as they are read, the variable
TITUS_NUM_CPU and the readings of the clock. -/
structure CpuTick where
  fiveSecond : Bool
  sixtySecond : Bool
  cpuStat : Option Token
  cpuWeight : Option Token
  /-- cpu.max as CpuUtilizationV2 finds it. -/
  utilizationMax : Option Token
  /-- cpu.max as CpuPeakUtilizationV2 finds it. -/
  peakMax : Option Token
  titusNumCpu : Option Token
  utilizationNow : ℤ
  capacityNow : ℤ
  peakNow : ℤ

/-- The map parsed from cpu.stat. -/
def CpuTick.stats (tick : CpuTick) : Stats := parseKvFromFile tick.cpuStat

/-- The number of processors of a call. -/
def CpuTick.cpuCount (tick : CpuTick) : Ieee := getNumCpu tick.titusNumCpu

/-- CGroup::CpuUtilizationV2. -/
def cpuUtilizationV2 (tick : CpuTick) (interval : ℤ) : CpuProgram Unit := do
  let deltaT ← elapsedSince .utilization tick.utilizationNow interval
  let weight := readNumFromFile tick.cpuWeight
  (if 0≤weight then emit (.weight weight) else pure ())
  let availCpuTime ← getAvailCpuTime tick.utilizationMax deltaT tick.cpuCount
  emit (.numProcessors tick.cpuCount)
  emit (.requested tick.cpuCount)
  sampleCounter tick.stats systemUsec .utilizationSystem
    fun secs => .utilization .system (percentOf availCpuTime secs)
  sampleCounter tick.stats userUsec .utilizationUser
    fun secs => .utilization .user (percentOf availCpuTime secs)

/-- CGroup::CpuPeakUtilizationV2, whose time has no rule for the first call. -/
def cpuPeakUtilizationV2 (tick : CpuTick) : CpuProgram Unit := do
  let s ← getState
  let deltaT := toDoubleSeconds (tick.peakNow-s.lastUpdated .peak)
  modifyState (·.setUpdated .peak tick.peakNow)
  let availCpuTime ← getAvailCpuTime tick.peakMax deltaT tick.cpuCount
  sampleCounter tick.stats systemUsec .peakSystem
    fun secs => .peakUtilization .system (percentOf availCpuTime secs)
  sampleCounter tick.stats userUsec .peakUser
    fun secs => .peakUtilization .user (percentOf availCpuTime secs)

/-- CGroup::CpuStats. -/
def cpuStats (tick : CpuTick) : CpuProgram Unit := do
  (if tick.sixtySecond then do
    cpuThrottleV2 tick.stats
    cpuUtilizationV2 tick (60*abslTicks)
  else pure ())
  (if tick.fiveSecond then do
    cpuTimeV2 tick.stats
    cpuProcessingCapacity tick.capacityNow tick.cpuCount (5*abslTicks)
  else pure ())
  cpuPeakUtilizationV2 tick

/-- What the block around a counter publishes with a key of the map. -/
def growthSince (prev value : ℤ) (publish : ℚ → CpuMetric) : List CpuMetric :=
  if 0≤prev then [publish ((value-prev : ℤ)/micros)] else []

/-- With its key, the block publishes the growth and stores the value. -/
theorem sampleCounter_of_lookup {stats : Stats} {key : Token} {counter : Counter}
    {publish : ℚ → CpuMetric} {s : Statics} {value : ℤ} (h : stats.lookup key=some value) :
    sampleCounter stats key counter publish s=
      ⟨s.setPrev counter value,growthSince (s.prev counter) value publish,.ok ()⟩ := by
  by_cases hprev : 0 ≤ s.prev counter <;> simp [sampleCounter,statsAt,growthSince,h,hprev]

/-- Without its key, the block throws before it has done anything. -/
theorem sampleCounter_of_missing {stats : Stats} {key : Token} {counter : Counter}
    {publish : ℚ → CpuMetric} {s : Statics} (h : stats.lookup key=none) :
    sampleCounter stats key counter publish s=⟨s,[],.error .terminate⟩ := by
  by_cases hprev : 0 ≤ s.prev counter <;> simp [sampleCounter,statsAt,h,hprev]

/-- The agent between two calls: the statics, until a call ends it. -/
inductive Agent
  | running (s : Statics)
  | ended

/-- One call of CpuStats by the agent, with what it publishes even when it is
the last one. -/
def agentStep : Agent → CpuTick → Agent×List CpuMetric
  | .ended,_ => (.ended,[])
  | .running s,tick =>
    match (cpuStats tick s).result with
    | .ok () => (.running (cpuStats tick s).state,(cpuStats tick s).outputs)
    | .error _ => (.ended,(cpuStats tick s).outputs)

/-- A lookup returns exactly for a key of the map. -/
theorem statsAt_returns {stats : Stats} {key : Token} {s : Statics} :
    Returns (statsAt stats key) s ↔ ∃ value, stats.lookup key=some value := by
  unfold statsAt
  cases stats.lookup key <;> simp

/-- The block around a counter always looks its key up. -/
theorem sampleCounter_returns {stats : Stats} {key : Token} {counter : Counter}
    {publish : ℚ → CpuMetric} {s : Statics} :
    Returns (sampleCounter stats key counter publish) s ↔
      ∃ value, stats.lookup key=some value := by
  cases h : stats.lookup key with
  | none => simp [Returns,sampleCounter_of_missing h]
  | some value => simp [Returns,sampleCounter_of_lookup h]

theorem getAvailCpuTime_returns {cpuMax : Option Token} {deltaT : ℚ} {cpuCount : Ieee}
    {s : Statics} : Returns (getAvailCpuTime cpuMax deltaT cpuCount) s ↔ HasSecondField cpuMax := by
  rw [←second_readNumVectorFromFile]
  unfold getAvailCpuTime
  cases (readNumVectorFromFile cpuMax)[1]? <;> simp

theorem elapsedSince_returns {timer : Timer} {now interval : ℤ} {s : Statics} :
    Returns (elapsedSince timer now interval) s ↔ True := by
  simp [Returns,elapsedSince]

theorem cpuThrottleV2_returns {stats : Stats} {s : Statics} :
    Returns (cpuThrottleV2 stats) s ↔
      (∃ value, stats.lookup throttledUsec=some value) ∧
        ∃ value, stats.lookup nrThrottled=some value := by
  refine returns_seq sampleCounter_returns fun _ s' => ?_
  have h : Returns (statsAt stats nrThrottled >>= fun value => emit (.numThrottled value)) s' ↔
      (∃ value, stats.lookup nrThrottled=some value) ∧ True :=
    returns_seq statsAt_returns fun _ _ => returns_emit _ _
  rw [h,and_true]

theorem cpuTimeV2_returns {stats : Stats} {s : Statics} :
    Returns (cpuTimeV2 stats) s ↔
      (∃ value, stats.lookup usageUsec=some value) ∧
        (∃ value, stats.lookup systemUsec=some value) ∧
          ∃ value, stats.lookup userUsec=some value :=
  returns_seq sampleCounter_returns fun _ _ =>
    returns_seq sampleCounter_returns fun _ _ => sampleCounter_returns

theorem cpuProcessingCapacity_returns {now : ℤ} {cpuCount : Ieee} {interval : ℤ} {s : Statics} :
    Returns (cpuProcessingCapacity now cpuCount interval) s ↔ True := by
  have h : Returns (cpuProcessingCapacity now cpuCount interval) s ↔ True ∧ True :=
    returns_seq elapsedSince_returns fun _ _ => returns_emit _ _
  rwa [and_true] at h

theorem cpuUtilizationV2_returns {tick : CpuTick} {interval : ℤ} {s : Statics} :
    Returns (cpuUtilizationV2 tick interval) s ↔
      HasSecondField tick.utilizationMax ∧ (∃ value, tick.stats.lookup systemUsec=some value) ∧
        ∃ value, tick.stats.lookup userUsec=some value := by
  have hweight (s' : Statics) : Returns (if 0 ≤ readNumFromFile tick.cpuWeight then
      emit (.weight (readNumFromFile tick.cpuWeight)) else pure () : CpuProgram Unit) s' ↔
        True := by
    simp [returns_when]
  have h : Returns (cpuUtilizationV2 tick interval) s ↔ True ∧ True ∧
      HasSecondField tick.utilizationMax ∧ True ∧ True ∧
        (∃ value, tick.stats.lookup systemUsec=some value) ∧
          ∃ value, tick.stats.lookup userUsec=some value :=
    returns_seq elapsedSince_returns fun _ _ => returns_seq (hweight _) fun _ _ =>
      returns_seq getAvailCpuTime_returns fun _ _ => returns_seq (returns_emit _ _) fun _ _ =>
        returns_seq (returns_emit _ _) fun _ _ => returns_seq sampleCounter_returns fun _ _ =>
          sampleCounter_returns
  simpa only [true_and] using h

theorem cpuPeakUtilizationV2_returns {tick : CpuTick} {s : Statics} :
    Returns (cpuPeakUtilizationV2 tick) s ↔
      HasSecondField tick.peakMax ∧ (∃ value, tick.stats.lookup systemUsec=some value) ∧
        ∃ value, tick.stats.lookup userUsec=some value := by
  have h : Returns (cpuPeakUtilizationV2 tick) s ↔ True ∧ True ∧ HasSecondField tick.peakMax ∧
      (∃ value, tick.stats.lookup systemUsec=some value) ∧
        ∃ value, tick.stats.lookup userUsec=some value :=
    returns_seq (returns_getState _) fun _ _ => returns_seq (returns_modifyState _ _) fun _ _ =>
      returns_seq getAvailCpuTime_returns fun _ _ => returns_seq sampleCounter_returns fun _ _ =>
        sampleCounter_returns
  simpa only [true_and] using h

/-- The files of a call have what its flags make the functions look up. -/
def ReadsComplete (tick : CpuTick) : Prop :=
  (tick.sixtySecond=true → HasKey tick.cpuStat throttledUsec ∧ HasKey tick.cpuStat nrThrottled ∧
      HasSecondField tick.utilizationMax) ∧
    (tick.fiveSecond=true → HasKey tick.cpuStat usageUsec) ∧
      HasKey tick.cpuStat systemUsec ∧ HasKey tick.cpuStat userUsec ∧ HasSecondField tick.peakMax

/-- CpuStats returns exactly when cpu.stat has the keys and cpu.max the field
that its flags require; every other call ends the agent. -/
theorem cpuStats_returns_iff (tick : CpuTick) (s : Statics) :
    (cpuStats tick s).result=.ok () ↔ ReadsComplete tick := by
  have hsixty (s' : Statics) : Returns (if tick.sixtySecond then do
      cpuThrottleV2 tick.stats
      cpuUtilizationV2 tick (60*abslTicks)
      else pure () : CpuProgram Unit) s' ↔ (tick.sixtySecond=true →
        ((∃ value, tick.stats.lookup throttledUsec=some value) ∧
          ∃ value, tick.stats.lookup nrThrottled=some value) ∧
        HasSecondField tick.utilizationMax ∧ (∃ value, tick.stats.lookup systemUsec=some value) ∧
          ∃ value, tick.stats.lookup userUsec=some value) :=
    returns_when.trans <| imp_congr_right fun _ =>
      returns_seq cpuThrottleV2_returns fun _ _ => cpuUtilizationV2_returns
  have hfive (s' : Statics) : Returns (if tick.fiveSecond then do
      cpuTimeV2 tick.stats
      cpuProcessingCapacity tick.capacityNow tick.cpuCount (5*abslTicks)
      else pure () : CpuProgram Unit) s' ↔ (tick.fiveSecond=true →
        ((∃ value, tick.stats.lookup usageUsec=some value) ∧
          (∃ value, tick.stats.lookup systemUsec=some value) ∧
            ∃ value, tick.stats.lookup userUsec=some value) ∧ True) :=
    returns_when.trans <| imp_congr_right fun _ =>
      returns_seq cpuTimeV2_returns fun _ _ => cpuProcessingCapacity_returns
  rw [←returns_unit,cpuStats,returns_seq (hsixty s) fun _ s' => returns_seq (hfive s') fun _ _ =>
    cpuPeakUtilizationV2_returns]
  unfold ReadsComplete
  simp only [CpuTick.stats,lookup_parseKvFromFile]
  -- keys are compared as propositions from here on, not as the strings they are
  generalize HasKey tick.cpuStat systemUsec=system
  generalize HasKey tick.cpuStat userUsec=user
  generalize HasKey tick.cpuStat usageUsec=usage
  generalize HasKey tick.cpuStat throttledUsec=throttled
  generalize HasKey tick.cpuStat nrThrottled=periods
  tauto

/-- A call with no flag set that cannot open cpu.stat. -/
def unreadableCpuStat : CpuTick :=
  ⟨false,false,none,none,none,some "max 100000\n".toList,none,0,0,0⟩

/-- It ends the agent. -/
theorem unreadable_cpuStat_terminates :
    (cpuStats unreadableCpuStat .init).result=.error .terminate := by
  decide +kernel

end AtlasAgent.CGroupCpu
