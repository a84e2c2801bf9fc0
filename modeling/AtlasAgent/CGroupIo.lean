import AtlasAgent.FileReaders
import AtlasAgent.LatestSample
import AtlasAgent.ProcCpu
import Mathlib.Data.Fintype.Basic

/-!
# Disk statistics of the control group

CGroup::IOStats: io.stat and io.max are parsed as wholes, and UpdateIOMetrics
publishes what each device has grown by since the statistics stored for it.
A device that a file lacks keeps its stored statistics. A std::unordered_map
is an association list without duplicate keys; no result depends on the order
in which it is iterated.
-/

namespace AtlasAgent.CGroupIo

open FileReaders IeeeDouble LatestSample NumberText ProcCpu RunHistory TextFields

/-- A known key of io.stat. -/
inductive IoKey
  | rbytes
  | wbytes
  | rios
  | wios
  | dbytes
  | dios
  deriving DecidableEq

instance : Fintype IoKey :=
  ⟨{.rbytes,.wbytes,.rios,.wios,.dbytes,.dios},fun key => by cases key <;> decide⟩

/-- A key of io.max. -/
inductive ThrottleKey
  | rbps
  | wbps
  | riops
  | wiops
  deriving DecidableEq

instance : Fintype ThrottleKey := ⟨{.rbps,.wbps,.riops,.wiops},fun key => by cases key <;> decide⟩

def IoKey.ofToken (key : Token) : Option IoKey :=
  if key="rbytes".toList then some .rbytes
  else if key="wbytes".toList then some .wbytes
  else if key="rios".toList then some .rios
  else if key="wios".toList then some .wios
  else if key="dbytes".toList then some .dbytes
  else if key="dios".toList then some .dios
  else none

def ThrottleKey.ofToken (key : Token) : Option ThrottleKey :=
  if key="rbps".toList then some .rbps
  else if key="wbps".toList then some .wbps
  else if key="riops".toList then some .riops
  else if key="wiops".toList then some .wiops
  else none

/-- The std::runtime_error of the parsers, with what its text names. -/
inductive IoError
  /-- Malformed key=value pair. -/
  | malformedPair (field : Token)
  /-- Failed to parse expected integer. -/
  | notANumber
  /-- Negative value for a key. -/
  | negativeValue (key : Token)
  /-- Duplicate key, or an unexpected one in io.max. -/
  | rejectedKey (key : Token)
  /-- Incomplete IO statistics or throttle settings for a device. -/
  | incomplete (device : Token)
  deriving DecidableEq

/-- struct IOStats after validation, when every value is set. -/
structure IOStats where
  deviceName : Token
  majorMinor : Token
  value : IoKey → Ieee

/-- struct IOThrottle after validation. -/
structure IOThrottle where
  device : Token
  value : ThrottleKey → Ieee

abbrev IOStatsMap := AList fun _ : Token => IOStats
abbrev IOThrottleMap := AList fun _ : Token => IOThrottle

/-- The member emplace of a map: an entry that is there stays. -/
def emplace {α : Type} (map : AList fun _ : Token => α) (key : Token) (value : α) :
    AList fun _ : Token => α :=
  if (map.lookup key).isSome then map else map.insert key value

/-- FindDeviceNames, from /proc/diskstats. -/
def findDeviceNames (diskstats : Option Token) : AList fun _ : Token => Token :=
  (readLinesFields diskstats).foldl (fun deviceMap fields =>
    if fields.length=20 then
      emplace deviceMap (fields.getD 0 [] ++ [':'] ++ fields.getD 1 []) (fields.getD 2 [])
    else deviceMap) ∅

/-- A field taken apart at its first equals sign. -/
def keyValue (field : Token) : Option (Token×Token) :=
  match field.dropWhile (· ≠ '=') with
  | [] => none
  | _::value => some (field.takeWhile (· ≠ '='),value)

/-- A number that is not negative. -/
def parseValue (key value : Token) : Except IoError Ieee :=
  match fromCharsDouble value with
  | none => .error .notANumber
  | some number => if Ieee.less number 0 then .error (.negativeValue key) else .ok number

/-- Set a value that has not been set. -/
def setOnce {κ : Type} [DecidableEq κ] (values : κ → Option Ieee) (name : Token) (key : κ)
    (value : Ieee) : Except IoError (κ → Option Ieee) :=
  if (values key).isSome then .error (.rejectedKey name)
  else .ok (Function.update values key (some value))

/-- One field of ParseIOLine; unknown keys are skipped before their values. -/
def parseIOField (values : IoKey → Option Ieee) (field : Token) :
    Except IoError (IoKey → Option Ieee) :=
  match keyValue field with
  | none => .error (.malformedPair field)
  | some (name,text) =>
    match IoKey.ofToken name with
    | none => .ok values
    | some key => do setOnce values name key (← parseValue name text)

/-- One field of ParseIOThrottleLine, where max is -1 and no key is unknown. -/
def parseThrottleField (values : ThrottleKey → Option Ieee) (field : Token) :
    Except IoError (ThrottleKey → Option Ieee) :=
  match keyValue field with
  | none => .error (.malformedPair field)
  | some (name,text) => do
    let value ← if text="max".toList then .ok (.finite (-1)) else parseValue name text
    match ThrottleKey.ofToken name with
    | none => .error (.rejectedKey name)
    | some key => setOnce values name key value

/-- The values of a line once all of them are set. -/
def complete {κ : Type} [Fintype κ] (device : Token) (values : κ → Option Ieee) :
    Except IoError (κ → Ieee) :=
  if h : ∀ key, (values key).isSome=true then .ok fun key => (values key).get (h key)
  else .error (.incomplete device)

/-- ParseIOLine, whose exceptions it catches itself. -/
def parseIOLine (fields : List Token) (devMap : AList fun _ : Token => Token) : Option IOStats :=
  let majorMinor := fields.headD []
  let parsed := do
    let values ← fields.tail.foldlM parseIOField fun _ => none
    complete majorMinor values
  parsed.toOption.map fun value =>
    ⟨(devMap.lookup majorMinor).getD "unknown".toList,majorMinor,value⟩

/-- ParseIOThrottleLine, whose exceptions it catches itself. -/
def parseIOThrottleLine (fields : List Token) : Option IOThrottle :=
  let device := fields.headD []
  let parsed := do
    let values ← fields.tail.foldlM parseThrottleField fun _ => none
    complete device values
  parsed.toOption.map fun value => ⟨device,value⟩

/-- The loop of ParseIOLines: a line of one field is skipped, and one line with
an error empties the result. -/
def parseIOLinesLoop (devMap : AList fun _ : Token => Token) (ioStats : IOStatsMap) :
    List (List Token) → IOStatsMap
  | [] => ioStats
  | fields::lines =>
    if fields.length=1 then parseIOLinesLoop devMap ioStats lines
    else if fields.length<7 then ∅
    else
      match parseIOLine fields devMap with
      | none => ∅
      | some stats => parseIOLinesLoop devMap (emplace ioStats stats.majorMinor stats) lines

/-- ParseIOLines. -/
def parseIOLines (lines : List (List Token)) (devMap : AList fun _ : Token => Token) :
    IOStatsMap :=
  parseIOLinesLoop devMap ∅ lines

/-- The loop of ParseIOThrottleLines. -/
def parseIOThrottleLinesLoop (ioThrottles : IOThrottleMap) : List (List Token) → IOThrottleMap
  | [] => ioThrottles
  | fields::lines =>
    if fields.length≠5 then ∅
    else
      match parseIOThrottleLine fields with
      | none => ∅
      | some throttle =>
        parseIOThrottleLinesLoop (emplace ioThrottles throttle.device throttle) lines

/-- ParseIOThrottleLines. -/
def parseIOThrottleLines (lines : List (List Token)) : IOThrottleMap :=
  parseIOThrottleLinesLoop ∅ lines

/-- The counters of a device: bytes and operations, read and written. -/
inductive Activity
  | readBytes
  | writeBytes
  | readOps
  | writeOps
  deriving DecidableEq

/-- The statistic behind a counter. -/
def Activity.statistic : Activity → IoKey
  | readBytes => .rbytes
  | writeBytes => .wbytes
  | readOps => .rios
  | writeOps => .wios

/-- The limit that throttles it. -/
def Activity.limit : Activity → ThrottleKey
  | readBytes => .rbps
  | writeBytes => .wbps
  | readOps => .riops
  | writeOps => .wiops

/-- The order in which UpdateIOMetrics takes the counters. -/
def activities : List Activity := [.readBytes,.writeBytes,.readOps,.writeOps]

theorem mem_activities (activity : Activity) : activity∈activities := by
  cases activity <;> decide

/-- What IOStats sends to the registry. The key of the device is not a tag; its
name is. -/
inductive IoMetric
  /-- Increment of disk.io.bytes or disk.io.ops. -/
  | increment (device dev : Token) (activity : Activity) (delta : Ieee)
  /-- Record of cgroup.disk.io.throttleActivityBytes or Operations. -/
  | throttleActivity (device dev : Token) (activity : Activity) (utilization : Ieee)
  deriving DecidableEq

/-- The device a metric is about. -/
def IoMetric.device : IoMetric → Token
  | increment device _ _ _ => device
  | throttleActivity device _ _ _ => device

/-- INTERVAL_SECONDS. -/
def intervalSeconds : ℚ := 5

/-- PERCENT_MULTIPLIER. -/
def percentMultiplier : ℚ := 100

/-- The value recorded for a growth under a limit. -/
def throttleUtilization (delta limit : Ieee) : Ieee :=
  delta/(limit*.finite intervalSeconds)*.finite percentMultiplier

/-- Growth of the statistic behind a counter. -/
def growth (prevStat currentStat : IOStats) (activity : Activity) : Ieee :=
  currentStat.value activity.statistic-prevStat.value activity.statistic

/-- The lambda record_throttle_utilization. -/
def recordThrottleUtilization (deviceKey : Token) (prevStat currentStat : IOStats)
    (throttle : IOThrottle) (activity : Activity) : List IoMetric :=
  if Ieee.less 0 (throttle.value activity.limit) then
    [.throttleActivity deviceKey currentStat.deviceName activity
      (throttleUtilization (growth prevStat currentStat activity) (throttle.value activity.limit))]
  else []

/-- The four calls of it, when limits are found for the device. -/
def throttleMetrics (deviceKey : Token) (prevStat currentStat : IOStats) :
    Option IOThrottle → List IoMetric
  | none => []
  | some throttle =>
    activities.flatMap (recordThrottleUtilization deviceKey prevStat currentStat throttle)

/-- What one device publishes, with the statistics stored for it and the limits
found for it. -/
def deviceMetrics (deviceKey : Token) (prev : Option IOStats) (throttle : Option IOThrottle)
    (currentStat : IOStats) : List IoMetric :=
  match prev with
  | none => []
  | some prevStat =>
    activities.map (fun activity => .increment deviceKey currentStat.deviceName activity
      (growth prevStat currentStat activity))++
        throttleMetrics deviceKey prevStat currentStat throttle

/-- The loop of UpdateIOMetrics over the parsed devices. -/
def updateIOMetrics (ioThrottles : IOThrottleMap) (previousStats : IOStatsMap) :
    List (Sigma fun _ : Token => IOStats) → IOStatsMap×List IoMetric
  | [] => (previousStats,[])
  | ⟨deviceKey,currentStat⟩::rest =>
    let metrics := deviceMetrics deviceKey (previousStats.lookup deviceKey)
      (ioThrottles.lookup deviceKey) currentStat
    let after := updateIOMetrics ioThrottles (previousStats.insert deviceKey currentStat) rest
    (after.1,metrics++after.2)

/-- One call of IOStats: the time at which it reads, and the files it finds. -/
structure IoTick where
  /-- Seconds at the read, which the function does not look at. -/
  now : ℚ
  ioStat : Option Token
  diskstats : Option Token
  ioMax : Option Token

/-- The devices parsed from io.stat. -/
def IoTick.parsed (tick : IoTick) : IOStatsMap :=
  parseIOLines (readLinesFields tick.ioStat) (findDeviceNames tick.diskstats)

/-- The limits parsed from io.max. -/
def IoTick.throttles (tick : IoTick) : IOThrottleMap :=
  parseIOThrottleLines (readLinesFields tick.ioMax)

/-- CGroup::IOStats on the static map previousStats. -/
def ioStats (previousStats : IOStatsMap) (tick : IoTick) : IOStatsMap×List IoMetric :=
  if tick.parsed.entries=[] then (previousStats,[])
  else updateIOMetrics tick.throttles previousStats tick.parsed.entries

/-- Utilizations are all that is recorded under limits. -/
theorem mem_throttleMetrics {deviceKey : Token} {prevStat currentStat : IOStats}
    {throttle : Option IOThrottle} {o : IoMetric}
    (h : o∈throttleMetrics deviceKey prevStat currentStat throttle) :
    ∃ dev activity utilization, o=.throttleActivity deviceKey dev activity utilization := by
  cases throttle with
  | none => cases h
  | some throttle =>
    obtain ⟨activity,-,hrecord⟩ := List.mem_flatMap.mp h
    unfold recordThrottleUtilization at hrecord
    split at hrecord
    · exact ⟨_,activity,_,List.mem_singleton.mp hrecord⟩
    · cases hrecord

/-- Every metric of a device names it. -/
theorem device_of_mem {deviceKey : Token} {prev : Option IOStats} {throttle : Option IOThrottle}
    {currentStat : IOStats} {o : IoMetric}
    (h : o∈deviceMetrics deviceKey prev throttle currentStat) : o.device=deviceKey := by
  cases prev with
  | none => cases h
  | some prevStat =>
    rcases List.mem_append.mp h with h|h
    · obtain ⟨activity,-,rfl⟩ := List.mem_map.mp h
      rfl
    · obtain ⟨dev,activity,utilization,rfl⟩ := mem_throttleMetrics h
      rfl

/-- The loop stores what is parsed of a device and keeps the rest. -/
theorem lookup_updateIOMetrics {ioThrottles : IOThrottleMap} {previousStats : IOStatsMap}
    {entries : List (Sigma fun _ : Token => IOStats)} (hnodup : entries.NodupKeys) (key : Token) :
    (updateIOMetrics ioThrottles previousStats entries).1.lookup key=
      (entries.dlookup key).or (previousStats.lookup key) := by
  induction entries generalizing previousStats with
  | nil => rfl
  | cons entry rest ih =>
    obtain ⟨deviceKey,currentStat⟩ := entry
    obtain ⟨hfresh,hrest⟩ := List.nodupKeys_cons.mp hnodup
    rw [updateIOMetrics,ih hrest]
    by_cases hkey : key=deviceKey
    · subst hkey
      rw [List.dlookup_eq_none.mpr hfresh,AList.lookup_insert,List.dlookup_cons_eq]
      rfl
    · rw [AList.lookup_insert_ne hkey,List.dlookup_cons_ne _ _ hkey]

/-- A device publishes from its own entries only. -/
theorem filter_updateIOMetrics {ioThrottles : IOThrottleMap} {previousStats : IOStatsMap}
    {entries : List (Sigma fun _ : Token => IOStats)} (hnodup : entries.NodupKeys) (key : Token) :
    (updateIOMetrics ioThrottles previousStats entries).2.filter (·.device=key)=
      match entries.dlookup key with
      | none => []
      | some currentStat => deviceMetrics key (previousStats.lookup key) (ioThrottles.lookup key)
          currentStat := by
  induction entries generalizing previousStats with
  | nil => rfl
  | cons entry rest ih =>
    obtain ⟨deviceKey,currentStat⟩ := entry
    obtain ⟨hfresh,hrest⟩ := List.nodupKeys_cons.mp hnodup
    rw [updateIOMetrics,List.filter_append,ih hrest]
    by_cases hkey : key=deviceKey
    · subst hkey
      rw [List.dlookup_eq_none.mpr hfresh,List.dlookup_cons_eq,List.append_nil]
      exact List.filter_eq_self.mpr fun o ho => decide_eq_true (device_of_mem ho)
    · rw [AList.lookup_insert_ne hkey,List.dlookup_cons_ne _ _ hkey]
      have hnone : (deviceMetrics deviceKey (previousStats.lookup deviceKey)
          (ioThrottles.lookup deviceKey) currentStat).filter (·.device=key)=[] :=
        List.filter_eq_nil_iff.mpr fun o ho => by
          rw [device_of_mem ho]
          simpa using Ne.symm hkey
      rw [hnone,List.nil_append]

/-- A call that has parsed no device has parsed nothing of one. -/
theorem lookup_of_entries_nil {map : IOStatsMap} (h : map.entries=[]) (key : Token) :
    map.lookup key=none := by
  rw [AList.lookup,h]
  rfl

/-- A call stores what it parses of a device and keeps what it does not. -/
theorem lookup_ioStats (previousStats : IOStatsMap) (tick : IoTick) (key : Token) :
    (ioStats previousStats tick).1.lookup key=
      (tick.parsed.lookup key).or (previousStats.lookup key) := by
  unfold ioStats
  split
  · next hempty => rw [lookup_of_entries_nil hempty,Option.none_or]
  · exact lookup_updateIOMetrics tick.parsed.nodupKeys key

/-- What a call publishes about a device. -/
theorem filter_ioStats (previousStats : IOStatsMap) (tick : IoTick) (key : Token) :
    (ioStats previousStats tick).2.filter (·.device=key)=
      match tick.parsed.lookup key with
      | none => []
      | some currentStat => deviceMetrics key (previousStats.lookup key)
          (tick.throttles.lookup key) currentStat := by
  unfold ioStats
  split
  · next hempty =>
    rw [lookup_of_entries_nil hempty]
    rfl
  · exact filter_updateIOMetrics tick.parsed.nodupKeys key

/-- After any run the stored statistics of a device are the latest parsed. -/
theorem lookup_every_run (history : List IoTick) (key : Token) :
    (runState ioStats ∅ history).lookup key=latest (·.parsed.lookup key) history := by
  rw [baseline_every_run (·.lookup key) (·.parsed.lookup key)
    (fun previousStats tick => lookup_ioStats previousStats tick key),AList.lookup_empty,
    Option.or_none]

end AtlasAgent.CGroupIo
