import AtlasAgent.DecimalText
import AtlasAgent.IoLines

/-!
# The optional members of IOStats and IOThrottle

The structs hold a std::optional for each statistic and each limit, and
UpdateIOMetrics reads them with value(), which throws when there is none. Here
the parsers and UpdateIOMetrics work on the structs as they are declared. What
a parser returns has every member set, so that the functions on complete
structs describe the run of these.
-/

namespace AtlasAgent.IoOptionals

open AssignOnce CGroupIo DecimalText IeeeDouble IoLines NumberText ProcCpu RunHistory TextFields

/-- struct IOStats. -/
structure RawIOStats where
  deviceName : Token
  majorMinor : Token
  value : IoKey → Option Ieee

/-- struct IOThrottle. -/
structure RawIOThrottle where
  device : Token
  value : ThrottleKey → Option Ieee

abbrev RawIOStatsMap := AList fun _ : Token => RawIOStats
abbrev RawIOThrottleMap := AList fun _ : Token => RawIOThrottle

/-- std::bad_optional_access. -/
inductive BadOptionalAccess
  | badOptionalAccess
  deriving DecidableEq

/-- The member value of std::optional. -/
def valueOf (stored : Option Ieee) : Except BadOptionalAccess Ieee :=
  match stored with
  | none => .error .badOptionalAccess
  | some value => .ok value

/-- The check that every member is set, after the fields of a line. -/
def rawComplete {κ : Type} [Fintype κ] (device : Token) (values : κ → Option Ieee) :
    Except IoError (κ → Option Ieee) :=
  if ∀ key,(values key).isSome=true then .ok values else .error (.incomplete device)

/-- ParseIOLine. -/
def rawParseIOLine (fields : List Token) (devMap : AList fun _ : Token => Token) :
    Option RawIOStats :=
  let majorMinor := fields.headD []
  let parsed := do
    let values ← fields.tail.foldlM parseIOField fun _ => none
    rawComplete majorMinor values
  parsed.toOption.map fun value =>
    ⟨(devMap.lookup majorMinor).getD "unknown".toList,majorMinor,value⟩

/-- ParseIOThrottleLine. -/
def rawParseIOThrottleLine (fields : List Token) : Option RawIOThrottle :=
  let device := fields.headD []
  let parsed := do
    let values ← fields.tail.foldlM parseThrottleField fun _ => none
    rawComplete device values
  parsed.toOption.map fun value => ⟨device,value⟩

/-- What a line is to ParseIOLines. -/
def rawIoEntry (devMap : AList fun _ : Token => Token) (fields : List Token) :
    Option (Option (Token×RawIOStats)) :=
  if fields.length=1 then some none
  else if fields.length<7 then none
  else (rawParseIOLine fields devMap).map fun stats => some (stats.majorMinor,stats)

/-- What a line is to ParseIOThrottleLines. -/
def rawThrottleEntry (fields : List Token) : Option (Option (Token×RawIOThrottle)) :=
  if fields.length≠5 then none
  else (rawParseIOThrottleLine fields).map fun throttle => some (throttle.device,throttle)

/-- ParseIOLines. -/
def rawParseIOLines (lines : List (List Token)) (devMap : AList fun _ : Token => Token) :
    RawIOStatsMap :=
  collect (rawIoEntry devMap) ∅ lines

/-- ParseIOThrottleLines. -/
def rawParseIOThrottleLines (lines : List (List Token)) : RawIOThrottleMap :=
  collect rawThrottleEntry ∅ lines

/-- The difference of two readings of a statistic. -/
def rawGrowth (prevStat currentStat : RawIOStats) (activity : Activity) :
    Except BadOptionalAccess Ieee := do
  let current ← valueOf (currentStat.value activity.statistic)
  let prev ← valueOf (prevStat.value activity.statistic)
  pure (current-prev)

/-- The lambda record_throttle_utilization, which asks has_value first. -/
def rawRecordThrottleUtilization (deviceKey deviceName : Token) (delta : Ieee)
    (limit : Option Ieee) (activity : Activity) : List IoMetric :=
  match limit with
  | none => []
  | some limit =>
    if Ieee.less 0 limit then
      [.throttleActivity deviceKey deviceName activity (throttleUtilization delta limit)]
    else []

/-- The limits found for a device: all four are read for the log, then passed
to the lambda as they are. -/
def rawThrottleMetrics (deviceKey deviceName : Token) (deltas : List (Activity×Ieee)) :
    Option RawIOThrottle → Except BadOptionalAccess (List IoMetric)
  | none => pure []
  | some throttle => do
    let _ ← activities.mapM fun activity => valueOf (throttle.value activity.limit)
    pure (deltas.flatMap fun (activity,delta) =>
      rawRecordThrottleUtilization deviceKey deviceName delta (throttle.value activity.limit)
        activity)

/-- One device of UpdateIOMetrics: four statistics are read for the log, then
the differences to the stored statistics. -/
def rawDeviceMetrics (deviceKey : Token) (prev : Option RawIOStats)
    (throttle : Option RawIOThrottle) (currentStat : RawIOStats) :
    Except BadOptionalAccess (List IoMetric) := do
  let _ ← activities.mapM fun activity => valueOf (currentStat.value activity.statistic)
  match prev with
  | none => pure []
  | some prevStat => do
    let deltas ← activities.mapM fun activity => do
      let delta ← rawGrowth prevStat currentStat activity
      pure (activity,delta)
    let throttles ← rawThrottleMetrics deviceKey currentStat.deviceName deltas throttle
    pure (deltas.map (fun (activity,delta) =>
      .increment deviceKey currentStat.deviceName activity delta)++throttles)

/-- UpdateIOMetrics. -/
def rawUpdateIOMetrics (ioThrottles : RawIOThrottleMap) (previousStats : RawIOStatsMap) :
    List (Sigma fun _ : Token => RawIOStats) →
      Except BadOptionalAccess (RawIOStatsMap×List IoMetric)
  | [] => pure (previousStats,[])
  | ⟨deviceKey,currentStat⟩::rest => do
    let metrics ← rawDeviceMetrics deviceKey (previousStats.lookup deviceKey)
      (ioThrottles.lookup deviceKey) currentStat
    let after ← rawUpdateIOMetrics ioThrottles (previousStats.insert deviceKey currentStat) rest
    pure (after.1,metrics++after.2)

/-- CGroup::IOStats. -/
def rawIoStats (previousStats : RawIOStatsMap) (tick : IoTick) :
    Except BadOptionalAccess (RawIOStatsMap×List IoMetric) :=
  let parsed := rawParseIOLines (readLinesFields tick.ioStat) (findDeviceNames tick.diskstats)
  if parsed.entries=[] then pure (previousStats,[])
  else rawUpdateIOMetrics (rawParseIOThrottleLines (readLinesFields tick.ioMax)) previousStats
    parsed.entries

/-- The calls of a process, which share one static map. -/
def rawRun (previousStats : RawIOStatsMap) :
    List IoTick → Except BadOptionalAccess (RawIOStatsMap×List IoMetric)
  | [] => pure (previousStats,[])
  | tick::ticks => do
    let after ← rawIoStats previousStats tick
    let rest ← rawRun after.1 ticks
    pure (rest.1,after.2++rest.2)

/-- A struct with every member set. -/
def rawStats (stats : IOStats) : RawIOStats :=
  ⟨stats.deviceName,stats.majorMinor,fun key => some (stats.value key)⟩

/-- A struct with every limit set. -/
def rawThrottle (throttle : IOThrottle) : RawIOThrottle :=
  ⟨throttle.device,fun key => some (throttle.value key)⟩

section Maps

variable {α β : Type} (f : α → β)

/-- An entry with a function applied to its value. -/
def mapEntry (entry : Sigma fun _ : Token => α) : Sigma fun _ : Token => β := ⟨entry.1,f entry.2⟩

/-- A map with a function applied to its values. -/
def mapValues (map : AList fun _ : Token => α) : AList fun _ : Token => β :=
  ⟨map.entries.map (mapEntry f),
    List.NodupKeys.map₂ (fun _ : Token => f) map.entries map.nodupKeys⟩

theorem lookup_mapValues (map : AList fun _ : Token => α) (key : Token) :
    (mapValues f map).lookup key=(map.lookup key).map f := by
  have hmap := List.dlookup_map₂ (l:=map.entries) (f:=fun _ : Token => f) key
  exact hmap

theorem mapValues_insert (map : AList fun _ : Token => α) (key : Token) (value : α) :
    mapValues f (map.insert key value)=(mapValues f map).insert key (f value) := by
  have hkerase : ∀ entries : List (Sigma fun _ : Token => α),
      (List.kerase key entries).map (mapEntry f)=List.kerase key (entries.map (mapEntry f)) := by
    intro entries
    induction entries with
    | nil => rfl
    | cons entry entries ih =>
      by_cases hkey : key=entry.1
      · have hmapped : key=(mapEntry f entry).1 := hkey
        rw [List.kerase_cons_eq hkey,List.map_cons,List.kerase_cons_eq hmapped]
      · have hmapped : key≠(mapEntry f entry).1 := hkey
        rw [List.kerase_cons_ne hkey,List.map_cons,List.map_cons,ih,List.kerase_cons_ne hmapped]
  refine AList.ext ?_
  rw [AList.entries_insert]
  exact congrArg _ (hkerase map.entries)

theorem mapValues_emplace (map : AList fun _ : Token => α) (key : Token) (value : α) :
    mapValues f (emplace map key value)=emplace (mapValues f map) key (f value) := by
  rw [emplace,emplace,lookup_mapValues,Option.isSome_map]
  split
  · rfl
  · exact mapValues_insert f map key value

/-- A loop whose entries are images of other entries ends with the image. -/
theorem collect_mapValues {entry : List Token → Option (Option (Token×α))}
    {rawEntry : List Token → Option (Option (Token×β))}
    (h : ∀ line,rawEntry line=(entry line).map (Option.map (Prod.map id f)))
    (map : AList fun _ : Token => α) (lines : List (List Token)) :
    collect rawEntry (mapValues f map) lines=mapValues f (collect entry map lines) := by
  induction lines generalizing map with
  | nil => rfl
  | cons line lines ih =>
    rw [collect,collect,h]
    cases entry line with
    | none => rfl
    | some result =>
      cases result with
      | none => exact ih map
      | some pair =>
        dsimp only [Option.map_some,Prod.map]
        rw [id,←mapValues_emplace]
        exact ih _

end Maps

/-- The check lets through complete values only. -/
theorem toOption_rawComplete {κ : Type} [Fintype κ] (device : Token)
    (parsed : Except IoError (κ → Option Ieee)) :
    (do
      let values ← parsed
      rawComplete device values).toOption=
      (do
        let values ← parsed
        complete device values).toOption.map fun (value : κ → Ieee) key => some (value key) := by
  cases parsed with
  | error e => rfl
  | ok values =>
    show (rawComplete device values).toOption=
      (complete device values).toOption.map fun (value : κ → Ieee) key => some (value key)
    rw [rawComplete,complete]
    split
    · next h =>
      refine congrArg some (funext fun key => ?_)
      exact (Option.some_get (h key)).symm
    · rfl

theorem rawParseIOLine_eq (fields : List Token) (devMap : AList fun _ : Token => Token) :
    rawParseIOLine fields devMap=(parseIOLine fields devMap).map rawStats := by
  rw [rawParseIOLine,parseIOLine,toOption_rawComplete,Option.map_map,Option.map_map]
  rfl

theorem rawParseIOThrottleLine_eq (fields : List Token) :
    rawParseIOThrottleLine fields=(parseIOThrottleLine fields).map rawThrottle := by
  rw [rawParseIOThrottleLine,parseIOThrottleLine,toOption_rawComplete,Option.map_map,Option.map_map]
  rfl

theorem rawIoEntry_eq (devMap : AList fun _ : Token => Token) (fields : List Token) :
    rawIoEntry devMap fields=(ioEntry devMap fields).map (Option.map (Prod.map id rawStats)) := by
  rw [rawIoEntry,ioEntry,rawParseIOLine_eq]
  split
  · rfl
  · split
    · rfl
    · rw [Option.map_map,Option.map_map]
      rfl

theorem rawThrottleEntry_eq (fields : List Token) :
    rawThrottleEntry fields=
      (throttleEntry fields).map (Option.map (Prod.map id rawThrottle)) := by
  rw [rawThrottleEntry,throttleEntry,rawParseIOThrottleLine_eq]
  split
  · rfl
  · rw [Option.map_map,Option.map_map]
    rfl

/-- ParseIOLines returns structs with every statistic set. -/
theorem rawParseIOLines_eq (lines : List (List Token)) (devMap : AList fun _ : Token => Token) :
    rawParseIOLines lines devMap=mapValues rawStats (parseIOLines lines devMap) := by
  rw [rawParseIOLines,parseIOLines,parseIOLinesLoop_eq_collect]
  exact collect_mapValues rawStats (rawIoEntry_eq devMap) ∅ lines

/-- ParseIOThrottleLines returns structs with every limit set. -/
theorem rawParseIOThrottleLines_eq (lines : List (List Token)) :
    rawParseIOThrottleLines lines=mapValues rawThrottle (parseIOThrottleLines lines) := by
  rw [rawParseIOThrottleLines,parseIOThrottleLines,parseIOThrottleLinesLoop_eq_collect]
  exact collect_mapValues rawThrottle rawThrottleEntry_eq ∅ lines

theorem mapM_ok {ε α β : Type} (read : α → Except ε β) (value : α → β)
    (h : ∀ x,read x=.ok (value x)) (xs : List α) : xs.mapM read=.ok (xs.map value) := by
  induction xs with
  | nil => rfl
  | cons x xs ih =>
    rw [List.mapM_cons,h,ih]
    rfl

/-- With every limit set the limits are read and used as such. -/
theorem rawThrottleMetrics_eq (deviceKey : Token) (prevStat currentStat : IOStats)
    (throttle : Option IOThrottle) :
    rawThrottleMetrics deviceKey currentStat.deviceName
        (activities.map fun activity => (activity,growth prevStat currentStat activity))
        (throttle.map rawThrottle)=
      .ok (throttleMetrics deviceKey prevStat currentStat throttle) := by
  cases throttle with
  | none => rfl
  | some throttle =>
    have hread := mapM_ok (fun activity : Activity =>
      (.ok (throttle.value activity.limit) : Except BadOptionalAccess _)) _ (fun _ => rfl)
        activities
    rw [Option.map_some,rawThrottleMetrics]
    dsimp only [rawThrottle,valueOf]
    rw [hread]
    rfl

/-- With every statistic set a device publishes what it does as a complete struct. -/
theorem rawDeviceMetrics_eq (deviceKey : Token) (prev : Option IOStats)
    (throttle : Option IOThrottle) (currentStat : IOStats) :
    rawDeviceMetrics deviceKey (prev.map rawStats) (throttle.map rawThrottle)
        (rawStats currentStat)=
      .ok (deviceMetrics deviceKey prev throttle currentStat) := by
  have hread := mapM_ok (fun activity : Activity =>
    (.ok (currentStat.value activity.statistic) : Except BadOptionalAccess _)) _ (fun _ => rfl)
      activities
  unfold rawDeviceMetrics
  dsimp only [rawStats,valueOf]
  rw [hread]
  cases prev with
  | none => rfl
  | some prevStat =>
    have hgrowth := mapM_ok (fun activity => do
        let delta ← rawGrowth (rawStats prevStat) (rawStats currentStat) activity
        pure (activity,delta)) (fun activity : Activity =>
      (activity,growth prevStat currentStat activity)) (fun _ => rfl) activities
    have hthrottles := rawThrottleMetrics_eq deviceKey prevStat currentStat throttle
    show (do
      let deltas ← activities.mapM fun activity => do
        let delta ← rawGrowth (rawStats prevStat) (rawStats currentStat) activity
        pure (activity,delta)
      let throttles ← rawThrottleMetrics deviceKey currentStat.deviceName deltas
        (throttle.map rawThrottle)
      pure (deltas.map (fun (activity,delta) =>
        IoMetric.increment deviceKey currentStat.deviceName activity delta)++throttles))=_
    rw [hgrowth]
    dsimp only [bind,Except.bind]
    rw [hthrottles]
    rfl

/-- The loop over the devices, from complete structs. -/
theorem rawUpdateIOMetrics_eq (ioThrottles : IOThrottleMap) (previousStats : IOStatsMap)
    (entries : List (Sigma fun _ : Token => IOStats)) :
    rawUpdateIOMetrics (mapValues rawThrottle ioThrottles) (mapValues rawStats previousStats)
        (entries.map (mapEntry rawStats))=
      .ok (mapValues rawStats (updateIOMetrics ioThrottles previousStats entries).1,
        (updateIOMetrics ioThrottles previousStats entries).2) := by
  induction entries generalizing previousStats with
  | nil => rfl
  | cons entry entries ih =>
    obtain ⟨deviceKey,currentStat⟩ := entry
    rw [List.map_cons,mapEntry,rawUpdateIOMetrics,lookup_mapValues,lookup_mapValues,
      rawDeviceMetrics_eq,←mapValues_insert,updateIOMetrics]
    dsimp only [bind,Except.bind]
    rw [ih]
    rfl

/-- One call, from complete structs. -/
theorem rawIoStats_eq (previousStats : IOStatsMap) (tick : IoTick) :
    rawIoStats (mapValues rawStats previousStats) tick=
      .ok (mapValues rawStats (ioStats previousStats tick).1,(ioStats previousStats tick).2) := by
  have hentries : (mapValues rawStats tick.parsed).entries=
      tick.parsed.entries.map (mapEntry rawStats) := rfl
  rw [rawIoStats,ioStats,rawParseIOLines_eq,rawParseIOThrottleLines_eq,←IoTick.throttles,
    ←IoTick.parsed]
  by_cases hempty : tick.parsed.entries=[]
  · have hraw : (mapValues rawStats tick.parsed).entries=[] := by rw [hentries,hempty]; rfl
    rw [if_pos hempty,if_pos hraw]
    rfl
  · have hraw : (mapValues rawStats tick.parsed).entries≠[] := by
      rw [hentries]
      exact fun h => hempty (List.map_eq_nil_iff.mp h)
    rw [if_neg hempty,if_neg hraw]
    exact rawUpdateIOMetrics_eq tick.throttles previousStats tick.parsed.entries

/-- A run reads no member that is not set, and is the run of complete structs. -/
theorem rawRun_eq (previousStats : IOStatsMap) (history : List IoTick) :
    rawRun (mapValues rawStats previousStats) history=
      .ok (mapValues rawStats (runState ioStats previousStats history),
        runOutput ioStats previousStats history) := by
  induction history generalizing previousStats with
  | nil => rfl
  | cons tick history ih =>
    rw [rawRun,rawIoStats_eq]
    dsimp only [bind,Except.bind]
    rw [ih]
    rfl

/-- A number at the beginning of a text as std::from_chars reads it, which is not
negative. A text of digits alone is read as its decimal value. -/
structure ReadsNumber (text : Token) (value : Ieee) : Prop where
  read : fromCharsDouble text=some value
  not_negative : Ieee.less value 0=false
  decimal : ∀ n,Decimal text n → value=.finite n

/-- The text of a key of io.stat. -/
def ioKeyText : IoKey → String
  | .rbytes => "rbytes"
  | .wbytes => "wbytes"
  | .rios => "rios"
  | .wios => "wios"
  | .dbytes => "dbytes"
  | .dios => "dios"

/-- The text of a key of io.max. -/
def throttleKeyText : ThrottleKey → String
  | .rbps => "rbps"
  | .wbps => "wbps"
  | .riops => "riops"
  | .wiops => "wiops"

/-- The struct of a line of io.stat: each statistic is set, to the number that
a field of the line has after its key and an equals sign. -/
def IoLine (line : List Token) (stats : RawIOStats) : Prop :=
  stats.majorMinor=line.headD [] ∧ ∀ key,∃ text value,
    (ioKeyText key).toList++ '='::text∈line.tail ∧ ReadsNumber text value ∧
      stats.value key=some value

/-- The struct of a line of io.max: each limit is set, to the number that a field
of the line has after its key and an equals sign, or to -1 for max. -/
def ThrottleLine (line : List Token) (throttle : RawIOThrottle) : Prop :=
  throttle.device=line.headD [] ∧ ∀ key,∃ text,
    (throttleKeyText key).toList++ '='::text∈line.tail ∧
      (text="max".toList ∧ throttle.value key=some (.finite (-1)) ∨
        text≠"max".toList ∧ ∃ value,ReadsNumber text value ∧ throttle.value key=some value)

/-- A field is its key, an equals sign and its value. -/
theorem keyValue_eq_some {field name text : Token} (h : keyValue field=some (name,text)) :
    field=name++ '='::text := by
  have hsplit := List.takeWhile_append_dropWhile (p := (· ≠ '=')) (l := field)
  have hfirst := List.head?_dropWhile_not (· ≠ '=') field
  rw [keyValue] at h
  cases hrest : field.dropWhile (· ≠ '=') with
  | nil => rw [hrest] at h; cases h
  | cons c value =>
    rw [hrest] at h hfirst hsplit
    obtain ⟨rfl,rfl⟩ := Prod.mk.inj (Option.some.inj h)
    have heq : c= '=' := by simpa using hfirst
    rw [heq] at hsplit
    exact hsplit.symm

theorem ioKey_eq_some {name : Token} {key : IoKey} (h : IoKey.ofToken name=some key) :
    name=(ioKeyText key).toList := by
  rw [IoKey.ofToken] at h
  split_ifs at h <;> cases h <;> assumption

theorem throttleKey_eq_some {name : Token} {key : ThrottleKey}
    (h : ThrottleKey.ofToken name=some key) : name=(throttleKeyText key).toList := by
  rw [ThrottleKey.ofToken] at h
  split_ifs at h <;> cases h <;> assumption

/-- What the code accepts as a value is a number of the text. -/
theorem readsNumber_of_parseValue {name text : Token} {value : Ieee}
    (h : parseValue name text=.ok value) : ReadsNumber text value := by
  rw [parseValue] at h
  split at h
  · cases h
  · next number hread =>
    split at h
    · cases h
    · next hless =>
      obtain rfl := Except.ok.inj h
      refine ⟨hread,by simpa using hless,fun n hdecimal => ?_⟩
      rw [hdecimal.fromCharsDouble] at hread
      split at hread
      · cases hread
      · exact (Option.some.inj hread).symm

/-- A line with a field after its device. -/
def Listed (line : List Token) : Prop := 1<line.length

/-- An accepted line of io.stat is listed and gives the struct made of it. -/
theorem rawIoEntry_spec {devMap : AList fun _ : Token => Token} {line : List Token}
    {key : Token} {stats : RawIOStats} (h : rawIoEntry devMap line=some (some (key,stats))) :
    Listed line ∧ line.headD []=key ∧ IoLine line stats := by
  rw [rawIoEntry] at h
  split at h
  · cases h
  · split at h
    · cases h
    · next hlength =>
      obtain ⟨raw,hraw,hpair⟩ := Option.map_eq_some_iff.mp h
      rw [rawParseIOLine_eq] at hraw
      obtain ⟨complete,hcomplete,rfl⟩ := Option.map_eq_some_iff.mp hraw
      obtain ⟨rfl,rfl⟩ := Prod.mk.inj (Option.some.inj hpair)
      obtain ⟨-,hdevice,hgives⟩ := (parseIOLine_eq_some_iff _ _ _).mp hcomplete
      refine ⟨by rw [Listed]; omega,hdevice.symm,hdevice,fun key => ?_⟩
      obtain ⟨field,hfield,name,text,hkeyValue,hname,hvalue⟩ :=
        (mem_assignments_keyed rfl).mp (hgives.all key)
      obtain rfl := keyValue_eq_some hkeyValue
      obtain rfl := ioKey_eq_some hname
      exact ⟨text,_,hfield,readsNumber_of_parseValue hvalue,rfl⟩

/-- An accepted line of io.max is listed and gives the struct made of it. -/
theorem rawThrottleEntry_spec {line : List Token} {key : Token} {throttle : RawIOThrottle}
    (h : rawThrottleEntry line=some (some (key,throttle))) :
    Listed line ∧ line.headD []=key ∧ ThrottleLine line throttle := by
  rw [rawThrottleEntry] at h
  split at h
  · cases h
  · next hlength =>
    obtain ⟨raw,hraw,hpair⟩ := Option.map_eq_some_iff.mp h
    rw [rawParseIOThrottleLine_eq] at hraw
    obtain ⟨complete,hcomplete,rfl⟩ := Option.map_eq_some_iff.mp hraw
    obtain ⟨rfl,rfl⟩ := Prod.mk.inj (Option.some.inj hpair)
    obtain ⟨hdevice,hgives⟩ := (parseIOThrottleLine_eq_some_iff _ _).mp hcomplete
    refine ⟨by rw [Listed]; omega,hdevice.symm,hdevice,fun key => ?_⟩
    obtain ⟨field,hfield,name,text,hkeyValue,hname,hvalue⟩ :=
      (mem_assignments_keyed rfl).mp (hgives.all key)
    obtain rfl := keyValue_eq_some hkeyValue
    obtain rfl := throttleKey_eq_some hname
    refine ⟨text,hfield,?_⟩
    rw [parseLimit] at hvalue
    split at hvalue
    · next hmax => exact Or.inl ⟨hmax,congrArg some (Except.ok.inj hvalue).symm⟩
    · next hmax => exact Or.inr ⟨hmax,_,readsNumber_of_parseValue hvalue,rfl⟩

/-- A line that ParseIOLines skips is not listed. -/
theorem rawIoEntry_skipped {devMap : AList fun _ : Token => Token} {line : List Token}
    (h : rawIoEntry devMap line=some none) : ¬Listed line := by
  rw [rawIoEntry] at h
  split at h
  · next hbare =>
    rw [Listed]
    omega
  · split at h
    · cases h
    · obtain ⟨stats,-,hpair⟩ := Option.map_eq_some_iff.mp h
      cases hpair

/-- ParseIOThrottleLines skips no line. -/
theorem rawThrottleEntry_skipped {line : List Token} (h : rawThrottleEntry line=some none) :
    ¬Listed line := by
  rw [rawThrottleEntry] at h
  split at h
  · cases h
  · obtain ⟨throttle,-,hpair⟩ := Option.map_eq_some_iff.mp h
    cases hpair

/-- Both parsers return no entry or one for the first line of each device, with
every member set, and do not depend on the order of the fields or on further
fields of unknown keys; so no run reads a member that is not set. -/
theorem io_parsers_all_or_nothing :
    (∀ (devMap : AList fun _ : Token => Token) (lines : List (List Token)),
      rawParseIOLines lines devMap=∅ ∨
        FirstLines Listed IoLine lines (rawParseIOLines lines devMap)) ∧
    (∀ (devMap : AList fun _ : Token => Token) (lines others : List (List Token)),
      List.Forall₂ Rearranged lines others →
        rawParseIOLines lines devMap=rawParseIOLines others devMap) ∧
    (∀ lines : List (List Token),rawParseIOThrottleLines lines=∅ ∨
      FirstLines Listed ThrottleLine lines (rawParseIOThrottleLines lines)) ∧
    (∀ lines others : List (List Token),List.Forall₂ Permuted lines others →
      rawParseIOThrottleLines lines=rawParseIOThrottleLines others) ∧
    ∀ history : List IoTick,∃ result,rawRun ∅ history=.ok result := by
  refine ⟨fun devMap lines => ?_,fun devMap lines others h => ?_,fun lines => ?_,
    fun lines others h => ?_,fun history => ⟨_,rawRun_eq ∅ history⟩⟩
  · exact collect_firstLines (fun _ _ _ => rawIoEntry_spec) (fun _ => rawIoEntry_skipped) lines
  · refine collect_congr _ (h.imp fun line other hsame => ?_)
    rw [rawIoEntry_eq,rawIoEntry_eq,ioEntry_rearranged hsame]
  · exact collect_firstLines (fun _ _ _ => rawThrottleEntry_spec)
      (fun _ => rawThrottleEntry_skipped) lines
  · refine collect_congr _ (h.imp fun line other hsame => ?_)
    rw [rawThrottleEntry_eq,rawThrottleEntry_eq,throttleEntry_permuted hsame]

/-- A line of io.stat with its six numbers. -/
def sixNumbers : List Token :=
  ["259:0".toList,"rbytes=4096".toList,"wbytes=512".toList,"rios=7".toList,"wios=2".toList,
    "dbytes=90".toList,"dios=1".toList]

/-- The same line in another order, with a field of the cost controller. -/
def sixNumbersShuffled : List Token :=
  ["259:0".toList,"dios=1".toList,"rbytes=4096".toList,"cost.vrate=100.00".toList,
    "wbytes=512".toList,"rios=7".toList,"dbytes=90".toList,"wios=2".toList]

/-- The two lines are the same to ParseIOLines: the statistics are the six
numbers of either. -/
theorem io_parsers_all_or_nothing_sixNumbers :
    ((rawParseIOLines [sixNumbersShuffled] ∅).lookup "259:0".toList).map
        (fun stats => [stats.value .rbytes,stats.value .wbytes,stats.value .rios,
          stats.value .wios,stats.value .dbytes,stats.value .dios])=
      some [some (.finite 4096),some (.finite 512),some (.finite 7),some (.finite 2),
        some (.finite 90),some (.finite 1)] := by
  have hunknown : ∀ field∈["cost.vrate=100.00".toList],UnknownKey field :=
    List.forall_mem_singleton.mpr ⟨_,_,rfl,rfl⟩
  have hall : CarriesAll sixNumbers := by
    intro key
    cases key with
    | rbytes => exact ⟨"rbytes=4096".toList,by decide,_,_,rfl,rfl⟩
    | wbytes => exact ⟨"wbytes=512".toList,by decide,_,_,rfl,rfl⟩
    | rios => exact ⟨"rios=7".toList,by decide,_,_,rfl,rfl⟩
    | wios => exact ⟨"wios=2".toList,by decide,_,_,rfl,rfl⟩
    | dbytes => exact ⟨"dbytes=90".toList,by decide,_,_,rfl,rfl⟩
    | dios => exact ⟨"dios=1".toList,by decide,_,_,rfl,rfl⟩
  have hsame := io_parsers_all_or_nothing.2.1 ∅ [sixNumbers] [sixNumbersShuffled]
    (.cons ⟨rfl,["cost.vrate=100.00".toList],hunknown,fun _ => hall,by decide +kernel⟩ .nil)
  rw [←hsame]
  decide +kernel

end AtlasAgent.IoOptionals
