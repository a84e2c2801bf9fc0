import AtlasAgent.ProcCpu

/-!
# CpuStats against the history of its calls

The specification keeps no state and reads the text of the file on its own.
Each consumer has a reading that a call may or may not take, and what a call
publishes compares the reading it takes with the latest one among the earlier
calls. The code's function statics are shown to hold exactly these latest
readings, for every mix of flags, unreadable files, malformed lines and fields
that are not numbers.
-/

namespace AtlasAgent.ProcCpuHistory

open RunHistory LatestSample TextFields ProcCpu

/-- The aggregate line of the file that a call finds, when it parses. -/
def aggregateRead (call : CpuStatsCall) : Option CpuStatFields :=
  (parseProcStatFile call.stat).head?.bind CpuStatFields.ofFields

/-- The aggregate line as the sixty-second consumer reads it. -/
def sixtySecondRead (call : CpuStatsCall) : Option CpuStatFields :=
  if call.sixtySecondMetricsEnabled then aggregateRead call else none

/-- The core lines that a call reaches and parses; none outside the
five-second calls. -/
def coresRead (call : CpuStatsCall) : List (Token×CpuStatFields) :=
  if call.fiveSecondMetrics then
    parsedCores ((parseProcStatFile call.stat).drop firstProcessorIndex)
  else []

/-- A line as a reading of the core of the given name. -/
def lineOf (name : Token) (line : Token×CpuStatFields) : Option CpuStatFields :=
  if line.1=name then some line.2 else none

/-- The line of one core, when a call reaches and parses it. -/
def coreRead (name : Token) (call : CpuStatsCall) : Option CpuStatFields :=
  latest (lineOf name) (coresRead call)

/-- No two cpu lines of the file have the same name. -/
def DistinctNames (stat : Option (List Char)) : Prop :=
  ((parseProcStatFile stat).map (·.headD [])).Nodup

instance (stat : Option (List Char)) : Decidable (DistinctNames stat) :=
  inferInstanceAs (Decidable (List.Nodup _))

/-- The values that a publication sets on the sys.cpu.utilization gauges. -/
def utilizationSet : CpuPublication → Option CpuGaugeValues
  | .utilization vals => some vals
  | _ => none

/-- The values that a publication sets on the sys.cpu.peakUtilization gauges. -/
def peakUtilizationSet : CpuPublication → Option CpuGaugeValues
  | .peakUtilization vals => some vals
  | _ => none

/-- The publications on the three core counters. -/
def isCoreCounter : CpuPublication → Bool
  | .coreCount _ | .coreTotalAmount _ | .coreTotalOfSquares _ => true
  | _ => false

/-- The cpu lines of a text, split at spaces: the lines whose first field begins
with cpu, if every one of them has eleven fields. -/
def statLines (stat : Option (List Char)) : List (List Token) :=
  let lines := ((stat.elim [] getLines).map (strSplit ' ')).filter fun fields =>
    fields≠[] ∧ ['c','p','u'].isPrefixOf (fields.headD [])
  if ∀ fields∈lines,fields.length=11 then lines else []

/-- The ten numbers of a cpu line; none when a field does not begin with one
that fits 64 bits. -/
def lineReading (fields : List Token) : Option CpuStatFields :=
  match fields.tail.mapM (fromChars (2^64)) with
  | some [user,nice,system,idle,iowait,irq,softirq,steal,guest,guestNice] =>
    some ⟨.ofNat user,.ofNat nice,.ofNat system,.ofNat idle,.ofNat iowait,.ofNat irq,
      .ofNat softirq,.ofNat steal,.ofNat guest,.ofNat guestNice⟩
  | _ => none

/-- The reading of the aggregate line, which is the first. -/
def aggregateReading (call : CpuStatsCall) : Option CpuStatFields :=
  (statLines call.stat).head?.bind lineReading

/-- The same in a sixty-second call. -/
def minuteReading (call : CpuStatsCall) : Option CpuStatFields :=
  if call.sixtySecondMetricsEnabled then aggregateReading call else none

/-- The readings of a five-second call: the lines after the first, up to one
that has no ten numbers. -/
def coreReadings (call : CpuStatsCall) : List (Token×CpuStatFields) :=
  if call.fiveSecondMetrics then
    ((statLines call.stat).tail.takeWhile fun fields => (lineReading fields).isSome).filterMap
      fun fields => (lineReading fields).map (fields.headD [],·)
  else []

/-- The reading of one core. -/
def coreReading (name : Token) (call : CpuStatsCall) : Option CpuStatFields :=
  latest (lineOf name) (coreReadings call)

/-- The values between two readings; none unless both are there. -/
def valuesBetween : Option CpuStatFields → Option CpuStatFields → List CpuGaugeValues
  | some earlier,some later => [computeGaugeValues earlier later]
  | _,_ => []

/-- The increments of one usage sample, the usage being the sum of the six
values. -/
def sampleIncrements (vals : CpuGaugeValues) : List CpuPublication :=
  let usage := vals.user+vals.system+vals.stolen+vals.nice+vals.wait+vals.interrupt
  [.coreCount 1,.coreTotalAmount usage,.coreTotalOfSquares (usage^2)]

/-- What one call does after the earlier ones. -/
structure CallContract (before : List CpuStatsCall) (call : CpuStatsCall) : Prop where
  /-- The utilization gauges compare the two latest sixty-second readings. -/
  utilization : (outputAfter cpuStats CpuState.init before call).filterMap utilizationSet=
    valuesBetween (latest minuteReading before) (minuteReading call)
  /-- The peak gauges compare the two latest readings of any call. -/
  peak : (outputAfter cpuStats CpuState.init before call).filterMap peakUtilizationSet=
    valuesBetween (latest aggregateReading before) (aggregateReading call)
  /-- Each core line compares with that core's latest line, and each sample
  increments the three counters once, by one, the usage and its square. -/
  cores : (outputAfter cpuStats CpuState.init before call).filter isCoreCounter=
    (coreReadings call).flatMap fun line =>
      (valuesBetween (latest (coreReading line.1) before) (some line.2)).flatMap sampleIncrements
  /-- A file without cpu lines changes no baseline and publishes nothing. -/
  unread : statLines call.stat=[] →
    cpuStats (runState cpuStats CpuState.init before) call=
      (runState cpuStats CpuState.init before,[])

/-- Every call of a run meets the contract. -/
def CpuContract (calls : List CpuStatsCall) : Prop :=
  ∀ before call after,calls=before++call::after → CallContract before call

/-- The loop of the code over the lines keeps the cpu lines, all or none. -/
theorem cpuLinesLoop_eq (lines : List (List Token)) :
    cpuLinesLoop lines=
      if ∀ fields∈lines.filter fun fields => fields≠[] ∧ cpuPrefix.isPrefixOf (fields.headD []),
        fields.length=expectedCpuFields
      then some (lines.filter fun fields => fields≠[] ∧ cpuPrefix.isPrefixOf (fields.headD []))
      else none := by
  induction lines with
  | nil => rfl
  | cons fields rest ih =>
    cases fields with
    | nil => rw [cpuLinesLoop,List.filter_cons_of_neg (by simp),ih]
    | cons name fields =>
      rw [cpuLinesLoop]
      by_cases hcpu : cpuPrefix.isPrefixOf name
      · rw [if_pos hcpu,List.filter_cons_of_pos (by simpa using hcpu),ih]
        by_cases hlength : (name::fields).length=expectedCpuFields
        · rw [if_pos hlength]
          simp only [List.forall_mem_cons,hlength,true_and]
          split <;> rfl
        · rw [if_neg hlength,if_neg fun h => hlength (h _ List.mem_cons_self)]
      · rw [if_neg hcpu,List.filter_cons_of_neg (by simpa using hcpu),ih]

theorem statLines_eq (stat : Option (List Char)) : statLines stat=parseProcStatFile stat := by
  have hfields : readLinesFields stat=(stat.elim [] getLines).map (strSplit ' ') := by
    cases stat <;> rfl
  rw [parseProcStatFile,cpuLinesLoop_eq,hfields,apply_ite (Option.getD · [])]
  rfl

theorem statLines_length (stat : Option (List Char)) :
    ∀ fields∈statLines stat,fields.length=11 := by
  rw [statLines]
  split
  · next h => exact h
  · exact List.forall_mem_nil _

/-- A line of eleven fields is read as the code reads it. -/
theorem lineReading_eq {fields : List Token} (h : fields.length=11) :
    lineReading fields=CpuStatFields.ofFields fields := by
  obtain ⟨name,user,nice,system,idle,iowait,irq,softirq,steal,guest,guestNice,rfl⟩ :
      ∃ name user nice system idle iowait irq softirq steal guest guestNice,
        fields=[name,user,nice,system,idle,iowait,irq,softirq,steal,guest,guestNice] := by
    match fields,h with
    | [_,_,_,_,_,_,_,_,_,_,_],_ => exact ⟨_,_,_,_,_,_,_,_,_,_,_,rfl⟩
  have hsize : UInt64.size=2^64 := rfl
  rw [lineReading,CpuStatFields.ofFields]
  simp only [cpuField,List.getD_cons_succ,List.getD_cons_zero,List.tail_cons,List.mapM_cons,
    List.mapM_nil,hsize]
  -- both give up at the first field that is no number
  rcases fromChars (2^64) user with _|user; · rfl
  rcases fromChars (2^64) nice with _|nice; · rfl
  rcases fromChars (2^64) system with _|system; · rfl
  rcases fromChars (2^64) idle with _|idle; · rfl
  rcases fromChars (2^64) iowait with _|iowait; · rfl
  rcases fromChars (2^64) irq with _|irq; · rfl
  rcases fromChars (2^64) softirq with _|softirq; · rfl
  rcases fromChars (2^64) steal with _|steal; · rfl
  rcases fromChars (2^64) guest with _|guest; · rfl
  rcases fromChars (2^64) guestNice with _|guestNice <;> rfl

/-- The core lines of eleven fields up to the first without ten numbers. -/
theorem parsedCores_eq {lines : List (List Token)} (h : ∀ fields∈lines,fields.length=11) :
    parsedCores lines=(lines.takeWhile fun fields => (lineReading fields).isSome).filterMap
      fun fields => (lineReading fields).map (fields.headD [],·) := by
  induction lines with
  | nil => rfl
  | cons fields rest ih =>
    rw [List.forall_mem_cons] at h
    rw [parsedCores,←lineReading_eq h.1,ih h.2,List.takeWhile_cons]
    cases hread : lineReading fields with
    | none => simp
    | some stats => simp [hread]

/-- The readings of the text are those that the code takes. -/
theorem readings_eq :
    aggregateReading=aggregateRead ∧ minuteReading=sixtySecondRead ∧ coreReadings=coresRead ∧
      coreReading=coreRead := by
  have haggregate : aggregateReading=aggregateRead := by
    funext call
    have hlength := statLines_length call.stat
    rw [aggregateReading,aggregateRead,←statLines_eq]
    cases hlines : statLines call.stat with
    | nil => rfl
    | cons fields rest => exact lineReading_eq (hlength fields (by rw [hlines]; simp))
  have hcores : coreReadings=coresRead := by
    funext call
    have hlength : ∀ fields∈(statLines call.stat).tail,fields.length=11 := fun fields hf =>
      statLines_length call.stat fields (List.mem_of_mem_tail hf)
    rw [coreReadings,coresRead,←statLines_eq,firstProcessorIndex,List.drop_one,
      parsedCores_eq hlength]
  refine ⟨haggregate,?_,hcores,?_⟩
  · funext call
    rw [minuteReading,sixtySecondRead,haggregate]
  · funext name call
    rw [coreReading,coreRead,hcores]

theorem valuesBetween_eq (previous current : Option CpuStatFields) :
    valuesBetween previous current=gaugesBetween previous current := by
  cases previous <;> cases current <;> rfl

theorem sampleIncrements_eq (vals : CpuGaugeValues) :
    sampleIncrements vals=coreSample (coreUsage vals) := by
  rw [sampleIncrements,coreSample,coreUsage,sq]

/-- UpdateCoreUtilization reads no aggregate line. -/
theorem updateCoreUtilization_aggregate (s : CpuState) (cpuLines : List (List Token))
    (sixty : Bool) :
    (updateCoreUtilization s cpuLines sixty).1.utilizationPrevious=s.utilizationPrevious ∧
      (updateCoreUtilization s cpuLines sixty).1.peakPrevious=s.peakPrevious := by
  rw [updateCoreUtilization_eq]
  split <;> exact coreRun_aggregate s (coreLines cpuLines)

/-- Afterwards the reading of a core is its latest line, if one was reached. -/
theorem updateCoreUtilization_lookup (s : CpuState) (cpuLines : List (List Token))
    (sixty : Bool) (name : Token) :
    (updateCoreUtilization s cpuLines sixty).1.previousCpuStats.lookup name=
      (latest (lineOf name) (coreLines cpuLines)).or (s.previousCpuStats.lookup name) := by
  have hrun := baseline_every_run (fun s => s.previousCpuStats.lookup name) (lineOf name)
    (fun s line => show (coreStep s line).1.previousCpuStats.lookup name=_ by
      rw [coreStep_lookup,lineOf]
      split <;> rfl) s (coreLines cpuLines)
  rw [updateCoreUtilization_eq]
  split <;> exact hrun

/-- The three readings after a call: each is what the call read for it, or
what it was. -/
theorem cpuStats_readings (s : CpuState) (call : CpuStatsCall) (name : Token) :
    (cpuStats s call).1.utilizationPrevious=(sixtySecondRead call).or s.utilizationPrevious ∧
      (cpuStats s call).1.peakPrevious=(aggregateRead call).or s.peakPrevious ∧
      (cpuStats s call).1.previousCpuStats.lookup name=
        (coreRead name call).or (s.previousCpuStats.lookup name) := by
  obtain ⟨five,sixty,stat⟩ := call
  rw [cpuStats,sixtySecondRead,aggregateRead,coreRead,coresRead]
  dsimp only
  generalize parseProcStatFile stat=cpuLines
  cases cpuLines with
  | nil => cases five <;> cases sixty <;> simp [cpuStatsLines,parsedCores]
  | cons aggregateLine cores =>
    simp only [cpuStatsLines,peakCpuStats_eq,updateUtilizationGauges_eq,List.head?_cons,
      Option.bind_some]
    cases five <;> cases sixty <;>
      simp [updateCoreUtilization_aggregate,updateCoreUtilization_lookup,coreLines]

/-- The core loop publishes on the core counters only. -/
theorem coreRun_isCoreCounter (s : CpuState) (lines : List (Token×CpuStatFields)) :
    ∀ o∈runOutput coreStep s lines,isCoreCounter o=true := by
  intro o ho
  obtain ⟨before,line,after,-,ho⟩ := mem_runOutput.mp ho
  rw [outputAfter,coreStep_snd,coreSamples,List.mem_flatMap] at ho
  obtain ⟨vals,-,ho⟩ := ho
  simp only [coreSample,List.mem_cons,List.not_mem_nil,or_false] at ho
  rcases ho with rfl|rfl|rfl <;> rfl

/-- Publications on the core counters set no gauge. -/
theorem gaugeSets_eq_nil {outputs : List CpuPublication}
    (h : ∀ o∈outputs,isCoreCounter o=true) :
    outputs.filterMap utilizationSet=[] ∧ outputs.filterMap peakUtilizationSet=[] := by
  constructor <;> rw [List.filterMap_eq_nil_iff] <;> intro o ho <;> have hc := h o ho <;>
    cases o <;> simp [isCoreCounter] at hc <;> rfl

/-- UpdateCoreUtilization publishes the samples of its core lines and sets
neither kind of aggregate gauge. -/
theorem updateCoreUtilization_publications (s : CpuState) (cpuLines : List (List Token))
    (sixty : Bool) :
    (updateCoreUtilization s cpuLines sixty).2.filter isCoreCounter=
        runOutput coreStep s (coreLines cpuLines) ∧
      (updateCoreUtilization s cpuLines sixty).2.filterMap utilizationSet=[] ∧
      (updateCoreUtilization s cpuLines sixty).2.filterMap peakUtilizationSet=[] := by
  have hcounter := coreRun_isCoreCounter s (coreLines cpuLines)
  obtain ⟨hutil,hpeak⟩ := gaugeSets_eq_nil hcounter
  have hfilter := List.filter_eq_self.mpr hcounter
  rw [updateCoreUtilization_eq]
  split
  · simp [hfilter,hutil,hpeak,isCoreCounter,utilizationSet,peakUtilizationSet]
  · exact ⟨hfilter,hutil,hpeak⟩

/-- Values sent to one kind of gauges reach no other kind and no counter. -/
theorem map_publications (values : List CpuGaugeValues) :
    (values.map CpuPublication.utilization).filterMap utilizationSet=values ∧
      (values.map CpuPublication.utilization).filterMap peakUtilizationSet=[] ∧
      (values.map CpuPublication.utilization).filter isCoreCounter=[] ∧
      (values.map CpuPublication.peakUtilization).filterMap utilizationSet=[] ∧
      (values.map CpuPublication.peakUtilization).filterMap peakUtilizationSet=values ∧
      (values.map CpuPublication.peakUtilization).filter isCoreCounter=[] := by
  induction values with
  | nil => simp
  | cons vals values ih => simp [ih,utilizationSet,peakUtilizationSet,isCoreCounter]

/-- The core lines that a call with distinct names reaches have distinct names. -/
theorem coreLines_names {cpuLines : List (List Token)}
    (h : (cpuLines.map (·.headD [])).Nodup) : ((coreLines cpuLines).map Prod.fst).Nodup :=
  (((parsedCores_names _).trans ((List.drop_sublist _ _).map _)).nodup h)

/-- What a call publishes, against the readings it starts from. -/
theorem cpuStats_publications (s : CpuState) (call : CpuStatsCall) :
    (cpuStats s call).2.filterMap utilizationSet=
        gaugesBetween s.utilizationPrevious (sixtySecondRead call) ∧
      (cpuStats s call).2.filterMap peakUtilizationSet=
        gaugesBetween s.peakPrevious (aggregateRead call) ∧
      (DistinctNames call.stat → (cpuStats s call).2.filter isCoreCounter=
        (coresRead call).flatMap fun line =>
          coreSamples (s.previousCpuStats.lookup line.1) line.2) := by
  obtain ⟨five,sixty,stat⟩ := call
  rw [cpuStats,sixtySecondRead,aggregateRead,coresRead,DistinctNames]
  dsimp only
  generalize parseProcStatFile stat=cpuLines
  cases cpuLines with
  | nil => cases five <;> cases sixty <;> simp [cpuStatsLines,parsedCores,gaugesBetween]
  | cons aggregateLine cores =>
    have hcores (s' : CpuState) (hnames : ((aggregateLine::cores).map (·.headD [])).Nodup) :=
      coreRun_outputs s' (coreLines_names hnames)
    have hnone (previous : Option CpuStatFields) : gaugesBetween previous none=[] := rfl
    have hnum : [CpuPublication.numProcessors cores.length].filterMap utilizationSet=[] ∧
        [CpuPublication.numProcessors cores.length].filterMap peakUtilizationSet=[] ∧
        [CpuPublication.numProcessors cores.length].filter isCoreCounter=[] := ⟨rfl,rfl,rfl⟩
    simp only [cpuStatsLines,peakCpuStats_eq,updateUtilizationGauges_eq,List.head?_cons,
      Option.bind_some]
    cases five <;> cases sixty <;>
      simp only [Bool.false_eq_true,if_true,if_false,List.filterMap_append,List.filter_append,
        List.append_nil,List.nil_append,List.flatMap_nil,
        map_publications,updateCoreUtilization_publications,updateCoreUtilization_aggregate,
        hnone,hnum,true_and,and_true,implies_true] <;>
      exact hcores _

/-- After any calls the function statics hold the latest readings. -/
theorem readings_run (calls : List CpuStatsCall) (name : Token) :
    (runState cpuStats CpuState.init calls).utilizationPrevious=latest sixtySecondRead calls ∧
      (runState cpuStats CpuState.init calls).peakPrevious=latest aggregateRead calls ∧
      (runState cpuStats CpuState.init calls).previousCpuStats.lookup name=
        latest (coreRead name) calls := by
  refine ⟨?_,?_,?_⟩
  · rw [baseline_every_run _ _ (fun s call => (cpuStats_readings s call name).1),CpuState.init,
      Option.or_none]
  · rw [baseline_every_run _ _ (fun s call => (cpuStats_readings s call name).2.1),CpuState.init,
      Option.or_none]
  · rw [baseline_every_run (fun s => s.previousCpuStats.lookup name) (coreRead name)
      (fun s call => (cpuStats_readings s call name).2.2),CpuState.init,AList.lookup_empty,
      Option.or_none]

/-- Every call of every run publishes what the history of readings determines,
as long as no file names a cpu twice. -/
theorem cpuStats_contract {calls : List CpuStatsCall}
    (hnames : ∀ call∈calls,((statLines call.stat).map (·.headD [])).Nodup) :
    CpuContract calls := by
  intro before call after hsplit
  have hcall : DistinctNames call.stat := by
    rw [DistinctNames,←statLines_eq]
    exact hnames call (by rw [hsplit]; simp)
  obtain ⟨hutil,hpeak,hcores⟩ :=
    cpuStats_publications (runState cpuStats CpuState.init before) call
  obtain ⟨haggregate,hminute,hlines,hcore⟩ := readings_eq
  refine ⟨?_,?_,?_,fun hunread => ?_⟩
  · rw [outputAfter,hutil,(readings_run before []).1,hminute,valuesBetween_eq]
  · rw [outputAfter,hpeak,(readings_run before []).2.1,haggregate,valuesBetween_eq]
  · rw [outputAfter,hcores hcall,hlines,hcore]
    refine List.flatMap_congr fun line _ => ?_
    rw [(readings_run before line.1).2.2,valuesBetween_eq,funext sampleIncrements_eq,coreSamples]
  · rw [cpuStats,←statLines_eq,hunread]
    rfl

/-- A file with the aggregate line and two cores, the second of which has a
field that is no number. -/
def twoCores (user idle : String) : Option (List Char) :=
  some ("cpu "++user++" 0 0 "++idle++" 0 0 0 0 0 0\ncpu0 "++user++" 0 0 3 0 0 0 0 0 0\n"++
    "cpu1 7 0 0 2 0 0 0 0 x 0").toList

/-- Two calls, the second of them with an unreadable file. -/
def mixedCalls : List CpuStatsCall := [⟨true,true,twoCores "4" "5"⟩,⟨true,true,none⟩]

/-- The call after them. -/
def mixedCall : CpuStatsCall := ⟨true,true,twoCores "9" "20"⟩

/-- Five ticks of twenty are a quarter of the time of all cores, and all of the
time of the first core; the second core has no sample. -/
theorem cpuStats_contract_mixed :
    (outputAfter cpuStats CpuState.init mixedCalls mixedCall).filterMap utilizationSet=
        [⟨25,0,0,0,0,0⟩] ∧
      (outputAfter cpuStats CpuState.init mixedCalls mixedCall).filterMap peakUtilizationSet=
        [⟨25,0,0,0,0,0⟩] ∧
      (outputAfter cpuStats CpuState.init mixedCalls mixedCall).filter isCoreCounter=
        [.coreCount 1,.coreTotalAmount 100,.coreTotalOfSquares 10000] := by
  have hnames : ∀ call∈mixedCalls++[mixedCall],
      ((statLines call.stat).map (·.headD [])).Nodup := by decide +kernel
  obtain ⟨hutil,hpeak,hcores,-⟩ := cpuStats_contract hnames mixedCalls mixedCall [] rfl
  exact ⟨hutil.trans (by decide +kernel),hpeak.trans (by decide +kernel),
    hcores.trans (by decide +kernel)⟩

end AtlasAgent.ProcCpuHistory
