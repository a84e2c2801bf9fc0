import AtlasAgent.LatestSample
import AtlasAgent.NearestEven
import AtlasAgent.TextFields
import Mathlib.Algebra.Order.Field.Rat
import Mathlib.Data.List.AList

/-!
# Proc::CpuStats and the cpu lines of /proc/stat

One call reads the file once and serves three consumers: the gauges of the
last minute, the per-core counters of the last five seconds and the peak
gauges of the last second. Each keeps its own previous reading in function
statics, collected here in one state, and each catches the exception of a
field that is not a number at a different point. Counter fields are 64-bit
and wrap. The percentages are computed with an arithmetic of choice: exact
rationals, which the runs of this module use, or doubles that round after
every operation. Logging is left out.
-/

namespace AtlasAgent.ProcCpu

open RunHistory LatestSample TextFields NearestEven

/-- The fields of one cpu line, in the order of the line. -/
structure CpuStatFields where
  user : UInt64
  nice : UInt64
  system : UInt64
  idle : UInt64
  iowait : UInt64
  irq : UInt64
  softirq : UInt64
  steal : UInt64
  guest : UInt64
  guestNice : UInt64
  deriving DecidableEq

/-- One field of a cpu line as a uint64_t. -/
def cpuField (fields : List Token) (index : ℕ) : Option UInt64 :=
  (fromChars UInt64.size (fields.getD index [])).map UInt64.ofNat

/-- The constructor of CpuStatFields; without a result it throws. -/
def CpuStatFields.ofFields (fields : List Token) : Option CpuStatFields := do
  let user ← cpuField fields 1
  let nice ← cpuField fields 2
  let system ← cpuField fields 3
  let idle ← cpuField fields 4
  let iowait ← cpuField fields 5
  let irq ← cpuField fields 6
  let softirq ← cpuField fields 7
  let steal ← cpuField fields 8
  let guest ← cpuField fields 9
  let guestNice ← cpuField fields 10
  return ⟨user,nice,system,idle,iowait,irq,softirq,steal,guest,guestNice⟩

/-- Cpu_Gauge_Values. -/
structure CpuGaugeValues where
  user : ℚ
  system : ℚ
  stolen : ℚ
  nice : ℚ
  wait : ℚ
  interrupt : ℚ
  deriving DecidableEq

/-- ComputeGaugeValues, with percent for 100.0 times a change over the total. -/
def computeGaugeValuesWith (percent : ℕ → ℕ → ℚ) (prev current : CpuStatFields) :
    CpuGaugeValues :=
  let deltaUser := current.user-prev.user
  let deltaSystem := current.system-prev.system
  let deltaStolen := current.steal-prev.steal
  let deltaNice := current.nice-prev.nice
  let deltaIdle := current.idle-prev.idle
  let deltaInterrupt := (current.irq+current.softirq)-(prev.irq+prev.softirq)
  -- iowait may decrease between readings and is clamped
  let deltaWait := if prev.iowait<current.iowait then current.iowait-prev.iowait else 0
  let deltaTotal :=
    deltaUser+deltaNice+deltaSystem+deltaIdle+deltaWait+deltaInterrupt+deltaStolen
  if 0<deltaTotal then
    { user := percent deltaUser.toNat deltaTotal.toNat
      system := percent deltaSystem.toNat deltaTotal.toNat
      stolen := percent deltaStolen.toNat deltaTotal.toNat
      nice := percent deltaNice.toNat deltaTotal.toNat
      wait := percent deltaWait.toNat deltaTotal.toNat
      interrupt := percent deltaInterrupt.toNat deltaTotal.toNat }
  else ⟨0,0,0,0,0,0⟩

/-- The percentage without any rounding. -/
def exactPercent (delta total : ℕ) : ℚ := 100*delta/total

/-- ComputeGaugeValues in exact arithmetic. -/
def computeGaugeValues : CpuStatFields → CpuStatFields → CpuGaugeValues :=
  computeGaugeValuesWith exactPercent

/-- A double has 53 significant bits. Here all are far from the limits of the
exponent. -/
def toDouble (x : ℚ) : ℚ := roundBits 53 x

/-- The percentage as doubles compute it: both integers are converted, and the
product and the quotient are rounded. -/
def doublePercent (delta total : ℕ) : ℚ :=
  toDouble (toDouble (100*toDouble delta)/toDouble total)

/-- ComputeGaugeValues with the doubles of the code. -/
def computeGaugeValuesDouble : CpuStatFields → CpuStatFields → CpuGaugeValues :=
  computeGaugeValuesWith doublePercent

/-- The sum of the non-idle states taken as the usage of a core. -/
def coreUsage (vals : CpuGaugeValues) : ℚ :=
  vals.user+vals.system+vals.stolen+vals.nice+vals.wait+vals.interrupt

/-- ProcStatConstants::FirstProcessorIndex. -/
def firstProcessorIndex : ℕ := 1

/-- ProcStatConstants::CpuPrefix. -/
def cpuPrefix : Token := ['c','p','u']

/-- ProcStatConstants::ExpectedCpuFields. -/
def expectedCpuFields : ℕ := 11

/-- read_lines_fields of a file, which may not open. -/
def readLinesFields : Option (List Char) → List (List Token)
  | none => []
  | some text => (getLines text).map (strSplit ' ')

/-- The loop of ParseProcStatFile: blank and other lines are skipped, and the
first cpu line without exactly eleven fields gives the whole file up. -/
def cpuLinesLoop : List (List Token) → Option (List (List Token))
  | [] => some []
  | fields::rest =>
    match fields with
    | [] => cpuLinesLoop rest
    | name::_ =>
      if cpuPrefix.isPrefixOf name then
        if fields.length=expectedCpuFields then (cpuLinesLoop rest).map (fields::·) else none
      else cpuLinesLoop rest

/-- Proc::ParseProcStatFile. -/
def parseProcStatFile (stat : Option (List Char)) : List (List Token) :=
  (cpuLinesLoop (readLinesFields stat)).getD []

/-- What CpuStats sends to the registry. The six gauges of a set of values are
tagged user, system, stolen, nice, wait and interrupt. -/
inductive CpuPublication
  /-- The six gauges sys.cpu.utilization. -/
  | utilization (vals : CpuGaugeValues)
  /-- The six max gauges sys.cpu.peakUtilization. -/
  | peakUtilization (vals : CpuGaugeValues)
  /-- The gauge sys.cpu.numProcessors. -/
  | numProcessors (numberProcessors : ℕ)
  /-- The counter sys.cpu.coreUtilization with statistic count. -/
  | coreCount (increment : ℚ)
  /-- The counter sys.cpu.coreUtilization with statistic totalAmount. -/
  | coreTotalAmount (increment : ℚ)
  /-- The counter sys.cpu.coreUtilization with statistic totalOfSquares. -/
  | coreTotalOfSquares (increment : ℚ)
  /-- The max gauge sys.cpu.coreUtilization with statistic max. -/
  | coreMax (value : ℚ)
  deriving DecidableEq

/-- The function statics behind CpuStats. -/
structure CpuState where
  /-- previousAggregateStats of PeakCpuStats. -/
  peakPrevious : Option CpuStatFields
  /-- previousAggregateStats of UpdateUtilizationGauges. -/
  utilizationPrevious : Option CpuStatFields
  /-- previousCpuStats of UpdateCoreUtilization. -/
  previousCpuStats : AList (fun _ : Token => CpuStatFields)
  /-- previousCoreUsages of UpdateCoreUtilization. -/
  previousCoreUsages : AList (fun _ : Token => ℚ)
  deriving DecidableEq

/-- The statics before the first call. -/
def CpuState.init : CpuState := ⟨none,none,∅,∅⟩

/-- The gauge values of an aggregate line against the previous one, if any. -/
def gaugesSince (previous : Option CpuStatFields) (current : CpuStatFields) :
    List CpuGaugeValues :=
  previous.toList.map (computeGaugeValues · current)

/-- Proc::PeakCpuStats. A line that does not parse is caught and changes nothing. -/
def peakCpuStats (s : CpuState) (aggregateLine : List Token) : CpuState×List CpuPublication :=
  match CpuStatFields.ofFields aggregateLine with
  | none => (s,[])
  | some current =>
    ({ s with peakPrevious := some current },
      (gaugesSince s.peakPrevious current).map .peakUtilization)

/-- Proc::UpdateUtilizationGauges. A line that does not parse is caught and
changes nothing. -/
def updateUtilizationGauges (s : CpuState) (aggregateLine : List Token) :
    CpuState×List CpuPublication :=
  match CpuStatFields.ofFields aggregateLine with
  | none => (s,[])
  | some current =>
    ({ s with utilizationPrevious := some current },
      (gaugesSince s.utilizationPrevious current).map .utilization)

/-- The three counter increments of one usage sample. -/
def coreSample (usage : ℚ) : List CpuPublication :=
  [.coreCount 1,.coreTotalAmount usage,.coreTotalOfSquares (usage*usage)]

/-- The body of the core loop for a line that parses. A core seen for the
first time only gets a baseline. -/
def coreStep (s : CpuState) (line : Token×CpuStatFields) : CpuState×List CpuPublication :=
  match s.previousCpuStats.lookup line.1 with
  | none => ({ s with previousCpuStats := s.previousCpuStats.insert line.1 line.2 },[])
  | some prev =>
    let usage := coreUsage (computeGaugeValues prev line.2)
    ({ s with
        previousCpuStats := s.previousCpuStats.insert line.1 line.2
        previousCoreUsages := s.previousCoreUsages.insert line.1
          ((s.previousCoreUsages.lookup line.1).getD 0+usage) },
      coreSample usage)

/-- The core loop: it ends at the first line that does not parse, whose
exception skips the rest of UpdateCoreUtilization. The last component tells
whether the loop came to its end. -/
def coreLoop (s : CpuState) : List (List Token) → CpuState×List CpuPublication×Bool
  | [] => (s,[],true)
  | fields::rest =>
    match CpuStatFields.ofFields fields with
    | none => (s,[],false)
    | some current =>
      let first := coreStep s (fields.headD [],current)
      let others := coreLoop first.1 rest
      (others.1,first.2++others.2.1,others.2.2)

/-- Proc::UpdateCoreUtilization. -/
def updateCoreUtilization (s : CpuState) (cpuLines : List (List Token))
    (sixtySecondMetricsEnabled : Bool) : CpuState×List CpuPublication :=
  let loop := coreLoop s (cpuLines.drop firstProcessorIndex)
  if loop.2.2 ∧ sixtySecondMetricsEnabled ∧ loop.1.previousCoreUsages.entries≠[] then
    let maxUsage := loop.1.previousCoreUsages.entries.foldl (fun m entry => max m entry.2) 0
    ({ loop.1 with previousCoreUsages := ∅ },loop.2.1++[.coreMax (maxUsage/12)])
  else (loop.1,loop.2.1)

/-- The arguments of one call and the file it finds. -/
structure CpuStatsCall where
  /-- fiveSecondMetrics. -/
  fiveSecondMetrics : Bool
  /-- sixtySecondMetricsEnabled. -/
  sixtySecondMetricsEnabled : Bool
  /-- The text of /proc/stat; none when it cannot be opened. -/
  stat : Option (List Char)
  deriving DecidableEq

/-- Proc::CpuStats on the cpu lines of the file. -/
def cpuStatsLines (s : CpuState) (call : CpuStatsCall) (cpuLines : List (List Token)) :
    CpuState×List CpuPublication :=
  match cpuLines with
  | [] => (s,[])
  | aggregateLine::cores =>
    let minute := if call.sixtySecondMetricsEnabled then
        let gauges := updateUtilizationGauges s aggregateLine
        (gauges.1,gauges.2++[.numProcessors cores.length])
      else (s,[])
    let detailed := if call.fiveSecondMetrics then
        updateCoreUtilization minute.1 (aggregateLine::cores) call.sixtySecondMetricsEnabled
      else (minute.1,[])
    let peak := peakCpuStats detailed.1 aggregateLine
    (peak.1,minute.2++detailed.2++peak.2)

/-- Proc::CpuStats. -/
def cpuStats (s : CpuState) (call : CpuStatsCall) : CpuState×List CpuPublication :=
  cpuStatsLines s call (parseProcStatFile call.stat)

/-- The core lines up to the first that does not parse, each with its name. -/
def parsedCores : List (List Token) → List (Token×CpuStatFields)
  | [] => []
  | fields::rest =>
    match CpuStatFields.ofFields fields with
    | none => []
    | some current => (fields.headD [],current)::parsedCores rest

/-- Every core line parses, so that the core loop comes to its end. -/
def CoresParse (lines : List (List Token)) : Prop :=
  ∀ fields∈lines,(CpuStatFields.ofFields fields).isSome

instance (lines : List (List Token)) : Decidable (CoresParse lines) :=
  inferInstanceAs (Decidable (∀ fields∈lines,(CpuStatFields.ofFields fields).isSome))

/-- The core loop is a run over the lines it reaches and parses. -/
theorem coreLoop_eq (s : CpuState) (lines : List (List Token)) :
    coreLoop s lines=(runState coreStep s (parsedCores lines),
      runOutput coreStep s (parsedCores lines),decide (CoresParse lines)) := by
  induction lines generalizing s with
  | nil => simp [coreLoop,parsedCores,CoresParse]
  | cons fields rest ih =>
    rw [coreLoop,parsedCores]
    cases hf : CpuStatFields.ofFields fields with
    | none => simp [CoresParse,hf]
    | some current =>
      have hparse : CoresParse (fields::rest) ↔ CoresParse rest := by simp [CoresParse,hf]
      dsimp only
      rw [ih,runState_cons,runOutput_cons,decide_eq_decide.mpr hparse]

/-- The names of the parsed lines keep the order of the file. -/
theorem parsedCores_names (lines : List (List Token)) :
    ((parsedCores lines).map Prod.fst).Sublist (lines.map (·.headD [])) := by
  induction lines with
  | nil => exact List.Sublist.refl _
  | cons fields rest ih =>
    rw [parsedCores]
    cases hf : CpuStatFields.ofFields fields with
    | none => exact List.nil_sublist _
    | some current => exact ih.cons_cons _

/-- One line replaces the reading of its own core and of no other. -/
theorem coreStep_lookup (s : CpuState) (line : Token×CpuStatFields) (name : Token) :
    (coreStep s line).1.previousCpuStats.lookup name=
      if line.1=name then some line.2 else s.previousCpuStats.lookup name := by
  have hstats : (coreStep s line).1.previousCpuStats=
      s.previousCpuStats.insert line.1 line.2 := by
    unfold coreStep
    cases s.previousCpuStats.lookup line.1 <;> rfl
  rw [hstats]
  split
  · next h => rw [←h,AList.lookup_insert]
  · next h => rw [AList.lookup_insert_ne (Ne.symm h)]

/-- The values between two readings of the same line; none unless both exist. -/
def gaugesBetween (previous current : Option CpuStatFields) : List CpuGaugeValues :=
  current.toList.flatMap (gaugesSince previous)

/-- The counter increments for a core whose line was read before and is read now. -/
def coreSamples (previous : Option CpuStatFields) (current : CpuStatFields) :
    List CpuPublication :=
  (gaugesBetween previous (some current)).flatMap fun vals => coreSample (coreUsage vals)

/-- One line publishes the sample between its core's reading and itself. -/
theorem coreStep_snd (s : CpuState) (line : Token×CpuStatFields) :
    (coreStep s line).2=coreSamples (s.previousCpuStats.lookup line.1) line.2 := by
  unfold coreStep
  cases s.previousCpuStats.lookup line.1 <;>
    simp [coreSamples,gaugesBetween,gaugesSince]

/-- Lines of distinct cores are sampled against the readings from before the loop. -/
theorem coreRun_outputs (s : CpuState) {lines : List (Token×CpuStatFields)}
    (hnames : (lines.map Prod.fst).Nodup) :
    runOutput coreStep s lines=
      lines.flatMap fun line => coreSamples (s.previousCpuStats.lookup line.1) line.2 := by
  induction lines generalizing s with
  | nil => rfl
  | cons line rest ih =>
    rw [List.map_cons,List.nodup_cons] at hnames
    rw [runOutput_cons,ih _ hnames.2,List.flatMap_cons,coreStep_snd]
    congr 1
    refine List.flatMap_congr fun later hl => ?_
    have hne : line.1≠later.1 := fun h => hnames.1 (h ▸ List.mem_map_of_mem hl)
    rw [coreStep_lookup,if_neg hne]

/-- The core lines that one UpdateCoreUtilization reaches and parses. -/
def coreLines (cpuLines : List (List Token)) : List (Token×CpuStatFields) :=
  parsedCores (cpuLines.drop firstProcessorIndex)

/-- The publications of the core counters are made by the core lines alone;
the maximum follows them when the loop came to its end at a minute. -/
theorem updateCoreUtilization_eq (s : CpuState) (cpuLines : List (List Token)) (sixty : Bool) :
    updateCoreUtilization s cpuLines sixty=
      if CoresParse (cpuLines.drop firstProcessorIndex) ∧ sixty ∧
          (runState coreStep s (coreLines cpuLines)).previousCoreUsages.entries≠[] then
        ({ runState coreStep s (coreLines cpuLines) with previousCoreUsages := ∅ },
          runOutput coreStep s (coreLines cpuLines)++[.coreMax
            ((runState coreStep s (coreLines cpuLines)).previousCoreUsages.entries.foldl
              (fun m entry => max m entry.2) 0/12)])
      else
        (runState coreStep s (coreLines cpuLines),runOutput coreStep s (coreLines cpuLines)) := by
  rw [updateCoreUtilization,coreLoop_eq]
  exact if_congr (and_congr_left' decide_eq_true_iff) rfl rfl

/-- The core lines leave the readings of the aggregate line alone. -/
theorem coreRun_aggregate (s : CpuState) (lines : List (Token×CpuStatFields)) :
    (runState coreStep s lines).utilizationPrevious=s.utilizationPrevious ∧
      (runState coreStep s lines).peakPrevious=s.peakPrevious := by
  refine invariant_every_run (fun s' : CpuState => s'.utilizationPrevious=s.utilizationPrevious ∧
    s'.peakPrevious=s.peakPrevious) (fun s' line h => ?_) ⟨rfl,rfl⟩ lines
  rw [coreStep]
  cases s'.previousCpuStats.lookup line.1 <;> exact h

/-- An aggregate line that parses becomes the peak reading, and the gauges
compare it with the one before. -/
theorem peakCpuStats_eq (s : CpuState) (aggregateLine : List Token) :
    peakCpuStats s aggregateLine=
      ({ s with peakPrevious := (CpuStatFields.ofFields aggregateLine).or s.peakPrevious },
        (gaugesBetween s.peakPrevious (CpuStatFields.ofFields aggregateLine)).map
          .peakUtilization) := by
  rw [peakCpuStats]
  cases CpuStatFields.ofFields aggregateLine <;> simp [gaugesBetween]

/-- The same for the reading of the sixty-second gauges. -/
theorem updateUtilizationGauges_eq (s : CpuState) (aggregateLine : List Token) :
    updateUtilizationGauges s aggregateLine=
      ({ s with
          utilizationPrevious :=
            (CpuStatFields.ofFields aggregateLine).or s.utilizationPrevious },
        (gaugesBetween s.utilizationPrevious (CpuStatFields.ofFields aggregateLine)).map
          .utilization) := by
  rw [updateUtilizationGauges]
  cases CpuStatFields.ofFields aggregateLine <;> simp [gaugesBetween]

end AtlasAgent.ProcCpu
