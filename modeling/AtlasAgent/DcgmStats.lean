import AtlasAgent.DiskstatsLines
import AtlasAgent.ServiceReads
import Mathlib.Data.List.Forall2
import Mathlib.Data.List.Sort
import Mathlib.Tactic.IntervalCases

/-!
# GpuMetricsDCGM

The output of dcgmi is two lines of headings and one line for each GPU. Every
line appends its values to the entry of its GPU in one map, so that a second
line of a GPU shows in the number of its values. An exception of a conversion
is caught by the handler around parse_lines, with the map as it is by then. The
map is iterated over in the order of its keys.
-/

namespace AtlasAgent.DcgmStats

open IeeeDouble NumberText TextFields
open DiskstatsLines (stoi)
open ServiceReads (strSplitSkipWhitespace)

/-- DCGMConstants::ExpectedCountOfTokens. -/
def expectedCountOfTokens : ℕ := 13

/-- DCGMConstants::ExpectedCountOfProfileValues. -/
def expectedCountOfProfileValues : ℕ := 11

/-- DCGMConstants::RequiredLines. -/
def requiredLines : ℕ := 3

/-- DCGMConstants::DataStartLineIndex. -/
def dataStartLineIndex : ℕ := 2

/-- DCGMConstants::DataStartTokenIndex. -/
def dataStartTokenIndex : ℕ := 2

/-- DCGMConstants::GPUIdTokenIndex. -/
def gpuIdTokenIndex : ℕ := 1

/-- std::map < int, std::vector<double>>. -/
abbrev DataMap := AList fun _ : ℤ => List Ieee

/-- The vector that operator[] finds or makes. -/
def entry (dataMap : DataMap) (gpuId : ℤ) : List Ieee := (dataMap.lookup gpuId).getD []

/-- The loop over the tokens of a line. The entry is there before its token is
converted. -/
def pushValues (gpuId : ℤ) (dataMap : DataMap) : List Token → DataMap×Except StdException Unit
  | [] => (dataMap,.ok ())
  | token::tokens =>
    match stod token with
    | .error exception => (dataMap.insert gpuId (entry dataMap gpuId),.error exception)
    | .ok value => pushValues gpuId (dataMap.insert gpuId (entry dataMap gpuId++[value])) tokens

/-- The tokens of a line. -/
def tokensOf (line : Token) : List Token := strSplitSkipWhitespace ' ' line

/-- The body of the loop over the lines; true to go on. -/
def parseLine (dataMap : DataMap) (line : Token) : DataMap×Except StdException Bool :=
  let tokens := tokensOf line
  if tokens.length≠expectedCountOfTokens then (dataMap,.ok false)
  else
    match stoi (tokens.getD gpuIdTokenIndex []) with
    | .error exception => (dataMap,.error exception)
    | .ok gpuId =>
      match pushValues gpuId dataMap (tokens.drop dataStartTokenIndex) with
      | (dataMap,.error exception) => (dataMap,.error exception)
      | (dataMap,.ok ()) =>
        (dataMap,.ok ((entry dataMap gpuId).length=expectedCountOfProfileValues))

/-- The loop over the lines. -/
def parseLoop (dataMap : DataMap) : List Token → DataMap×Except StdException Bool
  | [] => (dataMap,.ok true)
  | line::lines =>
    match parseLine dataMap line with
    | (dataMap,.ok true) => parseLoop dataMap lines
    | stopped => stopped

/-- The handler for std::exception around parse_lines. -/
def catchStd (body : DataMap×Except StdException Bool) : DataMap×Except StdException Bool :=
  match body.2 with
  | .ok accepted => (body.1,.ok accepted)
  | .error _ => (body.1,.ok false)

/-- parse_lines. -/
def parseLines (lines : List Token) (dataMap : DataMap) : DataMap×Except StdException Bool :=
  catchStd (if lines.length < requiredLines then (dataMap,.ok false)
    else parseLoop dataMap (lines.drop dataStartLineIndex))

/-- The tags of a gauge or a counter; gpu is an unsigned int. -/
def tagMap (gpu : ℤ) (id : Option Token) : List (Token×Token) :=
  [("gpu".toList,Nat.toDigits 10 (gpu%2^32).toNat),("provider".toList,"nvidia".toList)]++
    (id.map ("id".toList,·)).toList

/-- What update_metrics does with a value. -/
inductive MetricEvent
  | gauge (name : Token) (tags : List (Token×Token)) (set : Ieee)
  | counter (name : Token) (tags : List (Token×Token)) (increment : Ieee)
  | unhandledField

/-- Set of a gauge, times DCGMConstants::PercentileConversion. -/
def setGauge (name : Token) (gpu : ℤ) (id : Option Token) (value : Ieee) : MetricEvent :=
  .gauge name (tagMap gpu id) (value.mul (.finite 100))

/-- Increment of a counter, times DCGMConstants::BytesConversion. -/
def incrementCounter (name : Token) (gpu : ℤ) (id : Option Token) (value : Ieee) : MetricEvent :=
  .counter name (tagMap gpu id) (value.mul (.finite 60))

/-- The switch of update_metrics. -/
def updateField (gpuId : ℤ) (i : ℕ) (value : Ieee) : MetricEvent :=
  match i with
  | 0 => setGauge "gpu.dcgm.graphicsEngineActivity".toList gpuId none value
  | 1 => setGauge "gpu.dcgm.sm".toList gpuId (some "activity".toList) value
  | 2 => setGauge "gpu.dcgm.sm".toList gpuId (some "occupancy".toList) value
  | 3 => setGauge "gpu.dcgm.tensorCoresUtilization".toList gpuId none value
  | 4 => setGauge "gpu.dcgm.memoryBandwidthUtilization".toList gpuId none value
  | 5 => setGauge "gpu.dcgm.pipeUtilization".toList gpuId (some "fp32".toList) value
  | 6 => setGauge "gpu.dcgm.pipeUtilization".toList gpuId (some "fp16".toList) value
  | 7 => incrementCounter "gpu.dcgm.pcie.bytes".toList gpuId (some "out".toList) value
  | 8 => incrementCounter "gpu.dcgm.pcie.bytes".toList gpuId (some "in".toList) value
  | 9 => incrementCounter "gpu.dcgm.nvlink.bytes".toList gpuId (some "out".toList) value
  | 10 => incrementCounter "gpu.dcgm.nvlink.bytes".toList gpuId (some "in".toList) value
  | _ => .unhandledField

/-- GpuMetricsDCGM::update_metrics, with or without a registry. -/
def updateMetrics (registry : Bool) (dataMap : DataMap) : Bool×List MetricEvent :=
  if registry=false then (false,[])
  else (true,(dataMap.entries.mergeSort fun a b => a.1≤b.1).flatMap fun entry =>
    entry.2.mapIdx (updateField entry.1))

/-- GpuMetricsDCGM::gather_metrics with the lines that dcgmi has written. -/
def gatherMetrics (registry : Bool) (lines : List Token) : Bool×List MetricEvent :=
  match parseLines lines ∅ with
  | (dataMap,.ok true) => updateMetrics registry dataMap
  | _ => (false,[])

/-- A line of data, for a GPU and with its values. -/
structure DataLine (line : Token) (gpuId : ℤ) (values : List Ieee) : Prop where
  count : (tokensOf line).length=13
  gpuId : stoi ((tokensOf line).getD 1 [])=.ok gpuId
  values : ((tokensOf line).drop 2).map stod=values.map .ok

theorem DataLine.length {line : Token} {gpuId : ℤ} {values : List Ieee}
    (h : DataLine line gpuId values) : values.length=11 := by
  have hlength := congrArg List.length h.values
  rw [List.length_map,List.length_map,List.length_drop,h.count] at hlength
  exact hlength.symm

end AtlasAgent.DcgmStats
