import AtlasAgent.FallibleLoop
import AtlasAgent.NumberText
import Mathlib.Data.List.AList
import Mathlib.Data.List.Infix

/-!
# Ethtool::ethtool_stats

A line of ethtool -S is looked through for six texts in turn, and the number
after its first colon is set on the metric of the first one that is found. A
text that is no number is caught where it is converted; one that does not fit
is not.
-/

namespace AtlasAgent.Ethtool

open FallibleLoop NumberText TextFields

/-- The tags of a metric. -/
abbrev Tags := AList fun _ : Token => Token

/-- The kinds of metrics. -/
inductive MetricKind
  | monotonicCounter
  | gauge
  deriving DecidableEq

/-- A text that lines are looked through for, and its metric. -/
structure StatKey where
  key : Token
  kind : MetricKind
  name : Token
  /-- The tag id. -/
  id : Option Token

/-- The texts in the order of the branches. -/
def statKeys : List StatKey :=
  [⟨"bw_in_allowance_exceeded:".toList,.monotonicCounter,
      "net.perf.bwAllowanceExceeded".toList,some "in".toList⟩,
    ⟨"bw_out_allowance_exceeded:".toList,.monotonicCounter,
      "net.perf.bwAllowanceExceeded".toList,some "out".toList⟩,
    ⟨"conntrack_allowance_exceeded:".toList,.monotonicCounter,
      "net.perf.conntrackAllowanceExceeded".toList,none⟩,
    ⟨"conntrack_allowance_available:".toList,.gauge,
      "net.perf.conntrackAllowanceAvailable".toList,none⟩,
    ⟨"linklocal_allowance_exceeded:".toList,.monotonicCounter,
      "net.perf.linklocalAllowanceExceeded".toList,none⟩,
    ⟨"pps_allowance_exceeded:".toList,.monotonicCounter,
      "net.perf.ppsAllowanceExceeded".toList,none⟩]

/-- The branch that a line takes. -/
def statKey (statLine : Token) : Option StatKey :=
  statKeys.find? fun key => key.key<:+:statLine

/-- A metric that is set. -/
structure MetricSet where
  kind : MetricKind
  name : Token
  tags : Tags
  number : ℤ

/-- The second of the fields between colons. -/
def numberField (statLine : Token) : Token := (statLine.splitOn ':').getD 1 []

/-- Ethtool::update_metric, and the same handler where a gauge is set. -/
def updateMetric (statLine : Token) (metric : ℤ → MetricSet) :
    Except StdException (List MetricSet) :=
  match stoll (numberField statLine) with
  | .ok number => .ok [metric number]
  | .error .invalidArgument => .ok []
  | .error exception => .error exception

/-- The tags of the metric of a branch. -/
def keyTags (netTags : Tags) (iface : Token) (key : StatKey) : Tags :=
  let tags := netTags.insert "iface".toList iface
  match key.id with
  | some id => tags.insert "id".toList id
  | none => tags

/-- The body of the loop, with what has been set so far. -/
def statLineStep (netTags : Tags) (iface : Token) (sets : List MetricSet) (statLine : Token) :
    Except StdException (List MetricSet) :=
  match statKey statLine with
  | none => .ok sets
  | some key =>
    (updateMetric statLine fun number =>
      ⟨key.kind,key.name,keyTags netTags iface key,number⟩).map (sets++·)

/-- Ethtool::ethtool_stats. An exception ends the process. -/
def ethtoolStats (netTags : Tags) (iface : Token) (nicStats : List Token) :
    Except StdException (List MetricSet) := nicStats.foldlM (statLineStep netTags iface) []

/-- A line without a number to convert, or with one that can be converted. -/
def converts (statLine : Token) : Bool :=
  (statKey statLine).isNone || (stoll (numberField statLine)).isOk

/-- A line of a metric with a number that does not fit. -/
def OutOfRange (statLine : Token) : Prop :=
  (statKey statLine).isSome ∧ stoll (numberField statLine)=.error .outOfRange

/-- What the handler leaves of a conversion. -/
theorem statLineStep_cases (netTags : Tags) (iface : Token) (statLine : Token) :
    Outcome (statLineStep netTags iface) converts OutOfRange statLine := by
  unfold Outcome OutOfRange converts statLineStep updateMetric
  cases statKey statLine with
  | none => exact Or.inr (Or.inr ⟨by simp,rfl,fun sets => ⟨sets,rfl⟩⟩)
  | some key =>
    cases stoll (numberField statLine) with
    | ok number => exact Or.inr (Or.inr ⟨by simp,rfl,fun sets => ⟨_,rfl⟩⟩)
    | error exception =>
      cases exception with
      | invalidArgument =>
        exact Or.inr (Or.inl ⟨by simp,rfl,fun sets => congrArg _ (List.append_nil sets)⟩)
      | outOfRange => exact Or.inl ⟨⟨rfl,rfl⟩,fun sets => ⟨_,rfl⟩⟩

/-- ethtool_stats returns, with what the lines that can be converted set,
exactly when every number of a metric fits. -/
theorem ethtoolStats_undisturbed_iff (netTags : Tags) (iface : Token) (nicStats : List Token) :
    Undisturbed (statLineStep netTags iface) converts nicStats [] ↔
      ∀ statLine∈nicStats,¬OutOfRange statLine :=
  undisturbed_iff (statLineStep_cases netTags iface) nicStats []

end AtlasAgent.Ethtool
