import AtlasAgent.FallibleLoop
import AtlasAgent.NumberText
import Mathlib.Data.Rat.Defs

/-!
# Ntp::chrony_stats

The last sample time is that of the source that chronyc tracks. A time is a
number of nanoseconds without bounds. Every source comes with what the clock
shows while it is looked at, so that leaving one out does not change what the
others see. A text that is no number is caught; one that does not fit is not.
-/

namespace AtlasAgent.Ntp

open FallibleLoop NumberText TextFields

/-- absl::Time and absl::Duration. -/
abbrev Time := ℤ

/-- absl::Seconds. -/
def seconds (n : ℤ) : Time := 1000000000*n

/-- absl::ToDoubleSeconds. -/
def toDoubleSeconds (duration : Time) : ℚ := duration/1000000000

/-- A line of chronyc sources, and Clock::now() by then. -/
structure Source where
  line : Token
  now : Time

/-- The server that is tracked. -/
def currentServer (tracking : Token) : Token :=
  let fields := tracking.splitOn ','
  if 1<fields.length then fields.getD 1 [] else []

/-- The fields of a source. -/
def sourceFields (source : Source) : List Token := source.line.splitOn ','

/-- A source that is the given server. -/
def isServer (server : Token) (source : Source) : Bool :=
  7≤(sourceFields source).length && (sourceFields source).getD 2 []=server

/-- The time of the last sample as the source has it. -/
def lastRx (source : Source) : Except StdException ℤ := stoll ((sourceFields source).getD 6 [])

/-- The body of the loop over the sources. -/
def sourceStep (server : Token) (lastSampleTime : Time) (source : Source) :
    Except StdException Time :=
  if isServer server source then
    match lastRx source with
    | .ok n => .ok (source.now-seconds n)
    | .error .invalidArgument => .ok lastSampleTime
    | .error exception => .error exception
  else .ok lastSampleTime

/-- What is left after a call: the sample time, and the age that has been set. -/
structure ChronyStats where
  lastSampleTime : Time
  lastSampleAge : ℚ

/-- Ntp::chrony_stats, with Clock::now() at its end. An exception ends the
process. -/
def chronyStats (lastSampleTime : Time) (tracking : Token) (sources : List Source)
    (now : Time) : Except StdException ChronyStats :=
  (sources.foldlM (sourceStep (currentServer tracking)) lastSampleTime).map
    fun lastSampleTime => ⟨lastSampleTime,toDoubleSeconds (now-lastSampleTime)⟩

/-- A source that is not the server, or has a number that can be converted. -/
def converts (server : Token) (source : Source) : Bool :=
  !isServer server source || (lastRx source).isOk

/-- The server with a number that does not fit. -/
def OutOfRange (server : Token) (source : Source) : Prop :=
  isServer server source=true ∧ lastRx source=.error .outOfRange

/-- What the handler leaves of a conversion. -/
theorem sourceStep_cases (server : Token) (source : Source) :
    Outcome (sourceStep server) (converts server) (OutOfRange server) source := by
  unfold Outcome OutOfRange converts sourceStep
  cases isServer server source with
  | false => exact Or.inr (Or.inr ⟨by simp,rfl,fun time => ⟨time,rfl⟩⟩)
  | true =>
    cases lastRx source with
    | ok n => exact Or.inr (Or.inr ⟨by simp,rfl,fun time => ⟨_,rfl⟩⟩)
    | error exception =>
      cases exception with
      | invalidArgument => exact Or.inr (Or.inl ⟨by simp,rfl,fun time => rfl⟩)
      | outOfRange => exact Or.inl ⟨⟨rfl,rfl⟩,fun time => ⟨_,rfl⟩⟩

/-- chrony_stats returns, with the sample time that the sources with a number
give, exactly when every number of the server fits. -/
theorem chronyStats_undisturbed_iff (server : Token) (sources : List Source)
    (lastSampleTime : Time) :
    Undisturbed (sourceStep server) (converts server) sources lastSampleTime ↔
      ∀ source∈sources,¬OutOfRange server source :=
  undisturbed_iff (sourceStep_cases server) sources lastSampleTime

end AtlasAgent.Ntp
