import AtlasAgent.PeriodicDeadlines
import AtlasAgent.RunHistory
import Mathlib.Data.List.Induction

/-!
# The collector loops of the three agent flavors

Each build runs one of collect_system_metrics, collect_titus_metrics and
collect_k8s_metrics. The three share one loop and differ only in what they
gather, so the loop is stated once over a table of gather calls and each
flavor supplies its own table. Time is integer nanoseconds of system_clock;
the readings of one iteration are inputs, since the clock may stall, jump
or step backward. Logging and the reading used only for a log line are left
out. Stopping the loop is the subject of the terminator module.
-/

namespace AtlasAgent.CollectorLoop

open RunHistory PeriodicDeadlines

/-- std::chrono::seconds in nanoseconds. -/
def seconds (n : ℤ) : ℤ := n*1000000000

/-- The collector entry points called by the loops. -/
inductive CollectorCall
  | procCpuStats (fiveSecondMetrics sixtySecondMetricsEnabled : Bool)
  | cGroupCpuStats (fiveSecondMetricsEnabled sixtySecondMetricsEnabled : Bool)
  | cpuFreqStats
  | perfspectCollect
  | cGroupIOStats
  | awsCollect
  | diskStats
  | titusDiskStats
  | k8sDiskStats
  | ethtoolCollect
  | ntpCollect
  | pressureStallCollect
  | cGroupMemoryStatsV2
  | cGroupMemoryStatsStdV2
  | cGroupNetworkStats
  | procCollectSystem
  | procCollectTitus
  | procCollectK8s
  | perfMetricsCollect
  | gpuMetricsCollect
  | gpuMetricsAmdCollect
  | gpuMetricsDcgmCollect
  | ebsCollect
  | serviceMonitorCollect
  deriving DecidableEq

/-- What one flavor gathers at each of the three cadences. -/
structure LoopBody where
  /-- Gathered in every iteration, with the two flags of that iteration. -/
  everySecond : Bool → Bool → List CollectorCall
  /-- Gathered in an iteration that has reached the five-second deadline. -/
  fiveSecond : List CollectorCall
  /-- The slow metrics: gathered once before the loop and every minute. -/
  slow : List CollectorCall
  /-- Gathered after the slow metrics in a sixty-second iteration. -/
  sixtySecond : List CollectorCall

/-- gather_peak_system_metrics. -/
def gatherPeakSystemMetrics (fiveSecondMetricsEnabled sixtySecondMetricsEnabled : Bool) :
    List CollectorCall :=
  [.procCpuStats fiveSecondMetricsEnabled sixtySecondMetricsEnabled]

/-- gather_scaling_metrics. -/
def gatherScalingMetrics : List CollectorCall := [.cpuFreqStats]

/-- gather_slow_system_metrics. -/
def gatherSlowSystemMetrics : List CollectorCall :=
  [.awsCollect,.diskStats,.ethtoolCollect,.ntpCollect,.pressureStallCollect,.procCollectSystem]

/-- gather_peak_titus_metrics; gather_peak_k8s_metrics makes the same call. -/
def gatherPeakTitusMetrics (fiveSecondMetricsEnabled sixtySecondMetricsEnabled : Bool) :
    List CollectorCall :=
  [.cGroupCpuStats fiveSecondMetricsEnabled sixtySecondMetricsEnabled]

/-- gather_peak_k8s_metrics. -/
def gatherPeakK8sMetrics (fiveSecondMetricsEnabled sixtySecondMetricsEnabled : Bool) :
    List CollectorCall :=
  [.cGroupCpuStats fiveSecondMetricsEnabled sixtySecondMetricsEnabled]

/-- gather_slow_titus_metrics. -/
def gatherSlowTitusMetrics : List CollectorCall :=
  [.awsCollect,.cGroupMemoryStatsV2,.cGroupMemoryStatsStdV2,.cGroupNetworkStats,
    .titusDiskStats,.procCollectTitus]

/-- gather_slow_k8s_metrics. -/
def gatherSlowK8sMetrics : List CollectorCall :=
  [.awsCollect,.cGroupMemoryStatsV2,.cGroupMemoryStatsStdV2,.cGroupNetworkStats,
    .k8sDiskStats,.procCollectK8s]

/-- The table of collect_system_metrics. -/
def collectSystemMetrics : LoopBody where
  everySecond five sixty := gatherPeakSystemMetrics five sixty++gatherScalingMetrics
  fiveSecond := [.perfspectCollect]
  slow := gatherSlowSystemMetrics
  sixtySecond := [.perfMetricsCollect,.gpuMetricsCollect,.gpuMetricsAmdCollect,
    .gpuMetricsDcgmCollect,.ebsCollect,.serviceMonitorCollect]

/-- The table of collect_titus_metrics. -/
def collectTitusMetrics : LoopBody where
  everySecond := gatherPeakTitusMetrics
  fiveSecond := [.cGroupIOStats]
  slow := gatherSlowTitusMetrics
  sixtySecond := [.perfMetricsCollect,.gpuMetricsCollect,.serviceMonitorCollect]

/-- The table of collect_k8s_metrics. -/
def collectK8sMetrics : LoopBody where
  everySecond := gatherPeakK8sMetrics
  fiveSecond := [.cGroupIOStats]
  slow := gatherSlowK8sMetrics
  sixtySecond := [.perfMetricsCollect,.gpuMetricsCollect,.serviceMonitorCollect]

/-- AGENT_FLAVOR. -/
inductive Flavor
  | system
  | titus
  | k8s
  deriving DecidableEq

/-- The loop that the build of a flavor runs. -/
def loopBody : Flavor → LoopBody
  | .system => collectSystemMetrics
  | .titus => collectTitusMetrics
  | .k8s => collectK8sMetrics

/-- The three deadlines kept by the loop. -/
structure LoopState where
  /-- next_run, which only sets how long the loop sleeps. -/
  nextRun : ℤ
  /-- next_sixty_second_run. -/
  nextSixtySecondRun : ℤ
  /-- next_five_second_run. -/
  nextFiveSecondRun : ℤ
  deriving DecidableEq

/-- The deadlines set from the reading taken before the loop. -/
def LoopState.init (now : ℤ) : LoopState := ⟨now,now+seconds 60,now+seconds 5⟩

/-- The two readings of one iteration that decide anything. -/
structure Clock where
  /-- system_clock::now() at the top of the body. -/
  start : ℤ
  /-- system_clock::now() from which time_to_sleep is computed. -/
  finish : ℤ
  deriving DecidableEq

/-- What one iteration did. -/
structure IterationRecord where
  /-- The reading that decided the flags. -/
  start : ℤ
  /-- fiveSecondMetricsEnabled of the iteration. -/
  fiveSecondMetricsEnabled : Bool
  /-- sixtySecondMetricsEnabled of the iteration. -/
  sixtySecondMetricsEnabled : Bool
  /-- Every collector call, in order. -/
  calls : List CollectorCall
  /-- time_to_sleep passed to wait_for at the end. -/
  timeToSleep : ℤ
  deriving DecidableEq

/-- The record of one iteration of the do-while body. -/
def iterationRecord (body : LoopBody) (s : LoopState) (clock : Clock) : IterationRecord :=
  let fiveSecondMetricsEnabled := decide (s.nextFiveSecondRun ≤ clock.start)
  let sixtySecondMetricsEnabled := decide (s.nextSixtySecondRun ≤ clock.start)
  { start := clock.start
    fiveSecondMetricsEnabled
    sixtySecondMetricsEnabled
    calls := body.everySecond fiveSecondMetricsEnabled sixtySecondMetricsEnabled++
      (if fiveSecondMetricsEnabled then body.fiveSecond else [])++
      (if sixtySecondMetricsEnabled then body.slow++body.sixtySecond else [])
    timeToSleep := s.nextRun+seconds 1-clock.finish }

/-- The deadlines after one iteration. A deadline moves on by one step only,
however far behind it is. -/
def nextDeadlines (s : LoopState) (clock : Clock) : LoopState where
  nextRun := s.nextRun+seconds 1
  nextSixtySecondRun :=
    if s.nextSixtySecondRun ≤ clock.start then s.nextSixtySecondRun+seconds 60
    else s.nextSixtySecondRun
  nextFiveSecondRun :=
    if s.nextFiveSecondRun ≤ clock.start then s.nextFiveSecondRun+seconds 5
    else s.nextFiveSecondRun

/-- One iteration of the loop. -/
def iteration (body : LoopBody) (s : LoopState) (clock : Clock) :
    LoopState×List IterationRecord :=
  (nextDeadlines s clock,[iterationRecord body s clock])

/-- Every iteration of a loop entered at the reading now. -/
def loopRecords (body : LoopBody) (now : ℤ) (clocks : List Clock) : List IterationRecord :=
  runOutput (iteration body) (LoopState.init now) clocks

/-- Five-second collections among the iterations. -/
def fiveSecondRuns (records : List IterationRecord) : ℕ :=
  records.countP (·.fiveSecondMetricsEnabled)

/-- Sixty-second collections among the iterations. -/
def sixtySecondRuns (records : List IterationRecord) : ℕ :=
  records.countP (·.sixtySecondMetricsEnabled)

/-- Both catch-up deadlines move as periodic deadlines do. -/
theorem nextDeadlines_eq_advance (s : LoopState) (clock : Clock) :
    nextDeadlines s clock=⟨s.nextRun+seconds 1,
      advance (seconds 60) s.nextSixtySecondRun clock.start,
      advance (seconds 5) s.nextFiveSecondRun clock.start⟩ := rfl

/-- The five-second deadline is aligned with the sixty-second one. -/
def LoopAligned (s : LoopState) : Prop :=
  Aligned (seconds 5) s.nextFiveSecondRun s.nextSixtySecondRun

/-- The deadlines set before the loop are aligned: 55 s separate them. -/
theorem loopAligned_init (now : ℤ) : LoopAligned (LoopState.init now) := by
  refine ⟨?_,⟨11,?_⟩⟩
  · simp only [LoopState.init,seconds]
    omega
  · simp only [LoopState.init,seconds]
    ring

/-- Every iteration keeps the deadlines aligned, for every reading. -/
theorem loopAligned_step (s : LoopState) (clock : Clock) (h : LoopAligned s) :
    LoopAligned (nextDeadlines s clock) := by
  have hs : seconds 60=((12 : ℕ) : ℤ)*seconds 5 := by
    simp only [seconds]
    norm_num
  rw [nextDeadlines_eq_advance,LoopAligned,hs]
  exact Aligned.advance (by simp only [seconds]; norm_num) (by norm_num) h clock.start

/-- The deadlines stay aligned over every run of every flavor. -/
theorem loopAligned_run (body : LoopBody) (now : ℤ) (clocks : List Clock) :
    LoopAligned (runState (iteration body) (LoopState.init now) clocks) :=
  invariant_every_run LoopAligned (fun s clock h => loopAligned_step s clock h)
    (loopAligned_init now) clocks

/-- Each deadline is its first value plus one period for every collection it
has admitted, so it counts the collections of the run. -/
theorem deadlines_count (body : LoopBody) (now : ℤ) (clocks : List Clock) :
    (runState (iteration body) (LoopState.init now) clocks).nextFiveSecondRun=
        now+seconds (5*(fiveSecondRuns (loopRecords body now clocks)+1)) ∧
      (runState (iteration body) (LoopState.init now) clocks).nextSixtySecondRun=
        now+seconds (60*(sixtySecondRuns (loopRecords body now clocks)+1)) := by
  induction clocks using List.reverseRecOn with
  | nil => simp [loopRecords,fiveSecondRuns,sixtySecondRuns,LoopState.init]
  | append_singleton clocks clock ih =>
    obtain ⟨hfive,hsixty⟩ := ih
    have hrecords : loopRecords body now (clocks++[clock])=loopRecords body now clocks++
        [iterationRecord body (runState (iteration body) (LoopState.init now) clocks) clock] :=
      runOutput_concat clocks clock
    rw [runState_concat,hrecords]
    generalize runState (iteration body) (LoopState.init now) clocks=s at hfive hsixty ⊢
    simp only [fiveSecondRuns,sixtySecondRuns] at hfive hsixty ⊢
    simp only [iteration,nextDeadlines,List.countP_append,List.countP_singleton,iterationRecord,
      decide_eq_true_eq]
    constructor
    · split <;> rw [hfive] <;> simp only [seconds] <;> push_cast <;> ring
    · split <;> rw [hsixty] <;> simp only [seconds] <;> push_cast <;> ring

/-- The flags under which an iteration may call CpuStats: the entry point
called every second, with the five-second and the sixty-second flag. -/
def CpuStatsCalled (calls : List CollectorCall) (five sixty : Bool) : Prop :=
  .procCpuStats five sixty∈calls ∨ .cGroupCpuStats five sixty∈calls

/-- Every flavor calls CpuStats with the flags of the iteration and no others. -/
theorem cpuStatsCalled_iff (flavor : Flavor) (s : LoopState) (clock : Clock) (five sixty : Bool) :
    CpuStatsCalled (iterationRecord (loopBody flavor) s clock).calls five sixty ↔
      five=(iterationRecord (loopBody flavor) s clock).fiveSecondMetricsEnabled ∧
      sixty=(iterationRecord (loopBody flavor) s clock).sixtySecondMetricsEnabled := by
  simp only [CpuStatsCalled,iterationRecord]
  generalize decide (s.nextFiveSecondRun ≤ clock.start)=enabledFive
  generalize decide (s.nextSixtySecondRun ≤ clock.start)=enabledSixty
  cases flavor <;> cases enabledFive <;> cases enabledSixty <;>
    simp [loopBody,collectSystemMetrics,collectTitusMetrics,collectK8sMetrics,
      gatherPeakSystemMetrics,gatherPeakTitusMetrics,gatherPeakK8sMetrics,gatherScalingMetrics,
      gatherSlowSystemMetrics,gatherSlowTitusMetrics,gatherSlowK8sMetrics]

/-- What the loop promises about one iteration, given the earlier ones. -/
structure OnSchedule (now : ℤ) (earlier : List IterationRecord) (r : IterationRecord) : Prop where
  /-- A sixty-second iteration is a five-second iteration. -/
  five_of_sixty : r.sixtySecondMetricsEnabled=true → r.fiveSecondMetricsEnabled=true
  /-- CpuStats is never asked for its minute work without its five-second work. -/
  cpuStats : ∀ five,CpuStatsCalled r.calls five true → five=true
  /-- The next five-second collection is not early. -/
  five_due : r.fiveSecondMetricsEnabled=true →
    now+seconds (5*(fiveSecondRuns earlier+1)) ≤ r.start
  /-- The next sixty-second collection is not early. -/
  sixty_due : r.sixtySecondMetricsEnabled=true →
    now+seconds (60*(sixtySecondRuns earlier+1)) ≤ r.start

/-- Every iteration of the run is on schedule. -/
def TicksOnSchedule (now : ℤ) (records : List IterationRecord) : Prop :=
  ∀ earlier r later,records=earlier++r::later → OnSchedule now earlier r

/-- For every flavor, every reading before the loop and every sequence of
readings in it, a sixty-second iteration is also a five-second iteration and
no collection runs before the time its number in the run gives it. -/
theorem loop_ticksOnSchedule (flavor : Flavor) (now : ℤ) (clocks : List Clock) :
    TicksOnSchedule now (loopRecords (loopBody flavor) now clocks) := by
  intro earlier r later hsplit
  obtain ⟨before,clock,after,-,rfl,rfl⟩ := split_runOutput
    (iterationRecord (loopBody flavor)) (fun _ _ => rfl) hsplit
  have hcount := deadlines_count (loopBody flavor) now before
  have haligned := loopAligned_run (loopBody flavor) now before
  rw [loopRecords] at hcount
  generalize runState (iteration (loopBody flavor)) (LoopState.init now) before=s
    at hcount haligned ⊢
  obtain ⟨hfive,hsixty⟩ := hcount
  have hsixtyFive : (iterationRecord (loopBody flavor) s clock).sixtySecondMetricsEnabled=true →
      (iterationRecord (loopBody flavor) s clock).fiveSecondMetricsEnabled=true := by
    simp only [iterationRecord,decide_eq_true_eq]
    exact haligned.due
  refine ⟨hsixtyFive,fun five hcalled => ?_,fun h => ?_,fun h => ?_⟩
  · obtain ⟨rfl,hsixtyFlag⟩ := (cpuStatsCalled_iff flavor s clock five true).mp hcalled
    exact hsixtyFive hsixtyFlag.symm
  · rw [←hfive]
    exact of_decide_eq_true h
  · rw [←hsixty]
    exact of_decide_eq_true h

end AtlasAgent.CollectorLoop
