import AtlasAgent.CollectorLoop

/-!
# Stopping a collector loop

The signal handler calls terminator::kill and the loop asks wait_for after
every iteration. Here the loop is a machine over its program points and a
kill may land at any of them, so a run is one interleaving of the two. What
the loop does after a kill depends on where the kill lands and on how far the
iteration that follows has fallen behind: a wait for no time at all answers
without reading the flag, and two points start a gather without asking.
-/

namespace AtlasAgent.Terminator

open RunHistory CollectorLoop

/-- terminator::wait_for, which returns false if killed. The flag is the one
read under the lock when the wait is over; a duration that is not positive
returns before the lock is taken. -/
def waitFor (time : ℤ) (terminate : Bool) : Bool :=
  if time≤0 then true else !terminate

/-- Where the collector function is. -/
inductive Phase
  /-- Before or in the initial polling delay, of this many seconds. -/
  | initialDelay (delay : ℤ)
  /-- In the slow gather that precedes the loop. -/
  | initialGather
  /-- In the body of an iteration. -/
  | gathering
  /-- In, or about to enter, the wait that ends an iteration. -/
  | waiting (timeToSleep : ℤ)
  /-- The loop has returned. -/
  | exited
  deriving DecidableEq

/-- The collector function and the terminator it shares with the handler. -/
structure AgentState where
  /-- Deadlines of the loop; set when the loop is entered. -/
  loop : LoopState
  /-- Program point of the collector function. -/
  phase : Phase
  /-- terminator::terminate. -/
  terminate : Bool
  deriving DecidableEq

/-- The state in which a collector function is called. -/
def AgentState.start (delay : ℤ) : AgentState :=
  { loop := LoopState.init 0, phase := .initialDelay delay, terminate := false }

/-- One action: the signal handler completes kill, or the collector function
goes on to its next program point, reading the clock as it does. -/
inductive AgentAction
  | kill
  | proceed (clock : Clock)
  deriving DecidableEq

/-- What can be seen of the collector function. -/
inductive AgentEvent
  /-- A gather begins: the initial one or that of an iteration. -/
  | gatherStarted
  /-- The gather in progress is complete. -/
  | gathered (calls : List CollectorCall)
  /-- The loop has returned. -/
  | exited
  deriving DecidableEq

/-- The collector function from one program point to the next. -/
def proceed (body : LoopBody) (s : AgentState) (clock : Clock) : AgentState×List AgentEvent :=
  match s.phase with
  | .initialDelay _ =>
    -- the result of wait_for is discarded, and no wait happens at delay zero
    ({ s with phase := .initialGather },[.gatherStarted])
  | .initialGather =>
    -- do-while: the first iteration starts without a wait
    ({ s with loop := LoopState.init clock.start, phase := .gathering },
      [.gathered body.slow,.gatherStarted])
  | .gathering =>
    let record := iterationRecord body s.loop clock
    ({ s with loop := nextDeadlines s.loop clock, phase := .waiting record.timeToSleep },
      [.gathered record.calls])
  | .waiting timeToSleep =>
    if waitFor timeToSleep s.terminate then ({ s with phase := .gathering },[.gatherStarted])
    else ({ s with phase := .exited },[.exited])
  | .exited => (s,[])

/-- One action of a run. -/
def agentStep (body : LoopBody) (s : AgentState) : AgentAction → AgentState×List AgentEvent
  | .kill => ({ s with terminate := true },[])
  | .proceed clock => proceed body s clock

/-- After kill has completed no gather starts, whatever happened before it
and whatever happens between it and the action in question. -/
def NoGatherAfterKill (body : LoopBody) (delay : ℤ) (actions : List AgentAction) : Prop :=
  ∀ before between action after,actions=before++.kill::between++action::after →
    .gatherStarted∉
      outputAfter (agentStep body) (AgentState.start delay) (before++.kill::between) action

/-- A killed collector function is not about to start a gather unasked: it is
past both initial points, and a wait it has reached has time to sleep. -/
def KillHeeded (s : AgentState) : AgentAction → Prop
  | .kill => True
  | .proceed _ => s.terminate=true →
    match s.phase with
    | .initialDelay _ => False
    | .initialGather => False
    | .gathering => True
    | .waiting timeToSleep => 0<timeToSleep
    | .exited => True

/-- An action keeps the flag set; only kill sets it. -/
theorem agentStep_terminate (body : LoopBody) (s : AgentState) (action : AgentAction) :
    (agentStep body s action).1.terminate=true ↔ s.terminate=true ∨ action=.kill := by
  cases action with
  | kill => simp [agentStep]
  | proceed clock =>
    simp only [agentStep,proceed,reduceCtorEq,or_false]
    cases s.phase with
    | waiting timeToSleep => dsimp only; split <;> exact Iff.rfl
    | _ => exact Iff.rfl

/-- The flag after a run says whether kill has completed in it. -/
theorem terminate_run (body : LoopBody) (delay : ℤ) (actions : List AgentAction) :
    (runState (agentStep body) (AgentState.start delay) actions).terminate=true ↔
      .kill∈actions := by
  induction actions using List.reverseRecOn with
  | nil => simp [AgentState.start]
  | append_singleton actions action ih =>
    rw [runState_concat,agentStep_terminate,ih,List.mem_append,List.mem_singleton]
    exact or_congr_right eq_comm

/-- One action of a killed collector function starts no gather exactly when
the kill is heeded at that program point. -/
theorem gatherStarted_step_iff (body : LoopBody) (s : AgentState) (action : AgentAction) :
    KillHeeded s action ↔
      (s.terminate=true → .gatherStarted∉(agentStep body s action).2) := by
  cases action with
  | kill => simp [KillHeeded,agentStep]
  | proceed clock =>
    refine imp_congr_right fun hkilled => ?_
    simp only [agentStep,proceed]
    cases s.phase with
    | initialDelay delay => simp
    | initialGather => simp
    | gathering => simp
    | waiting timeToSleep =>
      simp only [waitFor,hkilled,Bool.not_true]
      by_cases h : timeToSleep≤0
      · simp [h]
      · simp [h,not_le.mp h]
    | exited => simp

/-- A run starts no gather after kill exactly when every action taken by the
killed collector function finds it past the initial points and, at a wait,
with a positive time to sleep. -/
theorem noGatherAfterKill_iff (flavor : Flavor) (delay : ℤ) (actions : List AgentAction) :
    NoGatherAfterKill (loopBody flavor) delay actions ↔
      Meets (agentStep (loopBody flavor)) KillHeeded (AgentState.start delay) actions := by
  rw [meets_iff]
  constructor
  · intro h before action after hsplit
    rw [gatherStarted_step_iff (loopBody flavor),terminate_run]
    intro hkill
    obtain ⟨first,between,rfl⟩ := List.append_of_mem hkill
    exact h first between action after hsplit
  · intro h before between action after hsplit
    have hstep := h (before++.kill::between) action after hsplit
    rw [gatherStarted_step_iff (loopBody flavor),terminate_run] at hstep
    exact hstep (by simp)

/-- A kill that lands in the gather of an iteration which overruns its second
by two more seconds: the next wait is for no time and the loop goes on. -/
theorem late_iteration_ignores_kill :
    ¬NoGatherAfterKill (loopBody .system) 0
      [.proceed ⟨0,0⟩,.proceed ⟨0,0⟩,.kill,.proceed ⟨0,seconds 3⟩,.proceed ⟨0,0⟩] := by
  intro h
  exact h [.proceed ⟨0,0⟩,.proceed ⟨0,0⟩] [.proceed ⟨0,seconds 3⟩] (.proceed ⟨0,0⟩) [] rfl
    (by decide)

end AtlasAgent.Terminator
