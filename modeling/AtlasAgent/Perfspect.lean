import AtlasAgent.RunHistory
import AtlasAgent.TextFields
import Mathlib.Algebra.Order.Field.Rat
import Mathlib.Data.List.Induction

/-!
# Perfspect::GatherMetrics and the process it reads

GatherMetrics keeps a PerfSpect process running and reads its output without
blocking. The process, its output pipe and the buffer of the asynchronous read
are created and dropped together and form one session; what the process writes,
the end of its stream and its exit are events between the calls. The text that
has been written and not yet extracted is one list, whether it is still in the
pipe or already in the buffer. Floats and their parsing are parameters, and
logging is left out.
-/

namespace AtlasAgent.Perfspect

open RunHistory TextFields

/-- A failed boost::system::error_code of an asynchronous read. -/
inductive StreamError
  | eof
  | other (value : ℕ)
  deriving DecidableEq

/-- A process with the objects that read its output: scriptProcess, ioContext,
asyncPipe and buffer. -/
structure Session where
  /-- The process has exited; running() is the negation. -/
  exited : Bool
  /-- What the process has written and no getline has extracted. -/
  unread : List Char
  /-- The stream has ended or failed after that text. -/
  ended : Option StreamError
  /-- An async_read_until is outstanding. -/
  readPending : Bool
  deriving DecidableEq

/-- A session as StartScript creates it. -/
def Session.start : Session := ⟨false,[],none,true⟩

/-- The members of Perfspect that change. -/
structure PerfspectState where
  /-- firstIteration. -/
  firstIteration : Bool
  /-- The four pointers, null together. -/
  session : Option Session
  /-- pendingLine. -/
  pendingLine : Token
  /-- lastAsyncError; none is success. -/
  lastAsyncError : Option StreamError
  deriving DecidableEq

/-- A constructed Perfspect. -/
def PerfspectState.init : PerfspectState := ⟨true,none,[],none⟩

/-- What terminate and wait report for a running process. -/
inductive Termination
  | terminated
  | terminateFails
  | waitFails
  deriving DecidableEq

/-- What StartScript meets. -/
structure StartOutcome where
  /-- The termination of the old process, if it is running. -/
  termination : Termination
  /-- The new child process is created; otherwise the constructor throws. -/
  created : Bool
  deriving DecidableEq

/-- The members after the resets of CleanupProcess. lastAsyncError is not
among them. -/
def resetMembers (s : PerfspectState) : PerfspectState :=
  { s with session := none,pendingLine := [],firstIteration := true }

/-- Perfspect::CleanupProcess. -/
def cleanupProcess (s : PerfspectState) (termination : Termination) : PerfspectState×Bool :=
  match s.session with
  | none => (resetMembers s,true)
  | some session =>
    if session.exited then (resetMembers s,true)
    else match termination with
      | .terminated => (resetMembers s,true)
      | .terminateFails => (s,false)
      | .waitFails => ({ s with session := some { session with exited := true } },false)

/-- Perfspect::StartScript. An exception while the process is created leads to
a second cleanup, which finds no process. -/
def startScript (s : PerfspectState) (start : StartOutcome) : PerfspectState×Bool :=
  let cleaned := cleanupProcess s start.termination
  if cleaned.2 then
    if start.created then ({ cleaned.1 with session := some .start },true)
    else ((cleanupProcess cleaned.1 start.termination).1,false)
  else cleaned

/-- The lines of a text that a line break completes, and the rest. -/
def cutLines : List Char → List Token×List Char
  | [] => ([],[])
  | c::text =>
    if c = '\n' then ([]::(cutLines text).1,(cutLines text).2)
    else match (cutLines text).1 with
      | [] => ([],c::(cutLines text).2)
      | line::lines => ((c::line)::lines,(cutLines text).2)

/-- Perfspect::ExtractLine for a completed read of one line. The first line of
a session is the header. -/
def extractLine (s : PerfspectState) (line : Token) : PerfspectState :=
  if s.firstIteration then { s with lastAsyncError := none,firstIteration := false }
  else { s with lastAsyncError := none,pendingLine := line }

/-- ioContext->poll(). Every handler starts the next read, so all complete lines
are extracted; then a failed stream completes the outstanding read with its
error, and no further read is started. -/
def poll (s : PerfspectState) : PerfspectState :=
  match s.session with
  | none => s
  | some session =>
    if session.readPending then
      let lines := cutLines session.unread
      let extracted := lines.1.foldl extractLine s
      match session.ended with
      | none => { extracted with session := some { session with unread := lines.2 } }
      | some error =>
        { extracted with
          lastAsyncError := some error
          session := some { session with unread := lines.2,readPending := false } }
    else s

/-- ReadResult. -/
structure ReadResult where
  data : Option Token
  error : Option StreamError
  deriving DecidableEq

/-- Perfspect::ReadOutput. The line is moved out of pendingLine. -/
def readOutput (s : PerfspectState) : PerfspectState×ReadResult :=
  let polled := poll s
  if polled.lastAsyncError.isSome ∨ polled.pendingLine=[] then
    (polled,⟨none,polled.lastAsyncError⟩)
  else ({ polled with pendingLine := [] },⟨some polled.pendingLine,polled.lastAsyncError⟩)

/-- PerfspectData. -/
structure PerfspectData (F : Type) where
  cpuFrequency : F
  cyclesPerSecond : F
  instructionsPerSecond : F
  l2CacheMissesPerSecond : F
  deriving DecidableEq

/-- What GatherMetrics does. -/
inductive PerfspectOutput (F : Type)
  /-- StartScript is called. -/
  | startScript
  /-- ReadOutput returns this error. -/
  | readOutput (error : Option StreamError)
  /-- ParsePerfspectLine is called. -/
  | parse (line : Token)
  /-- The gauge is set and the three counters are incremented. -/
  | sendMetrics (frequency cycles instructions l2CacheMisses : F)
  deriving DecidableEq

/-- The events of a run: calls of GatherMetrics, and what the process does. -/
inductive PerfspectEvent
  | gatherMetrics (start : StartOutcome)
  | output (text : List Char)
  | streamFails (error : StreamError)
  | exit
  deriving DecidableEq

/-- A change of the session, if there is one. -/
def onSession (s : PerfspectState) (change : Session → Session) : PerfspectState :=
  { s with session := s.session.map change }

section Floats

variable {F : Type} [Mul F] [NatCast F] (fromCharsFloat : Token → Option F)

/-- ParsePerfspectLine. -/
def parsePerfspectLine (line : Token) : Option (PerfspectData F) :=
  let parts := line.splitOn ','
  if parts.length≠8 then none
  else do
    let cpuFrequency ← fromCharsFloat (parts.getD 4 [])
    let cyclesPerSecond ← fromCharsFloat (parts.getD 5 [])
    let instructionsPerSecond ← fromCharsFloat (parts.getD 6 [])
    let l2CacheMissesPerSecond ← fromCharsFloat (parts.getD 7 [])
    return ⟨cpuFrequency,cyclesPerSecond,instructionsPerSecond,l2CacheMissesPerSecond⟩

/-- Perfspect::SendMetrics. The counters are given five seconds' worth. -/
def sendMetrics (data : PerfspectData F) : PerfspectOutput F :=
  .sendMetrics data.cpuFrequency (data.cyclesPerSecond*(5 : ℕ))
    (data.instructionsPerSecond*(5 : ℕ)) (data.l2CacheMissesPerSecond*(5 : ℕ))

/-- The part of GatherMetrics after a process has been found running. -/
def gatherRunning (s : PerfspectState) (start : StartOutcome) :
    PerfspectState×Bool×List (PerfspectOutput F) :=
  let read := readOutput s
  match read.2.error with
  | some error =>
    ((startScript read.1 start).1,false,[.readOutput (some error),.startScript])
  | none =>
    match read.2.data with
    | none => (read.1,true,[.readOutput none])
    | some line =>
      match parsePerfspectLine fromCharsFloat line with
      | none => (read.1,false,[.readOutput none,.parse line])
      | some data => (read.1,true,[.readOutput none,.parse line,sendMetrics data])

/-- The process is running. -/
def running (s : PerfspectState) : Bool := s.session.any fun session => !session.exited

/-- Perfspect::GatherMetrics with its result. -/
def gatherMetrics (s : PerfspectState) (start : StartOutcome) :
    PerfspectState×Bool×List (PerfspectOutput F) :=
  if running s then gatherRunning fromCharsFloat s start
  else ((startScript s start).1,true,[.startScript])

/-- One event. A stream that has ended brings no more text. -/
def perfspectStep (s : PerfspectState) :
    PerfspectEvent → PerfspectState×List (PerfspectOutput F)
  | .gatherMetrics start =>
    let gathered := gatherMetrics fromCharsFloat s start
    (gathered.1,gathered.2.2)
  | .output text =>
    (onSession s fun session =>
      if session.ended.isSome then session else { session with unread := session.unread++text },[])
  | .streamFails error =>
    (onSession s fun session =>
      if session.ended.isSome then session else { session with ended := some error },[])
  | .exit => (onSession s fun session => { session with exited := true },[])

/-- A call that finds a running process terminates it, or is told of a read
error, only when the process's own stream has ended or failed. -/
def OwnFailure (s : PerfspectState) : PerfspectEvent → Prop
  | .gatherMetrics start => ∀ session,s.session=some session → session.exited=false →
      (.startScript∈(gatherMetrics fromCharsFloat s start).2.2 ∨
        ∃ error,.readOutput (some error)∈(gatherMetrics fromCharsFloat s start).2.2) →
      session.ended.isSome
  | _ => True

/-- Every call of a run does. -/
def RestartContract (events : List PerfspectEvent) : Prop :=
  ∀ before event after,events=before++event::after →
    OwnFailure fromCharsFloat (runState (perfspectStep fromCharsFloat) .init before) event

end Floats

/-- A call that finds a recorded error, and a running process whose stream has
not failed, finds a complete line as well. -/
def LineArrived (s : PerfspectState) : PerfspectEvent → Prop
  | .gatherMetrics _ => ∀ session,s.session=some session → session.exited=false →
      session.ended=none → s.lastAsyncError.isSome → '\n' ∈ session.unread
  | _ => True

/-- A text completes a line exactly when it contains a line break. -/
theorem cutLines_eq_nil_iff (text : List Char) : (cutLines text).1=[] ↔ '\n' ∉ text := by
  induction text with
  | nil => simp [cutLines]
  | cons c text ih =>
    rw [cutLines,List.mem_cons,not_or,@eq_comm _ '\n',←ih]
    split
    · next h => simp [h]
    · next h =>
      rw [and_iff_right h]
      split <;> simp [*]

/-- Extracting a line clears the recorded error. -/
theorem extractLine_error (s : PerfspectState) (line : Token) :
    (extractLine s line).lastAsyncError=none := by
  rw [extractLine]
  split <;> rfl

/-- The recorded error survives only where no line is extracted. -/
theorem foldl_extractLine_error (s : PerfspectState) (lines : List Token) :
    (lines.foldl extractLine s).lastAsyncError=if lines=[] then s.lastAsyncError else none := by
  induction lines using List.reverseRecOn with
  | nil => rfl
  | append_singleton lines line =>
    rw [List.foldl_append,List.foldl_cons,List.foldl_nil,extractLine_error,if_neg (by simp)]

/-- A read is outstanding as long as the stream has not failed. -/
def ReadOutstanding (s : PerfspectState) : Prop :=
  ∀ session,s.session=some session → session.ended=none → session.readPending=true

/-- A poll of a stream that has not failed clears the recorded error if there is
a complete line, and keeps it if there is none. -/
theorem poll_error {s : PerfspectState} {session : Session} (h : ReadOutstanding s)
    (hs : s.session=some session) (hended : session.ended=none) :
    (poll s).lastAsyncError=if '\n' ∈ session.unread then none else s.lastAsyncError := by
  rw [poll,hs]
  dsimp only
  rw [if_pos (h session hs hended),hended]
  dsimp only
  rw [foldl_extractLine_error]
  simp only [cutLines_eq_nil_iff,ite_not]

/-- ReadOutput returns the error recorded after the poll. -/
theorem readOutput_error (s : PerfspectState) :
    (readOutput s).2.error=(poll s).lastAsyncError := by
  rw [readOutput]
  split <;> rfl

/-- A poll leaves a read outstanding unless the stream has failed. -/
theorem readOutstanding_poll {s : PerfspectState} (h : ReadOutstanding s) :
    ReadOutstanding (poll s) := by
  rw [poll]
  split
  · exact h
  · next session hs =>
    split
    · next hpending =>
      cases hended : session.ended with
      | none =>
        rintro _ ⟨rfl⟩ _
        exact hpending
      | some error =>
        rintro _ ⟨rfl⟩ hnone
        cases hnone
    · exact h

/-- ReadOutput leaves a read outstanding unless the stream has failed. -/
theorem readOutstanding_readOutput {s : PerfspectState} (h : ReadOutstanding s) :
    ReadOutstanding (readOutput s).1 := by
  have hpoll := readOutstanding_poll h
  rw [readOutput]
  split <;> exact hpoll

/-- So does CleanupProcess, whatever it achieves. -/
theorem readOutstanding_cleanupProcess {s : PerfspectState} (h : ReadOutstanding s)
    (termination : Termination) : ReadOutstanding (cleanupProcess s termination).1 := by
  have hreset : ReadOutstanding (resetMembers s) := fun session hs => by cases hs
  rw [cleanupProcess]
  split
  · exact hreset
  · next session hs =>
    split
    · exact hreset
    · cases termination with
      | terminated => exact hreset
      | terminateFails => exact h
      | waitFails =>
        rintro _ ⟨rfl⟩ hended
        exact h session hs hended

/-- A started session has its first read outstanding. -/
theorem readOutstanding_startScript {s : PerfspectState} (h : ReadOutstanding s)
    (start : StartOutcome) : ReadOutstanding (startScript s start).1 := by
  have hcleaned := readOutstanding_cleanupProcess h start.termination
  rw [startScript]
  dsimp only
  split
  · split
    · rintro _ ⟨rfl⟩ _
      rfl
    · exact readOutstanding_cleanupProcess hcleaned start.termination
  · exact hcleaned

/-- A change of the session that keeps what has been read, and ends a stream at
most, leaves a read outstanding. -/
theorem readOutstanding_onSession {s : PerfspectState} (h : ReadOutstanding s)
    {change : Session → Session}
    (hchange : ∀ session,(change session).ended=none →
      session.ended=none ∧ (change session).readPending=session.readPending) :
    ReadOutstanding (onSession s change) := by
  intro session hs hended
  obtain ⟨before,hbefore,rfl⟩ := Option.map_eq_some_iff.mp hs
  obtain ⟨hnone,hpending⟩ := hchange before hended
  rw [hpending]
  exact h before hbefore hnone

section Floats

variable {F : Type} [Mul F] [NatCast F] (fromCharsFloat : Token → Option F)

/-- Every event leaves a read outstanding unless the stream has failed. -/
theorem readOutstanding_step {s : PerfspectState} (h : ReadOutstanding s)
    (event : PerfspectEvent) : ReadOutstanding (perfspectStep fromCharsFloat s event).1 := by
  cases event with
  | gatherMetrics start =>
    have hread := readOutstanding_readOutput h
    rw [perfspectStep,gatherMetrics]
    dsimp only
    split
    · rw [gatherRunning]
      split
      · exact readOutstanding_startScript hread start
      · split
        · exact hread
        · split <;> exact hread
    · exact readOutstanding_startScript h start
  | output text =>
    refine readOutstanding_onSession h fun session hended => ?_
    split at hended
    · next hfailed => exact ⟨hended,by rw [if_pos hfailed]⟩
    · next hfailed => exact ⟨hended,by rw [if_neg hfailed]⟩
  | streamFails error =>
    refine readOutstanding_onSession h fun session hended => ?_
    split at hended
    · next hfailed => exact ⟨hended,by rw [if_pos hfailed]⟩
    · cases hended
  | exit => exact readOutstanding_onSession h fun session hended => ⟨hended,rfl⟩

/-- A call with a running process terminates it, or is told of an error, exactly
when an error is recorded after the poll. -/
theorem failure_gatherRunning_iff (s : PerfspectState) (start : StartOutcome) :
    (.startScript∈(gatherRunning fromCharsFloat s start).2.2 ∨
        ∃ error,.readOutput (some error)∈(gatherRunning fromCharsFloat s start).2.2) ↔
      (poll s).lastAsyncError.isSome := by
  rw [←readOutput_error,gatherRunning]
  split
  · next error herror => simp [herror]
  · next herror =>
    rw [herror]
    split
    · simp
    · split <;> simp [sendMetrics]

/-- A call fails only through its own stream exactly when it finds a complete
line wherever it finds an earlier error. -/
theorem ownFailure_iff {s : PerfspectState} (h : ReadOutstanding s) (event : PerfspectEvent) :
    OwnFailure fromCharsFloat s event ↔ LineArrived s event := by
  cases event with
  | gatherMetrics start =>
    rw [OwnFailure,LineArrived]
    refine forall_congr' fun session => forall_congr' fun hs => forall_congr' fun hexited => ?_
    have hrunning : running s=true := by rw [running,hs,Option.any_some,hexited]; rfl
    rw [gatherMetrics,if_pos hrunning,failure_gatherRunning_iff]
    cases hended : session.ended with
    | some error => simp
    | none =>
      rw [poll_error h hs hended]
      by_cases hline : '\n' ∈ session.unread <;> simp [hline]
  | output text => exact Iff.rfl
  | streamFails error => exact Iff.rfl
  | exit => exact Iff.rfl

/-- In a run every process is terminated only through its own exit or stream
exactly when each call that finds an earlier error finds a complete line too. -/
theorem restartContract_iff (events : List PerfspectEvent) :
    RestartContract fromCharsFloat events ↔
      Meets (perfspectStep fromCharsFloat) LineArrived .init events := by
  rw [RestartContract,←meets_iff]
  exact meets_iff_of_invariant (fun s event h => ownFailure_iff fromCharsFloat h event)
    (fun s event h _ => readOutstanding_step fromCharsFloat h event)
    (fun session hs => by cases hs)

end Floats

/-- The stream of the first process ends, the second process is started in its
place, and the next call comes before the first output of the second process. -/
def slowRestart : List PerfspectEvent :=
  [.gatherMetrics ⟨.terminated,true⟩,.streamFails .eof,.gatherMetrics ⟨.terminated,true⟩,
    .gatherMetrics ⟨.terminated,true⟩]

/-- The second process is terminated for the error of the first. -/
theorem slowRestart_terminates : ¬RestartContract (F:=ℚ) (fun _ => none) slowRestart := by
  intro h
  have hfailure := h [_,_,_] (.gatherMetrics ⟨.terminated,true⟩) [] rfl .start rfl rfl
    (Or.inl (by decide +kernel))
  cases hfailure

end AtlasAgent.Perfspect
