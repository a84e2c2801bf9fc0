import AtlasAgent.TextFields
import AtlasAgent.WhileLoop
import Mathlib.Data.List.Range
import Mathlib.Data.Nat.Find

/-!
# read_output_string

A command is run by a shell and what it writes is read from a pipe, with a
timeout for every piece. The bytes are handed over only at the end of the file;
a timeout kills the child, and the child is waited for in any case. What the
system calls return is input, one turn of the reading loop and one call of
waitpid after another; neither loop has to end. Logging is left out.
-/

namespace AtlasAgent.ReadOutput

open TextFields WhileLoop

/-- read_result_t. -/
inductive ReadResult
  | timeout
  | error
  | success
  deriving DecidableEq

/-- What a turn of the reading loop meets. -/
structure Turn where
  /-- What select returns. -/
  ready : ℤ
  /-- The bytes that read puts into the buffer; none for a negative number. -/
  read : Option Token

/-- The turn of the reading loop and its bytes so far. -/
structure ReadState where
  turn : ℕ
  result : Token

/-- One pass of the loop of read_with_timeout, with what output points to. -/
def readPass (turns : ℕ → Turn) (output : Token) (s : ReadState) :
    ReadState⊕(ReadResult×Token) :=
  let turn := turns s.turn
  if turn.ready<0 then .inr (.error,output)
  else if turn.ready=0 then .inr (.timeout,output)
  else
    match turn.read with
    | none => .inr (.error,output)
    | some [] => .inr (.success,s.result)
    | some (byte::bytes) => .inl ⟨s.turn+1,s.result++byte::bytes⟩

/-- What waitpid comes to. -/
inductive WaitResult
  | exited
  | interrupted
  | otherErrno
  deriving DecidableEq

/-- The descriptors of a pipe. -/
inductive PipeEnd
  | reading
  | writing
  deriving DecidableEq

/-- What the parent does to the pipe and to its child. -/
inductive Call
  /-- fork, with the arguments of the child's execve. -/
  | fork (pid : ℕ) (argp : List Token)
  | close (pipeEnd : PipeEnd)
  | kill (pid : ℕ)
  | waitpid (pid : ℕ) (result : WaitResult)
  deriving DecidableEq

/-- One pass of the loop around waitpid. -/
def waitPass (pid : ℕ) (waits : ℕ → WaitResult) (s : ℕ×List Call) :
    (ℕ×List Call)⊕List Call :=
  let calls := s.2++[.waitpid pid (waits s.1)]
  if waits s.1=.interrupted then .inl (s.1+1,calls) else .inr calls

/-- What the system calls of one run return. -/
structure System where
  /-- pipe does not fail. -/
  pipe : Bool
  /-- The child of fork; none when it fails. -/
  fork : Option ℕ
  turns : ℕ → Turn
  waits : ℕ → WaitResult

/-- What is returned, and what has been done on the way. -/
structure Output where
  text : Token
  calls : List Call
  deriving DecidableEq

/-- read_output_string, with a bound on the passes of either loop. -/
def readOutputString (fuel : ℕ) (cmd : Token) (system : System) : Option Output :=
  if system.pipe=false then some ⟨[],[]⟩
  else
    match system.fork with
    | none => some ⟨[],[.close .reading,.close .writing]⟩
    | some pid =>
      let argp := ["sh".toList,"-c".toList,cmd]
      (runLoop (readPass system.turns []) fuel ⟨0,[]⟩).bind fun res =>
        let killed := if res.1=.timeout then [.kill pid] else []
        (runLoop (waitPass pid system.waits) fuel
          (0,[.fork pid argp,.close .writing,.close .reading]++killed)).map (⟨res.2,·⟩)

/-- read_output_string returns. -/
def Returns (cmd : Token) (system : System) (output : Output) : Prop :=
  ∃ fuel,readOutputString fuel cmd system=some output

/-- read_output_lines, of what read_output_string returns. -/
def readOutputLines (output : Token) : List Token := strSplit '\n' output

/-- What a program is looked for in. -/
structure Environment where
  /-- std::getenv("PATH"). -/
  path : Option Token
  /-- The files for which access with X_OK succeeds. -/
  access : Token → Bool

/-- can_execute. -/
def canExecute (environment : Environment) (program : Token) : Bool :=
  if program.head?=some '/' then environment.access program
  else
    match environment.path with
    | none => false
    | some path => (path.splitOn ':').any fun dir => environment.access (dir++ '/'::program)

/-- How a turn ends the reading; none for a piece of the output. -/
def Turn.exit (turn : Turn) : Option ReadResult :=
  if turn.ready<0 then some .error
  else if turn.ready=0 then some .timeout
  else
    match turn.read with
    | none => some .error
    | some [] => some .success
    | some _ => none

/-- The first turn that ends the reading. -/
structure EndsAt (turns : ℕ → Turn) (n : ℕ) (res : ReadResult) : Prop where
  piece : ∀ i<n,(turns i).exit=none
  exit : (turns n).exit=some res

/-- All that has been read before a turn. -/
def bytesBefore (turns : ℕ → Turn) (n : ℕ) : Token :=
  (List.range n).flatMap fun i => (turns i).read.getD []

theorem bytesBefore_succ (turns : ℕ → Turn) (n : ℕ) :
    bytesBefore turns (n+1)=bytesBefore turns n++(turns n).read.getD [] := by
  rw [bytesBefore,List.range_succ,List.flatMap_append,List.flatMap_singleton,bytesBefore]

section Reading

variable {turns : ℕ → Turn} {output : Token} {s : ReadState}

/-- A piece is added to the bytes. -/
theorem readPass_piece (h : (turns s.turn).exit=none) :
    readPass turns output s=.inl ⟨s.turn+1,s.result++(turns s.turn).read.getD []⟩ := by
  rw [Turn.exit] at h
  rw [readPass]
  split at h
  · cases h
  split at h
  · cases h
  rename_i hfailed htimeout
  rw [if_neg hfailed,if_neg htimeout]
  cases hread : (turns s.turn).read with
  | none =>
    rw [hread] at h
    cases h
  | some bytes =>
    cases bytes with
    | nil =>
      rw [hread] at h
      cases h
    | cons byte bytes => rfl

/-- The bytes are handed over at the end of the file only. -/
theorem readPass_exit {res : ReadResult} (h : (turns s.turn).exit=some res) :
    readPass turns output s=.inr (res,if res=.success then s.result else output) := by
  rw [Turn.exit] at h
  rw [readPass]
  by_cases hfailed : (turns s.turn).ready<0
  · rw [if_pos hfailed] at h ⊢
    cases h
    rfl
  rw [if_neg hfailed] at h ⊢
  by_cases htimeout : (turns s.turn).ready=0
  · rw [if_pos htimeout] at h ⊢
    cases h
    rfl
  rw [if_neg htimeout] at h ⊢
  cases hread : (turns s.turn).read with
  | none =>
    rw [hread] at h
    cases h
    rfl
  | some bytes =>
    rw [hread] at h
    cases bytes with
    | nil =>
      cases h
      rfl
    | cons byte bytes => cases h

/-- The reading ends exactly when some turn ends it, with all the bytes before
that turn if it met the end of the file. -/
theorem ends_readPass_iff (turns : ℕ → Turn) (output : Token) (result : ReadResult×Token) :
    Ends (readPass turns output) ⟨0,[]⟩ result ↔ ∃ n,EndsAt turns n result.1 ∧
      result.2=if result.1=.success then bytesBefore turns n else output := by
  -- the loop is at the turn i with the bytes of the turns before it
  have hnext : ∀ i,((turns i).exit.map fun res =>
      (res,if res=.success then bytesBefore turns i else output))=none →
        readPass turns output ⟨i,bytesBefore turns i⟩=.inl ⟨i+1,bytesBefore turns (i+1)⟩ := by
    intro i hnone
    rw [readPass_piece (Option.map_eq_none_iff.mp hnone),bytesBefore_succ]
  have hstop : ∀ i found,((turns i).exit.map fun res =>
      (res,if res=.success then bytesBefore turns i else output))=some found →
        readPass turns output ⟨i,bytesBefore turns i⟩=.inr found := by
    intro i found hsome
    obtain ⟨res,hexit,rfl⟩ := Option.map_eq_some_iff.mp hsome
    exact readPass_exit hexit
  refine (ends_numbered_iff hnext hstop result).trans (exists_congr fun n => ?_)
  simp only [Option.map_eq_none_iff,Option.map_eq_some_iff]
  constructor
  · rintro ⟨hpieces,res,hexit,rfl⟩
    exact ⟨⟨hpieces,hexit⟩,rfl⟩
  · rintro ⟨⟨hpieces,hexit⟩,hresult⟩
    exact ⟨hpieces,result.1,hexit,Prod.ext rfl hresult.symm⟩

end Reading

/-- The child is waited for until a call of waitpid is not interrupted. -/
theorem ends_waitPass_iff (pid : ℕ) (waits : ℕ → WaitResult) (calls result : List Call) :
    Ends (waitPass pid waits) (0,calls) result ↔
      ∃ n,(∀ i<n,waits i=.interrupted) ∧ waits n≠.interrupted ∧
        result=calls++(List.range (n+1)).map fun i => .waitpid pid (waits i) := by
  have hcalls : ∀ i,(calls++(List.range i).map fun j => Call.waitpid pid (waits j))++
      [.waitpid pid (waits i)]=
        calls++(List.range (i+1)).map fun j => Call.waitpid pid (waits j) := by
    intro i
    rw [List.range_succ,List.map_append,List.append_assoc,List.map_singleton]
  -- the loop is at the call i with the calls before it
  have hnext : ∀ i,(if waits i=.interrupted then none
      else some (calls++(List.range (i+1)).map fun j => Call.waitpid pid (waits j)))=none →
        waitPass pid waits (i,calls++(List.range i).map fun j => Call.waitpid pid (waits j))=
          .inl (i+1,calls++(List.range (i+1)).map fun j => Call.waitpid pid (waits j)) := by
    intro i hnone
    by_cases hwait : waits i=.interrupted
    · rw [waitPass]
      dsimp only
      rw [if_pos hwait,hcalls]
    · rw [if_neg hwait] at hnone
      cases hnone
  have hstop : ∀ i found,(if waits i=.interrupted then none
      else some (calls++(List.range (i+1)).map fun j => Call.waitpid pid (waits j)))=some found →
        waitPass pid waits (i,calls++(List.range i).map fun j => Call.waitpid pid (waits j))=
          .inr found := by
    intro i found hsome
    by_cases hwait : waits i=.interrupted
    · rw [if_pos hwait] at hsome
      cases hsome
    · rw [if_neg hwait] at hsome
      rw [waitPass]
      dsimp only
      rw [if_neg hwait,hcalls,Option.some.inj hsome]
  have hloop := ends_numbered_iff hnext hstop result
  rw [List.range_zero,List.map_nil,List.append_nil] at hloop
  refine hloop.trans (exists_congr fun n => ?_)
  simp only [ite_eq_left_iff,reduceCtorEq,imp_false,not_not]
  refine and_congr_right fun _ => ?_
  by_cases hwait : waits n=.interrupted
  · simp [hwait]
  · simp [hwait,eq_comm]

/-- Some call of waitpid is the first that is not interrupted. -/
theorem exists_first_wait {waits : ℕ → WaitResult} (h : ∃ n,waits n≠.interrupted) :
    ∃ n,(∀ i<n,waits i=.interrupted) ∧ waits n≠.interrupted :=
  ⟨Nat.find h,fun _ hi => not_not.mp (Nat.find_min h hi),Nat.find_spec h⟩

/-- The calls up to the first one of waitpid. -/
def callsBeforeWait (cmd : Token) (pid : ℕ) (res : ReadResult) : List Call :=
  [.fork pid ["sh".toList,"-c".toList,cmd],.close .writing,.close .reading]++
    if res=.timeout then [.kill pid] else []

/-- With a child, both loops come to their ends. -/
theorem returns_child_iff {system : System} {pid : ℕ} (hpipe : system.pipe=true)
    (hfork : system.fork=some pid) (cmd : Token) (output : Output) :
    Returns cmd system output ↔ ∃ res,Ends (readPass system.turns []) ⟨0,[]⟩ res ∧
      ∃ calls,Ends (waitPass pid system.waits) (0,callsBeforeWait cmd pid res.1) calls ∧
        output=⟨res.2,calls⟩ := by
  have hrun : ∀ fuel,readOutputString fuel cmd system=
      (runLoop (readPass system.turns []) fuel ⟨0,[]⟩).bind fun res =>
        (runLoop (waitPass pid system.waits) fuel
          (0,callsBeforeWait cmd pid res.1)).map (⟨res.2,·⟩) := fun fuel => by
    rw [readOutputString,if_neg (by simp [hpipe]),hfork]
    rfl
  constructor
  · rintro ⟨fuel,hfuel⟩
    rw [hrun] at hfuel
    obtain ⟨res,hread,hrest⟩ := Option.bind_eq_some_iff.mp hfuel
    obtain ⟨calls,hwait,rfl⟩ := Option.map_eq_some_iff.mp hrest
    exact ⟨res,⟨fuel,hread⟩,calls,⟨fuel,hwait⟩,rfl⟩
  · rintro ⟨res,⟨reads,hread⟩,calls,⟨waits,hwait⟩,rfl⟩
    refine ⟨max reads waits,?_⟩
    rw [hrun,runLoop_mono hread (le_max_left _ _),Option.bind_some,
      runLoop_mono hwait (le_max_right _ _)]
    rfl

/-- Without a child nothing is read. -/
theorem returns_childless {system : System} (h : system.pipe=false ∨ system.fork=none)
    (cmd : Token) : ∃ calls,(∀ call∈calls,∃ pipeEnd,call=.close pipeEnd) ∧
      ∀ output,Returns cmd system output ↔ output=⟨[],calls⟩ := by
  by_cases hpipe : system.pipe=false
  · refine ⟨[],by simp,fun output => ?_⟩
    simp [Returns,readOutputString,hpipe,eq_comm]
  · refine ⟨[.close .reading,.close .writing],by simp,fun output => ?_⟩
    simp [Returns,readOutputString,hpipe,h.resolve_left hpipe,eq_comm]

/-- Whatever is read and however the reading ends, the text is all that came
before the end of the file, or nothing. A child is killed exactly after a
timeout and in any case waited for; the function does not return only where the
reading has no end or every call of waitpid is interrupted. -/
theorem readOutputString_atomic (cmd : Token) (system : System) :
    ((∃ output,Returns cmd system output) ↔ system.pipe=false ∨ system.fork=none ∨
      (∃ n res,EndsAt system.turns n res) ∧ ∃ n,system.waits n≠.interrupted) ∧
    ∀ output,Returns cmd system output →
      (system.pipe=false ∨ system.fork=none →
        output.text=[] ∧ ∀ call∈output.calls,∃ pipeEnd,call=.close pipeEnd) ∧
      ∀ pid,system.pipe=true → system.fork=some pid → ∃ n res,EndsAt system.turns n res ∧
        output.text=(if res=.success then bytesBefore system.turns n else []) ∧
        (∀ child,.kill child∈output.calls ↔ child=pid ∧ res=.timeout) ∧
        ∃ result,result≠.interrupted ∧ output.calls.getLast?=some (.waitpid pid result) := by
  constructor
  · by_cases h : system.pipe=false ∨ system.fork=none
    · obtain ⟨calls,-,hreturns⟩ := returns_childless h cmd
      rw [←or_assoc]
      exact iff_of_true ⟨_,(hreturns _).mpr rfl⟩ (Or.inl h)
    · obtain ⟨hpipe,hfork⟩ := not_or.mp h
      obtain ⟨pid,hpid⟩ := Option.ne_none_iff_exists'.mp hfork
      rw [or_iff_right hpipe,or_iff_right hfork]
      simp only [returns_child_iff (by simpa using hpipe) hpid,ends_readPass_iff,
        ends_waitPass_iff]
      constructor
      · rintro ⟨-,res,⟨n,hends,-⟩,-,⟨m,-,hwait,-⟩,-⟩
        exact ⟨⟨n,res.1,hends⟩,m,hwait⟩
      · rintro ⟨⟨n,res,hends⟩,hwaits⟩
        obtain ⟨m,hbefore,hwait⟩ := exists_first_wait hwaits
        exact ⟨_,(res,if res=.success then bytesBefore system.turns n else []),⟨n,hends,rfl⟩,_,
          ⟨m,hbefore,hwait,rfl⟩,rfl⟩
  · intro output hreturns
    constructor
    · intro h
      obtain ⟨calls,hclose,hiff⟩ := returns_childless h cmd
      obtain rfl := (hiff output).mp hreturns
      exact ⟨rfl,hclose⟩
    · intro pid hpipe hpid
      obtain ⟨res,hread,calls,hwaited,rfl⟩ := (returns_child_iff hpipe hpid cmd output).mp hreturns
      obtain ⟨n,hends,htext⟩ := (ends_readPass_iff _ _ _).mp hread
      obtain ⟨m,-,hwait,rfl⟩ := (ends_waitPass_iff _ _ _ _).mp hwaited
      refine ⟨n,res.1,hends,htext,fun child => ?_,system.waits m,hwait,?_⟩
      · rw [callsBeforeWait]
        by_cases htimeout : res.1=.timeout <;> simp [htimeout]
      · simp [List.range_succ]

/-- Two pieces and the end of the file, and two pieces and a timeout. -/
example : readOutputString 5 ['c'] ⟨true,some 7,
      fun i => ⟨1,some (if i<2 then ['x'] else [])⟩,fun _ => .exited⟩=
        some ⟨['x','x'],callsBeforeWait ['c'] 7 .success++[.waitpid 7 .exited]⟩ ∧
    readOutputString 5 ['c'] ⟨true,some 7,
      fun i => ⟨if i<2 then 1 else 0,some ['x']⟩,fun _ => .exited⟩=
        some ⟨[],callsBeforeWait ['c'] 7 .timeout++[.waitpid 7 .exited]⟩ := by decide

end AtlasAgent.ReadOutput
