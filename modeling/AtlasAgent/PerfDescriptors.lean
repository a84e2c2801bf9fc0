import AtlasAgent.HandleLedger
import AtlasAgent.PerfCounter

/-!
# The descriptors of a perf counter

fds_ holds the descriptors that perf_event_open returned, as plain integers.
open_events closes the old ones before it opens any, close_events marks what it
has closed, and the destructor closes the rest. An early return of open_events
leaves the entries that were not reached at -1.
-/

namespace AtlasAgent.PerfDescriptors

open RunHistory HandleLedger PerfCounter

/-- The loop of PerfCounter::close_events. -/
def closeLoop : List ℤ → List ℤ×List (HandleEvent ℤ)
  | [] => ([],[])
  | fd::rest =>
    if 0≤fd then (-1::(closeLoop rest).1,.closed fd::(closeLoop rest).2)
    else (fd::(closeLoop rest).1,(closeLoop rest).2)

/-- What the opening loop opens from CPU i on. -/
def openLoopEvents (perfOpen : ℕ → OpenResult) (i : ℕ) : List Bool → List (HandleEvent ℤ)
  | [] => []
  | online::rest =>
    if online then
      match perfOpen i with
      | .fd fd => .opened (fd : ℤ)::openLoopEvents perfOpen (i+1) rest
      | .eacces | .enoent => []
      | .otherErrno => openLoopEvents perfOpen (i+1) rest
    else openLoopEvents perfOpen (i+1) rest

/-- The operations of a counter. -/
inductive DescriptorOp
  | openEvents (onlineCpus : List Bool) (perfOpen : ℕ → OpenResult)
  | readDelta (read : ℕ → Option PerfCount)
  | closeEvents

/-- PerfCounter::close_events. -/
def closeEvents (s : CounterState) : CounterState×List (HandleEvent ℤ) :=
  ({ s with fds := (closeLoop s.fds).1 },(closeLoop s.fds).2)

/-- One operation, with what it closes and opens. -/
def descriptorStep (s : CounterState) : DescriptorOp → CounterState×List (HandleEvent ℤ)
  | .openEvents onlineCpus perfOpen =>
    ((openEvents (closeEvents s).1 onlineCpus perfOpen).1,
      (closeEvents s).2++openLoopEvents perfOpen 0 onlineCpus)
  | .readDelta read => ((readDelta s read).1,[])
  | .closeEvents => closeEvents s

/-- The state of a counter after the operations. -/
def stateAfter (ops : List DescriptorOp) : CounterState :=
  runState descriptorStep CounterState.init ops

/-- What the operations close and open. -/
def traceOf (ops : List DescriptorOp) : List (HandleEvent ℤ) :=
  runOutput descriptorStep CounterState.init ops

/-- The whole life of a counter, PerfCounter::~PerfCounter at the end. -/
def lifeOf (ops : List DescriptorOp) : List (HandleEvent ℤ) :=
  traceOf ops++(closeEvents (stateAfter ops)).2

/-- The entries of fds_ that are descriptors. -/
def descriptors (s : CounterState) : List ℤ := s.fds.filter (0≤·)

/-- close_events closes the descriptors in order and leaves none. -/
theorem closeLoop_events (fds : List ℤ) :
    (closeLoop fds).2=(fds.filter (0≤·)).map .closed := by
  induction fds with
  | nil => rfl
  | cons fd rest ih =>
    rw [closeLoop]
    by_cases h : 0≤fd
    · rw [if_pos h,List.filter_cons_of_pos (by simpa using h),List.map_cons,ih]
    · rw [if_neg h,List.filter_cons_of_neg (by simpa using h),ih]

theorem closeLoop_descriptors (fds : List ℤ) : (closeLoop fds).1.filter (0≤·)=[] := by
  induction fds with
  | nil => rfl
  | cons fd rest ih =>
    rw [closeLoop]
    by_cases h : 0≤fd
    · rw [if_pos h,List.filter_cons_of_neg (by decide),ih]
    · rw [if_neg h,List.filter_cons_of_neg (by simpa using h),ih]

/-- The opening loop keeps every descriptor that it opens, in order, also where
it returns early. -/
theorem openLoopEvents_eq (perfOpen : ℕ → OpenResult) (i : ℕ) (onlineCpus : List Bool) :
    openLoopEvents perfOpen i onlineCpus=
      ((openLoop perfOpen i onlineCpus).1.filter (0≤·)).map .opened := by
  induction onlineCpus generalizing i with
  | nil => rfl
  | cons online rest ih =>
    have hskip : openLoopEvents perfOpen (i+1) rest=
        ((-1::(openLoop perfOpen (i+1) rest).1).filter (0≤·)).map .opened := by
      rw [List.filter_cons_of_neg (by decide),ih]
    rw [openLoopEvents,openLoop]
    cases online with
    | false => exact hskip
    | true =>
      rw [if_pos rfl,if_pos rfl]
      cases perfOpen i with
      | fd fd =>
        dsimp only
        rw [List.filter_cons_of_pos (by simp),List.map_cons,ih]
      | eacces => simp
      | enoent => simp
      | otherErrno => exact hskip

theorem closeEvents_descriptors (s : CounterState) : descriptors (closeEvents s).1=[] :=
  closeLoop_descriptors s.fds

/-- What an operation does, the descriptors before it given: it closes all of
them or none, and opens those that it leaves. -/
theorem descriptorStep_cases (s : CounterState) (op : DescriptorOp) :
    (descriptorStep s op).2=[] ∧ descriptors (descriptorStep s op).1=descriptors s ∨
    (descriptorStep s op).2=(descriptors s).map .closed++
      (descriptors (descriptorStep s op).1).map .opened := by
  cases op with
  | openEvents onlineCpus perfOpen =>
    right
    have hclosed : (closeEvents s).2=(descriptors s).map .closed := closeLoop_events s.fds
    have hopened : openLoopEvents perfOpen 0 onlineCpus=
        (descriptors (openEvents (closeEvents s).1 onlineCpus perfOpen).1).map .opened := by
      rw [descriptors,openEvents_fds,openLoopEvents_eq]
    rw [descriptorStep,hclosed,hopened]
  | readDelta read =>
    left
    refine ⟨rfl,?_⟩
    cases hread : (readDelta s read).2 with
    | none => rw [descriptorStep,readDelta_none hread]
    | some deltas => rw [descriptorStep,descriptors,(readDelta_some hread).1,descriptors]
  | closeEvents =>
    right
    rw [descriptorStep,closeEvents_descriptors,List.map_nil,List.append_nil]
    exact closeLoop_events s.fds

/-- One operation, started with the descriptors open, closes only what is open
and ends with the descriptors open. -/
theorem ledger_descriptorStep (s : CounterState) (op : DescriptorOp) :
    runState ledgerStep (descriptors s : Multiset ℤ) (descriptorStep s op).2=
        (descriptors (descriptorStep s op).1 : Multiset ℤ) ∧
      Meets ledgerStep ClosesOpen (descriptors s : Multiset ℤ) (descriptorStep s op).2 := by
  obtain ⟨hnone,hsame⟩|hall := descriptorStep_cases s op
  · rw [hnone,hsame]
    exact ⟨rfl,trivial⟩
  · rw [hall,runState_append,runState_closed,meets_append,runState_closed,runState_opened,
      tsub_self,zero_add]
    exact ⟨rfl,closesOpen_closed le_rfl,closesOpen_opened _ _⟩

/-- After any operations the descriptors are what is open, and nothing else has
been closed. -/
theorem ledger_traceOf (ops : List DescriptorOp) :
    openAfter (traceOf ops)=(descriptors (stateAfter ops) : Multiset ℤ) ∧
      Meets ledgerStep ClosesOpen 0 (traceOf ops) := by
  induction ops using List.reverseRecOn with
  | nil => exact ⟨rfl,trivial⟩
  | append_singleton ops op ih =>
    obtain ⟨hopen,hcloses⟩ := ih
    obtain ⟨hstep,hstepCloses⟩ := ledger_descriptorStep (stateAfter ops) op
    have hstate : stateAfter (ops++[op])=(descriptorStep (stateAfter ops) op).1 :=
      runState_concat ops op
    have htrace : traceOf (ops++[op])=traceOf ops++(descriptorStep (stateAfter ops) op).2 :=
      runOutput_concat ops op
    rw [openAfter] at hopen ⊢
    rw [hstate,htrace,runState_append,meets_append,hopen]
    exact ⟨hstep,hcloses,hstepCloses⟩

/-- A destroyed counter has closed all that it opened and nothing else. -/
theorem ledger_lifeOf (ops : List DescriptorOp) :
    openAfter (lifeOf ops)=0 ∧ Meets ledgerStep ClosesOpen 0 (lifeOf ops) := by
  obtain ⟨hopen,hcloses⟩ := ledger_traceOf ops
  have hlast : (closeEvents (stateAfter ops)).2=(descriptors (stateAfter ops)).map .closed :=
    closeLoop_events _
  rw [openAfter] at hopen ⊢
  rw [lifeOf,hlast,runState_append,meets_append,hopen,runState_closed,tsub_self]
  exact ⟨rfl,hcloses,closesOpen_closed le_rfl⟩

/-- Whatever is opened, read and closed, and whatever perf_event_open returns:
after every operation the descriptors in fds_ are what is open; only what is
open is closed; a destroyed counter leaves nothing open and has closed every
descriptor as often as perf_event_open returned it. As perf_event_open never
returns what is open, each descriptor it returns is closed once before it
returns that descriptor again. -/
theorem descriptors_owned (ops : List DescriptorOp) :
    (∀ before after,ops=before++after →
      openAfter (traceOf before)=(descriptors (stateAfter before) : Multiset ℤ)) ∧
    Meets ledgerStep ClosesOpen 0 (lifeOf ops) ∧
    openAfter (lifeOf ops)=0 ∧
    (∀ fd,(lifeOf ops).count (.opened fd)=(lifeOf ops).count (.closed fd)) ∧
    (Meets ledgerStep OpensFresh 0 (lifeOf ops) → ∀ fd,∃ count,
      (lifeOf ops).filter (fun event => event.handle=fd)=lifetimes fd count) := by
  obtain ⟨hend,hcloses⟩ := ledger_lifeOf ops
  refine ⟨fun before after _ => (ledger_traceOf before).1,hcloses,hend,fun fd => ?_,
    fun hfresh => filter_handle_eq_lifetimes hfresh hcloses hend⟩
  have hcount := count_opened_add hcloses fd
  rw [←openAfter,hend] at hcount
  simpa using hcount

/-- The second opening fails at CPU 1 and returns with CPU 0 already opened. -/
def refusedReopen : List DescriptorOp :=
  [.openEvents [true,true] fun cpu => .fd (5+cpu),.readDelta fun _ => none,
    .openEvents [true,true,true] fun cpu => if cpu=1 then .eacces else .fd 5]

/-- The rule at a run whose last opening returns early. -/
theorem descriptors_owned_refusedReopen :
    lifeOf refusedReopen=[.opened 5,.opened 6,.closed 5,.closed 6,.opened 5,.closed 5] ∧
      ∃ count,(lifeOf refusedReopen).filter (fun event => event.handle=5)=lifetimes 5 count :=
  ⟨by decide,(descriptors_owned refusedReopen).2.2.2.2 (by decide) 5⟩

end AtlasAgent.PerfDescriptors
