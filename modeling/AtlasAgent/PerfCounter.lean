import AtlasAgent.LatestSample
import Mathlib.Algebra.Order.Group.Int

/-!
# PerfCounter

One counter keeps a perf event per CPU and the values it read last. Opening
closes the old events and opens new ones, which count from zero; the values
read last are only resized. What perf_event_open and read return is input. A
delta records its two operands, so that the baseline the code uses can be
compared with the last value read from the event that is open. The doubles of
the scaled value are exact. Logging is left out.
-/

namespace AtlasAgent.PerfCounter

open RunHistory LatestSample

/-- perf_count. -/
structure PerfCount where
  rawValue : UInt64
  timeEnabled : UInt64
  timeRunning : UInt64
  deriving DecidableEq

/-- A value-initialized perf_count, and what a fresh event counts from. -/
def PerfCount.zero : PerfCount := ⟨0,0,0⟩

/-- No component of the first value is above that of the second. -/
def PerfCount.NotAbove (earlier later : PerfCount) : Prop :=
  earlier.rawValue≤later.rawValue ∧ earlier.timeEnabled≤later.timeEnabled ∧
    earlier.timeRunning≤later.timeRunning

instance (earlier later : PerfCount) : Decidable (earlier.NotAbove later) :=
  inferInstanceAs (Decidable (_ ∧ _))

/-- perf_count::delta_from. The quotient by delta.time_running + 0.5 is
truncated. -/
def PerfCount.deltaFrom (current prev : PerfCount) : ℕ :=
  if current.timeRunning=0 then 0 else
    let timeRunning := current.timeRunning-prev.timeRunning
    let timeEnabled := current.timeEnabled-prev.timeEnabled
    let rawValue := current.rawValue-prev.rawValue
    2*rawValue.toNat*timeEnabled.toNat/(2*timeRunning.toNat+1)

/-- What perf_event_open returns for one CPU. -/
inductive OpenResult
  | fd (fd : ℕ)
  | eacces
  | enoent
  | otherErrno
  deriving DecidableEq

/-- The members of PerfCounter that change. -/
structure CounterState where
  /-- fds_. -/
  fds : List ℤ
  /-- prev_vals. -/
  prevVals : List PerfCount
  deriving DecidableEq

/-- A constructed counter. -/
def CounterState.init : CounterState := ⟨[],[]⟩

/-- The opening loop from CPU i on, over entries that are -1, and whether it
comes to its end: EACCES and ENOENT return from open_events. -/
def openLoop (perfOpen : ℕ → OpenResult) (i : ℕ) : List Bool → List ℤ×Bool
  | [] => ([],true)
  | online::rest =>
    if online then
      match perfOpen i with
      | .fd fd => ((fd : ℤ)::(openLoop perfOpen (i+1) rest).1,(openLoop perfOpen (i+1) rest).2)
      | .eacces | .enoent => (-1::rest.map fun _ => -1,false)
      | .otherErrno => (-1::(openLoop perfOpen (i+1) rest).1,(openLoop perfOpen (i+1) rest).2)
    else (-1::(openLoop perfOpen (i+1) rest).1,(openLoop perfOpen (i+1) rest).2)

/-- std::vector::resize. -/
def resize (values : List PerfCount) (size : ℕ) : List PerfCount :=
  values.take size++List.replicate (size-values.length) .zero

/-- PerfCounter::open_events. The old events are closed first. -/
def openEvents (s : CounterState) (onlineCpus : List Bool) (perfOpen : ℕ → OpenResult) :
    CounterState×Bool :=
  let loop := openLoop perfOpen 0 onlineCpus
  if loop.2 then (⟨loop.1,resize s.prevVals loop.1.length⟩,true) else (⟨loop.1,s.prevVals⟩,false)

/-- The reading loop from CPU i on. A CPU without an event keeps its
value-initialized entry; one failing read returns from read_delta. -/
def readLoop (read : ℕ → Option PerfCount) (i : ℕ) : List ℤ → Option (List PerfCount)
  | [] => some []
  | fd::rest =>
    if 0≤fd then
      (read i).bind fun value => (readLoop read (i+1) rest).map (value::·)
    else (readLoop read (i+1) rest).map (.zero::·)

/-- One call of delta_from in read_delta. -/
structure DeltaFrom where
  /-- fds_[i]. -/
  fd : ℤ
  /-- new_vals[i]. -/
  current : PerfCount
  /-- prev_vals[i]; none when the index is out of range. -/
  prev : Option PerfCount
  deriving DecidableEq

/-- The value computed from one delta. -/
def DeltaFrom.value (delta : DeltaFrom) : ℕ := delta.current.deltaFrom (delta.prev.getD .zero)

/-- PerfCounter::read_delta; no deltas when a read fails. -/
def readDelta (s : CounterState) (read : ℕ → Option PerfCount) :
    CounterState×Option (List DeltaFrom) :=
  match readLoop read 0 s.fds with
  | none => (s,none)
  | some newVals =>
    ({ s with prevVals := newVals },
      some (newVals.mapIdx fun i value => ⟨s.fds.getD i (-1),value,s.prevVals[i]?⟩))

/-- The vector that read_delta returns. -/
def deltaValues (deltas : Option (List DeltaFrom)) : List ℕ := (deltas.getD []).map DeltaFrom.value

/-- The operations on a counter. -/
inductive CounterOp
  | openEvents (onlineCpus : List Bool) (perfOpen : ℕ → OpenResult)
  | readDelta (read : ℕ → Option PerfCount)

/-- What an operation does to the events. -/
inductive CounterEvent
  /-- All events were closed and opened anew. -/
  | opened
  /-- A read failed. -/
  | readFailed
  /-- Every event was read; one delta for each CPU. -/
  | read (deltas : List DeltaFrom)
  deriving DecidableEq

/-- The state after one operation. -/
def counterNext (s : CounterState) : CounterOp → CounterState
  | .openEvents onlineCpus perfOpen => (openEvents s onlineCpus perfOpen).1
  | .readDelta read => (readDelta s read).1

/-- What one operation does to the events. -/
def counterEvent (s : CounterState) : CounterOp → CounterEvent
  | .openEvents _ _ => .opened
  | .readDelta read =>
    match (readDelta s read).2 with
    | none => .readFailed
    | some deltas => .read deltas

/-- One operation. -/
def counterStep (s : CounterState) (op : CounterOp) : CounterState×List CounterEvent :=
  (counterNext s op,[counterEvent s op])

/-- Everything that happens in a run. -/
def counterEvents (ops : List CounterOp) : List CounterEvent :=
  runOutput counterStep CounterState.init ops

/-- The value of the event of a CPU that is known after what happened: zero
when it has just been opened. -/
def reading (cpu : ℕ) : CounterEvent → Option PerfCount
  | .opened => some .zero
  | .readFailed => none
  | .read deltas => deltas[cpu]?.map DeltaFrom.current

/-- The value last read from the event that is open for a CPU, or zero. -/
def sessionBaseline (cpu : ℕ) (earlier : List CounterEvent) : PerfCount :=
  (latest (reading cpu) earlier).getD .zero

/-- Every open event counts up from zero and never decreases. -/
def CountsUp (events : List CounterEvent) : Prop :=
  ∀ earlier deltas later,events=earlier++.read deltas::later →
    ∀ cpu delta,deltas[cpu]?=some delta → 0≤delta.fd →
      (sessionBaseline cpu earlier).NotAbove delta.current

/-- Every delta of an open event is taken from the value last read from that
very event, and no subtraction wraps. -/
def SessionDeltas (events : List CounterEvent) : Prop :=
  ∀ earlier deltas later,events=earlier++.read deltas::later →
    ∀ cpu delta,deltas[cpu]?=some delta → 0≤delta.fd →
      delta.prev=some (sessionBaseline cpu earlier) ∧
        ∀ prev∈delta.prev,prev.NotAbove delta.current

/-- What a run of operations promises. -/
def CounterContract (ops : List CounterOp) : Prop :=
  CountsUp (counterEvents ops) → SessionDeltas (counterEvents ops)

/-- An operation that opens events only for CPUs of which no value other than
zero is remembered, and that, if it returns early, has a place for each. -/
def CleanOpen (s : CounterState) : CounterOp → Prop
  | .openEvents onlineCpus perfOpen => ∀ cpu<onlineCpus.length,
      0≤(openLoop perfOpen 0 onlineCpus).1.getD cpu (-1) →
        s.prevVals.getD cpu .zero=.zero ∧
          ((openLoop perfOpen 0 onlineCpus).2=true ∨ cpu<s.prevVals.length)
  | .readDelta _ => True

instance (s : CounterState) : ∀ op,Decidable (CleanOpen s op)
  | .openEvents onlineCpus perfOpen => inferInstanceAs (Decidable (∀ cpu<onlineCpus.length,
      0≤(openLoop perfOpen 0 onlineCpus).1.getD cpu (-1) → _ ∧ _))
  | .readDelta _ => .isTrue trivial

/-- The opening loop leaves an entry for every CPU. -/
theorem openLoop_length (perfOpen : ℕ → OpenResult) (i : ℕ) (onlineCpus : List Bool) :
    (openLoop perfOpen i onlineCpus).1.length=onlineCpus.length := by
  induction onlineCpus generalizing i with
  | nil => rfl
  | cons online rest ih =>
    rw [openLoop]
    split
    · split <;> simp [ih]
    · simp [ih]

/-- A completed reading loop has read a value for every CPU. -/
theorem readLoop_length {read : ℕ → Option PerfCount} {i : ℕ} {fds : List ℤ}
    {newVals : List PerfCount} (h : readLoop read i fds=some newVals) :
    newVals.length=fds.length := by
  induction fds generalizing i newVals with
  | nil =>
    obtain rfl := Option.some.inj h
    rfl
  | cons fd rest ih =>
    rw [readLoop] at h
    split at h
    · obtain ⟨value,-,hrest⟩ := Option.bind_eq_some_iff.mp h
      obtain ⟨others,hothers,rfl⟩ := Option.map_eq_some_iff.mp hrest
      rw [List.length_cons,List.length_cons,ih hothers]
    · obtain ⟨others,hothers,rfl⟩ := Option.map_eq_some_iff.mp h
      rw [List.length_cons,List.length_cons,ih hothers]

/-- Resizing keeps the entries there are and adds zeros. -/
theorem resize_getElem? {values : List PerfCount} {size cpu : ℕ} (h : cpu<size) :
    (resize values size)[cpu]?=some (values.getD cpu .zero) := by
  rw [resize,List.getD_eq_getElem?_getD]
  by_cases hcpu : cpu<values.length
  · rw [List.getElem?_append_left (by rw [List.length_take]; omega),List.getElem?_take_of_lt h,
      List.getElem?_eq_getElem hcpu,Option.getD_some]
  · rw [List.getElem?_append_right (by rw [List.length_take]; omega),
      List.getElem?_replicate_of_lt (by rw [List.length_take]; omega),
      List.getElem?_eq_none (by omega),Option.getD_none]

@[simp] theorem resize_length (values : List PerfCount) (size : ℕ) :
    (resize values size).length=size := by
  rw [resize,List.length_append,List.length_take,List.length_replicate]
  omega

/-- Opening leaves an entry for every CPU, whether or not it returns early. -/
theorem openEvents_fds (s : CounterState) (onlineCpus : List Bool) (perfOpen : ℕ → OpenResult) :
    (openEvents s onlineCpus perfOpen).1.fds=(openLoop perfOpen 0 onlineCpus).1 := by
  rw [openEvents]
  split <;> rfl

/-- A clean opening remembers zero for every event it opens. -/
theorem openEvents_prevVals {s : CounterState} {onlineCpus : List Bool}
    {perfOpen : ℕ → OpenResult} (hclean : CleanOpen s (.openEvents onlineCpus perfOpen))
    {cpu : ℕ} {fd : ℤ} (hfd : (openEvents s onlineCpus perfOpen).1.fds[cpu]?=some fd)
    (hopen : 0≤fd) : (openEvents s onlineCpus perfOpen).1.prevVals[cpu]?=some .zero := by
  rw [openEvents_fds] at hfd
  have hcpu : cpu<(openLoop perfOpen 0 onlineCpus).1.length :=
    (List.getElem?_eq_some_iff.mp hfd).1
  obtain ⟨hzero,hplace⟩ := hclean cpu (by rwa [openLoop_length] at hcpu)
    (by rwa [List.getD_eq_getElem?_getD,hfd,Option.getD_some])
  rw [openEvents]
  by_cases hdone : (openLoop perfOpen 0 onlineCpus).2=true
  · rw [if_pos hdone,resize_getElem? hcpu,hzero]
  · rw [if_neg hdone]
    have hlt := hplace.resolve_left hdone
    rw [List.getElem?_eq_getElem hlt]
    rw [List.getD_eq_getElem?_getD,List.getElem?_eq_getElem hlt,Option.getD_some] at hzero
    rw [hzero]

/-- A read_delta whose reads succeed remembers them all, and each delta is
taken from what was remembered before. -/
theorem readDelta_some {s : CounterState} {read : ℕ → Option PerfCount}
    {deltas : List DeltaFrom} (h : (readDelta s read).2=some deltas) :
    (readDelta s read).1.fds=s.fds ∧
      (readDelta s read).1.prevVals=deltas.map DeltaFrom.current ∧
      deltas.length=s.fds.length ∧
      ∀ (cpu : ℕ) (delta : DeltaFrom),deltas[cpu]?=some delta →
        s.fds[cpu]?=some delta.fd ∧ delta.prev=s.prevVals[cpu]? := by
  unfold readDelta at h ⊢
  cases hread : readLoop read 0 s.fds with
  | none => simp [hread] at h
  | some newVals =>
    simp only [hread,Option.some.injEq] at h ⊢
    subst h
    have hlength := readLoop_length hread
    refine ⟨trivial,?_,by rw [List.length_mapIdx,hlength],fun cpu delta hdelta => ?_⟩
    · exact List.ext_getElem? fun cpu => by simp [Function.comp_def]
    · rw [List.getElem?_mapIdx,Option.map_eq_some_iff] at hdelta
      obtain ⟨value,hvalue,rfl⟩ := hdelta
      have hcpu : cpu<s.fds.length := hlength ▸ (List.getElem?_eq_some_iff.mp hvalue).1
      simp [List.getD_eq_getElem?_getD,List.getElem?_eq_getElem hcpu]

/-- A read_delta with a failing read changes nothing. -/
theorem readDelta_none {s : CounterState} {read : ℕ → Option PerfCount}
    (h : (readDelta s read).2=none) : (readDelta s read).1=s := by
  unfold readDelta at h ⊢
  cases hread : readLoop read 0 s.fds with
  | none => rfl
  | some newVals => simp [hread] at h

/-- No value is below that of a fresh event. -/
theorem PerfCount.zero_notAbove (count : PerfCount) : PerfCount.zero.NotAbove count :=
  ⟨UInt64.zero_le,UInt64.zero_le,UInt64.zero_le⟩

/-- Opening starts every event from zero, whatever was read before. -/
theorem sessionBaseline_opened (cpu : ℕ) (earlier : List CounterEvent) :
    sessionBaseline cpu (earlier++[.opened])=.zero := by
  rw [sessionBaseline,latest_concat]
  rfl

/-- The value remembered for an open event is the one last read from it. -/
def InSession (s : CounterState) (events : List CounterEvent) : Prop :=
  ∀ (cpu : ℕ) (fd : ℤ),s.fds[cpu]?=some fd → 0≤fd →
    s.prevVals[cpu]?=some (sessionBaseline cpu events)

/-- An operation that opens cleanly keeps the remembered values in session. -/
theorem inSession_step {s : CounterState} {events : List CounterEvent} {op : CounterOp}
    (h : InSession s events) (hclean : CleanOpen s op) :
    InSession (counterNext s op) (events++[counterEvent s op]) := by
  intro cpu fd hfd hopen
  rw [sessionBaseline,latest_concat]
  cases op with
  | openEvents onlineCpus perfOpen => exact openEvents_prevVals hclean hfd hopen
  | readDelta read =>
    rw [counterEvent]
    cases hread : (readDelta s read).2 with
    | none =>
      rw [counterNext,readDelta_none hread] at hfd ⊢
      exact h cpu fd hfd hopen
    | some deltas =>
      obtain ⟨hfds,hprev,hlength,-⟩ := readDelta_some hread
      rw [counterNext] at hfd ⊢
      rw [hfds] at hfd
      have hcpu : cpu<deltas.length := hlength ▸ (List.getElem?_eq_some_iff.mp hfd).1
      rw [hprev,List.getElem?_map,List.getElem?_eq_getElem hcpu]
      simp [reading,hcpu]

/-- The values stay in session over every run that opens cleanly. -/
theorem inSession_run {ops : List CounterOp}
    (h : Meets counterStep CleanOpen CounterState.init ops) :
    InSession (runState counterStep CounterState.init ops) (counterEvents ops) := by
  induction ops using List.reverseRecOn with
  | nil => exact fun cpu fd hfd _ => by simp [CounterState.init] at hfd
  | append_singleton ops op ih =>
    obtain ⟨hbefore,hop⟩ := (meets_append ops [op]).mp h
    rw [counterEvents,runState_concat,runOutput_concat]
    exact inSession_step (ih hbefore) hop.1

/-- In a run that opens cleanly every delta is taken from the value last read
from the open event, so that no subtraction wraps while the events count up. -/
theorem clean_counterContract {ops : List CounterOp}
    (h : Meets counterStep CleanOpen CounterState.init ops) : CounterContract ops := by
  intro hup earlier deltas later hsplit cpu delta hdelta hopen
  obtain ⟨before,op,after,rfl,hearlier,hevent⟩ :=
    split_runOutput counterEvent (fun _ _ => rfl) hsplit
  have hsession := inSession_run ((meets_append before (op::after)).mp h).1
  rw [counterEvents,hearlier] at hsession
  have hnotAbove := hup earlier deltas later hsplit cpu delta hdelta hopen
  have hprev : delta.prev=some (sessionBaseline cpu earlier) := by
    cases op with
    | openEvents onlineCpus perfOpen => cases hevent
    | readDelta read =>
      rw [counterEvent] at hevent
      cases hread : (readDelta (runState counterStep CounterState.init before) read).2 with
      | none => simp [hread] at hevent
      | some deltas' =>
        obtain rfl : deltas'=deltas := by simpa [hread] using hevent
        obtain ⟨hfd,hprev⟩ := (readDelta_some hread).2.2.2 cpu delta hdelta
        rw [hprev,hsession cpu delta.fd hfd hopen]
  refine ⟨hprev,fun prev hmem => ?_⟩
  rw [hprev] at hmem
  exact Option.some.inj hmem ▸ hnotAbove

/-- CPU 0 is read and goes offline, and CPU 1 is opened and read in its place. -/
def takeover : List CounterOp :=
  [.openEvents [true,false] fun _ => .fd 5,.readDelta fun _ => some ⟨900,20,20⟩,
    .openEvents [false,true] fun _ => .fd 5,.readDelta fun _ => some ⟨7,1,1⟩]

/-- The rule at a run that opens only events of which nothing is remembered. -/
theorem clean_counterContract_takeover : CounterContract takeover :=
  clean_counterContract (by decide +kernel)

/-- The event of CPU 0 is read once before CPU 1 comes online and both events
are opened anew. The first read after that finds small values. -/
def hotplug : List CounterOp :=
  [.openEvents [true] fun _ => .fd 5,.readDelta fun _ => some ⟨900,20,20⟩,
    .openEvents [true,true] fun cpu => .fd (5+cpu),.readDelta fun _ => some ⟨7,1,1⟩]

/-- The first read after the reopening subtracts the value of the closed event. -/
theorem hotplug_wraps : ¬CounterContract hotplug := by
  intro h
  have hevents : counterEvents hotplug=[.opened,.read [⟨5,⟨900,20,20⟩,some .zero⟩],.opened,
      .read [⟨5,⟨7,1,1⟩,some ⟨900,20,20⟩⟩,⟨6,⟨7,1,1⟩,some .zero⟩]] := by decide +kernel
  rw [CounterContract,hevents] at h
  have hup : CountsUp [.opened,.read [⟨5,⟨900,20,20⟩,some .zero⟩],.opened,
      .read [⟨5,⟨7,1,1⟩,some ⟨900,20,20⟩⟩,⟨6,⟨7,1,1⟩,some .zero⟩]] := by
    -- both reads are the first after an opening, whose events start from zero
    intro earlier deltas later hsplit cpu delta _ _
    have hopened : ∃ before,earlier=before++[.opened] := by
      simp [List.cons_eq_append_iff] at hsplit
      obtain ⟨_,rfl,⟨rfl,-,-⟩|⟨rfl,-,-⟩⟩ := hsplit
      · exact ⟨[],rfl⟩
      · exact ⟨[.opened,_],rfl⟩
    obtain ⟨before,rfl⟩ := hopened
    rw [sessionBaseline_opened]
    exact PerfCount.zero_notAbove delta.current
  obtain ⟨hprev,-⟩ := h hup [_,_,_] _ [] rfl 0 _ rfl (by decide)
  revert hprev
  decide +kernel

end AtlasAgent.PerfCounter
