import AtlasAgent.PerfCounter
import Mathlib.Algebra.Order.Field.Rat

/-!
# PerfMetrics

Six counters are opened together whenever the set of online CPUs has changed
and read together at every collection. Opening stops when the instructions
counter cannot be opened; the results of the other five are ignored. The
assertion on the sizes of the two vectors of a rate is left out, and so is
logging. Every vector element that is used is recorded with the size of its
vector.
-/

namespace AtlasAgent.PerfMetrics

open RunHistory PerfCounter

/-- One value for each of the six counters. -/
structure Counters (α : Type) where
  instructions : α
  cycles : α
  cacheRefs : α
  cacheMisses : α
  branchInsts : α
  branchMisses : α

/-- A property of all six counters. -/
def Counters.All {α : Type} (p : α → Prop) (c : Counters α) : Prop :=
  p c.instructions ∧ p c.cycles ∧ p c.cacheRefs ∧ p c.cacheMisses ∧ p c.branchInsts ∧
    p c.branchMisses

/-- The members of PerfMetrics that change. -/
structure MetricsState where
  /-- disabled_. -/
  disabled : Bool
  /-- online_cpus_. -/
  onlineCpus : List Bool
  counters : Counters CounterState

/-- The members before the body of the constructor. -/
def MetricsState.init : MetricsState where
  disabled := true
  onlineCpus := []
  counters := ⟨.init,.init,.init,.init,.init,.init⟩

/-- What open_perf_counters_if_needed finds. -/
structure Reopening where
  /-- The result of get_online_cpus. -/
  onlineCpus : List Bool
  /-- The results of perf_event_open by counter and CPU. -/
  perfOpen : Counters (ℕ → OpenResult)

/-- The six counters after all have been opened. -/
def openCounters (c : Counters CounterState) (r : Reopening) : Counters CounterState where
  instructions := (openEvents c.instructions r.onlineCpus r.perfOpen.instructions).1
  cycles := (openEvents c.cycles r.onlineCpus r.perfOpen.cycles).1
  cacheRefs := (openEvents c.cacheRefs r.onlineCpus r.perfOpen.cacheRefs).1
  cacheMisses := (openEvents c.cacheMisses r.onlineCpus r.perfOpen.cacheMisses).1
  branchInsts := (openEvents c.branchInsts r.onlineCpus r.perfOpen.branchInsts).1
  branchMisses := (openEvents c.branchMisses r.onlineCpus r.perfOpen.branchMisses).1

/-- PerfMetrics::open_perf_counters_if_needed. The other counters are not tried
when the instructions counter fails. -/
def openPerfCountersIfNeeded (s : MetricsState) (r : Reopening) : MetricsState×Bool :=
  if r.onlineCpus=s.onlineCpus then (s,true)
  else if (openEvents s.counters.instructions r.onlineCpus r.perfOpen.instructions).2 then
    ({ s with onlineCpus := r.onlineCpus,counters := openCounters s.counters r },true)
  else
    ({ disabled := true
       onlineCpus := r.onlineCpus
       counters := { s.counters with
        instructions := (openEvents s.counters.instructions r.onlineCpus
          r.perfOpen.instructions).1 } },
      false)

/-- What the constructor finds. -/
structure Startup where
  /-- The value of ATLAS_ENABLE_PMU_METRICS, when it is set. -/
  enableEnvVar : Option String
  /-- perf_event_paranoid can be read. -/
  paranoidReadable : Bool
  reopening : Reopening

/-- The constructor. -/
def construct (startup : Startup) : MetricsState :=
  if startup.enableEnvVar=some "true" then
    if startup.paranoidReadable then
      (openPerfCountersIfNeeded { MetricsState.init with disabled := false } startup.reopening).1
    else { MetricsState.init with disabled := true }
  else MetricsState.init

/-- The four distribution summaries. -/
inductive Summary
  | instructions
  | cycles
  | cacheMissRate
  | branchMispredictionRate
  deriving DecidableEq

/-- What a collection does. -/
inductive MetricsOutput
  /-- delta_from is called with prev_vals[i]. -/
  | delta (delta : DeltaFrom)
  /-- a_values[i] and b_values[i] are used in update_rate. -/
  | rateIndex (index aSize bSize : ℕ)
  /-- A value is recorded. -/
  | record (summary : Summary) (value : ℚ)
  deriving DecidableEq

/-- The uses of prev_vals in one read_delta. -/
def deltaOutputs (deltas : Option (List DeltaFrom)) : List MetricsOutput :=
  (deltas.getD []).map .delta

/-- PerfMetrics::update_ds. -/
def updateDs (a : CounterState) (summary : Summary) (read : ℕ → Option PerfCount) :
    CounterState×List MetricsOutput :=
  let aRead := readDelta a read
  (aRead.1,deltaOutputs aRead.2++(deltaValues aRead.2).map fun v => .record summary v)

/-- The body of the loop of update_rate. -/
def rateStep (summary : Summary) (aValues bValues : List ℕ) (i : ℕ) : List MetricsOutput :=
  .rateIndex i aValues.length bValues.length::
    if bValues.getD i 0=0 then []
    else [.record summary ((aValues.getD i 0 : ℚ)/bValues.getD i 0)]

/-- PerfMetrics::update_rate. -/
def updateRate (a b : CounterState) (summary : Summary) (aReads bReads : ℕ → Option PerfCount) :
    (CounterState×CounterState)×List MetricsOutput :=
  let aRead := readDelta a aReads
  let bRead := readDelta b bReads
  let aValues := deltaValues aRead.2
  let bValues := deltaValues bRead.2
  ((aRead.1,bRead.1),deltaOutputs aRead.2++deltaOutputs bRead.2++
    (List.range aValues.length).flatMap (rateStep summary aValues bValues))

/-- What one collection finds. -/
structure Collection where
  /-- The results of the reads by counter and CPU; none for a failing one. -/
  read : Counters (ℕ → Option PerfCount)
  reopening : Reopening

/-- The six updates of a collection. -/
def update (s : MetricsState) (read : Counters (ℕ → Option PerfCount)) :
    MetricsState×List MetricsOutput :=
  let instructions := updateDs s.counters.instructions .instructions read.instructions
  let cycles := updateDs s.counters.cycles .cycles read.cycles
  let cache := updateRate s.counters.cacheMisses s.counters.cacheRefs .cacheMissRate
    read.cacheMisses read.cacheRefs
  let branch := updateRate s.counters.branchMisses s.counters.branchInsts
    .branchMispredictionRate read.branchMisses read.branchInsts
  ({ s with
      counters :=
        { instructions := instructions.1
          cycles := cycles.1
          cacheRefs := cache.1.2
          cacheMisses := cache.1.1
          branchInsts := branch.1.2
          branchMisses := branch.1.1 } },
    instructions.2++cycles.2++cache.2++branch.2)

/-- PerfMetrics::collect. -/
def collect (s : MetricsState) (c : Collection) : MetricsState×List MetricsOutput :=
  if s.disabled then (s,[]) else
    let updated := update s c.read
    ((openPerfCountersIfNeeded updated.1 c.reopening).1,updated.2)

/-- The index that an output uses is in range. -/
def InRange : MetricsOutput → Prop
  | .delta delta => delta.prev.isSome
  | .rateIndex index aSize bSize => index<aSize ∧ index<bSize
  | .record _ _ => True

/-- A counter remembers one value for each of its entries. -/
def Sized (counter : CounterState) : Prop := counter.prevVals.length=counter.fds.length

/-- With collection enabled every counter is sized. -/
def SafeState (s : MetricsState) : Prop := s.disabled=false → s.counters.All Sized

/-- A collection uses no index out of range and leaves the counters sized. -/
def SafeCollect (s : MetricsState) (c : Collection) : Prop :=
  SafeState (collect s c).1 ∧ ∀ o∈(collect s c).2,InRange o

/-- The safety of a run: of the constructed state and of every collection. -/
def SafeRun (startup : Startup) (collections : List Collection) : Prop :=
  SafeState (construct startup) ∧ ∀ before c after,collections=before++c::after →
    SafeCollect (runState collect (construct startup) before) c

/-- Neither EACCES nor ENOENT meets the opening of an online CPU. -/
def OpensAll (onlineCpus : List Bool) (perfOpen : ℕ → OpenResult) : Prop :=
  ∀ cpu,onlineCpus[cpu]?=some true → perfOpen cpu≠.eacces ∧ perfOpen cpu≠.enoent

/-- The read of every open event succeeds. -/
def ReadsAll (counter : CounterState) (read : ℕ → Option PerfCount) : Prop :=
  ∀ (cpu : ℕ) (fd : ℤ),counter.fds[cpu]?=some fd → 0≤fd → (read cpu).isSome

/-- A reopening that changes the number of CPUs opens, along with the
instructions counter, the other five without EACCES and ENOENT. -/
def ReopensAll (onlineCpus : List Bool) (r : Reopening) : Prop :=
  r.onlineCpus.length≠onlineCpus.length → OpensAll r.onlineCpus r.perfOpen.instructions →
    r.perfOpen.All (OpensAll r.onlineCpus)

/-- With any CPU at all, the denominators of a rate are read whenever its
numerators are. -/
def RateReads (a b : CounterState) (aReads bReads : ℕ → Option PerfCount) : Prop :=
  a.fds≠[] → ReadsAll a aReads → ReadsAll b bReads

/-- The condition on a constructor call. -/
def StartupOk (startup : Startup) : Prop :=
  startup.enableEnvVar=some "true" → startup.paranoidReadable=true →
    ReopensAll [] startup.reopening

/-- The condition on a collection. -/
def CollectOk (s : MetricsState) (c : Collection) : Prop :=
  s.disabled=false →
    RateReads s.counters.cacheMisses s.counters.cacheRefs c.read.cacheMisses c.read.cacheRefs ∧
    RateReads s.counters.branchMisses s.counters.branchInsts c.read.branchMisses
      c.read.branchInsts ∧
    ReopensAll s.onlineCpus c.reopening

/-- The opening loop comes to its end exactly when no online CPU meets EACCES
or ENOENT. -/
theorem openLoop_completes_iff (perfOpen : ℕ → OpenResult) (i : ℕ) (onlineCpus : List Bool) :
    (openLoop perfOpen i onlineCpus).2=true ↔ ∀ cpu : ℕ,onlineCpus[cpu]?=some true →
      perfOpen (i+cpu)≠.eacces ∧ perfOpen (i+cpu)≠.enoent := by
  induction onlineCpus generalizing i with
  | nil => simp [openLoop]
  | cons online rest ih =>
    have hrest : (openLoop perfOpen (i+1) rest).2=true ↔ ∀ cpu : ℕ,
        (online::rest)[cpu+1]?=some true →
          perfOpen (i+(cpu+1))≠.eacces ∧ perfOpen (i+(cpu+1))≠.enoent := by
      simp only [ih,List.getElem?_cons_succ,Nat.add_assoc,Nat.add_comm 1]
    rw [←Nat.and_forall_add_one,←hrest,openLoop]
    cases online with
    | false => simp
    | true =>
      simp only [if_true,List.getElem?_cons_zero,Nat.add_zero]
      cases hopen : perfOpen i <;> simp

/-- The reading loop comes to its end exactly when every open event is read. -/
theorem readLoop_isSome_iff (read : ℕ → Option PerfCount) (i : ℕ) (fds : List ℤ) :
    (readLoop read i fds).isSome ↔ ∀ (cpu : ℕ) (fd : ℤ),fds[cpu]?=some fd → 0≤fd →
      (read (i+cpu)).isSome := by
  induction fds generalizing i with
  | nil => simp [readLoop]
  | cons fd rest ih =>
    have hrest : (readLoop read (i+1) rest).isSome ↔ ∀ (cpu : ℕ) (fd' : ℤ),
        (fd::rest)[cpu+1]?=some fd' → 0≤fd' → (read (i+(cpu+1))).isSome := by
      simp only [ih,List.getElem?_cons_succ,Nat.add_assoc,Nat.add_comm 1]
    rw [←Nat.and_forall_add_one,←hrest,readLoop]
    split
    · next hfd => cases read i <;> simp [hfd]
    · next hfd => simp [hfd]

/-- A counter that has been opened for so many CPUs and is sized. -/
def Ready (size : ℕ) (counter : CounterState) : Prop :=
  counter.fds.length=size ∧ counter.prevVals.length=size

/-- The size of the vector that a read_delta returns. -/
theorem deltaValues_length (counter : CounterState) (read : ℕ → Option PerfCount) :
    (ReadsAll counter read → (deltaValues (readDelta counter read).2).length=counter.fds.length) ∧
      (¬ReadsAll counter read → (deltaValues (readDelta counter read).2).length=0) := by
  have hiff := readLoop_isSome_iff read 0 counter.fds
  simp only [Nat.zero_add] at hiff
  rw [ReadsAll,←hiff,readDelta,deltaValues]
  cases hread : readLoop read 0 counter.fds with
  | none => simp
  | some newVals => simp [readLoop_length hread]

/-- A read_delta of a ready counter keeps it ready and uses no value out of range. -/
theorem ready_readDelta {size : ℕ} {counter : CounterState} (h : Ready size counter)
    (read : ℕ → Option PerfCount) :
    Ready size (readDelta counter read).1 ∧
      ∀ o∈deltaOutputs (readDelta counter read).2,InRange o := by
  cases hread : (readDelta counter read).2 with
  | none =>
    rw [readDelta_none hread]
    exact ⟨h,fun o ho => by cases ho⟩
  | some deltas =>
    obtain ⟨hfds,hprev,hlength,hdelta⟩ := readDelta_some hread
    refine ⟨⟨hfds ▸ h.1,by rw [hprev,List.length_map,hlength,h.1]⟩,fun o ho => ?_⟩
    rw [deltaOutputs,Option.getD_some] at ho
    obtain ⟨delta,hmem,rfl⟩ := List.mem_map.mp ho
    obtain ⟨cpu,hcpu,rfl⟩ := List.mem_iff_getElem.mp hmem
    have hplace := hdelta cpu deltas[cpu] (List.getElem?_eq_getElem hcpu)
    have hlt : cpu<counter.prevVals.length := by rw [h.2,←h.1,←hlength]; exact hcpu
    rw [InRange,hplace.2,List.getElem?_eq_getElem hlt]
    rfl

/-- The loop of update_rate stays in range exactly when there are no more
numerators than denominators. -/
theorem rateSteps_inRange_iff (summary : Summary) (aValues bValues : List ℕ) :
    (∀ o∈(List.range aValues.length).flatMap (rateStep summary aValues bValues),InRange o) ↔
      aValues.length≤bValues.length := by
  constructor
  · intro h
    by_contra! hlt
    have hindex := h (.rateIndex bValues.length aValues.length bValues.length)
      (List.mem_flatMap.mpr ⟨_,List.mem_range.mpr hlt,List.mem_cons_self⟩)
    exact absurd hindex.2 (lt_irrefl _)
  · intro hle o ho
    obtain ⟨i,hi,ho⟩ := List.mem_flatMap.mp ho
    rw [List.mem_range] at hi
    rw [rateStep,List.mem_cons] at ho
    rcases ho with rfl|ho
    · exact ⟨hi,hi.trans_le hle⟩
    · split at ho
      · cases ho
      · obtain rfl := List.mem_singleton.mp ho
        trivial

/-- An update_ds of a ready counter keeps it ready and stays in range. -/
theorem updateDs_safe {size : ℕ} {a : CounterState} (h : Ready size a) (summary : Summary)
    (read : ℕ → Option PerfCount) :
    Ready size (updateDs a summary read).1 ∧ ∀ o∈(updateDs a summary read).2,InRange o := by
  obtain ⟨hready,hrange⟩ := ready_readDelta h read
  refine ⟨hready,fun o ho => ?_⟩
  rcases List.mem_append.mp ho with ho|ho
  · exact hrange o ho
  · obtain ⟨v,-,rfl⟩ := List.mem_map.mp ho
    trivial

/-- An update_rate of two ready counters keeps them ready, and stays in range
exactly when the denominators are read whenever the numerators are. -/
theorem updateRate_safe {size : ℕ} {a b : CounterState} (ha : Ready size a) (hb : Ready size b)
    (summary : Summary) (aReads bReads : ℕ → Option PerfCount) :
    Ready size (updateRate a b summary aReads bReads).1.1 ∧
      Ready size (updateRate a b summary aReads bReads).1.2 ∧
      ((∀ o∈(updateRate a b summary aReads bReads).2,InRange o) ↔ RateReads a b aReads bReads) := by
  obtain ⟨haReady,haRange⟩ := ready_readDelta ha aReads
  obtain ⟨hbReady,hbRange⟩ := ready_readDelta hb bReads
  refine ⟨haReady,hbReady,?_⟩
  rw [updateRate,List.forall_mem_append,List.forall_mem_append,rateSteps_inRange_iff,
    and_iff_right ⟨haRange,hbRange⟩,RateReads]
  obtain ⟨haAll,haNone⟩ := deltaValues_length a aReads
  obtain ⟨hbAll,hbNone⟩ := deltaValues_length b bReads
  have hempty : a.fds≠[] ↔ size≠0 := by rw [←ha.1,Ne,Ne,List.length_eq_zero_iff]
  rw [ha.1] at haAll
  rw [hb.1] at hbAll
  rw [hempty]
  by_cases haReads : ReadsAll a aReads
  · by_cases hbReads : ReadsAll b bReads
    · simp [haAll haReads,hbAll hbReads,hbReads]
    · simp [haAll haReads,hbNone hbReads,haReads,hbReads]
  · simp [haNone haReads,haReads]

/-- Opening a counter of so many values leaves it sized exactly when it comes
to its end or the number of CPUs is the same. -/
theorem sized_openEvents_iff {size : ℕ} {counter : CounterState} (h : Ready size counter)
    (onlineCpus : List Bool) (perfOpen : ℕ → OpenResult) :
    (openEvents counter onlineCpus perfOpen).1.fds.length=onlineCpus.length ∧
      (Sized (openEvents counter onlineCpus perfOpen).1 ↔
        OpensAll onlineCpus perfOpen ∨ onlineCpus.length=size) := by
  have hfds : (openEvents counter onlineCpus perfOpen).1.fds.length=onlineCpus.length := by
    rw [openEvents_fds,openLoop_length]
  have hall := openLoop_completes_iff perfOpen 0 onlineCpus
  simp only [Nat.zero_add] at hall
  refine ⟨hfds,?_⟩
  rw [Sized,hfds,OpensAll,←hall,openEvents]
  by_cases hdone : (openLoop perfOpen 0 onlineCpus).2=true
  · simp [hdone,openLoop_length]
  · rw [if_neg hdone,or_iff_right hdone,h.2]
    exact eq_comm

/-- open_events succeeds exactly when no online CPU meets EACCES or ENOENT. -/
theorem openEvents_snd_iff (counter : CounterState) (onlineCpus : List Bool)
    (perfOpen : ℕ → OpenResult) :
    (openEvents counter onlineCpus perfOpen).2=true ↔ OpensAll onlineCpus perfOpen := by
  have hall := openLoop_completes_iff perfOpen 0 onlineCpus
  simp only [Nat.zero_add] at hall
  rw [OpensAll,←hall,openEvents]
  split <;> simp [*]

/-- Opening ready counters leaves them sized exactly when each comes to its end
or the number of CPUs is the same, and then they are ready. -/
theorem sized_openCounters_iff {size : ℕ} {c : Counters CounterState} (h : c.All (Ready size))
    (r : Reopening) :
    ((openCounters c r).All Sized ↔
        r.perfOpen.All (OpensAll r.onlineCpus) ∨ r.onlineCpus.length=size) ∧
      ((openCounters c r).All Sized → (openCounters c r).All (Ready r.onlineCpus.length)) := by
  obtain ⟨hinstructions,hcycles,hcacheRefs,hcacheMisses,hbranchInsts,hbranchMisses⟩ := h
  obtain ⟨hfds₁,hiff₁⟩ := sized_openEvents_iff hinstructions r.onlineCpus r.perfOpen.instructions
  obtain ⟨hfds₂,hiff₂⟩ := sized_openEvents_iff hcycles r.onlineCpus r.perfOpen.cycles
  obtain ⟨hfds₃,hiff₃⟩ := sized_openEvents_iff hcacheRefs r.onlineCpus r.perfOpen.cacheRefs
  obtain ⟨hfds₄,hiff₄⟩ := sized_openEvents_iff hcacheMisses r.onlineCpus r.perfOpen.cacheMisses
  obtain ⟨hfds₅,hiff₅⟩ := sized_openEvents_iff hbranchInsts r.onlineCpus r.perfOpen.branchInsts
  obtain ⟨hfds₆,hiff₆⟩ := sized_openEvents_iff hbranchMisses r.onlineCpus r.perfOpen.branchMisses
  constructor
  · simp only [Counters.All,openCounters,hiff₁,hiff₂,hiff₃,hiff₄,hiff₅,hiff₆]
    by_cases hlength : r.onlineCpus.length=size <;> simp [hlength]
  · rintro ⟨h₁,h₂,h₃,h₄,h₅,h₆⟩
    exact ⟨⟨hfds₁,h₁.trans hfds₁⟩,⟨hfds₂,h₂.trans hfds₂⟩,⟨hfds₃,h₃.trans hfds₃⟩,
      ⟨hfds₄,h₄.trans hfds₄⟩,⟨hfds₅,h₅.trans hfds₅⟩,⟨hfds₆,h₆.trans hfds₆⟩⟩

/-- With collection enabled every counter is ready for the online CPUs. -/
def MetricsReady (s : MetricsState) : Prop :=
  s.disabled=false → s.counters.All (Ready s.onlineCpus.length)

/-- Ready counters are sized. -/
theorem MetricsReady.safeState {s : MetricsState} (h : MetricsReady s) : SafeState s := by
  intro hs
  obtain ⟨h₁,h₂,h₃,h₄,h₅,h₆⟩ := h hs
  exact ⟨h₁.2.trans h₁.1.symm,h₂.2.trans h₂.1.symm,h₃.2.trans h₃.1.symm,h₄.2.trans h₄.1.symm,
    h₅.2.trans h₅.1.symm,h₆.2.trans h₆.1.symm⟩

/-- From ready counters, a reopening leaves the counters sized exactly when it
opens all of them, and then they are ready. -/
theorem openPerfCountersIfNeeded_safe {s : MetricsState} (hs : s.disabled=false)
    (h : MetricsReady s) (r : Reopening) :
    (SafeState (openPerfCountersIfNeeded s r).1 ↔ ReopensAll s.onlineCpus r) ∧
      (ReopensAll s.onlineCpus r → MetricsReady (openPerfCountersIfNeeded s r).1) := by
  rw [openPerfCountersIfNeeded]
  split
  · next hsame =>
    exact ⟨iff_of_true h.safeState fun hlength => absurd (by rw [hsame]) hlength,fun _ => h⟩
  · split
    · next hopened =>
      rw [openEvents_snd_iff] at hopened
      obtain ⟨hsized,hready⟩ := sized_openCounters_iff (h hs) r
      have hiff : (openCounters s.counters r).All Sized ↔ ReopensAll s.onlineCpus r := by
        rw [hsized,ReopensAll,or_comm,or_iff_not_imp_left]
        exact imp_congr_right fun _ => (imp_iff_right hopened).symm
      refine ⟨?_,fun hreopens _ => hready (hiff.mpr hreopens)⟩
      rw [←hiff,SafeState]
      exact imp_iff_right hs
    · next hclosed =>
      rw [openEvents_snd_iff] at hclosed
      have hreopens : ReopensAll s.onlineCpus r := fun _ hopens => absurd hopens hclosed
      exact ⟨iff_of_true (fun hdisabled => by cases hdisabled) hreopens,
        fun _ hdisabled => by cases hdisabled⟩

/-- The updates of a collection keep ready counters ready, and stay in range
exactly when both rates have their denominators. -/
theorem update_safe {s : MetricsState} (h : MetricsReady s) (hs : s.disabled=false)
    (read : Counters (ℕ → Option PerfCount)) :
    MetricsReady (update s read).1 ∧ ((∀ o∈(update s read).2,InRange o) ↔
      RateReads s.counters.cacheMisses s.counters.cacheRefs read.cacheMisses read.cacheRefs ∧
      RateReads s.counters.branchMisses s.counters.branchInsts read.branchMisses
        read.branchInsts) := by
  obtain ⟨hinstructions,hcycles,hcacheRefs,hcacheMisses,hbranchInsts,hbranchMisses⟩ := h hs
  obtain ⟨hready₁,hrange₁⟩ := updateDs_safe hinstructions .instructions read.instructions
  obtain ⟨hready₂,hrange₂⟩ := updateDs_safe hcycles .cycles read.cycles
  obtain ⟨hready₃,hready₄,hcache⟩ := updateRate_safe hcacheMisses hcacheRefs .cacheMissRate
    read.cacheMisses read.cacheRefs
  obtain ⟨hready₅,hready₆,hbranch⟩ := updateRate_safe hbranchMisses hbranchInsts
    .branchMispredictionRate read.branchMisses read.branchInsts
  refine ⟨fun _ => ⟨hready₁,hready₂,hready₄,hready₃,hready₆,hready₅⟩,?_⟩
  rw [update,List.forall_mem_append,List.forall_mem_append,List.forall_mem_append,hcache,hbranch,
    and_assoc,and_iff_right ⟨hrange₁,hrange₂⟩]

/-- A collection from ready counters is safe exactly when it meets its
condition, and then the counters are ready again. -/
theorem safeCollect_iff {s : MetricsState} (h : MetricsReady s) (c : Collection) :
    (SafeCollect s c ↔ CollectOk s c) ∧ (CollectOk s c → MetricsReady (collect s c).1) := by
  rw [SafeCollect,CollectOk,collect]
  cases hs : s.disabled with
  | true =>
    rw [if_pos rfl]
    exact ⟨iff_of_true ⟨h.safeState,by simp⟩ (by simp),fun _ => h⟩
  | false =>
    obtain ⟨hready,hrange⟩ := update_safe h hs c.read
    obtain ⟨hsafe,hnext⟩ :=
      openPerfCountersIfNeeded_safe (s:=(update s c.read).1) hs hready c.reopening
    rw [if_neg Bool.false_ne_true,hsafe,hrange]
    have honline : (update s c.read).1.onlineCpus=s.onlineCpus := rfl
    rw [honline] at hnext ⊢
    constructor
    · rw [and_comm,and_assoc,imp_iff_right rfl]
    · exact fun hok => hnext (hok rfl).2.2

/-- The constructor leaves a safe state exactly when it meets its condition,
and then the counters are ready. -/
theorem construct_safe (startup : Startup) :
    (SafeState (construct startup) ↔ StartupOk startup) ∧
      (StartupOk startup → MetricsReady (construct startup)) := by
  have hdisabled {s : MetricsState} (hs : s.disabled=true) : MetricsReady s := fun h => by
    rw [hs] at h
    cases h
  rw [construct,StartupOk]
  split
  · next henv =>
    split
    · next hreadable =>
      have hready : MetricsReady { MetricsState.init with disabled := false } :=
        fun _ => ⟨⟨rfl,rfl⟩,⟨rfl,rfl⟩,⟨rfl,rfl⟩,⟨rfl,rfl⟩,⟨rfl,rfl⟩,⟨rfl,rfl⟩⟩
      have hopen := openPerfCountersIfNeeded_safe (s:={ MetricsState.init with disabled := false })
        rfl hready startup.reopening
      simp only [henv,hreadable,true_implies]
      exact hopen
    · next hreadable =>
      exact ⟨iff_of_true (hdisabled rfl).safeState fun _ h => absurd h hreadable,
        fun _ => hdisabled rfl⟩
  · next henv =>
    exact ⟨iff_of_true (hdisabled rfl).safeState fun h => absurd h henv,fun _ => hdisabled rfl⟩

/-- A run is safe exactly when its constructor call and each of its collections
meet their conditions. -/
theorem safeRun_iff (startup : Startup) (collections : List Collection) :
    SafeRun startup collections ↔
      StartupOk startup ∧ Meets collect CollectOk (construct startup) collections := by
  obtain ⟨hsafe,hready⟩ := construct_safe startup
  rw [SafeRun,hsafe,←meets_iff]
  exact and_congr_right fun hok => meets_iff_of_invariant
    (fun s c h => (safeCollect_iff h c).1) (fun s c h => (safeCollect_iff h c).2) (hready hok)

/-- One online CPU on which every event opens. -/
def oneCpu : Reopening := ⟨[true],fun _ => .fd 3,fun _ => .fd 4,fun _ => .fd 5,fun _ => .fd 6,
  fun _ => .fd 7,fun _ => .fd 8⟩

/-- A collection that reads every event but those of cache_refs. -/
def cacheRefsUnread : Collection where
  read := ⟨fun _ => some ⟨8,2,2⟩,fun _ => some ⟨8,2,2⟩,fun _ => none,fun _ => some ⟨8,2,2⟩,
    fun _ => some ⟨8,2,2⟩,fun _ => some ⟨8,2,2⟩⟩
  reopening := oneCpu

/-- One failing read of a denominator makes update_rate read past the end of an
empty vector. -/
theorem cacheRefs_out_of_range : ¬SafeRun ⟨some "true",true,oneCpu⟩ [cacheRefsUnread] := by
  intro h
  have hrange : InRange (.rateIndex 0 1 0) :=
    (h.2 [] cacheRefsUnread [] rfl).2 _ (by decide +kernel)
  exact absurd hrange.2 (lt_irrefl 0)

end AtlasAgent.PerfMetrics
