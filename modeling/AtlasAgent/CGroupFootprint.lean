import AtlasAgent.CGroupCpu

/-!
# What the functions of CpuStats leave alone

A footprint is a part of the statics and of the metrics. A program avoids it
when it publishes none of these metrics and leaves these statics as they were,
up to the point where it fails. Each function is shown to avoid every
footprint that does not have its own counters, time and metrics.
-/

namespace AtlasAgent.CGroupFootprint

open CGroupCpu Effects FileReaders IeeeDouble TextFields

/-- Rule for the block around a counter. -/
theorem triple_sampleCounter {Before : Statics → Prop} {Good : CpuMetric → Prop}
    {After : Unit → Statics → Prop} {stats : Stats} {key : Token} {counter : Counter}
    {publish : ℚ → CpuMetric}
    (h : ∀ s value, Before s → stats.lookup key=some value →
      (0 ≤ s.prev counter → Good (publish ((value-s.prev counter : ℤ)/micros))) ∧
        ∀ u, After u (s.setPrev counter value)) :
    Triple Before (sampleCounter stats key counter publish) Good After := by
  intro s hs
  cases hkey : stats.lookup key with
  | none => simp [sampleCounter_of_missing hkey]
  | some value =>
    obtain ⟨hgood,hafter⟩ := h s value hs hkey
    rw [sampleCounter_of_lookup hkey]
    refine ⟨fun o ho => ?_,fun u _ => hafter u⟩
    by_cases hprev : 0 ≤ s.prev counter
    · simp only [growthSince,if_pos hprev,List.mem_singleton] at ho
      exact ho ▸ hgood hprev
    · simp [growthSince,if_neg hprev] at ho

/-- Rule for the read of cpu.max. -/
theorem triple_getAvailCpuTime {Before : Statics → Prop} {Good : CpuMetric → Prop}
    {After : Ieee → Statics → Prop} {cpuMax : Option Token} {deltaT : ℚ} {cpuCount : Ieee}
    (h : ∀ s (cfsPeriod : ℤ), Before s → (readNumVectorFromFile cpuMax)[1]?=some cfsPeriod →
      After (.finite deltaT/.finite cfsPeriod*(.finite cfsPeriod*cpuCount)) s) :
    Triple Before (getAvailCpuTime cpuMax deltaT cpuCount) Good After := by
  unfold getAvailCpuTime
  cases hperiod : ((readNumVectorFromFile cpuMax)[1]? : Option ℤ) with
  | none => exact triple_fail
  | some cfsPeriod => exact triple_pure fun s hs => h s cfsPeriod hs hperiod

/-- Rule for the time since a static time. -/
theorem triple_elapsedSince {Before : Statics → Prop} {Good : CpuMetric → Prop}
    {After : ℚ → Statics → Prop} {timer : Timer} {now interval : ℤ}
    (h : ∀ s, Before s → After (toDoubleSeconds (now-
      if s.lastUpdated timer=0 then now-interval else s.lastUpdated timer))
      (s.setUpdated timer now)) :
    Triple Before (elapsedSince timer now interval) Good After := by
  intro s hs
  simpa [elapsedSince] using h s hs

/-- A part of the statics and of the metrics. -/
structure Footprint where
  counter : Counter → Prop
  timer : Timer → Prop
  metric : CpuMetric → Prop

/-- Statics that agree on a footprint. -/
def SameOn (part : Footprint) (s s' : Statics) : Prop :=
  (∀ counter, part.counter counter → s'.prev counter=s.prev counter) ∧
    ∀ timer, part.timer timer → s'.lastUpdated timer=s.lastUpdated timer

theorem SameOn.refl (part : Footprint) (s : Statics) : SameOn part s s :=
  ⟨fun _ _ => rfl,fun _ _ => rfl⟩

theorem SameOn.setPrev {part : Footprint} {s t : Statics} (h : SameOn part s t)
    (counter : Counter) (value : ℤ) :
    SameOn part (s.setPrev counter value) (t.setPrev counter value) := by
  refine ⟨fun other hother => ?_,h.2⟩
  by_cases heq : other=counter
  · rw [heq,setPrev_self,setPrev_self]
  · rw [setPrev_of_ne heq,setPrev_of_ne heq]
    exact h.1 other hother

theorem SameOn.setUpdated {part : Footprint} {s t : Statics} (h : SameOn part s t)
    (timer : Timer) (now : ℤ) :
    SameOn part (s.setUpdated timer now) (t.setUpdated timer now) := by
  refine ⟨h.1,fun other hother => ?_⟩
  by_cases heq : other=timer
  · rw [heq,setUpdated_self,setUpdated_self]
  · rw [setUpdated_of_ne heq,setUpdated_of_ne heq]
    exact h.2 other hother

/-- The program touches nothing of a footprint. -/
def Avoids {α : Type} (part : Footprint) (program : Program Statics CpuMetric Abort α) : Prop :=
  ∀ s, Triple (SameOn part s) program (fun o => ¬part.metric o) fun _ => SameOn part s

namespace Avoids

variable {α β : Type} {part : Footprint}

theorem seq {first : Program Statics CpuMetric Abort α}
    {second : α → Program Statics CpuMetric Abort β} (hfirst : Avoids part first)
    (hsecond : ∀ a, Avoids part (second a)) : Avoids part (first >>= second) :=
  fun s => triple_bind _ (hfirst s) fun a => hsecond a s

theorem when {c : Prop} [Decidable c] {program : CpuProgram Unit} (h : Avoids part program) :
    Avoids part (if c then program else pure ()) := fun s =>
  triple_when (fun _ => h s) fun _ _ hs _ => hs

theorem emit {o : CpuMetric} (ho : ¬part.metric o) : Avoids part (emit o) :=
  fun _ => triple_emit (fun _ _ => ho) fun _ hs _ => hs

theorem getState {next : Statics → Program Statics CpuMetric Abort α}
    (h : ∀ s, Avoids part (next s)) : Avoids part (getState >>= next) := fun s =>
  triple_getState fun s' hs' s'' hs'' => h s' s s'' (hs''.symm ▸ hs')

theorem setUpdated {timer : Timer} (ht : ¬part.timer timer) (now : ℤ) :
    Avoids part (modifyState (·.setUpdated timer now)) := fun _ =>
  triple_modifyState fun s' hs' _ => ⟨hs'.1,fun other hother =>
    (setUpdated_of_ne (fun h : other=timer => ht (h ▸ hother)) s' now).trans (hs'.2 other hother)⟩

theorem statsAt (stats : Stats) (key : Token) : Avoids part (statsAt stats key) := by
  intro s
  unfold CGroupCpu.statsAt
  cases stats.lookup key with
  | none => exact triple_fail
  | some value => exact triple_pure fun _ hs => hs

theorem sampleCounter {stats : Stats} {key : Token} {counter : Counter} {publish : ℚ → CpuMetric}
    (hc : ¬part.counter counter) (hp : ∀ secs, ¬part.metric (publish secs)) :
    Avoids part (sampleCounter stats key counter publish) := fun _ =>
  triple_sampleCounter fun s' value hs' _ => ⟨fun _ => hp _,fun _ => ⟨fun other hother =>
    (setPrev_of_ne (fun h : other=counter => hc (h ▸ hother)) s' value).trans (hs'.1 other hother),
    hs'.2⟩⟩

theorem getAvailCpuTime (cpuMax : Option Token) (deltaT : ℚ) (cpuCount : Ieee) :
    Avoids part (getAvailCpuTime cpuMax deltaT cpuCount) := fun _ =>
  triple_getAvailCpuTime fun _ _ hs _ => hs

theorem elapsedSince {timer : Timer} (ht : ¬part.timer timer) (now interval : ℤ) :
    Avoids part (elapsedSince timer now interval) :=
  getState fun _ => seq (setUpdated ht now) fun _ _ => triple_pure fun _ hs => hs

theorem cpuThrottleV2 (hc : ¬part.counter .throttledTime)
    (hp : ∀ secs, ¬part.metric (.throttledTime secs))
    (hn : ∀ value, ¬part.metric (.numThrottled value)) (stats : Stats) :
    Avoids part (cpuThrottleV2 stats) :=
  seq (sampleCounter hc hp) fun _ => seq (statsAt stats nrThrottled) fun value => emit (hn value)

theorem cpuTimeV2 (hproc : ¬part.counter .procTime) (hsys : ¬part.counter .sysUsage)
    (huser : ¬part.counter .userUsage) (hp : ∀ secs, ¬part.metric (.processingTime secs))
    (hu : ∀ id secs, ¬part.metric (.usageTime id secs)) (stats : Stats) :
    Avoids part (cpuTimeV2 stats) :=
  seq (sampleCounter hproc hp) fun _ => seq (sampleCounter hsys (hu .system)) fun _ =>
    sampleCounter huser (hu .user)

theorem cpuProcessingCapacity (ht : ¬part.timer .capacity)
    (hp : ∀ value, ¬part.metric (.processingCapacity value)) (now : ℤ) (cpuCount : Ieee)
    (interval : ℤ) : Avoids part (cpuProcessingCapacity now cpuCount interval) :=
  seq (elapsedSince ht now interval) fun _ => emit (hp _)

theorem cpuUtilizationV2 (hsystem : ¬part.counter .utilizationSystem)
    (huser : ¬part.counter .utilizationUser) (ht : ¬part.timer .utilization)
    (hw : ∀ value, ¬part.metric (.weight value)) (hn : ∀ value, ¬part.metric (.numProcessors value))
    (hr : ∀ value, ¬part.metric (.requested value))
    (hu : ∀ id value, ¬part.metric (.utilization id value)) (tick : CpuTick) (interval : ℤ) :
    Avoids part (cpuUtilizationV2 tick interval) :=
  seq (elapsedSince ht _ _) fun _ => seq (when (emit (hw _))) fun _ =>
    seq (getAvailCpuTime _ _ _) fun _ => seq (emit (hn _)) fun _ => seq (emit (hr _)) fun _ =>
      seq (sampleCounter hsystem fun _ => hu .system _) fun _ =>
        sampleCounter huser fun _ => hu .user _

theorem cpuPeakUtilizationV2 (hsystem : ¬part.counter .peakSystem)
    (huser : ¬part.counter .peakUser) (ht : ¬part.timer .peak)
    (hu : ∀ id value, ¬part.metric (.peakUtilization id value)) (tick : CpuTick) :
    Avoids part (cpuPeakUtilizationV2 tick) :=
  getState fun _ => seq (setUpdated ht _) fun _ => seq (getAvailCpuTime _ _ _) fun _ =>
    seq (sampleCounter hsystem fun _ => hu .system _) fun _ =>
      sampleCounter huser fun _ => hu .user _

end Avoids

end AtlasAgent.CGroupFootprint
