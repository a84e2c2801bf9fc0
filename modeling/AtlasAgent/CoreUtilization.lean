import AtlasAgent.CollectorLoop
import AtlasAgent.ProcCpuHistory

/-!
# The maximum of sys.cpu.coreUtilization over a minute

UpdateCoreUtilization adds the five-second samples of every core up, divides
the largest sum by twelve at a sixty-second call and clears the sums. Twelve
is right as long as twelve five-second iterations lie between two clearings.
The loop and the collector are run together here: the two deadlines of the
loop decide how many samples there are, and the file decides whether the sums
are cleared.
-/

namespace AtlasAgent.CoreUtilization

open RunHistory CollectorLoop PeriodicDeadlines TextFields ProcCpu ProcCpuHistory

/-- What one iteration of a collector loop finds. -/
structure IterationInput where
  /-- The clock readings of the iteration. -/
  clock : Clock
  /-- The text of /proc/stat; none when it cannot be opened. -/
  stat : Option (List Char)
  deriving DecidableEq

/-- How far the five-second deadline is behind the sixty-second deadline. -/
def fiveSecondLag (s : LoopState) : ℤ := s.nextSixtySecondRun-s.nextFiveSecondRun

/-- A collector loop with the statics of CpuStats. -/
structure CollectorState where
  loop : LoopState
  cpu : CpuState
  /-- The lag found by the latest sixty-second iteration, zero before the first.
  The code does not keep it and no step reads it. -/
  minuteLag : ℤ
  deriving DecidableEq

/-- The state in which the loop is entered. -/
def CollectorState.init (now : ℤ) : CollectorState := ⟨LoopState.init now,CpuState.init,0⟩

/-- The call of Proc::CpuStats that a collector call is, if any. -/
def procCpuStatsCall (stat : Option (List Char)) : CollectorCall → Option CpuStatsCall
  | .procCpuStats five sixty => some ⟨five,sixty,stat⟩
  | _ => none

/-- One iteration of the loop with the CpuStats call it makes. -/
def collectorIteration (body : LoopBody) (s : CollectorState) (input : IterationInput) :
    CollectorState×List CpuPublication :=
  let record := iterationRecord body s.loop input.clock
  let calls := record.calls.filterMap (procCpuStatsCall input.stat)
  ({ loop := nextDeadlines s.loop input.clock
     cpu := runState cpuStats s.cpu calls
     minuteLag := if record.sixtySecondMetricsEnabled then fiveSecondLag s.loop else s.minuteLag },
    runOutput cpuStats s.cpu calls)

/-- Everything CpuStats publishes in a run of the loop. -/
def publications (body : LoopBody) (now : ℤ) (inputs : List IterationInput) :
    List CpuPublication :=
  runOutput (collectorIteration body) (CollectorState.init now) inputs

/-- The usage sample behind a publication. -/
def usageSample : CpuPublication → Option ℚ
  | .coreTotalAmount usage => some usage
  | _ => none

/-- The value set on the max gauge. -/
def maxSet : CpuPublication → Option ℚ
  | .coreMax value => some value
  | _ => none

/-- The clock readings of a run never decrease. -/
def ClockNondecreasing (now : ℤ) (inputs : List IterationInput) : Prop :=
  (now::inputs.flatMap fun input => [input.clock.start,input.clock.finish]).Pairwise (· ≤ ·)

/-- A percentage. -/
def Percent (value : ℚ) : Prop := 0≤value ∧ value≤100

instance (value : ℚ) : Decidable (Percent value) := inferInstanceAs (Decidable (_ ∧ _))

/-- With clock readings that never decrease and samples that are percentages,
every value set on the max gauge is a percentage. -/
def MaxContract (body : LoopBody) (now : ℤ) (inputs : List IterationInput) : Prop :=
  ClockNondecreasing now inputs →
    (∀ usage∈(publications body now inputs).filterMap usageSample,Percent usage) →
      ∀ value∈(publications body now inputs).filterMap maxSet,Percent value

instance (body : LoopBody) (now : ℤ) (inputs : List IterationInput) :
    Decidable (MaxContract body now inputs) :=
  inferInstanceAs (Decidable (List.Pairwise _ _ → (∀ usage∈_,Percent usage) →
    ∀ value∈_,Percent value))

/-- The file clears the sums at a sixty-second call: it has cpu lines, and all
its core lines parse. -/
def Clears (stat : Option (List Char)) : Prop :=
  parseProcStatFile stat≠[] ∧ CoresParse ((parseProcStatFile stat).drop firstProcessorIndex)

instance (stat : Option (List Char)) : Decidable (Clears stat) :=
  inferInstanceAs (Decidable (_ ∧ _))

/-- A steady iteration: no cpu is named twice, and a sixty-second iteration
clears the sums and finds the five-second schedule no less behind than the
sixty-second iteration before it did. -/
structure Steady (s : CollectorState) (input : IterationInput) : Prop where
  names : DistinctNames input.stat
  clears : s.loop.nextSixtySecondRun ≤ input.clock.start → Clears input.stat
  lag : s.loop.nextSixtySecondRun ≤ input.clock.start → s.minuteLag≤fiveSecondLag s.loop

instance (s : CollectorState) (input : IterationInput) : Decidable (Steady s input) :=
  decidable_of_iff (DistinctNames input.stat ∧
      (s.loop.nextSixtySecondRun ≤ input.clock.start → Clears input.stat) ∧
      (s.loop.nextSixtySecondRun ≤ input.clock.start → s.minuteLag≤fiveSecondLag s.loop))
    ⟨fun h => ⟨h.1,h.2.1,h.2.2⟩,fun h => ⟨h.names,h.clears,h.lag⟩⟩

/-- One line adds at most one sample to the sum of its own core, and none to
the sum of another core. -/
theorem coreStep_usages (s : CpuState) (line : Token×CpuStatFields) (name : Token) :
    (coreStep s line).1.previousCoreUsages.lookup name=s.previousCoreUsages.lookup name ∨
      line.1=name ∧ ∃ usage∈(coreStep s line).2.filterMap usageSample,
        (coreStep s line).1.previousCoreUsages.lookup name=
          some ((s.previousCoreUsages.lookup name).getD 0+usage) := by
  unfold coreStep
  cases s.previousCpuStats.lookup line.1 with
  | none => exact Or.inl rfl
  | some prev =>
    by_cases hname : line.1=name
    · subst hname
      exact Or.inr ⟨rfl,_,by simp [coreSample,usageSample],AList.lookup_insert _⟩
    · exact Or.inl (AList.lookup_insert_ne (Ne.symm hname))

/-- Lines of other cores leave the sum of a core alone. -/
theorem coreRun_usages_of_notMem {lines : List (Token×CpuStatFields)} {name : Token}
    (hname : name∉lines.map Prod.fst) (s : CpuState) :
    (runState coreStep s lines).previousCoreUsages.lookup name=
      s.previousCoreUsages.lookup name := by
  induction lines generalizing s with
  | nil => rfl
  | cons line rest ih =>
    rw [List.map_cons,List.mem_cons,not_or] at hname
    rw [runState_cons,ih hname.2]
    rcases coreStep_usages s line name with h|⟨h,-⟩
    · exact h
    · exact absurd h.symm hname.1

/-- Lines of distinct cores add at most one sample to the sum of any core. -/
theorem coreRun_usages {lines : List (Token×CpuStatFields)}
    (hnames : (lines.map Prod.fst).Nodup) (s : CpuState) (name : Token) :
    (runState coreStep s lines).previousCoreUsages.lookup name=
        s.previousCoreUsages.lookup name ∨
      ∃ usage∈(runOutput coreStep s lines).filterMap usageSample,
        (runState coreStep s lines).previousCoreUsages.lookup name=
          some ((s.previousCoreUsages.lookup name).getD 0+usage) := by
  induction lines generalizing s with
  | nil => exact Or.inl rfl
  | cons line rest ih =>
    rw [List.map_cons,List.nodup_cons] at hnames
    rw [runState_cons,runOutput_cons,List.filterMap_append]
    rcases coreStep_usages s line name with hsame|⟨rfl,usage,hmem,hadd⟩
    · rcases ih hnames.2 (coreStep s line).1 with h|⟨usage,hmem,h⟩
      · exact Or.inl (h.trans hsame)
      · exact Or.inr ⟨usage,List.mem_append_right _ hmem,by rw [h,hsame]⟩
    · refine Or.inr ⟨usage,List.mem_append_left _ hmem,?_⟩
      rw [coreRun_usages_of_notMem hnames.1,hadd]

/-- Every sum is a sum of at most so many percentages. -/
def SumsWithin (count : ℕ) (usages : AList fun _ : Token => ℚ) : Prop :=
  ∀ name total,usages.lookup name=some total → 0≤total ∧ total≤100*count

/-- Sums of at most so many percentages are sums of at most more. -/
theorem SumsWithin.mono {count more : ℕ} {usages : AList fun _ : Token => ℚ}
    (h : SumsWithin count usages) (hle : count ≤ more) : SumsWithin more usages := by
  intro name total hsum
  obtain ⟨hnonneg,hbound⟩ := h name total hsum
  have hcast : (count : ℚ) ≤ more := by exact_mod_cast hle
  exact ⟨hnonneg,by linarith⟩

/-- One round of core lines of distinct cores adds one percentage to each sum. -/
theorem SumsWithin.coreRun {count : ℕ} {s : CpuState} {lines : List (Token×CpuStatFields)}
    (h : SumsWithin count s.previousCoreUsages) (hnames : (lines.map Prod.fst).Nodup)
    (hsamples : ∀ usage∈(runOutput coreStep s lines).filterMap usageSample,Percent usage) :
    SumsWithin (count+1) (runState coreStep s lines).previousCoreUsages := by
  intro name total hsum
  rcases coreRun_usages hnames s name with hsame|⟨usage,hmem,hadd⟩
  · exact (h.mono (Nat.le_succ count)) name total (hsame ▸ hsum)
  · rw [hadd,Option.some.injEq] at hsum
    obtain ⟨hnonneg,hle⟩ := hsamples usage hmem
    have hbefore : 0≤(s.previousCoreUsages.lookup name).getD 0 ∧
        (s.previousCoreUsages.lookup name).getD 0≤100*count := by
      cases hprev : s.previousCoreUsages.lookup name with
      | none => simp
      | some before => exact h name before hprev
    push_cast
    constructor <;> linarith [hbefore.1,hbefore.2]

/-- A running maximum stays within the bounds of its start and its entries. -/
theorem foldl_max_within {bound : ℚ} {entries : List (Sigma fun _ : Token => ℚ)}
    (hentries : ∀ entry∈entries,entry.2≤bound) {m : ℚ} (hm : 0 ≤ m ∧ m≤bound) :
    0≤entries.foldl (fun m entry => max m entry.2) m ∧
      entries.foldl (fun m entry => max m entry.2) m≤bound := by
  induction entries generalizing m with
  | nil => exact hm
  | cons entry rest ih =>
    exact ih (fun later hl => hentries later (by simp [hl]))
      ⟨hm.1.trans (le_max_left _ _),max_le hm.2 (hentries entry (by simp))⟩

/-- The largest of sums within twelve percentages, divided by twelve, is a
percentage. -/
theorem SumsWithin.largest {usages : AList fun _ : Token => ℚ} (h : SumsWithin 12 usages) :
    Percent (usages.entries.foldl (fun m entry => max m entry.2) 0/12) := by
  have hentries : ∀ entry∈usages.entries,entry.2≤(1200 : ℚ) := fun entry hentry =>
    ((h entry.1 entry.2 (AList.mem_lookup_iff.mpr hentry)).2).trans (by norm_num)
  obtain ⟨hnonneg,hle⟩ := foldl_max_within hentries ⟨le_refl (0 : ℚ),by norm_num⟩
  exact ⟨div_nonneg hnonneg (by norm_num),by rw [div_le_iff₀ (by norm_num)]; linarith⟩

/-- The core lines publish no maximum. -/
theorem coreRun_maxSet (s : CpuState) (lines : List (Token×CpuStatFields)) :
    (runOutput coreStep s lines).filterMap maxSet=[] := by
  rw [List.filterMap_eq_nil_iff]
  intro o ho
  have hcounter := coreRun_isCoreCounter s lines o ho
  cases o <;> simp [isCoreCounter] at hcounter <;> rfl

/-- One UpdateCoreUtilization adds at most one percentage to each sum, sets a
value only at a minute, a percentage when there were fewer than twelve before,
and leaves no sum at a minute whose core lines all parse. -/
theorem updateCoreUtilization_sums {count : ℕ} {s : CpuState} {cpuLines : List (List Token)}
    {sixty : Bool} (h : SumsWithin count s.previousCoreUsages)
    (hnames : (cpuLines.map (·.headD [])).Nodup)
    (hsamples : ∀ usage∈(updateCoreUtilization s cpuLines sixty).2.filterMap usageSample,
      Percent usage) :
    SumsWithin (count+1) (updateCoreUtilization s cpuLines sixty).1.previousCoreUsages ∧
      (∀ value∈(updateCoreUtilization s cpuLines sixty).2.filterMap maxSet,
        sixty=true ∧ (count<12 → Percent value)) ∧
      (sixty=true → CoresParse (cpuLines.drop firstProcessorIndex) →
        (updateCoreUtilization s cpuLines sixty).1.previousCoreUsages.entries=[]) := by
  rw [updateCoreUtilization_eq] at hsamples ⊢
  split at hsamples
  · next hc =>
    rw [if_pos hc]
    have hrun := h.coreRun (coreLines_names hnames) fun usage hu =>
      hsamples usage (by simp [hu])
    refine ⟨fun name total hsum => by simp at hsum,fun value hv => ⟨hc.2.1,fun hcount => ?_⟩,
      fun _ _ => rfl⟩
    rw [List.filterMap_append,coreRun_maxSet] at hv
    obtain rfl : value=_ := List.mem_singleton.mp hv
    exact (hrun.mono (by omega)).largest
  · next hc =>
    rw [if_neg hc]
    have hrun := h.coreRun (coreLines_names hnames) hsamples
    refine ⟨hrun,fun value hv => ?_,fun hsixty hparse => ?_⟩
    · rw [coreRun_maxSet] at hv
      simp at hv
    · by_contra hentries
      exact hc ⟨hparse,hsixty,hentries⟩

/-- Gauge values reach nothing that ignores their publication. -/
theorem filterMap_map_eq_nil {α : Type} (set : CpuPublication → Option α)
    (publish : CpuGaugeValues → CpuPublication) (h : ∀ vals,set (publish vals)=none)
    (values : List CpuGaugeValues) : (values.map publish).filterMap set=[] := by
  rw [List.filterMap_eq_nil_iff]
  intro o ho
  obtain ⟨vals,-,rfl⟩ := List.mem_map.mp ho
  exact h vals

/-- A call that is no five-second call, or finds no cpu line, leaves the sums
and the max gauge alone. -/
theorem cpuStats_sums_unchanged (s : CpuState) {call : CpuStatsCall}
    (h : call.fiveSecondMetrics=false ∨ parseProcStatFile call.stat=[]) :
    (cpuStats s call).1.previousCoreUsages=s.previousCoreUsages ∧
      (cpuStats s call).2.filterMap maxSet=[] := by
  obtain ⟨five,sixty,stat⟩ := call
  have hpeak := filterMap_map_eq_nil maxSet .peakUtilization fun _ => rfl
  have hutil := filterMap_map_eq_nil maxSet .utilization fun _ => rfl
  rw [cpuStats]
  dsimp only at h ⊢
  cases hlines : parseProcStatFile stat with
  | nil => exact ⟨rfl,rfl⟩
  | cons aggregateLine cores =>
    obtain rfl : five=false := by simpa [hlines] using h
    simp only [cpuStatsLines,peakCpuStats_eq,updateUtilizationGauges_eq,Bool.false_eq_true,
      if_false,List.filterMap_append,hpeak]
    cases sixty
    · exact ⟨rfl,rfl⟩
    · exact ⟨rfl,by rw [if_pos rfl,List.filterMap_append,hutil]; rfl⟩

/-- A five-second call that finds cpu lines treats the sums, the samples and the
max gauge as UpdateCoreUtilization does. -/
theorem cpuStats_updateCoreUtilization (s : CpuState) {call : CpuStatsCall}
    (hfive : call.fiveSecondMetrics=true) (hlines : parseProcStatFile call.stat≠[]) :
    ∃ s' : CpuState,s'.previousCoreUsages=s.previousCoreUsages ∧
      (cpuStats s call).1.previousCoreUsages=(updateCoreUtilization s'
        (parseProcStatFile call.stat) call.sixtySecondMetricsEnabled).1.previousCoreUsages ∧
      ∀ {α : Type} (set : CpuPublication → Option α),
        (∀ vals,set (.utilization vals)=none) → (∀ vals,set (.peakUtilization vals)=none) →
        (∀ n,set (.numProcessors n)=none) →
        (cpuStats s call).2.filterMap set=(updateCoreUtilization s'
          (parseProcStatFile call.stat) call.sixtySecondMetricsEnabled).2.filterMap set := by
  obtain ⟨five,sixty,stat⟩ := call
  obtain rfl : five=true := hfive
  rw [cpuStats]
  dsimp only at hlines ⊢
  obtain ⟨aggregateLine,cores,hcons⟩ := List.exists_cons_of_ne_nil hlines
  rw [hcons]
  simp only [cpuStatsLines,peakCpuStats_eq,updateUtilizationGauges_eq,if_true]
  refine ⟨_,?_,rfl,fun set hutil hpeak hnum => ?_⟩
  · cases sixty <;> rfl
  · rw [List.filterMap_append,List.filterMap_append,filterMap_map_eq_nil set _ hpeak,
      List.append_nil]
    cases sixty
    · rfl
    · rw [if_pos rfl,List.filterMap_append,filterMap_map_eq_nil set _ hutil,List.filterMap_cons_none
        (hnum _),List.filterMap_nil,List.nil_append,List.nil_append]

/-- One call whose file names no cpu twice adds at most one percentage to each
sum, sets the max gauge as UpdateCoreUtilization does, and leaves no sum at a
five-second call that is a sixty-second call and clears. -/
theorem cpuStats_sums {count : ℕ} {s : CpuState} {call : CpuStatsCall}
    (h : SumsWithin count s.previousCoreUsages) (hnames : DistinctNames call.stat)
    (hsamples : ∀ usage∈(cpuStats s call).2.filterMap usageSample,Percent usage) :
    SumsWithin (count+1) (cpuStats s call).1.previousCoreUsages ∧
      (∀ value∈(cpuStats s call).2.filterMap maxSet,
        call.sixtySecondMetricsEnabled=true ∧ (count<12 → Percent value)) ∧
      (call.fiveSecondMetrics=true → call.sixtySecondMetricsEnabled=true → Clears call.stat →
        (cpuStats s call).1.previousCoreUsages.entries=[]) := by
  by_cases hcall : call.fiveSecondMetrics=true ∧ parseProcStatFile call.stat≠[]
  · obtain ⟨s',hbefore,hafter,hset⟩ := cpuStats_updateCoreUtilization s hcall.1 hcall.2
    have hmax := hset maxSet (fun _ => rfl) (fun _ => rfl) (fun _ => rfl)
    have husage := hset usageSample (fun _ => rfl) (fun _ => rfl) (fun _ => rfl)
    rw [husage] at hsamples
    rw [←hbefore] at h
    obtain ⟨hsums,hvalues,hclear⟩ := updateCoreUtilization_sums h hnames hsamples
    rw [hafter,hmax]
    exact ⟨hsums,hvalues,fun _ hsixty hclears => hclear hsixty hclears.2⟩
  · have hquiet : call.fiveSecondMetrics=false ∨ parseProcStatFile call.stat=[] := by
      rw [not_and_or,Bool.not_eq_true,not_ne_iff] at hcall
      exact hcall
    obtain ⟨hsame,hmax⟩ := cpuStats_sums_unchanged s hquiet
    rw [hsame,hmax]
    refine ⟨h.mono (Nat.le_succ count),by simp,fun hfive _ hclears => ?_⟩
    rcases hquiet with hno|hempty
    · rw [hfive] at hno
      cases hno
    · exact absurd hempty hclears.1

/-- The call of Proc::CpuStats in an iteration of the system loop. -/
def systemCall (s : LoopState) (input : IterationInput) : CpuStatsCall where
  fiveSecondMetrics := s.nextFiveSecondRun ≤ input.clock.start
  sixtySecondMetricsEnabled := s.nextSixtySecondRun ≤ input.clock.start
  stat := input.stat

/-- The system loop makes this call once in an iteration, and no other. -/
theorem collectorIteration_system (s : CollectorState) (input : IterationInput) :
    collectorIteration collectSystemMetrics s input=
      ({ loop := nextDeadlines s.loop input.clock
         cpu := (cpuStats s.cpu (systemCall s.loop input)).1
         minuteLag := if s.loop.nextSixtySecondRun ≤ input.clock.start then fiveSecondLag s.loop
          else s.minuteLag },
        (cpuStats s.cpu (systemCall s.loop input)).2) := by
  have hcalls : (iterationRecord collectSystemMetrics s.loop input.clock).calls.filterMap
      (procCpuStatsCall input.stat)=[systemCall s.loop input] := by
    simp only [iterationRecord,systemCall]
    generalize decide (s.loop.nextFiveSecondRun ≤ input.clock.start)=five
    generalize decide (s.loop.nextSixtySecondRun ≤ input.clock.start)=sixty
    cases five <;> cases sixty <;> rfl
  rw [collectorIteration,hcalls]
  simp only [runState_cons,runState_nil,runOutput_cons,runOutput_nil,List.append_nil,
    iterationRecord,decide_eq_true_eq]

/-- The loops of the other flavors never call Proc::CpuStats. -/
theorem collectorIteration_outputs {flavor : Flavor} (hflavor : flavor≠.system)
    (s : CollectorState) (input : IterationInput) :
    (collectorIteration (loopBody flavor) s input).2=[] := by
  have hcalls : (iterationRecord (loopBody flavor) s.loop input.clock).calls.filterMap
      (procCpuStatsCall input.stat)=[] := by
    simp only [iterationRecord]
    generalize decide (s.loop.nextFiveSecondRun ≤ input.clock.start)=five
    generalize decide (s.loop.nextSixtySecondRun ≤ input.clock.start)=sixty
    cases flavor with
    | system => exact absurd rfl hflavor
    | titus => cases five <;> cases sixty <;> rfl
    | k8s => cases five <;> cases sixty <;> rfl
  rw [collectorIteration,hcalls]
  rfl

/-- Since the latest sixty-second iteration as many five-second iterations have
run as bound the sums; they have used up the lag found then and 55 seconds. -/
structure Budget (s : CollectorState) : Prop where
  aligned : LoopAligned s.loop
  sums : ∃ rounds : ℕ,fiveSecondLag s.loop+rounds*seconds 5=s.minuteLag+seconds 55 ∧
    SumsWithin rounds s.cpu.previousCoreUsages

/-- A fresh loop has used up nothing. -/
theorem budget_init (now : ℤ) : Budget (CollectorState.init now) where
  aligned := loopAligned_init now
  sums := ⟨0,by simp only [CollectorState.init,LoopState.init,fiveSecondLag,seconds]; omega,
    fun name total hsum => by simp [CollectorState.init,CpuState.init] at hsum⟩

/-- What one iteration does to the lag. -/
theorem fiveSecondLag_nextDeadlines (s : LoopState) (clock : Clock) :
    fiveSecondLag (nextDeadlines s clock)=fiveSecondLag s+
      (if s.nextSixtySecondRun ≤ clock.start then seconds 60 else 0)-
        (if s.nextFiveSecondRun ≤ clock.start then seconds 5 else 0) := by
  simp only [fiveSecondLag,nextDeadlines]
  split <;> split <;> omega

/-- A steady iteration whose samples are percentages keeps the budget and sets
the max gauge to percentages only. -/
theorem budget_step {s : CollectorState} {input : IterationInput} (h : Budget s)
    (hsteady : Steady s input)
    (hsamples : ∀ usage∈(collectorIteration collectSystemMetrics s input).2.filterMap usageSample,
      Percent usage) :
    Budget (collectorIteration collectSystemMetrics s input).1 ∧
      ∀ value∈(collectorIteration collectSystemMetrics s input).2.filterMap maxSet,
        Percent value := by
  obtain ⟨haligned,rounds,hrounds,hsums⟩ := h
  have haligned' := loopAligned_step s.loop input.clock haligned
  have hlag := fiveSecondLag_nextDeadlines s.loop input.clock
  rw [collectorIteration_system] at hsamples ⊢
  have hnames : DistinctNames (systemCall s.loop input).stat := hsteady.names
  obtain ⟨hnext,hmax,hclear⟩ := cpuStats_sums hsums hnames hsamples
  by_cases hfive : s.loop.nextFiveSecondRun ≤ input.clock.start
  · by_cases hsixty : s.loop.nextSixtySecondRun ≤ input.clock.start
    · -- at the minute at most eleven rounds have gone by, and the sums are cleared
      have hbound := hsteady.lag hsixty
      rw [if_pos hfive,if_pos hsixty] at hlag
      simp only [seconds] at hlag hrounds
      refine ⟨⟨haligned',0,?_,fun name total hsum => ?_⟩,
        fun value hv => (hmax value hv).2 (by omega)⟩
      · simp only [seconds,if_pos hsixty,Nat.cast_zero]
        omega
      · have hempty := hclear (decide_eq_true hfive) (decide_eq_true hsixty) (hsteady.clears hsixty)
        have hentry := AList.mem_lookup_iff.mp (Option.mem_def.mpr hsum)
        rw [hempty] at hentry
        cases hentry
    · rw [if_pos hfive,if_neg hsixty] at hlag
      simp only [seconds] at hlag hrounds
      refine ⟨⟨haligned',rounds+1,?_,hnext⟩,fun value hv => ?_⟩
      · simp only [seconds,if_neg hsixty]
        push_cast
        omega
      · exact absurd (of_decide_eq_true (hmax value hv).1) hsixty
  · have hsixty : ¬s.loop.nextSixtySecondRun ≤ input.clock.start :=
      fun hdue => hfive (haligned.due hdue)
    have hcall : (systemCall s.loop input).fiveSecondMetrics=false := decide_eq_false hfive
    obtain ⟨hsame,hquiet⟩ := cpuStats_sums_unchanged s.cpu (Or.inl hcall)
    rw [if_neg hfive,if_neg hsixty] at hlag
    refine ⟨⟨haligned',rounds,?_,by rw [hsame]; exact hsums⟩,by rw [hquiet]; simp⟩
    simp only [if_neg hsixty]
    omega

/-- In a run of steady iterations the max gauge is only ever set to percentages,
as long as the samples are percentages. -/
theorem steady_maxContract (flavor : Flavor) {now : ℤ} {inputs : List IterationInput}
    (h : Meets (collectorIteration (loopBody flavor)) Steady (CollectorState.init now) inputs) :
    MaxContract (loopBody flavor) now inputs := by
  intro _ hsamples value hvalue
  obtain ⟨o,ho,hset⟩ := List.mem_filterMap.mp hvalue
  by_cases hflavor : flavor=.system
  · subst hflavor
    have hrun : Meets (collectorIteration (loopBody .system)) (fun s input =>
        ∀ usage∈(collectorIteration (loopBody .system) s input).2.filterMap usageSample,
          Percent usage) (CollectorState.init now) inputs := by
      refine meets_iff.mpr fun before input after hsplit usage hu => hsamples usage ?_
      obtain ⟨sample,hmem,hsample⟩ := List.mem_filterMap.mp hu
      exact List.mem_filterMap.mpr ⟨sample,mem_runOutput.mpr ⟨before,input,after,hsplit,hmem⟩,
        hsample⟩
    exact output_run Budget (fun o => ∀ value,maxSet o=some value → Percent value)
      (fun s input hb hok => (budget_step hb hok.1 hok.2).1)
      (fun s input hb hok o ho value hset =>
        (budget_step hb hok.1 hok.2).2 value (List.mem_filterMap.mpr ⟨o,ho,hset⟩))
      (budget_init now) (meets_and.mpr ⟨h,hrun⟩) o ho value hset
  · obtain ⟨before,input,after,-,ho⟩ := mem_runOutput.mp ho
    rw [outputAfter,collectorIteration_outputs hflavor] at ho
    cases ho

/-- An iteration at the given second, on a machine whose only core has spent
the given ticks in user mode and none in any other. -/
def busyAt (second : ℤ) (user : String) : IterationInput where
  clock := ⟨seconds second,seconds second⟩
  stat := some ("cpu "++user++" 0 0 0 0 0 0 0 0 0\ncpu0 "++user++" 0 0 0 0 0 0 0 0 0").toList

/-- The same iteration, with the text character by character. -/
def busyInput (second : ℤ) (user : List Char) : IterationInput where
  clock := ⟨seconds second,seconds second⟩
  stat := some (['c','p','u',' ']++user++(List.replicate 9 [' ','0']).flatten++
    ['\n','c','p','u','0',' ']++user++(List.replicate 9 [' ','0']).flatten)

theorem busyAt_eq (second : ℤ) (user : String) :
    busyAt second user=busyInput second user.toList := by
  simp [busyAt,busyInput,List.replicate]

/-- A minute in step with its five-second iterations, on a busy core. -/
def busyMinute : List IterationInput :=
  [busyAt 5 "1",busyAt 10 "2",busyAt 15 "3",busyAt 20 "4",busyAt 25 "5",busyAt 30 "6",
    busyAt 35 "7",busyAt 40 "8",busyAt 45 "9",busyAt 50 "10",busyAt 55 "11",busyAt 60 "12"]

/-- The rule at a minute whose eleven samples make the gauge 91 and two thirds. -/
theorem steady_maxContract_busyMinute :
    MaxContract (loopBody .system) 0 busyMinute ∧
      (publications (loopBody .system) 0 busyMinute).filterMap maxSet=[275/3] := by
  -- on strings the kernel spends most of its time in their encoding
  simp only [busyMinute,busyAt_eq]
  exact ⟨steady_maxContract .system (by decide +kernel),by decide +kernel⟩

/-- A loop entered at second 0 whose first iteration starts at second 60. It
makes up for the missed five-second iterations from second 65 on, and the
five-second schedule has caught up some of its lag by second 120. -/
def catchUp : List IterationInput :=
  busyAt 60 "1"::["2","3","4","5","6","7","8","9","10","11","12","13"].map (busyAt 65)++
    [busyAt 120 "14"]

/-- Thirteen samples of one hundred make the gauge more than one hundred. -/
theorem catchUp_over_hundred : ¬MaxContract (loopBody .system) 0 catchUp := by
  simp only [catchUp,busyAt_eq,List.map_cons,List.map_nil]
  decide +kernel

end AtlasAgent.CoreUtilization
