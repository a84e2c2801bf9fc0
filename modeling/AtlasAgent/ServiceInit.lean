import AtlasAgent.ServiceMonitor
import Mathlib.Data.List.TakeWhile

/-!
# Choosing the services that ServiceMonitor monitors

gather_metrics tries to initialise the monitor at every call until an attempt
succeeds. An attempt appends the units that match to the list as it goes, and
an exception of a regular expression ends it where it stands. What an attempt
meets is input: the results of sysconf, the units D-Bus lists, and what
comparing a name with a pattern gives, which may be an exception.
-/

namespace AtlasAgent.ServiceInit

open RunHistory ServiceMonitor

/-- ServiceMonitorConstants::DefaultMonitoredServices. -/
def defaultMonitoredServices : ℕ := 10

/-- maxMonitoredServices as the constructor sets it; zero means not set. -/
def maxMonitoredServices (maxServices : ℕ) : ℕ :=
  if maxServices=0 then defaultMonitoredServices else maxServices

/-- The members of ServiceMonitor that change. -/
structure MonitorState where
  /-- pageSize_ and clkTck_ of the attempt that succeeded; initSuccess is
  whether there is one. -/
  system : Option SystemConfig
  /-- monitoredServices_. -/
  monitoredServices : List String
  /-- cpuState_. -/
  cpuState : CpuStates

/-- A constructed monitor. -/
def MonitorState.init : MonitorState := ⟨none,[],∅⟩

section Patterns

variable {Pattern : Type}

/-- What an attempt to initialise meets. -/
structure InitAttempt (Pattern : Type) where
  /-- The result of sysconf for the page size. -/
  pageSize : ℤ
  /-- The result of sysconf for the clock ticks. -/
  clkTck : ℤ
  /-- The names of list_all_units; none when it fails. -/
  units : Option (List String)
  /-- std::regex_search of a pattern in a name; without a result it throws. -/
  regexSearch : Pattern → String → Option Bool

/-- std::any_of with a predicate that may throw. -/
def anyOf (search : Pattern → Option Bool) : List Pattern → Option Bool
  | [] => some false
  | pattern::rest =>
    match search pattern with
    | none => none
    | some true => some true
    | some false => anyOf search rest

/-- The comparison of one unit with all patterns. -/
def matched (config : List Pattern) (attempt : InitAttempt Pattern) (unit : String) :
    Option Bool :=
  anyOf (attempt.regexSearch · unit) config

/-- The loop over the units, and whether it comes to its end. The name is
compared before the size of the list is looked at. -/
def unitLoop (matched : String → Option Bool) (limit : ℕ) (monitored : List String) :
    List String → List String×Bool
  | [] => (monitored,true)
  | unit::rest =>
    match matched unit with
    | none => (monitored,false)
    | some false => unitLoop matched limit monitored rest
    | some true =>
      if limit ≤ monitored.length then (monitored,true)
      else unitLoop matched limit (monitored++[unit]) rest

/-- ServiceMonitor::init_monitored_services. An exception is caught at the end
of the function, and what has been appended stays. -/
def initMonitoredServices (limit : ℕ) (config : List Pattern) (s : MonitorState)
    (attempt : InitAttempt Pattern) : MonitorState×Bool :=
  if hpage : 0<attempt.pageSize then
    if htck : 0<attempt.clkTck then
      match attempt.units with
      | none => (s,false)
      | some units =>
        let loop := unitLoop (matched config attempt) limit s.monitoredServices units
        if loop.2 then
          ({ s with
              system := some ⟨attempt.pageSize.toNat,attempt.clkTck.toNat,
                Int.pos_iff_toNat_pos.mp hpage,Int.pos_iff_toNat_pos.mp htck⟩
              monitoredServices := loop.1 },true)
        else ({ s with monitoredServices := loop.1 },false)
    else (s,false)
  else (s,false)

/-- What one call of gather_metrics meets. -/
structure GatherCall (Pattern : Type) where
  attempt : InitAttempt Pattern
  cycle : MonitorCycle

/-- The part of gather_metrics after the monitor has been initialised. -/
def gatherInitialized (system : SystemConfig) (s : MonitorState) (cycle : MonitorCycle) :
    MonitorState×List GaugeSet×Bool :=
  if s.monitoredServices=[] then (s,[],true)
  else
    let updated := updateMetrics system cycle s.cpuState s.monitoredServices
    ({ s with cpuState := updated.1 },updated.2.1,updated.2.2)

/-- ServiceMonitor::gather_metrics with its result. -/
def gatherMetrics (limit : ℕ) (config : List Pattern) (s : MonitorState)
    (call : GatherCall Pattern) : MonitorState×List GaugeSet×Bool :=
  match s.system with
  | some system => gatherInitialized system s call.cycle
  | none =>
    let attempt := initMonitoredServices limit config s call.attempt
    match attempt.1.system with
    | some system => gatherInitialized system attempt.1 call.cycle
    | none => (attempt.1,[],false)

/-- One call as a step. -/
def gatherStep (limit : ℕ) (config : List Pattern) (s : MonitorState)
    (call : GatherCall Pattern) : MonitorState×List GaugeSet :=
  ((gatherMetrics limit config s call).1,(gatherMetrics limit config s call).2.1)

/-- The name matches some configured pattern. -/
def Matches (config : List Pattern) (attempt : InitAttempt Pattern) (unit : String) : Prop :=
  ∃ pattern∈config,attempt.regexSearch pattern unit=some true

instance (config : List Pattern) (attempt : InitAttempt Pattern) (unit : String) :
    Decidable (Matches config attempt unit) :=
  inferInstanceAs (Decidable (∃ pattern∈config,attempt.regexSearch pattern unit=some true))

/-- What one call promises about the list of services. -/
structure AttemptContract (limit : ℕ) (config : List Pattern) (s : MonitorState)
    (call : GatherCall Pattern) : Prop where
  /-- An attempt that fails leaves the list alone. -/
  failed : s.system=none → (initMonitoredServices limit config s call.attempt).2=false →
    (gatherMetrics limit config s call).1.monitoredServices=s.monitoredServices
  /-- An attempt that succeeds lists the first units that match, up to the limit. -/
  succeeded : s.system=none → (initMonitoredServices limit config s call.attempt).2=true →
    ∃ units,call.attempt.units=some units ∧
      (gatherMetrics limit config s call).1.monitoredServices=
        (units.filter (Matches config call.attempt ·)).take limit
  /-- No unit is listed twice by an attempt over uniquely named units. -/
  once : s.system=none → (initMonitoredServices limit config s call.attempt).2=true →
    (∀ units,call.attempt.units=some units → units.Nodup) →
      (gatherMetrics limit config s call).1.monitoredServices.Nodup
  /-- Calls after the attempt that succeeded never change the list. -/
  later : s.system≠none →
    (gatherMetrics limit config s call).1.monitoredServices=s.monitoredServices ∧
      (gatherMetrics limit config s call).1.system=s.system

/-- Every call of a run keeps the promise. -/
def InitContract (maxServices : ℕ) (config : List Pattern) (calls : List (GatherCall Pattern)) :
    Prop :=
  ∀ before call after,calls=before++call::after →
    AttemptContract (maxMonitoredServices maxServices) config
      (runState (gatherStep (maxMonitoredServices maxServices) config) .init before) call

/-- The units before the first one whose comparison throws. -/
def comparedUnits (config : List Pattern) (attempt : InitAttempt Pattern) (units : List String) :
    List String :=
  units.takeWhile fun unit => (matched config attempt unit).isSome

/-- The units that match among those before the first that throws. -/
def matchedUnits (config : List Pattern) (attempt : InitAttempt Pattern) (units : List String) :
    List String :=
  (comparedUnits config attempt units).filter (Matches config attempt ·)

/-- If a comparison of an attempt throws, no unit has matched before, or so
many that the list was full and the loop had ended. -/
def ThrowsUnmatched (limit : ℕ) (config : List Pattern) (s : MonitorState)
    (call : GatherCall Pattern) : Prop :=
  s.system=none → 0<call.attempt.pageSize → 0<call.attempt.clkTck →
    ∀ units,call.attempt.units=some units → (∃ unit∈units,matched config call.attempt unit=none) →
      matchedUnits config call.attempt units=[] ∨
        limit<(matchedUnits config call.attempt units).length

/-- Where no search throws before, a name is found to match when it does. -/
theorem anyOf_isSome {search : Pattern → Option Bool} {config : List Pattern}
    (h : (anyOf search config).isSome) :
    anyOf search config=some true ↔ ∃ pattern∈config,search pattern=some true := by
  induction config with
  | nil => simp [anyOf]
  | cons pattern rest ih =>
    rw [anyOf] at h ⊢
    cases hs : search pattern with
    | none => simp [hs] at h
    | some found =>
      cases found with
      | true => simp [hs]
      | false =>
        simp only [hs] at h ⊢
        rw [ih h]
        simp [hs]

/-- The comparison of a unit that does not throw says whether it matches. -/
theorem matched_eq {config : List Pattern} {attempt : InitAttempt Pattern} {unit : String}
    (h : (matched config attempt unit).isSome) :
    matched config attempt unit=some (decide (Matches config attempt unit)) := by
  have hiff := anyOf_isSome h
  obtain ⟨found,hfound⟩ := Option.isSome_iff_exists.mp h
  rw [hfound,Option.some.injEq]
  rw [matched] at hfound
  rw [hfound,Option.some.injEq] at hiff
  exact Bool.eq_iff_iff.mpr (hiff.trans decide_eq_true_iff.symm)

/-- The loop appends the units that match, among those before the first that
throws, as long as there is room. It comes to its end when no unit throws or
the list is full before the next match. -/
theorem unitLoop_eq (limit : ℕ) (config : List Pattern) (attempt : InitAttempt Pattern)
    (monitored units : List String) (hroom : monitored.length ≤ limit) :
    unitLoop (matched config attempt) limit monitored units=
      (monitored++(matchedUnits config attempt units).take (limit-monitored.length),
        decide ((∀ unit∈units,matched config attempt unit≠none) ∨
          limit-monitored.length<(matchedUnits config attempt units).length)) := by
  induction units generalizing monitored with
  | nil => simp [unitLoop,matchedUnits,comparedUnits]
  | cons unit rest ih =>
    rw [unitLoop]
    cases hm : matched config attempt unit with
    | none => simp [matchedUnits,comparedUnits,hm]
    | some found =>
      have hcompared : comparedUnits config attempt (unit::rest)=
          unit::comparedUnits config attempt rest := by simp [comparedUnits,hm]
      have hfound : found=decide (Matches config attempt unit) := by
        have heq := matched_eq (by rw [hm]; rfl : (matched config attempt unit).isSome)
        rwa [hm,Option.some.injEq] at heq
      cases found with
      | false =>
        have hunits : matchedUnits config attempt (unit::rest)=
            matchedUnits config attempt rest := by
          rw [matchedUnits,hcompared,List.filter_cons_of_neg (by simp [←hfound]),matchedUnits]
        dsimp only
        rw [ih monitored hroom,hunits]
        simp [hm]
      | true =>
        have hunits : matchedUnits config attempt (unit::rest)=
            unit::matchedUnits config attempt rest := by
          rw [matchedUnits,hcompared,List.filter_cons_of_pos (by simp [←hfound]),matchedUnits]
        dsimp only
        rw [hunits]
        split
        · next hfull =>
          have hzero : limit-monitored.length=0 := by omega
          simp [hzero]
        · next hspace =>
          have hlength : (monitored++[unit]).length=monitored.length+1 := by simp
          have hroom' : limit-monitored.length=limit-(monitored++[unit]).length+1 := by omega
          rw [ih (monitored++[unit]) (by omega),hroom',List.take_succ_cons,List.append_assoc,
            List.singleton_append]
          simp [hm]

/-- When no unit throws, the units that match are those of the whole list. -/
theorem matchedUnits_of_no_throw {config : List Pattern} {attempt : InitAttempt Pattern}
    {units : List String} (h : ∀ unit∈units,matched config attempt unit≠none) :
    matchedUnits config attempt units=units.filter (Matches config attempt ·) := by
  have hall : comparedUnits config attempt units=units :=
    List.takeWhile_eq_self_iff.mpr fun unit hunit =>
      Option.isSome_iff_ne_none.mpr (h unit hunit)
  rw [matchedUnits,hall]

/-- As far as the list reaches, the units that match before the first that
throws are the first units that match at all. -/
theorem take_matchedUnits {limit : ℕ} {config : List Pattern} {attempt : InitAttempt Pattern}
    {units : List String} (h : limit ≤ (matchedUnits config attempt units).length) :
    (matchedUnits config attempt units).take limit=
      (units.filter (Matches config attempt ·)).take limit := by
  have hsplit : units.filter (Matches config attempt ·)=matchedUnits config attempt units++
      (units.dropWhile fun unit => (matched config attempt unit).isSome).filter
        (Matches config attempt ·) := by
    rw [matchedUnits,comparedUnits,←List.filter_append,List.takeWhile_append_dropWhile]
  rw [hsplit,List.take_append_of_le_length h]

/-- The limit set by the constructor leaves room for a service. -/
theorem maxMonitoredServices_pos (maxServices : ℕ) : 0 < maxMonitoredServices maxServices := by
  rw [maxMonitoredServices,defaultMonitoredServices]
  split <;> omega

/-- The part after the initialisation keeps the list and the members that
belong to it. -/
theorem gatherInitialized_keeps (system : SystemConfig) (s : MonitorState) (cycle : MonitorCycle) :
    (gatherInitialized system s cycle).1.monitoredServices=s.monitoredServices ∧
      (gatherInitialized system s cycle).1.system=s.system := by
  rw [gatherInitialized]
  split <;> exact ⟨rfl,rfl⟩

/-- A call that has to initialise leaves the list and the members as the
attempt does. -/
theorem gatherMetrics_of_none (limit : ℕ) (config : List Pattern) {s : MonitorState}
    (hs : s.system=none) (call : GatherCall Pattern) :
    (gatherMetrics limit config s call).1.monitoredServices=
        (initMonitoredServices limit config s call.attempt).1.monitoredServices ∧
      (gatherMetrics limit config s call).1.system=
        (initMonitoredServices limit config s call.attempt).1.system := by
  rw [gatherMetrics,hs]
  dsimp only
  split
  · exact gatherInitialized_keeps _ _ _
  · exact ⟨rfl,rfl⟩

/-- An attempt from an empty list comes as far as listing units or leaves
everything alone. -/
theorem initMonitoredServices_cases (limit : ℕ) (config : List Pattern) {s : MonitorState}
    (hs : s.system=none) (hempty : s.monitoredServices=[]) (attempt : InitAttempt Pattern) :
    (∃ units,(0<attempt.pageSize ∧ 0<attempt.clkTck ∧ attempt.units=some units) ∧
      (initMonitoredServices limit config s attempt).1.monitoredServices=
        (matchedUnits config attempt units).take limit ∧
      ((initMonitoredServices limit config s attempt).2=true ↔
        (∀ unit∈units,matched config attempt unit≠none) ∨
          limit<(matchedUnits config attempt units).length) ∧
      ((initMonitoredServices limit config s attempt).1.system=none ↔
        (initMonitoredServices limit config s attempt).2=false)) ∨
    ((¬∃ units,0<attempt.pageSize ∧ 0<attempt.clkTck ∧ attempt.units=some units) ∧
      initMonitoredServices limit config s attempt=(s,false)) := by
  by_cases hreached : ∃ units,0<attempt.pageSize ∧ 0<attempt.clkTck ∧ attempt.units=some units
  · obtain ⟨units,hpage,htck,hunits⟩ := hreached
    refine Or.inl ⟨units,⟨hpage,htck,hunits⟩,?_⟩
    have hloop := unitLoop_eq limit config attempt [] units (Nat.zero_le limit)
    rw [List.nil_append,List.length_nil,Nat.sub_zero] at hloop
    rw [initMonitoredServices,dif_pos hpage,dif_pos htck,hunits]
    dsimp only
    rw [hempty,hloop]
    dsimp only
    split
    · next hdone => exact ⟨rfl,iff_of_true rfl (of_decide_eq_true hdone),by simp⟩
    · next hdone =>
      exact ⟨rfl,iff_of_false Bool.false_ne_true (fun h => hdone (decide_eq_true h)),by simp [hs]⟩
  · refine Or.inr ⟨hreached,?_⟩
    rw [initMonitoredServices]
    split
    · next hpage =>
      split
      · next htck =>
        split
        · rfl
        · next units hunits => exact absurd ⟨units,hpage,htck,hunits⟩ hreached
      · rfl
    · rfl

/-- Nothing is listed before the monitor has been initialised. -/
def UnlistedBefore (s : MonitorState) : Prop := s.system=none → s.monitoredServices=[]

/-- A call after the initialisation keeps its promise. -/
theorem attemptContract_of_system (limit : ℕ) (config : List Pattern) {s : MonitorState}
    {system : SystemConfig} (hs : s.system=some system) (call : GatherCall Pattern) :
    AttemptContract limit config s call ∧ ThrowsUnmatched limit config s call := by
  have hgather : gatherMetrics limit config s call=gatherInitialized system s call.cycle := by
    rw [gatherMetrics,hs]
  have hne : s.system≠none := by rw [hs]; exact Option.some_ne_none system
  refine ⟨⟨fun hnone => absurd hnone hne,fun hnone => absurd hnone hne,
    fun hnone => absurd hnone hne,fun _ => ?_⟩,fun hnone => absurd hnone hne⟩
  rw [hgather]
  exact gatherInitialized_keeps _ _ _

/-- So does a call whose attempt does not come as far as listing units. -/
theorem attemptContract_of_unreached {limit : ℕ} {config : List Pattern} {s : MonitorState}
    (hs : s.system=none) {call : GatherCall Pattern}
    (hreached : ¬∃ units,0<call.attempt.pageSize ∧ 0<call.attempt.clkTck ∧
      call.attempt.units=some units)
    (hinit : initMonitoredServices limit config s call.attempt=(s,false)) :
    AttemptContract limit config s call ∧ ThrowsUnmatched limit config s call := by
  have hgather := (gatherMetrics_of_none limit config hs call).1
  have hfalse : (initMonitoredServices limit config s call.attempt).2≠true := by
    rw [hinit]
    exact Bool.false_ne_true
  refine ⟨⟨fun _ _ => ?_,fun _ htrue => absurd htrue hfalse,
    fun _ htrue => absurd htrue hfalse,fun hne => absurd hs hne⟩,
    fun _ hpage htck units hunits => absurd ⟨units,hpage,htck,hunits⟩ hreached⟩
  rw [hgather,hinit]

/-- A call that finds nothing listed before the initialisation keeps its
promise exactly when an exception of its attempt comes before any match. -/
theorem attemptContract_iff {limit : ℕ} (hlimit : 0<limit) (config : List Pattern)
    {s : MonitorState} (h : UnlistedBefore s) (call : GatherCall Pattern) :
    AttemptContract limit config s call ↔ ThrowsUnmatched limit config s call := by
  cases hs : s.system with
  | some system =>
    obtain ⟨hcontract,hclean⟩ := attemptContract_of_system limit config hs call
    exact iff_of_true hcontract hclean
  | none =>
    have hempty := h hs
    have hgather := (gatherMetrics_of_none limit config hs call).1
    have htake (units : List String) : (matchedUnits config call.attempt units).take limit=[] ↔
        matchedUnits config call.attempt units=[] := by
      rw [List.take_eq_nil_iff,or_iff_right hlimit.ne']
    rcases initMonitoredServices_cases limit config hs hempty call.attempt with
      ⟨units,⟨hpage,htck,hunits⟩,hlist,hresult,-⟩|⟨hreached,hinit⟩
    · have hsucceeded : (initMonitoredServices limit config s call.attempt).2=true →
          (matchedUnits config call.attempt units).take limit=
            (units.filter (Matches config call.attempt ·)).take limit := by
        intro htrue
        rcases hresult.mp htrue with hall|hfull
        · rw [matchedUnits_of_no_throw hall]
        · exact take_matchedUnits hfull.le
      constructor
      · intro hcontract _ _ _ units' hunits' hthrows
        obtain rfl : units=units' := Option.some.inj (hunits.symm.trans hunits')
        by_contra! hlisted
        have hfalse : (initMonitoredServices limit config s call.attempt).2=false := by
          rw [←Bool.not_eq_true,hresult,not_or,not_lt]
          obtain ⟨unit,hunit,hnone⟩ := hthrows
          exact ⟨fun hall => hall unit hunit hnone,hlisted.2⟩
        have hkept := hcontract.failed hs hfalse
        rw [hgather,hlist,hempty,htake] at hkept
        exact hlisted.1 hkept
      · intro hclean
        refine ⟨fun _ hfalse => ?_,fun _ htrue => ⟨units,hunits,?_⟩,fun _ htrue hnodup => ?_,
          fun hne => absurd hs hne⟩
        · rw [←Bool.not_eq_true,hresult,not_or] at hfalse
          have hthrows : ∃ unit∈units,matched config call.attempt unit=none := by
            by_contra! hall
            exact hfalse.1 hall
          rw [hgather,hlist,hempty,htake]
          exact (hclean hs hpage htck units hunits hthrows).resolve_right hfalse.2
        · rw [hgather,hlist,hsucceeded htrue]
        · rw [hgather,hlist,hsucceeded htrue]
          exact ((hnodup units hunits).filter _).sublist (List.take_sublist _ _)
    · obtain ⟨hcontract,hclean⟩ := attemptContract_of_unreached hs hreached hinit
      exact iff_of_true hcontract hclean

/-- Such a call lists nothing before the initialisation either. -/
theorem unlistedBefore_step {limit : ℕ} (hlimit : 0<limit) (config : List Pattern)
    {s : MonitorState} (h : UnlistedBefore s) {call : GatherCall Pattern}
    (hclean : ThrowsUnmatched limit config s call) :
    UnlistedBefore (gatherStep limit config s call).1 := by
  intro hnone
  have hcontract := (attemptContract_iff hlimit config h call).mpr hclean
  rw [gatherStep] at hnone ⊢
  have hs : s.system=none := by
    by_contra hne
    exact hne ((hcontract.later hne).2.symm.trans hnone)
  have hattempt := (gatherMetrics_of_none limit config hs call).2
  dsimp only at hnone ⊢
  rw [hattempt] at hnone
  have hfalse : (initMonitoredServices limit config s call.attempt).2=false := by
    rcases initMonitoredServices_cases limit config hs (h hs) call.attempt with
      ⟨_,_,_,_,hsystem⟩|⟨_,hinit⟩
    · exact hsystem.mp hnone
    · rw [hinit]
  rw [hcontract.failed hs hfalse]
  exact h hs

/-- A run keeps the promise exactly when, in every attempt to initialise, an
exception of a comparison comes before any unit has matched or is not reached. -/
theorem initContract_iff (maxServices : ℕ) (config : List Pattern)
    (calls : List (GatherCall Pattern)) :
    InitContract maxServices config calls ↔
      Meets (gatherStep (maxMonitoredServices maxServices) config)
        (ThrowsUnmatched (maxMonitoredServices maxServices) config) .init calls := by
  have hlimit := maxMonitoredServices_pos maxServices
  rw [InitContract,←meets_iff]
  exact meets_iff_of_invariant (fun s call h => attemptContract_iff hlimit config h call)
    (fun s call h hclean => unlistedBefore_step hlimit config h hclean) fun _ => rfl

end Patterns

/-- Two units match, and comparing the name of a third one throws. -/
def throwingAttempt : InitAttempt Unit where
  pageSize := 4096
  clkTck := 100
  units := some ["a.service","b.service","c.service"]
  regexSearch _ unit := if unit="c.service" then none else some true

/-- The failed attempt leaves the two units in the list. -/
theorem failed_attempt_lists_units :
    ¬InitContract 0 [()] [⟨throwingAttempt,⟨0,fun _ => ⟨none,none,none,none,none,none,none⟩⟩⟩] := by
  intro h
  have hfailed := (h [] _ [] rfl).failed rfl (by decide +kernel)
  exact absurd hfailed (by decide +kernel)

end AtlasAgent.ServiceInit
