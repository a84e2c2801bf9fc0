import AtlasAgent.DecimalText
import AtlasAgent.Effects
import AtlasAgent.Ethtool
import AtlasAgent.LatestSample
import AtlasAgent.ProgramFrames
import AtlasAgent.ReadOutput
import AtlasAgent.SpacedText

/-!
# Ethtool::collect

The interfaces are read off ip link show until there are some, and are then
never looked for again; ethtool -S is run for each of them in every call. The
second field of a line is taken without asking whether there is one, and no
exception may leave collect, so that either ends the agent.
-/

namespace AtlasAgent.EthtoolLinks

open DecimalText Effects Ethtool FallibleLoop LatestSample NumberText ProgramFrames RunHistory
  SpacedText TextFields
open ReadOutput (Environment canExecute readOutputLines)

/-- What collect does that is seen outside. -/
inductive Event
  /-- A command that read_output_lines runs. -/
  | command (text : Token)
  /-- A metric that is set. -/
  | set (metric : MetricSet)

/-- What ends the agent. -/
inductive Fault
  /-- A field that the line does not have is read. -/
  | noField
  /-- An exception leaves a function that may not throw. -/
  | exception (exception : StdException)

/-- A part of collect; the state is interfaces_. -/
abbrev Collector := Program (List Token) Event Fault

/-- What a call of collect meets. -/
structure Call where
  environment : Environment
  /-- The lines of ip link show. -/
  ipLinks : List Token
  /-- The lines of ethtool -S for the interface at a position. -/
  nicStats : ℕ → List Token

/-- The body of the loop of enumerate_interfaces. -/
def linkStep (result : List Token) (line : Token) : Except Fault (List Token) :=
  if line.head?=some ' ' then .ok result
  else if "eth".toList<:+:line then
    match (line.splitOn ' ')[1]? with
    | some field => .ok (result++[field.dropLast])
    | none => .error .noField
  else .ok result

/-- Ethtool::enumerate_interfaces. -/
def enumerateInterfaces (lines : List Token) : Except Fault (List Token) :=
  lines.foldlM linkStep []

/-- The body of the loop of ethtool_stats. -/
def statLine (netTags : Tags) (iface line : Token) : Collector Unit := do
  let sets ← lift ((statLineStep netTags iface [] line).mapError .exception)
  forEach (fun metric => emit (.set metric)) sets

/-- The loop of collect over the interfaces with their positions. -/
def interfaceStats (netTags : Tags) (call : Call) (iface : Token×ℕ) : Collector Unit := do
  emit (.command ("ethtool -S ".toList++iface.1))
  forEach (statLine netTags iface.1) (call.nicStats iface.2)

/-- Looking for interfaces while there are none. -/
def findInterfaces (call : Call) : Collector Unit := do
  let interfaces ← getState
  if interfaces=[] then do
    emit (.command "ip link show".toList)
    let links ← lift (enumerateInterfaces call.ipLinks)
    modifyState fun _ => links
  else pure ()

/-- Ethtool::collect. -/
def collect (netTags : Tags) (call : Call) : Collector Unit :=
  if canExecute call.environment "ethtool".toList then do
    findInterfaces call
    let interfaces ← getState
    forEach (interfaceStats netTags call) interfaces.zipIdx
  else pure ()

/-- A call as a step of a run. -/
def step (netTags : Tags) (interfaces : List Token) (call : Call) : List Token×List Event :=
  ((collect netTags call interfaces).state,(collect netTags call interfaces).outputs)

/-- The interfaces that a call finds if it looks for them, unless there are none. -/
def found (call : Call) : Option (List Token) :=
  if canExecute call.environment "ethtool".toList then
    match enumerateInterfaces call.ipLinks with
    | .ok links => if links=[] then none else some links
    | .error _ => none
  else none

/-- The interfaces that are not looked for again. -/
def kept (interfaces : List Token) : Option (List Token) :=
  if interfaces=[] then none else some interfaces

/-- A line that enumerate_interfaces can take a field from, or takes none. -/
def HasField (line : Token) : Prop :=
  line.head?≠some ' ' → "eth".toList<:+:line → ' ' ∈ line

/-- What is done for an interface whose numbers fit. -/
def interfaceEvents (netTags : Tags) (call : Call) (iface : Token×ℕ) : List Event :=
  .command ("ethtool -S ".toList++iface.1)::
    ((ethtoolStats netTags iface.1 (call.nicStats iface.2)).toOption.getD []).map .set

/-- What a call does where some interfaces, or none, are known before it and
others are there after it. -/
structure Collects (netTags : Tags) (call : Call) (interfaces : List Token)
    (known : Option (List Token)) (after : List Token) : Prop where
  state : (collect netTags call interfaces).state=after
  /-- The agent ends at a line without a field to take, or at a number that does not fit. -/
  returns : Returns (collect netTags call) interfaces ↔
    (canExecute call.environment "ethtool".toList=true →
      (known=none → ∀ line∈call.ipLinks,HasField line) ∧
        ∀ iface∈after.zipIdx,∀ line∈call.nicStats iface.2,¬OutOfRange line)
  /-- The interfaces are looked for only where none is known. -/
  outputs : Returns (collect netTags call) interfaces → (collect netTags call interfaces).outputs=
    if canExecute call.environment "ethtool".toList then
      (if known=none then [.command "ip link show".toList] else [])++
        after.zipIdx.flatMap (interfaceEvents netTags call)
    else []

section Lines

variable (netTags : Tags) (iface : Token)

/-- What a line sets is added to what has been set. -/
theorem statLineStep_eq (sets : List MetricSet) (line : Token) :
    statLineStep netTags iface sets line=
      (statLineStep netTags iface [] line).map (sets++·) := by
  unfold statLineStep
  cases statKey line with
  | none => exact congrArg Except.ok (List.append_nil sets).symm
  | some key =>
    dsimp only
    cases updateMetric line fun number => ⟨key.kind,key.name,keyTags netTags iface key,number⟩ with
    | error exception => rfl
    | ok added => rfl

/-- A line throws exactly when it has a number that does not fit. -/
theorem isOk_statLineStep_iff (line : Token) :
    (∃ sets,statLineStep netTags iface [] line=.ok sets) ↔ ¬OutOfRange line := by
  obtain ⟨hthrow,herror⟩|⟨hnot,-,hidle⟩|⟨hnot,-,hpass⟩ := statLineStep_cases netTags iface line
  · obtain ⟨exception,herror⟩ := herror []
    exact iff_of_false (fun ⟨sets,hsets⟩ => by rw [herror] at hsets; cases hsets)
      (not_not_intro hthrow)
  · exact iff_of_true ⟨[],hidle []⟩ hnot
  · exact iff_of_true (hpass []) hnot

/-- The loop of collect over the lines of an interface sets what ethtool_stats
sets. -/
theorem forEach_statLine {lines : List Token} (h : ∀ line∈lines,¬OutOfRange line)
    (interfaces : List Token) :
    ∃ sets,ethtoolStats netTags iface lines=.ok sets ∧
      forEach (statLine netTags iface) lines interfaces=
        ⟨interfaces,sets.map .set,.ok ()⟩ := by
  suffices hloop : ∀ before,∃ sets,lines.foldlM (statLineStep netTags iface) before=
      .ok (before++sets) ∧ forEach (statLine netTags iface) lines interfaces=
        ⟨interfaces,sets.map .set,.ok ()⟩ from hloop []
  induction lines with
  | nil => exact fun before => ⟨[],congrArg Except.ok (List.append_nil before).symm,rfl⟩
  | cons line lines ih =>
    intro before
    have hrest := ih fun other hother => h other (List.mem_cons_of_mem line hother)
    obtain ⟨first,hfirst⟩ :=
      (isOk_statLineStep_iff netTags iface line).mpr (h line List.mem_cons_self)
    obtain ⟨sets,hsets,hrun⟩ := hrest (before++first)
    have hemit := forEach_apply (fun metric => [Event.set metric]) (s := interfaces)
      fun (metric : MetricSet) (_ : metric∈first) =>
        (rfl : (emit (.set metric) : Collector Unit) interfaces=⟨interfaces,[.set metric],.ok ()⟩)
    rw [←List.map_eq_flatMap] at hemit
    refine ⟨first++sets,?_,?_⟩
    · rw [List.foldlM_cons,statLineStep_eq netTags iface,hfirst,←List.append_assoc]
      exact hsets
    · rw [forEach,bind_apply,statLine,hfirst,bind_apply]
      change Outcome.andThen (Outcome.andThen ⟨interfaces,[],.ok first⟩ _) _=_
      rw [andThen_ok,hemit,andThen_ok,hrun,List.map_append]
      rfl

/-- What is done for an interface, if every number fits. -/
theorem interfaceStats_apply {call : Call} {iface : Token×ℕ}
    (h : ∀ line∈call.nicStats iface.2,¬OutOfRange line) (interfaces : List Token) :
    interfaceStats netTags call iface interfaces=
      ⟨interfaces,interfaceEvents netTags call iface,.ok ()⟩ := by
  obtain ⟨sets,hsets,hrun⟩ := forEach_statLine netTags iface.1 h interfaces
  rw [interfaceStats,bind_apply,emit_apply,andThen_ok,hrun,interfaceEvents,hsets]
  rfl

/-- The lines of an interface are all taken exactly when every number fits. -/
theorem returns_interfaceStats_iff (call : Call) (iface : Token×ℕ) (interfaces : List Token) :
    Returns (interfaceStats netTags call iface) interfaces ↔
      ∀ line∈call.nicStats iface.2,¬OutOfRange line := by
  have hline : ∀ line interfaces,
      Returns (statLine netTags iface.1 line) interfaces ↔ ¬OutOfRange line := by
    intro line interfaces
    rw [←isOk_statLineStep_iff netTags iface.1,statLine,returns_bind]
    have hemit : ∀ (sets : List MetricSet) (interfaces : List Token),
        Returns (forEach (fun metric => (emit (.set metric) : Collector Unit)) sets) interfaces :=
      fun sets interfaces =>
        (returns_forEach (fun metric s => returns_emit (Event.set metric) s) sets interfaces).mpr
          fun _ _ => trivial
    cases statLineStep netTags iface.1 [] line with
    | error exception => simp [Except.mapError]
    | ok sets => simpa [Except.mapError] using hemit sets interfaces
  rw [interfaceStats,returns_seq (returns_emit _ _) fun _ s =>
    returns_forEach hline (call.nicStats iface.2) s,true_and]

end Lines

section Runs

variable {netTags : Tags} {call : Call} {interfaces : List Token}

/-- A line has a second field exactly when there is a space. -/
theorem isSome_secondField_iff (line : Token) : (line.splitOn ' ')[1]?.isSome ↔ ' ' ∈ line := by
  rw [isSome_getElem?]
  constructor
  · intro hlength
    by_contra hspace
    rw [List.splitOn_eq_singleton hspace,List.length_singleton] at hlength
    omega
  · intro hspace
    obtain ⟨before,after,rfl⟩ := List.append_of_mem hspace
    have hfirst := List.length_pos_iff.mpr (List.splitOn_ne_nil ' ' before)
    have hrest := List.length_pos_iff.mpr (List.splitOn_ne_nil ' ' after)
    rw [List.splitOn_append_cons_self,List.length_append]
    omega

/-- A line ends enumerate_interfaces exactly when it has no field to take. -/
theorem isOk_linkStep_iff (result : List Token) (line : Token) :
    (∃ links,linkStep result line=.ok links) ↔ HasField line := by
  rw [HasField,←isSome_secondField_iff,linkStep]
  by_cases hblank : line.head?=some ' '
  · rw [if_pos hblank]
    exact iff_of_true ⟨result,rfl⟩ fun hnot => absurd hblank hnot
  rw [if_neg hblank]
  by_cases heth : "eth".toList<:+:line
  · rw [if_pos heth]
    cases (line.splitOn ' ')[1]? with
    | none =>
      refine iff_of_false ?_ fun h => absurd (h hblank heth) (by simp)
      rintro ⟨links,hlinks⟩
      cases hlinks
    | some field => exact iff_of_true ⟨_,rfl⟩ fun _ _ => rfl
  · rw [if_neg heth]
    exact iff_of_true ⟨result,rfl⟩ fun _ hnot => absurd hnot heth

/-- enumerate_interfaces returns exactly when each line has a field to take, or
none is taken from it. -/
theorem isOk_enumerateInterfaces_iff (lines : List Token) :
    (∃ links,enumerateInterfaces lines=.ok links) ↔ ∀ line∈lines,HasField line :=
  exists_ok_iff isOk_linkStep_iff lines []

/-- What the search for interfaces leaves: what was there, or what is found. -/
theorem findInterfaces_cases (interfaces : List Token)
    (hexecute : canExecute call.environment "ethtool".toList=true) :
    interfaces≠[] ∧ findInterfaces call interfaces=⟨interfaces,[],.ok ()⟩ ∨
      interfaces=[] ∧ (∀ line∈call.ipLinks,HasField line) ∧ findInterfaces call interfaces=
        ⟨(found call).getD [],[.command "ip link show".toList],.ok ()⟩ ∨
      interfaces=[] ∧ (¬∀ line∈call.ipLinks,HasField line) ∧ found call=none ∧
        ∃ fault,findInterfaces call interfaces=
          ⟨[],[.command "ip link show".toList],.error fault⟩ := by
  by_cases hempty : interfaces=[]
  · subst hempty
    rw [←isOk_enumerateInterfaces_iff,findInterfaces,bind_apply,getState_apply,andThen_ok,
      if_pos rfl,bind_apply,emit_apply,andThen_ok,bind_apply,found,if_pos hexecute]
    cases henum : enumerateInterfaces call.ipLinks with
    | error fault => exact .inr (.inr ⟨rfl,by simp,rfl,fault,rfl⟩)
    | ok links =>
      refine .inr (.inl ⟨rfl,⟨links,rfl⟩,?_⟩)
      have hlinks : (if links=[] then none else some links).getD []=links := by
        split
        · exact (by assumption : links=[]).symm
        · rfl
      exact congrArg (fun links => Outcome.mk links [Event.command "ip link show".toList] (.ok ()))
        hlinks.symm
  · refine .inl ⟨hempty,?_⟩
    rw [findInterfaces,bind_apply,getState_apply,andThen_ok,if_neg hempty]
    rfl

/-- What an interface does leaves the interfaces as they are. -/
theorem keeps_interfaceStats (iface : Token×ℕ) :
    Keeps id (interfaceStats netTags call iface) := by
  refine keeps_bind (keeps_emit _) fun _ => keeps_forEach (fun line => ?_) _
  exact keeps_bind (keeps_lift _) fun sets => keeps_forEach (fun metric => keeps_emit _) sets

/-- The loop over the interfaces. -/
theorem interfacesLoop_spec (netTags : Tags) (call : Call) (interfaces : List Token) :
    let program := forEach (interfaceStats netTags call) interfaces.zipIdx
    (program interfaces).state=interfaces ∧
      (Returns program interfaces ↔
        ∀ iface∈interfaces.zipIdx,∀ line∈call.nicStats iface.2,¬OutOfRange line) ∧
      (Returns program interfaces → (program interfaces).outputs=
        interfaces.zipIdx.flatMap (interfaceEvents netTags call)) := by
  intro program
  have hreturns : Returns program interfaces ↔
      ∀ iface∈interfaces.zipIdx,∀ line∈call.nicStats iface.2,¬OutOfRange line :=
    returns_forEach (returns_interfaceStats_iff netTags call) interfaces.zipIdx interfaces
  refine ⟨keeps_forEach keeps_interfaceStats _ interfaces,hreturns,fun h => ?_⟩
  have hfits := hreturns.mp h
  have hrun := forEach_apply (interfaceEvents netTags call) fun iface hiface =>
    interfaceStats_apply netTags (hfits iface hiface) interfaces
  exact congrArg Outcome.outputs hrun

/-- A call goes over the interfaces that the search leaves. -/
theorem collects_of_finds {known : Option (List Token)} {after : List Token} {first : List Event}
    (hexecute : canExecute call.environment "ethtool".toList=true)
    (hfirst : findInterfaces call interfaces=⟨after,first,.ok ()⟩)
    (hfields : known=none → ∀ line∈call.ipLinks,HasField line)
    (hcommand : first=if known=none then [.command "ip link show".toList] else []) :
    Collects netTags call interfaces known after := by
  obtain ⟨hstate,hreturns,houtputs⟩ := interfacesLoop_spec netTags call after
  have hrun : collect netTags call interfaces=
      ⟨(forEach (interfaceStats netTags call) after.zipIdx after).state,
        first++(forEach (interfaceStats netTags call) after.zipIdx after).outputs,
        (forEach (interfaceStats netTags call) after.zipIdx after).result⟩ := by
    rw [collect,if_pos hexecute,bind_apply,hfirst,andThen_ok,bind_apply,getState_apply,andThen_ok]
    rfl
  have hreturn : Returns (collect netTags call) interfaces ↔
      Returns (forEach (interfaceStats netTags call) after.zipIdx) after := by
    rw [Returns,hrun,Returns]
  refine ⟨(congrArg Outcome.state hrun).trans hstate,?_,fun h => ?_⟩
  · rw [hreturn,hreturns]
    exact ⟨fun hfits _ => ⟨hfields,hfits⟩,fun h => (h hexecute).2⟩
  · rw [if_pos hexecute,hrun,←houtputs (hreturn.mp h),hcommand]

theorem kept_getD (interfaces : List Token) : (kept interfaces).getD []=interfaces := by
  rw [kept]
  split
  · exact (by assumption : interfaces=[]).symm
  · rfl

/-- What a call does from any interfaces. -/
theorem collect_spec (netTags : Tags) (call : Call) (interfaces : List Token) :
    Collects netTags call interfaces (kept interfaces)
      (((kept interfaces).or (found call)).getD []) := by
  by_cases hexecute : canExecute call.environment "ethtool".toList=true
  · obtain ⟨hne,hrun⟩|⟨rfl,hfields,hrun⟩|⟨rfl,hfields,hfound,fault,hrun⟩ :=
      findInterfaces_cases interfaces hexecute
    · have hkept : kept interfaces=some interfaces := if_neg hne
      rw [hkept]
      exact collects_of_finds hexecute hrun (fun hnone => by cases hnone) rfl
    · exact collects_of_finds hexecute hrun (fun _ => hfields) rfl
    · have hrun' : collect netTags call []=
          ⟨[],[.command "ip link show".toList],.error fault⟩ := by
        rw [collect,if_pos hexecute,bind_apply,hrun,andThen_error]
      have hnot : ¬Returns (collect netTags call) [] := by
        rw [Returns,hrun']
        rintro ⟨value,hvalue⟩
        cases hvalue
      refine ⟨?_,iff_of_false hnot fun h => hfields ((h hexecute).1 rfl),fun h => absurd h hnot⟩
      rw [hrun',hfound]
      rfl
  · have hafter : ((kept interfaces).or (found call)).getD []=interfaces := by
      rw [found,if_neg hexecute,Option.or_none,kept_getD]
    have hrun : collect netTags call=pure () := if_neg hexecute
    rw [hafter]
    refine ⟨by rw [hrun]; rfl,?_,fun _ => by rw [hrun,if_neg hexecute]; rfl⟩
    rw [hrun]
    exact iff_of_true ((returns_pure () interfaces).mpr trivial) fun h => absurd h hexecute

/-- Something is found where there is an interface. -/
theorem kept_found (call : Call) : kept ((found call).getD [])=found call := by
  rw [found]
  split
  · split
    · split
      · rfl
      · exact if_neg (by assumption)
    · rfl
  · rfl

/-- What is found is kept. -/
theorem kept_collect (netTags : Tags) (call : Call) (interfaces : List Token) :
    kept (step netTags interfaces call).1=(kept interfaces).or (found call) := by
  rw [step,(collect_spec netTags call interfaces).state]
  cases hkept : kept interfaces with
  | none => exact kept_found call
  | some links =>
    have hlinks := kept_getD interfaces
    rw [hkept,Option.getD_some] at hlinks
    rw [Option.some_or,Option.getD_some,hlinks,hkept,hlinks]

/-- In every run the interfaces are those of the first call that finds some: up
to then every call that has ethtool looks for them, and no call does afterwards.
A call returns exactly when every line that is looked at for interfaces has a
field to take and every number of an interface fits. -/
theorem links_every_run (netTags : Tags) (history : List Call) (call : Call) :
    runState (step netTags) [] history=(history.findSome? found).getD [] ∧
      Collects netTags call (runState (step netTags) [] history) (history.findSome? found)
        (((history++[call]).findSome? found).getD []) := by
  have hkept := kept_every_run kept found (fun interfaces call =>
    kept_collect netTags call interfaces) [] history
  rw [show kept []=none from rfl,Option.none_or] at hkept
  have hspec := collect_spec netTags call (runState (step netTags) [] history)
  rw [hkept] at hspec
  have hone : [call].findSome? found=found call := by
    cases hfound : found call with
    | none => simp [hfound]
    | some links => simp [hfound]
  rw [List.findSome?_append,hone]
  exact ⟨by rw [←hkept,kept_getD],hspec⟩

end Runs

/-- A link as ip link show lists it. -/
structure Link where
  index : ℕ
  /-- The name, with the peer behind an @. -/
  name : Token
  rest : Token
  /-- What follows the first blank of each further line. -/
  details : List Token

/-- The lines of a link. -/
def Link.lines (link : Link) : List Token :=
  (Nat.toDigits 10 link.index++": ".toList++link.name++": ".toList++link.rest)::
    link.details.map (' '::·)

/-- What ip link show writes. -/
def ipLinkShow (links : List Link) : Token := unlines (links.flatMap Link.lines)

/-- Texts that a link can have. -/
structure Link.Written (link : Link) : Prop where
  name : ' ' ∉ link.name ∧ '\n' ∉ link.name
  rest : '\n' ∉ link.rest
  details : ∀ detail∈link.details,'\n' ∉ detail

/-- A link that is taken for an interface. -/
def Link.IsEth (link : Link) : Prop := "eth".toList<:+:link.name ∨ "eth".toList<:+:link.rest

instance (link : Link) : Decidable link.IsEth := inferInstanceAs (Decidable (_ ∨ _))

section Links

/-- A text without a character is found on one side of it. -/
theorem infix_append_cons_iff {text before after : Token} {c : Char} (hne : text≠[])
    (hc : c∉text) : text<:+:before++c::after ↔ text<:+:before ∨ text<:+:after := by
  induction before with
  | nil =>
    have hnot : ¬text<+:c::after := by
      rintro ⟨rest,hrest⟩
      cases text with
      | nil => exact hne rfl
      | cons first text => exact hc (by rw [(List.cons.inj hrest).1]; exact List.mem_cons_self)
    rw [List.nil_append,List.infix_cons_iff,List.infix_nil]
    exact or_congr (iff_of_false hnot hne) Iff.rfl
  | cons first before ih =>
    have hstart : text<+:first::before++c::after ↔ text<+:first::before := by
      refine ⟨fun h => ?_,fun h => h.trans (List.prefix_append _ _)⟩
      rcases List.prefix_or_prefix_of_prefix h (List.prefix_append (first::before) (c::after)) with
        hshort|⟨rest,hrest⟩
      · exact hshort
      · cases rest with
        | nil => exact ⟨[],by rw [←hrest]; simp⟩
        | cons next rest =>
          refine absurd ?_ hc
          obtain ⟨more,hmore⟩ := h
          rw [←hrest,List.append_assoc] at hmore
          have hnext := (List.cons.inj (List.append_cancel_left hmore)).1
          rw [←hrest,←hnext]
          simp
    rw [List.cons_append] at hstart ⊢
    rw [List.infix_cons_iff,List.infix_cons_iff,hstart,ih,or_assoc]

/-- The first line of a link is taken exactly for an interface, with its name. -/
theorem linkStep_header {link : Link} (h : link.Written) (result : List Token) :
    linkStep result (Nat.toDigits 10 link.index++": ".toList++link.name++": ".toList++link.rest)=
      .ok (result++if link.IsEth then [link.name] else []) := by
  have hdigits := decimal_toDigits link.index
  have hheader : Nat.toDigits 10 link.index++": ".toList++link.name++": ".toList++link.rest=
      (Nat.toDigits 10 link.index++[':'])++ ' '::((link.name++[':'])++ ' '::link.rest) := by simp
  have hindex : ' ' ∉ Nat.toDigits 10 link.index++[':'] := by
    intro hmem
    rcases List.mem_append.mp hmem with hmem|hmem
    · exact absurd (hdigits.digits _ hmem) (by decide)
    · exact absurd (List.mem_singleton.mp hmem) (by decide)
  have hname : ' ' ∉ link.name++[':'] := by
    intro hmem
    rcases List.mem_append.mp hmem with hmem|hmem
    · exact h.name.1 hmem
    · exact absurd (List.mem_singleton.mp hmem) (by decide)
  have hfields : ((Nat.toDigits 10 link.index++[':'])++ ' '::((link.name++[':'])++
      ' '::link.rest)).splitOn ' '=
        (Nat.toDigits 10 link.index++[':'])::(link.name++[':'])::link.rest.splitOn ' ' := by
    rw [List.splitOn_append_cons_self_of_not_mem hindex,
      List.splitOn_append_cons_self_of_not_mem hname]
  have heth : "eth".toList<:+:(Nat.toDigits 10 link.index++[':'])++ ' '::((link.name++[':'])++
      ' '::link.rest) ↔ link.IsEth := by
    have hne : "eth".toList≠[] := by decide
    have hspace : ' ' ∉ "eth".toList := by decide
    have hcolon : ':' ∉ "eth".toList := by decide
    have hnumber : ¬"eth".toList<:+:Nat.toDigits 10 link.index := fun hinside =>
      absurd (hdigits.digits 'e' (hinside.subset (by decide))) (by decide)
    have hnil : ¬"eth".toList<:+:[] := fun hinside => hne (List.infix_nil.mp hinside)
    rw [infix_append_cons_iff hne hspace,infix_append_cons_iff hne hcolon,
      infix_append_cons_iff hne hspace,infix_append_cons_iff hne hcolon,Link.IsEth]
    simp only [hnumber,hnil,false_or,or_false]
  have hblank : ((Nat.toDigits 10 link.index++[':'])++ ' '::((link.name++[':'])++
      ' '::link.rest)).head?≠some ' ' := by
    intro hhead
    rw [List.append_assoc] at hhead
    exact absurd (hdigits.head_append _ ' ' hhead) (by decide)
  rw [hheader,linkStep,if_neg hblank,hfields]
  by_cases hlink : link.IsEth
  · rw [if_pos (heth.mpr hlink),if_pos hlink]
    exact congrArg (fun name => Except.ok (result++[name])) List.dropLast_concat
  · rw [if_neg (mt heth.mp hlink),if_neg hlink,List.append_nil]

/-- Further lines are passed over. -/
theorem linkStep_detail (result : List Token) (detail : Token) :
    linkStep result (' '::detail)=.ok result := if_pos rfl

/-- The lines of a link add its name, if it is taken for an interface. -/
theorem foldlM_linkStep {link : Link} (h : link.Written) (result : List Token) :
    link.lines.foldlM linkStep result=
      .ok (result++if link.IsEth then [link.name] else []) := by
  rw [Link.lines,List.foldlM_cons,linkStep_header h]
  change (link.details.map (' '::·)).foldlM linkStep _=_
  induction link.details with
  | nil => rfl
  | cons detail details ih =>
    rw [List.map_cons,List.foldlM_cons,linkStep_detail]
    exact ih

/-- read_output_lines gives the lines of the links. -/
theorem readOutputLines_ipLinkShow {links : List Link} (h : ∀ link∈links,link.Written) :
    readOutputLines (ipLinkShow links)=links.flatMap Link.lines := by
  have hline : ∀ line∈links.flatMap Link.lines,'\n' ∉ line ∧ line≠[] := by
    intro line hline
    obtain ⟨link,hlink,hmem⟩ := List.mem_flatMap.mp hline
    have hwritten := h link hlink
    rcases List.mem_cons.mp hmem with rfl|hdetail
    · refine ⟨?_,?_⟩
      · simp only [List.mem_append,not_or]
        refine ⟨⟨⟨⟨fun hmem => ?_,by decide⟩,hwritten.name.2⟩,by decide⟩,hwritten.rest⟩
        exact absurd ((decimal_toDigits link.index).digits _ hmem) (by decide)
      · simp
    · obtain ⟨detail,hmore,rfl⟩ := List.mem_map.mp hdetail
      refine ⟨fun hmem => ?_,List.cons_ne_nil _ _⟩
      rcases List.mem_cons.mp hmem with hmem|hmem
      · exact absurd hmem (by decide)
      · exact hwritten.details detail hmore hmem
  rw [readOutputLines,strSplit,ipLinkShow,splitOn_unlines fun line hmem => (hline line hmem).1,
    List.filter_append,List.filter_eq_self.mpr fun line hmem => decide_eq_true (hline line hmem).2]
  exact List.append_nil _

/-- enumerate_interfaces finds in what ip link show writes exactly the names of
the links with eth in the name or behind it, in their order. -/
theorem enumerateInterfaces_ipLinkShow {links : List Link} (h : ∀ link∈links,link.Written) :
    enumerateInterfaces (readOutputLines (ipLinkShow links))=
      .ok ((links.filter fun link => link.IsEth).map Link.name) := by
  suffices hloop : ∀ result,(links.flatMap Link.lines).foldlM linkStep result=
      .ok (result++(links.filter fun link => link.IsEth).map Link.name) by
    rw [readOutputLines_ipLinkShow h]
    exact hloop []
  induction links with
  | nil => exact fun result => congrArg Except.ok (List.append_nil result).symm
  | cons link links ih =>
    intro result
    obtain ⟨hlink,hrest⟩ := List.forall_mem_cons.mp h
    rw [List.flatMap_cons,List.foldlM_append,foldlM_linkStep hlink]
    refine (ih hrest _).trans (congrArg Except.ok ?_)
    by_cases heth : link.IsEth
    · rw [if_pos heth,List.filter_cons_of_pos (by simpa using heth),List.map_cons,
        List.append_assoc,List.singleton_append]
    · rw [if_neg heth,List.filter_cons_of_neg (by simpa using heth),List.append_nil]

/-- A loopback link and an interface of a container with its peer. -/
theorem enumerateInterfaces_withPeer :
    enumerateInterfaces (readOutputLines (ipLinkShow
      [⟨1,"lo".toList,"<LOOPBACK,UP> mtu 65536".toList,["   link/loopback".toList]⟩,
        ⟨2,"eth0@if7".toList,"<UP> mtu 9001".toList,["   link/ether".toList]⟩]))=
      .ok ["eth0@if7".toList] := by
  refine (enumerateInterfaces_ipLinkShow ?_).trans (congrArg Except.ok (by decide))
  refine List.forall_mem_cons.mpr ⟨⟨by decide,by decide,by decide⟩,List.forall_mem_singleton.mpr ?_⟩
  exact ⟨by decide,by decide,by decide⟩

end Links

end AtlasAgent.EthtoolLinks
