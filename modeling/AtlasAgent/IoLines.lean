import AtlasAgent.AssignOnce
import AtlasAgent.CGroupIo
import Mathlib.Data.Finset.Card

/-!
# Lines of io.stat and io.max

A line of either file is a list of statements that set each known key once, and
either file is parsed into a map that keeps the first line of each device or,
after one bad line, into no map at all. What is accepted, and with which values,
depends neither on the order of the fields in a line nor on unknown keys.
-/

namespace AtlasAgent.IoLines

open AssignOnce CGroupIo IeeeDouble TextFields

/-- What a field with a key and a value is: nothing acceptable, a value of a
key, or what its parser makes of a key it does not know. -/
def keyedStatement {κ : Type} (ofToken : Token → Option κ)
    (parse : Token → Token → Except IoError Ieee) (unknown : Option (Option (κ×Ieee)))
    (field : Token) : Option (Option (κ×Ieee)) :=
  match keyValue field with
  | none => none
  | some (name,text) =>
    match ofToken name with
    | none => unknown
    | some key => (parse name text).toOption.map fun value => some (key,value)

/-- What ParseIOLine makes of a field; it passes over a key it does not know. -/
def ioStatement : Token → Option (Option (IoKey×Ieee)) :=
  keyedStatement IoKey.ofToken parseValue (some none)

/-- The value of a limit. -/
def parseLimit (name text : Token) : Except IoError Ieee :=
  if text="max".toList then .ok (.finite (-1)) else parseValue name text

/-- What ParseIOThrottleLine makes of a field. -/
def throttleStatement : Token → Option (Option (ThrottleKey×Ieee)) :=
  keyedStatement ThrottleKey.ofToken parseLimit none

/-- A field assigns what its text says to the key it names. -/
theorem mem_assignments_keyed {κ : Type} {ofToken : Token → Option κ}
    {parse : Token → Token → Except IoError Ieee} {unknown : Option (Option (κ×Ieee))}
    (hunknown : unknown.join=none) {fields : List Token} {key : κ} {value : Ieee} :
    (key,value)∈assignments (keyedStatement ofToken parse unknown) fields ↔
      ∃ field∈fields,∃ name text,keyValue field=some (name,text) ∧ ofToken name=some key ∧
        parse name text=.ok value := by
  rw [assignments,List.mem_filterMap]
  refine exists_congr fun field => and_congr_right fun _ => ?_
  rw [keyedStatement]
  cases keyValue field with
  | none => simp
  | some pair =>
    obtain ⟨name,text⟩ := pair
    dsimp only
    cases hname : ofToken name with
    | none => simp [hname,hunknown]
    | some other => cases hvalue : parse name text <;> simp [hname,hvalue,Except.toOption]

/-- A fold that may fail fails at the same element whatever the error says. -/
theorem toOption_foldlM {ε σ α : Type} (step : σ → α → Except ε σ) (s : σ) (xs : List α) :
    (xs.foldlM step s).toOption=xs.foldlM (fun s x => (step s x).toOption) s := by
  induction xs generalizing s with
  | nil => rfl
  | cons x xs ih =>
    rw [List.foldlM_cons,List.foldlM_cons]
    cases hstep : step s x with
    | error e => rfl
    | ok s' => exact ih s'

theorem toOption_setOnce {κ : Type} [DecidableEq κ] (values : κ → Option Ieee) (name : Token)
    (key : κ) (value : Ieee) :
    (setOnce values name key value).toOption=assign values (key,value) := by
  rw [setOnce,assign]
  split <;> rfl

theorem toOption_parseIOField (values : IoKey → Option Ieee) (field : Token) :
    (parseIOField values field).toOption=statementStep ioStatement values field := by
  rw [parseIOField,statementStep,ioStatement,keyedStatement]
  cases keyValue field with
  | none => rfl
  | some pair =>
    obtain ⟨name,text⟩ := pair
    dsimp only
    cases IoKey.ofToken name with
    | none => rfl
    | some key =>
      dsimp only
      cases parseValue name text with
      | error e => rfl
      | ok value => exact toOption_setOnce values name key value

theorem toOption_parseThrottleField (values : ThrottleKey → Option Ieee) (field : Token) :
    (parseThrottleField values field).toOption=statementStep throttleStatement values field := by
  rw [parseThrottleField,statementStep,throttleStatement,keyedStatement]
  cases keyValue field with
  | none => rfl
  | some pair =>
    obtain ⟨name,text⟩ := pair
    dsimp only
    rw [parseLimit]
    by_cases hmax : text="max".toList
    · rw [if_pos hmax,if_pos hmax]
      cases ThrottleKey.ofToken name with
      | none => rfl
      | some key => exact toOption_setOnce values name key (.finite (-1))
    · rw [if_neg hmax,if_neg hmax]
      cases parseValue name text with
      | error e => cases ThrottleKey.ofToken name <;> rfl
      | ok value =>
        cases ThrottleKey.ofToken name with
        | none => rfl
        | some key => exact toOption_setOnce values name key value

/-- The values of a line are complete exactly when every key has one. -/
theorem toOption_complete_iff {κ : Type} [Fintype κ] (device : Token) (values : κ → Option Ieee)
    (value : κ → Ieee) :
    (complete device values).toOption=some value ↔ values=fun key => some (value key) := by
  rw [complete]
  constructor
  · intro h
    split at h
    · cases h
      funext key
      rw [Option.some_get]
    · cases h
  · rintro rfl
    have hset : ∀ key,((fun key => some (value key)) key).isSome=true := fun key => rfl
    rw [dif_pos hset]
    rfl

/-- The values of a line, by the statements that its fields are. -/
theorem toOption_line_iff {κ : Type} [Fintype κ] [DecidableEq κ]
    {step : (κ → Option Ieee) → Token → Except IoError (κ → Option Ieee)}
    {read : Token → Option (Option (κ×Ieee))}
    (hstep : ∀ values field,(step values field).toOption=statementStep read values field)
    (device : Token) (fields : List Token) (value : κ → Ieee) :
    (do
      let values ← fields.foldlM step fun _ => none
      complete device values).toOption=some value ↔ Gives read fields value := by
  have hfold : (fields.foldlM step fun _ => none).toOption=
      fields.foldlM (statementStep read) fun _ => none := by
    rw [toOption_foldlM]
    simp only [hstep]
  rw [gives_iff,←hfold]
  cases fields.foldlM step fun _ => none with
  | error e =>
    constructor
    · exact fun h => by cases h
    · exact fun h => by cases h
  | ok values =>
    refine (toOption_complete_iff device values value).trans ?_
    exact (Option.some_inj (a:=values)).symm

/-- ParseIOLine accepts exactly the lines whose fields give the six statistics. -/
theorem parseIOLine_eq_some_iff (fields : List Token) (devMap : AList fun _ : Token => Token)
    (stats : IOStats) :
    parseIOLine fields devMap=some stats ↔
      stats.deviceName=(devMap.lookup (fields.headD [])).getD "unknown".toList ∧
        stats.majorMinor=fields.headD [] ∧ Gives ioStatement fields.tail stats.value := by
  rw [parseIOLine,Option.map_eq_some_iff]
  constructor
  · rintro ⟨value,hvalue,rfl⟩
    exact ⟨rfl,rfl,(toOption_line_iff toOption_parseIOField _ _ _).mp hvalue⟩
  · obtain ⟨deviceName,majorMinor,value⟩ := stats
    rintro ⟨rfl,rfl,hgives⟩
    exact ⟨value,(toOption_line_iff toOption_parseIOField _ _ _).mpr hgives,rfl⟩

/-- ParseIOThrottleLine accepts exactly the lines whose fields give the four limits. -/
theorem parseIOThrottleLine_eq_some_iff (fields : List Token) (throttle : IOThrottle) :
    parseIOThrottleLine fields=some throttle ↔
      throttle.device=fields.headD [] ∧ Gives throttleStatement fields.tail throttle.value := by
  rw [parseIOThrottleLine,Option.map_eq_some_iff]
  constructor
  · rintro ⟨value,hvalue,rfl⟩
    exact ⟨rfl,(toOption_line_iff toOption_parseThrottleField _ _ _).mp hvalue⟩
  · obtain ⟨device,value⟩ := throttle
    rintro ⟨rfl,hgives⟩
    exact ⟨value,(toOption_line_iff toOption_parseThrottleField _ _ _).mpr hgives,rfl⟩

section Collect

variable {α : Type} (entry : List Token → Option (Option (Token×α)))

/-- The loop of both parsers, by what a line is to it: a bad one, one that is
skipped, or an entry. -/
def collect (map : AList fun _ : Token => α) : List (List Token) → AList fun _ : Token => α
  | [] => map
  | fields::lines =>
    match entry fields with
    | none => ∅
    | some none => collect map lines
    | some (some (key,value)) => collect (emplace map key value) lines

/-- The entry of a line, if it is one for the given key. -/
def entryFor (key : Token) (fields : List Token) : Option α :=
  ((entry fields).join.filter fun pair => decide (pair.1=key)).map Prod.snd

theorem entryFor_eq_some_iff (key : Token) (fields : List Token) (value : α) :
    entryFor entry key fields=some value ↔ entry fields=some (some (key,value)) := by
  rw [entryFor]
  cases entry fields with
  | none => simp
  | some result =>
    cases result with
    | none => simp
    | some pair =>
      obtain ⟨k,v⟩ := pair
      simp only [Option.join_some,Option.map_eq_some_iff,Option.filter_eq_some_iff,
        Option.some.injEq,decide_eq_true_eq]
      constructor
      · rintro ⟨pair,⟨rfl,rfl⟩,rfl⟩
        rfl
      · rintro ⟨rfl,rfl⟩
        exact ⟨_,⟨rfl,rfl⟩,rfl⟩

/-- An entry that is there stays. -/
theorem lookup_emplace (map : AList fun _ : Token => α) (key k : Token) (value : α) :
    (emplace map key value).lookup k=(map.lookup k).or (if key=k then some value else none) := by
  rw [emplace]
  by_cases hkey : key=k
  · subst hkey
    rw [if_pos rfl]
    cases hlookup : map.lookup key with
    | none => exact AList.lookup_insert map
    | some old => exact hlookup
  · rw [if_neg hkey,Option.or_none]
    split
    · rfl
    · exact AList.lookup_insert_ne (Ne.symm hkey)

/-- One bad line empties the result. -/
theorem collect_eq_empty {lines : List (List Token)} {map : AList fun _ : Token => α}
    (h : ∃ line∈lines,entry line=none) : collect entry map lines=∅ := by
  induction lines generalizing map with
  | nil =>
    obtain ⟨line,hline,-⟩ := h
    cases hline
  | cons fields lines ih =>
    rw [collect]
    cases hentry : entry fields with
    | none => rfl
    | some result =>
      have hrest : ∃ line∈lines,entry line=none := by
        obtain ⟨line,hline,hbad⟩ := h
        rcases List.mem_cons.mp hline with rfl|hline
        · rw [hentry] at hbad
          cases hbad
        · exact ⟨line,hline,hbad⟩
      cases result with
      | none => exact ih hrest
      | some pair => exact ih hrest

/-- Without a bad line the first entry of each key is kept. -/
theorem lookup_collect {lines : List (List Token)} {map : AList fun _ : Token => α}
    (h : ∀ line∈lines,entry line≠none) (key : Token) :
    (collect entry map lines).lookup key=
      (map.lookup key).or (lines.findSome? (entryFor entry key)) := by
  induction lines generalizing map with
  | nil => exact (Option.or_none).symm
  | cons fields lines ih =>
    obtain ⟨hfirst,hrest⟩ := List.forall_mem_cons.mp h
    rw [collect,List.findSome?_cons,entryFor]
    cases hentry : entry fields with
    | none => exact absurd hentry hfirst
    | some result =>
      cases result with
      | none => exact ih hrest
      | some pair =>
        obtain ⟨k,v⟩ := pair
        dsimp only
        rw [ih hrest,lookup_emplace,Option.or_assoc]
        refine congrArg _ ?_
        by_cases hkey : k=key
        · simp [Option.filter,hkey]
        · simp [Option.filter,hkey]

theorem lookup_collect_empty {lines : List (List Token)} (h : ∀ line∈lines,entry line≠none)
    (key : Token) : (collect entry ∅ lines).lookup key=lines.findSome? (entryFor entry key) := by
  rw [lookup_collect entry h,AList.lookup_empty,Option.none_or]

/-- A map without entries is the empty one. -/
theorem eq_empty_of_lookup {map : AList fun _ : Token => α} (h : ∀ key,map.lookup key=none) :
    map=∅ := by
  refine AList.ext ?_
  cases hentries : map.entries with
  | nil => rfl
  | cons pair rest =>
    have hmem : pair.1∈map.keys := by
      rw [AList.keys,hentries]
      exact List.mem_cons_self
    exact absurd (h pair.1) (fun hnone => AList.lookup_eq_none.mp hnone (AList.mem_keys.mpr hmem))

/-- The result has an entry exactly when no line is bad and some line is one. -/
theorem collect_ne_empty_iff (lines : List (List Token)) :
    collect entry ∅ lines≠∅ ↔
      (∀ line∈lines,entry line≠none) ∧ ∃ line∈lines,∃ pair,entry line=some (some pair) := by
  by_cases hbad : ∃ line∈lines,entry line=none
  · rw [collect_eq_empty entry hbad]
    obtain ⟨line,hline,hnone⟩ := hbad
    exact iff_of_false (fun h => h rfl) fun h => h.1 line hline hnone
  · have hgood : ∀ line∈lines,entry line≠none := fun line hline hnone =>
      hbad ⟨line,hline,hnone⟩
    have hlookup := lookup_collect_empty entry hgood
    rw [and_iff_right hgood]
    constructor
    · intro hne
      by_contra hnone
      refine hne (eq_empty_of_lookup fun key => ?_)
      rw [hlookup,List.findSome?_eq_none_iff]
      intro line hline
      cases hvalue : entryFor entry key line with
      | none => rfl
      | some value =>
        exact absurd ⟨line,hline,_,(entryFor_eq_some_iff entry _ _ _).mp hvalue⟩ hnone
    · rintro ⟨line,hline,⟨key,value⟩,hentry⟩ hempty
      have hnone := hlookup key
      rw [hempty,AList.lookup_empty,eq_comm,List.findSome?_eq_none_iff] at hnone
      have hvalue := (entryFor_eq_some_iff entry key line value).mpr hentry
      rw [hnone line hline] at hvalue
      cases hvalue

/-- A map that is not empty keeps, for exactly the devices of the listed lines,
an entry of the first of these lines. -/
structure FirstLines (Listed : List Token → Prop) (Line : List Token → α → Prop)
    (lines : List (List Token)) (result : AList fun _ : Token => α) : Prop where
  /-- The keys are the devices of the listed lines. -/
  devices : ∀ device,device∈result ↔ ∃ line∈lines,Listed line ∧ line.headD []=device
  /-- An entry is made of the first listed line of its device. -/
  first : ∀ device value,result.lookup device=some value → ∃ before line after,
    lines=before++line::after ∧ Listed line ∧ line.headD []=device ∧ Line line value ∧
      ∀ earlier∈before,Listed earlier → earlier.headD []≠device

/-- All or nothing: a loop whose entries are made of listed lines, and that
skips no such line, ends with no entry or with those of the first lines. -/
theorem collect_firstLines {entry : List Token → Option (Option (Token×α))}
    {Listed : List Token → Prop} {Line : List Token → α → Prop}
    (hentry : ∀ line key value,entry line=some (some (key,value)) →
      Listed line ∧ line.headD []=key ∧ Line line value)
    (hskipped : ∀ line,entry line=some none → ¬Listed line) (lines : List (List Token)) :
    collect entry ∅ lines=∅ ∨ FirstLines Listed Line lines (collect entry ∅ lines) := by
  by_cases hbad : ∃ line∈lines,entry line=none
  · exact Or.inl (collect_eq_empty entry hbad)
  · have hgood : ∀ line∈lines,entry line≠none := fun line hline hnone =>
      hbad ⟨line,hline,hnone⟩
    have hlookup := lookup_collect_empty entry hgood
    -- a listed line is an entry of its own device
    have hlisted : ∀ line∈lines,Listed line →
        ∃ value,entryFor entry (line.headD []) line=some value := by
      intro line hline hlisted
      cases hresult : entry line with
      | none => exact absurd hresult (hgood line hline)
      | some result =>
        cases result with
        | none => exact absurd hlisted (hskipped line hresult)
        | some pair =>
          obtain ⟨-,hkey,-⟩ := hentry line pair.1 pair.2 hresult
          exact ⟨pair.2,(entryFor_eq_some_iff entry _ _ _).mpr (by rw [hresult,hkey])⟩
    refine Or.inr ⟨fun device => ?_,fun device value hvalue => ?_⟩
    · rw [←AList.lookup_isSome,hlookup,List.findSome?_isSome_iff]
      constructor
      · rintro ⟨line,hline,hsome⟩
        obtain ⟨value,hvalue⟩ := Option.isSome_iff_exists.mp hsome
        obtain ⟨hl,hkey,-⟩ := hentry _ _ _ ((entryFor_eq_some_iff entry _ _ _).mp hvalue)
        exact ⟨line,hline,hl,hkey⟩
      · rintro ⟨line,hline,hl,rfl⟩
        obtain ⟨value,hvalue⟩ := hlisted line hline hl
        exact ⟨line,hline,by rw [hvalue]; rfl⟩
    · rw [hlookup,List.findSome?_eq_some_iff] at hvalue
      obtain ⟨before,line,after,rfl,hfound,hnone⟩ := hvalue
      obtain ⟨hl,hkey,hline⟩ := hentry _ _ _ ((entryFor_eq_some_iff entry _ _ _).mp hfound)
      refine ⟨before,line,after,rfl,hl,hkey,hline,fun earlier hmem hearlier hsame => ?_⟩
      obtain ⟨other,hother⟩ := hlisted earlier (List.mem_append_left _ hmem) hearlier
      rw [hsame,hnone earlier hmem] at hother
      cases hother

/-- Lines that are the same to the loop lead to the same map. -/
theorem collect_congr {lines others : List (List Token)} {map : AList fun _ : Token => α}
    (h : List.Forall₂ (fun line other => entry line=entry other) lines others) :
    collect entry map lines=collect entry map others := by
  induction h generalizing map with
  | nil => rfl
  | @cons line other lines others hsame hrest ih =>
    rw [collect,collect,hsame]
    cases entry other with
    | none => rfl
    | some result =>
      cases result with
      | none => exact ih
      | some pair => exact ih

end Collect

/-- What a line is to ParseIOLines. -/
def ioEntry (devMap : AList fun _ : Token => Token) (fields : List Token) :
    Option (Option (Token×IOStats)) :=
  if fields.length=1 then some none
  else if fields.length<7 then none
  else (parseIOLine fields devMap).map fun stats => some (stats.majorMinor,stats)

/-- What a line is to ParseIOThrottleLines. -/
def throttleEntry (fields : List Token) : Option (Option (Token×IOThrottle)) :=
  if fields.length≠5 then none
  else (parseIOThrottleLine fields).map fun throttle => some (throttle.device,throttle)

theorem parseIOLinesLoop_eq_collect (devMap : AList fun _ : Token => Token) (map : IOStatsMap)
    (lines : List (List Token)) :
    parseIOLinesLoop devMap map lines=collect (ioEntry devMap) map lines := by
  induction lines generalizing map with
  | nil => rfl
  | cons fields lines ih =>
    rw [parseIOLinesLoop,collect,ioEntry]
    by_cases hbare : fields.length=1
    · rw [if_pos hbare,if_pos hbare]
      exact ih map
    · rw [if_neg hbare,if_neg hbare]
      by_cases hshort : fields.length<7
      · rw [if_pos hshort,if_pos hshort]
      · rw [if_neg hshort,if_neg hshort]
        cases parseIOLine fields devMap with
        | none => rfl
        | some stats => exact ih _

theorem parseIOThrottleLinesLoop_eq_collect (map : IOThrottleMap) (lines : List (List Token)) :
    parseIOThrottleLinesLoop map lines=collect throttleEntry map lines := by
  induction lines generalizing map with
  | nil => rfl
  | cons fields lines ih =>
    rw [parseIOThrottleLinesLoop,collect,throttleEntry]
    by_cases hcount : fields.length≠5
    · rw [if_pos hcount,if_pos hcount]
    · rw [if_neg hcount,if_neg hcount]
      cases parseIOThrottleLine fields with
      | none => rfl
      | some throttle => exact ih _

/-- A field of io.stat with a key that is not one of the six. -/
def UnknownKey (field : Token) : Prop :=
  ∃ name text,keyValue field=some (name,text) ∧ IoKey.ofToken name=none

/-- A line of io.stat that carries all six keys. -/
def CarriesAll (line : List Token) : Prop :=
  ∀ key : IoKey,∃ field∈line.tail,∃ name text,
    keyValue field=some (name,text) ∧ IoKey.ofToken name=some key

/-- The same line with its fields in another order and, if it carries all six
keys, with further fields of unknown keys among them. -/
structure Rearranged (line other : List Token) : Prop where
  device : line.head?=other.head?
  fields : ∃ added,(∀ field∈added,UnknownKey field) ∧ (added≠[] → CarriesAll line) ∧
    (line.tail++added).Perm other.tail

/-- The same line with its fields in another order. -/
structure Permuted (line other : List Token) : Prop where
  device : line.head?=other.head?
  fields : line.tail.Perm other.tail

/-- Six keys stand in six fields. -/
theorem CarriesAll.length {line : List Token} (h : CarriesAll line) : 6≤line.tail.length := by
  choose field hfield name text hkeyValue hname using h
  have hinjective : Function.Injective field := by
    intro key other heq
    have hpair := (hkeyValue key).symm.trans (heq ▸ hkeyValue other)
    have hsame : name key=name other := (Prod.mk.inj (Option.some.inj hpair)).1
    have hkeys := (hname key).symm.trans (hsame ▸ hname other)
    exact Option.some.inj hkeys
  have hsubset : Finset.univ.image field⊆line.tail.toFinset := by
    intro f hf
    obtain ⟨key,-,rfl⟩ := Finset.mem_image.mp hf
    exact List.mem_toFinset.mpr (hfield key)
  have hcard := Finset.card_le_card hsubset
  rw [Finset.card_image_of_injective _ hinjective] at hcard
  have hsix : (Finset.univ : Finset IoKey).card=6 := rfl
  have hlength := line.tail.toFinset_card_le
  omega

/-- A line has one field more than its tail, unless it has none. -/
theorem length_eq_of_head? {line other : List Token} (hdevice : line.head?=other.head?)
    (hlength : line.tail.length=other.tail.length) : line.length=other.length := by
  cases line with
  | nil =>
    cases other with
    | nil => rfl
    | cons field fields => cases hdevice
  | cons field fields =>
    cases other with
    | nil => cases hdevice
    | cons field' fields' => simpa using hlength

theorem headD_eq_of_head? {line other : List Token} (hdevice : line.head?=other.head?) :
    line.headD []=other.headD [] := by
  rw [List.headD_eq_head?_getD,List.headD_eq_head?_getD,hdevice]

/-- Rearranging a line changes nothing for ParseIOLines. -/
theorem ioEntry_rearranged {line other : List Token} (h : Rearranged line other)
    (devMap : AList fun _ : Token => Token) : ioEntry devMap line=ioEntry devMap other := by
  obtain ⟨hdevice,added,hunknown,hall,hperm⟩ := h
  have hpassed : ∀ field∈added,ioStatement field=some none := by
    intro field hfield
    obtain ⟨name,text,hkeyValue,hname⟩ := hunknown field hfield
    rw [ioStatement,keyedStatement,hkeyValue]
    dsimp only
    rw [hname]
  have hparse : parseIOLine line devMap=parseIOLine other devMap := by
    refine Option.ext fun stats => ?_
    have hgives : Gives ioStatement line.tail stats.value ↔
        Gives ioStatement other.tail stats.value := by
      rw [←gives_append_iff ioStatement stats.value hpassed]
      exact ⟨fun hgives => hgives.of_perm _ hperm,fun hgives => hgives.of_perm _ hperm.symm⟩
    rw [parseIOLine_eq_some_iff,parseIOLine_eq_some_iff,headD_eq_of_head? hdevice,hgives]
  have hcount := hperm.length_eq
  rw [List.length_append] at hcount
  by_cases hadded : added=[]
  · rw [hadded,List.length_nil,Nat.add_zero] at hcount
    rw [ioEntry,ioEntry,hparse,length_eq_of_head? hdevice hcount]
  · have hsix := (hall hadded).length
    rw [List.length_tail] at hsix hcount
    rw [List.length_tail] at hcount
    rw [ioEntry,ioEntry,hparse,if_neg (by omega),if_neg (by omega),if_neg (by omega),
      if_neg (by omega)]

/-- Permuting the fields of a line changes nothing for ParseIOThrottleLines. -/
theorem throttleEntry_permuted {line other : List Token} (h : Permuted line other) :
    throttleEntry line=throttleEntry other := by
  have hparse : parseIOThrottleLine line=parseIOThrottleLine other := by
    refine Option.ext fun throttle => ?_
    have hgives : Gives throttleStatement line.tail throttle.value ↔
        Gives throttleStatement other.tail throttle.value :=
      ⟨fun hgives => hgives.of_perm _ h.fields,fun hgives => hgives.of_perm _ h.fields.symm⟩
    rw [parseIOThrottleLine_eq_some_iff,parseIOThrottleLine_eq_some_iff,
      headD_eq_of_head? h.device,hgives]
  rw [throttleEntry,throttleEntry,hparse,length_eq_of_head? h.device h.fields.length_eq]

end AtlasAgent.IoLines
