import AtlasAgent.DecimalText
import AtlasAgent.IoLines

/-!
# The formats of io.stat and io.max

A line of either format is a device with fields of the form key=value, each
known key exactly once. The documented values are wholly decimal; the parsers
are content with a text that begins with a number std::from_chars converts.
-/

namespace AtlasAgent.IoFormats

open AssignOnce CGroupIo DecimalText IeeeDouble IoLines NumberText TextFields

/-- The texts that the fields of a line have for a key. -/
def textsFor {κ : Type} [DecidableEq κ] (ofToken : Token → Option κ) (key : κ)
    (fields : List Token) : List Token :=
  fields.filterMap fun field =>
    match keyValue field with
    | none => none
    | some (name,text) => if ofToken name=some key then some text else none

/-- Fields of the form key=value with allowed keys, each known key exactly once
and with a value of the given kind. -/
structure KeyedLine {κ : Type} [DecidableEq κ] (ofToken : Token → Option κ)
    (Allowed Value : Token → Prop) (fields : List Token) : Prop where
  pairs : ∀ field∈fields,∃ name text,keyValue field=some (name,text) ∧ Allowed name
  once : ∀ key,∃ text,Value text ∧ textsFor ofToken key fields=[text]

/-- A line of io.stat: a device alone, or with fields whose keys are arbitrary
but for the six known ones. -/
def IoStatLine (Value : Token → Prop) (line : List Token) : Prop :=
  (∃ device,line=[device]) ∨ ∃ device fields,line=device::fields ∧
    KeyedLine IoKey.ofToken (fun _ => True) Value fields

/-- A line of io.max: a device with the four limits and nothing else. -/
def IoMaxLine (Value : Token → Prop) (line : List Token) : Prop :=
  ∃ device fields,line=device::fields ∧ fields.length=4 ∧
    KeyedLine ThrottleKey.ofToken (fun name => (ThrottleKey.ofToken name).isSome=true) Value
      fields

/-- A non-negative decimal integer and nothing else. -/
def WholeInteger (text : Token) : Prop := ∃ value,Decimal text value

/-- A non-negative decimal integer, or the word max. -/
def WholeLimit (text : Token) : Prop := text="max".toList ∨ WholeInteger text

/-- The text begins with something that std::from_chars converts to a double
that is not below zero. -/
def NumberPrefix (text : Token) : Prop :=
  ∃ number,fromCharsDouble text=some number ∧ ¬Ieee.less number 0

/-- The same, or the word max. -/
def LimitPrefix (text : Token) : Prop := text="max".toList ∨ NumberPrefix text

/-- The values a line has for known keys are all of the given kind. -/
def KnownValues {κ : Type} (ofToken : Token → Option κ) (Value : Token → Prop)
    (line : List Token) : Prop :=
  ∀ field∈line.tail,∀ name text,keyValue field=some (name,text) →
    (ofToken name).isSome=true → Value text

theorem parseValue_iff (name text : Token) :
    NumberPrefix text ↔ ∃ value,parseValue name text=.ok value := by
  rw [NumberPrefix,parseValue]
  cases fromCharsDouble text with
  | none => simp
  | some number =>
    dsimp only
    by_cases hless : Ieee.less number 0=true
    · rw [if_pos hless]
      simpa using hless
    · rw [if_neg hless]
      simpa using hless

theorem parseLimit_iff (name text : Token) :
    LimitPrefix text ↔ ∃ value,parseLimit name text=.ok value := by
  rw [LimitPrefix,parseLimit]
  by_cases hmax : text="max".toList
  · rw [if_pos hmax]
    exact ⟨fun _ => ⟨_,rfl⟩,fun _ => Or.inl hmax⟩
  · rw [if_neg hmax,parseValue_iff name]
    exact or_iff_right hmax

theorem mem_textsFor {κ : Type} [DecidableEq κ] {ofToken : Token → Option κ} {key : κ}
    {fields : List Token} {text : Token} :
    text∈textsFor ofToken key fields ↔
      ∃ field∈fields,∃ name,keyValue field=some (name,text) ∧ ofToken name=some key := by
  rw [textsFor,List.mem_filterMap]
  refine exists_congr fun field => and_congr_right fun _ => ?_
  cases keyValue field with
  | none => simp
  | some pair => simp [Prod.ext_iff,and_comm]

section OnlyText

variable {κ : Type} [DecidableEq κ] {ofToken : Token → Option κ} {key : κ} {fields : List Token}
  {text : Token}

/-- A field has the only text of a key. -/
theorem exists_field_of_only (h : textsFor ofToken key fields=[text]) :
    ∃ field∈fields,∃ name,keyValue field=some (name,text) ∧ ofToken name=some key :=
  mem_textsFor.mp (by rw [h]; exact List.mem_singleton_self text)

/-- No field has another one. -/
theorem eq_of_only (h : textsFor ofToken key fields=[text]) {field name other : Token}
    (hfield : field∈fields) (hpair : keyValue field=some (name,other))
    (hkey : ofToken name=some key) : other=text := by
  have hmem : other∈textsFor ofToken key fields :=
    mem_textsFor.mpr ⟨field,hfield,name,hpair,hkey⟩
  rwa [h,List.mem_singleton] at hmem

end OnlyText

section Keyed

variable {κ : Type} {ofToken : Token → Option κ}
  {parse : Token → Token → Except IoError Ieee} {unknown : Option (Option (κ×Ieee))}
  {Allowed Value : Token → Prop}

/-- A field is accepted exactly when its key is allowed and the value of a known
key can be parsed. -/
theorem isSome_keyedStatement_iff (hvalue : ∀ name text,Value text ↔
    ∃ value,parse name text=.ok value) (hknown : ∀ name key,ofToken name=some key → Allowed name)
    (hunknown : ∀ name,ofToken name=none → (Allowed name ↔ unknown.isSome=true))
    (field : Token) :
    (keyedStatement ofToken parse unknown field).isSome=true ↔
      ∃ name text,keyValue field=some (name,text) ∧ Allowed name ∧
        ((ofToken name).isSome=true → Value text) := by
  rw [keyedStatement]
  cases keyValue field with
  | none => simp
  | some pair =>
    obtain ⟨name,text⟩ := pair
    simp only [Option.some.injEq,Prod.mk.injEq,exists_and_left,exists_eq_left',and_assoc]
    cases hname : ofToken name with
    | none => simp [hunknown name hname]
    | some key =>
      rw [hvalue name text]
      cases hparse : parse name text <;> simp [Except.toOption,hknown name key hname]

variable [DecidableEq κ]

/-- In accepted fields a key is assigned as often as it has a text. -/
theorem count_assignments {fields : List Token} (key : κ) (hunknown : unknown.join=none)
    (h : ∀ field∈fields,(keyedStatement ofToken parse unknown field).isSome=true) :
    ((assignments (keyedStatement ofToken parse unknown) fields).map Prod.fst).count key=
      (textsFor ofToken key fields).length := by
  induction fields with
  | nil => rfl
  | cons field fields ih =>
    obtain ⟨hfirst,hrest⟩ := List.forall_mem_cons.mp h
    specialize ih hrest
    rw [assignments,textsFor,List.filterMap_cons,List.filterMap_cons,←assignments,←textsFor]
    rw [keyedStatement] at hfirst ⊢
    cases hpair : keyValue field with
    | none =>
      rw [hpair] at hfirst
      cases hfirst
    | some pair =>
      obtain ⟨name,text⟩ := pair
      rw [hpair] at hfirst
      dsimp only at hfirst ⊢
      cases hname : ofToken name with
      | none => simpa [hunknown] using ih
      | some other =>
        rw [hname] at hfirst
        dsimp only at hfirst ⊢
        cases hparse : parse name text with
        | error e => simp [hparse,Except.toOption] at hfirst
        | ok value =>
          by_cases hkey : other=key
          · simp [Except.toOption,hkey,ih]
          · simp [Except.toOption,hkey,ih]

/-- Fields that give a value to every key have the form of the file. -/
theorem keyedLine_of_gives (hjoin : unknown.join=none) (hvalue : ∀ name text,Value text ↔
    ∃ value,parse name text=.ok value) (hknown : ∀ name key,ofToken name=some key → Allowed name)
    (hunknown : ∀ name,ofToken name=none → (Allowed name ↔ unknown.isSome=true))
    {fields : List Token} {value : κ → Ieee}
    (h : Gives (keyedStatement ofToken parse unknown) fields value) :
    KeyedLine ofToken Allowed Value fields := by
  have haccepted : ∀ field∈fields,∃ name text,keyValue field=some (name,text) ∧ Allowed name ∧
      ((ofToken name).isSome=true → Value text) := fun field hfield =>
    (isSome_keyedStatement_iff hvalue hknown hunknown field).mp (h.accepted field hfield)
  refine ⟨fun field hfield => ?_,fun key => ?_⟩
  · obtain ⟨name,text,hpair,hallowed,-⟩ := haccepted field hfield
    exact ⟨name,text,hpair,hallowed⟩
  · have hmem : key∈(assignments (keyedStatement ofToken parse unknown) fields).map Prod.fst :=
      List.mem_map.mpr ⟨_,h.all key,rfl⟩
    have hcount := List.count_eq_one_of_mem h.once hmem
    rw [count_assignments key hjoin h.accepted,List.length_eq_one_iff] at hcount
    obtain ⟨text,htext⟩ := hcount
    obtain ⟨field,hfield,name,hpair,hname⟩ := exists_field_of_only htext
    obtain ⟨name',text',hpair',-,hvalue'⟩ := haccepted field hfield
    obtain ⟨rfl,rfl⟩ := Prod.mk.inj (Option.some.inj (hpair.symm.trans hpair'))
    exact ⟨text,hvalue' (by rw [hname]; rfl),htext⟩

/-- Fields of the form of the file give a value to every key. -/
theorem exists_gives_of_keyedLine (hjoin : unknown.join=none) (hvalue : ∀ name text,Value text ↔
    ∃ value,parse name text=.ok value) (hknown : ∀ name key,ofToken name=some key → Allowed name)
    (hunknown : ∀ name,ofToken name=none → (Allowed name ↔ unknown.isSome=true))
    {fields : List Token} (h : KeyedLine ofToken Allowed Value fields) :
    ∃ value,Gives (keyedStatement ofToken parse unknown) fields value := by
  choose text htext honce using h.once
  have hall : ∀ field∈fields,(keyedStatement ofToken parse unknown field).isSome=true := by
    intro field hfield
    obtain ⟨name,other,hpair,hallowed⟩ := h.pairs field hfield
    refine (isSome_keyedStatement_iff hvalue hknown hunknown field).mpr
      ⟨name,other,hpair,hallowed,fun hsome => ?_⟩
    obtain ⟨key,hkey⟩ := Option.isSome_iff_exists.mp hsome
    rw [eq_of_only (honce key) hfield hpair hkey]
    exact htext key
  have hassigned : ∀ key,∃ value,
      (key,value)∈assignments (keyedStatement ofToken parse unknown) fields := by
    intro key
    obtain ⟨field,hfield,name,hpair,hname⟩ := exists_field_of_only (honce key)
    obtain ⟨value,hparse⟩ := (hvalue name (text key)).mp (htext key)
    exact ⟨value,(mem_assignments_keyed hjoin).mpr
      ⟨field,hfield,name,text key,hpair,hname,hparse⟩⟩
  choose value hmem using hassigned
  refine ⟨value,hall,List.nodup_iff_count_le_one.mpr fun key => ?_,hmem⟩
  rw [count_assignments key hjoin hall,honce key]
  exact le_rfl

/-- The fields of a line give a value to every key exactly when the line has
the form of its file. -/
theorem gives_iff_keyedLine (hjoin : unknown.join=none) (hvalue : ∀ name text,Value text ↔
    ∃ value,parse name text=.ok value) (hknown : ∀ name key,ofToken name=some key → Allowed name)
    (hunknown : ∀ name,ofToken name=none → (Allowed name ↔ unknown.isSome=true))
    (fields : List Token) :
    (∃ value,Gives (keyedStatement ofToken parse unknown) fields value) ↔
      KeyedLine ofToken Allowed Value fields :=
  ⟨fun ⟨_,hgives⟩ => keyedLine_of_gives hjoin hvalue hknown hunknown hgives,
    exists_gives_of_keyedLine hjoin hvalue hknown hunknown⟩

end Keyed

/-- The fields of a line of io.stat that is not refused. -/
theorem gives_io_iff (fields : List Token) :
    (∃ value,Gives ioStatement fields value) ↔
      KeyedLine IoKey.ofToken (fun _ => True) NumberPrefix fields :=
  gives_iff_keyedLine rfl parseValue_iff (fun _ _ _ => trivial)
    (fun _ _ => iff_of_true trivial rfl) fields

/-- The fields of a line of io.max that is not refused. -/
theorem gives_throttle_iff (fields : List Token) :
    (∃ value,Gives throttleStatement fields value) ↔
      KeyedLine ThrottleKey.ofToken (fun name => (ThrottleKey.ofToken name).isSome=true)
        LimitPrefix fields :=
  gives_iff_keyedLine rfl parseLimit_iff (fun name key hname => by rw [hname]; rfl)
    (fun name hname => by rw [hname]; exact Iff.rfl) fields

/-- Each key once is each key carried. -/
theorem KeyedLine.carriesAll {device : Token} {fields : List Token} {Value : Token → Prop}
    (h : KeyedLine IoKey.ofToken (fun _ => True) Value fields) : CarriesAll (device::fields) := by
  intro key
  obtain ⟨text,-,honce⟩ := h.once key
  obtain ⟨field,hfield,name,hpair,hname⟩ := exists_field_of_only honce
  exact ⟨field,hfield,name,text,hpair,hname⟩

/-- ParseIOLine accepts the form of io.stat with values that begin with a
number. -/
theorem parseIOLine_isSome_iff (devMap : AList fun _ : Token => Token) (line : List Token) :
    (parseIOLine line devMap).isSome=true ↔
      KeyedLine IoKey.ofToken (fun _ => True) NumberPrefix line.tail := by
  rw [←gives_io_iff,Option.isSome_iff_exists]
  constructor
  · rintro ⟨stats,hstats⟩
    exact ⟨stats.value,((parseIOLine_eq_some_iff _ _ _).mp hstats).2.2⟩
  · rintro ⟨value,hvalue⟩
    exact ⟨⟨_,_,value⟩,(parseIOLine_eq_some_iff _ _ _).mpr ⟨rfl,rfl,hvalue⟩⟩

/-- ParseIOThrottleLine accepts the form of io.max with values that are max or
begin with a number. -/
theorem parseIOThrottleLine_isSome_iff (line : List Token) :
    (parseIOThrottleLine line).isSome=true ↔
      KeyedLine ThrottleKey.ofToken (fun name => (ThrottleKey.ofToken name).isSome=true)
        LimitPrefix line.tail := by
  rw [←gives_throttle_iff,Option.isSome_iff_exists]
  constructor
  · rintro ⟨throttle,hthrottle⟩
    exact ⟨throttle.value,((parseIOThrottleLine_eq_some_iff _ _).mp hthrottle).2⟩
  · rintro ⟨value,hvalue⟩
    exact ⟨⟨_,value⟩,(parseIOThrottleLine_eq_some_iff _ _).mpr ⟨rfl,hvalue⟩⟩

theorem ioStatLine_cons_iff {Value : Token → Prop} {device : Token} {fields : List Token} :
    IoStatLine Value (device::fields) ↔
      fields=[] ∨ KeyedLine IoKey.ofToken (fun _ => True) Value fields := by
  constructor
  · rintro (⟨other,hline⟩|⟨other,rest,hline,hkeyed⟩)
    · exact Or.inl (List.cons.inj hline).2
    · obtain ⟨-,rfl⟩ := List.cons.inj hline
      exact Or.inr hkeyed
  · rintro (rfl|hkeyed)
    · exact Or.inl ⟨device,rfl⟩
    · exact Or.inr ⟨device,fields,rfl,hkeyed⟩

theorem ioMaxLine_cons_iff {Value : Token → Prop} {device : Token} {fields : List Token} :
    IoMaxLine Value (device::fields) ↔ fields.length=4 ∧
      KeyedLine ThrottleKey.ofToken (fun name => (ThrottleKey.ofToken name).isSome=true) Value
        fields := by
  constructor
  · rintro ⟨other,rest,hline,hcount,hkeyed⟩
    obtain ⟨-,rfl⟩ := List.cons.inj hline
    exact ⟨hcount,hkeyed⟩
  · rintro ⟨hcount,hkeyed⟩
    exact ⟨device,fields,rfl,hcount,hkeyed⟩

/-- ParseIOLines refuses no line that is a device alone or has the form of
io.stat with values that begin with a number, and every other line. -/
theorem ioEntry_ne_none_iff (devMap : AList fun _ : Token => Token) (line : List Token) :
    ioEntry devMap line≠none ↔ IoStatLine NumberPrefix line := by
  have hparse := parseIOLine_isSome_iff devMap line
  cases line with
  | nil =>
    have hnone : ioEntry devMap []=none := rfl
    refine iff_of_false (fun h => h hnone) ?_
    rintro (⟨device,hline⟩|⟨device,fields,hline,-⟩) <;> cases hline
  | cons device fields =>
    rw [List.tail_cons] at hparse
    rw [ioStatLine_cons_iff,ioEntry,List.length_cons]
    by_cases hbare : fields=[]
    · subst hbare
      simp
    · have hlength := List.length_pos_iff.mpr hbare
      rw [if_neg (by omega),or_iff_right hbare,←hparse]
      by_cases hshort : fields.length+1<7
      · rw [if_pos hshort]
        refine iff_of_false (fun h => h rfl) fun hsome => ?_
        -- the six keys need six fields
        have hcarries : CarriesAll (device::fields) := (hparse.mp hsome).carriesAll
        have hsix := hcarries.length
        rw [List.tail_cons] at hsix
        omega
      · rw [if_neg hshort,Option.isSome_iff_ne_none]
        simp

/-- ParseIOThrottleLines refuses no line of the form of io.max with values that
are max or begin with a number, and every other line. -/
theorem throttleEntry_ne_none_iff (line : List Token) :
    throttleEntry line≠none ↔ IoMaxLine LimitPrefix line := by
  have hparse := parseIOThrottleLine_isSome_iff line
  cases line with
  | nil =>
    have hnone : throttleEntry []=none := rfl
    refine iff_of_false (fun h => h hnone) ?_
    rintro ⟨device,fields,hline,-⟩
    cases hline
  | cons device fields =>
    rw [List.tail_cons] at hparse
    rw [ioMaxLine_cons_iff,←hparse,throttleEntry,List.length_cons]
    by_cases hcount : fields.length=4
    · rw [if_neg (by omega),Option.isSome_iff_ne_none]
      simp [hcount]
    · rw [if_pos (by omega)]
      simp [hcount]

/-- Of an accepted line the values alone decide whether it has another format of
the same form. -/
theorem KeyedLine.iff_values {κ : Type} [DecidableEq κ] {ofToken : Token → Option κ}
    {Allowed Value Value' : Token → Prop} {fields : List Token}
    (h : KeyedLine ofToken Allowed Value fields) :
    KeyedLine ofToken Allowed Value' fields ↔ ∀ field∈fields,∀ name text,
      keyValue field=some (name,text) → (ofToken name).isSome=true → Value' text := by
  constructor
  · intro hline field hfield name text hpair hsome
    obtain ⟨key,hkey⟩ := Option.isSome_iff_exists.mp hsome
    obtain ⟨only,hvalue,honce⟩ := hline.once key
    rw [eq_of_only honce hfield hpair hkey]
    exact hvalue
  · intro hvalues
    refine ⟨h.pairs,fun key => ?_⟩
    obtain ⟨text,-,honce⟩ := h.once key
    obtain ⟨field,hfield,name,hpair,hname⟩ := exists_field_of_only honce
    exact ⟨text,hvalues field hfield name text hpair (by rw [hname]; rfl),honce⟩

theorem ioStatLine_iff_values {Value Value' : Token → Prop} {line : List Token}
    (h : IoStatLine Value line) :
    IoStatLine Value' line ↔ KnownValues IoKey.ofToken Value' line := by
  rcases h with ⟨device,rfl⟩|⟨device,fields,rfl,hkeyed⟩
  · exact iff_of_true (Or.inl ⟨device,rfl⟩) fun field hfield => by cases hfield
  · have hfields : fields≠[] := by
      rintro rfl
      obtain ⟨text,-,honce⟩ := hkeyed.once .rbytes
      cases honce
    rw [ioStatLine_cons_iff,KnownValues,List.tail_cons,←hkeyed.iff_values]
    exact or_iff_right hfields

theorem ioMaxLine_iff_values {Value Value' : Token → Prop} {line : List Token}
    (h : IoMaxLine Value line) :
    IoMaxLine Value' line ↔ KnownValues ThrottleKey.ofToken Value' line := by
  obtain ⟨device,fields,rfl,hcount,hkeyed⟩ := h
  rw [ioMaxLine_cons_iff,KnownValues,List.tail_cons,←hkeyed.iff_values]
  exact and_iff_right hcount

/-- A loop that refuses exactly the lines without a loose form accepts lines of a
stricter form only, exactly when loose lines always have the stricter values. -/
theorem collect_contract_iff {α : Type} {entry : List Token → Option (Option (Token×α))}
    {Loose Strict Values : List Token → Prop} (haccepted : ∀ line,entry line≠none ↔ Loose line)
    (hskipped : ∀ line,entry line=some none → Values line)
    (hstrict : ∀ line,Loose line → (Strict line ↔ Values line)) (lines : List (List Token)) :
    (collect entry ∅ lines≠∅ → ∀ line∈lines,Strict line) ↔
      ((∀ line∈lines,Loose line) → ∀ line∈lines,Values line) := by
  rw [collect_ne_empty_iff]
  simp only [haccepted]
  constructor
  · intro h hloose line hline
    cases hentry : entry line with
    | none => exact absurd hentry ((haccepted line).mpr (hloose line hline))
    | some result =>
      cases result with
      | none => exact hskipped line hentry
      | some pair =>
        exact (hstrict line (hloose line hline)).mp
          (h ⟨hloose,line,hline,pair,hentry⟩ line hline)
  · rintro h ⟨hloose,-⟩ line hline
    exact (hstrict line (hloose line hline)).mpr (h hloose line hline)

/-- Either parser accepts documented lines only, exactly when lines that fit the
form with values that begin with a number have values that are wholly decimal. -/
theorem io_formats_iff (statLines maxLines : List (List Token))
    (devMap : AList fun _ : Token => Token) :
    ((parseIOLines statLines devMap≠∅ → ∀ line∈statLines,IoStatLine WholeInteger line) ↔
      ((∀ line∈statLines,IoStatLine NumberPrefix line) →
        ∀ line∈statLines,KnownValues IoKey.ofToken WholeInteger line)) ∧
    ((parseIOThrottleLines maxLines≠∅ → ∀ line∈maxLines,IoMaxLine WholeLimit line) ↔
      ((∀ line∈maxLines,IoMaxLine LimitPrefix line) →
        ∀ line∈maxLines,KnownValues ThrottleKey.ofToken WholeLimit line)) := by
  constructor
  · rw [parseIOLines,parseIOLinesLoop_eq_collect]
    refine collect_contract_iff (ioEntry_ne_none_iff devMap) (fun line hskipped => ?_)
      (fun line hloose => ioStatLine_iff_values hloose) statLines
    -- a line is skipped for having no field
    have hbare : line.length=1 := by
      rw [ioEntry] at hskipped
      split at hskipped
      · assumption
      · split at hskipped
        · cases hskipped
        · obtain ⟨stats,-,hpair⟩ := Option.map_eq_some_iff.mp hskipped
          cases hpair
    obtain ⟨device,rfl⟩ := List.length_eq_one_iff.mp hbare
    exact fun field hfield => by cases hfield
  · rw [parseIOThrottleLines,parseIOThrottleLinesLoop_eq_collect]
    refine collect_contract_iff throttleEntry_ne_none_iff (fun line hskipped => ?_)
      (fun line hloose => ioMaxLine_iff_values hloose) maxLines
    rw [throttleEntry] at hskipped
    split at hskipped
    · cases hskipped
    · obtain ⟨throttle,-,hpair⟩ := Option.map_eq_some_iff.mp hskipped
      cases hpair

/-- A line of io.stat with letters after the first value. -/
def trailingLetters : List Token :=
  ["8:0".toList,"rbytes=12abc".toList,"wbytes=0".toList,"rios=0".toList,"wios=0".toList,
    "dbytes=0".toList,"dios=0".toList]

/-- A line of io.max with a limit that is not an integer. -/
def fractionalLimit : List Token :=
  ["8:0".toList,"rbps=1.5".toList,"wbps=max".toList,"riops=max".toList,"wiops=max".toList]

/-- Both lines are accepted although neither is documented. -/
theorem io_formats_prefix_accepted :
    ¬(parseIOLines [trailingLetters] ∅≠∅ →
        ∀ line∈[trailingLetters],IoStatLine WholeInteger line) ∧
      ¬(parseIOThrottleLines [fractionalLimit]≠∅ →
        ∀ line∈[fractionalLimit],IoMaxLine WholeLimit line) := by
  constructor
  · intro h
    have haccepted : (parseIOLines [trailingLetters] ∅).keys=["8:0".toList] := by decide +kernel
    have hline := h (fun hempty => by rw [hempty] at haccepted; cases haccepted) _
      (List.mem_singleton_self _)
    obtain ⟨value,hdecimal⟩ := (ioStatLine_iff_values hline).mp hline "rbytes=12abc".toList
      (by decide) "rbytes".toList "12abc".toList (by decide) (by decide)
    exact absurd (hdecimal.digits 'a' (by decide)) (by decide)
  · intro h
    have haccepted : (parseIOThrottleLines [fractionalLimit]).keys=["8:0".toList] := by
      decide +kernel
    have hline := h (fun hempty => by rw [hempty] at haccepted; cases haccepted) _
      (List.mem_singleton_self _)
    rcases (ioMaxLine_iff_values hline).mp hline "rbps=1.5".toList (by decide) "rbps".toList
      "1.5".toList (by decide) (by decide) with hmax|⟨value,hdecimal⟩
    · exact absurd hmax (by decide)
    · exact absurd (hdecimal.digits '.' (by decide)) (by decide)

end AtlasAgent.IoFormats
