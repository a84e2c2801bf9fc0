import AtlasAgent.ProcSnmp

/-!
# Lines that begin with a label

Files under /proc are read piece by piece with fgets. A chain of starts_with
finds the first of several labels that a piece begins with, and one number is
scanned behind it. A line that is longer than the buffer comes in several
pieces, which are no lines of their own but are tested all the same.
-/

namespace AtlasAgent.LabelledLines

open DecimalText MountPoints ProcSnmp ScanMarks ScanfText SpacedText TextFields
open NumberText hiding startsWith toInt64

section Definitions

variable {ι : Type*} (label : ι → Token)

/-- A chain of starts_with: the first field whose label the line begins with. -/
def fieldOf (fields : List ι) (line : Token) : Option ι :=
  fields.find? fun field => startsWith line (label field)

/-- The variable after sscanf by a format of a label and %lu. -/
def scanLabelled (text line : Token) : Option ℕ := (sscanfUnsigned text 1 line)[0]?

/-- The fields that are found in a file, with what is scanned for them. -/
def readings (room : ℕ) (fields : List ι) (text : Token) : List (ι×Option ℕ) :=
  (fgetsAll room [] text).filterMap fun line =>
    (fieldOf label fields line).map fun field => (field,scanLabelled (label field) line)

/-- Labels that are told apart by what a line begins with. -/
structure Labels (fields : List ι) : Prop where
  oneLine : ∀ field∈fields,'\n' ∉ label field
  noNull : ∀ field∈fields,'\x00' ∉ label field
  distinct : ∀ field∈fields,∀ other∈fields,label field<+:label other → field=other

end Definitions

/-- A line of such a file. -/
inductive Line (ι : Type*)
  /-- The label of a field, blanks, a number and what follows it. -/
  | entry (field : ι) (blanks value : ℕ) (rest : Token)
  /-- Any other line. -/
  | other (text : Token)

namespace Line

variable {ι : Type*} (label : ι → Token)

/-- The text of a line. -/
def text : Line ι → Token
  | entry field blanks value rest =>
    label field++(List.replicate blanks ' '++(Nat.toDigits 10 value++rest))
  | other text => text

/-- The field and the number of a line. -/
def reading : Line ι → Option (ι×ℕ)
  | entry field _ value _ => some (field,value)
  | other _ => none

/-- An entry fits into the buffer and its number into an unsigned long. Another
line begins with no label; if it does not fit, it has none inside either. -/
def Readable (room : ℕ) (fields : List ι) : Line ι → Prop
  | entry field blanks value rest =>
    field∈fields ∧ value < size64 ∧ NoDigit rest ∧ '\n' ∉ rest ∧ '\x00' ∉ rest ∧
      ((entry field blanks value rest).text label).length < room
  | other text =>
    '\n' ∉ text ∧
      ((∀ field∈fields,¬label field<+:text) ∧ text.length < room ∨
        ∀ field∈fields,¬label field<:+:text)

end Line

/-- The file of lines. -/
def fileText {ι : Type*} (label : ι → Token) (lines : List (Line ι)) : Token :=
  unlines (lines.map (Line.text label))

/-- The calls for a line do not read on behind its line break. -/
theorem fgetsAll_unlines_eq_flatMap (room : ℕ) (lines : List Token) :
    fgetsAll room [] (unlines lines)=lines.flatMap fun line => fgetsAll room [] (line++['\n']) := by
  induction lines with
  | nil => rfl
  | cons line lines ih => rw [unlines_cons,fgetsAll_lineBreak,ih,List.flatMap_cons]

/-- A scan behind a label finds a number exactly when one is there. -/
theorem scanLabelled_isSome_iff (text line : Token) :
    (scanLabelled text line).isSome ↔
      ∃ rest,cStr line=text++rest ∧ NumbersFrom isSpace 1 rest := by
  rw [scanLabelled,isSome_getElem?]
  exact le_length_sscanfUnsigned_iff text (by decide : 0<1) le_rfl line

/-- A number that fits is converted to itself. -/
theorem unsignedLong_of_lt {value : ℕ} (h : value < size64) : unsignedLong (false,value)=value := by
  rw [unsignedLong,if_neg (by simpa using h),signed,if_neg Bool.false_ne_true,
    Int.emod_eq_of_lt (Int.natCast_nonneg value) (by exact_mod_cast h),Int.toNat_natCast]

/-- One number in digits behind spaces. -/
theorem scanUnsigned_decimal {spaces text rest : Token} {value : ℕ}
    (hspaces : ∀ c∈spaces,isSpace c=true) (h : Decimal text value) (hvalue : value < size64)
    (hrest : NoDigit rest) :
    scanUnsigned (openFile (spaces++(text++rest)))=
      (some value,readUpTo (openFile (spaces++(text++rest))) rest) := by
  rw [scanUnsigned,openFile,scanDigits_decimal hspaces h rest hrest,Option.map_some,
    unsignedLong_of_lt hvalue]

/-- A number behind a label and blanks is scanned up to what follows it. -/
theorem scanLabelled_append {text rest : Token} {blanks value : ℕ} (htext : '\x00' ∉ text)
    (hvalue : value < size64) (hdigit : NoDigit rest) (hrest : '\x00' ∉ rest) :
    scanLabelled text (text++(List.replicate blanks ' '++(Nat.toDigits 10 value++rest)))=
      some value := by
  have hdecimal := decimal_toDigits value
  have hdigits : '\x00' ∉ Nat.toDigits 10 value := fun hmem =>
    absurd (hdecimal.digits _ hmem) (by decide)
  have hnull : '\x00' ∉ text++(List.replicate blanks ' '++(Nat.toDigits 10 value++rest)) := by
    simp only [List.mem_append,List.mem_replicate,not_or,not_and]
    exact ⟨htext,fun _ => by decide,hdigits,hrest⟩
  have hspaces : ∀ c∈List.replicate blanks ' ',isSpace c=true := fun c hc => by
    rw [(List.mem_replicate.mp hc).2]
    decide
  rw [scanLabelled,sscanfUnsigned,if_pos ((startsWith_iff htext).mpr (List.prefix_append _ _)),cStr,
    takeWhile_ne_of_not_mem hnull,List.drop_left,scanMany,
    scanUnsigned_decimal hspaces hdecimal hvalue hdigit]
  rfl

section Written

variable {ι : Type*} {label : ι → Token} {fields : List ι} {room : ℕ}

/-- A line that begins with the label of a field has that field. -/
theorem Labels.fieldOf_append (h : Labels label fields) {field : ι} (hfield : field∈fields)
    (rest : Token) : fieldOf label fields (label field++rest)=some field := by
  have hfound : (fieldOf label fields (label field++rest)).isSome := by
    rw [fieldOf,List.find?_isSome]
    exact ⟨field,hfield,(startsWith_iff (h.noNull field hfield)).mpr (List.prefix_append _ _)⟩
  obtain ⟨other,hother⟩ := Option.isSome_iff_exists.mp hfound
  have hmem : other∈fields := List.mem_of_find?_eq_some hother
  have hstarts : startsWith (label field++rest) (label other)=true := by
    rw [fieldOf] at hother
    exact List.find?_some (p:=fun field' => startsWith (label field++rest) (label field')) hother
  have hbegins := (startsWith_iff (h.noNull other hmem)).mp hstarts
  -- of two labels that the line begins with one begins with the other
  obtain hle|hle := List.prefix_or_prefix_of_prefix hbegins (List.prefix_append (label field) rest)
  · rw [hother,h.distinct other hmem field hfield hle]
  · rw [hother,h.distinct field hfield other hmem hle]

theorem Labels.fieldOf_eq_none (h : Labels label fields) {line : Token}
    (hline : ∀ field∈fields,¬label field<+:line) : fieldOf label fields line=none := by
  rw [fieldOf,List.find?_eq_none]
  exact fun field hfield hbegins =>
    hline field hfield ((startsWith_iff (h.noNull field hfield)).mp hbegins)

/-- A label has no line break, so it is not completed by one. -/
theorem begins_of_begins_newline {text line : Token} (hbreak : '\n' ∉ text)
    (h : text<+:line++['\n']) : text<+:line := by
  obtain heq|hfront := List.prefix_concat_iff.mp h
  · rw [heq] at hbreak
    exact absurd (List.mem_append_right _ List.mem_cons_self) hbreak
  · exact hfront

theorem inside_of_inside_newline {text line : Token} (hbreak : '\n' ∉ text)
    (h : text<:+:line++['\n']) : text<:+:line := by
  obtain hsuffix|hinside := List.infix_concat_iff.mp h
  · obtain rfl|⟨front,rfl,-⟩ := List.suffix_concat_iff.mp hsuffix
    · exact List.nil_infix
    · exact absurd (List.mem_append_right _ List.mem_cons_self) hbreak
  · exact hinside

/-- An entry that there is room for is one piece. -/
theorem readings_entry (h : Labels label fields) {field : ι} {blanks value : ℕ} {rest : Token}
    (hline : (Line.entry field blanks value rest).Readable label room fields) :
    readings label room fields ((Line.entry field blanks value rest).text label++['\n'])=
      [(field,some value)] := by
  obtain ⟨hfield,hvalue,hdigit,hbreak,hnull,hroom⟩ := hline
  have htext : '\n' ∉ (Line.entry field blanks value rest).text label := by
    simp only [Line.text,List.mem_append,List.mem_replicate,not_or,not_and]
    exact ⟨h.oneLine field hfield,fun _ => by decide,
      (visible_toDigits value).not_mem (by decide),hbreak⟩
  have hread : fgetsAll room [] ((Line.entry field blanks value rest).text label++['\n'])=
      [(Line.entry field blanks value rest).text label++['\n']] := by
    rw [fgetsAll_append htext [] [] (by simpa using hroom),fgetsAll,if_pos rfl]
    rfl
  have hshape : (Line.entry field blanks value rest).text label++['\n']=
      label field++(List.replicate blanks ' '++(Nat.toDigits 10 value++(rest++['\n']))) := by
    simp only [Line.text,List.append_assoc]
  have hend : NoDigit (rest++['\n']) := by
    cases rest with
    | nil => exact noDigit_cons.mpr (by decide)
    | cons c rest => exact noDigit_cons.mpr (noDigit_cons.mp hdigit)
  have hnull' : '\x00' ∉ rest++['\n'] := by
    rw [List.mem_append,not_or]
    exact ⟨hnull,by decide⟩
  have hpiece : (fieldOf label fields ((Line.entry field blanks value rest).text label++['\n'])).map
      (fun found => (found,scanLabelled (label found)
        ((Line.entry field blanks value rest).text label++['\n'])))=some (field,some value) := by
    rw [hshape,h.fieldOf_append hfield,Option.map_some,
      scanLabelled_append (h.noNull field hfield) hvalue hend hnull']
  rw [readings,hread,List.filterMap_cons,hpiece]
  rfl

/-- No piece of another line has a field. -/
theorem readings_other (h : Labels label fields) {text : Token}
    (hline : (Line.other text).Readable label room fields) :
    readings label room fields (text++['\n'])=[] := by
  obtain ⟨hbreak,hlabels⟩ := hline
  refine List.filterMap_eq_nil_iff.mpr fun piece hpiece => ?_
  have hnone : fieldOf label fields piece=none := by
    obtain ⟨hfront,hroom⟩|hinside := hlabels
    · rw [fgetsAll_append hbreak [] [] (by simpa using hroom),fgetsAll,if_pos rfl,
        List.mem_singleton] at hpiece
      rw [hpiece]
      exact h.fieldOf_eq_none fun field hfield hbegins => hfront field hfield
        (begins_of_begins_newline (h.oneLine field hfield) hbegins)
    · have hpart : piece<:+:[]++(text++['\n']) := infix_of_mem_fgetsAll [] hpiece
      exact h.fieldOf_eq_none fun field hfield hbegins => hinside field hfield
        (inside_of_inside_newline (h.oneLine field hfield) (hbegins.isInfix.trans hpart))
  rw [hnone]
  rfl

/-- What the pieces of a line are read as. -/
theorem readings_line (h : Labels label fields) {line : Line ι}
    (hline : line.Readable label room fields) :
    readings label room fields (line.text label++['\n'])=
      (line.reading.map fun reading => (reading.1,some reading.2)).toList := by
  cases line with
  | entry field blanks value rest => exact readings_entry h hline
  | other text => exact readings_other h hline

/-- The entries of a file are read in order, each with its number. -/
theorem readings_fileText (h : Labels label fields) {lines : List (Line ι)}
    (hlines : ∀ line∈lines,line.Readable label room fields) :
    readings label room fields (fileText label lines)=
      (lines.filterMap Line.reading).map fun reading => (reading.1,some reading.2) := by
  have hline : ∀ line∈lines,readings label room fields (line.text label++['\n'])=
      (line.reading.map fun reading => (reading.1,some reading.2)).toList :=
    fun line hmem => readings_line h (hlines line hmem)
  rw [readings,fileText,fgetsAll_unlines_eq_flatMap,List.filterMap_flatMap,List.flatMap_map,
    List.map_filterMap,List.filterMap_eq_flatMap_toList]
  exact List.flatMap_congr hline

end Written

end AtlasAgent.LabelledLines
