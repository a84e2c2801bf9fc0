import AtlasAgent.DecimalText
import Mathlib.Data.List.TakeWhile

/-!
# Texts of lines and of fields

How a text is put together of lines that each end in a line break, and a line
of fields with blanks between them; and that the splitting functions take such
texts apart again, whichever separators they know besides the blank.
-/

namespace AtlasAgent.SpacedText

open DecimalText NumberText TextFields

/-- Lines, each ended by a line break. -/
def unlines (lines : List Token) : Token := lines.flatMap (·++['\n'])

/-- Fields with at least one blank in front of each: the number says how many
more there are. -/
def spread : List (ℕ×Token) → Token
  | [] => []
  | (more,field)::rest => ' '::List.replicate more ' '++field++spread rest

/-- A field that a reader stopping at spaces takes as a whole. -/
structure Visible (field : Token) : Prop where
  nonempty : field≠[]
  noSpace : ∀ c∈field,isSpace c=false

theorem Visible.not_mem {field : Token} (h : Visible field) {c : Char} (hc : isSpace c=true) :
    c∉field := fun hmem => by
  rw [h.noSpace c hmem] at hc
  cases hc

/-- A check of every character tells that a text has no space. -/
theorem noSpace_of_all {text : Token} (h : (text.all fun c => !isSpace c)=true) :
    ∀ c∈text,isSpace c=false := fun c hc => by
  have hspace := List.all_eq_true.mp h c hc
  rwa [Bool.not_eq_true'] at hspace

/-- Whether a field is visible is checked character by character. -/
theorem visible_iff_all {field : Token} :
    Visible field ↔ field≠[] ∧ (field.all fun c => !isSpace c)=true := by
  constructor
  · intro h
    exact ⟨h.nonempty,List.all_eq_true.mpr fun c hc => by rw [h.noSpace c hc]; rfl⟩
  · exact fun h => ⟨h.1,noSpace_of_all h.2⟩

instance (field : Token) : Decidable (Visible field) := decidable_of_iff' _ visible_iff_all

/-- Spaces in front of a text that begins with another character are skipped. -/
theorem skipSpace_append {spaces text : Token} (hspaces : ∀ c∈spaces,isSpace c=true)
    (htext : ∀ c∈text.head?,isSpace c=false) : skipSpace (spaces++text)=text := by
  rw [skipSpace,List.dropWhile_append_of_pos hspaces]
  cases text with
  | nil => rfl
  | cons c text => exact List.dropWhile_cons_of_neg (by simp [htext c rfl])

/-- A text is taken up to a character that it does not have. -/
theorem takeWhile_ne_of_not_mem {c : Char} {text : Token} (h : c∉text) :
    text.takeWhile (· ≠ c)=text :=
  List.takeWhile_eq_self_iff.mpr (decide_ne_of_not_mem h)

section Word

variable {word rest : Token}

theorem Visible.head (h : Visible word) : ∀ c∈(word++rest).head?,isSpace c=false := by
  obtain ⟨first,tail,rfl⟩ := List.exists_cons_of_ne_nil h.nonempty
  rintro c ⟨rfl⟩
  exact h.noSpace _ List.mem_cons_self

/-- A word ends where a space or the end follows it. -/
theorem Visible.takeWhile_append (h : Visible word) (hrest : ∀ c∈rest.head?,isSpace c=true) :
    (word++rest).takeWhile (fun c => !isSpace c)=word := by
  have hvisible : ∀ c∈word,(!isSpace c)=true := fun c hc => by rw [h.noSpace c hc]; rfl
  have hnone : rest.takeWhile (fun c => !isSpace c)=[] := by
    cases rest with
    | nil => rfl
    | cons c rest => exact List.takeWhile_cons_of_neg (by simp [hrest c rfl])
  rw [List.takeWhile_append_of_pos hvisible,hnone,List.append_nil]

theorem Visible.dropWhile_append (h : Visible word) (hrest : ∀ c∈rest.head?,isSpace c=true) :
    (word++rest).dropWhile (fun c => !isSpace c)=rest := by
  have hvisible : ∀ c∈word,(!isSpace c)=true := fun c hc => by rw [h.noSpace c hc]; rfl
  have hall : rest.dropWhile (fun c => !isSpace c)=rest := by
    cases rest with
    | nil => rfl
    | cons c rest => exact List.dropWhile_cons_of_neg (by simp [hrest c rfl])
  rw [List.dropWhile_append_of_pos hvisible,hall]

end Word

/-- A text that begins with no space begins with a word up to a space or the end. -/
theorem exists_firstWord {c : Char} (hc : isSpace c=false) (tail : Token) :
    ∃ word rest,Visible word ∧ (∀ d∈rest.head?,isSpace d=true) ∧ c::tail=word++rest := by
  have hsplit := List.takeWhile_append_dropWhile (p:=fun c => !isSpace c) (l:=c::tail)
  have hstop := List.head?_dropWhile_not (fun c => !isSpace c) (c::tail)
  refine ⟨_,_,⟨by simp [hc],fun d hd => ?_⟩,fun d hd => ?_,hsplit.symm⟩
  · simpa using List.mem_takeWhile_imp hd
  · rw [hd] at hstop
    simpa using hstop

/-- A decimal text is visible. -/
theorem visible_toDigits (n : ℕ) : Visible (Nat.toDigits 10 n) where
  nonempty := Nat.toDigits_ne_nil
  noSpace c hc := isSpace_of_isDigit ((decimal_toDigits n).digits c hc)

theorem unlines_cons (line : Token) (lines : List Token) :
    unlines (line::lines)=line++ '\n'::unlines lines := by simp [unlines]

/-- Every text is lines with line breaks and what follows the last one. -/
theorem exists_unlines (text : Token) : ∃ lines last,(∀ line∈lines,'\n' ∉ line) ∧
    '\n' ∉ last ∧ text=unlines lines++last := by
  induction text with
  | nil => exact ⟨[],[],by simp,List.not_mem_nil,rfl⟩
  | cons c text ih =>
    obtain ⟨lines,last,hlines,hlast,rfl⟩ := ih
    by_cases hc : c= '\n'
    · refine ⟨[]::lines,last,List.forall_mem_cons.mpr ⟨List.not_mem_nil,hlines⟩,hlast,?_⟩
      rw [hc,unlines_cons]
      rfl
    · have hfirst : ∀ {line : Token},'\n' ∉ line → '\n' ∉ c::line := fun hline hmem =>
        (List.mem_cons.mp hmem).elim (fun heq => hc heq.symm) hline
      cases lines with
      | nil => exact ⟨[],c::last,hlines,hfirst hlast,rfl⟩
      | cons line lines =>
        obtain ⟨hline,hlines⟩ := List.forall_mem_cons.mp hlines
        refine ⟨(c::line)::lines,last,List.forall_mem_cons.mpr ⟨hfirst hline,hlines⟩,hlast,?_⟩
        rw [unlines_cons,unlines_cons]
        rfl

section Lines

variable {lines : List Token} {last : Token}

/-- A text comes apart into its lines and what follows the last line break. -/
theorem splitOn_unlines_append (h : ∀ line∈lines,'\n' ∉ line) (hlast : '\n' ∉ last) :
    (unlines lines++last).splitOn '\n'=lines++[last] := by
  induction lines with
  | nil => exact List.splitOn_eq_singleton hlast
  | cons line lines ih =>
    obtain ⟨hline,hrest⟩ := List.forall_mem_cons.mp h
    rw [unlines_cons,List.append_assoc,List.cons_append,
      List.splitOn_append_cons_self_of_not_mem hline,ih hrest]
    rfl

/-- A text that ends in line breaks comes apart into its lines. -/
theorem splitOn_unlines (h : ∀ line∈lines,'\n' ∉ line) :
    (unlines lines).splitOn '\n'=lines++[[]] := by
  rw [←splitOn_unlines_append h List.not_mem_nil,List.append_nil]

/-- Something after the last line break is a line for std::getline, too. -/
theorem getLines_unlines_append (h : ∀ line∈lines,'\n' ∉ line) (hlast : '\n' ∉ last)
    (hne : last≠[]) : getLines (unlines lines++last)=lines++[last] := by
  have hend : (lines++[last]).getLast?≠some [] := by simpa using hne
  rw [getLines,splitOn_unlines_append h hlast]
  exact if_neg hend

/-- std::getline reads the lines back. -/
theorem getLines_unlines (h : ∀ line∈lines,'\n' ∉ line) : getLines (unlines lines)=lines := by
  rw [getLines,splitOn_unlines h]
  simp

end Lines

/-- What is not in a field, and no blank, is not in the line. -/
theorem not_mem_spread {c : Char} (hc : c≠ ' ') {fields : List (ℕ×Token)}
    (h : ∀ field∈fields.map Prod.snd,c∉field) : c∉spread fields := by
  induction fields with
  | nil => exact List.not_mem_nil
  | cons pair fields ih =>
    obtain ⟨more,field⟩ := pair
    obtain ⟨hfield,hrest⟩ := List.forall_mem_cons.mp h
    rw [spread]
    simp only [List.mem_append,List.mem_cons,List.mem_replicate,not_or,not_and]
    exact ⟨⟨⟨hc,fun _ => hc⟩,hfield⟩,ih hrest⟩

section Split

variable {separates : Char → Bool} {keep : Token → Bool}

/-- Separators in front of a text leave no piece. -/
theorem filter_splitOnP_replicate {c : Char} (hc : separates c=true) (hkeep : keep []=false)
    (n : ℕ) (text : Token) :
    ((List.replicate n c++text).splitOnP separates).filter keep=
      (text.splitOnP separates).filter keep := by
  induction n with
  | zero => rfl
  | succ n ih =>
    have hfirst := List.splitOnP_append_cons [] (List.replicate n c++text) hc
    rw [List.replicate_succ,List.cons_append,←List.nil_append (c::_),hfirst,List.filter_append,ih]
    simp [hkeep]

/-- Separators behind a text leave no piece either. -/
theorem filter_splitOnP_append_replicate {c : Char} (hc : separates c=true) (hkeep : keep []=false)
    (text : Token) (n : ℕ) :
    ((text++List.replicate n c).splitOnP separates).filter keep=
      (text.splitOnP separates).filter keep := by
  cases n with
  | zero => rw [List.replicate_zero,List.append_nil]
  | succ n =>
    have hblank := filter_splitOnP_replicate hc hkeep n []
    rw [List.append_nil,List.splitOnP_nil] at hblank
    rw [List.replicate_succ,List.splitOnP_append_cons _ _ hc,List.filter_append,hblank]
    simp [hkeep]

/-- The fields of a line are its pieces. -/
theorem filter_splitOnP_spread (hblank : separates ' '=true) (hkeep : keep []=false)
    {first : Token} {fields : List (ℕ×Token)}
    (hfields : ∀ field∈first::fields.map Prod.snd,
      keep field=true ∧ ∀ c∈field,separates c=false) (n : ℕ) :
    ((List.replicate n ' '++first++spread fields).splitOnP separates).filter keep=
      first::fields.map Prod.snd := by
  induction fields generalizing n first with
  | nil =>
    obtain ⟨hfirst,hseparates⟩ := hfields first List.mem_cons_self
    rw [List.append_assoc,filter_splitOnP_replicate hblank hkeep,spread,List.append_nil,
      List.splitOnP_eq_singleton hseparates]
    simp [hfirst]
  | cons pair fields ih =>
    obtain ⟨more,field⟩ := pair
    obtain ⟨hfirst,hseparates⟩ := hfields first List.mem_cons_self
    have hrest : ∀ other∈field::fields.map Prod.snd,
        keep other=true ∧ ∀ c∈other,separates c=false := fun other hother =>
      hfields other (List.mem_cons_of_mem _ hother)
    rw [List.append_assoc,filter_splitOnP_replicate hblank hkeep,spread,List.append_assoc,
      List.cons_append,List.splitOnP_append_cons_of_forall_mem hseparates ' ' hblank,
      List.filter_cons_of_pos hfirst,←List.append_assoc,ih hrest]
    rfl

end Split

/-- The words of a text, between which any number of spaces of any kind stand. -/
def words (text : Token) : List Token := (text.splitOnP isSpace).filter (· ≠ [])

section Words

variable {word rest : Token}

/-- A space divides the words. -/
theorem words_append_cons {c : Char} (hc : isSpace c=true) (text rest : Token) :
    words (text++c::rest)=words text++words rest := by
  rw [words,List.splitOnP_append_cons text rest hc,List.filter_append,words,words]

theorem words_skipSpace (text : Token) : words (skipSpace text)=words text := by
  induction text with
  | nil => rfl
  | cons c text ih =>
    cases hc : isSpace c with
    | true =>
      have hspace : words (c::text)=words text := words_append_cons hc [] text
      rw [skipSpace,List.dropWhile_cons_of_pos hc,hspace]
      exact ih
    | false => rw [skipSpace,List.dropWhile_cons_of_neg (by simp [hc])]

theorem Visible.words_eq (h : Visible word) : words word=[word] := by
  rw [words,List.splitOnP_eq_singleton h.noSpace,
    List.filter_cons_of_pos (by simpa using h.nonempty),List.filter_nil]

/-- A word up to a space, or to the end, is the first one. -/
theorem Visible.words_append (h : Visible word) (hrest : ∀ c∈rest.head?,isSpace c=true) :
    words (word++rest)=word::words rest := by
  cases rest with
  | nil =>
    rw [List.append_nil,h.words_eq]
    rfl
  | cons c rest =>
    have hspace : words (c::rest)=words rest := words_append_cons (hrest c rfl) [] rest
    rw [words_append_cons (hrest c rfl),h.words_eq,hspace]
    rfl

/-- Behind its spaces a text is empty or begins with its first word. -/
theorem words_cases (text : Token) :
    skipSpace text=[] ∧ words text=[] ∨
      ∃ word rest,Visible word ∧ (∀ c∈rest.head?,isSpace c=true) ∧
        skipSpace text=word++rest ∧ words text=word::words rest := by
  have hhead := List.head?_dropWhile_not isSpace text
  rw [←skipSpace] at hhead
  rw [←words_skipSpace text]
  cases hskip : skipSpace text with
  | nil => exact .inl ⟨rfl,rfl⟩
  | cons c tail =>
    right
    rw [hskip] at hhead
    have hc : isSpace c=false := hhead
    obtain ⟨word,rest,hword,hrest,hsplit⟩ := exists_firstWord hc tail
    refine ⟨word,rest,hword,hrest,hsplit,?_⟩
    rw [hsplit,hword.words_append hrest]

end Words

end AtlasAgent.SpacedText
