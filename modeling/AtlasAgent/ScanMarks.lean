import AtlasAgent.ScanfText

/-!
# Where the conversions of a scan find their numbers

A scan converts numbers one after the other up to the first that is not there,
and it passes over line breaks as over any other space. Each number is marked
with its line, so that it can be told which were found on the line where the
scan began.
-/

namespace AtlasAgent.ScanMarks

open NumberText ScanfText TextFields

section Many

variable {α β : Type*}

/-- As many conversions of a kind, up to the first that fails. -/
def scanMany (convert : InputFile → Option α×InputFile) : ℕ → InputFile → List α×InputFile
  | 0,file => ([],file)
  | count+1,file =>
    match convert file with
    | (none,after) => ([],after)
    | (some value,after) =>
      let scanned := scanMany convert count after
      (value::scanned.1,scanned.2)

/-- The conversions %ld are of a kind. -/
theorem scanLongs_eq_scanMany (count : ℕ) (file : InputFile) :
    scanLongs count file=scanMany scanLongFrom count file := by
  induction count generalizing file with
  | zero => rfl
  | succ count ih =>
    rw [scanLongs,scanMany]
    cases scanLongFrom file with
    | mk value after =>
      cases value with
      | none => rfl
      | some value =>
        dsimp only
        rw [ih after]

/-- Conversions that only differ in what they make of a number. -/
theorem scanMany_map {convert : InputFile → Option α×InputFile}
    {convert' : InputFile → Option β×InputFile} {f : α → β}
    (h : ∀ file,convert' file=((convert file).1.map f,(convert file).2)) (count : ℕ)
    (file : InputFile) :
    scanMany convert' count file=
      ((scanMany convert count file).1.map f,(scanMany convert count file).2) := by
  induction count generalizing file with
  | zero => rfl
  | succ count ih =>
    rw [scanMany,scanMany,h]
    cases hscan : convert file with
    | mk value after =>
      cases value with
      | none => rfl
      | some value =>
        dsimp only [Option.map_some]
        rw [ih after]
        rfl

theorem laterThan_scanMany {convert : InputFile → Option α×InputFile}
    (h : ∀ file,LaterThan (convert file).2 file) (count : ℕ) (file : InputFile) :
    LaterThan (scanMany convert count file).2 file := by
  induction count generalizing file with
  | zero => exact LaterThan.refl file
  | succ count ih =>
    have hfirst := h file
    rw [scanMany]
    cases hscan : convert file with
    | mk value after =>
      rw [hscan] at hfirst
      cases value with
      | none => exact hfirst
      | some value => exact (ih after).trans hfirst

end Many

/-- The text behind what is skipped and a sign. -/
def numberBody (skips : Char → Bool) (text : Token) : Token := (scanSign (text.dropWhile skips)).2

/-- A text begins with numbers, each after any characters that are skipped. -/
def NumbersFrom (skips : Char → Bool) : ℕ → Token → Prop
  | 0,_ => True
  | count+1,text =>
    (numberBody skips text).takeWhile Char.isDigit≠[] ∧
      NumbersFrom skips count ((numberBody skips text).dropWhile Char.isDigit)

/-- NumbersFrom can be decided. -/
def decidableNumbersFrom (skips : Char → Bool) :
    ∀ count text,Decidable (NumbersFrom skips count text)
  | 0,_ => .isTrue trivial
  | _+1,_ => @instDecidableAnd _ _ inferInstance (decidableNumbersFrom skips _ _)

instance (skips : Char → Bool) (count : ℕ) (text : Token) :
    Decidable (NumbersFrom skips count text) := decidableNumbersFrom skips count text

theorem scanDigits_eq (file : InputFile) :
    scanDigits file=
      (if (numberBody isSpace file.rest).takeWhile Char.isDigit=[] then none
        else some ((scanSign (skipSpace file.rest)).1,
          digitsValue ((numberBody isSpace file.rest).takeWhile Char.isDigit)),
        readUpTo file ((numberBody isSpace file.rest).dropWhile Char.isDigit)) := rfl

/-- As many numbers are converted as the text begins with. -/
theorem le_length_scanMany_iff {α : Type*} {make : Bool×ℕ → α} {count bound : ℕ}
    (hle : count≤bound) (file : InputFile) :
    count ≤ (scanMany (fun file => ((scanDigits file).1.map make,(scanDigits file).2))
      bound file).1.length ↔ NumbersFrom isSpace count file.rest := by
  induction count generalizing bound file with
  | zero => simp [NumbersFrom]
  | succ count ih =>
    obtain ⟨bound,rfl⟩ : ∃ more,bound=more+1 := ⟨bound-1,by omega⟩
    rw [scanMany,NumbersFrom,scanDigits_eq]
    by_cases hdigits : (numberBody isSpace file.rest).takeWhile Char.isDigit=[]
    · simp [hdigits]
    · rw [if_neg hdigits]
      dsimp only [Option.map_some]
      rw [List.length_cons,Nat.add_le_add_iff_right,ih (by omega)]
      exact (and_iff_right hdigits).symm

/-- The line of a place in a file, counted from the end. -/
def lineOf (file : InputFile) : ℕ := file.rest.count '\n'

/-- A number and the line on which it was found. -/
structure Reading where
  value : ℤ
  line : ℕ
  deriving DecidableEq

/-- The conversion %ld with the line of the number. -/
def scanReading (file : InputFile) : Option Reading×InputFile :=
  let scanned := scanLongFrom file
  (scanned.1.map fun value => ⟨value,lineOf scanned.2⟩,scanned.2)

/-- The conversions store the numbers of the readings. -/
theorem scanLongs_eq_readings (count : ℕ) (file : InputFile) :
    scanLongs count file=((scanMany scanReading count file).1.map Reading.value,
      (scanMany scanReading count file).2) := by
  rw [scanLongs_eq_scanMany]
  refine scanMany_map (fun file => ?_) count file
  rw [scanReading,Option.map_map]
  exact Prod.ext Option.map_id'.symm rfl

/-- A space within a line. -/
def isLineSpace (c : Char) : Bool := isSpace c && c != '\n'

/-- What is skipped ends on the line, or it does not end there and a line break
is in the way. -/
theorem skipSpace_cases (text : Token) :
    (text.dropWhile isLineSpace=skipSpace text ∧ (skipSpace text).count '\n'=text.count '\n') ∨
      (∃ rest,text.dropWhile isLineSpace= '\n'::rest) ∧
        (skipSpace text).count '\n'<text.count '\n' := by
  induction text with
  | nil => exact .inl ⟨rfl,rfl⟩
  | cons c text ih =>
    by_cases hbreak : c= '\n'
    · subst hbreak
      have hsuffix : skipSpace text <:+ text := List.dropWhile_suffix _
      have hcount := hsuffix.sublist.count_le '\n'
      have hskip : skipSpace ('\n'::text)=skipSpace text := rfl
      rw [hskip,List.count_cons_self]
      exact .inr ⟨⟨text,rfl⟩,by omega⟩
    · by_cases hspace : isSpace c=true
      · have hline : isLineSpace c=true := by simp [isLineSpace,hspace,hbreak]
        have hskip : skipSpace (c::text)=skipSpace text := List.dropWhile_cons_of_pos hspace
        rw [List.dropWhile_cons_of_pos hline,hskip,List.count_cons_of_ne hbreak]
        exact ih
      · have hline : ¬isLineSpace c=true := by simp [isLineSpace,hspace]
        have hskip : skipSpace (c::text)=c::text := List.dropWhile_cons_of_neg hspace
        rw [List.dropWhile_cons_of_neg hline,hskip]
        exact .inl ⟨rfl,rfl⟩

/-- A sign is no line break, nor is a digit. -/
theorem count_scanSign (text : Token) : (scanSign text).2.count '\n'=text.count '\n' := by
  rw [scanSign.eq_def]
  split
  · exact (List.count_cons_of_ne (by decide)).symm
  · exact (List.count_cons_of_ne (by decide)).symm
  · rfl

theorem count_dropWhile_isDigit (text : Token) :
    (text.dropWhile Char.isDigit).count '\n'=text.count '\n' := by
  have hdigits : (text.takeWhile Char.isDigit).count '\n'=0 := by
    refine List.count_eq_zero.mpr fun hmem => ?_
    have hdigit := List.mem_takeWhile_imp hmem
    exact absurd hdigit (by decide)
  have hsplit := congrArg (List.count '\n') (List.takeWhile_append_dropWhile (p:=Char.isDigit)
    (l:=text))
  rw [List.count_append,hdigits,Nat.zero_add] at hsplit
  exact hsplit

/-- A reading that stands on the line. -/
def FromLine (line : ℕ) (reading : Option Reading) : Prop :=
  ∃ value,reading=some ⟨value,line⟩

theorem laterThan_scanReading (file : InputFile) : LaterThan (scanReading file).2 file :=
  laterThan_scanLongFrom file

theorem lineOf_le_of_later {after file : InputFile} (h : LaterThan after file) :
    lineOf after ≤ lineOf file := h.suffix.sublist.count_le '\n'

/-- One conversion stores its number with the line behind the number. -/
theorem scanReading_eq (file : InputFile) :
    scanReading file=
      let body := numberBody isSpace file.rest
      let after := readUpTo file (body.dropWhile Char.isDigit)
      (if body.takeWhile Char.isDigit=[] then none
        else some ⟨clampLong (signed (scanSign (skipSpace file.rest)).1
          (digitsValue (body.takeWhile Char.isDigit))),lineOf after⟩,after) := by
  rw [scanReading,scanLongFrom,scanDigits_eq]
  dsimp only
  split_ifs <;> rfl

theorem line_of_scanReading {file : InputFile} {reading : Reading}
    (h : (scanReading file).1=some reading) : reading.line=lineOf (scanReading file).2 := by
  obtain ⟨_,_,hvalue⟩ := Option.map_eq_some_iff.mp h
  exact congrArg Reading.line hvalue.symm

/-- A number that is converted takes up no line break. -/
theorem lineOf_scanReading (file : InputFile) :
    lineOf (scanReading file).2=(skipSpace file.rest).count '\n' := by
  rw [scanReading_eq]
  exact (count_dropWhile_isDigit _).trans (count_scanSign _)

/-- A number is found on the line exactly when the text begins with one there,
and then the scan goes on behind it. -/
theorem scanReading_cases (file : InputFile) :
    ((numberBody isLineSpace file.rest).takeWhile Char.isDigit≠[] ∧
      (scanReading file).2.rest=(numberBody isLineSpace file.rest).dropWhile Char.isDigit ∧
      FromLine (lineOf file) (scanReading file).1 ∧
      lineOf (scanReading file).2=lineOf file) ∨
    (numberBody isLineSpace file.rest).takeWhile Char.isDigit=[] ∧
      ¬FromLine (lineOf file) (scanReading file).1 := by
  have hline := lineOf_scanReading file
  obtain ⟨hskip,hcount⟩|⟨⟨rest,hskip⟩,hcount⟩ := skipSpace_cases file.rest
  · have hbody : numberBody isLineSpace file.rest=numberBody isSpace file.rest :=
      congrArg (fun text => (scanSign text).2) hskip
    rw [hcount] at hline
    rw [scanReading_eq] at hline ⊢
    rw [hbody]
    by_cases hdigits : (numberBody isSpace file.rest).takeWhile Char.isDigit=[]
    · right
      refine ⟨hdigits,?_⟩
      dsimp only
      rw [if_pos hdigits]
      rintro ⟨_,hnone⟩
      cases hnone
    · left
      refine ⟨hdigits,rfl,?_,hline⟩
      dsimp only at hline ⊢
      rw [if_neg hdigits,hline]
      exact ⟨_,rfl⟩
  · right
    have hbody : numberBody isLineSpace file.rest= '\n'::rest := by
      rw [numberBody,hskip]
      rfl
    rw [hbody]
    refine ⟨rfl,?_⟩
    rintro ⟨value,hreading⟩
    -- the number stands behind the line break
    have hmark := line_of_scanReading hreading
    rw [hline] at hmark
    exact absurd hmark.symm hcount.ne

/-- No reading stands before the place where the scan begins. -/
theorem line_le_of_mem_scanMany {count : ℕ} {file : InputFile} {reading : Reading}
    (h : reading∈(scanMany scanReading count file).1) : reading.line ≤ lineOf file := by
  induction count generalizing file with
  | zero => cases h
  | succ count ih =>
    have hlater := lineOf_le_of_later (laterThan_scanReading file)
    have hmark : ∀ first,(scanReading file).1=some first →
        first.line=lineOf (scanReading file).2 := fun _ => line_of_scanReading
    rw [scanMany] at h
    cases hscan : scanReading file with
    | mk value after =>
      rw [hscan] at h hlater hmark
      cases value with
      | none => cases h
      | some value =>
        obtain rfl|h := List.mem_cons.mp h
        · exact (hmark _ rfl).trans_le hlater
        · exact (ih h).trans hlater

/-- The first readings stand on the line where the scan begins exactly when as
many numbers follow on it. -/
theorem fromLine_scanMany_iff {count bound : ℕ} (hle : count≤bound) (file : InputFile) :
    (∀ i,i < count → FromLine (lineOf file) (scanMany scanReading bound file).1[i]?) ↔
      NumbersFrom isLineSpace count file.rest := by
  induction count generalizing bound file with
  | zero => simp [NumbersFrom]
  | succ count ih =>
    obtain ⟨bound,rfl⟩ : ∃ more,bound=more+1 := ⟨bound-1,by omega⟩
    rw [scanMany,NumbersFrom]
    obtain ⟨hdigits,hrest,⟨value,hreading⟩,hline⟩|⟨hdigits,hnot⟩ := scanReading_cases file
    · have hscan : scanReading file=(some ⟨value,lineOf file⟩,(scanReading file).2) :=
        Prod.ext hreading rfl
      rw [hscan]
      dsimp only
      rw [←hrest,←ih (by omega : count≤bound),hline]
      constructor
      · exact fun h => ⟨hdigits,fun i hi => h (i+1) (by omega)⟩
      · rintro ⟨-,h⟩ i hi
        cases i with
        | zero => exact ⟨value,rfl⟩
        | succ i => exact h i (by omega)
    · refine iff_of_false (fun h => hnot ?_) fun h => h.1 hdigits
      have hfirst := h 0 (Nat.succ_pos count)
      cases hscan : scanReading file with
      | mk reading after =>
        rw [hscan] at hfirst
        cases reading with
        | none => exact absurd hfirst (by rintro ⟨_,hnone⟩; cases hnone)
        | some reading => exact hfirst

end AtlasAgent.ScanMarks
