import AtlasAgent.SpacedText

/-!
# Reading a file with fscanf

A file that is read by getc and by the conversions of fscanf: the characters
not yet read, and whether a read has met the end. A conversion skips spaces,
takes the longest text that fits it and leaves the character after it in the
file; without such a text nothing is converted, but a sign is used up.
-/

namespace AtlasAgent.ScanfText

open DecimalText NumberText SpacedText TextFields

/-- A FILE opened for reading. -/
structure InputFile where
  /-- The characters that have not been read. -/
  rest : Token
  /-- feof. -/
  eof : Bool
  deriving DecidableEq

/-- An opened file. -/
def openFile (text : Token) : InputFile := ⟨text,false⟩

/-- The file after a read that stopped in front of the given text, or at the end. -/
def readUpTo (file : InputFile) (rest : Token) : InputFile := ⟨rest,file.eof || rest.isEmpty⟩

/-- The conversion %c. -/
def scanChar (file : InputFile) : Option Char×InputFile :=
  match file.rest with
  | [] => (none,⟨[],true⟩)
  | c::rest => (some c,⟨rest,file.eof⟩)

/-- The conversion %s, of whatever length. -/
def scanWord (file : InputFile) : Option Token×InputFile :=
  let text := skipSpace file.rest
  let word := text.takeWhile fun c => !isSpace c
  (if word=[] then none else some word,readUpTo file (text.dropWhile fun c => !isSpace c))

/-- The text of a decimal conversion: its sign and digits, and the file after it. -/
def scanDigits (file : InputFile) : Option (Bool×ℕ)×InputFile :=
  let (negative,body) := scanSign (skipSpace file.rest)
  let digits := body.takeWhile Char.isDigit
  (if digits=[] then none else some (negative,digitsValue digits),
    readUpTo file (body.dropWhile Char.isDigit))

/-- A number that does not fit is cut to the nearest long that does. -/
def clampLong (value : ℤ) : ℤ := max (-2^63) (min (2^63-1) value)

/-- The conversion %ld. -/
def scanLongFrom (file : InputFile) : Option ℤ×InputFile :=
  let scanned := scanDigits file
  (scanned.1.map fun number => clampLong (signed number.1 number.2),scanned.2)

/-- The conversion %d, which stores the low half of a long. -/
def scanIntFrom (file : InputFile) : Option ℤ×InputFile :=
  let scanned := scanLongFrom file
  (scanned.1.map fun value => value.bmod (2^32),scanned.2)

/-- As many conversions %ld as the format has, up to the first that fails. -/
def scanLongs : ℕ → InputFile → List ℤ×InputFile
  | 0,file => ([],file)
  | count+1,file =>
    match scanLongFrom file with
    | (none,after) => ([],after)
    | (some value,after) =>
      let scanned := scanLongs count after
      (value::scanned.1,scanned.2)

/-- What calls of fgets read of a text, each up to a line break or until there
is no room for another character. -/
def fgetsAll (room : ℕ) (buffer : Token) : Token → List Token
  | [] => if buffer=[] then [] else [buffer]
  | c::rest =>
    if c= '\n' ∨ buffer.length+1=room then (buffer++[c])::fgetsAll room [] rest
    else fgetsAll room (buffer++[c]) rest

/-- A line that there is room for is read by one call. -/
theorem fgetsAll_append {room : ℕ} {line : Token} (hline : '\n' ∉ line) (rest : Token) :
    ∀ buffer : Token,buffer.length+line.length < room →
      fgetsAll room buffer (line++ '\n'::rest)=(buffer++line++['\n'])::fgetsAll room [] rest := by
  induction line with
  | nil =>
    intro buffer _
    rw [List.nil_append,fgetsAll,if_pos (Or.inl rfl),List.append_nil]
  | cons c line ih =>
    intro buffer hroom
    rw [List.mem_cons,not_or] at hline
    obtain ⟨hc,hline⟩ := hline
    rw [List.length_cons] at hroom
    have hmore : ¬(c= '\n' ∨ buffer.length+1=room) := not_or.mpr ⟨Ne.symm hc,by omega⟩
    have hlength : (buffer++[c]).length+line.length < room := by
      rw [List.length_append,List.length_singleton]
      omega
    rw [List.cons_append,fgetsAll,if_neg hmore,ih hline _ hlength]
    simp only [List.append_assoc,List.singleton_append]

/-- Lines that there is room for are read one by one, whatever follows them. -/
theorem fgetsAll_unlines_append {room : ℕ} {lines : List Token}
    (h : ∀ line∈lines,'\n' ∉ line ∧ line.length < room) (rest : Token) :
    fgetsAll room [] (unlines lines++rest)=lines.map (·++['\n'])++fgetsAll room [] rest := by
  induction lines with
  | nil => rfl
  | cons line lines ih =>
    obtain ⟨⟨hline,hroom⟩,hlines⟩ := List.forall_mem_cons.mp h
    rw [unlines_cons,List.append_assoc,List.cons_append,
      fgetsAll_append hline _ [] (by simpa using hroom),ih hlines]
    rfl

/-- The lines of a file that there is room for. -/
theorem fgetsAll_unlines {room : ℕ} {lines : List Token}
    (h : ∀ line∈lines,'\n' ∉ line ∧ line.length < room) :
    fgetsAll room [] (unlines lines)=lines.map (·++['\n']) := by
  have hread := fgetsAll_unlines_append h []
  rwa [List.append_nil,fgetsAll,if_pos rfl,List.append_nil] at hread

/-- Text without a line break that there is room for is read by one call. -/
theorem fgetsAll_last {room : ℕ} {line : Token} (hline : '\n' ∉ line) :
    ∀ buffer : Token,buffer.length+line.length < room → buffer++line≠[] →
      fgetsAll room buffer line=[buffer++line] := by
  induction line with
  | nil =>
    intro buffer _ hne
    rw [List.append_nil] at hne ⊢
    rw [fgetsAll,if_neg hne]
  | cons c line ih =>
    intro buffer hroom _
    rw [List.mem_cons,not_or] at hline
    obtain ⟨hc,hline⟩ := hline
    rw [List.length_cons] at hroom
    have hmore : ¬(c= '\n' ∨ buffer.length+1=room) := not_or.mpr ⟨Ne.symm hc,by omega⟩
    have hlength : (buffer++[c]).length+line.length < room := by
      rw [List.length_append,List.length_singleton]
      omega
    rw [fgetsAll,if_neg hmore,ih hline _ hlength (by simp)]
    simp only [List.append_assoc,List.singleton_append]

/-- After a line break the calls begin anew. -/
theorem fgetsAll_lineBreak (room : ℕ) (text rest : Token) (buffer : Token) :
    fgetsAll room buffer (text++ '\n'::rest)=
      fgetsAll room buffer (text++['\n'])++fgetsAll room [] rest := by
  induction text generalizing buffer with
  | nil => simp [fgetsAll]
  | cons c text ih =>
    rw [List.cons_append,List.cons_append,fgetsAll,fgetsAll,ih,ih]
    split <;> rfl

/-- What a call reads is a piece of the text. -/
theorem infix_of_mem_fgetsAll {room : ℕ} {text piece : Token} (buffer : Token)
    (h : piece∈fgetsAll room buffer text) : piece <:+: buffer++text := by
  induction text generalizing buffer with
  | nil =>
    rw [fgetsAll] at h
    split at h
    · cases h
    · exact ⟨[],[],by rw [List.mem_singleton.mp h,List.nil_append]⟩
  | cons c text ih =>
    have hshape : buffer++c::text=(buffer++[c])++text := by simp
    rw [fgetsAll] at h
    split at h
    · obtain rfl|h := List.mem_cons.mp h
      · rw [hshape]
        exact (List.prefix_append _ _).isInfix
      · rw [hshape]
        exact (ih [] h).trans (List.suffix_append _ _).isInfix
    · rw [hshape]
      exact ih _ h

/-- What a read leaves: a later place of the text, and an end that stays met. -/
structure LaterThan (after file : InputFile) : Prop where
  suffix : after.rest <:+ file.rest
  eof : file.eof=true → after.eof=true

theorem LaterThan.refl (file : InputFile) : LaterThan file file := ⟨List.suffix_rfl,id⟩

theorem LaterThan.trans {last after file : InputFile} (h : LaterThan last after)
    (h' : LaterThan after file) : LaterThan last file :=
  ⟨h.suffix.trans h'.suffix,fun heof => h.eof (h'.eof heof)⟩

theorem laterThan_readUpTo {file : InputFile} {rest : Token} (h : rest <:+ file.rest) :
    LaterThan (readUpTo file rest) file := ⟨h,fun heof => by rw [readUpTo,heof]; rfl⟩

theorem laterThan_scanWord (file : InputFile) : LaterThan (scanWord file).2 file :=
  laterThan_readUpTo ((List.dropWhile_suffix _).trans (List.dropWhile_suffix _))

theorem suffix_scanSign (text : Token) : (scanSign text).2 <:+ text := by
  rw [scanSign.eq_def]
  split
  · exact List.suffix_cons _ _
  · exact List.suffix_cons _ _
  · exact List.suffix_rfl

/-- The sign of a text is its own, whatever follows it. -/
theorem scanSign_append {text : Token} (hne : text≠[]) (rest : Token) :
    scanSign (text++rest)=((scanSign text).1,(scanSign text).2++rest) := by
  obtain ⟨c,tail,rfl⟩ := List.exists_cons_of_ne_nil hne
  by_cases hminus : c= '-'
  · subst hminus
    rfl
  · by_cases hplus : c= '+'
    · subst hplus
      rfl
    · rw [List.cons_append,scanSign.eq_def,scanSign.eq_def]
      simp [hminus,hplus]

theorem laterThan_scanLongFrom (file : InputFile) : LaterThan (scanLongFrom file).2 file :=
  laterThan_readUpTo ((List.dropWhile_suffix _).trans
    ((suffix_scanSign _).trans (List.dropWhile_suffix _)))

theorem laterThan_scanLongs (count : ℕ) (file : InputFile) :
    LaterThan (scanLongs count file).2 file := by
  induction count generalizing file with
  | zero => exact LaterThan.refl file
  | succ count ih =>
    have hfirst := laterThan_scanLongFrom file
    rw [scanLongs]
    split
    · next after hscan =>
      rw [hscan] at hfirst
      exact hfirst
    · next value after hscan =>
      rw [hscan] at hfirst
      exact (ih after).trans hfirst

/-- A word that is converted is a visible piece of the text in front of what is
left; without one the end of the file has been met. -/
theorem scanWord_cases (file : InputFile) :
    (∃ word,(scanWord file).1=some word ∧ Visible word ∧
      word++(scanWord file).2.rest <:+ file.rest) ∨
    (scanWord file).1=none ∧ (scanWord file).2=⟨[],true⟩ := by
  obtain ⟨hskip,-⟩|⟨word,rest,hword,hrest,hskip,-⟩ := words_cases file.rest
  · right
    rw [scanWord,hskip]
    refine ⟨rfl,?_⟩
    simp [readUpTo]
  · left
    have htake := hword.takeWhile_append hrest
    have hdrop := hword.dropWhile_append hrest
    have hscan : scanWord file=(some word,readUpTo file rest) := by
      rw [scanWord,hskip,htake,hdrop,if_neg hword.nonempty]
    have hsuffix : skipSpace file.rest <:+ file.rest := List.dropWhile_suffix _
    rw [hskip] at hsuffix
    rw [hscan]
    exact ⟨word,rfl,hword,hsuffix⟩

/-- Without a word the scan has met the end. -/
theorem eq_end_of_scanWord {file after : InputFile} (h : scanWord file=(none,after)) :
    after=⟨[],true⟩ := by
  obtain ⟨word,hword,-⟩|⟨-,hend⟩ := scanWord_cases file
  · rw [h] at hword
    cases hword
  · rw [h] at hend
    exact hend

/-- A word that is converted is visible. -/
theorem visible_of_scanWord {file after : InputFile} {word : Token}
    (h : scanWord file=(some word,after)) : Visible word := by
  obtain ⟨word',hword,hvisible,-⟩|⟨hword,-⟩ := scanWord_cases file
  · rw [h] at hword
    cases hword
    exact hvisible
  · rw [h] at hword
    cases hword

/-- A decimal text after spaces is converted, up to the character after it. -/
theorem scanDigits_decimal {spaces text : Token} {value : ℕ}
    (hspaces : ∀ c∈spaces,isSpace c=true) (h : Decimal text value) (rest : Token)
    (hrest : NoDigit rest)
    (eof : Bool) :
    scanDigits ⟨spaces++(text++rest),eof⟩=
      (some (false,value),readUpTo ⟨spaces++(text++rest),eof⟩ rest) := by
  rw [scanDigits,skipSpace_append hspaces (h.head_append rest),h.scanSign_append]
  dsimp only
  rw [h.takeWhile_append hrest,h.dropWhile_append hrest,if_neg h.nonempty,h.value_eq]

/-- A word after spaces is converted, up to the space after it. -/
theorem scanWord_append {spaces word : Token} (hspaces : ∀ c∈spaces,isSpace c=true)
    (hword : Visible word) (rest : Token) (hrest : ∀ c∈rest.head?,isSpace c=true) (eof : Bool) :
    scanWord ⟨spaces++(word++rest),eof⟩=
      (some word,readUpTo ⟨spaces++(word++rest),eof⟩ rest) := by
  rw [scanWord,skipSpace_append hspaces hword.head,hword.takeWhile_append hrest,
    hword.dropWhile_append hrest,if_neg hword.nonempty]

/-- A whole number with its sign. -/
inductive Integer : Token → ℤ → Prop
  | plain {text : Token} {magnitude : ℕ} (h : Decimal text magnitude) : Integer text magnitude
  | plus {text : Token} {magnitude : ℕ} (h : Decimal text magnitude) :
    Integer ('+'::text) magnitude
  | minus {text : Token} {magnitude : ℕ} (h : Decimal text magnitude) :
    Integer ('-'::text) (-magnitude)

/-- A signed text is its sign and its digits. -/
theorem integer_iff_scanSign {text : Token} {value : ℤ} :
    Integer text value ↔ ∃ negative digits,scanSign text=(negative,digits) ∧ digits≠[] ∧
      (∀ c∈digits,c.isDigit=true) ∧ signed negative (digitsValue digits)=value := by
  constructor
  · intro h
    cases h with
    | plain h =>
      have hsign := h.scanSign_append []
      rw [List.append_nil] at hsign
      exact ⟨false,text,hsign,h.nonempty,h.digits,congrArg Nat.cast h.value_eq⟩
    | plus h => exact ⟨false,_,rfl,h.nonempty,h.digits,congrArg Nat.cast h.value_eq⟩
    | minus h =>
      exact ⟨true,_,rfl,h.nonempty,h.digits,congrArg (fun n : ℕ => -(n : ℤ)) h.value_eq⟩
  · rintro ⟨negative,digits,hsign,hne,hdigits,rfl⟩
    have hdecimal : Decimal digits (digitsValue digits) := ⟨hne,hdigits,rfl⟩
    rw [scanSign.eq_def] at hsign
    split at hsign
    · cases hsign
      exact .minus hdecimal
    · cases hsign
      exact .plus hdecimal
    · cases hsign
      exact .plain hdecimal

/-- A signed text has no spaces. -/
theorem visible_integer {text : Token} {value : ℤ} (h : Integer text value) : Visible text := by
  have hdigits : ∀ {digits : Token} {magnitude : ℕ},Decimal digits magnitude →
      ∀ c∈digits,isSpace c=false := fun h c hc => isSpace_of_isDigit (h.digits c hc)
  cases h with
  | plain h => exact ⟨h.nonempty,hdigits h⟩
  | plus h => exact ⟨List.cons_ne_nil _ _,List.forall_mem_cons.mpr ⟨by decide,hdigits h⟩⟩
  | minus h => exact ⟨List.cons_ne_nil _ _,List.forall_mem_cons.mpr ⟨by decide,hdigits h⟩⟩

/-- Whether a number fits into an int64_t. -/
def FitsInt64 (value : ℤ) : Prop := -2^63 ≤ value ∧ value<2^63

instance (value : ℤ) : Decidable (FitsInt64 value) := inferInstanceAs (Decidable (_ ∧ _))

/-- A number that fits is stored as it is. -/
theorem clampLong_of_fits {value : ℤ} (h : FitsInt64 value) : clampLong value=value := by
  obtain ⟨hlow,hhigh⟩ := h
  rw [clampLong]
  omega

/-- A signed text after spaces is converted, up to the character after it. -/
theorem scanDigits_sign {spaces text rest : Token} {value : ℕ} {c : Char} {negative : Bool}
    (hspaces : ∀ c∈spaces,isSpace c=true) (hc : isSpace c=false)
    (hsign : ∀ body,scanSign (c::body)=(negative,body)) (h : Decimal text value)
    (hrest : NoDigit rest) (eof : Bool) :
    scanDigits ⟨spaces++(c::text++rest),eof⟩=
      (some (negative,value),readUpTo ⟨spaces++(c::text++rest),eof⟩ rest) := by
  have hhead : ∀ d∈(c::text++rest).head?,isSpace d=false := by
    rintro d ⟨rfl⟩
    exact hc
  rw [scanDigits,skipSpace_append hspaces hhead,List.cons_append,hsign]
  dsimp only
  rw [h.takeWhile_append hrest,h.dropWhile_append hrest,if_neg h.nonempty,h.value_eq]

/-- A number that fits is converted to its value. -/
theorem scanLongFrom_integer {spaces text rest : Token} {value : ℤ}
    (hspaces : ∀ c∈spaces,isSpace c=true) (h : Integer text value) (hfits : FitsInt64 value)
    (hrest : NoDigit rest) (eof : Bool) :
    scanLongFrom ⟨spaces++(text++rest),eof⟩=
      (some value,readUpTo ⟨spaces++(text++rest),eof⟩ rest) := by
  have hclamp := clampLong_of_fits hfits
  cases h with
  | plain h =>
    rw [scanLongFrom,scanDigits_decimal hspaces h rest hrest]
    exact congrArg (fun number => (some number,_)) hclamp
  | plus h =>
    rw [scanLongFrom,scanDigits_sign hspaces (by decide) (fun _ => rfl) h hrest]
    exact congrArg (fun number => (some number,_)) hclamp
  | minus h =>
    rw [scanLongFrom,scanDigits_sign hspaces (by decide) (fun _ => rfl) h hrest]
    exact congrArg (fun number => (some number,_)) hclamp

/-- Numbers with blanks between them are converted one after the other. -/
theorem scanLongs_spread {fields : List (ℕ×Token)} {numbers : List ℤ}
    (h : List.Forall₂ (fun field number => Integer field.2 number) fields numbers)
    (hfits : ∀ number∈numbers,FitsInt64 number) (rest : Token) (hrest : NoDigit rest) :
    scanLongs numbers.length ⟨spread fields++rest,false⟩=
      (numbers,⟨rest,!numbers.isEmpty && rest.isEmpty⟩) := by
  induction h with
  | nil => rfl
  | @cons field number fields numbers hfield h ih =>
    obtain ⟨more,text⟩ := field
    obtain ⟨hfit,hfits⟩ := List.forall_mem_cons.mp hfits
    have hshape : spread ((more,text)::fields)++rest=
        List.replicate (more+1) ' '++(text++(spread fields++rest)) := by
      rw [spread,List.replicate_succ]
      simp only [List.cons_append,List.append_assoc]
    have hblanks : ∀ c∈List.replicate (more+1) ' ',isSpace c=true := by
      intro c hc
      rw [List.eq_of_mem_replicate hc]
      decide
    have hnext : NoDigit (spread fields++rest) := by
      cases fields with
      | nil => exact hrest
      | cons next fields => exact noDigit_cons.mpr (by decide)
    rw [List.length_cons,hshape,scanLongs,scanLongFrom_integer hblanks hfield hfit hnext]
    dsimp only [readUpTo,Bool.false_or]
    cases h with
    | nil => rfl
    | @cons next _ fields =>
      have hmore : (spread (next::fields)++rest).isEmpty=false := rfl
      rw [hmore,Bool.or_false,ih hfits]
      rfl

end AtlasAgent.ScanfText
