import AtlasAgent.SpacedText
import Mathlib.Data.UInt

/-!
# Reading a file with istream

A stream is the characters not yet read with its two flags. Formatted reads
skip spaces first; on a stream with a flag set, or when only spaces are left,
they fail and leave the variable as it was. Failing is remembered until the
end of the stream's life.
-/

namespace AtlasAgent.StreamText

open DecimalText NumberText SpacedText TextFields

/-- A std::istream. -/
structure InputStream where
  /-- The characters that have not been read. -/
  rest : Token
  /-- eofbit. -/
  eof : Bool
  /-- failbit. -/
  fail : Bool
  deriving DecidableEq

/-- A stream that has just been opened. -/
def openStream (text : Token) : InputStream := ⟨text,false,false⟩

/-- The sentry of a formatted read. -/
def sentry (stream : InputStream) : InputStream :=
  if stream.eof || stream.fail then { stream with fail := true }
  else
    match skipSpace stream.rest with
    | [] => ⟨[],true,true⟩
    | c::rest => ⟨c::rest,false,false⟩

/-- operator>> of an unsigned: the value that is stored, if one is. A text that
is no number stores zero and one that does not fit the largest value, and both
fail. -/
def readUnsigned (stream : InputStream) : Option UInt32×InputStream :=
  let ready := sentry stream
  if ready.fail=true then (none,ready)
  else
    let (negative,body) := scanSign ready.rest
    let digits := body.takeWhile Char.isDigit
    let rest := body.dropWhile Char.isDigit
    if digits=[] then (some 0,⟨rest,rest.isEmpty,true⟩)
    else if 2^32 ≤ digitsValue digits then (some (2^32-1),⟨rest,rest.isEmpty,true⟩)
    else
      let magnitude := UInt32.ofNat (digitsValue digits)
      (some (if negative then -magnitude else magnitude),⟨rest,rest.isEmpty,false⟩)

/-- operator>> of a std::string: the word that is stored, if one is. -/
def readWord (stream : InputStream) : Option Token×InputStream :=
  let ready := sentry stream
  if ready.fail=true then (none,ready)
  else
    let rest := ready.rest.dropWhile fun c => !isSpace c
    (some (ready.rest.takeWhile fun c => !isSpace c),⟨rest,rest.isEmpty,false⟩)

/-- operator>> of a char. -/
def readChar (stream : InputStream) : Option Char×InputStream :=
  let ready := sentry stream
  match ready.rest with
  | [] => (none,ready)
  | c::rest => if ready.fail=true then (none,ready) else (some c,⟨rest,false,false⟩)

/-- istream::ignore without a limit, up to and with a character. -/
def ignoreUntil (delim : Char) (stream : InputStream) : InputStream :=
  if stream.eof || stream.fail then { stream with fail := true }
  else
    match stream.rest.dropWhile (· ≠ delim) with
    | [] => ⟨[],true,false⟩
    | _::rest => ⟨rest,false,false⟩

section Reads

variable {spaces rest : Token}

/-- The sentry skips the spaces in front of a text. -/
theorem sentry_append (hspaces : ∀ c∈spaces,isSpace c=true) {text : Token} (hne : text≠[])
    (htext : ∀ c∈text.head?,isSpace c=false) :
    sentry ⟨spaces++text,false,false⟩=⟨text,false,false⟩ := by
  obtain ⟨c,tail,rfl⟩ := List.exists_cons_of_ne_nil hne
  rw [sentry,skipSpace_append hspaces htext]
  rfl

/-- A number that fits is read up to the character after it. -/
theorem readUnsigned_decimal (hspaces : ∀ c∈spaces,isSpace c=true) {text : Token} {value : ℕ}
    (h : Decimal text value) (hvalue : value<2^32) (rest : Token) (hrest : NoDigit rest) :
    readUnsigned ⟨spaces++(text++rest),false,false⟩=
      (some (UInt32.ofNat value),⟨rest,rest.isEmpty,false⟩) := by
  have hne : text++rest≠[] := fun hnil => h.nonempty (List.append_eq_nil_iff.mp hnil).1
  rw [readUnsigned,sentry_append hspaces hne (h.head_append rest)]
  dsimp only
  rw [if_neg Bool.false_ne_true,h.scanSign_append]
  dsimp only
  rw [h.takeWhile_append hrest,h.dropWhile_append hrest,if_neg h.nonempty,h.value_eq,
    if_neg (by omega)]
  rfl

/-- A word is read up to the space after it. -/
theorem readWord_visible (hspaces : ∀ c∈spaces,isSpace c=true) {word : Token} (h : Visible word)
    (rest : Token) (hrest : ∀ c∈rest.head?,isSpace c=true) :
    readWord ⟨spaces++(word++rest),false,false⟩=(some word,⟨rest,rest.isEmpty,false⟩) := by
  have hne : word++rest≠[] := fun hnil => h.nonempty (List.append_eq_nil_iff.mp hnil).1
  rw [readWord,sentry_append hspaces hne h.head]
  dsimp only
  rw [if_neg Bool.false_ne_true,h.takeWhile_append hrest,h.dropWhile_append hrest]

/-- A word is read out of a text that has one, whatever follows the text. -/
theorem readWord_within {text : Token} (h : ∃ c∈text,isSpace c=false) :
    ∃ word after,after<:+text ∧ ∀ rest : Token,rest≠[] → (∀ c∈rest.head?,isSpace c=true) →
      readWord ⟨text++rest,false,false⟩=(some word,⟨after++rest,false,false⟩) := by
  have hsplit : text.takeWhile isSpace++skipSpace text=text := List.takeWhile_append_dropWhile
  have hspaces : ∀ c∈text.takeWhile isSpace,isSpace c=true := fun c hc =>
    List.mem_takeWhile_imp hc
  generalize text.takeWhile isSpace=spaces at hsplit hspaces
  obtain ⟨hskip,-⟩|⟨word,after,hword,hafter,hskip,-⟩ := words_cases text
  · rw [hskip,List.append_nil] at hsplit
    obtain ⟨c,hc,hvisible⟩ := h
    rw [←hsplit] at hc
    rw [hspaces c hc] at hvisible
    cases hvisible
  · rw [hskip] at hsplit
    refine ⟨word,after,⟨spaces++word,by rw [List.append_assoc,hsplit]⟩,fun rest hne hrest => ?_⟩
    have hhead : ∀ c∈(after++rest).head?,isSpace c=true := by
      cases after with
      | nil => exact hrest
      | cons d after => exact hafter
    have hread := readWord_visible hspaces hword (after++rest) hhead
    rw [←List.append_assoc word,←List.append_assoc spaces,hsplit] at hread
    rw [hread,List.isEmpty_eq_false_iff.mpr (by simp [hne])]

theorem readChar_visible {c : Char} (hc : isSpace c=false) :
    readChar ⟨c::rest,false,false⟩=(some c,⟨rest,false,false⟩) := by
  have hhead : ∀ d∈(c::rest).head?,isSpace d=false := by
    rintro d ⟨rfl⟩
    exact hc
  have hsentry := sentry_append (List.forall_mem_nil _) (List.cons_ne_nil c rest) hhead
  rw [List.nil_append] at hsentry
  rw [readChar,hsentry]
  rfl

/-- What is in front of the character is ignored. -/
theorem ignoreUntil_append {delim : Char} {skipped : Token} (h : delim∉skipped) (rest : Token) :
    ignoreUntil delim ⟨skipped++rest,false,false⟩=ignoreUntil delim ⟨rest,false,false⟩ := by
  rw [ignoreUntil,List.dropWhile_append_of_pos (decide_ne_of_not_mem h),ignoreUntil]
  rfl

theorem ignoreUntil_cons (delim : Char) (rest : Token) :
    ignoreUntil delim ⟨delim::rest,false,false⟩=⟨rest,false,false⟩ := by
  rw [ignoreUntil,List.dropWhile_cons_of_neg (by simp)]
  rfl

end Reads

end AtlasAgent.StreamText
