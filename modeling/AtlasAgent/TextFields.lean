import Mathlib.Data.List.Basic

/-!
# Lines, fields and numbers of a text

The pieces of the C++ library with which files are taken apart: getline over
a whole file, splitting at spaces without the empty fields, and from_chars
of an unsigned integer. A string is the list of its characters.
-/

namespace AtlasAgent.TextFields

/-- A std::string. -/
abbrev Token := List Char

/-- The lines std::getline reads from a text: a final line break ends the last
line and does not begin another one. -/
def getLines (text : List Char) : List Token :=
  let pieces := text.splitOn '\n'
  if pieces.getLast?=some [] then pieces.dropLast else pieces

/-- absl::StrSplit at a character with absl::SkipEmpty. -/
def strSplit (separator : Char) (line : Token) : List Token :=
  (line.splitOn separator).filter (· ≠ [])

/-- Value of decimal digits, the first one being the most significant. -/
def digitsValue (digits : List Char) : ℕ :=
  digits.foldl (fun value digit => 10*value+(digit.toNat - '0'.toNat)) 0

/-- std::from_chars for an unsigned integer type with the given number of
values. The longest prefix of digits is taken, what follows it is ignored;
no digit, or a value that does not fit, is an error. -/
def fromChars (size : ℕ) (field : Token) : Option ℕ :=
  let digits := field.takeWhile Char.isDigit
  if digits=[] then none
  else if digitsValue digits < size then some (digitsValue digits) else none

/-- A scan for a character passes over a text without it. -/
theorem decide_ne_of_not_mem {delim : Char} {text : Token} (h : delim∉text) :
    ∀ c∈text,decide (c≠delim)=true := by
  intro c hc
  refine decide_eq_true fun heq => h ?_
  rwa [heq] at hc

end AtlasAgent.TextFields
