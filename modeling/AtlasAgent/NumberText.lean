import AtlasAgent.IeeeDouble
import AtlasAgent.TextFields
import Mathlib.Data.Int.Init

/-!
# Numbers read from texts

The number scanners of the C and C++ libraries. All of them take the longest
prefix that is a number and ignore what follows it; they differ in the spaces
and signs they allow before it and in what they do without one, or with one
that does not fit. Decimal and hexadecimal mantissas keep their exact value.
-/

namespace AtlasAgent.NumberText

open IeeeDouble TextFields

/-- What std::stoul and its like throw. -/
inductive StdException
  | invalidArgument
  | outOfRange
  deriving DecidableEq

/-- Number of values of the 64-bit unsigned types. -/
def size64 : ℕ := 2^64

/-- A 64-bit unsigned value stored in an int64_t. -/
def toInt64 (value : ℕ) : ℤ := (value : ℤ).bmod size64

/-- std::isspace in the C locale: a blank, or one of the five characters from
tab to carriage return. -/
def isSpace (c : Char) : Bool := c.toNat=32 || (9 ≤ c.toNat && c.toNat≤13)

/-- The text after its leading spaces. -/
def skipSpace (text : Token) : Token := text.dropWhile isSpace

/-- An optional sign, true for a minus, and the text after it. -/
def scanSign : Token → Bool×Token
  | '-'::rest => (true,rest)
  | '+'::rest => (false,rest)
  | rest => (false,rest)

/-- An optional sign and at least one decimal digit. -/
def scanSigned (text : Token) : Option (Bool×ℕ) :=
  let (negative,rest) := scanSign text
  let digits := rest.takeWhile Char.isDigit
  if digits=[] then none else some (negative,digitsValue digits)

/-- The number the strtol family converts, in base ten. -/
def scanInteger (text : Token) : Option (Bool×ℕ) := scanSigned (skipSpace text)

/-- A magnitude with its sign. -/
def signed (negative : Bool) (magnitude : ℕ) : ℤ := if negative then -magnitude else magnitude

/-- std::strtoul in base ten: zero without a number, the largest value for one
that does not fit, and a minus sign counts down from 2^64. -/
def strtoul (text : Token) : ℕ :=
  match scanInteger text with
  | none => 0
  | some (negative,magnitude) =>
    if size64 ≤ magnitude then size64-1
    else ((signed negative magnitude)%size64).toNat

/-- std::stoul and std::stoull in base ten: strtoul with its two errors. -/
def stoul (text : Token) : Except StdException ℕ :=
  match scanInteger text with
  | none => .error .invalidArgument
  | some (negative,magnitude) =>
    if size64 ≤ magnitude then .error .outOfRange
    else .ok ((signed negative magnitude)%size64).toNat

/-- std::stoll in base ten. -/
def stoll (text : Token) : Except StdException ℤ :=
  match scanInteger text with
  | none => .error .invalidArgument
  | some (negative,magnitude) =>
    if signed negative magnitude< -2^63 ∨ 2^63 ≤ signed negative magnitude then .error .outOfRange
    else .ok (signed negative magnitude)

/-- The conversion %ld of the scanf family; a value that does not fit is cut
to the nearest one that does. -/
def scanLong (text : Token) : Option ℤ :=
  (scanInteger text).map fun number =>
    max (-2^63) (min (2^63-1) (signed number.1 number.2))

/-- A mantissa without its exponent. -/
structure Mantissa where
  /-- Value of all digits, as if the point were not there. -/
  digits : ℕ
  /-- How many of the digits stand after the point. -/
  fraction : ℕ
  /-- The text after the mantissa. -/
  rest : Token

/-- Digits with an optional point among them, at least one digit in all. -/
def scanMantissa (isDigit : Char → Bool) (value : List Char → ℕ) (text : Token) :
    Option Mantissa :=
  let whole := text.takeWhile isDigit
  let rest := text.dropWhile isDigit
  match rest with
  | '.'::tail =>
    let fraction := tail.takeWhile isDigit
    if whole++fraction=[] then none
    else some ⟨value (whole++fraction),fraction.length,tail.dropWhile isDigit⟩
  | _ => if whole=[] then none else some ⟨value whole,0,rest⟩

/-- The exponent after the given letter, zero when there is none. -/
def scanExponent (letter : Char) : Token → ℤ
  | [] => 0
  | c::tail =>
    if c.toLower=letter then
      match scanSigned tail with
      | some (negative,exponent) => signed negative exponent
      | none => 0
    else 0

/-- Exact value of a decimal mantissa with an optional exponent. -/
def scanDecimal (text : Token) : Option ℚ :=
  (scanMantissa Char.isDigit digitsValue text).map fun mantissa =>
    mantissa.digits*(10 : ℚ)^(scanExponent 'e' mantissa.rest-mantissa.fraction)

/-- A hexadecimal digit. -/
def isHexDigit (c : Char) : Bool := c.isDigit || ('a' ≤ c.toLower && c.toLower ≤ 'f')

/-- Value of hexadecimal digits. -/
def hexValue (digits : List Char) : ℕ :=
  digits.foldl (fun value c =>
    16*value+(if c.isDigit then c.toNat-48 else c.toLower.toNat-87)) 0

/-- Exact value of a hexadecimal mantissa with an optional binary exponent. -/
def scanHex (text : Token) : Option ℚ :=
  (scanMantissa isHexDigit hexValue text).map fun mantissa =>
    mantissa.digits*(2 : ℚ)^(scanExponent 'p' mantissa.rest-4*mantissa.fraction)

/-- The text begins with the lower-case word, in letters of any case. -/
def startsWith (word : List Char) (text : Token) : Bool :=
  word.isPrefixOf (text.map Char.toLower)

/-- From here on a magnitude rounds to infinity. -/
def overflow : ℚ := 2^1024-2^970

/-- Up to here a magnitude rounds to zero. -/
def underflow : ℚ := 1/2^1075

/-- A finite value with its sign. -/
def signedFinite (negative : Bool) (magnitude : ℚ) : Ieee :=
  .finite (if negative then -magnitude else magnitude)

/-- std::from_chars for double in its general format: no spaces, no plus sign,
no hexadecimal digits. A value that does not fit is an error, like no number
at all. -/
def fromCharsDouble (field : Token) : Option Ieee :=
  let (negative,body) := match field with
    | '-'::rest => (true,rest)
    | rest => (false,rest)
  if startsWith ['i','n','f'] body then some (.infinite negative)
  else if startsWith ['n','a','n'] body then some .nan
  else
    match scanDecimal body with
    | none => none
    | some magnitude =>
      if overflow ≤ magnitude then none
      else if magnitude≠0 ∧ magnitude≤underflow then none
      else some (signedFinite negative magnitude)

/-- The magnitude strtod converts after the sign, hexadecimal when the text
begins with 0x and a hexadecimal mantissa. -/
def scanMagnitude (body : Token) : Option ℚ :=
  match body with
  | '0'::x::rest =>
    if x.toLower= 'x' then (scanHex rest).or (scanDecimal body) else scanDecimal body
  | _ => scanDecimal body

/-- std::strtod: zero without a number, an infinity for one that is too large
and zero for one that is too small. -/
def strtod (text : Token) : Ieee :=
  let (negative,body) := scanSign (skipSpace text)
  if startsWith ['i','n','f'] body then .infinite negative
  else if startsWith ['n','a','n'] body then .nan
  else
    match scanMagnitude body with
    | none => .finite 0
    | some magnitude =>
      if overflow ≤ magnitude then .infinite negative
      else if magnitude≤underflow then .finite 0
      else signedFinite negative magnitude

/-- A magnitude that is no double and rounds to one below the least normal
double; strtod sets errno for it. -/
def losesPrecision (magnitude : ℚ) : Prop :=
  magnitude<1/2^1022-1/2^1076 ∧ (magnitude*2^1074).den≠1

instance (magnitude : ℚ) : Decidable (losesPrecision magnitude) :=
  inferInstanceAs (Decidable (_ ∧ _))

/-- std::stod: strtod with its two errors. -/
def stod (text : Token) : Except StdException Ieee :=
  let (negative,body) := scanSign (skipSpace text)
  if startsWith ['i','n','f'] body then .ok (.infinite negative)
  else if startsWith ['n','a','n'] body then .ok .nan
  else
    match scanMagnitude body with
    | none => .error .invalidArgument
    | some magnitude =>
      if overflow ≤ magnitude ∨ losesPrecision magnitude then .error .outOfRange
      else .ok (signedFinite negative magnitude)

end AtlasAgent.NumberText
