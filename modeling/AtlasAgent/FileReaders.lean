import AtlasAgent.NumberText
import Mathlib.Data.List.AList

/-!
# The file readers of util.cpp

A file that could not be opened is no file; every other file is the list of
its characters. The three readers are those of single numbers, of the numbers
on a first line and of lines with a key and a value.
-/

namespace AtlasAgent.FileReaders

open NumberText TextFields

/-- read_num_from_file: the number the file begins with, or -1. -/
def readNumFromFile : Option Token → ℤ
  | none => -1
  | some text => (scanLong text).getD (-1)

/-- read_num_vector_from_file: the fields on the first line, each converted by
strtoul and stored in an int64_t. -/
def readNumVectorFromFile : Option Token → List ℤ
  | none => []
  | some text =>
    (strSplit ' ' ((getLines text).headD [])).map fun field => toInt64 (strtoul field)

/-- Characters that fgets reads at once into the buffer of 1024. -/
def bufferChars : ℕ := 1023

/-- What the calls to fgets read, from the characters that the present call
has read and those still in the file: a call ends at a line break, at a full
buffer or at the end of the file. -/
def fgetsLoop (buffer : Token) : Token → List Token
  | [] => if buffer=[] then [] else [buffer]
  | c::rest =>
    if c= '\n' ∨ buffer.length+1=bufferChars then (buffer++[c])::fgetsLoop [] rest
    else fgetsLoop (buffer++[c]) rest

/-- sscanf of a key and a number: a word, then what %ld converts. The string
in the buffer ends at its first null character. -/
def scanKeyValue (buffer : Token) : Option (Token×ℤ) :=
  let text := skipSpace (buffer.takeWhile (· ≠ '\x00'))
  let key := text.takeWhile fun c => !isSpace c
  if key=[] then none
  else (scanLong (text.dropWhile fun c => !isSpace c)).map fun value => (key,value)

/-- The map a kv file is parsed into. -/
abbrev Stats := AList fun _ : Token => ℤ

/-- One buffer of parse_kv_from_file: a later value of a key replaces an
earlier one, and a buffer that is not a key and a number is passed over. -/
def storeKeyValue (stats : Stats) (buffer : Token) : Stats :=
  match scanKeyValue buffer with
  | some (key,value) => stats.insert key value
  | none => stats

/-- parse_kv_from_file into an empty map. -/
def parseKvFromFile : Option Token → Stats
  | none => ∅
  | some text => (fgetsLoop [] text).foldl storeKeyValue ∅

/-- Some buffer of the file is the key and a number. -/
def HasKey (file : Option Token) (key : Token) : Prop :=
  ∃ text, file=some text ∧
    ∃ buffer∈fgetsLoop [] text,∃ value, scanKeyValue buffer=some (key,value)

/-- The first line of the file has at least two fields. -/
def HasSecondField (file : Option Token) : Prop :=
  ∃ text, file=some text ∧ 2≤(strSplit ' ' ((getLines text).headD [])).length

/-- One buffer adds the key it holds and removes none. -/
theorem mem_storeKeyValue {stats : Stats} {buffer key : Token} :
    key∈storeKeyValue stats buffer ↔
      (∃ value, scanKeyValue buffer=some (key,value)) ∨ key∈stats := by
  unfold storeKeyValue
  cases hs : scanKeyValue buffer with
  | none => simp
  | some entry => simp [Prod.ext_iff,eq_comm]

/-- The map holds the keys it began with and those of the buffers. -/
theorem mem_foldl_storeKeyValue {buffers : List Token} {stats : Stats} {key : Token} :
    key∈buffers.foldl storeKeyValue stats ↔
      (∃ buffer∈buffers,∃ value, scanKeyValue buffer=some (key,value)) ∨ key∈stats := by
  induction buffers generalizing stats with
  | nil => simp
  | cons buffer buffers ih =>
    rw [List.foldl_cons,ih,mem_storeKeyValue,List.exists_mem_cons_iff,or_left_comm,or_assoc]

/-- The parsed map has a key exactly when the file has it with a number. -/
theorem lookup_parseKvFromFile {file : Option Token} {key : Token} :
    (∃ value, (parseKvFromFile file).lookup key=some value) ↔ HasKey file key := by
  rw [←Option.isSome_iff_exists,AList.lookup_isSome]
  unfold HasKey parseKvFromFile
  cases file with
  | none => simp [AList.notMem_empty]
  | some text => simp [mem_foldl_storeKeyValue,AList.notMem_empty]

/-- The vector has an element at index 1 exactly with a second field. -/
theorem second_readNumVectorFromFile {file : Option Token} :
    (∃ value, (readNumVectorFromFile file)[1]?=some value) ↔ HasSecondField file := by
  rw [←Option.isSome_iff_exists,isSome_getElem?]
  unfold HasSecondField readNumVectorFromFile
  cases file with
  | none => simp
  | some text => simp [Nat.succ_le_iff]

end AtlasAgent.FileReaders
