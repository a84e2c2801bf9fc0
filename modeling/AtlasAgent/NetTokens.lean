import AtlasAgent.IndexedColumns
import AtlasAgent.MountPoints
import AtlasAgent.ProcNet
import Mathlib.Data.List.DropRight

/-!
# Proc::socket_stats and Proc::netstat_stats

Both split a line of their file into tokens and look up a value by the index
that a loop has come to: behind the name on the same line in net/sockstat, in
the same place of the next line in net/netstat. The index is not compared with
the number of tokens.
-/

namespace AtlasAgent.NetTokens

open DecimalText IndexedColumns MountPoints ProcNet ScanfText SpacedText TextFields
open NumberText hiding startsWith toInt64

/-- A character at which the lines are split. -/
def isSeparator (c : Char) : Bool := c= ' ' || c= '\t' || c= '\n'

/-- absl::StrSplit of the string in the buffer, with absl::SkipEmpty. -/
def tokens (line : Token) : List Token :=
  ((cStr line).splitOnP isSeparator).filter (· ≠ [])

/-- absl::SimpleAtoi to an int64_t. -/
def simpleAtoi (s : Token) : Option ℤ :=
  let (negative,digits) := scanSign ((skipSpace s).rdropWhile isSpace)
  if digits=[] ∨ digits.all Char.isDigit=false then none
  else
    let value := signed negative (digitsValue digits)
    if FitsInt64 value then some value else none

/-- to_int64. -/
def toInt64 (s : Token) : ℤ := (simpleAtoi s).getD 0

/-- What calls of fgets with an array of 1024 characters read of a file. -/
def bufferedLines (text : Token) : List Token := fgetsAll 1023 [] text

/-- A gauge that has been set. -/
structure Gauge where
  name : Token
  value : ℤ
  deriving DecidableEq

/-- One pass of the loop of socket_stats. Without a value behind the name there
is no next state. -/
def memPass (pageSize : ℕ) (published : List Gauge) (value : Token) (next : Option Token) :
    Option (List Gauge) :=
  if value="mem".toList then
    next.map fun text => published++[⟨"net.tcp.memory".toList,toInt64 text*pageSize%size64⟩]
  else some published

/-- Proc::socket_stats, without a result where it reads past the values. -/
def socketStats (pageSize : ℕ) : Option Token → Option (List Gauge)
  | none => some []
  | some text =>
    match (bufferedLines text).find? (startsWith · "TCP:".toList) with
    | none => some []
    | some line => alongside (memPass pageSize) (tokens line) 1 (tokens line) []

/-- The variables of netstat_stats. -/
structure Ecn where
  noEct : ℤ
  ect : ℤ
  congested : ℤ
  deriving DecidableEq

/-- One pass of the loop of netstat_stats. -/
def headerPass (ecn : Ecn) (header : Token) (value : Option Token) : Option Ecn :=
  if header="InNoECTPkts".toList then
    value.map fun text => { ecn with noEct := toInt64 text }
  else if header="InECT1Pkts".toList ∨ header="InECT0Pkts".toList then
    value.map fun text => { ecn with ect := addInt64 ecn.ect (toInt64 text) }
  else if header="InCEPkts".toList then
    value.map fun text => { ecn with congested := toInt64 text }
  else some ecn

/-- The tags of a meter of version four with an id. -/
def v4Tags (netTags : Tags) (id : Token) : Tags :=
  ((∅ : Tags).insert "proto".toList "v4".toList).insert "id".toList id ∪ netTags

/-- The tags of a meter of version four. -/
def protoTags (netTags : Tags) : Tags := (∅ : Tags).insert "proto".toList "v4".toList ∪ netTags

/-- The counters that are set after the loop. -/
def Ecn.counters (ecn : Ecn) (netTags : Tags) : List Counter :=
  if 0<ecn.ect ∨ 0<ecn.noEct then
    [⟨"net.ip.congestedPackets".toList,protoTags netTags,ecn.congested⟩,
      ⟨"net.ip.ectPackets".toList,v4Tags netTags "capable".toList,ecn.ect⟩,
      ⟨"net.ip.ectPackets".toList,v4Tags netTags "notCapable".toList,ecn.noEct⟩]
  else []

/-- How netstat_stats ends. -/
inductive Outcome
  | published (counters : List Counter)
  /-- There is no line after the header, which is logged. -/
  | unableToParse
  /-- A value past the last one is read. -/
  | outOfRange
  deriving DecidableEq

/-- What the line of the columns begins with. -/
def ipExt : Token := "IpExt:".toList

/-- The lines from the first header on. -/
def fromHeader (text : Token) : List Token :=
  (bufferedLines text).dropWhile fun line => !startsWith line ipExt

/-- Proc::netstat_stats. -/
def netstatStats (netTags : Tags) : Option Token → Outcome
  | none => .published []
  | some text =>
    match fromHeader text with
    | [] => .published ((⟨0,0,0⟩ : Ecn).counters netTags)
    | [_] => .unableToParse
    | header::values::_ =>
      match alongside headerPass (tokens values) 0 (tokens header) ⟨0,0,0⟩ with
      | none => .outOfRange
      | some ecn => .published (ecn.counters netTags)

/-- A header whose value is read. -/
def Tracked (header : Token) : Prop :=
  header="InNoECTPkts".toList ∨ header="InECT1Pkts".toList ∨ header="InECT0Pkts".toList ∨
    header="InCEPkts".toList

/-- A whole number that an int64_t has, perhaps with spaces around it. -/
def Numeral (token : Token) (value : ℤ) : Prop :=
  ∃ spaces text trail,(∀ c∈spaces,isSpace c=true) ∧ (∀ c∈trail,isSpace c=true) ∧
    Integer text value ∧ FitsInt64 value ∧ token=spaces++text++trail

/-- Spaces on both sides of a text without any are taken off. -/
theorem rdropWhile_skipSpace {spaces text trail : Token} (hspaces : ∀ c∈spaces,isSpace c=true)
    (htrail : ∀ c∈trail,isSpace c=true) (h : Visible text) :
    (skipSpace (spaces++text++trail)).rdropWhile isSpace=text := by
  have hlast : text.rdropWhile isSpace=text :=
    List.rdropWhile_eq_self_iff.mpr fun hne => by simp [h.noSpace _ (List.getLast_mem hne)]
  have hreverse : ∀ c∈trail.reverse,isSpace c=true := fun c hc =>
    htrail c (List.mem_reverse.mp hc)
  rw [List.append_assoc,skipSpace_append hspaces h.head,List.rdropWhile,List.reverse_append,
    List.dropWhile_append_of_pos hreverse]
  exact hlast

/-- The conversion reads the numerals and nothing else. -/
theorem simpleAtoi_eq_some_iff {token : Token} {value : ℤ} :
    simpleAtoi token=some value ↔ Numeral token value := by
  constructor
  · intro h
    rw [simpleAtoi] at h
    dsimp only at h
    split_ifs at h with hdigits hfits
    cases h
    rw [not_or,Bool.not_eq_false,List.all_eq_true] at hdigits
    refine ⟨token.takeWhile isSpace,_,(skipSpace token).rtakeWhile isSpace,
      fun c hc => ?_,fun c hc => ?_,
      integer_iff_scanSign.mpr ⟨_,_,rfl,hdigits.1,hdigits.2,rfl⟩,hfits,?_⟩
    · exact List.mem_takeWhile_imp hc
    · exact List.mem_rtakeWhile_imp hc
    · rw [List.append_assoc,List.rdropWhile_append_rtakeWhile]
      exact List.takeWhile_append_dropWhile.symm
  · rintro ⟨spaces,text,trail,hspaces,htrail,hinteger,hfits,rfl⟩
    obtain ⟨negative,digits,hsign,hne,hdigits,rfl⟩ := integer_iff_scanSign.mp hinteger
    have hall : ¬(digits=[] ∨ digits.all Char.isDigit=false) :=
      not_or.mpr ⟨hne,by rw [Bool.not_eq_false,List.all_eq_true]; exact hdigits⟩
    rw [simpleAtoi,rdropWhile_skipSpace hspaces htrail (visible_integer hinteger),hsign]
    dsimp only
    rw [if_neg hall,if_pos hfits]

/-- The loop of socket_stats comes to its end unless the last token is the name. -/
theorem alongside_memPass_isSome_iff (pageSize : ℕ) (line : List Token)
    (published : List Gauge) :
    (alongside (memPass pageSize) line 1 line published).isSome ↔
      line.getLast?≠some "mem".toList := by
  have hstep : ∀ (s : List Gauge) (name : Token) (value : Option Token),
      (memPass pageSize s name value).isSome ↔ (name="mem".toList → value.isSome) := by
    intro s name value
    rw [memPass]
    split_ifs with hname
    · rw [Option.isSome_map]
      exact ⟨fun h _ => h,fun h => h hname⟩
    · exact ⟨fun _ hmem => absurd hmem hname,fun _ => rfl⟩
  rw [alongside_isSome_iff hstep,List.getLast?_eq_getElem?]
  constructor
  · intro h hlast
    have hpast := h _ _ hlast rfl
    omega
  · rintro h k _ hk rfl
    obtain ⟨hlength,-⟩ := List.getElem?_eq_some_iff.mp hk
    have hne : k≠line.length-1 := fun heq => h (heq ▸ hk)
    omega

/-- The loop of netstat_stats comes to its end exactly when the index of every
tracked header is below the number of values. -/
theorem alongside_headerPass_isSome_iff (headers values : List Token) (ecn : Ecn) :
    (alongside headerPass values 0 headers ecn).isSome ↔
      ∀ k header,headers[k]?=some header → Tracked header → k < values.length := by
  have hstep : ∀ (s : Ecn) (name : Token) (value : Option Token),
      (headerPass s name value).isSome ↔ (Tracked name → value.isSome) := by
    intro s name value
    rw [headerPass,Tracked]
    split_ifs with hnoEct hect hcongested
    · rw [Option.isSome_map]
      exact ⟨fun h _ => h,fun h => h (.inl hnoEct)⟩
    · rw [Option.isSome_map]
      exact ⟨fun h _ => h,fun h => h (.inr (hect.elim .inl fun h => .inr (.inl h)))⟩
    · rw [Option.isSome_map]
      exact ⟨fun h _ => h,fun h => h (.inr (.inr (.inr hcongested)))⟩
    · rw [not_or] at hect
      have hnot : ¬(name="InNoECTPkts".toList ∨ name="InECT1Pkts".toList ∨
          name="InECT0Pkts".toList ∨ name="InCEPkts".toList) :=
        not_or.mpr ⟨hnoEct,not_or.mpr ⟨hect.1,not_or.mpr ⟨hect.2,hcongested⟩⟩⟩
      exact ⟨fun _ h => absurd h hnot,fun _ => rfl⟩
  rw [alongside_isSome_iff hstep]
  simp only [Nat.zero_add]

end AtlasAgent.NetTokens
