import AtlasAgent.ScanfText
import AtlasAgent.WhileLoop
import Mathlib.Data.Finset.Sort
import Mathlib.Data.List.Chain

/-!
# parse_range and the lists of CPU numbers

The kernel writes a set of CPUs as ascending numbers and ranges with commas
between them. parse_range reads pairs of a number and the character after it,
remembers the start of an open range and resizes its vector for every number.
Ascending and disjoint ranges never make it shrink.
-/

namespace AtlasAgent.ParseRange

open DecimalText NumberText ScanfText TextFields WhileLoop

/-- What the vector throws. -/
inductive VectorException
  | lengthError
  | outOfRange
  deriving DecidableEq

/-- The loop of parse_range between two passes. -/
structure RangeState where
  file : InputFile
  startOfRange : ℤ
  result : List Bool

/-- std::vector::resize. -/
def resize (result : List Bool) (size : ℕ) : List Bool :=
  result.take size++List.replicate (size-result.length) false

/-- The loop that sets the elements from the start of a range to a number. -/
def fillRange (start cpu : ℕ) (result : List Bool) : List Bool :=
  (List.range' start (cpu+1-start)).foldl (fun result i => result.set i true) result

/-- One pass of parse_range. A separator that is not read keeps what its
variable held. -/
def rangePass (indeterminate : Char) (s : RangeState) :
    RangeState⊕Except VectorException (List Bool) :=
  match scanIntFrom s.file with
  | (none,_) => .inr (.ok s.result)
  | (some cpu,after) =>
    let (separator,file) := scanChar after
    let sep := separator.getD indeterminate
    -- the size is an int before it is a size_t
    if cpu+1<0 ∨ 2^31 ≤ cpu+1 then .inr (.error .lengthError)
    else
      let resized := resize s.result (cpu+1).toNat
      let filled :=
        if 0 ≤ s.startOfRange then fillRange s.startOfRange.toNat cpu.toNat resized else resized
      if sep= '-' then .inl ⟨file,cpu,filled⟩
      else if cpu<0 then .inr (.error .outOfRange)
      else .inl ⟨file,-1,filled.set cpu.toNat true⟩

/-- parse_range ends with the given vector, or exception. -/
def ParsesRange (indeterminate : Char) (text : Token) (result : List Bool)
    (parsed : Except VectorException (List Bool)) : Prop :=
  Ends (rangePass indeterminate) ⟨openFile text,-1,result⟩ parsed

/-- A number of the list, or a range of numbers. -/
inductive CpuRange
  | single (cpu : ℕ)
  | between (first last : ℕ)
  deriving DecidableEq

namespace CpuRange

/-- Its least number. -/
def first : CpuRange → ℕ
  | single cpu => cpu
  | between first _ => first

/-- Its greatest number. -/
def last : CpuRange → ℕ
  | single cpu => cpu
  | between _ last => last

/-- How it is written. -/
def text : CpuRange → Token
  | single cpu => Nat.toDigits 10 cpu
  | between first last => Nat.toDigits 10 first++ '-'::Nat.toDigits 10 last

/-- The numbers it stands for. -/
def Contains (range : CpuRange) (cpu : ℕ) : Prop := range.first ≤ cpu ∧ cpu ≤ range.last

end CpuRange

/-- The text of a list of ranges. -/
def rangesText (ranges : List CpuRange) : Token :=
  [','].intercalate (ranges.map CpuRange.text)++['\n']

/-- Ascending disjoint ranges, none of them empty. -/
structure Ascending (ranges : List CpuRange) : Prop where
  ordered : ∀ range∈ranges,range.first ≤ range.last
  apart : ranges.IsChain fun range next => range.last<next.first

/-- The ranges stand for the set. -/
def Denote (ranges : List CpuRange) (cpus : Finset ℕ) : Prop :=
  ∀ cpu,cpu∈cpus ↔ ∃ range∈ranges,range.Contains cpu

/-- The vector that says of each number up to the greatest whether it is in the set. -/
structure Indicates (result : List Bool) (cpus : Finset ℕ) : Prop where
  length : result.length=if h : cpus.Nonempty then cpus.max' h+1 else 0
  element : ∀ (cpu : ℕ) (h : cpu < result.length),result[cpu]=true ↔ cpu∈cpus

/-- What a range adds to the vector. -/
def extend (result : List Bool) (range : CpuRange) : List Bool :=
  result++List.replicate (range.first-result.length) false++
    List.replicate (range.last+1-range.first) true

theorem resize_of_le {result : List Bool} {size : ℕ} (h : result.length ≤ size) :
    resize result size=result++List.replicate (size-result.length) false := by
  rw [resize,List.take_of_length_le h]

theorem getElem?_foldl_set (indices : List ℕ) (result : List Bool) (i : ℕ) :
    (indices.foldl (fun result i => result.set i true) result)[i]?=
      if i∈indices then result[i]?.map fun _ => true else result[i]? := by
  induction indices generalizing result with
  | nil => simp
  | cons index indices ih =>
    rw [List.foldl_cons,ih,List.getElem?_set]
    by_cases hindex : index=i
    · subst hindex
      by_cases hlength : index < result.length
      · simp [hlength]
      · simp [hlength]
    · simp [hindex,Ne.symm hindex]

theorem length_foldl_set (indices : List ℕ) (result : List Bool) :
    (indices.foldl (fun result i => result.set i true) result).length=result.length := by
  induction indices generalizing result with
  | nil => rfl
  | cons index indices ih => rw [List.foldl_cons,ih,List.length_set]

/-- A number that is read on its own. -/
theorem set_resize_single {result : List Bool} {cpu : ℕ} (h : result.length ≤ cpu) :
    (resize result (cpu+1)).set cpu true=extend result (.single cpu) := by
  rw [resize_of_le (by omega),extend]
  refine List.ext_getElem? fun i => ?_
  dsimp only [CpuRange.first,CpuRange.last]
  grind

/-- A range whose start is read before its end. -/
theorem set_fillRange_between {result : List Bool} {first last : ℕ} (h : result.length≤first)
    (hle : first≤last) :
    (fillRange first last (resize (resize result (first+1)) (last+1))).set last true=
      extend result (.between first last) := by
  have hlength : (resize result (first+1)).length=first+1 := by
    rw [resize_of_le (by omega),List.length_append,List.length_replicate]
    omega
  have hfit : (resize result (first+1)).length≤last+1 := by omega
  rw [resize_of_le hfit,hlength,resize_of_le (by omega)]
  refine List.ext_getElem? fun i => ?_
  rw [List.getElem?_set,fillRange,length_foldl_set,getElem?_foldl_set,extend]
  dsimp only [CpuRange.first,CpuRange.last]
  grind

theorem length_extend {result : List Bool} {range : CpuRange} (h : result.length ≤ range.first)
    (hle : range.first ≤ range.last) : (extend result range).length=range.last+1 := by
  simp only [extend,List.length_append,List.length_replicate]
  omega

/-- A range adds its own numbers. -/
theorem extend_true_iff {result : List Bool} {range : CpuRange} (h : result.length ≤ range.first)
    (i : ℕ) :
    (extend result range)[i]?=some true ↔ result[i]?=some true ∨ range.Contains i := by
  simp only [extend,CpuRange.Contains]
  grind

/-- After the first of ascending ranges the next one is still ahead. -/
theorem Ascending.step {result : List Bool} {range : CpuRange} {ranges : List CpuRange}
    (h : Ascending (range::ranges)) (hlength : result.length ≤ range.first) :
    Ascending ranges ∧ ∀ next∈ranges.head?,(extend result range).length ≤ next.first := by
  obtain ⟨hle,hordered⟩ := List.forall_mem_cons.mp h.ordered
  obtain ⟨hapart,hchain⟩ := List.isChain_cons.mp h.apart
  refine ⟨⟨hordered,hchain⟩,fun next hmem => ?_⟩
  rw [length_extend hlength hle]
  exact hapart next hmem

/-- Ascending ranges add their numbers one after the other. -/
theorem foldl_extend_true_iff {ranges : List CpuRange} (h : Ascending ranges)
    {result : List Bool} (hfirst : ∀ range∈ranges.head?,result.length ≤ range.first) (i : ℕ) :
    (ranges.foldl extend result)[i]?=some true ↔
      result[i]?=some true ∨ ∃ range∈ranges,range.Contains i := by
  induction ranges generalizing result with
  | nil => simp
  | cons range ranges ih =>
    have hlength : result.length ≤ range.first := hfirst range rfl
    obtain ⟨hrest,hnext⟩ := h.step hlength
    rw [List.foldl_cons,ih hrest hnext,extend_true_iff hlength,or_assoc,
      List.exists_mem_cons_iff]

/-- The last element of a vector that a range has been added to is true. -/
theorem foldl_extend_last {ranges : List CpuRange} (h : Ascending ranges) (hne : ranges≠[]) :
    (ranges.foldl extend []).getLast?=some true := by
  obtain ⟨earlier,range,rfl⟩ := List.eq_nil_or_concat' ranges |>.resolve_left hne
  have hle := h.ordered range (by simp)
  obtain ⟨count,hcount⟩ : ∃ count,range.last+1-range.first=count+1 :=
    ⟨range.last-range.first,by omega⟩
  rw [List.foldl_append,List.foldl_cons,List.foldl_nil,extend,hcount,List.replicate_succ',
    ←List.append_assoc,List.getLast?_concat]

/-- There is no range exactly for the empty set. -/
theorem ranges_eq_nil_iff {ranges : List CpuRange} {cpus : Finset ℕ} (h : Ascending ranges)
    (hdenote : Denote ranges cpus) : ranges=[] ↔ ¬cpus.Nonempty := by
  rw [Finset.not_nonempty_iff_eq_empty]
  constructor
  · rintro rfl
    refine Finset.eq_empty_of_forall_notMem fun cpu hcpu => ?_
    obtain ⟨range,hrange,-⟩ := (hdenote cpu).mp hcpu
    cases hrange
  · rintro rfl
    refine List.eq_nil_iff_forall_not_mem.mpr fun range hrange => ?_
    have hfirst : range.Contains range.first := ⟨le_rfl,h.ordered range hrange⟩
    exact absurd ((hdenote range.first).mpr ⟨range,hrange,hfirst⟩) (Finset.notMem_empty _)

/-- The vector built from ascending ranges indicates the set they stand for. -/
theorem indicates_foldl_extend {ranges : List CpuRange} {cpus : Finset ℕ} (h : Ascending ranges)
    (hdenote : Denote ranges cpus) : Indicates (ranges.foldl extend []) cpus := by
  have hmem : ∀ i,(ranges.foldl extend [])[i]?=some true ↔ i∈cpus := by
    intro i
    have hstart : ∀ range∈ranges.head?,([] : List Bool).length ≤ range.first :=
      fun range _ => Nat.zero_le _
    rw [foldl_extend_true_iff h hstart,hdenote]
    simp
  refine ⟨?_,fun cpu hcpu => ?_⟩
  · split
    · next hnonempty =>
      have hlast := foldl_extend_last h fun hnil =>
        (ranges_eq_nil_iff h hdenote).mp hnil hnonempty
      rw [List.getLast?_eq_getElem?] at hlast
      have hmax := (hmem _).mp hlast
      have hbelow : ∀ other∈cpus,other≤(ranges.foldl extend []).length-1 := by
        intro other hother
        obtain ⟨hlt,-⟩ := List.getElem?_eq_some_iff.mp ((hmem other).mpr hother)
        omega
      obtain ⟨hpos,-⟩ := List.getElem?_eq_some_iff.mp hlast
      rw [(Finset.max'_eq_iff cpus hnonempty _).mpr ⟨hmax,hbelow⟩]
      omega
    · next hempty =>
      rw [(ranges_eq_nil_iff h hdenote).mpr hempty]
      rfl
  · rw [←hmem,List.getElem?_eq_getElem hcpu,Option.some.injEq]

/-- The number in front of a separator is read. -/
theorem scanIntFrom_decimal {cpu : ℕ} (hcpu : cpu<2^31) {c : Char} (hc : c.isDigit=false)
    (rest : Token) :
    scanIntFrom ⟨Nat.toDigits 10 cpu++c::rest,false⟩=(some (cpu : ℤ),⟨c::rest,false⟩) := by
  have hfits : FitsInt64 (cpu : ℤ) := ⟨by omega,by omega⟩
  have hscan := scanLongFrom_integer (List.forall_mem_nil _) (.plain (decimal_toDigits cpu)) hfits
    (noDigit_cons.mpr hc : NoDigit (c::rest)) false
  rw [List.nil_append] at hscan
  have hint : (cpu : ℤ).bmod (2^32)=cpu := Int.bmod_eq_of_le (by omega) (by omega)
  rw [scanIntFrom,hscan]
  simp only [Option.map_some,hint]
  rfl

/-- A pass over a number that a separator follows. -/
theorem rangePass_number (indeterminate : Char) {cpu : ℕ} (hcpu : cpu<2^31-1) {c : Char}
    (hc : c.isDigit=false) (rest : Token) (start : ℤ) (result : List Bool) :
    rangePass indeterminate ⟨⟨Nat.toDigits 10 cpu++c::rest,false⟩,start,result⟩=
      if c= '-' then .inl ⟨⟨rest,false⟩,cpu,
        if 0 ≤ start then fillRange start.toNat cpu (resize result (cpu+1))
        else resize result (cpu+1)⟩
      else .inl ⟨⟨rest,false⟩,-1,
        (if 0 ≤ start then fillRange start.toNat cpu (resize result (cpu+1))
        else resize result (cpu+1)).set cpu true⟩ := by
  have hsize : ((cpu : ℤ)+1).toNat=cpu+1 := by omega
  rw [rangePass,scanIntFrom_decimal (by omega) hc]
  dsimp only [scanChar,Option.getD_some]
  rw [if_neg (by omega),hsize,Int.toNat_natCast,if_neg (by omega : ¬(cpu : ℤ)<0)]

/-- The passes over a range that a comma or a line break follows. -/
theorem ends_range_iff (indeterminate : Char) {range : CpuRange} {result : List Bool} {c : Char}
    {parsed : Except VectorException (List Bool)} (hlength : result.length ≤ range.first)
    (hle : range.first ≤ range.last) (hlast : range.last<2^31-1) (hc : c= ',' ∨ c= '\n')
    (rest : Token) :
    Ends (rangePass indeterminate) ⟨⟨range.text++c::rest,false⟩,-1,result⟩ parsed ↔
      Ends (rangePass indeterminate) ⟨⟨rest,false⟩,-1,extend result range⟩ parsed := by
  have hdigit : c.isDigit=false := by rcases hc with rfl|rfl <;> decide
  have hdash : c≠ '-' := by rcases hc with rfl|rfl <;> decide
  cases range with
  | single cpu =>
    have hlast : cpu<2^31-1 := hlast
    have hpass := rangePass_number indeterminate hlast hdigit rest (-1) result
    rw [if_neg hdash,if_neg (by decide)] at hpass
    rw [CpuRange.text,ends_pass_iff hpass]
    have hset : (resize result (cpu+1)).set cpu true=extend result (.single cpu) :=
      set_resize_single hlength
    rw [hset]
  | between first last =>
    have hlast : last<2^31-1 := hlast
    have hfirst : first<2^31-1 := lt_of_le_of_lt hle hlast
    have hopen := rangePass_number indeterminate hfirst (c:= '-') (by decide)
      (Nat.toDigits 10 last++c::rest) (-1) result
    have hclose := rangePass_number indeterminate hlast hdigit rest first (resize result (first+1))
    rw [if_pos rfl,if_neg (by decide)] at hopen
    rw [if_neg hdash,if_pos (by omega),Int.toNat_natCast] at hclose
    have hset : (fillRange first last (resize (resize result (first+1)) (last+1))).set last true=
        extend result (.between first last) := set_fillRange_between hlength hle
    rw [CpuRange.text,List.append_assoc,List.cons_append,ends_pass_iff hopen,ends_pass_iff hclose,
      hset]

/-- The loop ends where the text does. -/
theorem ends_of_nothing (indeterminate : Char) {rest : Token} (hrest : rest=[] ∨ rest=['\n'])
    (result : List Bool) :
    Ends (rangePass indeterminate) ⟨⟨rest,false⟩,-1,result⟩ (.ok result) := by
  refine ends_of_result ?_
  rcases hrest with rfl|rfl <;> rfl

/-- The loop reads all ranges of a list and adds them to the vector. -/
theorem ends_ranges (indeterminate : Char) {ranges : List CpuRange} (h : Ascending ranges)
    (hlast : ∀ range∈ranges,range.last<2^31-1) {result : List Bool}
    (hfirst : ∀ range∈ranges.head?,result.length ≤ range.first) :
    Ends (rangePass indeterminate) ⟨⟨rangesText ranges,false⟩,-1,result⟩
      (.ok (ranges.foldl extend result)) := by
  induction ranges generalizing result with
  | nil => exact ends_of_nothing indeterminate (Or.inr rfl) result
  | cons range ranges ih =>
    have hle := h.ordered range List.mem_cons_self
    obtain ⟨hfit,hfits⟩ := List.forall_mem_cons.mp hlast
    have hlength : result.length ≤ range.first := hfirst range rfl
    obtain ⟨hrest,hnext⟩ := h.step hlength
    rw [List.foldl_cons]
    cases ranges with
    | nil =>
      have htext : rangesText [range]=range.text++ '\n'::[] := by
        rw [rangesText,List.map_cons,List.map_nil,List.intercalate_singleton]
      rw [htext,ends_range_iff indeterminate hlength hle hfit (Or.inr rfl)]
      exact ends_of_nothing indeterminate (Or.inl rfl) _
    | cons next ranges =>
      have htext : rangesText (range::next::ranges)=
          range.text++ ','::rangesText (next::ranges) := by
        rw [rangesText,rangesText,List.map_cons,List.map_cons,List.intercalate_cons_cons,
          List.append_assoc,List.append_assoc]
        rfl
      rw [htext,ends_range_iff indeterminate hlength hle hfit (Or.inl rfl)]
      exact ih hrest hfits hnext

/-- parse_range ends with the vector of the set, for any ascending list of
disjoint ranges. -/
theorem parsesRange_of_ascending (indeterminate : Char) {ranges : List CpuRange}
    {cpus : Finset ℕ} (h : Ascending ranges) (hdenote : Denote ranges cpus)
    (hbound : ∀ cpu∈cpus,cpu<2^31-1) :
    ∃ result,ParsesRange indeterminate (rangesText ranges) [] (.ok result) ∧
      Indicates result cpus := by
  have hlast : ∀ range∈ranges,range.last<2^31-1 := fun range hrange =>
    hbound _ ((hdenote _).mpr ⟨range,hrange,h.ordered range hrange,le_rfl⟩)
  exact ⟨_,ends_ranges indeterminate h hlast fun _ _ => Nat.zero_le _,
    indicates_foldl_extend h hdenote⟩

/-- Ranges that no two of can be written as one. -/
structure Maximal (ranges : List CpuRange) : Prop where
  ordered : ∀ range∈ranges,range.first ≤ range.last
  apart : ranges.IsChain fun range next => range.last+1<next.first

theorem Maximal.ascending {ranges : List CpuRange} (h : Maximal ranges) : Ascending ranges :=
  ⟨h.ordered,h.apart.imp fun _ _ hapart => by omega⟩

/-- Ascending numbers grouped into ranges. -/
def groupRuns : List ℕ → List CpuRange
  | [] => []
  | cpu::cpus =>
    match groupRuns cpus with
    | [] => [.single cpu]
    | range::ranges =>
      if range.first=cpu+1 then .between cpu range.last::ranges
      else .single cpu::range::ranges

/-- The list that the kernel writes for a set. -/
def kernelRanges (cpus : Finset ℕ) : List CpuRange := groupRuns cpus.sort

/-- The first range begins with the first number. -/
theorem head_groupRuns (cpus : List ℕ) :
    (groupRuns cpus).head?.map CpuRange.first=cpus.head? := by
  cases cpus with
  | nil => rfl
  | cons cpu cpus =>
    rw [groupRuns]
    split
    · rfl
    · split <;> rfl

theorem ordered_groupRuns (cpus : List ℕ) : ∀ range∈groupRuns cpus,range.first ≤ range.last := by
  induction cpus with
  | nil =>
    intro range hrange
    cases hrange
  | cons cpu cpus ih =>
    rw [groupRuns]
    split
    · exact List.forall_mem_singleton.mpr le_rfl
    · next range ranges hruns =>
      rw [hruns] at ih
      obtain ⟨hle,hordered⟩ := List.forall_mem_cons.mp ih
      split
      · next hnext =>
        refine List.forall_mem_cons.mpr ⟨?_,hordered⟩
        dsimp only [CpuRange.first,CpuRange.last] at hle hnext ⊢
        omega
      · exact List.forall_mem_cons.mpr ⟨le_rfl,ih⟩

/-- The ranges stand for the numbers they were grouped from. -/
theorem contains_groupRuns_iff (cpus : List ℕ) (i : ℕ) :
    (∃ range∈groupRuns cpus,range.Contains i) ↔ i∈cpus := by
  induction cpus with
  | nil => simp [groupRuns]
  | cons cpu cpus ih =>
    have hsingle : (CpuRange.single cpu).Contains i ↔ i=cpu := by
      dsimp only [CpuRange.Contains,CpuRange.first,CpuRange.last]
      omega
    have hordered := ordered_groupRuns cpus
    rw [List.mem_cons,←ih,groupRuns]
    split
    · next hruns => simp [hruns,hsingle]
    · next range ranges hruns =>
      rw [hruns] at hordered ⊢
      split
      · next hnext =>
        -- the new range holds the number and what the range after it holds
        have hjoin : (CpuRange.between cpu range.last).Contains i ↔ i=cpu ∨ range.Contains i := by
          have hle := hordered range List.mem_cons_self
          dsimp only [CpuRange.Contains,CpuRange.first,CpuRange.last] at hle hnext ⊢
          omega
        rw [List.exists_mem_cons_iff,List.exists_mem_cons_iff,hjoin,or_assoc]
      · rw [List.exists_mem_cons_iff,hsingle]

/-- Ascending numbers are grouped into ranges that cannot be joined. -/
theorem maximal_groupRuns {cpus : List ℕ} (h : cpus.Pairwise (· < ·)) :
    Maximal (groupRuns cpus) := by
  refine ⟨ordered_groupRuns cpus,?_⟩
  induction cpus with
  | nil => exact List.IsChain.nil
  | cons cpu cpus ih =>
    obtain ⟨hless,hrest⟩ := List.pairwise_cons.mp h
    have hchain := ih hrest
    have hhead := head_groupRuns cpus
    rw [groupRuns]
    split
    · exact List.IsChain.singleton _
    · next range ranges hruns =>
      rw [hruns] at hhead hchain
      have hfirst : cpu < range.first := hless _ (List.mem_of_mem_head? hhead.symm)
      split
      · exact List.isChain_cons.mpr (List.isChain_cons.mp hchain)
      · next hgap =>
        refine List.isChain_cons.mpr ⟨?_,hchain⟩
        rintro next ⟨rfl⟩
        have hcpu : (CpuRange.single cpu).last=cpu := rfl
        omega

theorem kernelRanges_maximal (cpus : Finset ℕ) : Maximal (kernelRanges cpus) :=
  maximal_groupRuns cpus.sortedLT_sort.pairwise

theorem kernelRanges_denote (cpus : Finset ℕ) : Denote (kernelRanges cpus) cpus := fun cpu => by
  rw [kernelRanges,contains_groupRuns_iff,Finset.mem_sort]

/-- parse_range turns the kernel's text for a set, and every other ascending
list of disjoint ranges for it, into the vector that indicates the set. -/
theorem parse_range_round_trip (indeterminate : Char) (cpus : Finset ℕ)
    (hbound : ∀ cpu∈cpus,cpu<2^31-1) :
    (Maximal (kernelRanges cpus) ∧ Denote (kernelRanges cpus) cpus ∧
      ∃ result,ParsesRange indeterminate (rangesText (kernelRanges cpus)) [] (.ok result) ∧
        Indicates result cpus) ∧
    ∀ ranges,Ascending ranges → Denote ranges cpus →
      ∃ result,ParsesRange indeterminate (rangesText ranges) [] (.ok result) ∧
        Indicates result cpus := by
  have hmaximal := kernelRanges_maximal cpus
  have hdenote := kernelRanges_denote cpus
  have hkernel := parsesRange_of_ascending indeterminate hmaximal.ascending hdenote hbound
  exact ⟨⟨hmaximal,hdenote,hkernel⟩,
    fun ranges h hranges => parsesRange_of_ascending indeterminate h hranges hbound⟩

/-- The set of the sample with ranges, and its text. -/
theorem parse_range_round_trip_sample :
    let cpus : Finset ℕ := {0,1,2,3,5,6,7,38}
    rangesText (kernelRanges cpus)="0-3,5-7,38\n".toList ∧
      ∃ result,ParsesRange '-' "0-3,5-7,38\n".toList [] (.ok result) ∧ Indicates result cpus := by
  intro cpus
  have hnodup : [0,1,2,3,5,6,7,38].Nodup := by decide
  have hsort : cpus.sort=[0,1,2,3,5,6,7,38] :=
    (List.toFinset_sort (· ≤ ·) hnodup).mpr (by decide)
  have htext : rangesText (kernelRanges cpus)="0-3,5-7,38\n".toList := by
    rw [kernelRanges,hsort]
    decide +kernel
  have h := (parse_range_round_trip '-' cpus (by decide)).1.2.2
  rw [htext] at h
  exact ⟨htext,h⟩

end AtlasAgent.ParseRange
