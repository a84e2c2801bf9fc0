import AtlasAgent.KvFile
import AtlasAgent.ProcNet

/-!
# Memory statistics of the control group

CGroup::MemoryStatsV2 and CGroup::MemoryStatsStdV2. A limit that is not there
is written as a word and read as -1, and what depends on it is left out. The
keys of memory.stat are looked up by an operator that puts in a zero for a key
that is missing, so that their gauges are set in any case.
-/

namespace AtlasAgent.CGroupMemory

open DecimalText FileReaders KvFile NumberText ProcNet ScanfText SpacedText TextFields
open KvFile (parseKvFromFile)

/-- A gauge or a monotonic counter that is set. -/
structure MemorySet where
  name : Token
  /-- The tag id. -/
  id : Option Token
  value : ℤ
  deriving DecidableEq

/-- operator[] of a map of numbers. -/
def valueAt (stats : Stats) (key : Token) : ℤ := (stats.lookup key).getD 0

/-- A number that is set unless it is negative. -/
def setIfPresent (name : Token) (value : ℤ) : List MemorySet :=
  if 0 ≤ value then [⟨name,none,value⟩] else []

/-- The difference of two int64_t. -/
def subInt64 (a b : ℤ) : ℤ := (a-b).bmod size64

/-- The files that are read. -/
structure MemoryFiles where
  current : Option Token
  max : Option Token
  swapCurrent : Option Token
  swapMax : Option Token
  events : Option Token
  stat : Option Token

/-- What MemoryStatsV2 sets from memory.stat. -/
def statSets (stats : Stats) : List MemorySet :=
  [⟨"cgroup.mem.processUsage".toList,some "cache".toList,valueAt stats "file".toList⟩,
    ⟨"cgroup.mem.processUsage".toList,some "rss".toList,valueAt stats "anon".toList⟩,
    ⟨"cgroup.mem.processUsage".toList,some "rss_huge".toList,valueAt stats "anon_thp".toList⟩,
    ⟨"cgroup.mem.processUsage".toList,some "mapped_file".toList,
      valueAt stats "file_mapped".toList⟩,
    ⟨"cgroup.mem.pageFaults".toList,some "minor".toList,valueAt stats "pgfault".toList⟩,
    ⟨"cgroup.mem.pageFaults".toList,some "major".toList,valueAt stats "pgmajfault".toList⟩]

/-- CGroup::MemoryStatsV2. -/
def memoryStatsV2 (files : MemoryFiles) : List MemorySet :=
  let usageBytes := readNumFromFile files.current
  let limitBytes := readNumFromFile files.max
  let memFail := valueAt (parseKvFromFile files.events ∅) "max".toList
  setIfPresent "cgroup.mem.used".toList usageBytes++
    setIfPresent "cgroup.mem.limit".toList limitBytes++
    setIfPresent "cgroup.mem.failures".toList memFail++
    statSets (parseKvFromFile files.stat ∅)

/-- CGroup::MemoryStatsStdV2. -/
def memoryStatsStdV2 (files : MemoryFiles) : List MemorySet :=
  let memLimit := readNumFromFile files.max
  let memUsage := readNumFromFile files.current
  let memswLimit := readNumFromFile files.swapMax
  let memswUsage := readNumFromFile files.swapCurrent
  let stats := parseKvFromFile files.stat ∅
  let cache := valueAt stats "file".toList
  [⟨"mem.cached".toList,none,cache⟩,⟨"mem.shared".toList,none,valueAt stats "shmem".toList⟩]++
    (if 0 ≤ memLimit ∧ 0 ≤ memUsage then
      [⟨"mem.availReal".toList,none,addInt64 (subInt64 memLimit memUsage) cache⟩,
        ⟨"mem.freeReal".toList,none,subInt64 memLimit memUsage⟩,
        ⟨"mem.totalReal".toList,none,memLimit⟩] else [])++
    (if 0 ≤ memswLimit ∧ 0 ≤ memswUsage then
      [⟨"mem.availSwap".toList,none,subInt64 memswLimit memswUsage⟩,
        ⟨"mem.totalSwap".toList,none,memswLimit⟩] else [])++
    (if 0 ≤ memLimit ∧ 0 ≤ memUsage ∧ 0 ≤ memswLimit ∧ 0 ≤ memswUsage then
      [⟨"mem.totalFree".toList,none,addInt64 (addInt64 (subInt64 memLimit memUsage)
        (subInt64 memswLimit memswUsage)) cache⟩] else [])

/-- A number on a line. -/
def numberText (n : ℕ) : Token := Nat.toDigits 10 n++['\n']

/-- A limit, or the word for none. -/
def limitText : Option ℕ → Token
  | some limit => numberText limit
  | none => "max\n".toList

/-- The memory of a control group. -/
structure Memory where
  usage : ℕ
  limit : Option ℕ
  swapUsage : ℕ
  swapLimit : Option ℕ
  events : Stats
  stat : Stats

/-- The files that show it. -/
def Memory.files (memory : Memory) : MemoryFiles where
  current := some (numberText memory.usage)
  max := some (limitText memory.limit)
  swapCurrent := some (numberText memory.swapUsage)
  swapMax := some (limitText memory.swapLimit)
  events := some (print memory.events)
  stat := some (print memory.stat)

/-- The value of a key, zero without it. -/
def Memory.statistic (memory : Memory) (key : String) : ℤ :=
  (memory.stat.lookup key.toList).getD 0

/-- The count of failures, zero without it. -/
def Memory.failures (memory : Memory) : ℤ := (memory.events.lookup "max".toList).getD 0

/-- The maps can be printed, and an int64_t has every number and every sum. -/
structure Memory.Sound (memory : Memory) : Prop where
  usage : FitsInt64 memory.usage
  limit : ∀ limit∈memory.limit,FitsInt64 (limit : ℕ)
  swapUsage : FitsInt64 memory.swapUsage
  swapLimit : ∀ limit∈memory.swapLimit,FitsInt64 (limit : ℕ)
  events : ∀ entry∈memory.events.entries,Printable entry
  stat : ∀ entry∈memory.stat.entries,Printable entry
  avail : ∀ limit∈memory.limit,FitsInt64 (limit-memory.usage+memory.statistic "file")
  free : ∀ limit∈memory.limit,∀ swapLimit∈memory.swapLimit,
    FitsInt64 ((limit-memory.usage)+(swapLimit-memory.swapUsage)) ∧
      FitsInt64 ((limit-memory.usage)+(swapLimit-memory.swapUsage)+memory.statistic "file")

section Read

/-- A number that may be missing, as it is read. -/
def readLimit (limit : Option ℕ) : ℤ := (limit.map Nat.cast).getD (-1)

theorem readLimit_none : ¬0 ≤ readLimit none := by decide

theorem readLimit_some (limit : ℕ) : readLimit (some limit)=limit := rfl

/-- A number that fits into a long is read as it is. -/
theorem readNumFromFile_numberText {n : ℕ} (h : FitsInt64 n) :
    readNumFromFile (some (numberText n))=n := by
  have hscan := (decimal_toDigits n).scanInteger_append (noDigit_cons.mpr (by decide) :
    NoDigit ['\n'])
  obtain ⟨hlow,hhigh⟩ := h
  rw [readNumFromFile,numberText,scanLong,hscan,Option.map_some,Option.getD_some,signed,
    if_neg Bool.false_ne_true]
  omega

/-- The word for no limit is read as -1. -/
theorem readNumFromFile_limitText {limit : Option ℕ} (h : ∀ n∈limit,FitsInt64 (n : ℕ)) :
    readNumFromFile (some (limitText limit))=readLimit limit := by
  cases limit with
  | none => decide
  | some n => exact readNumFromFile_numberText (h n rfl)

/-- A printed map has the values it was printed from. -/
theorem valueAt_print {stats : Stats} (h : ∀ entry∈stats.entries,Printable entry) (key : Token) :
    valueAt (parseKvFromFile (some (print stats)) ∅) key=(stats.lookup key).getD 0 := by
  rw [valueAt,lookup_parseKvFromFile_print h]

theorem subInt64_eq {a b : ℤ} (h : FitsInt64 (a-b)) : subInt64 a b=a-b :=
  addInt64_eq h

/-- Two numbers of memory differ by one that an int64_t has. -/
theorem fits_sub {a b : ℕ} (ha : FitsInt64 a) (hb : FitsInt64 b) : FitsInt64 ((a : ℤ)-b) := by
  obtain ⟨-,ha⟩ := ha
  obtain ⟨-,hb⟩ := hb
  exact ⟨by omega,by omega⟩

end Read

/-- The statistics of memory.stat: the name and the id of each, and its key. -/
def statistics : List (String×String×String) :=
  [("cgroup.mem.processUsage","cache","file"),("cgroup.mem.processUsage","rss","anon"),
    ("cgroup.mem.processUsage","rss_huge","anon_thp"),
    ("cgroup.mem.processUsage","mapped_file","file_mapped"),
    ("cgroup.mem.pageFaults","minor","pgfault"),("cgroup.mem.pageFaults","major","pgmajfault")]

/-- What is set of a control group: its use, its limit if there is one, the
failures unless the count is negative, and every statistic. -/
def groupSets (memory : Memory) : List MemorySet :=
  [⟨"cgroup.mem.used".toList,none,memory.usage⟩]++
    (memory.limit.map fun limit => ⟨"cgroup.mem.limit".toList,none,(limit : ℤ)⟩).toList++
    (if 0 ≤ memory.failures then [⟨"cgroup.mem.failures".toList,none,memory.failures⟩] else [])++
    statistics.map fun (name,id,key) => ⟨name.toList,some id.toList,memory.statistic key⟩

/-- What is set of real memory with a limit. -/
def realSets (memory : Memory) : List MemorySet :=
  (memory.limit.map fun limit =>
    [⟨"mem.availReal".toList,none,limit-memory.usage+memory.statistic "file"⟩,
      ⟨"mem.freeReal".toList,none,limit-memory.usage⟩,
      ⟨"mem.totalReal".toList,none,limit⟩]).getD []

/-- What is set of swap space with a limit. -/
def swapSets (memory : Memory) : List MemorySet :=
  (memory.swapLimit.map fun limit =>
    [⟨"mem.availSwap".toList,none,limit-memory.swapUsage⟩,
      ⟨"mem.totalSwap".toList,none,limit⟩]).getD []

/-- What is set of both, when both have a limit. -/
def freeSets (memory : Memory) : List MemorySet :=
  match memory.limit,memory.swapLimit with
  | some limit,some swapLimit =>
    [⟨"mem.totalFree".toList,none,(limit-memory.usage)+(swapLimit-memory.swapUsage)+
      memory.statistic "file"⟩]
  | _,_ => []

section Parts

variable {memory : Memory}

/-- The statistics are those of the printed map. -/
theorem statSets_eq (h : memory.Sound) :
    statSets (parseKvFromFile memory.files.stat ∅)=
      statistics.map fun (name,id,key) => ⟨name.toList,some id.toList,memory.statistic key⟩ := by
  have hstat := valueAt_print h.stat
  rw [statSets]
  simp only [Memory.files,hstat]
  rfl

/-- The gauges of real memory. -/
theorem realPart_eq (h : memory.Sound) :
    (if 0 ≤ readLimit memory.limit ∧ 0 ≤ (memory.usage : ℤ) then
      [⟨"mem.availReal".toList,none,addInt64 (subInt64 (readLimit memory.limit) memory.usage)
          (memory.statistic "file")⟩,
        ⟨"mem.freeReal".toList,none,subInt64 (readLimit memory.limit) memory.usage⟩,
        ⟨"mem.totalReal".toList,none,readLimit memory.limit⟩] else [])=realSets memory := by
  rw [realSets]
  cases hlimit : memory.limit with
  | none => exact if_neg fun hboth => readLimit_none hboth.1
  | some limit =>
    have hdiff := subInt64_eq (fits_sub (h.limit limit hlimit) h.usage)
    have havail := addInt64_eq (h.avail limit hlimit)
    rw [readLimit_some,if_pos ⟨Int.natCast_nonneg limit,Int.natCast_nonneg memory.usage⟩,hdiff,
      havail]
    rfl

/-- The gauges of swap space. -/
theorem swapPart_eq (h : memory.Sound) :
    (if 0 ≤ readLimit memory.swapLimit ∧ 0 ≤ (memory.swapUsage : ℤ) then
      [⟨"mem.availSwap".toList,none,subInt64 (readLimit memory.swapLimit) memory.swapUsage⟩,
        ⟨"mem.totalSwap".toList,none,readLimit memory.swapLimit⟩] else [])=swapSets memory := by
  rw [swapSets]
  cases hlimit : memory.swapLimit with
  | none => exact if_neg fun hboth => readLimit_none hboth.1
  | some limit =>
    have hdiff := subInt64_eq (fits_sub (h.swapLimit limit hlimit) h.swapUsage)
    rw [readLimit_some,if_pos ⟨Int.natCast_nonneg limit,Int.natCast_nonneg memory.swapUsage⟩,hdiff]
    rfl

/-- The gauge of both. -/
theorem freePart_eq (h : memory.Sound) :
    (if 0 ≤ readLimit memory.limit ∧ 0 ≤ (memory.usage : ℤ) ∧ 0 ≤ readLimit memory.swapLimit ∧
        0 ≤ (memory.swapUsage : ℤ) then
      [⟨"mem.totalFree".toList,none,addInt64 (addInt64
        (subInt64 (readLimit memory.limit) memory.usage)
        (subInt64 (readLimit memory.swapLimit) memory.swapUsage))
        (memory.statistic "file")⟩] else [])=freeSets memory := by
  rw [freeSets]
  cases hlimit : memory.limit with
  | none => exact if_neg fun hall => readLimit_none hall.1
  | some limit =>
    cases hswapLimit : memory.swapLimit with
    | none => exact if_neg fun hall => readLimit_none hall.2.2.1
    | some swapLimit =>
      have hdiff := subInt64_eq (fits_sub (h.limit limit hlimit) h.usage)
      have hswapDiff := subInt64_eq (fits_sub (h.swapLimit swapLimit hswapLimit) h.swapUsage)
      obtain ⟨hboth,hfree⟩ := h.free limit hlimit swapLimit hswapLimit
      rw [readLimit_some,readLimit_some,if_pos ⟨Int.natCast_nonneg limit,
        Int.natCast_nonneg memory.usage,Int.natCast_nonneg swapLimit,
        Int.natCast_nonneg memory.swapUsage⟩,hdiff,hswapDiff,addInt64_eq hboth,addInt64_eq hfree]

end Parts

/-- On the files of a control group both functions set what its memory is. A
gauge that depends on a limit is left out without that limit, and no other is. -/
theorem cgroupMemory_spec {memory : Memory} (h : memory.Sound) :
    memoryStatsV2 memory.files=groupSets memory ∧
    memoryStatsStdV2 memory.files=
      [⟨"mem.cached".toList,none,memory.statistic "file"⟩,
        ⟨"mem.shared".toList,none,memory.statistic "shmem"⟩]++
        realSets memory++swapSets memory++freeSets memory := by
  have husage : readNumFromFile memory.files.current=memory.usage :=
    readNumFromFile_numberText h.usage
  have hlimit : readNumFromFile memory.files.max=readLimit memory.limit :=
    readNumFromFile_limitText h.limit
  have hswapUsage : readNumFromFile memory.files.swapCurrent=memory.swapUsage :=
    readNumFromFile_numberText h.swapUsage
  have hswapLimit : readNumFromFile memory.files.swapMax=readLimit memory.swapLimit :=
    readNumFromFile_limitText h.swapLimit
  constructor
  · have hfailures : valueAt (parseKvFromFile memory.files.events ∅) "max".toList=
        memory.failures := valueAt_print h.events "max".toList
    rw [memoryStatsV2,groupSets]
    simp only [husage,hlimit,hfailures,statSets_eq h,setIfPresent,
      if_pos (Int.natCast_nonneg memory.usage)]
    cases memory.limit with
    | none =>
      rw [if_neg readLimit_none]
      rfl
    | some limit =>
      rw [readLimit_some,if_pos (Int.natCast_nonneg limit)]
      rfl
  · have hstat : ∀ key : String,
        valueAt (parseKvFromFile memory.files.stat ∅) key.toList=memory.statistic key :=
      fun key => valueAt_print h.stat key.toList
    have hreal := realPart_eq h
    have hswap := swapPart_eq h
    have hfree := freePart_eq h
    rw [memoryStatsStdV2]
    simp only [husage,hlimit,hswapUsage,hswapLimit,hstat,hreal,hswap,hfree]

/-- A control group without a limit on its swap space, and one of more than 2^60
bytes on its memory. -/
def withoutSwapLimit : Memory where
  usage := 7
  limit := some (2^61)
  swapUsage := 3
  swapLimit := none
  events := (∅ : Stats).insert "max".toList 4
  stat := (((∅ : Stats).insert "file".toList 2).insert "anon".toList 5).insert "pgfault".toList 9

theorem sound_withoutSwapLimit : withoutSwapLimit.Sound := by
  have hevents : ∀ entry∈withoutSwapLimit.events.entries,Printable entry := by decide +kernel
  have hstat : ∀ entry∈withoutSwapLimit.stat.entries,Printable entry := by decide +kernel
  refine ⟨by decide,?_,by decide,?_,hevents,hstat,?_,?_⟩
  · rintro limit ⟨rfl⟩
    decide
  · exact fun limit hlimit => by cases hlimit
  · rintro limit ⟨rfl⟩
    decide
  · exact fun limit hlimit swapLimit hswapLimit => by cases hswapLimit

theorem cgroupMemory_withoutSwapLimit :
    (memoryStatsV2 withoutSwapLimit.files).map (fun set => (set.id,set.value))=
        [(none,7),(none,2^61),(none,4),(some "cache".toList,2),(some "rss".toList,5),
          (some "rss_huge".toList,0),(some "mapped_file".toList,0),(some "minor".toList,9),
          (some "major".toList,0)] ∧
      (memoryStatsStdV2 withoutSwapLimit.files).map (·.value)=[2,0,2^61-5,2^61-7,2^61] := by
  obtain ⟨hgroup,hstd⟩ := cgroupMemory_spec sound_withoutSwapLimit
  rw [hgroup,hstd]
  exact ⟨by decide,by decide⟩

end AtlasAgent.CGroupMemory
