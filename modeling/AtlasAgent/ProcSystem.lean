import AtlasAgent.KvFile
import AtlasAgent.LabelledLines
import Mathlib.Algebra.BigOperators.Group.List.Basic

/-!
# Proc::memory_stats and Proc::vmstats

meminfo and stat are read by a chain of labels, vmstat as keys with numbers,
and sys/fs/file-nr by one scan. A variable that a scan has not assigned is set
on its gauge all the same, and file-nr is read without asking whether it has
been opened.
-/

namespace AtlasAgent.ProcSystem

open DecimalText FileReaders KvFile LabelledLines MountPoints NetTokens ProcNet ProcSnmp
open ScanMarks ScanfText SpacedText TextFields
open NumberText hiding startsWith toInt64
open KvFile (parseKvFromFile)

/-- A branch of memory_stats. -/
structure MemoryField where
  label : Token
  gauge : Token
  /-- Whether the number is added to total_free_bytes. -/
  free : Bool
  deriving DecidableEq

/-- The branches of memory_stats in their order. -/
def memoryFields : List MemoryField :=
  [⟨"MemTotal:".toList,"mem.totalReal".toList,false⟩,⟨"MemFree:".toList,"mem.freeReal".toList,true⟩,
    ⟨"MemAvailable:".toList,"mem.availReal".toList,false⟩,
    ⟨"SwapFree:".toList,"mem.availSwap".toList,true⟩,
    ⟨"SwapTotal:".toList,"mem.totalSwap".toList,false⟩,
    ⟨"Buffers:".toList,"mem.buffer".toList,false⟩,⟨"Cached:".toList,"mem.cached".toList,false⟩,
    ⟨"Shmem:".toList,"mem.shared".toList,false⟩]

/-- Addition of two unsigned longs, without a value where one has none. -/
def addUnsigned : Option ℕ → Option ℕ → Option ℕ
  | some a,some b => some ((a+b)%size64)
  | _,_ => none

/-- A number of kilobytes set on a gauge. -/
def kilobytes (gauge : Token) (n : Option ℕ) : Setting := ⟨gauge,∅,n.map (·*1024)⟩

/-- total_free_bytes, and what has been set. -/
structure MemoryPass where
  totalFreeBytes : Option ℕ
  settings : List Setting

/-- The body of the loop of memory_stats. -/
def memoryLine (pass : MemoryPass) (line : Token) : MemoryPass :=
  match fieldOf MemoryField.label memoryFields line with
  | none => pass
  | some field =>
    let n := scanLabelled field.label line
    ⟨if field.free then addUnsigned pass.totalFreeBytes n else pass.totalFreeBytes,
      pass.settings++[kilobytes field.gauge n]⟩

/-- Proc::memory_stats. -/
def memoryStats : Option Token → List Setting
  | none => []
  | some text =>
    let pass := (bufferedLines text).foldl memoryLine ⟨some 0,[]⟩
    pass.settings++[kilobytes "mem.totalFree".toList pass.totalFreeBytes]

/-- A branch of the loop of vmstats. -/
structure VmField where
  label : Token
  name : Token
  tags : Tags
  deriving DecidableEq

/-- The tags of a meter with an id. -/
def idTag (id : Token) : Tags := (∅ : Tags).insert "id".toList id

/-- The branches of the loop of vmstats. -/
def vmFields : List VmField :=
  [⟨"processes".toList,"vmstat.procs.count".toList,∅⟩,
    ⟨"procs_running".toList,"vmstat.procs".toList,idTag "running".toList⟩,
    ⟨"procs_blocked".toList,"vmstat.procs".toList,idTag "blocked".toList⟩]

/-- The keys of vmstat that are set if they are present, with their meters. -/
def pagingFields : List VmField :=
  [⟨"pgpgin".toList,"vmstat.paging".toList,idTag "in".toList⟩,
    ⟨"pgpgout".toList,"vmstat.paging".toList,idTag "out".toList⟩,
    ⟨"pswpin".toList,"vmstat.swapping".toList,idTag "in".toList⟩,
    ⟨"pswpout".toList,"vmstat.swapping".toList,idTag "out".toList⟩]

/-- A meter that is set, without a value where the variable has none. -/
structure VmSetting where
  name : Token
  tags : Tags
  value : Option ℤ
  deriving DecidableEq

/-- What vmstats sets, and whether it ends in a read of a file that has not been
opened. -/
structure VmResult where
  settings : List VmSetting
  nullFile : Bool
  deriving DecidableEq

/-- set_if_present. -/
def setIfPresent (stats : Stats) (field : VmField) : List VmSetting :=
  match stats.lookup field.label with
  | some value => [⟨field.name,field.tags,some value⟩]
  | none => []

/-- What is set from the first line of sys/fs/file-nr. -/
def fileHandles (text : Token) : List VmSetting :=
  match fgetsAll 2047 [] text with
  | [] => []
  | line::_ =>
    let values := sscanfUnsigned [] 3 line
    if values.length=3 then
      [⟨"vmstat.fh.allocated".toList,∅,values[0]?.map Nat.cast⟩,
        ⟨"vmstat.fh.max".toList,∅,values[2]?.map Nat.cast⟩]
    else []

/-- Proc::vmstats. -/
def vmstats (stat vmstat fileNr : Option Token) : VmResult :=
  match stat with
  | none => ⟨[],false⟩
  | some text =>
    let fromStat := (readings VmField.label 2047 vmFields text).map fun reading =>
      ⟨reading.1.name,reading.1.tags,reading.2.map Nat.cast⟩
    let fromVmstat := pagingFields.flatMap (setIfPresent (parseKvFromFile vmstat ∅))
    match fileNr with
    | none => ⟨fromStat++fromVmstat,true⟩
    | some text => ⟨fromStat++fromVmstat++fileHandles text,false⟩

theorem memoryLabels : Labels MemoryField.label memoryFields :=
  ⟨by decide,by decide,by decide⟩

theorem vmLabels : Labels VmField.label vmFields := ⟨by decide,by decide,by decide⟩

section Memory

/-- The gauge of a reading. -/
def memorySetting (reading : MemoryField×Option ℕ) : Setting := kilobytes reading.1.gauge reading.2

/-- What a reading adds to total_free_bytes. -/
def addFree (total : Option ℕ) (reading : MemoryField×Option ℕ) : Option ℕ :=
  if reading.1.free then addUnsigned total reading.2 else total

/-- The loop sets what has been read and adds up what is free. -/
theorem foldl_memoryLine (lines : List Token) (pass : MemoryPass) :
    let found := lines.filterMap fun line =>
      (fieldOf MemoryField.label memoryFields line).map fun field =>
        (field,scanLabelled field.label line)
    lines.foldl memoryLine pass=
      ⟨found.foldl addFree pass.totalFreeBytes,pass.settings++found.map memorySetting⟩ := by
  induction lines generalizing pass with
  | nil => simp
  | cons line lines ih =>
    dsimp only at ih ⊢
    rw [List.foldl_cons,ih,memoryLine,List.filterMap_cons]
    cases fieldOf MemoryField.label memoryFields line with
    | none => rfl
    | some field =>
      dsimp only [Option.map_some]
      rw [List.foldl_cons,List.map_cons,List.append_assoc,List.singleton_append]
      rfl

/-- memory_stats is determined by what is read of meminfo. -/
theorem memoryStats_eq (text : Token) :
    let found := readings MemoryField.label 1023 memoryFields text
    memoryStats (some text)=found.map memorySetting++
      [kilobytes "mem.totalFree".toList (found.foldl addFree (some 0))] := by
  dsimp only
  rw [memoryStats,bufferedLines,foldl_memoryLine]
  rfl

/-- Numbers of kilobytes are added up modulo the number of unsigned longs. -/
theorem foldl_addFree (found : List (MemoryField×ℕ)) (total : ℕ) :
    (found.map fun reading => (reading.1,some reading.2)).foldl addFree (some (total%size64))=
      some ((total+((found.filter (·.1.free)).map Prod.snd).sum)%size64) := by
  induction found generalizing total with
  | nil => rfl
  | cons reading found ih =>
    rw [List.map_cons,List.foldl_cons,addFree]
    dsimp only
    cases hfree : reading.1.free with
    | false =>
      rw [if_neg Bool.false_ne_true,ih,List.filter_cons_of_neg (by simp [hfree])]
    | true =>
      have hadd : addUnsigned (some (total%size64)) (some reading.2)=
          some ((total+reading.2)%size64) := by rw [addUnsigned,Nat.mod_add_mod]
      rw [if_pos rfl,hadd,ih,List.filter_cons_of_pos (by simp [hfree]),List.map_cons,List.sum_cons,
        Nat.add_assoc]

/-- A sum of numbers that have been assigned has been assigned. -/
theorem isSome_foldl_addFree {found : List (MemoryField×Option ℕ)}
    (h : ∀ reading∈found,reading.2.isSome) {total : Option ℕ} (htotal : total.isSome) :
    (found.foldl addFree total).isSome := by
  induction found generalizing total with
  | nil => exact htotal
  | cons reading found ih =>
    obtain ⟨hreading,hfound⟩ := List.forall_mem_cons.mp h
    obtain ⟨number,hnumber⟩ := Option.isSome_iff_exists.mp hreading
    obtain ⟨sum,rfl⟩ := Option.isSome_iff_exists.mp htotal
    refine ih hfound ?_
    rw [addFree,hnumber]
    split <;> rfl

end Memory

/-- The sum of the free memory and swap space in kilobytes. -/
def freeKilobytes (lines : List (Line MemoryField)) : ℕ :=
  (((lines.filterMap Line.reading).filter (·.1.free)).map Prod.snd).sum

/-- Every line of meminfo that has one of the labels sets its gauge, in bytes,
and the last gauge is the sum of what is free; for any content, everything that
is set has been assigned exactly when there is a number behind every label. -/
theorem memoryStats_spec :
    (∀ lines : List (Line MemoryField),
      (∀ line∈lines,line.Readable MemoryField.label 1023 memoryFields) →
      memoryStats (some (fileText MemoryField.label lines))=
        ((lines.filterMap Line.reading).map fun reading =>
          kilobytes reading.1.gauge (some reading.2))++
        [kilobytes "mem.totalFree".toList (some (freeKilobytes lines%size64))]) ∧
    ∀ text,(∀ setting∈memoryStats (some text),setting.value.isSome) ↔
      ∀ line∈bufferedLines text,∀ field,
        fieldOf MemoryField.label memoryFields line=some field →
          ∃ rest,cStr line=field.label++rest ∧ NumbersFrom isSpace 1 rest := by
  constructor
  · intro lines hlines
    have hfree := foldl_addFree (lines.filterMap Line.reading) 0
    rw [Nat.zero_mod,Nat.zero_add] at hfree
    have hfound := readings_fileText memoryLabels hlines
    rw [memoryStats_eq,hfound,hfree,List.map_map]
    rfl
  · intro text
    have hall : (∀ reading∈readings MemoryField.label 1023 memoryFields text,reading.2.isSome) ↔
        ∀ line∈bufferedLines text,∀ field,
          fieldOf MemoryField.label memoryFields line=some field →
            ∃ rest,cStr line=field.label++rest ∧ NumbersFrom isSpace 1 rest := by
      simp only [readings,List.mem_filterMap,Option.map_eq_some_iff,←scanLabelled_isSome_iff,
        bufferedLines]
      constructor
      · exact fun h line hline field hfield => h _ ⟨line,hline,field,hfield,rfl⟩
      · rintro h _ ⟨line,hline,field,hfield,rfl⟩
        exact h line hline field hfield
    rw [memoryStats_eq,←hall,List.forall_mem_append,List.forall_mem_map]
    simp only [memorySetting,kilobytes,Option.isSome_map,List.forall_mem_singleton]
    exact and_iff_left_of_imp fun hsome => isSome_foldl_addFree hsome rfl

/-- A file with a line that only ends in a label. -/
def shortMeminfo : List (Line MemoryField) :=
  [.entry ⟨"MemFree:".toList,"mem.freeReal".toList,true⟩ 3 16 " kB".toList,
    .other "SwapCached: 1 kB".toList,
    .entry ⟨"Cached:".toList,"mem.cached".toList,false⟩ 0 4 [],
    .entry ⟨"SwapFree:".toList,"mem.availSwap".toList,true⟩ 1 7 " kB".toList]

/-- The rule at that file, where 23 kilobytes are free. -/
theorem memoryStats_shortMeminfo :
    (memoryStats (some (fileText MemoryField.label shortMeminfo))).map (·.value)=
      [some 16384,some 4096,some 7168,some 23552] := by
  have hlines : ∀ line∈shortMeminfo,line.Readable MemoryField.label 1023 memoryFields := by
    simp only [shortMeminfo,List.forall_mem_cons]
    refine ⟨⟨by decide,by decide,noDigit_cons.mpr (by decide),by decide,by decide,by decide⟩,
      ⟨by decide,.inl ⟨by decide,by decide⟩⟩,
      ⟨by decide,by decide,noDigit_nil,by decide,by decide,by decide⟩,
      ⟨by decide,by decide,noDigit_cons.mpr (by decide),by decide,by decide,by decide⟩,
      List.forall_mem_nil _⟩
  rw [memoryStats_spec.1 shortMeminfo hlines]
  decide

section Vm

/-- Numbers with one space between them are scanned by as many conversions. -/
theorem scanMany_scanUnsigned_cons {count value : ℕ} {c : Char} {rest : Token}
    (hvalue : value < size64) (hc : isSpace c=true) (spaces : Token)
    (hspaces : ∀ c∈spaces,isSpace c=true) :
    (scanMany scanUnsigned (count+1) (openFile (spaces++(Nat.toDigits 10 value++c::rest)))).1=
      value::(scanMany scanUnsigned count (openFile (c::rest))).1 := by
  have hdigit : NoDigit (c::rest) := noDigit_cons.mpr (by
    cases hd : c.isDigit with
    | false => rfl
    | true => rw [isSpace_of_isDigit hd] at hc; cases hc)
  rw [scanMany,scanUnsigned_decimal hspaces (decimal_toDigits value) hvalue hdigit]
  rfl

/-- sys/fs/file-nr as the kernel writes it. -/
def fileNrText (alloc used max : ℕ) : Token :=
  Nat.toDigits 10 alloc++ '\t'::(Nat.toDigits 10 used++ '\t'::(Nat.toDigits 10 max++['\n']))

/-- An unsigned long has at most twenty digits. -/
theorem length_toDigits_le {value : ℕ} (h : value < size64) : (Nat.toDigits 10 value).length≤20 :=
  (Nat.length_toDigits_le_iff (by decide) (by decide)).mpr (h.trans (by decide))

/-- The numbers of sys/fs/file-nr are scanned as they were written. -/
theorem fileHandles_fileNrText {alloc used max : ℕ} (halloc : alloc < size64)
    (hused : used < size64) (hmax : max < size64) :
    fileHandles (fileNrText alloc used max)=
      [⟨"vmstat.fh.allocated".toList,∅,some (alloc : ℤ)⟩,
        ⟨"vmstat.fh.max".toList,∅,some (max : ℤ)⟩] := by
  have hdigits : ∀ (value : ℕ) c,c.isDigit=false → c∉Nat.toDigits 10 value := by
    intro value c hc hmem
    rw [(decimal_toDigits value).digits c hmem] at hc
    cases hc
  have hline : fgetsAll 2047 [] (fileNrText alloc used max)=[fileNrText alloc used max] := by
    have halloc := length_toDigits_le halloc
    have hused := length_toDigits_le hused
    have hmax := length_toDigits_le hmax
    have hbreak : '\n' ∉ Nat.toDigits 10 alloc++ '\t'::(Nat.toDigits 10 used++
        '\t'::Nat.toDigits 10 max) := by
      simp only [List.mem_append,List.mem_cons,not_or]
      exact ⟨hdigits _ _ (by decide),by decide,hdigits _ _ (by decide),by decide,
        hdigits _ _ (by decide)⟩
    have hshape : fileNrText alloc used max=
        (Nat.toDigits 10 alloc++ '\t'::(Nat.toDigits 10 used++ '\t'::Nat.toDigits 10 max))++
          ['\n'] := by simp [fileNrText]
    rw [hshape,fgetsAll_append hbreak [] [],fgetsAll,if_pos rfl,List.nil_append]
    simp only [List.length_append,List.length_cons,List.length_nil]
    omega
  have hnull : '\x00' ∉ fileNrText alloc used max := by
    simp only [fileNrText,List.mem_append,List.mem_cons,List.not_mem_nil,or_false,not_or]
    exact ⟨hdigits _ _ (by decide),by decide,hdigits _ _ (by decide),by decide,
      hdigits _ _ (by decide),by decide⟩
  have hscan : sscanfUnsigned [] 3 (fileNrText alloc used max)=[alloc,used,max] := by
    have htab : ∀ c∈['\t'],isSpace c=true := List.forall_mem_singleton.mpr (by decide)
    have hstarts : startsWith (fileNrText alloc used max) []=true :=
      (startsWith_iff (List.not_mem_nil)).mpr List.nil_prefix
    rw [sscanfUnsigned,if_pos hstarts,cStr,takeWhile_ne_of_not_mem hnull]
    refine (scanMany_scanUnsigned_cons halloc (c:= '\t') (by decide) []
      (List.forall_mem_nil _)).trans (congrArg (alloc::·) ?_)
    refine (scanMany_scanUnsigned_cons hused (c:= '\t') (by decide) _ htab).trans
      (congrArg (used::·) ?_)
    exact scanMany_scanUnsigned_cons hmax (c:= '\n') (by decide) _ htab
  rw [fileHandles,hline]
  dsimp only
  rw [hscan]
  rfl

/-- The meter of a key that the map has. -/
def present (stats : Stats) (field : VmField) : Option VmSetting :=
  (stats.lookup field.label).map fun value => ⟨field.name,field.tags,some value⟩

theorem setIfPresent_eq (stats : Stats) (field : VmField) :
    setIfPresent stats field=(present stats field).toList := by
  rw [setIfPresent,present]
  cases stats.lookup field.label <;> rfl

/-- What the four files hold is set: the numbers of the labelled lines of stat,
the keys of vmstat that there are, and the first and the last number of
file-nr. Without stat nothing is set; with stat, whatever it holds, a file-nr
that could not be opened is read. -/
theorem vmstats_spec {lines : List (Line VmField)}
    (hlines : ∀ line∈lines,line.Readable VmField.label 2047 vmFields) {stats : Stats}
    (hstats : ∀ entry∈stats.entries,Printable entry) {alloc used max : ℕ}
    (halloc : alloc < size64) (hused : used < size64) (hmax : max < size64) :
    vmstats (some (fileText VmField.label lines)) (some (print stats))
        (some (fileNrText alloc used max))=
      ⟨((lines.filterMap Line.reading).map fun reading =>
          ⟨reading.1.name,reading.1.tags,some (reading.2 : ℤ)⟩)++
        pagingFields.filterMap (present stats)++
        [⟨"vmstat.fh.allocated".toList,∅,some (alloc : ℤ)⟩,
          ⟨"vmstat.fh.max".toList,∅,some (max : ℤ)⟩],false⟩ ∧
    ∀ stat vmstat fileNr,
      ((vmstats stat vmstat fileNr).nullFile=true ↔ stat.isSome=true ∧ fileNr=none) ∧
      (stat=none → (vmstats stat vmstat fileNr).settings=[]) := by
  constructor
  · have hpaging : pagingFields.flatMap (setIfPresent (parseKvFromFile (some (print stats)) ∅))=
        pagingFields.filterMap (present stats) := by
      rw [List.filterMap_eq_flatMap_toList]
      refine congrArg (List.flatMap · pagingFields) (funext fun field => ?_)
      rw [setIfPresent_eq,present,present,lookup_parseKvFromFile_print hstats]
    have hread := readings_fileText vmLabels hlines
    rw [vmstats,hread,hpaging,fileHandles_fileNrText halloc hused hmax,List.map_map]
    rfl
  · intro stat vmstat fileNr
    cases stat with
    | none => exact ⟨by simp [vmstats],fun _ => rfl⟩
    | some text =>
      refine ⟨?_,fun h => by cases h⟩
      cases fileNr <;> simp [vmstats]

/-- A stat file with a line that is no entry, and with one. -/
def shortStat : List (Line VmField) :=
  [.other "cpu0 1 2".toList,.entry ⟨"processes".toList,"vmstat.procs.count".toList,∅⟩ 1 5 []]

/-- A vmstat with two of the four keys and one that is not read. -/
def pagingStats : Stats :=
  (((∅ : Stats).insert "nr_free_pages".toList 3).insert "pgpgin".toList 100).insert
    "pswpout".toList 7

theorem vmstats_shortStat :
    (vmstats (some (fileText VmField.label shortStat)) (some (print pagingStats))
      (some (fileNrText 3 0 9))).settings.map (fun setting => (setting.name,setting.value))=
        [("vmstat.procs.count".toList,some 5),("vmstat.paging".toList,some 100),
          ("vmstat.swapping".toList,some 7),("vmstat.fh.allocated".toList,some 3),
          ("vmstat.fh.max".toList,some 9)] := by
  have hlines : ∀ line∈shortStat,line.Readable VmField.label 2047 vmFields := by
    rw [shortStat,List.forall_mem_cons,List.forall_mem_singleton]
    exact ⟨⟨by decide,.inl ⟨by decide,by decide⟩⟩,by decide,by decide,noDigit_nil,by decide,
      by decide,by decide⟩
  have hstats : ∀ entry∈pagingStats.entries,Printable entry := by decide +kernel
  rw [(vmstats_spec hlines hstats (by decide : 3 < size64) (by decide : 0 < size64)
    (by decide : 9 < size64)).1]
  decide +kernel

end Vm

end AtlasAgent.ProcSystem
