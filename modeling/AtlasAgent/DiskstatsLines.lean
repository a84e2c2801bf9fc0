import AtlasAgent.DecimalText
import AtlasAgent.DiskStats
import AtlasAgent.IoLines
import AtlasAgent.SpacedText

/-!
# The two parsers of /proc/diskstats

Disk::get_disk_stats and FindDeviceNames split the lines of the same file in
their own ways and ask for different numbers of fields: fourteen at least, and
twenty exactly. The kernel has written fourteen, eighteen and twenty.
-/

namespace AtlasAgent.DiskstatsLines

open CGroupIo DecimalText IoLines NumberText ProcCpu SpacedText TextFields
open DiskStats (DiskIo)

/-- std::stoi in base ten. -/
def stoi (text : Token) : Except StdException ℤ :=
  match scanInteger text with
  | none => .error .invalidArgument
  | some (negative,magnitude) =>
    if signed negative magnitude< -2^31 ∨ 2^31 ≤ signed negative magnitude then .error .outOfRange
    else .ok (signed negative magnitude)

/-- absl::StrSplit by any of blank and tab with absl::SkipWhitespace. -/
def splitFields (line : Token) : List Token :=
  (line.splitOnP fun c => c= ' ' || c= '\t').filter fun piece => !piece.all isSpace

/-- One of the counters of a line. -/
def counter (fields : List Token) (index : ℕ) : UInt64 :=
  UInt64.ofNat (strtoul (fields.getD index []))

/-- The element made of a line, with its two numbers. -/
def diskIo (major minor : ℤ) (fields : List Token) : DiskIo where
  major := major
  minor := minor
  device := fields.getD 2 []
  readsCompleted := counter fields 3
  readsMerged := counter fields 4
  rsect := counter fields 5
  msReading := counter fields 6
  writesCompleted := counter fields 7
  writesMerged := counter fields 8
  wsect := counter fields 9
  msWriting := counter fields 10
  iosInProgress := counter fields 11
  msDoingIo := counter fields 12
  weightedMsDoingIo := counter fields 13

/-- The loop of Disk::get_disk_stats. -/
def diskStatsLoop : List Token → Except StdException (List DiskIo)
  | [] => .ok []
  | line::lines =>
    let fields := splitFields line
    if fields.length<14 then diskStatsLoop lines
    else do
      let major ← stoi (fields.getD 0 [])
      if major<0 then pure []
      else do
        let minor ← stoi (fields.getD 1 [])
        let rest ← diskStatsLoop lines
        pure (diskIo major minor fields::rest)

/-- Disk::get_disk_stats, from /proc/diskstats. An exception ends the process. -/
def getDiskStats (diskstats : Option Token) : Except StdException (List DiskIo) :=
  match diskstats with
  | none => .ok []
  | some text => diskStatsLoop (getLines text)

/-- An int in decimal digits. -/
def intText (value : ℤ) : Token :=
  if value<0 then '-'::Nat.toDigits 10 value.natAbs else Nat.toDigits 10 value.natAbs

/-- The numbers of a device as FindDeviceNames writes them. -/
def majorMinor (io : DiskIo) : Token := intText io.major++ ':'::intText io.minor

/-- FindDeviceNames has a name exactly for the devices that get_disk_stats
returns, and the same one. -/
def ParsersAgree (diskstats : Token) : Prop :=
  ∃ stats,getDiskStats (some diskstats)=.ok stats ∧
    ∀ key name,(findDeviceNames (some diskstats)).lookup key=some name ↔
      ∃ io∈stats,majorMinor io=key ∧ io.device=name

/-- A line as the kernel writes it: the fields, and how many blanks stand in
front of each beyond the one that separates it. -/
structure KernelLine where
  leading : ℕ
  major : ℕ
  minor : ℕ×ℕ
  name : ℕ×Token
  numbers : List (ℕ×ℕ)

namespace KernelLine

/-- Numbers and name of the device, and the statistics. -/
structure WellFormed (line : KernelLine) : Prop where
  majorFits : line.major<2^31
  minorFits : line.minor.2<2^31
  nameVisible : Visible line.name.2
  statistics : 11≤line.numbers.length

/-- How many fields the line has. -/
def fieldCount (line : KernelLine) : ℕ := 3+line.numbers.length

/-- The fields after the first, with their blanks. -/
def spacedFields (line : KernelLine) : List (ℕ×Token) :=
  (line.minor.1,Nat.toDigits 10 line.minor.2)::line.name::
    line.numbers.map fun (more,number) => (more,Nat.toDigits 10 number)

/-- The text of the line. -/
def text (line : KernelLine) : Token :=
  List.replicate line.leading ' '++Nat.toDigits 10 line.major++spread line.spacedFields

/-- The fields of the line. -/
def fields (line : KernelLine) : List Token :=
  Nat.toDigits 10 line.major::line.spacedFields.map Prod.snd

/-- The numbers of its device. -/
def device (line : KernelLine) : ℕ×ℕ := (line.major,line.minor.2)

end KernelLine

theorem visible_fields {line : KernelLine} (h : line.WellFormed) :
    ∀ field∈line.fields,Visible field := by
  intro field hfield
  simp only [KernelLine.fields,KernelLine.spacedFields,List.map_cons,List.map_map,List.mem_cons,
    List.mem_map,Function.comp_apply] at hfield
  rcases hfield with rfl|rfl|rfl|⟨pair,-,rfl⟩
  · exact visible_toDigits _
  · exact visible_toDigits _
  · exact h.nameVisible
  · exact visible_toDigits _

/-- Both splits give the fields of a line. -/
theorem split_text {line : KernelLine} (h : line.WellFormed) :
    splitFields line.text=line.fields ∧ strSplit ' ' line.text=line.fields := by
  have hvisible := visible_fields h
  constructor
  · refine filter_splitOnP_spread (by decide) (by decide) (fun field hfield => ?_) line.leading
    have hv := hvisible field hfield
    constructor
    · obtain ⟨c,tail,rfl⟩ := List.exists_cons_of_ne_nil hv.nonempty
      simp [hv.noSpace c List.mem_cons_self]
    · intro c hc
      have hspace := hv.noSpace c hc
      simp only [Bool.or_eq_false_iff,decide_eq_false_iff_not]
      constructor <;> rintro rfl <;> cases hspace
  · rw [strSplit,List.splitOn_eq_splitOnP]
    refine filter_splitOnP_spread (by decide) (by decide) (fun field hfield => ?_) line.leading
    have hv := hvisible field hfield
    refine ⟨decide_eq_true hv.nonempty,fun c hc => ?_⟩
    have hspace := hv.noSpace c hc
    rw [beq_eq_false_iff_ne]
    rintro rfl
    cases hspace

/-- A line holds no line break. -/
theorem not_mem_text {line : KernelLine} (h : line.WellFormed) : '\n' ∉ line.text := by
  have hvisible := visible_fields h
  have hfirst := (hvisible _ List.mem_cons_self).not_mem (c:= '\n') rfl
  have hrest : '\n' ∉ spread line.spacedFields := not_mem_spread (by decide)
    fun field hfield => (hvisible field (List.mem_cons_of_mem _ hfield)).not_mem rfl
  rw [KernelLine.text]
  simp only [List.mem_append,List.mem_replicate,not_or,not_and]
  exact ⟨⟨fun _ => by decide,hfirst⟩,hrest⟩

theorem getLines_texts {lines : List KernelLine} (h : ∀ line∈lines,line.WellFormed) :
    getLines (unlines (lines.map KernelLine.text))=lines.map KernelLine.text := by
  refine getLines_unlines fun text htext => ?_
  obtain ⟨line,hline,rfl⟩ := List.mem_map.mp htext
  exact not_mem_text (h line hline)

/-- std::stoi converts the numbers of a device. -/
theorem stoi_toDigits {n : ℕ} (h : n<2^31) : stoi (Nat.toDigits 10 n)=.ok (n : ℤ) := by
  have hscan := (decimal_toDigits n).scanInteger_append noDigit_nil
  rw [List.append_nil] at hscan
  rw [stoi,hscan]
  dsimp only
  have hvalue : signed false n=(n : ℤ) := rfl
  have hfits : ¬(signed false n< -2^31 ∨ 2^31 ≤ signed false n) := by
    rw [hvalue]
    omega
  rw [if_neg hfits,hvalue]

/-- The element get_disk_stats makes of a line. -/
def KernelLine.io (line : KernelLine) : DiskIo := diskIo line.major line.minor.2 line.fields

/-- The key FindDeviceNames gives to a line. -/
def KernelLine.key (line : KernelLine) : Token :=
  Nat.toDigits 10 line.major++ ':'::Nat.toDigits 10 line.minor.2

theorem length_fields (line : KernelLine) : line.fields.length=line.fieldCount := by
  simp only [KernelLine.fields,KernelLine.spacedFields,KernelLine.fieldCount,List.map_cons,
    List.length_cons,List.length_map]
  omega

/-- The loop takes every line of the kernel's format. -/
theorem diskStatsLoop_kernel {lines : List KernelLine} (h : ∀ line∈lines,line.WellFormed) :
    diskStatsLoop (lines.map KernelLine.text)=.ok (lines.map KernelLine.io) := by
  induction lines with
  | nil => rfl
  | cons line lines ih =>
    obtain ⟨hline,hrest⟩ := List.forall_mem_cons.mp h
    have hcount := length_fields line
    have hstatistics := hline.statistics
    rw [KernelLine.fieldCount] at hcount
    rw [List.map_cons,diskStatsLoop,(split_text hline).1,if_neg (by omega)]
    have hmajor : stoi (line.fields.getD 0 [])=.ok (line.major : ℤ) :=
      stoi_toDigits hline.majorFits
    have hminor : stoi (line.fields.getD 1 [])=.ok (line.minor.2 : ℤ) :=
      stoi_toDigits hline.minorFits
    rw [hmajor]
    dsimp only [bind,Except.bind]
    rw [if_neg (by omega),hminor,ih hrest]
    rfl

/-- The numbers of a device are written alike on both sides. -/
theorem majorMinor_io (line : KernelLine) : majorMinor line.io=line.key := by
  have htext : ∀ n : ℕ,intText n=Nat.toDigits 10 n := by
    intro n
    rw [intText,if_neg (by omega),Int.natAbs_natCast]
  rw [majorMinor,KernelLine.key]
  exact congrArg₂ (·++ ':'::·) (htext _) (htext _)

/-- Different devices have different keys. -/
theorem device_of_key {line other : KernelLine} (h : line.key=other.key) :
    line.device=other.device := by
  have hmajors := congrArg (List.takeWhile Char.isDigit) h
  have hrests := congrArg (List.dropWhile Char.isDigit) h
  have hcolon : ∀ rest : Token,NoDigit (':'::rest) := fun rest => noDigit_cons.mpr rfl
  rw [KernelLine.key,KernelLine.key,(decimal_toDigits _).takeWhile_append (hcolon _),
    (decimal_toDigits _).takeWhile_append (hcolon _)] at hmajors
  rw [KernelLine.key,KernelLine.key,(decimal_toDigits _).dropWhile_append (hcolon _),
    (decimal_toDigits _).dropWhile_append (hcolon _)] at hrests
  have hvalue : ∀ m n : ℕ,Nat.toDigits 10 m=Nat.toDigits 10 n → m=n := by
    intro m n heq
    rw [←(decimal_toDigits m).value_eq,heq,(decimal_toDigits n).value_eq]
  rw [KernelLine.device,KernelLine.device,hvalue _ _ hmajors,
    hvalue _ _ (List.cons.inj hrests).2]

/-- What a line is to FindDeviceNames. -/
def deviceEntry (fields : List Token) : Option (Option (Token×Token)) :=
  if fields.length=20 then
    some (some (fields.getD 0 []++[':']++fields.getD 1 [],fields.getD 2 []))
  else some none

theorem findDeviceNames_eq_collect (diskstats : Option Token) :
    findDeviceNames diskstats=collect deviceEntry ∅ (readLinesFields diskstats) := by
  have hloop : ∀ (lines : List (List Token)) (map : AList fun _ : Token => Token),
      lines.foldl (fun deviceMap fields =>
        if fields.length=20 then
          emplace deviceMap (fields.getD 0 []++[':']++fields.getD 1 []) (fields.getD 2 [])
        else deviceMap) map=collect deviceEntry map lines := by
    intro lines
    induction lines with
    | nil => exact fun map => rfl
    | cons fields lines ih =>
      intro map
      rw [List.foldl_cons,collect,deviceEntry]
      split
      · exact ih _
      · exact ih _
  exact hloop _ _

/-- The entry of a line, if it has twenty fields. -/
theorem deviceEntry_fields (line : KernelLine) :
    deviceEntry line.fields=
      some (if line.fieldCount=20 then some (line.key,line.name.2) else none) := by
  have hkey : line.fields.getD 0 []++[':']++line.fields.getD 1 []=line.key := by
    rw [KernelLine.key,List.append_assoc]
    rfl
  rw [deviceEntry,length_fields,hkey]
  split <;> rfl

/-- Which name a line gives to a key. -/
theorem entryFor_fields (line : KernelLine) (key name : Token) :
    entryFor deviceEntry key line.fields=some name ↔
      line.fieldCount=20 ∧ line.key=key ∧ line.name.2=name := by
  rw [entryFor_eq_some_iff,deviceEntry_fields]
  by_cases hcount : line.fieldCount=20 <;> simp [hcount]

/-- Lines of one key are the same line. -/
theorem line_of_key {lines : List KernelLine} (h : (lines.map KernelLine.device).Nodup)
    {line other : KernelLine} (hline : line∈lines) (hother : other∈lines)
    (hkey : line.key=other.key) : line=other :=
  List.inj_on_of_nodup_map h hline hother (device_of_key hkey)

/-- FindDeviceNames has the names of the lines with exactly twenty fields. -/
theorem lookup_findDeviceNames {lines : List KernelLine} (h : ∀ line∈lines,line.WellFormed)
    (hdistinct : (lines.map KernelLine.device).Nodup) (key name : Token) :
    (findDeviceNames (some (unlines (lines.map KernelLine.text)))).lookup key=some name ↔
      ∃ line∈lines,line.fieldCount=20 ∧ line.key=key ∧ line.name.2=name := by
  have hfields : readLinesFields (some (unlines (lines.map KernelLine.text)))=
      lines.map KernelLine.fields := by
    rw [readLinesFields,getLines_texts h,List.map_map]
    exact List.map_congr_left fun line hline => (split_text (h line hline)).2
  have hgood : ∀ fields∈lines.map KernelLine.fields,deviceEntry fields≠none := by
    intro fields _
    rw [deviceEntry]
    split <;> exact Option.some_ne_none _
  rw [findDeviceNames_eq_collect,hfields,lookup_collect_empty deviceEntry hgood,
    List.findSome?_map]
  constructor
  · intro hfound
    obtain ⟨line,hline,hvalue⟩ := List.exists_of_findSome?_eq_some hfound
    exact ⟨line,hline,(entryFor_fields line key name).mp hvalue⟩
  · rintro ⟨line,hline,hcount,hkey,hname⟩
    cases hfound : lines.findSome? (entryFor deviceEntry key∘KernelLine.fields) with
    | none =>
      have hnone := List.findSome?_eq_none_iff.mp hfound line hline
      rw [Function.comp_apply,(entryFor_fields line key name).mpr ⟨hcount,hkey,hname⟩] at hnone
      cases hnone
    | some found =>
      obtain ⟨other,hother,hvalue⟩ := List.exists_of_findSome?_eq_some hfound
      obtain ⟨-,hkey',hname'⟩ := (entryFor_fields other key found).mp hvalue
      rw [←hname,line_of_key hdistinct hline hother (hkey.trans hkey'.symm),hname']

/-- What get_disk_stats has for a key and a name, in terms of the lines. -/
theorem exists_io_iff {lines : List KernelLine} {key name : Token} :
    (∃ io∈lines.map KernelLine.io,majorMinor io=key ∧ io.device=name) ↔
      ∃ line∈lines,line.key=key ∧ line.name.2=name := by
  constructor
  · rintro ⟨io,hmem,hkey,hname⟩
    obtain ⟨line,hline,rfl⟩ := List.mem_map.mp hmem
    exact ⟨line,hline,(majorMinor_io line).symm.trans hkey,hname⟩
  · rintro ⟨line,hline,hkey,hname⟩
    exact ⟨line.io,List.mem_map_of_mem hline,(majorMinor_io line).trans hkey,hname⟩

/-- The parsers agree on the kernel's format exactly when every line has
twenty fields. -/
theorem parsersAgree_iff {lines : List KernelLine} (h : ∀ line∈lines,line.WellFormed)
    (hdistinct : (lines.map KernelLine.device).Nodup) :
    ParsersAgree (unlines (lines.map KernelLine.text)) ↔ ∀ line∈lines,line.fieldCount=20 := by
  have hstats : getDiskStats (some (unlines (lines.map KernelLine.text)))=
      .ok (lines.map KernelLine.io) := by
    rw [getDiskStats,getLines_texts h,diskStatsLoop_kernel h]
  rw [ParsersAgree,hstats]
  simp only [Except.ok.injEq,exists_eq_left',exists_io_iff,lookup_findDeviceNames h hdistinct]
  constructor
  · intro hagree line hline
    obtain ⟨other,hother,hcount,hkey,-⟩ :=
      (hagree line.key line.name.2).mpr ⟨line,hline,rfl,rfl⟩
    rwa [line_of_key hdistinct hother hline hkey] at hcount
  · intro hcounts key name
    constructor
    · rintro ⟨line,hline,-,hkey,hname⟩
      exact ⟨line,hline,hkey,hname⟩
    · rintro ⟨line,hline,hkey,hname⟩
      exact ⟨line,hline,hcounts line hline,hkey,hname⟩

/-- A line of a device with these statistics. -/
def diskLine (major minor : ℕ) (name : String) (numbers : List ℕ) : KernelLine :=
  ⟨3,major,(6,minor),(0,name.toList),numbers.map (0,·)⟩

/-- A disk, a partition of it and another disk, with seventeen statistics each. -/
def busyDisks : List KernelLine :=
  [diskLine 8 0 "sda" [1024,3,8192,77,512,9,4096,61,0,120,138,1,0,8,2,40,5],
    diskLine 8 1 "sda1" [1000,3,8000,70,500,9,4000,60,1,110,130,1,0,8,2,0,0],
    diskLine 259 0 "nvme0n1" [5,0,40,2,18446744073709551615,0,7,1,0,3,3,0,0,0,0,1,1]]

/-- With seventeen statistics after the name the parsers agree on every disk. -/
theorem parsersAgree_seventeen_statistics :
    ParsersAgree (unlines (busyDisks.map KernelLine.text)) ∧
      (findDeviceNames (some (unlines (busyDisks.map KernelLine.text)))).lookup "259:0".toList=
        some "nvme0n1".toList := by
  have hchecked : ∀ line∈busyDisks,(line.major<2^31 ∧ line.minor.2<2^31) ∧
      Visible line.name.2 ∧ 11≤line.numbers.length := by decide
  have hwell : ∀ line∈busyDisks,line.WellFormed := by
    intro line hline
    obtain ⟨⟨hmajor,hminor⟩,hname,hnumbers⟩ := hchecked line hline
    exact ⟨hmajor,hminor,hname,hnumbers⟩
  exact ⟨(parsersAgree_iff hwell (by decide)).mpr (by decide),by decide +kernel⟩

/-- A line of a disk with the given number of statistics, all zero. -/
def idleDisk (statistics : ℕ) : KernelLine :=
  ⟨3,8,(6,0),(0,"sda".toList),List.replicate statistics (0,0)⟩

theorem idleDisk_wellFormed {statistics : ℕ} (h : 11 ≤ statistics) :
    (idleDisk statistics).WellFormed where
  majorFits := show 8<2^31 by decide
  minorFits := show 0<2^31 by decide
  nameVisible := show Visible "sda".toList from ⟨by decide,noSpace_of_all (by decide)⟩
  statistics := by simpa [idleDisk] using h

/-- With eleven they do not: such a disk has statistics but no name. -/
theorem parsersDisagree_eleven_statistics :
    (idleDisk 11).WellFormed ∧ unlines ([idleDisk 11].map KernelLine.text)=
        "   8       0 sda 0 0 0 0 0 0 0 0 0 0 0\n".toList ∧
      ¬ParsersAgree "   8       0 sda 0 0 0 0 0 0 0 0 0 0 0\n".toList := by
  refine ⟨idleDisk_wellFormed (by decide),by decide,?_⟩
  rintro ⟨stats,hstats,hagree⟩
  have hparsed : (getDiskStats (some "   8       0 sda 0 0 0 0 0 0 0 0 0 0 0\n".toList)).toOption=
      some [⟨8,0,"sda".toList,0,0,0,0,0,0,0,0,0,0,0⟩] := by decide +kernel
  rw [hstats] at hparsed
  have hname := (hagree "8:0".toList "sda".toList).mpr
    ⟨_,by rw [Option.some.inj hparsed]; exact List.mem_singleton_self _,by decide,rfl⟩
  have hnone : (findDeviceNames (some
      "   8       0 sda 0 0 0 0 0 0 0 0 0 0 0\n".toList)).lookup "8:0".toList=none := by
    decide +kernel
  rw [hnone] at hname
  cases hname

end AtlasAgent.DiskstatsLines
