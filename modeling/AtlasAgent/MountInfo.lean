import AtlasAgent.MountPoints
import AtlasAgent.ScanfText
import AtlasAgent.StreamText
import AtlasAgent.WhileLoop
import Mathlib.Data.List.Forall2

/-!
# Disk::get_mount_points

mountinfo is read from a stream, field by field. Of a line only the fields of
interest are read and the others are ignored up to a dash and up to the line
break, so that every pass of the loop begins at a line. Mount points of file
systems without a device are left out.
-/

namespace AtlasAgent.MountInfo

open DecimalText MountPoints NumberText ScanfText SpacedText StreamText TextFields WhileLoop

/-- Characters that fgets reads into the array line. -/
def lineRoom : ℕ := 2047

/-- PREFIX_LEN. -/
def prefixLen : ℕ := 6

/-- The file system that a line of proc/filesystems adds to the set. -/
def nodevFilesystem (buffer : Token) : Option Token :=
  let line := cStr buffer
  if line.length<prefixLen+1 then none
  else if MountPoints.startsWith line "nodev\t".toList then
    -- without the line break
    some ((line.drop prefixLen).take (line.length-prefixLen-1))
  else none

/-- get_nodev_filesystems. -/
def getNodevFilesystems : Option Token → List Token
  | none => []
  | some text => (fgetsAll lineRoom [] text).filterMap nodevFilesystem

/-- The file systems that are not wanted, in a container flavor or in another one. -/
def unwantedFilesystems (container : Bool) (filesystems : Option Token) : List Token :=
  let unwanted := (getNodevFilesystems filesystems).filter (· ≠ "tmpfs".toList)
  if container=true then unwanted.filter (· ≠ "overlay".toList) else unwanted

/-- One pass of the loop in get_mount_points. A mount point is kept only if all
of its numbers have been read. -/
def mountPass (unwanted : List Token) (s : InputStream×List MountPoint) :
    (InputStream×List MountPoint)⊕List MountPoint :=
  let (stream,res) := s
  if stream.fail=true then .inr res
  else
    let (_,stream) := readUnsigned stream
    if stream.eof=true then .inr res
    else
      let (_,stream) := readUnsigned stream
      let (deviceMajor,stream) := readUnsigned stream
      let (_,stream) := readChar stream
      let (deviceMinor,stream) := readUnsigned stream
      let (root,stream) := readWord stream
      if root=some "/".toList then
        let (mountPoint,stream) := readWord stream
        let stream := ignoreUntil '-' stream
        let (fsType,stream) := readWord stream
        let (device,stream) := readWord stream
        let stream := ignoreUntil '\n' stream
        let mp : MountPoint := ⟨deviceMajor.getD 0,deviceMinor.getD 0,mountPoint.getD [],
          device.getD [],fsType.getD []⟩
        .inl (stream,if mp.fsType∈unwanted then res else res++[mp])
      else .inl (ignoreUntil '\n' stream,res)

/-- Disk::get_mount_points ends with the given mount points. -/
def GetMountPoints (container : Bool) (filesystems mountinfo : Option Token)
    (result : List MountPoint) : Prop :=
  match mountinfo with
  | none => result=[]
  | some text =>
    Ends (mountPass (unwantedFilesystems container filesystems)) (openStream text,[]) result

/-- A line of mountinfo. -/
structure MountLine where
  mountId : UInt32
  parentId : UInt32
  deviceMajor : UInt32
  deviceMinor : UInt32
  root : Token
  mountPoint : Token
  options : Token
  optional : List Token
  fsType : Token
  source : Token
  superOptions : Token

/-- The decimal text of a number. -/
def decimal (n : UInt32) : Token := Nat.toDigits 10 n.toNat

namespace MountLine

/-- What stands in front of the dash, after the mount point. -/
def middle (line : MountLine) : Token :=
  ' '::line.options++line.optional.flatMap (' '::·)++[' ']

/-- The text of a line, without its line break. -/
def text (line : MountLine) : Token :=
  decimal line.mountId++ ' '::decimal line.parentId++
    ' '::decimal line.deviceMajor++ ':'::decimal line.deviceMinor++
    ' '::line.root++ ' '::line.mountPoint++line.middle++
    '-':: ' '::line.fsType++ ' '::line.source++ ' '::line.superOptions

/-- The mount point that the line describes. -/
def entry (line : MountLine) : MountPoint :=
  ⟨line.deviceMajor,line.deviceMinor,line.mountPoint,line.source,line.fsType⟩

/-- A line as proc(5) has it: fields that are not empty, with single blanks
between them, and a dash that stands alone. -/
structure Formatted (line : MountLine) : Prop where
  fields : ∀ field∈[line.root,line.mountPoint,line.options,line.fsType,line.source,
    line.superOptions]++line.optional,field≠[] ∧ ' ' ∉ field ∧ '\n' ∉ field
  noDash : ∀ field∈line.options::line.optional,'-' ∉ field

/-- The fields that are read contain no space of any kind: the root of every
line, and three more on a line with the root /. -/
structure Unspaced (line : MountLine) : Prop where
  root : ∀ c∈line.root,isSpace c=false
  kept : line.root="/".toList →
    ∀ field∈[line.mountPoint,line.fsType,line.source],∀ c∈field,isSpace c=false

/-- Whether the mount point is listed: it is mounted at its root, and its file
system has a device or is one of those that are wanted without. -/
def Listed (container : Bool) (filesystems : List Token) (line : MountLine) : Prop :=
  line.root="/".toList ∧ (line.fsType="tmpfs".toList ∨
    container=true ∧ line.fsType="overlay".toList ∨
    "nodev\t".toList++line.fsType∉filesystems)

instance (container : Bool) (filesystems : List Token) (line : MountLine) :
    Decidable (line.Listed container filesystems) :=
  inferInstanceAs (Decidable (_ ∧ _))

end MountLine

/-- mountinfo: lines with line breaks between them, and perhaps one at the end. -/
def mountinfo (lines : List MountLine) (final : Bool) : Token :=
  ['\n'].intercalate (lines.map MountLine.text)++if final=true then ['\n'] else []

theorem cStr_noNull {line : Token} (h : '\x00' ∉ line) : cStr line=line :=
  takeWhile_ne_of_not_mem h

/-- A line that does not begin with nodev and a tab adds nothing, wherever a
null character ends it. -/
theorem nodevFilesystem_eq_none {line : Token} (h : ¬"nodev\t".toList <+: line) :
    nodevFilesystem (line++['\n'])=none := by
  have hcut : cStr (line++['\n']) <+: line++['\n'] := List.takeWhile_prefix _
  have hstarts : ¬MountPoints.startsWith (cStr (line++['\n'])) "nodev\t".toList=true := by
    rw [MountPoints.startsWith,List.isPrefixOf_iff_prefix]
    intro hbegins
    have hwhole := (hbegins.trans (List.takeWhile_prefix _)).trans hcut
    rw [List.prefix_concat_iff] at hwhole
    rcases hwhole with heq|hwhole
    · have hmem : '\n' ∈ "nodev\t".toList := by simp [heq]
      exact absurd hmem (by decide)
    · exact h hwhole
  rw [nodevFilesystem,if_neg hstarts,ite_self]

/-- A line adds the file system that follows nodev and the tab. -/
theorem nodevFilesystem_eq_some_iff {line : Token} (hline : '\n' ∉ line)
    (hnull : "nodev\t".toList <+: line → '\x00' ∉ line) (fs : Token) :
    nodevFilesystem (line++['\n'])=some fs ↔ line="nodev\t".toList++fs := by
  by_cases hbegins : "nodev\t".toList <+: line
  case neg =>
    rw [nodevFilesystem_eq_none hbegins]
    refine iff_of_false nofun fun heq => hbegins ?_
    rw [heq]
    exact List.prefix_append _ _
  have hbuffer : '\x00' ∉ line++['\n'] := by
    rw [List.mem_append,not_or]
    exact ⟨hnull hbegins,by decide⟩
  have hwithBreak : "nodev\t".toList <+: line++['\n'] ↔ "nodev\t".toList <+: line := by
    rw [List.prefix_concat_iff]
    refine or_iff_right fun h => ?_
    have hmem : '\n' ∈ "nodev\t".toList := by simp [h]
    exact absurd hmem (by decide)
  have hstarts : MountPoints.startsWith (line++['\n']) "nodev\t".toList=true ↔
      "nodev\t".toList <+: line := by
    rw [MountPoints.startsWith,cStr_noNull hbuffer,List.isPrefixOf_iff_prefix,hwithBreak]
  have hlength : (line++['\n']).length=line.length+1 := by simp
  have hfs : ∀ fs' : Token,(("nodev\t".toList++fs'++['\n']).drop prefixLen).take
      (("nodev\t".toList++fs').length+1-prefixLen-1)=fs' := by
    intro fs'
    have hbeginsLen : "nodev\t".toList.length=prefixLen := by decide
    have hcount : prefixLen+fs'.length+1-prefixLen-1=fs'.length := by omega
    rw [List.append_assoc,List.drop_left' hbeginsLen,List.length_append,hbeginsLen,hcount,
      List.take_left]
  rw [nodevFilesystem,cStr_noNull hbuffer,hlength]
  constructor
  · intro h
    split at h
    · cases h
    · split at h
      · next hstart =>
        obtain ⟨fs',rfl⟩ := hstarts.mp hstart
        rw [hfs] at h
        rw [Option.some.inj h]
      · cases h
  · rintro rfl
    have hlong : ¬("nodev\t".toList++fs).length+1<prefixLen+1 := by
      rw [List.length_append]
      exact not_lt.mpr (Nat.add_le_add_right (Nat.le_add_right 6 _) 1)
    rw [if_neg hlong,if_pos (hstarts.mpr ⟨fs,rfl⟩),hfs]

/-- The unwanted file systems are those that the file lists as nodev, but for
those that are wanted. -/
theorem mem_unwantedFilesystems_iff (container : Bool) {filesystems : List Token}
    (h : ∀ line∈filesystems,'\n' ∉ line ∧ ("nodev\t".toList <+: line → '\x00' ∉ line) ∧
      line.length<lineRoom) (fs : Token) :
    fs∈unwantedFilesystems container (some (unlines filesystems)) ↔
      ¬(fs="tmpfs".toList ∨ container=true ∧ fs="overlay".toList ∨
        "nodev\t".toList++fs∉filesystems) := by
  have hnodev : fs∈getNodevFilesystems (some (unlines filesystems)) ↔
      "nodev\t".toList++fs∈filesystems := by
    have hfgets := fgetsAll_unlines fun line hline => ⟨(h line hline).1,(h line hline).2.2⟩
    rw [getNodevFilesystems,hfgets,List.filterMap_map,List.mem_filterMap]
    constructor
    · rintro ⟨line,hline,hfs⟩
      obtain ⟨hbreak,hnull,-⟩ := h line hline
      rwa [←(nodevFilesystem_eq_some_iff hbreak hnull fs).mp hfs]
    · intro hline
      obtain ⟨hbreak,hnull,-⟩ := h _ hline
      exact ⟨_,hline,(nodevFilesystem_eq_some_iff hbreak hnull fs).mpr rfl⟩
  have hfilter : fs∈(getNodevFilesystems (some (unlines filesystems))).filter
      (· ≠ "tmpfs".toList) ↔ "nodev\t".toList++fs∈filesystems ∧ fs≠"tmpfs".toList := by
    rw [List.mem_filter,hnodev,decide_eq_true_eq]
  rw [unwantedFilesystems,not_or,not_or,not_not]
  cases container with
  | false =>
    rw [if_neg Bool.false_ne_true,hfilter]
    exact ⟨fun ⟨hlisted,htmpfs⟩ => ⟨htmpfs,fun h => Bool.false_ne_true h.1,hlisted⟩,
      fun ⟨htmpfs,_,hlisted⟩ => ⟨hlisted,htmpfs⟩⟩
  | true =>
    rw [if_pos rfl,List.mem_filter,hfilter,decide_eq_true_eq]
    exact ⟨fun ⟨⟨hlisted,htmpfs⟩,hoverlay⟩ => ⟨htmpfs,fun h => hoverlay h.2,hlisted⟩,
      fun ⟨htmpfs,hoverlay,hlisted⟩ => ⟨⟨hlisted,htmpfs⟩,fun h => hoverlay ⟨rfl,h⟩⟩⟩

/-- A number of a line is read up to the character after it. -/
theorem readUnsigned_number {spaces : Token} (hspaces : ∀ c∈spaces,isSpace c=true) (n : UInt32)
    {c : Char} (hc : c.isDigit=false) (rest : Token) :
    readUnsigned ⟨spaces++(decimal n++c::rest),false,false⟩=(some n,⟨c::rest,false,false⟩) := by
  have hread := readUnsigned_decimal hspaces (decimal_toDigits n.toNat) n.toNat_lt (c::rest)
    (noDigit_cons.mpr hc)
  rw [UInt32.ofNat_toNat] at hread
  exact hread

/-- A field of a line is read up to the blank after it. -/
theorem readWord_field {field : Token} (h : Visible field) (rest : Token) :
    readWord ⟨' '::(field++ ' '::rest),false,false⟩=(some field,⟨' '::rest,false,false⟩) := by
  have hblank : ∀ c∈[' '],isSpace c=true := List.forall_mem_singleton.mpr (by decide)
  exact readWord_visible hblank h (' '::rest) (by rintro c ⟨rfl⟩; decide)

section Line

variable {line : MountLine}

/-- No dash stands in front of the one that stands alone. -/
theorem MountLine.Formatted.dash_not_mem_middle (h : line.Formatted) : '-' ∉ line.middle := by
  obtain ⟨hoptions,hoptional⟩ := List.forall_mem_cons.mp h.noDash
  rw [MountLine.middle]
  simp only [List.mem_append,List.mem_cons,List.mem_flatMap,List.not_mem_nil,not_or,not_exists,
    not_and,or_false]
  exact ⟨⟨⟨by decide,hoptions⟩,fun field hfield => ⟨by decide,hoptional field hfield⟩⟩,by decide⟩

/-- What follows the root has no line break. -/
theorem MountLine.Formatted.break_not_mem (h : line.Formatted) :
    '\n' ∉ ' '::line.mountPoint++line.middle++
      '-':: ' '::line.fsType++ ' '::line.source++ ' '::line.superOptions := by
  have hfield : ∀ field∈[line.root,line.mountPoint,line.options,line.fsType,line.source,
      line.superOptions]++line.optional,'\n' ∉ field := fun field hmem => (h.fields field hmem).2.2
  have hoptional : ∀ field∈line.optional,'\n' ∉ field := fun field hmem =>
    hfield field (List.mem_append_right _ hmem)
  have hmount : '\n' ∉ line.mountPoint := hfield _ (by simp)
  have hoptions : '\n' ∉ line.options := hfield _ (by simp)
  have hfsType : '\n' ∉ line.fsType := hfield _ (by simp)
  have hsource : '\n' ∉ line.source := hfield _ (by simp)
  have hsuper : '\n' ∉ line.superOptions := hfield _ (by simp)
  simpa [MountLine.middle,hmount,hoptions,hfsType,hsource,hsuper] using hoptional

/-- The root is a word, which every pass reads. -/
theorem MountLine.Formatted.visibleRoot (h : line.Formatted) (hunspaced : line.Unspaced) :
    Visible line.root :=
  ⟨(h.fields line.root (by simp)).1,hunspaced.root⟩

/-- On a line that is kept three more fields are words. -/
theorem MountLine.Formatted.visible (h : line.Formatted) (hunspaced : line.Unspaced)
    (hroot : line.root="/".toList) :
    ∀ field∈[line.mountPoint,line.fsType,line.source],Visible field := by
  intro field hfield
  refine ⟨(h.fields field ?_).1,hunspaced.kept hroot field hfield⟩
  simp only [List.mem_cons,List.not_mem_nil,or_false] at hfield
  simp only [List.mem_append,List.mem_cons]
  tauto

/-- A line up to its root, which every pass reads. -/
theorem MountLine.text_append (line : MountLine) (rest : Token) :
    line.text++rest=decimal line.mountId++ ' '::(decimal line.parentId++
      ' '::(decimal line.deviceMajor++ ':'::(decimal line.deviceMinor++ ' '::(line.root++
        ' '::(line.mountPoint++line.middle++
          '-':: ' '::line.fsType++ ' '::line.source++ ' '::line.superOptions++rest))))) := by
  simp only [MountLine.text,List.append_assoc,List.cons_append]

/-- What follows the root, which a pass for a kept root reads word by word. -/
theorem MountLine.afterRoot_append (line : MountLine) (rest : Token) :
    ' '::(line.mountPoint++line.middle++
        '-':: ' '::line.fsType++ ' '::line.source++ ' '::line.superOptions++rest)=
      ' '::(line.mountPoint++ ' '::(line.middle.tail++
        '-'::(' '::(line.fsType++ ' '::(line.source++(' '::line.superOptions++rest)))))) := by
  simp only [MountLine.middle,List.append_assoc,List.cons_append,List.tail_cons]

/-- The first ignore stops behind the dash. -/
theorem MountLine.Formatted.ignoreUntil_dash (h : line.Formatted) (after : Token) :
    ignoreUntil '-' ⟨' '::(line.middle.tail++ '-'::after),false,false⟩=⟨after,false,false⟩ :=
  (ignoreUntil_append h.dash_not_mem_middle ('-'::after)).trans (ignoreUntil_cons '-' after)

/-- What is left of a pass after a root that is kept. -/
def keptMount (unwanted : List Token) (deviceMajor deviceMinor : UInt32) (stream : InputStream)
    (res : List MountPoint) : InputStream×List MountPoint :=
  let (mountPoint,stream) := readWord stream
  let stream := ignoreUntil '-' stream
  let (fsType,stream) := readWord stream
  let (device,stream) := readWord stream
  let mp : MountPoint := ⟨deviceMajor,deviceMinor,mountPoint.getD [],device.getD [],fsType.getD []⟩
  (ignoreUntil '\n' stream,if mp.fsType∈unwanted then res else res++[mp])

/-- One pass of the loop reads a line up to its root, and the rest of it only
if the root is kept. -/
theorem mountPass_text (unwanted : List Token) (h : line.Formatted) (hroot : Visible line.root)
    (rest : Token) (res : List MountPoint) :
    mountPass unwanted (⟨line.text++rest,false,false⟩,res)=
      .inl (if line.root="/".toList then
        keptMount unwanted line.deviceMajor line.deviceMinor
          ⟨' '::(line.mountPoint++line.middle++
            '-':: ' '::line.fsType++ ' '::line.source++ ' '::line.superOptions++rest),
            false,false⟩ res
        else (ignoreUntil '\n' ⟨rest,false,false⟩,res)) := by
  have hnumber : ∀ (n : UInt32) {c : Char} (rest : Token),c.isDigit=false →
      readUnsigned ⟨' '::(decimal n++c::rest),false,false⟩=(some n,⟨c::rest,false,false⟩) :=
    fun n c rest hc =>
      readUnsigned_number (List.forall_mem_singleton.mpr (by decide)) n hc rest
  have hfirst : ∀ (n : UInt32) {c : Char} (rest : Token),c.isDigit=false →
      readUnsigned ⟨decimal n++c::rest,false,false⟩=(some n,⟨c::rest,false,false⟩) :=
    fun n c rest hc => readUnsigned_number (List.forall_mem_nil _) n hc rest
  rw [line.text_append,mountPass]
  dsimp only
  rw [if_neg Bool.false_ne_true,hfirst _ _ (by decide)]
  dsimp only
  rw [if_neg Bool.false_ne_true,hnumber _ _ (by decide)]
  dsimp only
  rw [hnumber _ _ (by decide)]
  dsimp only
  rw [readChar_visible (by decide)]
  dsimp only
  rw [hfirst _ _ (by decide)]
  dsimp only
  rw [readWord_field hroot]
  dsimp only
  by_cases hkept : line.root="/".toList
  · rw [if_pos (congrArg some hkept),if_pos hkept]
    rfl
  · rw [if_neg fun hsome => hkept (Option.some.inj hsome),if_neg hkept]
    have hrest := ignoreUntil_append h.break_not_mem rest
    simp only [List.append_assoc,List.cons_append] at hrest ⊢
    rw [hrest]

/-- One pass of the loop reads one line. -/
theorem mountPass_line (unwanted : List Token) (h : line.Formatted) (hunspaced : line.Unspaced)
    (rest : Token) (res : List MountPoint) :
    mountPass unwanted (⟨line.text++rest,false,false⟩,res)=
      .inl (ignoreUntil '\n' ⟨rest,false,false⟩,
        if line.root="/".toList ∧ line.fsType∉unwanted then res++[line.entry] else res) := by
  rw [mountPass_text unwanted h (h.visibleRoot hunspaced)]
  by_cases hroot : line.root="/".toList
  · have hvisible := h.visible hunspaced hroot
    have hsuper : '\n' ∉ ' '::line.superOptions := by
      rw [List.mem_cons,not_or]
      exact ⟨by decide,(h.fields _ (by simp)).2.2⟩
    rw [if_pos hroot,keptMount,line.afterRoot_append,readWord_field (hvisible _ (by simp))]
    dsimp only
    rw [h.ignoreUntil_dash,readWord_field (hvisible _ (by simp))]
    dsimp only
    rw [List.cons_append,readWord_field (hvisible _ (by simp))]
    dsimp only
    rw [←List.cons_append,ignoreUntil_append hsuper]
    simp only [Option.getD_some,hroot,true_and,ite_not]
    rfl
  · rw [if_neg hroot,if_neg fun hkept => hroot hkept.1]

end Line

/-- A line is followed by the other lines, or by what ends the file. -/
theorem mountinfo_cons (line : MountLine) (lines : List MountLine) (final : Bool) :
    mountinfo (line::lines) final=
      line.text++if lines=[] then (if final=true then ['\n'] else [])
        else '\n'::mountinfo lines final := by
  cases lines with
  | nil => simp [mountinfo]
  | cons next lines => simp [mountinfo,List.intercalate_cons_cons]

/-- Without another line the loop ends. -/
theorem ends_no_line (unwanted : List Token) {stream : InputStream} (res : List MountPoint)
    (h : stream=⟨[],true,false⟩ ∨ stream=⟨[],false,false⟩ ∨ stream=⟨['\n'],false,false⟩) :
    Ends (mountPass unwanted) (stream,res) res := by
  refine ends_of_result ?_
  rcases h with rfl|rfl|rfl <;> rfl

/-- What the pass over a line adds to the mount points, whatever follows the
line. -/
def Adds (unwanted : List Token) (line : MountLine) (added : List MountPoint) : Prop :=
  ∀ rest res,mountPass unwanted (⟨line.text++rest,false,false⟩,res)=
    .inl (ignoreUntil '\n' ⟨rest,false,false⟩,res++added)

/-- The loop reads the lines one after the other. -/
theorem ends_adds {unwanted : List Token} {lines : List MountLine} {added : List (List MountPoint)}
    (h : List.Forall₂ (Adds unwanted) lines added) (final : Bool) (res : List MountPoint) :
    Ends (mountPass unwanted) (openStream (mountinfo lines final),res) (res++added.flatten) := by
  induction h generalizing res with
  | nil =>
    rw [List.flatten_nil,List.append_nil]
    cases final with
    | false => exact ends_no_line unwanted res (Or.inr (Or.inl rfl))
    | true => exact ends_no_line unwanted res (Or.inr (Or.inr rfl))
  | @cons line first lines added hline hlines ih =>
    rw [List.flatten_cons,←List.append_assoc,openStream,mountinfo_cons,ends_pass_iff (hline _ res)]
    cases lines with
    | nil =>
      cases hlines
      rw [List.flatten_nil,List.append_nil,if_pos rfl]
      cases final with
      | false => exact ends_no_line unwanted _ (Or.inl rfl)
      | true => exact ends_no_line unwanted _ (Or.inr (Or.inl rfl))
    | cons next lines =>
      rw [if_neg (List.cons_ne_nil _ _),ignoreUntil_cons]
      exact ih _

/-- The lines that are listed add their mount points. -/
theorem ends_mountinfo (unwanted : List Token) {lines : List MountLine}
    (h : ∀ line∈lines,line.Formatted ∧ line.Unspaced) (final : Bool) (res : List MountPoint) :
    Ends (mountPass unwanted) (openStream (mountinfo lines final),res)
      (res++(lines.filter fun line => line.root="/".toList ∧ line.fsType∉unwanted).map
        MountLine.entry) := by
  have hadds : List.Forall₂ (Adds unwanted) lines (lines.map fun line =>
      if line.root="/".toList ∧ line.fsType∉unwanted then [line.entry] else []) := by
    rw [List.forall₂_map_right_iff,List.forall₂_same]
    intro line hline rest res
    rw [mountPass_line unwanted (h line hline).1 (h line hline).2]
    split
    · rfl
    · rw [List.append_nil]
  have hflatten : (lines.map fun line =>
      if line.root="/".toList ∧ line.fsType∉unwanted then [line.entry] else []).flatten=
        (lines.filter fun line => line.root="/".toList ∧ line.fsType∉unwanted).map
          MountLine.entry := by
    induction lines with
    | nil => rfl
    | cons line lines ih =>
      have hrest := ih (fun line hline => h line (List.mem_cons_of_mem _ hline))
        (List.forall₂_cons.mp hadds).2
      rw [List.map_cons,List.flatten_cons,hrest,List.filter_cons]
      simp only [decide_eq_true_eq]
      split
      · rfl
      · rfl
  rw [←hflatten]
  exact ends_adds hadds final res

/-- get_mount_points ends with exactly the mount points of the lines that are
listed, in their order. -/
theorem get_mount_points_exact (container : Bool) (filesystems : List Token)
    (lines : List MountLine) (final : Bool)
    (hfilesystems : ∀ line∈filesystems,'\n' ∉ line ∧
      ("nodev\t".toList <+: line → '\x00' ∉ line) ∧ line.length+1<2048)
    (hlines : ∀ line∈lines,line.Formatted ∧ line.Unspaced) (result : List MountPoint) :
    GetMountPoints container (some (unlines filesystems)) (some (mountinfo lines final)) result ↔
      result=(lines.filter fun line => line.Listed container filesystems).map MountLine.entry := by
  have hroom : ∀ line∈filesystems,'\n' ∉ line ∧
      ("nodev\t".toList <+: line → '\x00' ∉ line) ∧ line.length<lineRoom :=
    fun line hline => by
      obtain ⟨hbreak,hnull,hlength⟩ := hfilesystems line hline
      exact ⟨hbreak,hnull,Nat.lt_of_add_lt_add_right hlength⟩
  have hlisted : ∀ line : MountLine,line.Listed container filesystems ↔ line.root="/".toList ∧
      line.fsType∉unwantedFilesystems container (some (unlines filesystems)) := fun line => by
    rw [mem_unwantedFilesystems_iff container hroom,not_not]
    rfl
  have hends := ends_mountinfo (unwantedFilesystems container (some (unlines filesystems))) hlines
    final []
  simp only [List.nil_append,←hlisted] at hends
  refine ⟨fun h => h.unique hends,?_⟩
  rintro rfl
  exact hends

/-- A mount of the given file system at the given path. -/
def sampleLine (mountPoint fsType : Token) : MountLine :=
  ⟨36,35,8,1,"/".toList,mountPoint,"rw".toList,["shared:1".toList],fsType,"/dev/sda1".toList,
    "rw,errors=continue".toList⟩

/-- One mount is listed, one is of a file system without a device, and overlay is
listed in the container flavors. -/
theorem get_mount_points_exact_sample :
    let lines := [sampleLine "/".toList "ext4".toList,sampleLine "/p".toList "proc".toList,
      sampleLine "/o".toList "overlay".toList]
    GetMountPoints true (some (unlines ["nodev\tproc".toList,"nodev\toverlay".toList]))
      (some (mountinfo lines false)) [(sampleLine "/".toList "ext4".toList).entry,
        (sampleLine "/o".toList "overlay".toList).entry] := by
  intro lines
  refine (get_mount_points_exact true ["nodev\tproc".toList,"nodev\toverlay".toList] lines false
    (by decide) ?_ _).mpr (by decide +kernel)
  have hfields : ∀ line∈lines,(∀ field∈[line.root,line.mountPoint,line.options,line.fsType,
      line.source,line.superOptions]++line.optional,field≠[] ∧ ' ' ∉ field ∧ '\n' ∉ field) ∧
      (∀ field∈line.options::line.optional,'-' ∉ field) ∧
      ∀ field∈[line.root,line.mountPoint,line.fsType,line.source],
        (field.all fun c => !isSpace c)=true := by
    decide
  intro line hline
  obtain ⟨hformat,hdash,hspace⟩ := hfields line hline
  have hunspaced : ∀ field∈[line.root,line.mountPoint,line.fsType,line.source],
      ∀ c∈field,isSpace c=false := fun field hfield => noSpace_of_all (hspace field hfield)
  exact ⟨⟨hformat,hdash⟩,hunspaced line.root (by simp),fun _ field hfield =>
    hunspaced field (List.mem_cons_of_mem _ hfield)⟩

/-- A carriage return ends a path early, be it of a mount or of a root, and a
null character ends a line of proc/filesystems early. -/
theorem get_mount_points_other_characters :
    let line := sampleLine "/a\rb".toList "ext4".toList
    let line' := sampleLine "/".toList "ext".toList
    let bound := { sampleLine "/".toList "ext4".toList with root := "/\rb".toList }
    (line.Formatted ∧ line.Listed false [] ∧
      ¬GetMountPoints false (some []) (some (mountinfo [line] true)) [line.entry]) ∧
    (bound.Formatted ∧ ¬bound.Listed false [] ∧
      ¬GetMountPoints false (some []) (some (mountinfo [bound] true)) []) ∧
    line'.Formatted ∧ line'.Listed false ["nodev\text4\x00".toList] ∧
      ¬GetMountPoints false (some (unlines ["nodev\text4\x00".toList]))
        (some (mountinfo [line'] true)) [line'.entry] := by
  intro line line' bound
  have hcut : GetMountPoints false (some []) (some (mountinfo [line] true))
      [(sampleLine "/a".toList "ext4".toList).entry] := ⟨2,by decide +kernel⟩
  have hbound : GetMountPoints false (some []) (some (mountinfo [bound] true))
      [(sampleLine "b".toList "ext4".toList).entry] := ⟨2,by decide +kernel⟩
  have hmissing : GetMountPoints false (some (unlines ["nodev\text4\x00".toList]))
      (some (mountinfo [line'] true)) [] := ⟨2,by decide +kernel⟩
  refine ⟨⟨⟨by decide,by decide⟩,by decide,fun h => ?_⟩,
    ⟨⟨by decide,by decide⟩,by decide,fun h => ?_⟩,⟨by decide,by decide⟩,by decide,fun h => ?_⟩
  · exact absurd (h.unique hcut) (by decide +kernel)
  · exact absurd (h.unique hbound) (List.cons_ne_nil _ _).symm
  · exact absurd (h.unique hmissing) (List.cons_ne_nil _ _)

end AtlasAgent.MountInfo
