import AtlasAgent.ServiceInit
import AtlasAgent.ServiceReads
import Mathlib.Data.Finset.Insert

/-!
# The configuration directories of the EBS and service monitors

Both monitors walk a directory, take the files of one extension, and read each
as a list of lines. A file with one line that is refused adds nothing, and other
files are read all the same. The two parsers differ in what they make of an
empty line.
-/

namespace AtlasAgent.ConfigDirectories

open ServiceInit ServiceReads TextFields

variable {α Pattern : Type}

/-- What becomes of a line of a file. -/
inductive LineOutcome (α : Type)
  | skipped
  | taken (value : α)
  /-- The function returns std::nullopt, by itself or from its handler. -/
  | refused
  deriving DecidableEq

/-- The value of a line that is taken. -/
def LineOutcome.value : LineOutcome α → Option α
  | .taken value => some value
  | _ => none

/-- The loop over the lines. -/
def takeLines (outcome : Token → LineOutcome α) : List Token → Option (List α)
  | [] => some []
  | line::lines =>
    match outcome line with
    | .skipped => takeLines outcome lines
    | .taken value => (takeLines outcome lines).map (value::·)
    | .refused => none

/-- What the two parsers of a file have in common: a file that cannot be read
and one without a line give nothing. -/
def parseConfigFile (outcome : Token → LineOutcome α) (file : Option Token) : Option (List α) :=
  match readFile file with
  | none => none
  | some [] => none
  | some lines => takeLines outcome lines

/-- A line of parse_regex_config_file; the constructor of std::regex may throw. -/
def regexLine (compile : Token → Option Pattern) (line : Token) : LineOutcome Pattern :=
  if line=[] then .skipped
  else
    match compile line with
    | some pattern => .taken pattern
    | none => .refused

/-- parse_regex_config_file. -/
def parseRegexConfigFile (compile : Token → Option Pattern) (file : Option Token) :
    Option (List Pattern) :=
  parseConfigFile (regexLine compile) file

/-- A line of ebs_parse_regex_config_file; std::filesystem::exists may throw. -/
def deviceLine (fileExists : Token → Option Bool) (device : Token) : LineOutcome Token :=
  match fileExists device with
  | some true => .taken device
  | _ => .refused

/-- ebs_parse_regex_config_file. -/
def ebsParseRegexConfigFile (fileExists : Token → Option Bool) (file : Option Token) :
    Option (List Token) :=
  parseConfigFile (deviceLine fileExists) file

/-- A file that the walk over the directory comes to. -/
structure DirectoryEntry where
  filename : Token
  /-- Its contents, unless it cannot be opened. -/
  file : Option Token

/-- What the parsers meet of a directory. -/
structure Directory where
  /-- Whether the path is a directory; none when asking throws. -/
  isDirectory : Option Bool
  /-- What recursive_directory_iterator comes to, in its order. -/
  entries : List DirectoryEntry
  /-- The walk ends with an exception after these. -/
  walkThrows : Bool

/-- It is a directory, and the walk comes to its end. -/
def Directory.Readable (directory : Directory) : Prop :=
  directory.isDirectory=some true ∧ directory.walkThrows=false

instance (directory : Directory) : Decidable directory.Readable :=
  inferInstanceAs (Decidable (directory.isDirectory=some true ∧ directory.walkThrows=false))

/-- std::regex_match with any characters in front of an extension; a dot does
not match a line break. -/
def matchesExtension (extension filename : Token) : Bool :=
  extension.isSuffixOf filename &&
    (filename.take (filename.length-extension.length)).all fun c => c≠ '\n' && c≠ '\r'

/-- The extension of ServiceMonitorUtilConstants::ConfigFileExtPattern. -/
def serviceExtension : Token := ".systemd-unit".toList

/-- The extension of EBSConstants::ConfigFileExtPattern. -/
def ebsExtension : Token := ".ebs-devices".toList

/-- The body of the loop over the files. -/
def entryValues (extension : Token) (parse : Option Token → Option (List α))
    (entry : DirectoryEntry) : List α :=
  if matchesExtension extension entry.filename then (parse entry.file).getD [] else []

/-- The values of all files, unless an exception ends the function. -/
def directoryValues (extension : Token) (parse : Option Token → Option (List α))
    (directory : Directory) : Option (List α) :=
  if directory.Readable then some (directory.entries.flatMap (entryValues extension parse))
  else none

/-- parse_service_monitor_config_directory. -/
def parseServiceMonitorConfigDirectory (compile : Token → Option Pattern)
    (directory : Directory) : Option (List Pattern) :=
  match directoryValues serviceExtension (parseRegexConfigFile compile) directory with
  | none => none
  | some [] => none
  | some patterns => some patterns

/-- parse_ebs_config_directory. -/
def parseEbsConfigDirectory (fileExists : Token → Option Bool) (directory : Directory) :
    Option (Finset Token) :=
  match directoryValues ebsExtension (ebsParseRegexConfigFile fileExists) directory with
  | none => none
  | some devices =>
    let allDevices := devices.foldl (fun all device => insert device all) ∅
    if allDevices=∅ then none else some allDevices

/-- The loop ends with the values of the lines that are taken, if no line is
refused. -/
theorem takeLines_eq_some_iff {outcome : Token → LineOutcome α} {lines : List Token}
    {values : List α} :
    takeLines outcome lines=some values ↔
      (∀ line∈lines,outcome line≠.refused) ∧
        values=lines.filterMap fun line => (outcome line).value := by
  induction lines generalizing values with
  | nil => simp [takeLines,eq_comm]
  | cons line lines ih =>
    rw [takeLines,List.forall_mem_cons]
    cases houtcome : outcome line with
    | skipped =>
      rw [List.filterMap_cons_none (by rw [houtcome]; rfl)]
      simp only [ne_eq,reduceCtorEq,not_false_eq_true,true_and]
      exact ih
    | taken value =>
      rw [List.filterMap_cons_some (b:=value) (by rw [houtcome]; rfl)]
      simp only [ne_eq,reduceCtorEq,not_false_eq_true,true_and,Option.map_eq_some_iff,ih]
      constructor
      · rintro ⟨_,⟨hnone,rfl⟩,rfl⟩
        exact ⟨hnone,rfl⟩
      · rintro ⟨hnone,rfl⟩
        exact ⟨_,⟨hnone,rfl⟩,rfl⟩
    | refused => simp

/-- The lines of a file that adds something: it can be read and none of its
lines is refused. -/
def Accepted (outcome : Token → LineOutcome α) (entry : DirectoryEntry) (lines : List Token) :
    Prop :=
  readFile entry.file=some lines ∧ ∀ line∈lines,outcome line≠.refused

/-- What a file adds. -/
theorem mem_entryValues (outcome : Token → LineOutcome α) {extension : Token}
    {entry : DirectoryEntry} {value : α} :
    value∈entryValues extension (parseConfigFile outcome) entry ↔
      matchesExtension extension entry.filename=true ∧
        ∃ lines,Accepted outcome entry lines ∧ ∃ line∈lines,outcome line=.taken value := by
  have htaken : ∀ line,(outcome line).value=some value ↔ outcome line=.taken value := by
    intro line
    cases outcome line <;> simp [LineOutcome.value]
  rw [entryValues]
  by_cases hname : matchesExtension extension entry.filename=true
  · rw [if_pos hname,parseConfigFile]
    simp only [hname,true_and,Accepted]
    cases hlines : readFile entry.file with
    | none => simp
    | some lines =>
      simp only [Option.some.injEq,and_assoc,exists_eq_left']
      cases lines with
      | nil => simp
      | cons line lines =>
        dsimp only
        by_cases hnone : ∀ other∈line::lines,outcome other≠.refused
        · rw [takeLines_eq_some_iff.mpr ⟨hnone,rfl⟩,Option.getD_some,List.mem_filterMap]
          simp only [htaken]
          exact ⟨fun h => ⟨hnone,h⟩,fun h => h.2⟩
        · have hfails : takeLines outcome (line::lines)=none :=
            Option.eq_none_iff_forall_ne_some.mpr fun values hvalues =>
              hnone (takeLines_eq_some_iff.mp hvalues).1
          rw [hfails]
          exact ⟨fun h => absurd h List.not_mem_nil,fun h => absurd h.1 hnone⟩
  · rw [if_neg hname]
    simp [hname]

theorem mem_foldl_insert {list : List Token} {all : Finset Token} {value : Token} :
    value∈list.foldl (fun all device => insert device all) all ↔ value∈all ∨ value∈list := by
  induction list generalizing all with
  | nil => simp
  | cons first list ih =>
    rw [List.foldl_cons,ih,Finset.mem_insert,List.mem_cons]
    tauto

/-- A device that a file of the extension lists, all lines of which name a path
that exists. -/
def ListedDevice (fileExists : Token → Option Bool) (directory : Directory) (device : Token) :
    Prop :=
  ∃ entry∈directory.entries,matchesExtension ebsExtension entry.filename=true ∧
    ∃ lines,readFile entry.file=some lines ∧ device∈lines ∧
      ∀ line∈lines,fileExists line=some true

theorem deviceLine_refused {fileExists : Token → Option Bool} {line : Token} :
    deviceLine fileExists line≠.refused ↔ fileExists line=some true := by
  rw [deviceLine]
  split <;> simp_all

theorem deviceLine_taken {fileExists : Token → Option Bool} {line device : Token} :
    deviceLine fileExists line=.taken device ↔ fileExists line=some true ∧ line=device := by
  rw [deviceLine]
  split <;> simp_all

theorem mem_ebs_flatMap {fileExists : Token → Option Bool} {directory : Directory}
    {device : Token} :
    device∈directory.entries.flatMap
      (entryValues ebsExtension (ebsParseRegexConfigFile fileExists)) ↔
        ListedDevice fileExists directory device := by
  have hvalues : ∀ entry,device∈entryValues ebsExtension (ebsParseRegexConfigFile fileExists) entry ↔
      _ := fun entry => mem_entryValues (deviceLine fileExists)
  rw [List.mem_flatMap,ListedDevice]
  simp only [hvalues,Accepted,deviceLine_refused,deviceLine_taken]
  constructor
  · rintro ⟨entry,hentry,hname,lines,⟨hlines,hexist⟩,line,hline,-,rfl⟩
    exact ⟨entry,hentry,hname,lines,hlines,hline,hexist⟩
  · rintro ⟨entry,hentry,hname,lines,hlines,hline,hexist⟩
    exact ⟨entry,hentry,hname,lines,⟨hlines,hexist⟩,device,hline,hexist device hline,rfl⟩

/-- The devices of a directory are those listed by a file of the extension all
of whose lines name a path that exists; a line that does not, such as an empty
one, drops the devices of its own file and no others. Without a device, and
where the walk over the directory throws, there is no configuration. -/
theorem parseEbsConfigDirectory_eq_some_iff {fileExists : Token → Option Bool}
    {directory : Directory} {config : Finset Token} :
    parseEbsConfigDirectory fileExists directory=some config ↔
      directory.Readable ∧ config.Nonempty ∧
        ∀ device,device∈config ↔ ListedDevice fileExists directory device := by
  rw [parseEbsConfigDirectory,directoryValues]
  by_cases hreadable : directory.Readable
  · rw [if_pos hreadable,and_iff_right hreadable]
    dsimp only
    generalize hall : (directory.entries.flatMap
      (entryValues ebsExtension (ebsParseRegexConfigFile fileExists))).foldl
        (fun all device => insert device all) (∅ : Finset Token)=all
    have hmem : ∀ device,device∈all ↔ ListedDevice fileExists directory device := fun device => by
      rw [←hall,mem_foldl_insert,mem_ebs_flatMap]
      simp
    by_cases hempty : all=∅
    · rw [if_pos hempty]
      refine ⟨fun h => (by cases h),fun ⟨⟨device,hdevice⟩,hlisted⟩ => ?_⟩
      have hin := (hmem device).mpr ((hlisted device).mp hdevice)
      rw [hempty] at hin
      exact absurd hin (Finset.notMem_empty device)
    · rw [if_neg hempty,Option.some.injEq]
      constructor
      · rintro rfl
        exact ⟨Finset.nonempty_iff_ne_empty.mpr hempty,hmem⟩
      · rintro ⟨-,hlisted⟩
        exact Finset.ext fun device => (hmem device).trans (hlisted device).symm
  · rw [if_neg hreadable]
    exact ⟨fun h => (by cases h),fun h => absurd h.1 hreadable⟩

/-- An EBS file whose second line is empty, and one without such a line. -/
def twoDeviceFiles : Directory where
  isDirectory := some true
  entries := [⟨"a.ebs-devices".toList,some "/dev/a\n\n".toList⟩,
    ⟨"b.ebs-devices".toList,some "/dev/b\n".toList⟩,⟨"c.conf".toList,some "/dev/c\n".toList⟩]
  walkThrows := false

example : parseEbsConfigDirectory (fun path => some (path≠[])) twoDeviceFiles=
    some {"/dev/b".toList} := by decide

/-- A pattern of a file of the extension all of whose lines are patterns or
empty. -/
def ListedPattern (compile : Token → Option Pattern) (directory : Directory)
    (pattern : Pattern) : Prop :=
  ∃ entry∈directory.entries,matchesExtension serviceExtension entry.filename=true ∧
    ∃ lines,readFile entry.file=some lines ∧
      (∀ line∈lines,line≠[] → (compile line).isSome) ∧
      ∃ line∈lines,line≠[] ∧ compile line=some pattern

theorem regexLine_refused {compile : Token → Option Pattern} {line : Token} :
    regexLine compile line≠.refused ↔ (line≠[] → (compile line).isSome) := by
  rw [regexLine]
  split
  · simp_all
  · split <;> simp_all

theorem regexLine_taken {compile : Token → Option Pattern} {line : Token} {pattern : Pattern} :
    regexLine compile line=.taken pattern ↔ line≠[] ∧ compile line=some pattern := by
  rw [regexLine]
  split
  · simp_all
  · split <;> simp_all

/-- The patterns of a directory are those of the files of the extension all of
whose lines are patterns or empty, and a unit matches the configuration exactly
when such a pattern is found in its name. -/
theorem parseServiceMonitorConfigDirectory_spec (compile : Token → Option Pattern)
    (directory : Directory) :
    ((parseServiceMonitorConfigDirectory compile directory).isSome ↔
      directory.Readable ∧ ∃ pattern,ListedPattern compile directory pattern) ∧
    ∀ config,parseServiceMonitorConfigDirectory compile directory=some config →
      (∀ pattern,pattern∈config ↔ ListedPattern compile directory pattern) ∧
      ∀ attempt unit,Matches config attempt unit ↔
        ∃ pattern,ListedPattern compile directory pattern ∧
          attempt.regexSearch pattern unit=some true := by
  have hmem : ∀ pattern,pattern∈directory.entries.flatMap
      (entryValues serviceExtension (parseRegexConfigFile compile)) ↔
        ListedPattern compile directory pattern := by
    intro pattern
    have hvalues : ∀ entry,
        pattern∈entryValues serviceExtension (parseRegexConfigFile compile) entry ↔ _ :=
      fun entry => mem_entryValues (regexLine compile)
    rw [List.mem_flatMap,ListedPattern]
    simp only [hvalues,Accepted,regexLine_refused,regexLine_taken,and_assoc]
  rw [parseServiceMonitorConfigDirectory,directoryValues]
  by_cases hreadable : directory.Readable
  · rw [if_pos hreadable,and_iff_right hreadable]
    cases hall : directory.entries.flatMap
        (entryValues serviceExtension (parseRegexConfigFile compile)) with
    | nil =>
      rw [hall] at hmem
      refine ⟨⟨fun h => (by cases h),fun ⟨pattern,hpattern⟩ => ?_⟩,fun config h => by cases h⟩
      exact absurd ((hmem pattern).mpr hpattern) List.not_mem_nil
    | cons first rest =>
      rw [hall] at hmem
      refine ⟨⟨fun _ => ⟨first,(hmem first).mp List.mem_cons_self⟩,fun _ => rfl⟩,
        fun config h => ?_⟩
      obtain rfl := Option.some.inj h
      refine ⟨hmem,fun attempt unit => ?_⟩
      rw [Matches]
      simp only [hmem]
  · rw [if_neg hreadable]
    exact ⟨⟨fun h => (by cases h),fun h => absurd h.1 hreadable⟩,fun config h => by cases h⟩

/-- A file of patterns with an empty line, and one with a line that is no pattern. -/
def twoPatternFiles : Directory where
  isDirectory := some true
  entries := [⟨"a.systemd-unit".toList,some "ssh\n\n".toList⟩,
    ⟨"b.systemd-unit".toList,some "cron\n(\n".toList⟩]
  walkThrows := false

theorem listedPattern_ssh :
    ListedPattern (fun line => if line="(".toList then none else some line) twoPatternFiles
      "ssh".toList :=
  ((parseServiceMonitorConfigDirectory_spec
    (fun line => if line="(".toList then none else some line) twoPatternFiles).2 ["ssh".toList]
      (by decide)).1 "ssh".toList |>.mp List.mem_cons_self

end AtlasAgent.ConfigDirectories
