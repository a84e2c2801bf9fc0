import AtlasAgent.NumberText
import AtlasAgent.ServiceMonitor

/-!
# What the service monitor reads

The helpers of service_monitor_utils.cpp on the contents of the files. Some
have a handler around the whole function, the others have none and rely on
those they call. A file that could not be opened is no file; a directory is
the sequence of its entries. D-Bus is a wrapper of its own and not read here.
-/

namespace AtlasAgent.ServiceReads

open NumberText ServiceMonitor TextFields

/-- What the helpers can throw. -/
inductive ReadException
  /-- Of std::stoul, std::stoull and std::vector::at. -/
  | std (exception : StdException)
  /-- std::filesystem::filesystem_error. -/
  | filesystem
  deriving DecidableEq

/-- A helper that may throw. -/
abbrev Read (α : Type) := Except ReadException α

/-- The handler around a whole function: any exception becomes std::nullopt. -/
def catchNone {α : Type} (body : Read (Option α)) : Read (Option α) :=
  match body with
  | .ok value => .ok value
  | .error _ => .ok none

/-- std::vector::at. -/
def vectorAt {α : Type} (xs : List α) (i : ℕ) : Read α :=
  match xs[i]? with
  | some x => .ok x
  | none => .error (.std .outOfRange)

/-- std::stoul and std::stoull. -/
def stoulRead (text : Token) : Read ℕ := (stoul text).mapError .std

/-- absl::StrSplit at a character with absl::SkipWhitespace. -/
def strSplitSkipWhitespace (separator : Char) (text : Token) : List Token :=
  (text.splitOn separator).filter fun piece => !piece.all isSpace

/-- atlasagent::read_file. -/
def readFile (file : Option Token) : Option (List Token) := file.map getLines

/-- ServiceMonitorUtilConstants::UTimeIndex. -/
def uTimeIndex : ℕ := 11

/-- ServiceMonitorUtilConstants::STimeIndex. -/
def sTimeIndex : ℕ := 12

/-- ServiceMonitorUtilConstants::RssIndex. -/
def rssIndex : ℕ := 21

/-- ServiceMonitorUtilConstants::CpuUsageKey. -/
def cpuUsageKey : Token := "usage_usec".toList

/-- tokenize_post_comm: the fields after the last closing parenthesis. -/
def tokenizePostComm (statLine : Token) : Option (List Token) :=
  if ')'∈statLine then
    some (strSplitSkipWhitespace ' ' (statLine.reverse.takeWhile (· ≠ ')')).reverse)
  else none

/-- parse_process_times. -/
def parseProcessTimes (pidStats : List Token) : Read (Option ProcessTimes) :=
  catchNone do
    let statLine ← vectorAt pidStats 0
    match tokenizePostComm statLine with
    | none => pure none
    | some statTokens =>
      if statTokens.length ≤ sTimeIndex then pure none
      else do
        let uTime ← stoulRead (statTokens.getD uTimeIndex [])
        let sTime ← stoulRead (statTokens.getD sTimeIndex [])
        pure (some ⟨uTime,sTime⟩)

/-- get_process_times, from the stat file of the process. -/
def getProcessTimes (stat : Option Token) : Read (Option ProcessTimes) :=
  match readFile stat with
  | none => .ok none
  | some pidStats => parseProcessTimes pidStats

/-- parse_rss. -/
def parseRss (pidStats : List Token) : Read (Option ℕ) :=
  catchNone do
    let statLine ← vectorAt pidStats 0
    match tokenizePostComm statLine with
    | none => pure none
    | some statTokens =>
      if statTokens.length ≤ rssIndex then pure none
      else some <$> stoulRead (statTokens.getD rssIndex [])

/-- get_rss, from the stat file of the process. -/
def getRss (stat : Option Token) : Read (Option ℕ) :=
  match readFile stat with
  | none => .ok none
  | some pidStats => parseRss pidStats

/-- The directory of open files of a process: none if it cannot be opened, else
for each entry whether it is a symbolic link, or none where this or the step
to the entry throws. -/
abbrev Directory := Option (List (Option Bool))

/-- The loop of get_number_fds. -/
def countSymlinks (fdCount : ℕ) : List (Option Bool) → Read ℕ
  | [] => .ok fdCount
  | none::_ => .error .filesystem
  | some isSymlink::entries => countSymlinks (if isSymlink then fdCount+1 else fdCount) entries

/-- get_number_fds. -/
def getNumberFds (directory : Directory) : Read (Option ℕ) :=
  catchNone (match directory with
    | none => .error .filesystem
    | some entries => some <$> countSymlinks 0 entries)

/-- The loop of parse_cgroup_cpu_stat. -/
def cpuStatLoop : List Token → Read (Option ℕ)
  | [] => .ok none
  | line::lines =>
    match strSplitSkipWhitespace ' ' line with
    | key::value::_ => if key=cpuUsageKey then some <$> stoulRead value else cpuStatLoop lines
    | _ => cpuStatLoop lines

/-- parse_cgroup_cpu_stat. -/
def parseCgroupCpuStat (lines : List Token) : Read (Option ℕ) := catchNone (cpuStatLoop lines)

/-- get_cgroup_cpu_usage, from cpu.stat. -/
def getCgroupCpuUsage (cpuStat : Option Token) : Read (Option ℕ) :=
  match readFile cpuStat with
  | none => .ok none
  | some lines => if lines=[] then .ok none else parseCgroupCpuStat lines

/-- get_cgroup_memory, from memory.current. -/
def getCgroupMemory (memoryCurrent : Option Token) : Read (Option ℕ) :=
  catchNone (match readFile memoryCurrent with
    | none => pure none
    | some lines =>
      if lines=[] then pure none
      else do
        let first ← vectorAt lines 0
        some <$> stoulRead first)

/-- The loop of get_cgroup_pids; a number is stored in an unsigned int. -/
def pidsLoop : List Token → Read (List ℕ)
  | [] => .ok []
  | line::lines =>
    if line=[] then pidsLoop lines
    else do
      let pid ← stoulRead line
      let pids ← pidsLoop lines
      pure (pid%2^32::pids)

/-- get_cgroup_pids, from cgroup.procs. -/
def getCgroupPids (cgroupProcs : Option Token) : Read (Option (List ℕ)) :=
  catchNone (match readFile cgroupProcs with
    | none => pure none
    | some lines => some <$> pidsLoop lines)

/-- The loop of get_total_fds over the processes with their directories. -/
def totalFdsLoop (total : ℕ) : List Directory → Read ℕ
  | [] => .ok total
  | directory::directories => do
    let fds ← getNumberFds directory
    totalFdsLoop (total+fds.getD 0) directories

/-- get_total_fds: the directory of each process when its turn comes, the
position in cgroup.procs being the turn. -/
def getTotalFds (cgroupProcs : Option Token) (fdDirectory : ℕ → ℕ → Directory) :
    Read (Option ℕ) := do
  let pids ← getCgroupPids cgroupProcs
  match pids with
  | none => pure none
  | some pids => some <$> totalFdsLoop 0 (pids.mapIdx fdDirectory)

/-- A helper that does not throw. -/
def Total {α : Type} (read : Read α) : Prop := ∃ value, read=.ok value

theorem total_catchNone {α : Type} (body : Read (Option α)) : Total (catchNone body) := by
  cases body with
  | ok value => exact ⟨value,rfl⟩
  | error exception => exact ⟨none,rfl⟩

theorem getProcessTimes_total (stat : Option Token) : Total (getProcessTimes stat) := by
  unfold getProcessTimes
  split
  · exact ⟨none,rfl⟩
  · exact total_catchNone _

theorem getRss_total (stat : Option Token) : Total (getRss stat) := by
  unfold getRss
  split
  · exact ⟨none,rfl⟩
  · exact total_catchNone _

theorem getNumberFds_total (directory : Directory) : Total (getNumberFds directory) :=
  total_catchNone _

theorem getCgroupCpuUsage_total (cpuStat : Option Token) : Total (getCgroupCpuUsage cpuStat) := by
  unfold getCgroupCpuUsage
  split
  · exact ⟨none,rfl⟩
  · split
    · exact ⟨none,rfl⟩
    · exact total_catchNone _

example : parseCgroupCpuStat ["usage_usec".toList]=.ok none := by decide +kernel

theorem getCgroupMemory_total (memoryCurrent : Option Token) :
    Total (getCgroupMemory memoryCurrent) := total_catchNone _

theorem totalFdsLoop_total (total : ℕ) (directories : List Directory) :
    Total (totalFdsLoop total directories) := by
  induction directories generalizing total with
  | nil => exact ⟨total,rfl⟩
  | cons directory directories ih =>
    obtain ⟨fds,hfds⟩ := getNumberFds_total directory
    obtain ⟨sum,hsum⟩ := ih (total+fds.getD 0)
    refine ⟨sum,?_⟩
    rw [totalFdsLoop,hfds]
    exact hsum

theorem getTotalFds_total (cgroupProcs : Option Token) (fdDirectory : ℕ → ℕ → Directory) :
    Total (getTotalFds cgroupProcs fdDirectory) := by
  obtain ⟨pids,hpids⟩ : Total (getCgroupPids cgroupProcs) := total_catchNone _
  unfold getTotalFds
  rw [hpids]
  cases pids with
  | none => exact ⟨none,rfl⟩
  | some pids =>
    obtain ⟨sum,hsum⟩ := totalFdsLoop_total 0 (pids.mapIdx fdDirectory)
    refine ⟨some sum,?_⟩
    show some <$> totalFdsLoop 0 (pids.mapIdx fdDirectory)=_
    rw [hsum]
    rfl

end AtlasAgent.ServiceReads
