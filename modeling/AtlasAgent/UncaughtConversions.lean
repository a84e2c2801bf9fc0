import AtlasAgent.DiskstatsLines
import AtlasAgent.Ethtool
import AtlasAgent.Ntp

/-!
# Conversions without a handler

Three functions that may not throw convert numbers of the texts they parse:
one without any handler, and two that catch a text that is no number but not a
number that does not fit. Such an exception ends the process.
-/

namespace AtlasAgent.UncaughtConversions

open DiskstatsLines FallibleLoop NumberText TextFields
open DiskStats (DiskIo)

/-- The numbers of a line that get_disk_stats converts, converted. -/
def lineConverts (line : Token) : Bool :=
  (splitFields line).length<14 ||
    match stoi ((splitFields line).getD 0 []) with
    | .ok major => major<0 || (stoi ((splitFields line).getD 1 [])).isOk
    | .error _ => false

/-- The line at which get_disk_stats stops. -/
def endsDisks (line : Token) : Bool :=
  14≤(splitFields line).length &&
    match stoi ((splitFields line).getD 0 []) with
    | .ok major => major<0
    | .error _ => false

/-- get_disk_stats returns what the lines that can be converted give. -/
def LinesUndisturbed (lines : List Token) : Prop :=
  ∃ stats,diskStatsLoop lines=.ok stats ∧ diskStatsLoop (lines.filter lineConverts)=.ok stats

/-- A line is to the loop one that is passed over, one that throws, one that
ends it, or one that adds a device. -/
theorem diskStatsLoop_cases (line : Token) :
    (lineConverts line=true ∧ endsDisks line=false ∧
      ∀ lines,diskStatsLoop (line::lines)=diskStatsLoop lines) ∨
    (lineConverts line=false ∧ endsDisks line=false ∧
      ∀ lines,∃ exception,diskStatsLoop (line::lines)=.error exception) ∨
    (lineConverts line=true ∧ endsDisks line=true ∧
      ∀ lines,diskStatsLoop (line::lines)=.ok []) ∨
    (lineConverts line=true ∧ endsDisks line=false ∧
      ∃ io,∀ lines,diskStatsLoop (line::lines)=(diskStatsLoop lines).map (io::·)) := by
  have hloop := fun lines => diskStatsLoop.eq_2 line lines
  unfold lineConverts endsDisks
  by_cases hshort : (splitFields line).length<14
  · simp only [if_pos hshort] at hloop
    exact Or.inl ⟨by simp [hshort],by simp [hshort],hloop⟩
  simp only [if_neg hshort] at hloop
  cases hmajor : stoi ((splitFields line).getD 0 []) with
  | error exception =>
    refine Or.inr (Or.inl ⟨by simp [hshort],by simp,fun lines => ⟨exception,?_⟩⟩)
    rw [hloop,hmajor]
    rfl
  | ok major =>
    by_cases hnegative : major<0
    · refine Or.inr (Or.inr (Or.inl ⟨by simp [hnegative],?_,fun lines => ?_⟩))
      · simp [hnegative,Nat.le_of_not_lt hshort]
      · rw [hloop,hmajor]
        exact if_pos hnegative
    · cases hminor : stoi ((splitFields line).getD 1 []) with
      | error exception =>
        refine Or.inr (Or.inl ⟨?_,by simp [hnegative],fun lines => ⟨exception,?_⟩⟩)
        · simp [hshort,hnegative,Except.isOk,Except.toBool]
        · rw [hloop,hmajor]
          dsimp only [bind,Except.bind]
          rw [if_neg hnegative,hminor]
      | ok minor =>
        refine Or.inr (Or.inr (Or.inr ⟨?_,by simp [hnegative],
          diskIo major minor (splitFields line),fun lines => ?_⟩))
        · simp [Except.isOk,Except.toBool]
        · rw [hloop,hmajor]
          dsimp only [bind,Except.bind]
          rw [if_neg hnegative,hminor]
          rfl

/-- get_disk_stats returns exactly when every line before the one at which it
stops can be converted. -/
theorem linesUndisturbed_iff (lines : List Token) :
    LinesUndisturbed lines ↔
      ∀ line∈lines.takeWhile (fun line => !endsDisks line),lineConverts line=true := by
  induction lines with
  | nil => exact iff_of_true ⟨[],rfl,rfl⟩ (by simp)
  | cons line lines ih =>
    obtain ⟨hkeep,hends,hloop⟩|⟨hkeep,hends,hloop⟩|⟨hkeep,hends,hloop⟩|⟨hkeep,hends,io,hloop⟩ :=
      diskStatsLoop_cases line
    · rw [LinesUndisturbed,hloop,List.filter_cons_of_pos hkeep,hloop,
        List.takeWhile_cons_of_pos (by simp [hends]),List.forall_mem_cons,and_iff_right hkeep]
      exact ih
    · rw [List.takeWhile_cons_of_pos (by simp [hends]),List.forall_mem_cons]
      refine iff_of_false ?_ fun h => by simp [h.1] at hkeep
      rintro ⟨stats,hstats,-⟩
      obtain ⟨exception,herror⟩ := hloop lines
      rw [herror] at hstats
      cases hstats
    · rw [List.takeWhile_cons_of_neg (by simp [hends])]
      refine iff_of_true ⟨[],hloop lines,?_⟩ (by simp)
      rw [List.filter_cons_of_pos hkeep,hloop]
    · rw [List.takeWhile_cons_of_pos (by simp [hends]),List.forall_mem_cons,and_iff_right hkeep,
        ←ih,LinesUndisturbed,List.filter_cons_of_pos hkeep,hloop,hloop]
      exact exists_ok_map_iff (fun _ _ h => (List.cons.inj h).2) _ _

/-- Disk::get_disk_stats returns, undisturbed by lines that cannot be
converted. -/
def DiskUndisturbed (diskstats : Token) : Prop :=
  ∃ stats,getDiskStats (some diskstats)=.ok stats ∧
    diskStatsLoop ((getLines diskstats).filter lineConverts)=.ok stats

/-- Ethtool::ethtool_stats returns, undisturbed by lines that cannot be
converted. -/
def EthtoolUndisturbed (netTags : Ethtool.Tags) (iface : Token) (nicStats : List Token) : Prop :=
  ∃ sets,Ethtool.ethtoolStats netTags iface nicStats=.ok sets ∧
    Ethtool.ethtoolStats netTags iface (nicStats.filter Ethtool.converts)=.ok sets

/-- Ntp::chrony_stats returns, undisturbed by sources that cannot be
converted. -/
def ChronyUndisturbed (lastSampleTime : Ntp.Time) (tracking : Token) (sources : List Ntp.Source)
    (now : Ntp.Time) : Prop :=
  ∃ stats,Ntp.chronyStats lastSampleTime tracking sources now=.ok stats ∧
    Ntp.chronyStats lastSampleTime tracking
      (sources.filter (Ntp.converts (Ntp.currentServer tracking))) now=.ok stats

theorem chronyUndisturbed_iff_loop (lastSampleTime : Ntp.Time) (tracking : Token)
    (sources : List Ntp.Source) (now : Ntp.Time) :
    ChronyUndisturbed lastSampleTime tracking sources now ↔
      Undisturbed (Ntp.sourceStep (Ntp.currentServer tracking))
        (Ntp.converts (Ntp.currentServer tracking)) sources lastSampleTime := by
  exact exists_ok_map_iff (fun _ _ h => (Ntp.ChronyStats.mk.inj h).1) _ _

/-- Each of the three functions returns, undisturbed by what cannot be
converted, exactly under a condition of its own: get_disk_stats if the two
numbers of every line it comes to can be converted, ethtool_stats if no number
of a metric is out of range, and chrony_stats if no number of the server is. -/
theorem undisturbed_conversions_iff (diskstats : Token) (netTags : Ethtool.Tags) (iface : Token)
    (nicStats : List Token) (lastSampleTime : Ntp.Time) (tracking : Token)
    (sources : List Ntp.Source) (now : Ntp.Time) :
    (DiskUndisturbed diskstats ↔
      ∀ line∈(getLines diskstats).takeWhile (fun line => !endsDisks line),
        lineConverts line=true) ∧
    (EthtoolUndisturbed netTags iface nicStats ↔
      ∀ statLine∈nicStats,¬Ethtool.OutOfRange statLine) ∧
    (ChronyUndisturbed lastSampleTime tracking sources now ↔
      ∀ source∈sources,¬Ntp.OutOfRange (Ntp.currentServer tracking) source) :=
  ⟨linesUndisturbed_iff _,Ethtool.ethtoolStats_undisturbed_iff netTags iface nicStats,
    (chronyUndisturbed_iff_loop lastSampleTime tracking sources now).trans
      (Ntp.chronyStats_undisturbed_iff _ sources lastSampleTime)⟩

/-- A major number that is no number, and numbers of a metric and of the server
that do not fit, each end the process. -/
theorem conversions_terminate :
    ¬DiskUndisturbed "x 0 a 1 2 3 4 5 6 7 8 9 10 11\n".toList ∧
    ¬EthtoolUndisturbed ∅ "eth0".toList ["pps_allowance_exceeded: 9223372036854775808".toList] ∧
    ¬ChronyUndisturbed 0 "A,s".toList [⟨"^,*,s,3,8,377,9223372036854775808".toList,0⟩] 0 := by
  refine ⟨?_,?_,?_⟩
  · refine mt (linesUndisturbed_iff _).mp ?_
    decide +kernel
  · have hout : Ethtool.OutOfRange "pps_allowance_exceeded: 9223372036854775808".toList := by
      refine ⟨by decide +kernel,?_⟩
      decide +kernel
    exact fun h => (Ethtool.ethtoolStats_undisturbed_iff _ _ _).mp h _ List.mem_cons_self hout
  · have hout : Ntp.OutOfRange (Ntp.currentServer "A,s".toList)
        ⟨"^,*,s,3,8,377,9223372036854775808".toList,0⟩ := by
      refine ⟨by decide +kernel,?_⟩
      decide +kernel
    exact fun h => (Ntp.chronyStats_undisturbed_iff _ _ _).mp
      ((chronyUndisturbed_iff_loop _ _ _ _).mp h) _ List.mem_cons_self hout

end AtlasAgent.UncaughtConversions
