import AtlasAgent.DiskSpace
import AtlasAgent.MountInfo

/-!
# The space of the disks in one pass

Disk::stats_for_interesting_mps from the files to the gauges: the mount points
that are listed, one for each device of interest, and what is published of
each. A gauge is known by its name and its tags, the path without its slash
and the name of the device, which do not tell all mount points apart.
-/

namespace AtlasAgent.DiskSpaceSeries

open DiskSpace MountInfo MountPoints NumberText ScanfText SpacedText TextFields WhileLoop

/-- Disk::stats_for_interesting_mps with update_stats_for: the mount points of
interest in the order of the hash map, which is any order. -/
def StatsForInterestingMps (container : Bool) (fs : FileSystem)
    (filesystems mountinfo : Option Token) (outcome : Except StdException (List GaugeSet)) :
    Prop :=
  ∃ mountPoints interesting : List MountPoint,
    GetMountPoints container filesystems mountinfo mountPoints ∧
    interesting.Perm (filterInterestingMountPoints mountPoints) ∧
      outcome=(interesting.mapM (updateStatsFor fs)).map List.flatten

/-- The id of a path that is not empty. -/
def pathId (path : Token) : Token := if path.length=1 then "root".toList else path.drop 1

/-- The tags of the gauges of a mount point. -/
def spaceTags (mp : MountPoint) : List (Token×Token) :=
  [("id".toList,pathId mp.mountPoint),("dev".toList,getDevFromDevice mp.device)]

/-- The gauges of a mount point. -/
def spaceSets (fs : FileSystem) (mp : MountPoint) : List GaugeSet :=
  match fs.statvfs (cStr mp.mountPoint) with
  | none => []
  | some st => bytesSets (spaceTags mp) st++inodesSets (spaceTags mp) st

section MountPoints

variable (fs : FileSystem)

/-- No mount point ends the process: a file system that answers has a path. -/
theorem updateStatsFor_eq (mp : MountPoint) : updateStatsFor fs mp=.ok (spaceSets fs mp) := by
  rw [updateStatsFor,spaceSets]
  cases hst : fs.statvfs (cStr mp.mountPoint) with
  | none => rfl
  | some st =>
    obtain ⟨id,hid⟩ := exists_id fs hst
    have hpath : pathId mp.mountPoint=id := by
      rw [getIdFromMountpoint] at hid
      rw [pathId]
      split at hid
      · rename_i hroot
        rw [if_pos hroot]
        exact Except.ok.inj hid
      · rename_i hroot
        rw [if_neg hroot]
        split at hid
        · cases hid
        · exact Except.ok.inj hid
    dsimp only
    rw [hid,spaceTags,hpath]
    rfl

/-- All mount points are gone through. -/
theorem mapM_updateStatsFor (mountPoints : List MountPoint) :
    (mountPoints.mapM (updateStatsFor fs)).map List.flatten=
      .ok (mountPoints.flatMap (spaceSets fs)) := by
  have hmap : mountPoints.mapM (updateStatsFor fs)=.ok (mountPoints.map (spaceSets fs)) := by
    induction mountPoints with
    | nil => rfl
    | cons mp mountPoints ih =>
      rw [List.mapM_cons,updateStatsFor_eq,ih]
      rfl
  rw [hmap,List.flatMap_def]
  rfl

end MountPoints

section Pass

variable {container : Bool} {fs : FileSystem} {filesystems : List Token} {lines : List MountLine}
  {final : Bool}

/-- The mount points that are listed. -/
def listed (container : Bool) (filesystems : List Token) (lines : List MountLine) :
    List MountPoint :=
  (lines.filter fun line => line.Listed container filesystems).map MountLine.entry

/-- What the files and the lines in them are to a pass. -/
structure Readable (filesystems : List Token) (lines : List MountLine) : Prop where
  filesystems : ∀ line∈filesystems,'\n' ∉ line ∧ ("nodev\t".toList <+: line → '\x00' ∉ line) ∧
    line.length<lineRoom
  lines : ∀ line∈lines,line.Formatted ∧ line.Unspaced

/-- The loop over mountinfo ends with the mount points that are listed. -/
theorem ends_listed (h : Readable filesystems lines) (container final : Bool) :
    GetMountPoints container (some (unlines filesystems)) (some (mountinfo lines final))
      (listed container filesystems lines) := by
  have hends := ends_mountinfo (unwantedFilesystems container (some (unlines filesystems)))
    h.lines final []
  have hlisted : ∀ line : MountLine,line.Listed container filesystems ↔ line.root="/".toList ∧
      line.fsType∉unwantedFilesystems container (some (unlines filesystems)) := by
    intro line
    rw [mem_unwantedFilesystems_iff container h.filesystems,not_not]
    rfl
  simp only [List.nil_append,←hlisted] at hends
  exact hends

/-- A pass over written files comes to its end, in whatever order the mount
points are handed out, and sets exactly the gauges of the mount points that are
of interest among those that are listed: the first one with the shortest path
of each device number. -/
theorem statsForInterestingMps_exact (h : Readable filesystems lines) (container final : Bool)
    (fs : FileSystem) :
    (∃ outcome,StatsForInterestingMps container fs (some (unlines filesystems))
      (some (mountinfo lines final)) outcome) ∧
    ∀ outcome,StatsForInterestingMps container fs (some (unlines filesystems))
      (some (mountinfo lines final)) outcome →
        ∃ chosen,Interesting (listed container filesystems lines) chosen ∧
          outcome=.ok (chosen.flatMap (spaceSets fs)) := by
  have hends := ends_listed h container final
  refine ⟨⟨_,_,_,hends,List.Perm.refl _,rfl⟩,?_⟩
  rintro outcome ⟨mountPoints,interesting,hmounts,hperm,rfl⟩
  rw [Ends.unique hmounts hends] at hperm
  exact ⟨interesting,interesting_filterInteresting hperm,mapM_updateStatsFor fs interesting⟩

/-- A root and its /root that are both held in memory. -/
def memoryMounts : List MountLine :=
  [⟨24,1,0,21,"/".toList,"/".toList,"rw".toList,[],"tmpfs".toList,"tmpfs".toList,"rw".toList⟩,
    ⟨25,24,0,22,"/".toList,"/root".toList,"rw".toList,[],"tmpfs".toList,"tmpfs".toList,
      "rw".toList⟩]

/-- More is free below /root than in the root itself, which has no inodes. -/
def memorySpace : FileSystem where
  statvfs path := if path=[] then none
    else if path="/".toList then some ⟨4096,100,25,0,0⟩ else some ⟨4096,100,50,10,4⟩
  statvfs_nil := rfl

theorem readable_memoryMounts : Readable [] memoryMounts := by
  refine ⟨fun line hline => (List.not_mem_nil hline).elim,?_⟩
  have hfields : ∀ line∈memoryMounts,(∀ field∈[line.root,line.mountPoint,line.options,line.fsType,
      line.source,line.superOptions]++line.optional,field≠[] ∧ ' ' ∉ field ∧ '\n' ∉ field) ∧
      (∀ field∈line.options::line.optional,'-' ∉ field) ∧
      ∀ field∈[line.root,line.mountPoint,line.fsType,line.source],
        (field.all fun c => !isSpace c)=true := by
    decide
  intro line hline
  obtain ⟨hformat,hdash,hspace⟩ := hfields line hline
  have hunspaced : ∀ field∈[line.root,line.mountPoint,line.fsType,line.source],
      ∀ c∈field,isSpace c=false := fun field hfield => noSpace_of_all (hspace field hfield)
  exact ⟨⟨hformat,hdash⟩,hunspaced line.root (by simp),fun _ field hfield =>
    hunspaced field (List.mem_cons_of_mem _ hfield)⟩

/-- What is set of the two mounts. -/
def memorySets : List GaugeSet :=
  let tags := [("id".toList,"root".toList),("dev".toList,"tmpfs".toList)]
  [⟨.bytesFree,tags,.finite 102400⟩,⟨.bytesUsed,tags,.finite 307200⟩,
    ⟨.bytesMax,tags,.finite 409600⟩,⟨.bytesPercentUsed,tags,.finite 75⟩,
    ⟨.bytesFree,tags,.finite 204800⟩,⟨.bytesUsed,tags,.finite 204800⟩,
    ⟨.bytesMax,tags,.finite 409600⟩,⟨.bytesPercentUsed,tags,.finite 50⟩,
    ⟨.inodesFree,tags,.finite 4⟩,⟨.inodesUsed,tags,.finite 6⟩,⟨.inodesPercentUsed,tags,.finite 60⟩]

/-- A pass that is handed the root first. -/
theorem pass_memoryMounts :
    StatsForInterestingMps false memorySpace (some (unlines []))
      (some (mountinfo memoryMounts true)) (.ok memorySets) := by
  have hchosen : filterInterestingMountPoints (listed false [] memoryMounts)=
      (memoryMounts.map MountLine.entry).reverse := by decide +kernel
  have hsets : (memoryMounts.map MountLine.entry).flatMap (spaceSets memorySpace)=memorySets := by
    decide +kernel
  refine ⟨_,memoryMounts.map MountLine.entry,ends_listed readable_memoryMounts false true,?_,?_⟩
  · rw [hchosen]
    exact (List.reverse_perm _).symm
  · rw [mapM_updateStatsFor,hsets]

/-- Both mounts are of interest in it, and no other one. -/
theorem statsForInterestingMps_memoryMounts :
    ∃ chosen,Interesting (listed false [] memoryMounts) chosen ∧
      memorySets=chosen.flatMap (spaceSets memorySpace) := by
  obtain ⟨-,hpasses⟩ := statsForInterestingMps_exact readable_memoryMounts false true memorySpace
  obtain ⟨chosen,hinteresting,hsets⟩ := hpasses _ pass_memoryMounts
  exact ⟨chosen,hinteresting,Except.ok.inj hsets⟩

end Pass

end AtlasAgent.DiskSpaceSeries
