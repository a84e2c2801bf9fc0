import AtlasAgent.KeptMinimum
import AtlasAgent.TextFields
import Mathlib.Data.UInt

/-!
# Disk::filter_interesting_mount_points

Of the mount points of a device only one is of interest, the first one with
the shortest path. A candidate is a pointer to an element of the input, taken
here as that element. The result is listed in the order in which the hash map
is iterated, which is any order.
-/

namespace AtlasAgent.MountPoints

open KeptMinimum TextFields

/-- struct MountPoint. -/
structure MountPoint where
  deviceMajor : UInt32
  deviceMinor : UInt32
  mountPoint : Token
  device : Token
  fsType : Token
  deriving DecidableEq

/-- kLoopDevice. -/
def kLoopDevice : UInt32 := 7

/-- kRamDevice. -/
def kRamDevice : UInt32 := 1

/-- What c_str shows of a string to a function that stops at a null character. -/
def cStr (text : Token) : Token := text.takeWhile (· ≠ '\x00')

/-- starts_with of util.cpp. -/
def startsWith (line linePrefix : Token) : Bool := linePrefix.isPrefixOf (cStr line)

/-- The prefixes of the paths that are passed over. -/
def excludedPrefixes : List Token :=
  ["/dev".toList,"/mnt/docker".toList,"/mnt/jenkins".toList,"/mnt/kubelet".toList,
    "/proc".toList,"/run".toList,"/sys".toList,"/tmp/buildkit".toList,"/var/lib".toList]

/-- The key of a device: its numbers packed into 64 bits. -/
def deviceKey (mp : MountPoint) : UInt64 :=
  (mp.deviceMajor.toUInt64 <<< 32) ||| mp.deviceMinor.toUInt64

/-- Length of the path of a mount point. -/
def pathLength (mp : MountPoint) : ℕ := mp.mountPoint.length

/-- One pass of the loop. -/
def candidateStep (candidates : AList fun _ : UInt64 => MountPoint) (mp : MountPoint) :
    AList fun _ : UInt64 => MountPoint :=
  if mp.deviceMajor=kLoopDevice ∨ mp.deviceMajor=kRamDevice then candidates
  else if excludedPrefixes.any (startsWith mp.mountPoint) then candidates
  else keepMinimum deviceKey pathLength candidates mp

/-- Disk::filter_interesting_mount_points, up to the order of its result. -/
def filterInterestingMountPoints (mountPoints : List MountPoint) : List MountPoint :=
  values (mountPoints.foldl candidateStep ∅)

/-- A mount point that the loop does not pass over. -/
def Eligible (mp : MountPoint) : Prop :=
  mp.deviceMajor≠1 ∧ mp.deviceMajor≠7 ∧ ∀ excluded∈excludedPrefixes,¬excluded<+:mp.mountPoint

/-- The device number of a mount point. -/
def deviceNumber (mp : MountPoint) : UInt32×UInt32 := (mp.deviceMajor,mp.deviceMinor)

/-- What a list of interesting mount points is to the list it was taken from. -/
structure Interesting (mountPoints interesting : List MountPoint) : Prop where
  /-- A device number has one entry at most. -/
  single : (interesting.map deviceNumber).Nodup
  /-- It has one exactly when it is that of an eligible mount point. -/
  devices : ∀ number,number∈interesting.map deviceNumber ↔
    ∃ mp∈mountPoints,Eligible mp ∧ deviceNumber mp=number
  /-- An entry is an eligible mount point, longer eligible paths of its device
  alone standing before it. -/
  first : ∀ entry∈interesting,Eligible entry ∧ ∃ before after,
    mountPoints=before++entry::after ∧ ∀ mp∈before,Eligible mp →
      deviceNumber mp=deviceNumber entry → pathLength entry<pathLength mp
  /-- No eligible path of the device is shorter. -/
  shortest : ∀ entry∈interesting,∀ mp∈mountPoints,Eligible mp →
    deviceNumber mp=deviceNumber entry → pathLength entry ≤ pathLength mp

/-- A prefix without null characters is found in front of the first one. -/
theorem startsWith_iff {line linePrefix : Token} (h : '\x00' ∉ linePrefix) :
    startsWith line linePrefix=true ↔ linePrefix<+:line := by
  rw [startsWith,List.isPrefixOf_iff_prefix,cStr]
  constructor
  · exact fun hbegins => hbegins.trans (List.takeWhile_prefix _)
  · rintro ⟨rest,rfl⟩
    rw [List.takeWhile_append_of_pos (decide_ne_of_not_mem h)]
    exact List.prefix_append _ _

/-- The loop passes over a mount point exactly when it is not eligible. -/
theorem candidateStep_eq (candidates : AList fun _ : UInt64 => MountPoint) (mp : MountPoint)
    [Decidable (Eligible mp)] :
    candidateStep candidates mp=
      if Eligible mp then keepMinimum deviceKey pathLength candidates mp else candidates := by
  have hnull : ∀ excluded∈excludedPrefixes,'\x00' ∉ excluded := by decide
  have hany : excludedPrefixes.any (startsWith mp.mountPoint)=true ↔
      ∃ excluded∈excludedPrefixes,excluded<+:mp.mountPoint := by
    rw [List.any_eq_true]
    exact exists_congr fun excluded => and_congr_right fun hmem =>
      startsWith_iff (hnull excluded hmem)
  rw [candidateStep]
  by_cases hmajor : mp.deviceMajor=kLoopDevice ∨ mp.deviceMajor=kRamDevice
  · have hnot : ¬Eligible mp := fun h => hmajor.elim h.2.1 h.1
    rw [if_pos hmajor,if_neg hnot]
  · rw [if_neg hmajor]
    by_cases hexcluded : excludedPrefixes.any (startsWith mp.mountPoint)=true
    · obtain ⟨excluded,hmem,hbegins⟩ := hany.mp hexcluded
      have hnot : ¬Eligible mp := fun h => h.2.2 excluded hmem hbegins
      rw [if_pos hexcluded,if_neg hnot]
    · rw [not_or] at hmajor
      have heligible : Eligible mp := ⟨hmajor.2,hmajor.1,fun excluded hmem hbegins =>
        hexcluded (hany.mpr ⟨excluded,hmem,hbegins⟩)⟩
      rw [if_neg hexcluded,if_pos heligible]

/-- The two numbers of a device lie side by side in its key. -/
theorem deviceKey_toNat (mp : MountPoint) :
    (deviceKey mp).toNat=2^32*mp.deviceMajor.toNat+mp.deviceMinor.toNat := by
  have hmajor := mp.deviceMajor.toNat_lt
  have hshift : mp.deviceMajor.toNat <<< 32%2^64=2^32*mp.deviceMajor.toNat := by
    rw [Nat.shiftLeft_eq]
    omega
  rw [deviceKey,UInt64.toNat_or,UInt64.toNat_shiftLeft,UInt32.toNat_toUInt64,
    UInt32.toNat_toUInt64]
  rw [show (32 : UInt64).toNat%64=32 from rfl,hshift]
  exact (Nat.two_pow_add_eq_or_of_lt mp.deviceMinor.toNat_lt _).symm

/-- Different device numbers have different keys. -/
theorem deviceKey_inj {mp other : MountPoint} :
    deviceKey mp=deviceKey other ↔ deviceNumber mp=deviceNumber other := by
  have hminor := mp.deviceMinor.toNat_lt
  have hother := other.deviceMinor.toNat_lt
  rw [←UInt64.toNat_inj,deviceKey_toNat,deviceKey_toNat,deviceNumber,deviceNumber,Prod.mk.injEq,
    ←UInt32.toNat_inj,←UInt32.toNat_inj]
  omega

/-- The loop keeps the first minima of the eligible mount points. -/
theorem candidates_eq (mountPoints : List MountPoint) [DecidablePred Eligible] :
    mountPoints.foldl candidateStep ∅=
      keptMinima deviceKey pathLength (mountPoints.filter fun mp => decide (Eligible mp)) := by
  rw [keptMinima,List.foldl_filter]
  refine congrArg (fun step => mountPoints.foldl step ∅) ?_
  funext candidates mp
  rw [candidateStep_eq]
  simp only [decide_eq_true_eq]

/-- What the function returns, in whatever order. -/
theorem interesting_filterInteresting {mountPoints interesting : List MountPoint}
    (h : interesting.Perm (filterInterestingMountPoints mountPoints)) :
    Interesting mountPoints interesting := by
  classical
  rw [filterInterestingMountPoints,candidates_eq] at h
  have hmem : ∀ entry∈interesting,
      FirstMinimum deviceKey pathLength (mountPoints.filter fun mp => decide (Eligible mp)) entry :=
    fun entry hentry => (firstMinimum_of_mem _ _ (h.mem_iff.mp hentry)).2
  have heligible : ∀ entry∈interesting,entry∈mountPoints ∧ Eligible entry := by
    intro entry hentry
    obtain ⟨before,after,hsplit,-⟩ := (hmem entry hentry).first
    have hfilter : entry∈mountPoints.filter fun mp => decide (Eligible mp) := by
      rw [hsplit]
      simp
    simpa using hfilter
  refine ⟨?_,fun number => ?_,fun entry hentry => ⟨(heligible entry hentry).2,?_⟩,?_⟩
  · have hnodup := (h.map deviceKey).nodup_iff.mpr (nodup_keys deviceKey pathLength _)
    rw [List.Nodup,List.pairwise_map] at hnodup ⊢
    exact hnodup.imp fun hne heq => hne (deviceKey_inj.mpr heq)
  · rw [List.mem_map]
    constructor
    · rintro ⟨entry,hentry,rfl⟩
      exact ⟨entry,(heligible entry hentry).1,(heligible entry hentry).2,rfl⟩
    · rintro ⟨mp,hmp,hok,rfl⟩
      have hfilter : mp∈mountPoints.filter fun mp => decide (Eligible mp) :=
        List.mem_filter.mpr ⟨hmp,decide_eq_true hok⟩
      obtain ⟨entry,hentry,hkey⟩ := exists_kept deviceKey pathLength hfilter
      exact ⟨entry,h.mem_iff.mpr hentry,deviceKey_inj.mp hkey⟩
  · obtain ⟨small,large,hfilter,hsmall⟩ := (hmem entry hentry).first
    obtain ⟨before,tail,rfl,rfl,htail⟩ := List.filter_eq_append_iff.mp hfilter
    obtain ⟨skipped,after,rfl,hskipped,-⟩ := List.filter_eq_cons_iff.mp htail
    refine ⟨before++skipped,after,by simp,fun mp hmp hok hsame => ?_⟩
    rcases List.mem_append.mp hmp with hmp|hmp
    · exact hsmall mp (List.mem_filter.mpr ⟨hmp,decide_eq_true hok⟩) (deviceKey_inj.mpr hsame)
    · exact absurd (decide_eq_true hok) (hskipped mp hmp)
  · exact fun entry hentry mp hmp hok hsame => (hmem entry hentry).minimal mp
      (List.mem_filter.mpr ⟨hmp,decide_eq_true hok⟩) (deviceKey_inj.mpr hsame)

/-- Two lists of the same mount points have entries for the same devices, and
of each device paths of equal length. -/
theorem Interesting.of_perm {mountPoints permuted interesting other : List MountPoint}
    (h : Interesting mountPoints interesting) (h' : Interesting permuted other)
    (hperm : mountPoints.Perm permuted) :
    (∀ number,number∈interesting.map deviceNumber ↔ number∈other.map deviceNumber) ∧
      ∀ entry∈interesting,∀ entry'∈other,deviceNumber entry=deviceNumber entry' →
        pathLength entry=pathLength entry' := by
  constructor
  · intro number
    rw [h.devices,h'.devices]
    simp only [hperm.mem_iff]
  · intro entry hentry entry' hentry' hsame
    obtain ⟨hok,before,after,hsplit,-⟩ := h.first entry hentry
    obtain ⟨hok',before',after',hsplit',-⟩ := h'.first entry' hentry'
    have hmem : entry∈permuted := hperm.mem_iff.mp (by rw [hsplit]; simp)
    have hmem' : entry'∈mountPoints := hperm.mem_iff.mpr (by rw [hsplit']; simp)
    have hle := h.shortest entry hentry entry' hmem' hok' hsame.symm
    have hge := h'.shortest entry' hentry' entry hmem hok hsame
    omega

/-- The function returns the first shortest eligible mount point of each device
number, once, and nothing else; a permutation of its input changes a result only
among equally short paths of one device. -/
theorem filterInterestingMountPoints_exact (mountPoints interesting : List MountPoint)
    (h : interesting.Perm (filterInterestingMountPoints mountPoints)) :
    Interesting mountPoints interesting ∧
      ∀ permuted other : List MountPoint,mountPoints.Perm permuted →
        other.Perm (filterInterestingMountPoints permuted) →
          (∀ number,number∈interesting.map deviceNumber ↔ number∈other.map deviceNumber) ∧
            ∀ entry∈interesting,∀ entry'∈other,deviceNumber entry=deviceNumber entry' →
              pathLength entry=pathLength entry' := by
  have hinteresting := interesting_filterInteresting h
  refine ⟨hinteresting,fun permuted other hperm hother => ?_⟩
  exact hinteresting.of_perm (interesting_filterInteresting hother) hperm

/-- Two mount points of a device below /mnt, the longer path first, and one
below /run. -/
def nestedMounts : List MountPoint :=
  [⟨9,0,"/mnt/data".toList,"/dev/md0".toList,"xfs".toList⟩,
    ⟨0,19,"/run".toList,"tmpfs".toList,"tmpfs".toList⟩,
    ⟨9,0,"/mnt".toList,"/dev/md0".toList,"xfs".toList⟩]

/-- Of the three mounts the shorter path below /mnt remains. -/
theorem filterInterestingMountPoints_nested :
    Interesting nestedMounts [⟨9,0,"/mnt".toList,"/dev/md0".toList,"xfs".toList⟩] :=
  (filterInterestingMountPoints_exact nestedMounts
    [⟨9,0,"/mnt".toList,"/dev/md0".toList,"xfs".toList⟩] (by
      have hresult : filterInterestingMountPoints nestedMounts=
          [⟨9,0,"/mnt".toList,"/dev/md0".toList,"xfs".toList⟩] := by decide +kernel
      rw [hresult])).1

end AtlasAgent.MountPoints
