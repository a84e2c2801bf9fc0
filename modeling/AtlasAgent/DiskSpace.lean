import AtlasAgent.MountPoints
import AtlasAgent.NumberText

/-!
# Disk::update_stats_for

What is published of the space of a file system: block counts times the block
size in unsigned 64-bit arithmetic, and two percentages, of which only that of
the inodes asks whether there are any. What statvfs reports is input. Numbers
that become doubles are exact.
-/

namespace AtlasAgent.DiskSpace

open IeeeDouble MountPoints NumberText TextFields

/-- The fields of struct statvfs that are used. -/
structure Statvfs where
  fBsize : UInt64
  fBlocks : UInt64
  fBfree : UInt64
  fFiles : UInt64
  fFfree : UInt64

/-- statvfs, none when it fails: there is no file without a path. -/
structure FileSystem where
  statvfs : Token → Option Statvfs
  statvfs_nil : statvfs []=none

/-- The gauges. -/
inductive SpaceGauge
  | bytesFree
  | bytesUsed
  | bytesMax
  | bytesPercentUsed
  | inodesFree
  | inodesUsed
  | inodesPercentUsed
  deriving DecidableEq

/-- The name of a gauge. -/
def SpaceGauge.name : SpaceGauge → Token
  | .bytesFree => "disk.bytesFree".toList
  | .bytesUsed => "disk.bytesUsed".toList
  | .bytesMax => "disk.bytesMax".toList
  | .bytesPercentUsed => "disk.bytesPercentUsed".toList
  | .inodesFree => "disk.inodesFree".toList
  | .inodesUsed => "disk.inodesUsed".toList
  | .inodesPercentUsed => "disk.inodesPercentUsed".toList

/-- A gauge that is set. -/
structure GaugeSet where
  gauge : SpaceGauge
  tags : List (Token×Token)
  value : Ieee
  deriving DecidableEq

/-- get_id_from_mountpoint; substr does not start behind the end. -/
def getIdFromMountpoint (mp : Token) : Except StdException Token :=
  if mp.length=1 then .ok "root".toList
  else if mp.length<1 then .error .outOfRange
  else .ok (mp.drop 1)

/-- get_dev_from_device. -/
def getDevFromDevice (device : Token) : Token :=
  if device.take 5="/dev/".toList then device.drop 5 else device

/-- An unsigned number that is set as a double. -/
def unsignedDouble (value : UInt64) : Ieee := .finite value.toNat

/-- 100.0 * part / whole. -/
def percentOf (part whole : UInt64) : Ieee :=
  .finite 100*unsignedDouble part/unsignedDouble whole

/-- The gauges of the bytes. -/
def bytesSets (tags : List (Token×Token)) (st : Statvfs) : List GaugeSet :=
  let bytesTotal := st.fBlocks*st.fBsize
  let bytesFree := st.fBfree*st.fBsize
  let bytesUsed := bytesTotal-bytesFree
  [⟨.bytesFree,tags,unsignedDouble bytesFree⟩,⟨.bytesUsed,tags,unsignedDouble bytesUsed⟩,
    ⟨.bytesMax,tags,unsignedDouble bytesTotal⟩,
    ⟨.bytesPercentUsed,tags,percentOf bytesUsed bytesTotal⟩]

/-- The gauges of the inodes. -/
def inodesSets (tags : List (Token×Token)) (st : Statvfs) : List GaugeSet :=
  if 0 < st.fFiles then
    let inodesUsed := st.fFiles-st.fFfree
    [⟨.inodesFree,tags,unsignedDouble st.fFfree⟩,⟨.inodesUsed,tags,unsignedDouble inodesUsed⟩,
      ⟨.inodesPercentUsed,tags,percentOf inodesUsed st.fFiles⟩]
  else []

/-- Disk::update_stats_for. An exception ends the process. -/
def updateStatsFor (fs : FileSystem) (mp : MountPoint) : Except StdException (List GaugeSet) :=
  match fs.statvfs (cStr mp.mountPoint) with
  | none => .ok []
  | some st => do
    let id ← getIdFromMountpoint mp.mountPoint
    let tags := [("id".toList,id),("dev".toList,getDevFromDevice mp.device)]
    pure (bytesSets tags st++inodesSets tags st)

/-- The number that a gauge is set to. -/
def numberOf (sets : List GaugeSet) (gauge : SpaceGauge) : Option ℚ :=
  (sets.find? fun set => set.gauge=gauge).bind fun set => set.value.number

/-- What statvfs reports of a file system: no more is free than there is, and
the bytes can be counted. -/
structure Consistent (st : Statvfs) : Prop where
  blocks : st.fBfree ≤ st.fBlocks
  files : st.fFfree ≤ st.fFiles
  fits : st.fBlocks.toNat*st.fBsize.toNat<2^64

/-- A used and a free part that make up the whole, and the percentage of the
used part, whose divisor is not zero. -/
structure Shares (used free whole percent : Option ℚ) : Prop where
  parts : ∃ u f : ℚ,used=some u ∧ free=some f ∧ whole=some (u+f)
  percentage : ∃ u w p : ℚ,used=some u ∧ whole=some w ∧ percent=some p ∧
    w≠0 ∧ p=100*u/w ∧ 0≤p ∧ p≤100

/-- What is promised of the gauges of a file system. -/
structure SpaceContract (st : Statvfs) (sets : List GaugeSet) : Prop where
  defined : ∀ set∈sets,∃ q,set.value=.finite q
  bytes : Shares (numberOf sets .bytesUsed) (numberOf sets .bytesFree)
    (numberOf sets .bytesMax) (numberOf sets .bytesPercentUsed)
  inodes : (∃ set∈sets,set.gauge∈[.inodesFree,.inodesUsed,.inodesPercentUsed]) →
    Shares (numberOf sets .inodesUsed) (numberOf sets .inodesFree)
      (some (st.fFiles.toNat : ℚ)) (numberOf sets .inodesPercentUsed)

/-- A part of a whole and what is left of it, as they are set. -/
theorem shares_of_le {part whole : UInt64} (hle : part≤whole) (hpos : whole≠0) :
    Shares (unsignedDouble (whole-part)).number (unsignedDouble part).number
      (some (whole.toNat : ℚ)) (percentOf (whole-part) whole).number := by
  have hwhole : (whole.toNat : ℚ)≠0 := by
    rwa [Nat.cast_ne_zero,Ne,←UInt64.toNat_zero,UInt64.toNat_inj]
  have hsub : (whole-part).toNat+part.toNat=whole.toNat := by
    rw [UInt64.toNat_sub_of_le _ _ hle]
    exact Nat.sub_add_cancel (UInt64.le_iff_toNat_le.mp hle)
  have hused : ((whole-part).toNat : ℚ)≤whole.toNat := Nat.cast_le.mpr (by omega)
  have hpositive : (0 : ℚ)<whole.toNat := lt_of_le_of_ne (Nat.cast_nonneg _) hwhole.symm
  constructor
  · exact ⟨_,_,rfl,rfl,by rw [←Nat.cast_add,hsub]⟩
  · refine ⟨_,_,_,rfl,rfl,?_,hwhole,rfl,?_,?_⟩
    · rw [percentOf,unsignedDouble,unsignedDouble,Ieee.finite_mul,Ieee.finite_div hwhole]
      rfl
    · exact div_nonneg (mul_nonneg (by norm_num) (Nat.cast_nonneg _)) (Nat.cast_nonneg _)
    · rw [div_le_iff₀ hpositive]
      exact mul_le_mul_of_nonneg_left hused (by norm_num)

theorem percentOf_defined (part : UInt64) {whole : UInt64} (h : whole≠0) :
    ∃ q,percentOf part whole=.finite q := by
  have hwhole : (whole.toNat : ℚ)≠0 := by
    rwa [Nat.cast_ne_zero,Ne,←UInt64.toNat_zero,UInt64.toNat_inj]
  exact ⟨_,by rw [percentOf,unsignedDouble,unsignedDouble,Ieee.finite_mul,Ieee.finite_div hwhole]⟩

/-- Of nothing there is no percentage. -/
theorem percentOf_zero (part : UInt64) (h : part=0) : percentOf part 0=.nan := by
  subst h
  change Ieee.div (.finite (100*((0 : UInt64).toNat : ℚ))) (.finite ((0 : UInt64).toNat : ℚ))=.nan
  simp [Ieee.div]

/-- A file system with a path of its own has an id. -/
theorem exists_id (fs : FileSystem) {mp : MountPoint} {st : Statvfs}
    (h : fs.statvfs (cStr mp.mountPoint)=some st) :
    ∃ id,getIdFromMountpoint mp.mountPoint=.ok id := by
  have hne : mp.mountPoint≠[] := by
    intro hempty
    rw [hempty,show cStr []=[] from rfl,fs.statvfs_nil] at h
    cases h
  have hlength : ¬mp.mountPoint.length<1 := by
    rw [Nat.lt_one_iff,List.length_eq_zero_iff]
    exact hne
  by_cases hroot : mp.mountPoint.length=1
  · exact ⟨_,if_pos hroot⟩
  · exact ⟨_,by rw [getIdFromMountpoint,if_neg hroot,if_neg hlength]⟩

/-- The products are those of the numbers of blocks. -/
theorem Consistent.bytes {st : Statvfs} (h : Consistent st) :
    st.fBfree*st.fBsize ≤ st.fBlocks*st.fBsize ∧
      (st.fBlocks*st.fBsize≠0 ↔ st.fBlocks≠0 ∧ st.fBsize≠0) := by
  have hfree := Nat.mul_le_mul_right st.fBsize.toNat (UInt64.le_iff_toNat_le.mp h.blocks)
  have hfits := h.fits
  constructor
  · rw [UInt64.le_iff_toNat_le,UInt64.toNat_mul,UInt64.toNat_mul,Nat.mod_eq_of_lt h.fits,
      Nat.mod_eq_of_lt (hfree.trans_lt hfits)]
    exact hfree
  · simp only [Ne,←UInt64.toNat_inj,UInt64.toNat_mul,Nat.mod_eq_of_lt h.fits,UInt64.toNat_zero,
      Nat.mul_eq_zero,not_or]

/-- The gauges of a file system with blocks keep the promise. -/
theorem spaceContract_of_blocks {st : Statvfs} (h : Consistent st)
    (hblocks : st.fBlocks≠0 ∧ st.fBsize≠0) (tags : List (Token×Token)) :
    SpaceContract st (bytesSets tags st++inodesSets tags st) := by
  obtain ⟨hle,hiff⟩ := h.bytes
  have htotal := hiff.mpr hblocks
  have hbytes := shares_of_le hle htotal
  rw [inodesSets]
  by_cases hfiles : 0 < st.fFiles
  · have hne : st.fFiles≠0 := by
      intro hzero
      rw [hzero] at hfiles
      exact UInt64.lt_irrefl 0 hfiles
    have hinodes := shares_of_le h.files hne
    rw [if_pos hfiles]
    refine ⟨?_,hbytes,fun _ => hinodes⟩
    obtain ⟨p,hp⟩ := percentOf_defined (st.fBlocks*st.fBsize-st.fBfree*st.fBsize) htotal
    obtain ⟨q,hq⟩ := percentOf_defined (st.fFiles-st.fFfree) hne
    simp [bytesSets,hp,hq,unsignedDouble]
  · rw [if_neg hfiles,List.append_nil]
    refine ⟨?_,hbytes,fun hinode => ?_⟩
    · obtain ⟨p,hp⟩ := percentOf_defined (st.fBlocks*st.fBsize-st.fBfree*st.fBsize) htotal
      simp [bytesSets,hp,unsignedDouble]
    · simp [bytesSets] at hinode

/-- Without blocks the percentage of the bytes is no number. -/
theorem percentage_of_no_blocks {st : Statvfs} (h : Consistent st)
    (hblocks : ¬(st.fBlocks≠0 ∧ st.fBsize≠0)) (tags : List (Token×Token)) :
    ⟨.bytesPercentUsed,tags,.nan⟩∈bytesSets tags st++inodesSets tags st := by
  obtain ⟨hle,hiff⟩ := h.bytes
  have htotal : st.fBlocks*st.fBsize=0 := not_not.mp (hiff.not.mpr hblocks)
  -- the divisor is zero, and so is what is divided
  have hused : st.fBlocks*st.fBsize-st.fBfree*st.fBsize=0 := by
    rw [htotal] at hle ⊢
    rw [UInt64.le_antisymm hle UInt64.zero_le,UInt64.sub_self]
  have hnan := percentOf_zero _ hused
  rw [←hnan]
  refine List.mem_append_left _ (List.mem_of_getElem? (i:=3) ?_)
  rw [bytesSets,htotal]
  rfl

/-- For a file system whose numbers are consistent, the gauges are what is
promised exactly when it has blocks and they have a size. -/
theorem updateStatsFor_iff (fs : FileSystem) (mp : MountPoint) {st : Statvfs}
    (hst : fs.statvfs (cStr mp.mountPoint)=some st) (h : Consistent st) :
    (∃ sets,updateStatsFor fs mp=.ok sets ∧ SpaceContract st sets) ↔
      st.fBlocks≠0 ∧ st.fBsize≠0 := by
  obtain ⟨id,hid⟩ := exists_id fs hst
  have hsets : updateStatsFor fs mp=
      .ok (bytesSets [("id".toList,id),("dev".toList,getDevFromDevice mp.device)] st++
        inodesSets [("id".toList,id),("dev".toList,getDevFromDevice mp.device)] st) := by
    rw [updateStatsFor,hst,hid]
    rfl
  rw [hsets]
  constructor
  · rintro ⟨sets,heq,hcontract⟩
    obtain rfl := Except.ok.inj heq
    by_contra hblocks
    obtain ⟨q,hq⟩ := hcontract.defined _ (percentage_of_no_blocks h hblocks _)
    cases hq
  · exact fun hblocks => ⟨_,rfl,spaceContract_of_blocks h hblocks _⟩

/-- Every file is on one file system of a hundred blocks. -/
def hundredBlocks : FileSystem where
  statvfs path := if path=[] then none else some ⟨4096,100,25,10,4⟩
  statvfs_nil := rfl

/-- The root of the device with the numbers 8:1. -/
def rootMount : MountPoint := ⟨8,1,['/'],"/dev/sda1".toList,"ext4".toList⟩

/-- The rule at a file system with blocks. -/
theorem updateStatsFor_hundredBlocks :
    ∃ sets,updateStatsFor hundredBlocks rootMount=.ok sets ∧
      SpaceContract ⟨4096,100,25,10,4⟩ sets :=
  (updateStatsFor_iff hundredBlocks rootMount rfl ⟨by decide,by decide,by decide⟩).mpr
    ⟨by decide,by decide⟩

/-- A file system that reports no blocks, as some virtual ones do. -/
def noBlocks : FileSystem where
  statvfs path := if path=[] then none else some ⟨4096,0,0,0,0⟩
  statvfs_nil := rfl

/-- Zero blocks are published as a percentage that is no number. -/
theorem noBlocks_not_a_number :
    Consistent ⟨4096,0,0,0,0⟩ ∧ ∃ sets,updateStatsFor noBlocks rootMount=.ok sets ∧
      .nan∈sets.map GaugeSet.value ∧ ¬SpaceContract ⟨4096,0,0,0,0⟩ sets := by
  have hconsistent : Consistent ⟨4096,0,0,0,0⟩ := ⟨by decide,by decide,by decide⟩
  have hnan := percentage_of_no_blocks hconsistent (by decide)
    [("id".toList,"root".toList),("dev".toList,getDevFromDevice rootMount.device)]
  refine ⟨hconsistent,_,rfl,List.mem_map.mpr ⟨_,hnan,rfl⟩,fun hcontract => ?_⟩
  obtain ⟨q,hq⟩ := hcontract.defined _ hnan
  cases hq

end AtlasAgent.DiskSpace
