import AtlasAgent.ExactDouble
import AtlasAgent.LatestSample
import AtlasAgent.MonotonicTimer
import Mathlib.Data.List.AList

/-!
# Disk::diskio_stats and the busy percentage of a device

A cycle of do_disk_stats reads the parsed lines of /proc/diskstats and keeps
three things: a timer for each direction of each device, the ms_doing_io of
each device at its last reading, and one time for all devices, taken when the
cycle ends. The mount-point part of the cycle shares no state with these and
is left out. An absl::Time is the integer number of its quarter-nanosecond
ticks since the Unix epoch.
-/

namespace AtlasAgent.DiskStats

open RunHistory LatestSample ExactDouble MonotonicTimer

/-- A std::string of /proc/diskstats. -/
abbrev Token := List Char

/-- One line of /proc/diskstats, as get_disk_stats returns it. -/
structure DiskIo where
  major : ℤ
  minor : ℤ
  device : Token
  readsCompleted : UInt64
  readsMerged : UInt64
  rsect : UInt64
  msReading : UInt64
  writesCompleted : UInt64
  writesMerged : UInt64
  wsect : UInt64
  msWriting : UInt64
  iosInProgress : UInt64
  msDoingIo : UInt64
  weightedMsDoingIo : UInt64
  deriving DecidableEq

/-- kMultipleDevice. -/
def kMultipleDevice : ℤ := 9

/-- kLoopDevice. -/
def kLoopDevice : ℤ := 7

/-- kRamDevice. -/
def kRamDevice : ℤ := 1

/-- The id tag of a disk.io meter. -/
inductive IoDirection
  | read
  | write
  deriving DecidableEq

/-- What a cycle sends to the registry. -/
inductive DiskPublication
  /-- disk.io.bytes, a monotonic counter, with tags id and dev. -/
  | ioBytes (id : IoDirection) (dev : Token) (bytes : ℚ)
  /-- disk.io.ops with tags id and dev, through the timer of that meter. -/
  | ioOps (id : IoDirection) (dev : Token) (increment : TimerIncrement)
  /-- disk.percentBusy, a gauge with tag dev. -/
  | percentBusy (dev : Token) (value : Double)
  deriving DecidableEq

/-- The members of Disk used by diskio_stats. -/
structure DiskState where
  /-- last_updated_, the Unix epoch before the first cycle has ended. -/
  lastUpdated : ℤ
  /-- last_ms_doing_io. -/
  lastMsDoingIo : AList (fun _ : Token => UInt64)
  /-- monotonic_timers_, by the tags of the disk.io.ops meter. -/
  monotonicTimers : AList (fun _ : IoDirection×Token => Timer)

/-- The members as the constructor leaves them. -/
def DiskState.init : DiskState := ⟨0,∅,∅⟩

/-- absl::ToInt64Milliseconds. -/
def toInt64Milliseconds (duration : ℤ) : ℤ := duration.tdiv 4000000

/-- absl::Milliseconds of an unsigned long, converted to int64_t first. -/
def millisecondsOfULong (n : UInt64) : ℤ := milliseconds n.toInt64.toInt

/-- The count of one direction as the timer receives it: an unsigned sum
converted to int64_t. -/
def monotonicCount (completed merged : UInt64) : ℤ := (completed+merged).toInt64.toInt

/-- The two timers of a device: those of the map, or two new ones when the map
has no read timer for it. -/
def deviceTimers (disk : DiskState) (dev : Token) : Timer×Timer :=
  match disk.monotonicTimers.lookup (.read,dev) with
  | some readTimer =>
    (readTimer,(disk.monotonicTimers.lookup (.write,dev)).getD Timer.init)
  | none => (Timer.init,Timer.init)

/-- The gauge set for a device, if any. The baseline is read with operator[],
which answers zero for a device that has none. -/
def percentBusy (start : ℤ) (disk : DiskState) (st : DiskIo) : List DiskPublication :=
  if 0<disk.lastUpdated then
    let deltaMillis := toInt64Milliseconds (start-disk.lastUpdated)
    let lastTime := (disk.lastMsDoingIo.lookup st.device).getD 0
    if lastTime ≤ st.msDoingIo then
      let deltaTimeDoingIo := st.msDoingIo-lastTime
      [.percentBusy st.device (divide (100*deltaTimeDoingIo.toNat) deltaMillis)]
    else []
  else []

/-- The body of the loop over the devices. -/
def deviceStep (start : ℤ) (disk : DiskState) (st : DiskIo) : DiskState×List DiskPublication :=
  if st.major=kLoopDevice ∨ st.major=kRamDevice then (disk,[])
  else
    let bytes : List DiskPublication :=
      [.ioBytes .read st.device (st.rsect*512).toNat,.ioBytes .write st.device (st.wsect*512).toNat]
    if st.major=kMultipleDevice then (disk,bytes)
    else
      let timers := deviceTimers disk st.device
      let readUpdate := update timers.1
        ⟨millisecondsOfULong st.msReading,monotonicCount st.readsCompleted st.readsMerged⟩
      let writeUpdate := update timers.2
        ⟨millisecondsOfULong st.msWriting,monotonicCount st.writesCompleted st.writesMerged⟩
      ({ disk with
          lastMsDoingIo := disk.lastMsDoingIo.insert st.device st.msDoingIo
          monotonicTimers := (disk.monotonicTimers.insert (.read,st.device) readUpdate.1).insert
            (.write,st.device) writeUpdate.1 },
        bytes++readUpdate.2.map (.ioOps .read st.device)++
          writeUpdate.2.map (.ioOps .write st.device)++percentBusy start disk st)

/-- What one cycle reads. -/
structure DiskCycle where
  /-- absl::Now() when the cycle begins. -/
  start : ℤ
  /-- When /proc/diskstats is read; the code does not look at this time. -/
  readAt : ℤ
  /-- The parsed lines of the file; none when it cannot be opened. -/
  stats : List DiskIo
  /-- absl::Now() when the cycle ends. -/
  finish : ℤ

/-- Disk::diskio_stats. -/
def diskioStats (start : ℤ) (disk : DiskState) (stats : List DiskIo) :
    DiskState×List DiskPublication :=
  (runState (deviceStep start) disk stats,runOutput (deviceStep start) disk stats)

/-- Disk::do_disk_stats, without the mount points. -/
def doDiskStats (disk : DiskState) (cycle : DiskCycle) : DiskState×List DiskPublication :=
  let afterStats := diskioStats cycle.start disk cycle.stats
  ({ afterStats.1 with lastUpdated := cycle.finish },afterStats.2)

/-- A device for which the busy percentage is computed. -/
def Timed (st : DiskIo) : Prop :=
  st.major≠kLoopDevice ∧ st.major≠kRamDevice ∧ st.major≠kMultipleDevice

instance (st : DiskIo) : Decidable (Timed st) :=
  inferInstanceAs (Decidable (_ ∧ _ ∧ _))

/-- The ms_doing_io read for a device from one line. -/
def lineMsDoingIo (dev : Token) (st : DiskIo) : Option UInt64 :=
  if Timed st ∧ st.device=dev then some st.msDoingIo else none

/-- The ms_doing_io read for a device in one cycle. -/
def msDoingIoRead (dev : Token) (cycle : DiskCycle) : Option UInt64 :=
  latest (lineMsDoingIo dev) cycle.stats

/-- The assumptions on a run: each cycle reads the file between its start and
its end, and ends before the next one starts; a file lists a device once; and
between two readings a device is busy no longer than the time that passed. -/
structure WellFormed (cycles : List DiskCycle) : Prop where
  /-- The file is read within the cycle. -/
  within : ∀ cycle∈cycles,cycle.start ≤ cycle.readAt ∧ cycle.readAt ≤ cycle.finish
  /-- Cycles do not overlap. -/
  apart : cycles.IsChain (fun earlier later => earlier.finish≤later.start)
  /-- A set of devices is listed. -/
  distinct : ∀ cycle∈cycles,(cycle.stats.map DiskIo.device).Nodup
  /-- Growth between two readings is bounded by the time between them. -/
  growth : cycles.Pairwise (fun earlier later => ∀ dev x y,
    msDoingIoRead dev earlier=some x → msDoingIoRead dev later=some y → x≤y →
      milliseconds (y-x).toNat≤later.readAt-earlier.readAt)

/-- When the latest of the cycles ended; the Unix epoch without one. -/
def latestFinish (before : List DiskCycle) : ℤ := (before.getLast?.map DiskCycle.finish).getD 0

/-- Whole milliseconds from the end of the previous cycle to the start of this one. -/
def pauseMillis (before : List DiskCycle) (cycle : DiskCycle) : ℤ :=
  toInt64Milliseconds (cycle.start-latestFinish before)

/-- A busy percentage published by a cycle is computed from the value read for
the device in the latest earlier cycle that read one, divided by a time that
is not zero, and lies between 0 and 100. -/
def BusySound (before : List DiskCycle) (cycle : DiskCycle) (dev : Token) (value : Double) :
    Prop :=
  ∃ st∈cycle.stats,st.device=dev ∧ ∃ base,latest (msDoingIoRead dev) before=some base ∧
    pauseMillis before cycle≠0 ∧
      value=.finite (100*(st.msDoingIo-base).toNat/pauseMillis before cycle) ∧
      value.Between 0 100

/-- The contract of a well-formed run: every published busy percentage is sound. -/
def BusyContract (cycles : List DiskCycle) : Prop :=
  WellFormed cycles → ∀ before cycle after,cycles=before++cycle::after →
    ∀ dev value,.percentBusy dev value∈outputAfter doDiskStats DiskState.init before cycle →
      BusySound before cycle dev value

/-- Once a cycle has ended, every timed device has been read before, and its
growth since then, unless it went back, fits the whole milliseconds from the
end of the previous cycle to the start of this one, of which there is one. -/
def BusyWithinPause (disk : DiskState) (cycle : DiskCycle) : Prop :=
  0<disk.lastUpdated → ∀ st∈cycle.stats,Timed st →
    ∃ base,disk.lastMsDoingIo.lookup st.device=some base ∧
      (base ≤ st.msDoingIo → 0<toInt64Milliseconds (cycle.start-disk.lastUpdated) ∧
        ((st.msDoingIo-base).toNat : ℤ)≤toInt64Milliseconds (cycle.start-disk.lastUpdated))

@[simp] theorem deviceStep_lastUpdated (start : ℤ) (disk : DiskState) (st : DiskIo) :
    (deviceStep start disk st).1.lastUpdated=disk.lastUpdated := by
  unfold deviceStep
  split
  · rfl
  · dsimp only
    split <;> rfl

/-- One line replaces the baseline of its own device, when it is timed. -/
theorem deviceStep_lookup (start : ℤ) (disk : DiskState) (dev : Token) (st : DiskIo) :
    (deviceStep start disk st).1.lastMsDoingIo.lookup dev=
      (lineMsDoingIo dev st).or (disk.lastMsDoingIo.lookup dev) := by
  unfold deviceStep lineMsDoingIo Timed
  split
  · next h => rw [if_neg (by tauto),Option.none_or]
  · next hkind =>
    dsimp only
    split
    · next h => rw [if_neg (by tauto),Option.none_or]
    · next hmultiple =>
      by_cases hdev : st.device=dev
      · subst hdev
        rw [AList.lookup_insert,if_pos ⟨by tauto,rfl⟩,Option.some_or]
      · rw [AList.lookup_insert_ne (Ne.symm hdev),if_neg (fun h => hdev h.2),Option.none_or]

/-- A line publishes a busy percentage only for its own device, when it is timed. -/
theorem percentBusy_mem_deviceStep (start : ℤ) (disk : DiskState) (st : DiskIo)
    (dev : Token) (value : Double) :
    .percentBusy dev value∈(deviceStep start disk st).2 ↔
      Timed st ∧ .percentBusy dev value∈percentBusy start disk st := by
  unfold deviceStep Timed
  split
  · next h => simp only [List.not_mem_nil,false_iff]; tauto
  · next hkind =>
    dsimp only
    split
    · next h =>
      simp only [List.mem_cons,reduceCtorEq,List.not_mem_nil,or_self,false_iff]
      tauto
    · next hmultiple =>
      simp only [List.mem_append,List.mem_cons,List.mem_map,reduceCtorEq,List.not_mem_nil,
        and_false,exists_false,or_self,false_or]
      tauto

/-- The gauge of a line depends on the state only through the time of the last
cycle and the baseline of that line's device. -/
theorem percentBusy_congr (start : ℤ) {disk disk' : DiskState} {st : DiskIo}
    (hupdated : disk.lastUpdated=disk'.lastUpdated)
    (hlookup : disk.lastMsDoingIo.lookup st.device=disk'.lastMsDoingIo.lookup st.device) :
    percentBusy start disk st=percentBusy start disk' st := by
  rw [percentBusy,percentBusy,hupdated,hlookup]

/-- Lines read before keep the time of the last cycle. -/
theorem diskioStats_lastUpdated (start : ℤ) (disk : DiskState) (stats : List DiskIo) :
    (runState (deviceStep start) disk stats).lastUpdated=disk.lastUpdated :=
  invariant_every_run (fun s : DiskState => s.lastUpdated=disk.lastUpdated)
    (fun s st h => by rw [deviceStep_lastUpdated,h]) rfl stats

/-- Lines of other devices keep the baseline of a device. -/
theorem diskioStats_lookup (start : ℤ) (disk : DiskState) (dev : Token) (stats : List DiskIo) :
    (runState (deviceStep start) disk stats).lastMsDoingIo.lookup dev=
      (latest (lineMsDoingIo dev) stats).or (disk.lastMsDoingIo.lookup dev) :=
  baseline_every_run (fun s => s.lastMsDoingIo.lookup dev) (lineMsDoingIo dev)
    (fun s st => deviceStep_lookup start s dev st) disk stats

/-- After any run the baseline of a device is its latest reading. -/
theorem lookup_run (dev : Token) (cycles : List DiskCycle) :
    (runState doDiskStats DiskState.init cycles).lastMsDoingIo.lookup dev=
      latest (msDoingIoRead dev) cycles := by
  rw [baseline_every_run (fun s : DiskState => s.lastMsDoingIo.lookup dev) (msDoingIoRead dev)
    (fun s cycle => diskioStats_lookup cycle.start s dev cycle.stats)]
  exact Option.or_none

/-- After any run the common time is the end of its last cycle. -/
theorem lastUpdated_run (cycles : List DiskCycle) :
    (runState doDiskStats DiskState.init cycles).lastUpdated=latestFinish cycles := by
  rcases List.eq_nil_or_concat' cycles with rfl|⟨cycles,cycle,rfl⟩
  · rfl
  · simp [runState_concat,latestFinish,doDiskStats]

/-- When a file lists each device once, a cycle publishes the busy percentages
of its timed lines, each computed in the state before the cycle. -/
theorem percentBusy_mem_doDiskStats {cycle : DiskCycle}
    (hdistinct : (cycle.stats.map DiskIo.device).Nodup) (disk : DiskState)
    (dev : Token) (value : Double) :
    .percentBusy dev value∈(doDiskStats disk cycle).2 ↔
      ∃ st∈cycle.stats,Timed st ∧ .percentBusy dev value∈percentBusy cycle.start disk st := by
  have hline : ∀ earlier st later,cycle.stats=earlier++st::later →
      percentBusy cycle.start (runState (deviceStep cycle.start) disk earlier) st=
        percentBusy cycle.start disk st := by
    intro earlier st later hsplit
    refine percentBusy_congr _ (diskioStats_lastUpdated _ _ _) ?_
    rw [hsplit,List.map_append,List.map_cons] at hdistinct
    have hother : latest (lineMsDoingIo st.device) earlier=none := by
      refine latest_eq_none_iff.mpr fun other hmem => if_neg fun h => ?_
      exact (List.nodup_append.mp hdistinct).2.2 other.device
        (List.mem_map_of_mem hmem) st.device (by simp) h.2
    rw [diskioStats_lookup,hother,Option.none_or]
  rw [doDiskStats,diskioStats]
  dsimp only
  rw [mem_runOutput]
  constructor
  · rintro ⟨earlier,st,later,hsplit,hmem⟩
    obtain ⟨htimed,hmem⟩ := (percentBusy_mem_deviceStep _ _ _ _ _).mp hmem
    rw [hline earlier st later hsplit] at hmem
    exact ⟨st,by rw [hsplit]; simp,htimed,hmem⟩
  · rintro ⟨st,hst,htimed,hmem⟩
    obtain ⟨earlier,later,hsplit⟩ := List.append_of_mem hst
    refine ⟨earlier,st,later,hsplit,(percentBusy_mem_deviceStep _ _ _ _ _).mpr ⟨htimed,?_⟩⟩
    rw [hline earlier st later hsplit]
    exact hmem

/-- What a line publishes, and when. -/
theorem mem_percentBusy_iff (start : ℤ) (disk : DiskState) (st : DiskIo)
    (dev : Token) (value : Double) :
    .percentBusy dev value∈percentBusy start disk st ↔
      0<disk.lastUpdated ∧ (disk.lastMsDoingIo.lookup st.device).getD 0 ≤ st.msDoingIo ∧
        dev=st.device ∧ value=divide
          (100*(st.msDoingIo-(disk.lastMsDoingIo.lookup st.device).getD 0).toNat)
          (toInt64Milliseconds (start-disk.lastUpdated)) := by
  unfold percentBusy
  by_cases hupdated : 0<disk.lastUpdated
  · by_cases hback : (disk.lastMsDoingIo.lookup st.device).getD 0 ≤ st.msDoingIo
    · simp [hupdated,hback]
    · simp [hupdated,hback]
  · simp [hupdated]

/-- In a well-formed run the pause before a cycle is not negative. -/
theorem pauseMillis_nonneg {cycles before after : List DiskCycle} {cycle : DiskCycle}
    (hwf : WellFormed cycles) (hsplit : cycles=before++cycle::after)
    (hupdated : 0<latestFinish before) : 0≤pauseMillis before cycle := by
  rcases List.eq_nil_or_concat' before with rfl|⟨earlier,last,rfl⟩
  · exact absurd hupdated (by simp [latestFinish])
  · have hchain := hwf.apart
    rw [hsplit,List.append_assoc,List.singleton_append,List.isChain_append_cons_cons] at hchain
    have hle := hchain.2.1
    simp only [pauseMillis,latestFinish,List.getLast?_append,List.getLast?_singleton,
      Option.some_or,Option.map_some,Option.getD_some,toInt64Milliseconds]
    exact Int.tdiv_nonneg (by omega) (by norm_num)

/-- The value of a line with a baseline is a percentage exactly when the pause
is positive and holds the growth. -/
theorem busy_between_iff {growth : ℕ} {deltaMillis : ℤ} (h : 0≤deltaMillis) :
    (divide (100*growth) deltaMillis).Between 0 100 ↔
      0<deltaMillis ∧ (growth : ℤ)≤deltaMillis := by
  rw [percentage_between_iff (Nat.cast_nonneg growth) (Int.cast_nonneg h)]
  norm_cast

/-- One cycle from a state that holds the latest readings publishes sound
percentages only exactly when every timed device fits the pause. -/
theorem busySound_iff {before : List DiskCycle} {cycle : DiskCycle} {disk : DiskState}
    (hdistinct : (cycle.stats.map DiskIo.device).Nodup)
    (hlookup : ∀ dev,disk.lastMsDoingIo.lookup dev=latest (msDoingIoRead dev) before)
    (hupdated : disk.lastUpdated=latestFinish before)
    (hpause : 0<disk.lastUpdated → 0≤pauseMillis before cycle) :
    (∀ dev value,.percentBusy dev value∈(doDiskStats disk cycle).2 →
        BusySound before cycle dev value) ↔ BusyWithinPause disk cycle := by
  have hpauseEq : toInt64Milliseconds (cycle.start-disk.lastUpdated)=pauseMillis before cycle := by
    rw [pauseMillis,hupdated]
  constructor
  · intro h hstarted st hst htimed
    have hpublished := fun hle => h st.device _
      ((percentBusy_mem_doDiskStats hdistinct disk st.device _).mpr ⟨st,hst,htimed,
        (mem_percentBusy_iff cycle.start disk st st.device _).mpr ⟨hstarted,hle,rfl,rfl⟩⟩)
    cases hbase : disk.lastMsDoingIo.lookup st.device with
    | none =>
      -- the default zero of operator[] was never read for this device
      rw [hbase] at hpublished
      obtain ⟨-,-,-,base,hlatest,-⟩ := hpublished (UInt64.zero_le)
      rw [←hlookup,hbase] at hlatest
      cases hlatest
    | some base =>
      rw [hbase] at hpublished
      refine ⟨base,rfl,fun hle => ?_⟩
      obtain ⟨-,-,-,-,-,-,-,hbetween⟩ := hpublished hle
      rw [hpauseEq] at hbetween ⊢
      exact (busy_between_iff (hpause hstarted)).mp hbetween
  · intro h dev value hmem
    obtain ⟨st,hst,htimed,hmem⟩ := (percentBusy_mem_doDiskStats hdistinct disk dev value).mp hmem
    obtain ⟨hstarted,hle,rfl,rfl⟩ := (mem_percentBusy_iff _ _ _ _ _).mp hmem
    obtain ⟨base,hbase,hfits⟩ := h hstarted st hst htimed
    rw [hbase,Option.getD_some] at hle
    rw [hpauseEq] at hfits
    obtain ⟨hpos,hgrowth⟩ := hfits hle
    refine ⟨st,hst,rfl,base,by rw [←hlookup,hbase],hpos.ne',?_,?_⟩
    · rw [hbase,Option.getD_some,hpauseEq,divide_eq_finite_iff]
      exact ⟨by exact_mod_cast hpos.ne',rfl⟩
    · rw [hbase,Option.getD_some,hpauseEq]
      exact (busy_between_iff hpos.le).mpr ⟨hpos,hgrowth⟩

/-- A run keeps the contract exactly when, if it is well formed, every cycle
after the first has ended finds each timed device read before and grown by no
more than the pause between the two cycles, which is at least 1 ms. -/
theorem busyContract_iff (cycles : List DiskCycle) :
    BusyContract cycles ↔
      (WellFormed cycles → Meets doDiskStats BusyWithinPause DiskState.init cycles) := by
  refine imp_congr_right fun hwf => ?_
  rw [meets_iff]
  refine forall_congr' fun before => forall_congr' fun cycle => forall_congr' fun after =>
    forall_congr' fun hsplit => ?_
  have hupdated := lastUpdated_run before
  exact busySound_iff (hwf.distinct cycle (by rw [hsplit]; simp)) (fun dev => lookup_run dev before)
    hupdated fun hstarted => pauseMillis_nonneg hwf hsplit (hupdated ▸ hstarted)

/-- A line of xvda that has been busy for the given milliseconds. -/
def xvdaLine (msDoingIo : UInt64) : DiskIo :=
  ⟨202,0,['x','v','d','a'],0,0,0,0,0,0,0,0,0,msDoingIo,0⟩

/-- Two cycles a minute apart that each take 20 ms and read the file after 10,
while xvda is busy all the time. -/
def alwaysBusyCycles : List DiskCycle :=
  [⟨milliseconds 1000,milliseconds 1010,[xvdaLine 0],milliseconds 1020⟩,
    ⟨milliseconds 61000,milliseconds 61010,[xvdaLine 60000],milliseconds 61020⟩]

/-- The run of the always busy device is one the kernel can produce. -/
theorem alwaysBusyCycles_wellFormed : WellFormed alwaysBusyCycles where
  within := by simp [alwaysBusyCycles,milliseconds]
  apart := by simp [alwaysBusyCycles,milliseconds]
  distinct := by simp [alwaysBusyCycles,xvdaLine]
  growth := by
    rw [alwaysBusyCycles,List.pairwise_pair]
    intro dev x y hx hy hle
    by_cases hdev : (xvdaLine 0).device=dev
    · subst hdev
      have hx0 : some x=some 0 := hx.symm.trans (by decide)
      have hy0 : some y=some 60000 := hy.symm.trans (by decide)
      rw [Option.some.inj hx0,Option.some.inj hy0]
      decide
    · simp [msDoingIoRead,lineMsDoingIo,hdev,latest] at hx

/-- The device is always busy between the two readings, yet the percentage is
60000 ms of it over the 59980 ms between the two cycles. -/
theorem always_busy_over_hundred : ¬BusyContract alwaysBusyCycles := by
  intro h
  obtain ⟨-,-,-,-,-,-,-,q,hq,-,hle⟩ := h alwaysBusyCycles_wellFormed
    [⟨milliseconds 1000,milliseconds 1010,[xvdaLine 0],milliseconds 1020⟩] _ [] rfl
    ['x','v','d','a'] (.finite (6000000/59980)) (by decide +kernel)
  rw [←Double.finite.inj hq] at hle
  norm_num at hle

end AtlasAgent.DiskStats
