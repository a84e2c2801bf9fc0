import AtlasAgent.ConfigDirectories
import AtlasAgent.DecimalText
import AtlasAgent.HandleLedger
import Mathlib.Algebra.Order.Field.Rat
import Mathlib.Data.Nat.Digits.Defs

/-!
# EBSCollector::gather_metrics

Each configured device is asked for a page of statistics, which is read as a
packed structure of little-endian fields. A device that cannot be opened or
asked, or that is none of EBS, is passed over, and a histogram with too many
bins is left out; the result tells whether anything of this happened.
-/

namespace AtlasAgent.EbsDevices

open ConfigDirectories DecimalText HandleLedger RunHistory TextFields

/-- The fields of nvme_get_amzn_stats_logpage before the histograms. -/
inductive PageField
  | magic
  | reserved0
  | totalReadOps
  | totalWriteOps
  | totalReadBytes
  | totalWriteBytes
  | totalReadTime
  | totalWriteTime
  | ebsVolumePerformanceExceededIops
  | ebsVolumePerformanceExceededTp
  | ec2InstanceEbsPerformanceExceededIops
  | ec2InstanceEbsPerformanceExceededTp
  | volumeQueueLength
  | reserved1
  | readIoLatencyHistogram
  | writeIoLatencyHistogram
  | reserved2
  deriving DecidableEq

/-- sizeof nvme_histogram_bin: the bounds, the count and a reserved field. -/
def binSize : ℕ := 8+8+4+4

/-- The number of elements of ebs_nvme_histogram::bins. -/
def maxBins : ℕ := 64

/-- sizeof ebs_nvme_histogram. -/
def histogramSize : ℕ := 8+maxBins*binSize

/-- The fields of the page in their order, with their sizes. -/
def pageLayout : List (PageField×ℕ) :=
  [(.magic,4),(.reserved0,4),(.totalReadOps,8),(.totalWriteOps,8),(.totalReadBytes,8),
    (.totalWriteBytes,8),(.totalReadTime,8),(.totalWriteTime,8),
    (.ebsVolumePerformanceExceededIops,8),(.ebsVolumePerformanceExceededTp,8),
    (.ec2InstanceEbsPerformanceExceededIops,8),(.ec2InstanceEbsPerformanceExceededTp,8),
    (.volumeQueueLength,8),(.reserved1,416),(.readIoLatencyHistogram,histogramSize),
    (.writeIoLatencyHistogram,histogramSize),(.reserved2,496)]

/-- sizeof nvme_get_amzn_stats_logpage. -/
def pageSize : ℕ := (pageLayout.map Prod.snd).sum

/-- Where a field of the packed structure begins. -/
def offsetOf (field : PageField) : ℕ :=
  ((pageLayout.takeWhile (·.1≠field)).map Prod.snd).sum

/-- How long a field is. -/
def sizeOf (field : PageField) : ℕ := ((pageLayout.find? (·.1=field)).map Prod.snd).getD 0

/-- The page that ioctl leaves in the structure. -/
abbrev Page := ℕ → UInt8

/-- A little-endian number. -/
def readNumber (page : Page) (offset size : ℕ) : ℕ :=
  Nat.ofDigits 256 ((List.range size).map fun i => (page (offset+i)).toNat)

/-- A field of the page. -/
def fieldOf (page : Page) (field : PageField) : ℕ := readNumber page (offsetOf field) (sizeOf field)

/-- The num_bins of a histogram. -/
def numBins (page : Page) (histogram : PageField) : ℕ := readNumber page (offsetOf histogram) 8

/-- The count of a bin; there is none behind the last one. -/
def binCount (page : Page) (histogram : PageField) (i : ℕ) : Option ℕ :=
  if i < maxBins then some (readNumber page (offsetOf histogram+8+i*binSize+16) 4) else none

/-- AtlasNamingConvention. -/
def atlasNamingConvention : List Token :=
  ["us_00000000_00000001","us_00000001_00000002","us_00000002_00000004","us_00000004_00000008",
    "us_00000008_00000016","us_00000016_00000032","us_00000032_00000064","us_00000064_00000128",
    "us_00000128_00000256","us_00000256_00000512","us_00000512_00001024","us_00001024_00002048",
    "us_00002048_00004096","us_00004096_00008192","us_00008192_00016384","us_00016384_00032768",
    "us_00032768_00065536","us_00065536_00131072","us_00131072_00262144","us_00262144_00524288",
    "us_00524288_01048576","us_01048576_02097152","us_02097152_04194304","us_04194304_08388608",
    "us_08388608_16777216","us_16777216_33554432","us_33554432_67108864",
    "us_67108864_MAX"].map String.toList

/-- A meter that is set: the gauge of the queue length, or a monotonic counter. -/
structure EbsMeter where
  isGauge : Bool
  name : Token
  tags : List (Token×Token)
  value : ℚ
  deriving DecidableEq

/-- ebsGauge. -/
def ebsGauge (name device : Token) (value : ℚ) : EbsMeter :=
  ⟨true,name,[("dev".toList,device)],value⟩

/-- ebsMonocounter. -/
def ebsMonocounter (name device id : Token) (value : ℚ) : EbsMeter :=
  ⟨false,name,[("dev".toList,device),("id".toList,id)],value⟩

/-- ebsHistogram. -/
def ebsHistogram (name device id bin : Token) (value : ℚ) : EbsMeter :=
  ⟨false,name,[("dev".toList,device),("id".toList,id),("bin".toList,bin)],value⟩

/-- EBSMC::ebsMicrosecondsToSeconds, applied. -/
def microsecondsToSeconds (value : ℕ) : ℚ := value/1000000

/-- The loop of handle_histogram from a bin on. Without a result the name or the
bin does not exist. -/
def binLoop (page : Page) (histogram : PageField) (device id : Token) :
    ℕ → ℕ → Option (List EbsMeter)
  | 0,_ => some []
  | left+1,i => do
    let bin ← atlasNamingConvention[i]?
    let count ← binCount page histogram i
    let rest ← binLoop page histogram device id left (i+1)
    return ebsHistogram "aws.ebs.ioLatencyHistogram".toList device id bin count::rest

/-- EBSCollector::handle_histogram with its result. -/
def handleHistogram (page : Page) (histogram : PageField) (device id : Token) :
    Option (List EbsMeter×Bool) :=
  if atlasNamingConvention.length<numBins page histogram then some ([],false)
  else (binLoop page histogram device id (numBins page histogram) 0).map (·,true)

/-- The meters of update_metrics before the histograms. -/
def fieldMeters (page : Page) (device : Token) : List EbsMeter :=
  let read := "read".toList
  let write := "write".toList
  let volume := "volume".toList
  let instance' := "instance".toList
  [ebsMonocounter "aws.ebs.totalOperations".toList device read (fieldOf page .totalReadOps),
    ebsMonocounter "aws.ebs.totalOperations".toList device write (fieldOf page .totalWriteOps),
    ebsMonocounter "aws.ebs.totalBytes".toList device read (fieldOf page .totalReadBytes),
    ebsMonocounter "aws.ebs.totalBytes".toList device write (fieldOf page .totalWriteBytes),
    ebsMonocounter "aws.ebs.totalTime".toList device read
      (microsecondsToSeconds (fieldOf page .totalReadTime)),
    ebsMonocounter "aws.ebs.totalTime".toList device write
      (microsecondsToSeconds (fieldOf page .totalWriteTime)),
    ebsMonocounter "aws.ebs.perfExceededIOPS".toList device volume
      (microsecondsToSeconds (fieldOf page .ebsVolumePerformanceExceededIops)),
    ebsMonocounter "aws.ebs.perfExceededIOPS".toList device instance'
      (microsecondsToSeconds (fieldOf page .ec2InstanceEbsPerformanceExceededIops)),
    ebsMonocounter "aws.ebs.perfExceededTput".toList device volume
      (microsecondsToSeconds (fieldOf page .ebsVolumePerformanceExceededTp)),
    ebsMonocounter "aws.ebs.perfExceededTput".toList device instance'
      (microsecondsToSeconds (fieldOf page .ec2InstanceEbsPerformanceExceededTp)),
    ebsGauge "aws.ebs.volumeQueueLength".toList device (fieldOf page .volumeQueueLength)]

/-- EBSCollector::update_metrics with its result; the registry is there. -/
def updateMetrics (page : Page) (device : Token) : Option (List EbsMeter×Bool) := do
  let read ← handleHistogram page .readIoLatencyHistogram device "read".toList
  let write ← handleHistogram page .writeIoLatencyHistogram device "write".toList
  return (fieldMeters page device++read.1++write.1,read.2 && write.2)

/-- What a device answers. -/
structure DeviceAnswer where
  /-- The result of open. -/
  fd : ℤ
  /-- The result of ioctl. -/
  ioctl : ℤ
  /-- What the structure holds after it. -/
  page : Page

/-- NVMeCommands::StatsMagic. -/
def statsMagic : ℕ := 0x3C23B510

/-- What happens while devices are gathered. -/
inductive EbsEvent
  | handle (event : HandleEvent ℤ)
  /-- The NVMe command, with its length and its command word 10. -/
  | ioctl (fd : ℤ) (alen cdw10 : ℕ)
  | set (meter : EbsMeter)

/-- EBSCollector::query_stats_from_device with its result. -/
def queryStatsFromDevice (answer : DeviceAnswer) : List EbsEvent×Bool :=
  if answer.fd= -1 then ([],false)
  else
    ([.handle (.opened answer.fd),.ioctl answer.fd pageSize (0xD0 ||| (1024<<<16)),
      .handle (.closed answer.fd)],
      if answer.ioctl<0 then false else decide (fieldOf answer.page .magic=statsMagic))

/-- The loop of gather_metrics over the devices in their order. -/
def gatherMetrics (answers : Token → DeviceAnswer) : List Token → Option (List EbsEvent×Bool)
  | [] => some ([],true)
  | device::rest => do
    let queried := queryStatsFromDevice (answers device)
    if queried.2 then
      let updated ← updateMetrics (answers device).page device
      let others ← gatherMetrics answers rest
      return (queried.1++updated.1.map .set++others.1,updated.2 && others.2)
    else
      let others ← gatherMetrics answers rest
      return (queried.1++others.1,false)

/-- The page is as long as the command asks for, and the histograms begin where
the fields before them end. -/
theorem pageSize_eq : pageSize=4096 ∧ offsetOf .readIoLatencyHistogram=512 ∧
    offsetOf .writeIoLatencyHistogram=2056 := by decide

/-- The name of a bin by its bounds in microseconds. -/
def binName (i : ℕ) : Token :=
  if i<27 then "us_".toList++padded 8 (2^i/2)++ '_'::padded 8 (2^i) else "us_67108864_MAX".toList

/-- The bins are named by their bounds, powers of two in turn. -/
theorem atlasNamingConvention_eq : atlasNamingConvention=(List.range 28).map binName := by decide

theorem length_atlasNamingConvention : atlasNamingConvention.length=28 := rfl

theorem atlasNamingConvention_getElem? {i : ℕ} (h : i<atlasNamingConvention.length) :
    atlasNamingConvention[i]?=some (binName i) := by
  have hrange : i<28 := h
  rw [atlasNamingConvention_eq,List.getElem?_map,List.getElem?_range hrange]
  rfl

/-- The numbers in front of the histograms: the name of the meter and its tag
id, none for the gauge, the byte where the number begins, and its divisor. -/
def pageNumbers : List (String×Option String×ℕ×ℚ) :=
  [("aws.ebs.totalOperations",some "read",8,1),("aws.ebs.totalOperations",some "write",16,1),
    ("aws.ebs.totalBytes",some "read",24,1),("aws.ebs.totalBytes",some "write",32,1),
    ("aws.ebs.totalTime",some "read",40,1000000),("aws.ebs.totalTime",some "write",48,1000000),
    ("aws.ebs.perfExceededIOPS",some "volume",56,1000000),
    ("aws.ebs.perfExceededIOPS",some "instance",72,1000000),
    ("aws.ebs.perfExceededTput",some "volume",64,1000000),
    ("aws.ebs.perfExceededTput",some "instance",80,1000000),
    ("aws.ebs.volumeQueueLength",none,88,1)]

/-- The meter of one of them. -/
def numberMeter (page : Page) (device : Token) : String×Option String×ℕ×ℚ → EbsMeter
  | (name,id,offset,divisor) => ⟨id.isNone,name.toList,
    ("dev".toList,device)::id.toList.map fun id => ("id".toList,id.toList),
    readNumber page offset 8/divisor⟩

/-- The meter of a bin of the histogram that begins at a byte. -/
def binMeter (page : Page) (start : ℕ) (device id : Token) (i : ℕ) : EbsMeter :=
  ⟨false,"aws.ebs.ioLatencyHistogram".toList,
    [("dev".toList,device),("id".toList,id),("bin".toList,binName i)],
    readNumber page (start+24+24*i) 4⟩

/-- The loop never asks for a name or a bin that does not exist. -/
theorem binLoop_eq (page : Page) (histogram : PageField) (device id : Token) {left i : ℕ}
    (h : i+left≤atlasNamingConvention.length) :
    binLoop page histogram device id left i=
      some ((List.range' i left).map (binMeter page (offsetOf histogram) device id)) := by
  induction left generalizing i with
  | zero => rfl
  | succ left ih =>
    have hlength := length_atlasNamingConvention
    have hi : i<atlasNamingConvention.length := by omega
    have hbin : i < maxBins := hi.trans (by rw [hlength]; decide)
    have hcount : offsetOf histogram+8+i*binSize+16=offsetOf histogram+24+24*i := by
      rw [binSize]
      omega
    rw [binLoop,atlasNamingConvention_getElem? hi,binCount,if_pos hbin,ih (by omega),
      List.range'_succ,List.map_cons,hcount]
    rfl

/-- The number of bins of a histogram is one that is handled. -/
def Handled (page : Page) (start : ℕ) : Prop := readNumber page start 8≤28

instance (page : Page) (start : ℕ) : Decidable (Handled page start) :=
  inferInstanceAs (Decidable (_≤_))

/-- The meters of a histogram. -/
def histogramMeters (page : Page) (start : ℕ) (device id : Token) : List EbsMeter :=
  if Handled page start then
    (List.range (readNumber page start 8)).map (binMeter page start device id)
  else []

theorem handleHistogram_eq (page : Page) (histogram : PageField) (device id : Token) :
    handleHistogram page histogram device id=
      some (histogramMeters page (offsetOf histogram) device id,
        decide (Handled page (offsetOf histogram))) := by
  have hbins : numBins page histogram=readNumber page (offsetOf histogram) 8 := rfl
  rw [handleHistogram,histogramMeters,hbins,length_atlasNamingConvention]
  by_cases h : Handled page (offsetOf histogram)
  · rw [if_neg (not_lt.mpr h),if_pos h,binLoop_eq _ _ _ _ (by rw [Nat.zero_add]; exact h),
      decide_eq_true h,List.range_eq_range']
    rfl
  · rw [if_pos (not_le.mp h),if_neg h,decide_eq_false h]

/-- The meters of a page: the numbers, and the histograms that begin at bytes 512
and 2056. -/
def deviceMeters (page : Page) (device : Token) : List EbsMeter :=
  pageNumbers.map (numberMeter page device)++histogramMeters page 512 device "read".toList++
    histogramMeters page 2056 device "write".toList

/-- The code finds the numbers at these bytes. -/
theorem fieldMeters_eq (page : Page) (device : Token) :
    fieldMeters page device=pageNumbers.map (numberMeter page device) := by
  have hone (n : ℚ) : n/1=n := div_one n
  simp only [pageNumbers,List.map_cons,List.map_nil,numberMeter,hone]
  rfl

/-- The device is opened and asked, and is one of EBS. -/
def Queried (answer : DeviceAnswer) : Prop :=
  answer.fd≠ -1 ∧ 0≤answer.ioctl ∧ readNumber answer.page 0 4=0x3C23B510

instance (answer : DeviceAnswer) : Decidable (Queried answer) :=
  inferInstanceAs (Decidable (_ ∧ _ ∧ _))

/-- Nothing about the device makes the result false. -/
def Healthy (answer : DeviceAnswer) : Prop :=
  Queried answer ∧ Handled answer.page 512 ∧ Handled answer.page 2056

instance (answer : DeviceAnswer) : Decidable (Healthy answer) :=
  inferInstanceAs (Decidable (_ ∧ _ ∧ _))

theorem queryStatsFromDevice_snd (answer : DeviceAnswer) :
    (queryStatsFromDevice answer).2=decide (Queried answer) := by
  rw [queryStatsFromDevice]
  by_cases hfd : answer.fd= -1
  · rw [if_pos hfd]
    exact (decide_eq_false fun h => h.1 hfd).symm
  · rw [if_neg hfd]
    by_cases hioctl : answer.ioctl<0
    · rw [if_pos hioctl]
      exact (decide_eq_false fun h => absurd h.2.1 (not_le.mpr hioctl)).symm
    · rw [if_neg hioctl]
      exact decide_eq_decide.mpr ⟨fun h => ⟨hfd,not_lt.mp hioctl,h⟩,fun h => h.2.2⟩

/-- What happens for one device. -/
def deviceEvents (answer : DeviceAnswer) (device : Token) : List EbsEvent :=
  (queryStatsFromDevice answer).1++
    if Queried answer then (deviceMeters answer.page device).map .set else []

/-- No device ends the loop, and each is handled as if it were the only one. -/
theorem gatherMetrics_eq (answers : Token → DeviceAnswer) (devices : List Token) :
    gatherMetrics answers devices=
      some (devices.flatMap fun device => deviceEvents (answers device) device,
        decide (∀ device∈devices,Healthy (answers device))) := by
  induction devices with
  | nil => rfl
  | cons device rest ih =>
    rw [gatherMetrics,ih,List.flatMap_cons,queryStatsFromDevice_snd]
    by_cases hqueried : Queried (answers device)
    · rw [if_pos (decide_eq_true hqueried),updateMetrics,handleHistogram_eq,handleHistogram_eq,
        deviceEvents,if_pos hqueried,deviceMeters,fieldMeters_eq,pageSize_eq.2.1,
        pageSize_eq.2.2]
      simp only [Option.bind_eq_bind,Option.bind_some,Option.pure_def,Option.some.injEq,
        Prod.mk.injEq,true_and]
      rw [←Bool.decide_and,←Bool.decide_and]
      refine decide_eq_decide.mpr ?_
      rw [List.forall_mem_cons,Healthy,and_iff_right hqueried]
    · rw [if_neg (by simpa using hqueried),deviceEvents,if_neg hqueried,List.append_nil]
      have hnot : ¬∀ other∈device::rest,Healthy (answers other) := fun h =>
        hqueried (h device List.mem_cons_self).1
      rw [decide_eq_false hnot]
      rfl

/-- The handles among the events. -/
def handleEvents (events : List EbsEvent) : List (HandleEvent ℤ) :=
  events.filterMap fun event =>
    match event with
    | .handle event => some event
    | _ => none

/-- A device leaves open what was open before it. -/
theorem handleEvents_deviceEvents (answer : DeviceAnswer) (device : Token) (handles : Multiset ℤ) :
    let trace := handleEvents (deviceEvents answer device)
    Meets ledgerStep ClosesOpen handles trace ∧ runState ledgerStep handles trace=handles := by
  have hmeters : ∀ meters : List EbsMeter,handleEvents (meters.map .set)=[] := by
    intro meters
    rw [handleEvents,List.filterMap_map]
    exact List.filterMap_eq_nil_iff.mpr fun _ _ => rfl
  have htrace : handleEvents (deviceEvents answer device)=
      if answer.fd= -1 then [] else [.opened answer.fd,.closed answer.fd] := by
    rw [deviceEvents,handleEvents,List.filterMap_append,←handleEvents,←handleEvents]
    have hrest : handleEvents (if Queried answer then
        (deviceMeters answer.page device).map EbsEvent.set else [])=[] := by
      split
      · exact hmeters _
      · rfl
    rw [hrest,List.append_nil,queryStatsFromDevice]
    split <;> rfl
  dsimp only
  rw [htrace]
  split
  · exact ⟨trivial,rfl⟩
  · exact ⟨⟨trivial,Multiset.mem_cons_self _ _,trivial⟩,Multiset.erase_cons_head _ _⟩

/-- Every order in which the devices of the configuration directory are gone
through gives the same result and sets the same meters: those of every device
listed there that is opened, asked and found to be one of EBS, however the
others fare, its histograms left out where they have more bins than there are
names. The result is true exactly when no device and no histogram is left out,
and every descriptor is closed. -/
theorem gatherMetrics_spec (answers : Token → DeviceAnswer) {fileExists : Token → Option Bool}
    {directory : Directory} {config : Finset Token} {devices : List Token}
    (hconfig : parseEbsConfigDirectory fileExists directory=some config)
    (horder : devices.Nodup ∧ ∀ device,device∈devices ↔ device∈config) :
    ∃ events,gatherMetrics answers devices=
        some (events,decide (∀ device∈config,Healthy (answers device))) ∧
      (∀ meter,.set meter∈events ↔ ∃ device,ListedDevice fileExists directory device ∧
        Queried (answers device) ∧ meter∈deviceMeters (answers device).page device) ∧
      Meets ledgerStep ClosesOpen 0 (handleEvents events) ∧ openAfter (handleEvents events)=0 := by
  obtain ⟨-,hmem⟩ := horder
  obtain ⟨-,-,hlisted⟩ := parseEbsConfigDirectory_eq_some_iff.mp hconfig
  refine ⟨devices.flatMap fun device => deviceEvents (answers device) device,?_,
    fun meter => ?_,?_⟩
  · rw [gatherMetrics_eq]
    simp only [hmem]
  · have hquery : ∀ answer,EbsEvent.set meter∉(queryStatsFromDevice answer).1 := by
      intro answer
      rw [queryStatsFromDevice]
      split <;> simp
    simp only [List.mem_flatMap,hmem,hlisted,deviceEvents,List.mem_append,hquery,false_or]
    refine exists_congr fun device => and_congr_right fun _ => ?_
    by_cases hqueried : Queried (answers device) <;> simp [hqueried]
  · have hall : ∀ list : List Token,
        let trace := handleEvents (list.flatMap fun device => deviceEvents (answers device) device)
        Meets ledgerStep ClosesOpen 0 trace ∧ runState ledgerStep 0 trace=0 := by
      intro list
      induction list with
      | nil => exact ⟨trivial,rfl⟩
      | cons device rest ih =>
        obtain ⟨hfirst,hstate⟩ := handleEvents_deviceEvents (answers device) device 0
        dsimp only at hstate ih ⊢
        rw [List.flatMap_cons,handleEvents,List.filterMap_append,←handleEvents,←handleEvents,
          meets_append,runState_append,hstate]
        exact ⟨⟨hfirst,ih.1⟩,ih.2⟩
    exact hall devices

/-- A directory with one file of two devices. -/
def twoDevices : Directory where
  isDirectory := some true
  entries := [⟨"a.ebs-devices".toList,some "/dev/a\n/dev/b\n".toList⟩]
  walkThrows := false

/-- The bytes of a page that are not zero: the magic number, 261 reads, 1.5 seconds
of writing, a queue of three, two bins of reads and too many bins of writes. -/
def busyPage : Page
  | 0 => 0x10 | 1 => 0xB5 | 2 => 0x23 | 3 => 0x3C
  | 8 => 5 | 9 => 1
  | 48 => 0x60 | 49 => 0xE3 | 50 => 0x16
  | 88 => 3
  | 512 => 2 | 536 => 7 | 560 => 9
  | 2056 => 29
  | _ => 0

/-- One device answers with that page, and the other cannot be opened. -/
def onlyB (device : Token) : DeviceAnswer where
  fd := if device="/dev/b".toList then 3 else -1
  ioctl := 0
  page := busyPage

/-- The device that answers is gathered, the result is false, and the histogram
with too many bins is left out. -/
theorem gatherMetrics_onlyB :
    let dev := ("dev".toList,"/dev/b".toList)
    let read := ("id".toList,"read".toList)
    let bin := ("bin".toList,"us_00000001_00000002".toList)
    ∃ events,gatherMetrics onlyB ["/dev/b".toList,"/dev/a".toList]=some (events,false) ∧
      openAfter (handleEvents events)=0 ∧
      .set ⟨false,"aws.ebs.totalOperations".toList,[dev,read],261⟩∈events ∧
      .set ⟨false,"aws.ebs.totalTime".toList,[dev,("id".toList,"write".toList)],3/2⟩∈events ∧
      .set ⟨true,"aws.ebs.volumeQueueLength".toList,[dev],3⟩∈events ∧
      .set ⟨false,"aws.ebs.ioLatencyHistogram".toList,[dev,read,bin],9⟩∈events := by
  intro dev read bin
  have hconfig : parseEbsConfigDirectory (fun path => some (path≠[])) twoDevices=
      some {"/dev/a".toList,"/dev/b".toList} := by decide +kernel
  have horder : ["/dev/b".toList,"/dev/a".toList].Nodup ∧
      ∀ device,device∈["/dev/b".toList,"/dev/a".toList] ↔
        device∈({"/dev/a".toList,"/dev/b".toList} : Finset Token) := by
    refine ⟨by decide,fun device => ?_⟩
    rw [List.mem_pair,Finset.mem_insert,Finset.mem_singleton,or_comm]
  obtain ⟨events,hresult,hmeters,-,hopen⟩ := gatherMetrics_spec onlyB hconfig horder
  have hlisted : ListedDevice (fun path => some (path≠[])) twoDevices "/dev/b".toList :=
    (parseEbsConfigDirectory_eq_some_iff.mp hconfig).2.2 _ |>.mp (by simp)
  have hset : ∀ meter∈deviceMeters busyPage "/dev/b".toList,.set meter∈events :=
    fun meter hmeter => (hmeters meter).mpr ⟨_,hlisted,by decide +kernel,hmeter⟩
  refine ⟨events,hresult.trans ?_,hopen,hset _ ?_,hset _ ?_,hset _ ?_,hset _ ?_⟩
  · have hfalse : ¬∀ device∈({"/dev/a".toList,"/dev/b".toList} : Finset Token),
        Healthy (onlyB device) := by decide +kernel
    rw [decide_eq_false hfalse]
  all_goals decide +kernel

end AtlasAgent.EbsDevices
