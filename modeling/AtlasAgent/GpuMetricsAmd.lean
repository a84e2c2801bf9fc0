import AtlasAgent.ProgramFrames
import AtlasAgent.RunProjections
import Mathlib.Algebra.Order.Floor.Ring
import Mathlib.Data.Rat.Floor
import Mathlib.Data.List.FinRange
import Mathlib.Data.UInt

/-!
# The AMD GPU metrics and their support latches

GpuMetricsAMD::GPUMetrics with everything it calls. Every function of a GPU
uses only the elements of its own index, so it is a program on the state of
one GPU. The types of the firmware table are those of the vendor's header;
the width of the four fields set through RecordScalar, and the number of xGMI
links, are parameters.
-/

namespace AtlasAgent.GpuMetricsAmd

open Effects ProgramFrames RunProjections

/-- The three whole-call reads. -/
inductive Call
  | memory
  | pcie
  | metrics
  deriving DecidableEq

/-- struct GpuSupport: a latch for each read and each firmware field. -/
inductive Latch
  | memoryCall
  | pcieCall
  | metricsCall
  | temperature
  | gfxActivity
  | umcActivity
  | gfxClock
  | memClock
  | power
  | xgmi
  deriving DecidableEq

/-- The latch of a read. -/
def Call.latch : Call → Latch
  | memory => .memoryCall
  | pcie => .pcieCall
  | metrics => .metricsCall

/-- The name under which a read is logged. -/
def Call.name : Call → String
  | memory => "gpu memory"
  | pcie => "pcie throughput"
  | metrics => "gpu metrics"

/-- The meters of a GPU, and the temperature summary that all GPUs share. -/
inductive Meter
  | usedMemory
  | freeMemory
  | totalMemory
  | utilization
  | memoryActivity
  | gfxClock
  | memoryClock
  | power
  | pcieIn
  | pcieOut
  | xgmiIn
  | xgmiOut
  | temperature
  deriving DecidableEq

/-- What happens while one GPU is collected. -/
inductive GpuEvent
  /-- The SMI read is invoked. -/
  | smiRead (call : Call)
  /-- The callback on_ok of a read runs. -/
  | onOk (call : Call)
  /-- Set, Increment or Record of a meter. -/
  | record (meter : Meter) (value : ℕ)
  /-- The error log of a latch, with the name in its text. -/
  | logUnsupported (latch : Latch) (name : String)
  deriving DecidableEq

/-- ReadStatus, with what a successful read fills in. -/
inductive ReadStatus (α : Type)
  | ok (data : α)
  | unsupported
  | error
  deriving DecidableEq

/-- struct AmdSmiMemory. -/
structure AmdSmiMemory where
  total : UInt64
  used : UInt64
  free : UInt64

/-- struct AmdSmiThroughput. -/
structure AmdSmiThroughput where
  outBytesPerSec : UInt64
  inBytesPerSec : UInt64

/-- The fields of amdsmi_gpu_metrics_t that are used. -/
structure AmdsmiGpuMetrics (w links : ℕ) where
  temperatureEdge : UInt16
  averageGfxActivity : BitVec w
  averageUmcActivity : BitVec w
  currentGfxclk : BitVec w
  currentUclk : BitVec w
  currentSocketPower : UInt16
  averageSocketPower : UInt16
  xgmiReadDataAcc : Fin links → UInt64
  xgmiWriteDataAcc : Fin links → UInt64

/-- What a GPU answers at a tick: the result of each read, if it is invoked,
and the steady clock in nanoseconds. -/
structure GpuTick (w links : ℕ) where
  memory : ReadStatus AmdSmiMemory
  pcie : ReadStatus AmdSmiThroughput
  metrics : ReadStatus (AmdsmiGpuMetrics w links)
  now : ℤ

/-- struct XgmiSample. -/
structure XgmiSample where
  timestamp : ℤ
  readKb : UInt64
  writeKb : UInt64
  deriving DecidableEq

/-- The elements of support_ and last_xgmi_ that belong to one GPU. -/
structure GpuState where
  supported : Latch → Bool
  lastXgmi : Option XgmiSample

def GpuState.init : GpuState := ⟨fun _ => true,none⟩

def GpuState.latchOff (s : GpuState) (latch : Latch) : GpuState :=
  {s with supported := Function.update s.supported latch false}

@[simp] theorem GpuState.latchOff_self (s : GpuState) (latch : Latch) :
    (s.latchOff latch).supported latch=false := by
  simp [latchOff]

theorem GpuState.latchOff_of_ne {latch other : Latch} (h : other≠latch) (s : GpuState) :
    (s.latchOff latch).supported other=s.supported other := by
  simp [latchOff,h]

def GpuState.setXgmi (s : GpuState) (sample : XgmiSample) : GpuState :=
  {s with lastXgmi := some sample}

/-- A function that collects one GPU; none of them fails. -/
abbrev GpuProgram (α : Type) := Program GpuState GpuEvent Empty α

/-- kBytesConversion. -/
def kBytesConversion : UInt64 := 60

/-- UINT64_MAX. -/
def uint64Max : UInt64 := UInt64.ofNat (2^64-1)

/-- UINT16_MAX. -/
def uint16Max : UInt16 := UInt16.ofNat (2^16-1)

/-- FirmwareSupport::Unsupported: log once and latch off. -/
def unsupported (latch : Latch) (name : String) : GpuProgram Unit := do
  let s ← getState
  (if s.supported latch then do
    emit (.logUnsupported latch name)
    modifyState (·.latchOff latch)
  else pure ())

/-- What Gather does with the status of a read. -/
def gathered {α : Type} (call : Call) (onOk : α → GpuProgram Unit) :
    ReadStatus α → GpuProgram Unit
  | .ok data => do
    emit (.onOk call)
    onOk data
  | .unsupported => unsupported call.latch call.name
  | .error => pure ()

/-- Gather. -/
def gather {α : Type} (call : Call) (read : ReadStatus α) (onOk : α → GpuProgram Unit) :
    GpuProgram Unit := do
  let s ← getState
  (if s.supported call.latch then do
    emit (.smiRead call)
    gathered call onOk read
  else pure ())

/-- RecordScalar: a field with all bits set is not populated. -/
def recordScalar {w : ℕ} (meter : Meter) (latch : Latch) (field : String) (value : BitVec w) :
    GpuProgram Unit :=
  if value=BitVec.allOnes w then unsupported latch field else emit (.record meter value.toNat)

/-- The loop of SumXgmiKb over the links. -/
def sumXgmiKb (label : String) (total : UInt64) : List UInt64 → GpuProgram UInt64
  | [] => pure total
  | acc::arr =>
    if acc=uint64Max then do
      unsupported .xgmi label
      sumXgmiKb label total arr
    else sumXgmiKb label (total+acc) arr

def recordMemory (memory : AmdSmiMemory) : GpuProgram Unit := do
  emit (.record .usedMemory memory.used.toNat)
  emit (.record .freeMemory memory.free.toNat)
  emit (.record .totalMemory memory.total.toNat)

def recordPCIEThroughput (pcie : AmdSmiThroughput) : GpuProgram Unit := do
  emit (.record .pcieOut (pcie.outBytesPerSec*kBytesConversion).toNat)
  emit (.record .pcieIn (pcie.inBytesPerSec*kBytesConversion).toNat)

/-- Nanoseconds in a second of the steady clock. -/
def nanosPerSecond : ℤ := 1000000000

/-- Bytes per second between two samples, rounded towards zero. A sum that went
down counts as no growth. -/
def bytesPerSecond (previous current : UInt64) (dt : ℚ) : UInt64 :=
  let delta := if previous ≤ current then current-previous else 0
  UInt64.ofNat ⌊(delta.toNat : ℚ)*1024/dt⌋₊

section Firmware

variable {w links : ℕ}

def recordTemperature (m : AmdsmiGpuMetrics w links) : GpuProgram Unit :=
  if m.temperatureEdge=uint16Max then unsupported .temperature "temperature_edge"
  else emit (.record .temperature m.temperatureEdge.toNat)

def recordActivity (m : AmdsmiGpuMetrics w links) : GpuProgram Unit := do
  recordScalar .utilization .gfxActivity "average_gfx_activity" m.averageGfxActivity
  recordScalar .memoryActivity .umcActivity "average_umc_activity" m.averageUmcActivity

def recordClocks (m : AmdsmiGpuMetrics w links) : GpuProgram Unit := do
  recordScalar .gfxClock .gfxClock "current_gfxclk" m.currentGfxclk
  recordScalar .memoryClock .memClock "current_uclk" m.currentUclk

def recordPower (m : AmdsmiGpuMetrics w links) : GpuProgram Unit :=
  if m.currentSocketPower≠uint16Max then emit (.record .power m.currentSocketPower.toNat)
  else if m.averageSocketPower≠uint16Max then emit (.record .power m.averageSocketPower.toNat)
  else unsupported .power "socket power"

/-- What RecordXgmi does with the two sums and its reading of the clock. -/
def recordXgmiSums (now : ℤ) (currRead currWrite : UInt64) : GpuProgram Unit := do
  let s ← getState
  match s.lastXgmi with
  | none => modifyState (·.setXgmi ⟨now,currRead,currWrite⟩)
  | some slot =>
    let dt : ℚ := ((now-slot.timestamp : ℤ) : ℚ)/nanosPerSecond
    if dt≤0 then pure ()
    else do
      emit (.record .xgmiIn (bytesPerSecond slot.readKb currRead dt*kBytesConversion).toNat)
      emit (.record .xgmiOut (bytesPerSecond slot.writeKb currWrite dt*kBytesConversion).toNat)
      modifyState (·.setXgmi ⟨now,currRead,currWrite⟩)

def recordXgmi (now : ℤ) (m : AmdsmiGpuMetrics w links) : GpuProgram Unit := do
  let currRead ← sumXgmiKb "xgmi_read_data_acc" 0 (List.ofFn m.xgmiReadDataAcc)
  let currWrite ← sumXgmiKb "xgmi_write_data_acc" 0 (List.ofFn m.xgmiWriteDataAcc)
  recordXgmiSums now currRead currWrite

/-- The callback of the metrics read. -/
def recordMetrics (now : ℤ) (m : AmdsmiGpuMetrics w links) : GpuProgram Unit := do
  recordTemperature m
  recordActivity m
  recordClocks m
  recordPower m
  recordXgmi now m

/-- GpuMetricsAMD::Collect of one GPU. -/
def collect (tick : GpuTick w links) : GpuProgram Unit := do
  gather .memory tick.memory recordMemory
  gather .pcie tick.pcie recordPCIEThroughput
  gather .metrics tick.metrics (recordMetrics tick.now)

/-- What happens in the collector. -/
inductive AmdEvent (count : ℕ)
  /-- The gauge gpu.count. -/
  | gpuCount (value : ℕ)
  /-- An event of one GPU. -/
  | gpu (id : Fin count) (event : GpuEvent)
  deriving DecidableEq

/-- GpuMetricsAMD::GPUMetrics. -/
def gpuMetrics {count : ℕ} (tick : Fin count → GpuTick w links) :
    Program (Fin count → GpuState) (AmdEvent count) Empty Unit := do
  emit (.gpuCount count)
  focusEach AmdEvent.gpu (fun id => collect (tick id)) (List.finRange count)

/-- A tick of one GPU as a step. -/
def collectStep (s : GpuState) (tick : GpuTick w links) : GpuState×List GpuEvent :=
  ((collect tick s).state,(collect tick s).outputs)

/-- A tick of the collector as a step. -/
def gpuMetricsStep {count : ℕ} (states : Fin count → GpuState)
    (tick : Fin count → GpuTick w links) : (Fin count → GpuState)×List (AmdEvent count) :=
  ((gpuMetrics tick states).state,(gpuMetrics tick states).outputs)

/-- The event of a GPU that an event of the collector is. -/
def gpuEvent {count : ℕ} (id : Fin count) : AmdEvent count → Option GpuEvent
  | .gpuCount _ => none
  | .gpu other event => if other=id then some event else none

/-- For each GPU the collector is the collector of this GPU alone. -/
theorem gpuMetrics_projects {count : ℕ} (id : Fin count) :
    Projects (@gpuMetricsStep w links count) collectStep (· id) (· id) (gpuEvent id) := by
  have hreturns (tick : Fin count → GpuTick w links) (key : Fin count) (s : GpuState) :
      Returns (collect (tick key)) s := returns_of_isEmpty _ s
  have hmem : id∈List.finRange count := List.mem_finRange id
  constructor
  · intro states tick
    exact focusEach_state (hreturns tick) (List.nodup_finRange count) hmem states
  · intro states tick
    exact focusEach_outputs (hreturns tick) (fun _ _ => rfl) (List.nodup_finRange count) hmem states

end Firmware

/-- The sum of the populated accumulators. -/
def populatedKb {links : ℕ} (acc : Fin links → UInt64) : UInt64 :=
  ((List.ofFn acc).filter (·≠uint64Max)).sum

/-- SumXgmiKb returns the sum of the populated links, whatever the latch. -/
theorem sumXgmiKb_result (label : String) (total : UInt64) (arr : List UInt64) (s : GpuState) :
    (sumXgmiKb label total arr s).result=.ok (total+(arr.filter (·≠uint64Max)).sum) := by
  induction arr generalizing total s with
  | nil => simp [sumXgmiKb]
  | cons acc arr ih =>
    by_cases h : acc=uint64Max
    · obtain ⟨⟨⟩,hlog⟩ := returns_of_isEmpty (unsupported .xgmi label) s
      simp only [sumXgmiKb,if_pos h,bind_apply,Outcome.andThen,hlog,ih]
      simp [h]
    · rw [sumXgmiKb,if_neg h,ih]
      simp [h,UInt64.add_assoc]

/-- RecordXgmi works with the sums over the populated links. -/
theorem recordXgmi_eq {w links : ℕ} (now : ℤ) (m : AmdsmiGpuMetrics w links) :
    recordXgmi now m=(do
      let _ ← sumXgmiKb "xgmi_read_data_acc" 0 (List.ofFn m.xgmiReadDataAcc)
      let _ ← sumXgmiKb "xgmi_write_data_acc" 0 (List.ofFn m.xgmiWriteDataAcc)
      recordXgmiSums now (populatedKb m.xgmiReadDataAcc) (populatedKb m.xgmiWriteDataAcc)) := by
  have hsum (label : String) (acc : Fin links → UInt64) (s : GpuState) :
      (sumXgmiKb label 0 (List.ofFn acc) s).result=.ok (populatedKb acc) := by
    rw [sumXgmiKb_result,UInt64.zero_add,populatedKb]
  unfold recordXgmi
  rw [bind_of_result (hsum _ _)]
  refine congrArg _ (funext fun _ => ?_)
  rw [bind_of_result (hsum _ _)]

/-- RecordXgmi from sample to sample: what is kept, and what is added to which
meter. -/
def linkStep (last : Option XgmiSample) (sample : XgmiSample) : Option XgmiSample×List (Meter×ℕ) :=
  match last with
  | none => (some sample,[])
  | some slot =>
    let dt : ℚ := ((sample.timestamp-slot.timestamp : ℤ) : ℚ)/nanosPerSecond
    if dt≤0 then (some slot,[])
    else (some sample,
      [(.xgmiIn,(bytesPerSecond slot.readKb sample.readKb dt*kBytesConversion).toNat),
        (.xgmiOut,(bytesPerSecond slot.writeKb sample.writeKb dt*kBytesConversion).toNat)])

theorem recordXgmiSums_apply (now : ℤ) (currRead currWrite : UInt64) (s : GpuState) :
    recordXgmiSums now currRead currWrite s=
      ⟨{s with lastXgmi := (linkStep s.lastXgmi ⟨now,currRead,currWrite⟩).1},
        (linkStep s.lastXgmi ⟨now,currRead,currWrite⟩).2.map fun e => .record e.1 e.2,.ok ()⟩ := by
  obtain ⟨supported,lastXgmi⟩ := s
  cases lastXgmi with
  | none => rfl
  | some slot =>
    by_cases h : ((now-slot.timestamp : ℤ) : ℚ)/nanosPerSecond≤0
    · simp only [recordXgmiSums,linkStep,bind_apply,getState_apply,andThen_ok,if_pos h]
      rfl
    · simp only [recordXgmiSums,linkStep,bind_apply,getState_apply,andThen_ok,if_neg h]
      rfl

end AtlasAgent.GpuMetricsAmd
