import AtlasAgent.GpuLatches

/-!
# The AMD SMI wrapper

AmdSmi finds the GPUs of a machine when it is constructed and keeps their
handles; a read of a GPU by its index is one call of the library with its
handle, or two for the memory. Classify makes three statuses of those of the
library. What the library answers is input; an array is filled with at most as
many handles as there is room for.
-/

namespace AtlasAgent.AmdSmiDevices

open GpuLatches GpuMetricsAmd RunHistory

/-- amdsmi_status_t, as far as Classify tells statuses apart. -/
inductive SmiStatus
  | success
  | notSupported
  | notYetImplemented
  | failure
  deriving DecidableEq

/-- A call of the library, with the handle of a socket or of a processor. -/
inductive SmiCall (Handle : Type*)
  | init
  | socketCount
  | socketHandles
  | processorCount (socket : Handle)
  | processorHandles (socket : Handle)
  | processorType (handle : Handle)
  | gpuMemoryTotal (handle : Handle)
  | gpuMemoryUsage (handle : Handle)
  | gpuPciThroughput (handle : Handle)
  | gpuMetricsInfo (handle : Handle)
  | shutDown
  deriving DecidableEq

/-- What the library answers while the devices are looked for; processors are
numbered by their socket and their place in it. -/
structure AmdsmiLibrary (Handle : Type*) where
  init : SmiStatus
  socketCount : SmiStatus×ℕ
  socketHandles : SmiStatus×List Handle
  processorCount : ℕ → SmiStatus×ℕ
  processorHandles : ℕ → SmiStatus×List Handle
  /-- Whether the type of a processor is AMDSMI_PROCESSOR_TYPE_AMD_GPU. -/
  processorType : ℕ → ℕ → SmiStatus×Bool

/-- What the library answers of a GPU at a tick, and the steady clock. -/
structure GpuAnswers (w links : ℕ) where
  memoryTotal : SmiStatus×UInt64
  memoryUsage : SmiStatus×UInt64
  /-- The bytes sent and received. -/
  pciThroughput : SmiStatus×UInt64×UInt64
  metricsInfo : SmiStatus×AmdsmiGpuMetrics w links
  now : ℤ

/-- Classify, with what the call has filled in. -/
def classify {α : Type} : SmiStatus×α → ReadStatus α
  | (.success,data) => .ok data
  | (.notSupported,_) | (.notYetImplemented,_) => .unsupported
  | (.failure,_) => .error

section Construction

variable {Handle : Type*} (library : AmdsmiLibrary Handle)

/-- The body of the loop over the sockets: the calls, and the handles that are kept. -/
def socketDevices (socket : Handle×ℕ) : List (SmiCall Handle)×List Handle :=
  let count := library.processorCount socket.2
  if count.1≠.success then ([.processorCount socket.1],[])
  else
    let found := library.processorHandles socket.2
    if found.1≠.success then ([.processorCount socket.1,.processorHandles socket.1],[])
    else
      let devices := (found.2.take count.2).zipIdx
      (.processorCount socket.1::.processorHandles socket.1::
          devices.map fun device => .processorType device.1,
        (devices.filter fun device =>
          library.processorType socket.2 device.2=(.success,true)).map Prod.fst)

/-- AmdSmi::AmdSmi: the calls, and handles_. -/
def construct : List (SmiCall Handle)×List Handle :=
  if library.init≠.success then ([.init],[])
  else if library.socketCount.1≠.success then ([.init,.socketCount],[])
  else if library.socketHandles.1≠.success then ([.init,.socketCount,.socketHandles],[])
  else
    let sockets := (library.socketHandles.2.take library.socketCount.2).zipIdx
    (.init::.socketCount::.socketHandles::
        sockets.flatMap fun socket => (socketDevices library socket).1,
      sockets.flatMap fun socket => (socketDevices library socket).2)

/-- AmdSmi::~AmdSmi. -/
def destroy : List (SmiCall Handle) := if library.init=.success then [.shutDown] else []

/-- AmdSmi::Count. -/
def gpuCount (handles : List Handle) : ℕ := handles.length%2^32

end Construction

section Reads

variable {Handle : Type*} {w links : ℕ} (handles : List Handle) (gpuId : ℕ)
  (answers : GpuAnswers w links)

/-- AmdSmi::ReadMemory: the calls, and its status. -/
def readMemory : List (SmiCall Handle)×ReadStatus AmdSmiMemory :=
  match handles[gpuId]? with
  | none => ([],.error)
  | some handle =>
    match classify answers.memoryTotal with
    | .unsupported => ([.gpuMemoryTotal handle],.unsupported)
    | .error => ([.gpuMemoryTotal handle],.error)
    | .ok total =>
      ([.gpuMemoryTotal handle,.gpuMemoryUsage handle],
        match classify answers.memoryUsage with
        | .unsupported => .unsupported
        | .error => .error
        | .ok used => .ok ⟨total,used,if used<total then total-used else 0⟩)

/-- AmdSmi::ReadPcieThroughput. -/
def readPcieThroughput : List (SmiCall Handle)×ReadStatus AmdSmiThroughput :=
  match handles[gpuId]? with
  | none => ([],.error)
  | some handle =>
    ([.gpuPciThroughput handle],
      mapStatus (fun bytes => ⟨bytes.1,bytes.2⟩) (classify answers.pciThroughput))

/-- AmdSmi::ReadMetrics. -/
def readMetrics : List (SmiCall Handle)×ReadStatus (AmdsmiGpuMetrics w links) :=
  match handles[gpuId]? with
  | none => ([],.error)
  | some handle => ([.gpuMetricsInfo handle],classify answers.metricsInfo)

/-- The calls of one of the three reads. -/
def readCalls : Call → List (SmiCall Handle)
  | .memory => (readMemory handles gpuId answers).1
  | .pcie => (readPcieThroughput handles gpuId answers).1
  | .metrics => (readMetrics handles gpuId answers).1

/-- A tick of a GPU, as the wrapper gives it to the collector. -/
def gpuTick : GpuTick w links :=
  ⟨(readMemory handles gpuId answers).2,(readPcieThroughput handles gpuId answers).2,
    (readMetrics handles gpuId answers).2,answers.now⟩

end Reads

section Life

variable {Handle : Type*} {w links count : ℕ} (handles : List Handle)

/-- The calls behind an event of a GPU. -/
def gpuCalls (gpuId : ℕ) (answers : GpuAnswers w links) : GpuEvent → List (SmiCall Handle)
  | .smiRead call => readCalls handles gpuId answers call
  | _ => []

/-- The calls behind an event of the collector. -/
def eventCalls (answers : Fin count → GpuAnswers w links) : AmdEvent count → List (SmiCall Handle)
  | .gpu id event => gpuCalls handles id (answers id) event
  | .gpuCount _ => []

/-- A tick of all GPUs. -/
def gpuTicks (answers : Fin count → GpuAnswers w links) : Fin count → GpuTick w links :=
  fun id => gpuTick handles id (answers id)

/-- GpuMetricsAMD::GPUMetrics as a step with the calls that it makes. -/
def tickStep (states : Fin count → GpuState) (answers : Fin count → GpuAnswers w links) :
    (Fin count → GpuState)×List (SmiCall Handle) :=
  ((gpuMetricsStep states (gpuTicks handles answers)).1,
    (gpuMetricsStep states (gpuTicks handles answers)).2.flatMap (eventCalls handles answers))

/-- What an agent does with the library: GpuMetricsAMD::Create, one call of
Collect after another if there is a GPU, and the destructor. -/
def life (library : AmdsmiLibrary Handle)
    (ticks : List (Fin (gpuCount (construct library).2) → GpuAnswers w links)) :
    List (SmiCall Handle) :=
  let handles := (construct library).2
  if gpuCount handles=0 then (construct library).1++destroy library
  else (construct library).1++runOutput (tickStep handles) (fun _ => .init) ticks++destroy library

end Life

/-- The handle that a read of a GPU is given. -/
def SmiCall.gpu {Handle : Type*} : SmiCall Handle → Option Handle
  | .gpuMemoryTotal handle => some handle
  | .gpuMemoryUsage handle => some handle
  | .gpuPciThroughput handle => some handle
  | .gpuMetricsInfo handle => some handle
  | _ => none

/-- The library says of some processor with this handle that it is a GPU. -/
def IsGpu {Handle : Type*} (library : AmdsmiLibrary Handle) (handle : Handle) : Prop :=
  ∃ socket place,(library.processorHandles socket).1=.success ∧
    (library.processorHandles socket).2[place]?=some handle ∧
      library.processorType socket place=(.success,true)

section Handles

variable {Handle : Type*} {library : AmdsmiLibrary Handle}

/-- A handle that is kept is that of a GPU. -/
theorem isGpu_of_mem_construct {handle : Handle} (h : handle∈(construct library).2) :
    IsGpu library handle := by
  rw [construct] at h
  split at h
  · cases h
  split at h
  · cases h
  split at h
  · cases h
  obtain ⟨socket,-,hsocket⟩ := List.mem_flatMap.mp h
  rw [socketDevices] at hsocket
  split at hsocket
  · cases hsocket
  dsimp only at hsocket
  split at hsocket
  · cases hsocket
  rename_i hsuccess
  obtain ⟨device,hdevice,rfl⟩ := List.mem_map.mp hsocket
  obtain ⟨hmem,htype⟩ := List.mem_filter.mp hdevice
  have hplace := List.mem_zipIdx_iff_getElem?.mp hmem
  refine ⟨socket.2,device.2,not_not.mp hsuccess,?_,of_decide_eq_true htype⟩
  rw [List.getElem?_take] at hplace
  split at hplace
  · exact hplace
  · cases hplace

/-- What is called for a socket reads no GPU. -/
theorem socketDevices_calls (socket : Handle×ℕ) :
    ∀ call∈(socketDevices library socket).1,call≠.init ∧ call≠.shutDown ∧ call.gpu=none := by
  intro call hcall
  rw [socketDevices] at hcall
  split at hcall
  · rw [List.mem_singleton.mp hcall]
    exact ⟨nofun,nofun,rfl⟩
  · dsimp only at hcall
    split at hcall
    · rcases List.mem_pair.mp hcall with rfl|rfl
      · exact ⟨nofun,nofun,rfl⟩
      · exact ⟨nofun,nofun,rfl⟩
    · rcases List.mem_cons.mp hcall with rfl|hcall
      · exact ⟨nofun,nofun,rfl⟩
      rcases List.mem_cons.mp hcall with rfl|hcall
      · exact ⟨nofun,nofun,rfl⟩
      obtain ⟨device,-,rfl⟩ := List.mem_map.mp hcall
      exact ⟨nofun,nofun,rfl⟩

/-- The construction begins with amdsmi_init, which it does not repeat, and
reads no GPU. -/
theorem construct_calls (library : AmdsmiLibrary Handle) :
    ∃ rest,(construct library).1=.init::rest ∧ (library.init≠.success → rest=[]) ∧
      ∀ call∈rest,call≠.init ∧ call≠.shutDown ∧ call.gpu=none := by
  rw [construct]
  by_cases hinit : library.init≠.success
  · rw [if_pos hinit]
    exact ⟨[],rfl,fun _ => rfl,by simp⟩
  rw [if_neg hinit]
  split
  · exact ⟨[.socketCount],rfl,fun h => absurd h hinit,
      List.forall_mem_singleton.mpr ⟨nofun,nofun,rfl⟩⟩
  split
  · exact ⟨[.socketCount,.socketHandles],rfl,fun h => absurd h hinit,
      List.forall_mem_cons.mpr ⟨⟨nofun,nofun,rfl⟩,
        List.forall_mem_singleton.mpr ⟨nofun,nofun,rfl⟩⟩⟩
  · refine ⟨_,rfl,fun h => absurd h hinit,
      List.forall_mem_cons.mpr ⟨⟨nofun,nofun,rfl⟩,
        List.forall_mem_cons.mpr ⟨⟨nofun,nofun,rfl⟩,fun call hcall => ?_⟩⟩⟩
    obtain ⟨socket,-,hsocket⟩ := List.mem_flatMap.mp hcall
    exact socketDevices_calls socket call hsocket

/-- The calls of a read are given a handle that has been kept. -/
theorem readCalls_gpu {w links : ℕ} {handles : List Handle} {gpuId : ℕ}
    {answers : GpuAnswers w links} {read : Call} :
    ∀ call∈readCalls handles gpuId answers read,
      call≠.init ∧ call≠.shutDown ∧ ∃ handle∈handles,call.gpu=some handle := by
  have hkept : ∀ handle,handles[gpuId]?=some handle → handle∈handles := fun handle h =>
    List.mem_of_getElem? h
  intro call hcall
  cases read with
  | memory =>
    rw [readCalls,readMemory] at hcall
    split at hcall
    · cases hcall
    · rename_i handle hhandle
      split at hcall
      · rw [List.mem_singleton.mp hcall]
        exact ⟨nofun,nofun,handle,hkept handle hhandle,rfl⟩
      · rw [List.mem_singleton.mp hcall]
        exact ⟨nofun,nofun,handle,hkept handle hhandle,rfl⟩
      · rcases List.mem_pair.mp hcall with rfl|rfl
        · exact ⟨nofun,nofun,handle,hkept handle hhandle,rfl⟩
        · exact ⟨nofun,nofun,handle,hkept handle hhandle,rfl⟩
  | pcie =>
    rw [readCalls,readPcieThroughput] at hcall
    split at hcall
    · cases hcall
    · rename_i handle hhandle
      rw [List.mem_singleton.mp hcall]
      exact ⟨nofun,nofun,handle,hkept handle hhandle,rfl⟩
  | metrics =>
    rw [readCalls,readMetrics] at hcall
    split at hcall
    · cases hcall
    · rename_i handle hhandle
      rw [List.mem_singleton.mp hcall]
      exact ⟨nofun,nofun,handle,hkept handle hhandle,rfl⟩

/-- Every call of a run is one of a read. -/
theorem runOutput_gpu {w links count : ℕ} {handles : List Handle}
    (states : Fin count → GpuState) (ticks : List (Fin count → GpuAnswers w links)) :
    ∀ call∈runOutput (tickStep handles) states ticks,
      call≠.init ∧ call≠.shutDown ∧ ∃ handle∈handles,call.gpu=some handle := by
  intro call hcall
  obtain ⟨before,answers,after,-,hmem⟩ := mem_runOutput.mp hcall
  obtain ⟨event,-,hevent⟩ := List.mem_flatMap.mp hmem
  cases event with
  | gpuCount value => cases hevent
  | gpu id event =>
    cases event with
    | smiRead read => exact readCalls_gpu call hevent
    | _ => cases hevent

/-- Over the whole life of the collection amdsmi_init is called once, first;
amdsmi_shut_down is called once, last, exactly where amdsmi_init has succeeded,
and otherwise nothing else is called at all; and in between every read is of a
processor that the library has reported to be a GPU. -/
theorem smiLife_calls {w links : ℕ} (library : AmdsmiLibrary Handle)
    (ticks : List (Fin (gpuCount (construct library).2) → GpuAnswers w links)) :
    ∃ middle,life library ticks=
        .init::middle++(if library.init=.success then [.shutDown] else []) ∧
      (library.init≠.success → middle=[]) ∧
      ∀ call∈middle,call≠.init ∧ call≠.shutDown ∧
        ∀ handle,call.gpu=some handle → IsGpu library handle := by
  obtain ⟨rest,hcalls,hfailed,hrest⟩ := construct_calls library
  have hsilent : ∀ call∈rest,call≠.init ∧ call≠.shutDown ∧
      ∀ handle,call.gpu=some handle → IsGpu library handle := by
    intro call hcall
    obtain ⟨hinit,hdown,hgpu⟩ := hrest call hcall
    exact ⟨hinit,hdown,fun handle h => by rw [hgpu] at h; cases h⟩
  rw [life]
  split
  · exact ⟨rest,by rw [hcalls,destroy],hfailed,hsilent⟩
  · rename_i hcount
    refine ⟨rest++runOutput (tickStep (construct library).2) (fun _ => .init) ticks,
      by rw [hcalls,destroy,List.cons_append],fun h => ?_,fun call hcall => ?_⟩
    · exact absurd (by rw [construct,if_pos h]; rfl) hcount
    · rcases List.mem_append.mp hcall with hcall|hcall
      · exact hsilent call hcall
      · obtain ⟨hinit,hdown,kept,hkept,hgpu⟩ := runOutput_gpu _ ticks call hcall
        refine ⟨hinit,hdown,fun handle h => ?_⟩
        obtain rfl := Option.some.inj (hgpu.symm.trans h)
        exact isGpu_of_mem_construct hkept

end Handles

/-- A status that latches a read off. -/
def Permanent (status : SmiStatus) : Prop := status=.notSupported ∨ status=.notYetImplemented

/-- The read that a call belongs to. -/
def SmiCall.read {Handle : Type*} : SmiCall Handle → Option Call
  | .gpuMemoryTotal _ => some .memory
  | .gpuMemoryUsage _ => some .memory
  | .gpuPciThroughput _ => some .pcie
  | .gpuMetricsInfo _ => some .metrics
  | _ => none

section Ticks

variable {Handle : Type*} {w links count : ℕ}

/-- The library says for good that a read is not supported. The use of the
memory is asked for only where its size is known. -/
def Unsupported (answers : GpuAnswers w links) : Call → Prop
  | .memory => Permanent answers.memoryTotal.1 ∨
      answers.memoryTotal.1=.success ∧ Permanent answers.memoryUsage.1
  | .pcie => Permanent answers.pciThroughput.1
  | .metrics => Permanent answers.metricsInfo.1

/-- The calls of a read. -/
def callsOf (handle : Handle) (answers : GpuAnswers w links) : Call → List (SmiCall Handle)
  | .memory => .gpuMemoryTotal handle::
      if answers.memoryTotal.1=.success then [.gpuMemoryUsage handle] else []
  | .pcie => [.gpuPciThroughput handle]
  | .metrics => [.gpuMetricsInfo handle]

/-- What the two answers about the memory hold for a gauge. -/
def memoryGauge (answers : GpuAnswers w links) : Meter → Option ℕ
  | .usedMemory => some answers.memoryUsage.2.toNat
  | .freeMemory => some (answers.memoryTotal.2.toNat-answers.memoryUsage.2.toNat)
  | .totalMemory => some answers.memoryTotal.2.toNat
  | _ => none

/-- A status is permanent exactly when the wrapper says unsupported. -/
theorem classify_cases {α : Type} (answer : SmiStatus×α) :
    answer.1=.success ∧ ¬Permanent answer.1 ∧ classify answer=.ok answer.2 ∨
      answer.1≠.success ∧ Permanent answer.1 ∧ classify answer=.unsupported ∨
      answer.1≠.success ∧ ¬Permanent answer.1 ∧ classify answer=.error := by
  obtain ⟨status,data⟩ := answer
  cases status with
  | success => exact .inl ⟨rfl,by simp [Permanent],rfl⟩
  | notSupported => exact .inr (.inl ⟨by simp,.inl rfl,rfl⟩)
  | notYetImplemented => exact .inr (.inl ⟨by simp,.inr rfl,rfl⟩)
  | failure => exact .inr (.inr ⟨by simp,by simp [Permanent],rfl⟩)

variable {handles : List Handle} {gpuId : ℕ} {handle : Handle}

/-- The memory read of a GPU that has been found. -/
theorem readMemory_cases (h : handles[gpuId]?=some handle) (answers : GpuAnswers w links) :
    (readMemory handles gpuId answers).1=callsOf handle answers .memory ∧
      ((readMemory handles gpuId answers).2=.unsupported ↔ Unsupported answers .memory) ∧
      ∀ memory,(readMemory handles gpuId answers).2=.ok memory ↔
        answers.memoryTotal.1=.success ∧ answers.memoryUsage.1=.success ∧
          memory=⟨answers.memoryTotal.2,answers.memoryUsage.2,
            if answers.memoryUsage.2<answers.memoryTotal.2 then
              answers.memoryTotal.2-answers.memoryUsage.2 else 0⟩ := by
  rw [readMemory,h,callsOf,Unsupported]
  dsimp only
  obtain ⟨htotal,hnot,hclass⟩|⟨htotal,hperm,hclass⟩|⟨htotal,hnot,hclass⟩ :=
    classify_cases answers.memoryTotal
  · rw [hclass,if_pos htotal]
    dsimp only
    obtain ⟨husage,hnot',hclass'⟩|⟨husage,hperm',hclass'⟩|⟨husage,hnot',hclass'⟩ :=
      classify_cases answers.memoryUsage
    · rw [hclass']
      refine ⟨rfl,iff_of_false nofun ?_,fun memory => ?_⟩
      · rintro (hperm|⟨-,hperm⟩)
        · exact hnot hperm
        · exact hnot' hperm
      · constructor
        · rintro ⟨⟩
          exact ⟨htotal,husage,rfl⟩
        · rintro ⟨-,-,rfl⟩
          rfl
    · rw [hclass']
      exact ⟨rfl,iff_of_true rfl (.inr ⟨htotal,hperm'⟩),fun memory =>
        iff_of_false nofun fun hmemory => husage hmemory.2.1⟩
    · rw [hclass']
      refine ⟨rfl,iff_of_false nofun ?_,fun memory =>
        iff_of_false nofun fun hmemory => husage hmemory.2.1⟩
      rintro (hperm|⟨-,hperm⟩)
      · exact hnot hperm
      · exact hnot' hperm
  · rw [hclass,if_neg htotal]
    exact ⟨rfl,iff_of_true rfl (.inl hperm),fun memory =>
      iff_of_false nofun fun hmemory => htotal hmemory.1⟩
  · rw [hclass,if_neg htotal]
    refine ⟨rfl,iff_of_false nofun ?_,fun memory =>
      iff_of_false nofun fun hmemory => htotal hmemory.1⟩
    rintro (hperm|⟨hsuccess,-⟩)
    · exact hnot hperm
    · exact htotal hsuccess

/-- The calls of a read of a GPU that has been found. -/
theorem readCalls_eq (h : handles[gpuId]?=some handle) (answers : GpuAnswers w links)
    (read : Call) : readCalls handles gpuId answers read=callsOf handle answers read := by
  cases read with
  | memory => exact (readMemory_cases h answers).1
  | pcie => rw [readCalls,readPcieThroughput,h]; rfl
  | metrics => rw [readCalls,readMetrics,h]; rfl

/-- The collector is told unsupported exactly when the library says so for good. -/
theorem statusOf_gpuTick_iff (h : handles[gpuId]?=some handle) (answers : GpuAnswers w links)
    (read : Call) :
    statusOf (gpuTick handles gpuId answers) read=.unsupported ↔ Unsupported answers read := by
  have hmap : ∀ {α : Type} (status : ReadStatus α),
      mapStatus (fun _ => ()) status=.unsupported ↔ status=.unsupported := by
    intro α status
    cases status with
    | ok data => exact iff_of_false nofun nofun
    | unsupported => exact iff_of_true rfl rfl
    | error => exact iff_of_false nofun nofun
  have hclassify : ∀ {α : Type} (answer : SmiStatus×α),
      classify answer=.unsupported ↔ Permanent answer.1 := by
    intro α answer
    obtain ⟨-,hnot,hclass⟩|⟨-,hperm,hclass⟩|⟨-,hnot,hclass⟩ := classify_cases answer
    · rw [hclass]
      exact iff_of_false nofun hnot
    · exact iff_of_true hclass hperm
    · rw [hclass]
      exact iff_of_false nofun hnot
  cases read with
  | memory => exact (hmap _).trans (readMemory_cases h answers).2.1
  | pcie =>
    refine (hmap _).trans ((?_ : _ ↔ _).trans (hclassify answers.pciThroughput))
    rw [gpuTick,readPcieThroughput,h]
    dsimp only
    cases classify answers.pciThroughput with
    | ok bytes => exact iff_of_false nofun nofun
    | unsupported => exact iff_of_true rfl rfl
    | error => exact iff_of_false nofun nofun
  | metrics =>
    refine (hmap _).trans ((?_ : _ ↔ _).trans (hclassify answers.metricsInfo))
    rw [gpuTick,readMetrics,h]

/-- Every call of a read is one of that read. -/
theorem read_of_mem_callsOf {answers : GpuAnswers w links} {read : Call} {call : SmiCall Handle}
    (h : call∈callsOf handle answers read) : call.read=some read := by
  cases read with
  | memory =>
    rcases List.mem_cons.mp h with rfl|h
    · rfl
    · split at h
      · rw [List.mem_singleton.mp h]
        rfl
      · cases h
  | pcie =>
    rw [List.mem_singleton.mp h]
    rfl
  | metrics =>
    rw [List.mem_singleton.mp h]
    rfl

/-- Of the calls of one read another one has none. -/
theorem filter_callsOf (answers : GpuAnswers w links) (read other : Call) :
    (callsOf handle answers other).filter (·.read=some read)=
      if other=read then callsOf handle answers other else [] := by
  by_cases hsame : other=read
  · rw [if_pos hsame]
    refine List.filter_eq_self.mpr fun call hcall => ?_
    rw [read_of_mem_callsOf hcall,hsame]
    exact decide_eq_true rfl
  · rw [if_neg hsame]
    refine List.filter_eq_nil_iff.mpr fun call hcall => ?_
    rw [read_of_mem_callsOf hcall]
    simpa using hsame

/-- The calls of a read among those of a GPU are the calls behind its events. -/
theorem filter_gpuCalls (h : handles[gpuId]?=some handle) (answers : GpuAnswers w links)
    (read : Call) (events : List GpuEvent) :
    (events.flatMap (gpuCalls handles gpuId answers)).filter (·.read=some read)=
      (events.filterMap (callEvent read)).flatMap (gpuCalls handles gpuId answers) := by
  have hcalls : ∀ other,gpuCalls handles gpuId answers (.smiRead other)=
      callsOf handle answers other := readCalls_eq h answers
  induction events with
  | nil => rfl
  | cons event events ih =>
    rw [List.flatMap_cons,List.filter_append,ih,List.filterMap_cons]
    cases event with
    | smiRead other =>
      rw [hcalls,filter_callsOf]
      by_cases hsame : other=read
      · have hpick : callEvent read (.smiRead other)=some (.smiRead other) :=
          if_pos (.inl (by rw [hsame]))
        rw [if_pos hsame,hpick,List.flatMap_cons,hcalls]
      · have hskip : callEvent read (.smiRead other)=none := if_neg (by simpa using hsame)
        rw [if_neg hsame,hskip,List.nil_append]
    | onOk other =>
      have hnone : gpuCalls handles gpuId answers (.onOk other)=[] := rfl
      rw [hnone,List.filter_nil,List.nil_append]
      by_cases hsame : other=read
      · have hpick : callEvent read (.onOk other)=some (.onOk other) :=
          if_pos (.inr (by rw [hsame]))
        rw [hpick,List.flatMap_cons,hnone,List.nil_append]
      · have hskip : callEvent read (.onOk other)=none := if_neg (by simpa using hsame)
        rw [hskip]
    | record meter value =>
      have hskip : callEvent read (.record meter value)=none := if_neg (by simp)
      rw [hskip]
      rfl
    | logUnsupported latch name =>
      have hskip : callEvent read (.logUnsupported latch name)=none := if_neg (by simp)
      rw [hskip]
      rfl

/-- A memory read that succeeds holds for a gauge what the two answers do. -/
theorem memoryValue_eq (answers : GpuAnswers w links) (meter : Meter) :
    memoryValue ⟨answers.memoryTotal.2,answers.memoryUsage.2,
      if answers.memoryUsage.2<answers.memoryTotal.2 then
        answers.memoryTotal.2-answers.memoryUsage.2 else 0⟩ meter=memoryGauge answers meter := by
  cases meter with
  | freeMemory =>
    refine congrArg some ?_
    dsimp only
    split
    · rename_i hless
      exact UInt64.toNat_sub_of_le _ _ (UInt64.le_of_lt hless)
    · rename_i hless
      have hle := UInt64.le_iff_toNat_le.mp (UInt64.not_lt.mp hless)
      rw [UInt64.toNat_zero]
      omega
  | _ => rfl

/-- An event that sets a meter is found among the values of the meter, and only
such an event is. -/
theorem record_mem_iff {events : List GpuEvent} {meter : Meter} {value : ℕ} :
    .record meter value∈events ↔ value∈events.filterMap (recordOf meter) := by
  refine ⟨mem_records,fun hvalue => ?_⟩
  obtain ⟨event,hevent,hrecord⟩ := List.mem_filterMap.mp hvalue
  cases event with
  | record other number =>
    rw [recordOf] at hrecord
    split at hrecord
    · rename_i hsame
      rw [←hsame,←Option.some.inj hrecord]
      exact hevent
    · cases hrecord
  | _ => cases hrecord

/-- A read is reached as long as the library has not ruled it out. -/
theorem reached_gpuTicks_iff (before : List (Fin count → GpuAnswers w links)) {id : Fin count}
    (h : handles[(id : ℕ)]?=some handle) (read : Call) :
    Reached read ((before.map (gpuTicks handles)).map (· id)) ↔
      ∀ earlier∈before,¬Unsupported (earlier id) read := by
  rw [Reached,List.map_map,List.forall_mem_map]
  exact forall₂_congr fun earlier _ => not_congr (statusOf_gpuTick_iff h (earlier id) read)

/-- The events of a read that is reached are its calls. -/
theorem flatMap_callEvents (answers : Fin count → GpuAnswers w links) {id : Fin count}
    (h : handles[(id : ℕ)]?=some handle) (read : Call) (status : ReadStatus Unit) :
    (callEvents read status).flatMap (gpuCalls handles id (answers id))=
      callsOf handle (answers id) read := by
  have hread : gpuCalls handles id (answers id) (.smiRead read)=callsOf handle (answers id) read :=
    readCalls_eq h (answers id) read
  rw [callEvents,List.flatMap_cons,hread]
  split
  · exact List.append_nil _
  · exact List.append_nil _

/-- What a tick holds for a memory gauge is there when both answers are. -/
theorem mem_recorded_memory (answers : Fin count → GpuAnswers w links) {id : Fin count}
    (h : handles[(id : ℕ)]?=some handle) {meter : Meter} (hmeter : callOf meter=.memory)
    (value : ℕ) :
    value∈recorded (valueOf (gpuTicks handles answers id) meter) ↔
      (answers id).memoryTotal.1=.success ∧ (answers id).memoryUsage.1=.success ∧
        memoryGauge (answers id) meter=some value := by
  have hok := (readMemory_cases h (answers id)).2.2
  have hvalue : valueOf (gpuTicks handles answers id) meter=
      mapStatus (memoryValue · meter) (readMemory handles id (answers id)).2 := by
    rw [valueOf,hmeter]
    rfl
  rw [hvalue]
  cases hread : (readMemory handles (id : ℕ) (answers id)).2 with
  | ok memory =>
    obtain ⟨htotal,husage,rfl⟩ := (hok memory).mp hread
    rw [mapStatus,memoryValue_eq,recorded,Option.mem_toList]
    exact ⟨fun hgauge => ⟨htotal,husage,hgauge⟩,fun hgauge => hgauge.2.2⟩
  | unsupported =>
    refine iff_of_false (List.not_mem_nil) fun hgauge => ?_
    cases hread.symm.trans ((hok _).mpr ⟨hgauge.1,hgauge.2.1,rfl⟩)
  | error =>
    refine iff_of_false (List.not_mem_nil) fun hgauge => ?_
    cases hread.symm.trans ((hok _).mpr ⟨hgauge.1,hgauge.2.1,rfl⟩)

/-- In every run and for every GPU that has been found, a tick makes exactly the
calls of those reads that the library has at no earlier tick said it will never
support, the use of the memory being asked for only after its size; and it sets
a memory gauge exactly where both answers are there, to used, to what of the
total is not used, or to the total. -/
theorem tickCalls_every_run (before : List (Fin count → GpuAnswers w links))
    (answers : Fin count → GpuAnswers w links) (id : Fin count)
    (h : handles[(id : ℕ)]?=some handle) :
    let events := eventsOf id (outputAfter gpuMetricsStep (fun _ => .init)
      (before.map (gpuTicks handles)) (gpuTicks handles answers))
    let calls := events.flatMap (gpuCalls handles id (answers id))
    (∀ read,(∀ earlier∈before,¬Unsupported (earlier id) read) →
      calls.filter (·.read=some read)=callsOf handle (answers id) read) ∧
    (∀ read,(∃ earlier∈before,Unsupported (earlier id) read) →
      calls.filter (·.read=some read)=[]) ∧
    ∀ meter value,callOf meter=.memory → (.record meter value∈events ↔
      (∀ earlier∈before,¬Unsupported (earlier id) .memory) ∧
        (answers id).memoryTotal.1=.success ∧ (answers id).memoryUsage.1=.success ∧
          memoryGauge (answers id) meter=some value) := by
  intro events calls
  have hcontract := tickContract_every_run
    ((before.map (gpuTicks handles)).map (· id)) (gpuTicks handles answers id)
  have hevents : events=outputAfter collectStep .init ((before.map (gpuTicks handles)).map (· id))
      (gpuTicks handles answers id) := (gpuMetrics_projects id).outputAfter _ _ _
  rw [←hevents] at hcontract
  have hreached := reached_gpuTicks_iff before h
  refine ⟨fun read hon => ?_,fun read hoff => ?_,fun meter value hmeter => ?_⟩
  · have hpicked := (hcontract.calls read).trans (if_pos ((hreached read).mpr hon))
    rw [filter_gpuCalls h,hpicked,flatMap_callEvents answers h]
  · have hnot : ¬Reached read ((before.map (gpuTicks handles)).map (· id)) := by
      intro hon
      obtain ⟨earlier,hearlier,hunsupported⟩ := hoff
      exact (hreached read).mp hon earlier hearlier hunsupported
    have hpicked := (hcontract.calls read).trans (if_neg hnot)
    rw [filter_gpuCalls h,hpicked]
    rfl
  · have hxgmi : ¬IsXgmi meter := by
      rintro (rfl|rfl)
      · cases hmeter
      · cases hmeter
    have hrecords := hcontract.records meter hxgmi
    rw [hmeter] at hrecords
    rw [record_mem_iff,hrecords,←hreached .memory]
    by_cases hon : Reached .memory ((before.map (gpuTicks handles)).map (· id))
    · rw [if_pos hon,mem_recorded_memory answers h hmeter]
      exact (and_iff_right hon).symm
    · rw [if_neg hon]
      exact iff_of_false List.not_mem_nil fun hgauge => hon hgauge.1

/-- A GPU whose throughput cannot be read. -/
def withoutPcie : GpuAnswers 16 0 :=
  ⟨(.success,100),(.success,40),(.notSupported,0,0),
    (.success,⟨50,0,0,0,0,90,0,Fin.elim0,Fin.elim0⟩),0⟩

/-- Its second tick asks for the memory and no longer for the throughput, and
sets what of the memory is not used. -/
theorem tickCalls_withoutPcie :
    let events := eventsOf (0 : Fin 1) (outputAfter gpuMetricsStep (fun _ => .init)
      ([fun _ => withoutPcie].map (gpuTicks [7])) (gpuTicks [7] fun _ => withoutPcie))
    let calls := events.flatMap (gpuCalls [7] (0 : Fin 1) withoutPcie)
    calls.filter (·.read=some .pcie)=[] ∧
      calls.filter (·.read=some .memory)=[.gpuMemoryTotal 7,.gpuMemoryUsage 7] ∧
      .record .freeMemory 60∈events := by
  obtain ⟨hon,hoff,hmemory⟩ := tickCalls_every_run [fun _ => withoutPcie] (fun _ => withoutPcie)
    (0 : Fin 1) (rfl : [7][((0 : Fin 1) : ℕ)]?=some 7)
  have hsupported : ∀ earlier∈[fun _ : Fin 1 => withoutPcie],¬Unsupported (earlier 0) .memory := by
    refine List.forall_mem_singleton.mpr ?_
    rintro ((hperm|hperm)|⟨-,hperm|hperm⟩)
    · cases hperm
    · cases hperm
    · cases hperm
    · cases hperm
  exact ⟨hoff .pcie ⟨_,List.mem_singleton_self _,.inl rfl⟩,hon .memory hsupported,
    (hmemory .freeMemory 60 rfl).mpr ⟨hsupported,rfl,rfl,rfl⟩⟩

end Ticks

end AtlasAgent.AmdSmiDevices
