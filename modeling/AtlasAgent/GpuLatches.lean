import AtlasAgent.GpuMetricsAmd
import AtlasAgent.RunTotals
import Mathlib.Data.List.Forall2
import Mathlib.Data.List.Induction

/-!
# What the support latches of the AMD GPUs decide

A read is skipped once it has been reported unsupported, and nothing else is:
the latches of the fields only keep the log quiet. The collector of a GPU is
cut along its three reads, and each observer sees the one read it belongs to.
-/

namespace AtlasAgent.GpuLatches

open Effects GpuMetricsAmd ProgramFrames RunHistory RunProjections RunTotals

/-- A status together with what is read off its data. -/
def mapStatus {α β : Type} (f : α → β) : ReadStatus α → ReadStatus β
  | .ok data => .ok (f data)
  | .unsupported => .unsupported
  | .error => .error

/-- The read that feeds a meter. -/
def callOf : Meter → Call
  | .usedMemory | .freeMemory | .totalMemory => .memory
  | .pcieIn | .pcieOut => .pcie
  | _ => .metrics

/-- The meters of the xGMI links, which keep a sample between ticks. -/
def IsXgmi (meter : Meter) : Prop := meter=.xgmiIn ∨ meter=.xgmiOut

instance (meter : Meter) : Decidable (IsXgmi meter) := inferInstanceAs (Decidable (_ ∨ _))

/-- What a successful memory read holds for a meter. -/
def memoryValue (memory : AmdSmiMemory) : Meter → Option ℕ
  | .usedMemory => some memory.used.toNat
  | .freeMemory => some memory.free.toNat
  | .totalMemory => some memory.total.toNat
  | _ => none

/-- And a successful throughput read. -/
def pcieValue (pcie : AmdSmiThroughput) : Meter → Option ℕ
  | .pcieIn => some (pcie.inBytesPerSec*kBytesConversion).toNat
  | .pcieOut => some (pcie.outBytesPerSec*kBytesConversion).toNat
  | _ => none

/-- The value of a field, unless all its bits are set. -/
def populatedBits {w : ℕ} (value : BitVec w) : Option ℕ :=
  if value=BitVec.allOnes w then none else some value.toNat

section Ticks

variable {w links : ℕ}

/-- What the fields of the firmware table hold for a meter. -/
def fieldValue (m : AmdsmiGpuMetrics w links) : Meter → Option ℕ
  | .temperature => if m.temperatureEdge=uint16Max then none else some m.temperatureEdge.toNat
  | .utilization => populatedBits m.averageGfxActivity
  | .memoryActivity => populatedBits m.averageUmcActivity
  | .gfxClock => populatedBits m.currentGfxclk
  | .memoryClock => populatedBits m.currentUclk
  | .power =>
    if m.currentSocketPower≠uint16Max then some m.currentSocketPower.toNat
    else if m.averageSocketPower≠uint16Max then some m.averageSocketPower.toNat
    else none
  | _ => none

/-- The sample of the links. -/
def linkSample (now : ℤ) (m : AmdsmiGpuMetrics w links) : XgmiSample :=
  ⟨now,populatedKb m.xgmiReadDataAcc,populatedKb m.xgmiWriteDataAcc⟩

/-- The status of a read. -/
def statusOf (tick : GpuTick w links) : Call → ReadStatus Unit
  | .memory => mapStatus (fun _ => ()) tick.memory
  | .pcie => mapStatus (fun _ => ()) tick.pcie
  | .metrics => mapStatus (fun _ => ()) tick.metrics

/-- The read has not been reported unsupported so far. -/
def Reached (call : Call) (before : List (GpuTick w links)) : Prop :=
  ∀ earlier∈before,statusOf earlier call≠.unsupported

instance (call : Call) (before : List (GpuTick w links)) : Decidable (Reached call before) :=
  List.decidableBAll _ before

/-- What a tick holds for a meter other than those of the links. -/
def valueOf (tick : GpuTick w links) (meter : Meter) : ReadStatus (Option ℕ) :=
  match callOf meter with
  | .memory => mapStatus (memoryValue · meter) tick.memory
  | .pcie => mapStatus (pcieValue · meter) tick.pcie
  | .metrics => mapStatus (fieldValue · meter) tick.metrics

/-- The program of one of the three reads. -/
def gatherCall (tick : GpuTick w links) : Call → GpuProgram Unit
  | .memory => gather .memory tick.memory recordMemory
  | .pcie => gather .pcie tick.pcie recordPCIEThroughput
  | .metrics => gather .metrics tick.metrics (recordMetrics tick.now)

end Ticks

/-- The values recorded for what a read holds. -/
def recorded : ReadStatus (Option ℕ) → List ℕ
  | .ok value => value.toList
  | _ => []

/-- The value that an event sets a meter to or adds to it. -/
def recordOf (meter : Meter) : GpuEvent → Option ℕ
  | .record other value => if other=meter then some value else none
  | _ => none

/-- The event, if it is one of this read. -/
def callEvent (call : Call) (event : GpuEvent) : Option GpuEvent :=
  if event=.smiRead call ∨ event=.onOk call then some event else none

/-- Programs without failures run one after the other. -/
theorem seq_apply {α : Type} (first : GpuProgram Unit) (second : GpuProgram α) (s : GpuState) :
    (first >>= fun _ => second) s=⟨(second (first s).state).state,
      (first s).outputs++(second (first s).state).outputs,(second (first s).state).result⟩ :=
  bind_apply_of_result (returns_unit.mp (returns_of_isEmpty first s)) _

section Parts

variable {τ : Type} {part : GpuState → τ} {Good : GpuEvent → Prop}

theorem keeps_unsupported {latch : Latch} (h : ∀ s : GpuState, part (s.latchOff latch)=part s)
    (name : String) : Keeps part (unsupported latch name) := by
  intro s
  by_cases hs : s.supported latch=true <;> simp [unsupported,hs,h]

theorem emits_unsupported {latch : Latch} {name : String} (h : Good (.logUnsupported latch name)) :
    Emits Good (unsupported latch name) := by
  intro s o ho
  by_cases hs : s.supported latch=true
  · have : o=.logUnsupported latch name := by simpa [unsupported,hs] using ho
    exact this ▸ h
  · simp [unsupported,hs] at ho

end Parts

/-- What every function of a single field does: set its meter, or latch its log
off when it is not populated. -/
def recordField (meter : Meter) (latch : Latch) (name : String) : Option ℕ → GpuProgram Unit
  | none => unsupported latch name
  | some value => emit (.record meter value)

theorem recordScalar_eq {w : ℕ} (meter : Meter) (latch : Latch) (field : String)
    (value : BitVec w) :
    recordScalar meter latch field value=recordField meter latch field (populatedBits value) := by
  unfold recordScalar populatedBits
  split <;> rfl

section Fields

variable {w links : ℕ} (m : AmdsmiGpuMetrics w links)

theorem recordTemperature_eq :
    recordTemperature m=
      recordField .temperature .temperature "temperature_edge" (fieldValue m .temperature) := by
  simp only [recordTemperature,fieldValue]
  split <;> rfl

theorem recordActivity_eq : recordActivity m=(do
    recordField .utilization .gfxActivity "average_gfx_activity" (fieldValue m .utilization)
    recordField .memoryActivity .umcActivity "average_umc_activity"
      (fieldValue m .memoryActivity)) := by
  rw [recordActivity,recordScalar_eq,recordScalar_eq]
  rfl

theorem recordClocks_eq : recordClocks m=(do
    recordField .gfxClock .gfxClock "current_gfxclk" (fieldValue m .gfxClock)
    recordField .memoryClock .memClock "current_uclk" (fieldValue m .memoryClock)) := by
  rw [recordClocks,recordScalar_eq,recordScalar_eq]
  rfl

theorem recordPower_eq :
    recordPower m=recordField .power .power "socket power" (fieldValue m .power) := by
  simp only [recordPower,fieldValue]
  split
  · rfl
  · split <;> rfl

end Fields

/-- The record of a field is its value, and that of no other meter. -/
theorem recordField_records (meter : Meter) (latch : Latch) (name : String) (value : Option ℕ)
    (other : Meter) (s : GpuState) :
    (recordField meter latch name value s).outputs.filterMap (recordOf other)=
      if meter=other then value.toList else [] := by
  cases value with
  | none =>
    have hsilent : Emits (recordOf other · = none) (unsupported latch name) :=
      emits_unsupported rfl
    rw [recordField,List.filterMap_eq_nil_iff.mpr (hsilent s)]
    simp
  | some value => by_cases h : meter=other <;> simp [recordField,recordOf,h]

/-- A property of programs that holds of the logs of the fields, and of programs
put together from parts that have it. -/
structure HoldsOfLogs (P : ∀ α : Type, GpuProgram α → Prop) : Prop where
  bind : ∀ {α β : Type} {program : GpuProgram α} {next : α → GpuProgram β},
    P α program → (∀ value, P β (next value)) → P β (program >>= next)
  pure : ∀ {α : Type} (value : α), P α (pure value)
  unsupported : ∀ latch name, (∀ call : Call, call.latch≠latch) → P Unit (unsupported latch name)

section HoldsOfLogs

variable {P : ∀ α : Type, GpuProgram α → Prop} {w links : ℕ}

theorem HoldsOfLogs.sumXgmiKb (h : HoldsOfLogs P) (label : String) (total : UInt64)
    (arr : List UInt64) : P UInt64 (sumXgmiKb label total arr) := by
  induction arr generalizing total with
  | nil => exact h.pure total
  | cons acc arr ih =>
    rw [GpuMetricsAmd.sumXgmiKb]
    split
    · exact h.bind (h.unsupported .xgmi label (by rintro (_|_|_) <;> decide)) fun _ => ih total
    · exact ih (total+acc)

/-- It is one of RecordXgmi, once it holds of what the two sums are used for. -/
theorem HoldsOfLogs.recordXgmi (h : HoldsOfLogs P)
    (hsums : ∀ now currRead currWrite, P Unit (recordXgmiSums now currRead currWrite)) (now : ℤ)
    (m : AmdsmiGpuMetrics w links) : P Unit (recordXgmi now m) :=
  h.bind (h.sumXgmiKb _ _ _) fun _ => h.bind (h.sumXgmiKb _ _ _) fun _ => hsums _ _ _

/-- And of the whole callback of the metrics read, once it also holds of the
records of the meters that are fed from a field. -/
theorem HoldsOfLogs.recordMetrics (h : HoldsOfLogs P)
    (hrecord : ∀ meter value, callOf meter=.metrics → P Unit (emit (.record meter value)))
    (hsums : ∀ now currRead currWrite, P Unit (recordXgmiSums now currRead currWrite)) (now : ℤ)
    (m : AmdsmiGpuMetrics w links) : P Unit (recordMetrics now m) := by
  have hfield {meter : Meter} {latch : Latch} (hmeter : callOf meter=.metrics)
      (hlatch : ∀ call : Call, call.latch≠latch) (name : String) (value : Option ℕ) :
      P Unit (recordField meter latch name value) := by
    cases value with
    | none => exact h.unsupported latch name hlatch
    | some value => exact hrecord meter value hmeter
  rw [GpuMetricsAmd.recordMetrics,recordTemperature_eq,recordActivity_eq,recordClocks_eq,
    recordPower_eq]
  refine h.bind (hfield ?_ ?_ _ _) fun _ => h.bind (h.bind (hfield ?_ ?_ _ _) fun _ =>
    hfield ?_ ?_ _ _) fun _ => h.bind (h.bind (hfield ?_ ?_ _ _) fun _ => hfield ?_ ?_ _ _)
      fun _ => h.bind (hfield ?_ ?_ _ _) fun _ => h.recordXgmi hsums now m
  all_goals first | rfl | (rintro (_|_|_) <;> decide)

end HoldsOfLogs

theorem holdsOfLogs_keeps {τ : Type} {part : GpuState → τ}
    (h : ∀ (s : GpuState) latch, (∀ call : Call, call.latch≠latch) →
      part (s.latchOff latch)=part s) : HoldsOfLogs fun _ => Keeps part where
  bind := keeps_bind
  pure := keeps_pure
  unsupported latch name hlatch := keeps_unsupported (fun s => h s latch hlatch) name

theorem holdsOfLogs_emits {Good : GpuEvent → Prop}
    (h : ∀ latch name, Good (.logUnsupported latch name)) :
    HoldsOfLogs fun _ => Emits Good where
  bind := emits_bind
  pure := emits_pure
  unsupported latch name _ := emits_unsupported (h latch name)

theorem keeps_recordXgmiSums {τ : Type} {part : GpuState → τ}
    (h : ∀ (s : GpuState) last, part {s with lastXgmi := last}=part s) (now : ℤ)
    (currRead currWrite : UInt64) : Keeps part (recordXgmiSums now currRead currWrite) := by
  intro s
  rw [recordXgmiSums_apply,h]

theorem linkStep_meter {last : Option XgmiSample} {sample : XgmiSample} {e : Meter×ℕ}
    (h : e∈(linkStep last sample).2) : IsXgmi e.1 := by
  cases last with
  | none => simp [linkStep] at h
  | some slot =>
    simp only [linkStep] at h
    split at h
    · simp at h
    · rcases List.mem_pair.mp h with rfl|rfl
      · exact Or.inl rfl
      · exact Or.inr rfl

theorem emits_recordXgmiSums {Good : GpuEvent → Prop}
    (h : ∀ meter value, IsXgmi meter → Good (.record meter value)) (now : ℤ)
    (currRead currWrite : UInt64) : Emits Good (recordXgmiSums now currRead currWrite) := by
  intro s o ho
  rw [recordXgmiSums_apply] at ho
  obtain ⟨e,he,rfl⟩ := List.mem_map.mp ho
  exact h _ _ (linkStep_meter he)

/-- A read that is latched off is skipped, and an error changes nothing. -/
theorem gather_apply {α : Type} (call : Call) (read : ReadStatus α) (onOk : α → GpuProgram Unit)
    (s : GpuState) :
    gather call read onOk s=
      if s.supported call.latch=true then
        match read with
        | .ok data =>
          ⟨(onOk data s).state,.smiRead call::.onOk call::(onOk data s).outputs,.ok ()⟩
        | .unsupported =>
          ⟨s.latchOff call.latch,[.smiRead call,.logUnsupported call.latch call.name],.ok ()⟩
        | .error => ⟨s,[.smiRead call],.ok ()⟩
      else ⟨s,[],.ok ()⟩ := by
  by_cases hs : s.supported call.latch=true
  · cases read with
    | ok data =>
      obtain ⟨⟨⟩,hresult⟩ := returns_of_isEmpty (onOk data) s
      simp [gather,gathered,hs,hresult]
    | unsupported => simp [gather,gathered,unsupported,hs]
    | error => simp [gather,gathered,hs]
  · simp [gather,hs]

theorem keeps_gather {α τ : Type} {part : GpuState → τ} {call : Call} {onOk : α → GpuProgram Unit}
    (hlatch : ∀ s : GpuState, part (s.latchOff call.latch)=part s)
    (honOk : ∀ data, Keeps part (onOk data)) (read : ReadStatus α) :
    Keeps part (gather call read onOk) := by
  intro s
  rw [gather_apply]
  split
  · cases read with
    | ok data => exact honOk data s
    | unsupported => exact hlatch s
    | error => rfl
  · rfl

theorem emits_gather {α : Type} {Good : GpuEvent → Prop} {call : Call}
    {onOk : α → GpuProgram Unit} (hread : Good (.smiRead call)) (hok : Good (.onOk call))
    (hlog : Good (.logUnsupported call.latch call.name)) (honOk : ∀ data, Emits Good (onOk data))
    (read : ReadStatus α) : Emits Good (gather call read onOk) := by
  refine emits_bind (emits_getState) fun s => emits_ite (emits_bind (emits_emit hread) fun _ => ?_)
    (emits_pure ())
  cases read with
  | ok data => exact emits_bind (emits_emit hok) fun _ => honOk data
  | unsupported => exact emits_unsupported hlog
  | error => exact emits_pure ()

theorem keeps_recordMemory {τ : Type} (part : GpuState → τ) (memory : AmdSmiMemory) :
    Keeps part (recordMemory memory) :=
  keeps_bind (keeps_emit _) fun _ => keeps_bind (keeps_emit _) fun _ => keeps_emit _

theorem keeps_recordPCIEThroughput {τ : Type} (part : GpuState → τ) (pcie : AmdSmiThroughput) :
    Keeps part (recordPCIEThroughput pcie) :=
  keeps_bind (keeps_emit _) fun _ => keeps_emit _

theorem emits_recordMemory {Good : GpuEvent → Prop}
    (h : ∀ meter value, callOf meter=.memory → Good (.record meter value))
    (memory : AmdSmiMemory) : Emits Good (recordMemory memory) :=
  emits_bind (emits_emit (h _ _ rfl)) fun _ => emits_bind (emits_emit (h _ _ rfl)) fun _ =>
    emits_emit (h _ _ rfl)

theorem emits_recordPCIEThroughput {Good : GpuEvent → Prop}
    (h : ∀ meter value, callOf meter=.pcie → Good (.record meter value))
    (pcie : AmdSmiThroughput) : Emits Good (recordPCIEThroughput pcie) :=
  emits_bind (emits_emit (h _ _ rfl)) fun _ => emits_emit (h _ _ rfl)

theorem recordMemory_records (memory : AmdSmiMemory) (meter : Meter) (s : GpuState) :
    (recordMemory memory s).outputs.filterMap (recordOf meter)=
      (memoryValue memory meter).toList := by
  cases meter <;> rfl

theorem recordPCIEThroughput_records (pcie : AmdSmiThroughput) (meter : Meter) (s : GpuState) :
    (recordPCIEThroughput pcie s).outputs.filterMap (recordOf meter)=
      (pcieValue pcie meter).toList := by
  cases meter <;> rfl

section Slices

variable {w links : ℕ}

/-- The callback of the metrics read records the populated field of a meter. -/
theorem recordMetrics_records (now : ℤ) (m : AmdsmiGpuMetrics w links) {meter : Meter}
    (hmeter : ¬IsXgmi meter) (s : GpuState) :
    (recordMetrics now m s).outputs.filterMap (recordOf meter)=(fieldValue m meter).toList := by
  have hlinks (t : GpuState) : (recordXgmi now m t).outputs.filterMap (recordOf meter)=[] := by
    have hlogs : HoldsOfLogs fun _ => Emits (recordOf meter · = none) :=
      holdsOfLogs_emits fun _ _ => rfl
    refine List.filterMap_eq_nil_iff.mpr (hlogs.recordXgmi (emits_recordXgmiSums ?_) now m t)
    intro other value hother
    have hne : other≠meter := fun h => hmeter (h ▸ hother)
    exact if_neg hne
  rw [recordMetrics,recordTemperature_eq,recordActivity_eq,recordClocks_eq,recordPower_eq]
  simp only [seq_apply,List.filterMap_append,recordField_records,hlinks]
  cases meter with
  | xgmiIn => exact absurd (Or.inl rfl) hmeter
  | xgmiOut => exact absurd (Or.inr rfl) hmeter
  | _ => simp [fieldValue]

theorem keeps_latch_recordMetrics (call : Call) (now : ℤ) (m : AmdsmiGpuMetrics w links) :
    Keeps (·.supported call.latch) (recordMetrics now m) := by
  have hlogs : HoldsOfLogs fun _ => Keeps (GpuState.supported · call.latch) :=
    holdsOfLogs_keeps fun s latch h => s.latchOff_of_ne (h call)
  exact hlogs.recordMetrics (fun meter value _ => keeps_emit (GpuEvent.record meter value))
    (fun now currRead currWrite => keeps_recordXgmiSums (fun _ _ => rfl) now currRead currWrite)
      now m

theorem emits_recordMetrics {Good : GpuEvent → Prop}
    (hlog : ∀ latch name, Good (.logUnsupported latch name))
    (hrecord : ∀ meter value, callOf meter=.metrics → Good (.record meter value)) (now : ℤ)
    (m : AmdsmiGpuMetrics w links) : Emits Good (recordMetrics now m) := by
  have hlinks (meter : Meter) (value : ℕ) (h : IsXgmi meter) : Good (.record meter value) :=
    hrecord meter value (by rcases h with rfl|rfl <;> rfl)
  exact (holdsOfLogs_emits hlog).recordMetrics (fun meter value h => emits_emit (hrecord _ _ h))
    (emits_recordXgmiSums hlinks) now m

/-- The callbacks keep the latches of the reads. -/
theorem keeps_latch_gatherCall {call other : Call} (h : other≠call) (tick : GpuTick w links) :
    Keeps (·.supported call.latch) (gatherCall tick other) := by
  have hlatch (s : GpuState) :
      (s.latchOff other.latch).supported call.latch=s.supported call.latch := by
    refine s.latchOff_of_ne fun hl => h ?_
    revert hl
    cases call <;> cases other <;> decide
  cases other with
  | memory => exact keeps_gather hlatch (keeps_recordMemory _) _
  | pcie => exact keeps_gather hlatch (keeps_recordPCIEThroughput _) _
  | metrics => exact keeps_gather hlatch (keeps_latch_recordMetrics call _) _

/-- Of a read come its own events, logs, and records of the meters it feeds. -/
theorem emits_gatherCall {Good : GpuEvent → Prop} {call : Call} (hread : Good (.smiRead call))
    (hok : Good (.onOk call)) (hlog : ∀ latch name, Good (.logUnsupported latch name))
    (hrecord : ∀ meter value, callOf meter=call → Good (.record meter value))
    (tick : GpuTick w links) : Emits Good (gatherCall tick call) := by
  cases call with
  | memory => exact emits_gather hread hok (hlog _ _) (emits_recordMemory hrecord) _
  | pcie => exact emits_gather hread hok (hlog _ _) (emits_recordPCIEThroughput hrecord) _
  | metrics => exact emits_gather hread hok (hlog _ _) (emits_recordMetrics hlog hrecord _) _

/-- An observer that two of the reads keep from sees the third one alone. -/
theorem collect_slice {τ κ : Type} {part : GpuState → τ} {pick : GpuEvent → Option κ}
    {tick : GpuTick w links} (call : Call)
    (hkeeps : ∀ other, other≠call → Keeps part (gatherCall tick other))
    (hemits : ∀ other, other≠call → Emits (pick · = none) (gatherCall tick other))
    (s : GpuState) :
    ∃ t, part t=part s ∧ part (collect tick s).state=part (gatherCall tick call t).state ∧
      (collect tick s).outputs.filterMap pick=
        (gatherCall tick call t).outputs.filterMap pick := by
  have hnone (other : Call) (h : other≠call) (t : GpuState) :
      (gatherCall tick other t).outputs.filterMap pick=[] :=
    List.filterMap_eq_nil_iff.mpr (hemits other h t)
  let afterMemory := (gatherCall tick .memory s).state
  let afterPcie := (gatherCall tick .pcie afterMemory).state
  have hrun : collect tick s=(do
      gatherCall tick .memory
      gatherCall tick .pcie
      gatherCall tick .metrics) s := rfl
  simp only [seq_apply] at hrun
  rw [hrun]
  simp only [List.filterMap_append]
  cases call with
  | memory =>
    refine ⟨s,rfl,?_,?_⟩
    · rw [hkeeps .metrics (by decide),hkeeps .pcie (by decide)]
    · rw [hnone .metrics (by decide),hnone .pcie (by decide),List.append_nil,List.append_nil]
  | pcie =>
    refine ⟨afterMemory,hkeeps .memory (by decide) s,hkeeps .metrics (by decide) _,?_⟩
    rw [hnone .metrics (by decide),hnone .memory (by decide),List.append_nil,List.nil_append]
  | metrics =>
    refine ⟨afterPcie,?_,rfl,?_⟩
    · rw [hkeeps .pcie (by decide),hkeeps .memory (by decide)]
    · rw [hnone .memory (by decide),hnone .pcie (by decide),List.nil_append,List.nil_append]

/-- The events of a read, if it is invoked. -/
def callEvents (call : Call) (status : ReadStatus Unit) : List GpuEvent :=
  .smiRead call::if status=.ok () then [.onOk call] else []

/-- A read shows its own events exactly when it is not latched off, and an
unsupported status latches it off. -/
theorem gather_calls {α : Type} {call : Call} {onOk : α → GpuProgram Unit}
    (hkeeps : ∀ data, Keeps (·.supported call.latch) (onOk data))
    (hsilent : ∀ data, Emits (callEvent call · = none) (onOk data)) (read : ReadStatus α)
    (s : GpuState) :
    (gather call read onOk s).state.supported call.latch=
        (s.supported call.latch && decide (mapStatus (fun _ => ()) read≠.unsupported)) ∧
      (gather call read onOk s).outputs.filterMap (callEvent call)=
        if s.supported call.latch=true then callEvents call (mapStatus (fun _ => ()) read)
        else [] := by
  rw [gather_apply]
  by_cases hs : s.supported call.latch=true
  · cases read with
    | ok data =>
      have hnone := List.filterMap_eq_nil_iff.mpr (hsilent data s)
      simp [hs,hkeeps data s,callEvents,callEvent,mapStatus,hnone]
    | unsupported => simp [hs,callEvents,callEvent,mapStatus]
    | error => simp [hs,callEvents,callEvent,mapStatus]
  · simp [hs]

theorem gatherCall_calls (tick : GpuTick w links) (call : Call) (s : GpuState) :
    (gatherCall tick call s).state.supported call.latch=
        (s.supported call.latch && decide (statusOf tick call≠.unsupported)) ∧
      (gatherCall tick call s).outputs.filterMap (callEvent call)=
        if s.supported call.latch=true then callEvents call (statusOf tick call) else [] := by
  have hrecord (meter : Meter) (value : ℕ) : callEvent call (.record meter value)=none :=
    if_neg (by simp)
  have hlog (latch : Latch) (name : String) : callEvent call (.logUnsupported latch name)=none :=
    if_neg (by simp)
  cases call with
  | memory =>
    exact gather_calls (keeps_recordMemory _) (emits_recordMemory fun _ _ _ => hrecord _ _) _ s
  | pcie =>
    exact gather_calls (keeps_recordPCIEThroughput _)
      (emits_recordPCIEThroughput fun _ _ _ => hrecord _ _) _ s
  | metrics =>
    exact gather_calls (keeps_latch_recordMetrics .metrics _)
      (emits_recordMetrics hlog (fun _ _ _ => hrecord _ _) _) _ s

/-- The events of one read at a tick, and what becomes of its latch. -/
theorem collect_calls (tick : GpuTick w links) (call : Call) (s : GpuState) :
    (collect tick s).state.supported call.latch=
        (s.supported call.latch && decide (statusOf tick call≠.unsupported)) ∧
      (collect tick s).outputs.filterMap (callEvent call)=
        if s.supported call.latch=true then callEvents call (statusOf tick call) else [] := by
  have hemits (other : Call) (h : other≠call) :
      Emits (callEvent call · = none) (gatherCall tick other) := by
    refine emits_gatherCall ?_ ?_ (fun _ _ => if_neg (by simp)) (fun _ _ _ => if_neg (by simp)) tick
    · exact if_neg (by simp [h])
    · exact if_neg (by simp [h])
  obtain ⟨t,ht,hstate,houtputs⟩ :=
    collect_slice call (fun other h => keeps_latch_gatherCall h tick) hemits s
  rw [hstate,houtputs,(gatherCall_calls tick call t).1,(gatherCall_calls tick call t).2,ht]
  exact ⟨rfl,rfl⟩

/-- After any ticks a read is enabled exactly when it has never been reported
unsupported. -/
theorem supported_every_run (call : Call) (history : List (GpuTick w links)) :
    (runState collectStep .init history).supported call.latch=decide (Reached call history) := by
  induction history using List.reverseRecOn with
  | nil => simp [Reached,GpuState.init]
  | append_singleton history tick ih =>
    rw [runState_concat]
    show (collect tick _).state.supported call.latch=_
    rw [(collect_calls tick call _).1,ih]
    simp [Reached,or_imp,forall_and]

/-- What a read records for a meter. -/
theorem gather_records {α : Type} {call : Call} {onOk : α → GpuProgram Unit} {meter : Meter}
    {value : α → Option ℕ}
    (hrecords : ∀ data s, (onOk data s).outputs.filterMap (recordOf meter)=(value data).toList)
    (read : ReadStatus α) (s : GpuState) :
    (gather call read onOk s).outputs.filterMap (recordOf meter)=
      if s.supported call.latch=true then recorded (mapStatus value read) else [] := by
  rw [gather_apply]
  by_cases hs : s.supported call.latch=true
  · cases read with
    | ok data =>
      rw [if_pos hs,if_pos hs,List.filterMap_cons_none rfl,List.filterMap_cons_none rfl]
      exact hrecords data s
    | unsupported => simp [hs,recordOf,mapStatus,recorded]
    | error => simp [hs,recordOf,mapStatus,recorded]
  · simp [hs]

/-- The records of a meter at a tick are those of its read. -/
theorem collect_records (tick : GpuTick w links) {meter : Meter} (hmeter : ¬IsXgmi meter)
    (s : GpuState) :
    (collect tick s).outputs.filterMap (recordOf meter)=
      if s.supported (callOf meter).latch=true then recorded (valueOf tick meter) else [] := by
  have hemits (other : Call) (h : other≠callOf meter) :
      Emits (recordOf meter · = none) (gatherCall tick other) := by
    refine emits_gatherCall ?_ ?_ (fun _ _ => ?_) (fun fed _ hfed => ?_) tick
    · rfl
    · rfl
    · rfl
    · have hne : fed≠meter := fun hm => h (hm ▸ hfed).symm
      exact if_neg hne
  have hkeeps (other : Call) (h : other≠callOf meter) :
      Keeps (GpuState.supported · (callOf meter).latch) (gatherCall tick other) :=
    keeps_latch_gatherCall h tick
  obtain ⟨t,ht,-,houtputs⟩ := collect_slice (callOf meter) hkeeps hemits s
  rw [houtputs,←ht]
  unfold valueOf
  cases callOf meter with
  | memory => exact gather_records (fun memory => recordMemory_records memory meter) _ t
  | pcie => exact gather_records (fun pcie => recordPCIEThroughput_records pcie meter) _ t
  | metrics => exact gather_records (fun m => recordMetrics_records _ m hmeter) _ t

end Slices

/-- The increment of a link meter that an event is. -/
def linkOf : GpuEvent → Option (Meter×ℕ)
  | .record meter value => if IsXgmi meter then some (meter,value) else none
  | _ => none

/-- What the links of a GPU keep: the latch of the metrics read and the sample. -/
def linkPart (s : GpuState) : Bool×Option XgmiSample := (s.supported .metricsCall,s.lastXgmi)

/-- The meters of the links on their own, fed with the samples. -/
def linkRead : Bool×Option XgmiSample → ReadStatus XgmiSample →
    (Bool×Option XgmiSample)×List (Meter×ℕ)
  | (true,last),.ok sample => ((true,(linkStep last sample).1),(linkStep last sample).2)
  | (true,last),.unsupported => ((false,last),[])
  | s,_ => (s,[])

/-- The increment of a link meter between two samples. -/
def linkValue (slot sample : XgmiSample) (meter : Meter) : ℕ :=
  let dt : ℚ := ((sample.timestamp-slot.timestamp : ℤ) : ℚ)/nanosPerSecond
  match meter with
  | .xgmiOut => (bytesPerSecond slot.writeKb sample.writeKb dt*kBytesConversion).toNat
  | _ => (bytesPerSecond slot.readKb sample.readKb dt*kBytesConversion).toNat

/-- An increment is that between the sample kept and the new one. -/
theorem linkStep_value {last : Option XgmiSample} {sample : XgmiSample} {e : Meter×ℕ}
    (h : e∈(linkStep last sample).2) :
    ∃ slot, last=some slot ∧ e.2=linkValue slot sample e.1 := by
  cases last with
  | none => simp [linkStep] at h
  | some slot =>
    refine ⟨slot,rfl,?_⟩
    simp only [linkStep] at h
    split at h
    · simp at h
    · rcases List.mem_pair.mp h with rfl|rfl <;> rfl

theorem linkRead_value {s : Bool×Option XgmiSample} {read : ReadStatus XgmiSample} {e : Meter×ℕ}
    (h : e∈(linkRead s read).2) :
    s.1=true ∧ ∃ slot sample, s.2=some slot ∧ read=.ok sample ∧
      e.2=linkValue slot sample e.1 := by
  obtain ⟨on,last⟩ := s
  cases on with
  | false => cases h
  | true =>
    cases read with
    | ok sample =>
      obtain ⟨slot,hslot,hvalue⟩ := linkStep_value h
      exact ⟨rfl,slot,sample,hslot,rfl,hvalue⟩
    | unsupported => cases h
    | error => cases h

/-- A step keeps the sample it has or takes the new one. -/
theorem linkStep_last (last : Option XgmiSample) (sample : XgmiSample) :
    (linkStep last sample).1=last ∨ (linkStep last sample).1=some sample := by
  cases last with
  | none => exact Or.inr rfl
  | some slot =>
    simp only [linkStep]
    split
    · exact Or.inl rfl
    · exact Or.inr rfl

theorem linkRead_last {s : Bool×Option XgmiSample} {read : ReadStatus XgmiSample}
    {slot : XgmiSample} (h : (linkRead s read).1.2=some slot) :
    s.2=some slot ∨ read=.ok slot := by
  obtain ⟨on,last⟩ := s
  cases on with
  | false => exact Or.inl h
  | true =>
    cases read with
    | ok sample =>
      have hstep : (linkStep last sample).1=some slot := h
      rcases linkStep_last last sample with hkept|hnew
      · exact Or.inl (hkept.symm.trans hstep)
      · exact Or.inr (congrArg ReadStatus.ok (Option.some.inj (hnew.symm.trans hstep)))
    | unsupported => exact Or.inl h
    | error => exact Or.inl h

/-- Every increment of a step of the links is seen as one. -/
theorem filterMap_linkOf (last : Option XgmiSample) (sample : XgmiSample) :
    ((linkStep last sample).2.map fun e => GpuEvent.record e.1 e.2).filterMap linkOf=
      (linkStep last sample).2 := by
  rw [List.filterMap_map]
  refine (List.filterMap_congr fun e he => ?_).trans (List.filterMap_some ..)
  exact if_pos (linkStep_meter he)

section Links

variable {w links : ℕ}

theorem keeps_link_sums (label : String) (total : UInt64) (arr : List UInt64) :
    Keeps linkPart (sumXgmiKb label total arr) := by
  have hlogs : HoldsOfLogs fun _ => Keeps linkPart := holdsOfLogs_keeps fun s latch h =>
    Prod.ext (s.latchOff_of_ne (h .metrics)) rfl
  exact hlogs.sumXgmiKb label total arr

theorem sums_silent (label : String) (total : UInt64) (arr : List UInt64) (s : GpuState) :
    (sumXgmiKb label total arr s).outputs.filterMap linkOf=[] := by
  have hlogs : HoldsOfLogs fun _ => Emits (linkOf · = none) := holdsOfLogs_emits fun _ _ => rfl
  exact List.filterMap_eq_nil_iff.mpr (hlogs.sumXgmiKb label total arr s)

/-- RecordXgmi is a step of the links. -/
theorem recordXgmi_links (now : ℤ) (m : AmdsmiGpuMetrics w links) (s : GpuState) :
    (recordXgmi now m s).state.lastXgmi=(linkStep s.lastXgmi (linkSample now m)).1 ∧
      (recordXgmi now m s).outputs.filterMap linkOf=
        (linkStep s.lastXgmi (linkSample now m)).2 := by
  have hlast (label : String) (arr : List UInt64) (t : GpuState) :
      (sumXgmiKb label 0 arr t).state.lastXgmi=t.lastXgmi :=
    congrArg Prod.snd (keeps_link_sums label 0 arr t)
  rw [recordXgmi_eq,bind_apply_of_result (sumXgmiKb_result ..),
    bind_apply_of_result (sumXgmiKb_result ..),recordXgmiSums_apply]
  simp only [hlast,List.filterMap_append,sums_silent,List.nil_append,filterMap_linkOf]
  exact ⟨rfl,rfl⟩

theorem recordField_links {meter : Meter} (hmeter : ¬IsXgmi meter) (latch : Latch)
    (name : String) (value : Option ℕ) (s : GpuState) :
    (recordField meter latch name value s).state.lastXgmi=s.lastXgmi ∧
      (recordField meter latch name value s).outputs.filterMap linkOf=[] := by
  cases value with
  | none =>
    have hsilent : Emits (linkOf · = none) (unsupported latch name) := emits_unsupported rfl
    have hkeeps : Keeps GpuState.lastXgmi (unsupported latch name) :=
      keeps_unsupported (fun _ => rfl) name
    exact ⟨hkeeps s,List.filterMap_eq_nil_iff.mpr (hsilent s)⟩
  | some value => exact ⟨rfl,List.filterMap_cons_none (if_neg hmeter)⟩

/-- The callback of the metrics read is a step of the links. -/
theorem recordMetrics_links (now : ℤ) (m : AmdsmiGpuMetrics w links) (s : GpuState) :
    (recordMetrics now m s).state.lastXgmi=(linkStep s.lastXgmi (linkSample now m)).1 ∧
      (recordMetrics now m s).outputs.filterMap linkOf=
        (linkStep s.lastXgmi (linkSample now m)).2 := by
  have hlast {meter : Meter} (h : ¬IsXgmi meter) (latch : Latch) (name : String)
      (value : Option ℕ) (t : GpuState) :
      (recordField meter latch name value t).state.lastXgmi=t.lastXgmi :=
    (recordField_links h latch name value t).1
  have hnone {meter : Meter} (h : ¬IsXgmi meter) (latch : Latch) (name : String)
      (value : Option ℕ) (t : GpuState) :
      (recordField meter latch name value t).outputs.filterMap linkOf=[] :=
    (recordField_links h latch name value t).2
  rw [recordMetrics,recordTemperature_eq,recordActivity_eq,recordClocks_eq,recordPower_eq]
  simp (disch := decide) only [seq_apply,List.filterMap_append,hnone,List.nil_append,
    (recordXgmi_links now m _).1,(recordXgmi_links now m _).2,hlast,and_self]

/-- The metrics read is, for the links, a step on its sample alone. -/
theorem gatherCall_links (tick : GpuTick w links) (t : GpuState) :
    linkPart (gatherCall tick .metrics t).state=
        (linkRead (linkPart t) (mapStatus (linkSample tick.now) tick.metrics)).1 ∧
      (gatherCall tick .metrics t).outputs.filterMap linkOf=
        (linkRead (linkPart t) (mapStatus (linkSample tick.now) tick.metrics)).2 := by
  rw [gatherCall,gather_apply]
  by_cases ht : t.supported Call.metrics.latch=true
  · have hpart : linkPart t=(true,t.lastXgmi) := Prod.ext ht rfl
    rw [hpart,if_pos ht]
    cases tick.metrics with
    | ok m =>
      have hkept : (recordMetrics tick.now m t).state.supported .metricsCall=true :=
        (keeps_latch_recordMetrics .metrics tick.now m t).trans ht
      obtain ⟨hstate,houtputs⟩ := recordMetrics_links tick.now m t
      refine ⟨Prod.ext hkept hstate,?_⟩
      rw [List.filterMap_cons_none rfl,List.filterMap_cons_none rfl]
      exact houtputs
    | unsupported => exact ⟨Prod.ext (t.latchOff_self .metricsCall) rfl,rfl⟩
    | error => exact ⟨hpart,rfl⟩
  · have hpart : linkPart t=(false,t.lastXgmi) := Prod.ext (Bool.eq_false_iff.mpr ht) rfl
    rw [if_neg ht,hpart]
    exact ⟨rfl,rfl⟩

/-- A tick is, for the links, a step on the sample of its metrics read. -/
theorem collect_projects :
    Projects (@collectStep w links) linkRead linkPart
      (fun tick => mapStatus (linkSample tick.now) tick.metrics) linkOf := by
  have hslice (s : GpuState) (tick : GpuTick w links) :
      ∃ t, linkPart t=linkPart s ∧
        linkPart (collect tick s).state=linkPart (gatherCall tick .metrics t).state ∧
          (collect tick s).outputs.filterMap linkOf=
            (gatherCall tick .metrics t).outputs.filterMap linkOf := by
    refine collect_slice .metrics (fun other h => ?_) (fun other h => ?_) s
    · intro t
      refine Prod.ext (keeps_latch_gatherCall h tick t) ?_
      cases other with
      | memory => exact keeps_gather (fun _ => rfl) (keeps_recordMemory GpuState.lastXgmi) _ t
      | pcie => exact keeps_gather (fun _ => rfl) (keeps_recordPCIEThroughput GpuState.lastXgmi) _ t
      | metrics => exact absurd rfl h
    · refine emits_gatherCall ?_ ?_ (fun _ _ => ?_) (fun meter value hfed => ?_) tick
      · rfl
      · rfl
      · rfl
      · exact if_neg fun hx => h (hfed ▸ by rcases hx with rfl|rfl <;> rfl)
  constructor
  · intro s tick
    obtain ⟨t,ht,hstate,-⟩ := hslice s tick
    show linkPart (collect tick s).state=_
    rw [hstate,(gatherCall_links tick t).1,ht]
  · intro s tick
    obtain ⟨t,ht,-,houtputs⟩ := hslice s tick
    show (collect tick s).outputs.filterMap linkOf=_
    rw [houtputs,(gatherCall_links tick t).2,ht]

/-- Any sample that is kept is one of an earlier tick. -/
theorem lastXgmi_every_run {history : List (GpuTick w links)} {slot : XgmiSample}
    (h : (runState collectStep .init history).lastXgmi=some slot) :
    ∃ earlier∈history, ∃ m, earlier.metrics=.ok m ∧ slot=linkSample earlier.now m := by
  induction history using List.reverseRecOn with
  | nil => cases h
  | append_singleton history tick ih =>
    rw [runState_concat] at h
    have hpart := collect_projects.state (runState collectStep .init history) tick
    have hlast := (congrArg Prod.snd hpart).symm.trans h
    rcases linkRead_last hlast with hkept|hnew
    · obtain ⟨earlier,hearlier,m,hm⟩ := ih hkept
      exact ⟨earlier,List.mem_append_left _ hearlier,m,hm⟩
    · refine ⟨tick,by simp,?_⟩
      cases hm : tick.metrics with
      | ok m => exact ⟨m,rfl,by simpa [hm,mapStatus] using hnew.symm⟩
      | unsupported => simp [hm,mapStatus] at hnew
      | error => simp [hm,mapStatus] at hnew

end Links

/-- Whether an event is the log of a latch. -/
def isLog (latch : Latch) : GpuEvent → Bool
  | .logUnsupported other _ => other=latch
  | _ => false

/-- One for each log of a latch. -/
def logAmount (latch : Latch) (o : GpuEvent) : ℤ := if isLog latch o=true then 1 else 0

/-- One once the latch is off. -/
def latchLevel (latch : Latch) (s : GpuState) : ℤ := if s.supported latch=true then 0 else 1

section Logs

variable {w links : ℕ} (latch : Latch)

/-- A latch logs when it goes off. -/
theorem accounts_unsupported (other : Latch) (name : String) :
    Accounts (logAmount latch) (latchLevel latch) (unsupported other name) := by
  intro s
  by_cases hs : s.supported other=true
  · by_cases ho : other=latch
    · subst ho
      simp [unsupported,hs,logAmount,isLog,latchLevel,total]
    · simp [unsupported,hs,logAmount,isLog,latchLevel,total,ho,s.latchOff_of_ne (Ne.symm ho)]
  · simp [unsupported,hs]

theorem accounts_silent {α : Type} {program : GpuProgram α}
    (hkeeps : Keeps (·.supported latch) program) (hemits : Emits (isLog latch · = false) program) :
    Accounts (logAmount latch) (latchLevel latch) program := by
  refine accounts_of_keeps (fun s => ?_) fun s o ho => ?_
  · have hs : (program s).state.supported latch=s.supported latch := hkeeps s
    simp only [latchLevel,hs]
  · have hother : isLog latch o=false := hemits s o ho
    simp [logAmount,hother]

theorem accounts_gather {α : Type} {onOk : α → GpuProgram Unit}
    (h : ∀ data, Accounts (logAmount latch) (latchLevel latch) (onOk data)) (call : Call)
    (read : ReadStatus α) :
    Accounts (logAmount latch) (latchLevel latch) (gather call read onOk) := by
  have hemit (o : GpuEvent) (ho : isLog latch o=false) :
      Accounts (logAmount latch) (latchLevel latch) (emit o : GpuProgram Unit) :=
    accounts_silent latch (keeps_emit o) (emits_emit ho)
  have hpure : Accounts (logAmount latch) (latchLevel latch) (pure () : GpuProgram Unit) :=
    accounts_silent latch (keeps_pure ()) (emits_pure ())
  refine accounts_bind (accounts_silent latch keeps_getState emits_getState) fun s =>
    accounts_ite (accounts_bind (hemit _ rfl) fun _ => ?_) hpure
  cases read with
  | ok data => exact accounts_bind (hemit _ rfl) fun _ => h data
  | unsupported => exact accounts_unsupported latch _ _
  | error => exact hpure

/-- Every log of a tick moves its latch. -/
theorem accounts_collect (tick : GpuTick w links) :
    Accounts (logAmount latch) (latchLevel latch) (collect tick) := by
  have hlogs : HoldsOfLogs fun _ => Accounts (logAmount latch) (latchLevel latch) := {
    bind := accounts_bind
    pure := fun value => accounts_silent latch (keeps_pure value) (emits_pure value)
    unsupported := fun other name _ => accounts_unsupported latch other name }
  refine accounts_bind (accounts_gather latch (fun memory => ?_) _ _) fun _ =>
    accounts_bind (accounts_gather latch (fun pcie => ?_) _ _) fun _ =>
      accounts_gather latch (fun m => ?_) _ _
  · exact accounts_silent latch (keeps_recordMemory _ memory)
      (emits_recordMemory (fun _ _ _ => rfl) memory)
  · exact accounts_silent latch (keeps_recordPCIEThroughput _ pcie)
      (emits_recordPCIEThroughput (fun _ _ _ => rfl) pcie)
  · refine hlogs.recordMetrics (fun meter value _ => ?_) (fun now currRead currWrite => ?_) _ m
    · exact accounts_silent latch (keeps_emit (GpuEvent.record meter value)) (emits_emit rfl)
    · exact accounts_silent latch (keeps_recordXgmiSums (fun _ _ => rfl) now currRead currWrite)
        (emits_recordXgmiSums (fun _ _ _ => rfl) now currRead currWrite)

/-- In a whole run a latch logs at most once. -/
theorem logs_every_run (history : List (GpuTick w links)) :
    (runOutput collectStep .init history).countP (isLog latch)≤1 := by
  have hstep (s : GpuState) (tick : GpuTick w links) (_ : True) :
      total (logAmount latch) (collectStep s tick).2≤
        latchLevel latch (collectStep s tick).1-latchLevel latch s :=
    (accounts_collect latch tick s).le
  have hmeets : Meets collectStep (fun _ (_ : GpuTick w links) => True) .init history :=
    meets_iff.mpr fun _ _ _ _ => trivial
  have htotal := total_run_le hstep hmeets
  have hcount : total (logAmount latch) (runOutput collectStep .init history)=
      (runOutput collectStep .init history).countP (isLog latch) := total_indicator ..
  have hlevel (s : GpuState) : 0≤latchLevel latch s ∧ latchLevel latch s≤1 := by
    unfold latchLevel
    split <;> omega
  have hfirst := (hlevel .init).1
  have hlast := (hlevel (runState collectStep .init history)).2
  omega

end Logs

section Contract

variable {w links : ℕ}

/-- The value that stands for a field which is not populated. -/
def sentinel (w : ℕ) : Meter → Option ℕ
  | .temperature | .power => some (2^16-1)
  | .utilization | .memoryActivity | .gfxClock | .memoryClock => some (2^w-1)
  | _ => none

/-- What the latches allow at a tick of a GPU, after the ticks before it: the
events of each read, the records of each meter, and no sentinel. The increments
of the links come from the populated accumulators of two ticks. -/
structure TickContract (before : List (GpuTick w links)) (tick : GpuTick w links)
    (events : List GpuEvent) : Prop where
  calls : ∀ call, events.filterMap (callEvent call)=
    if Reached call before then callEvents call (statusOf tick call) else []
  records : ∀ meter, ¬IsXgmi meter → events.filterMap (recordOf meter)=
    if Reached (callOf meter) before then recorded (valueOf tick meter) else []
  increments : ∀ meter value, IsXgmi meter → .record meter value∈events →
    Reached .metrics before ∧ ∃ earlier∈before, ∃ old new, earlier.metrics=.ok old ∧
      tick.metrics=.ok new ∧
        value=linkValue (linkSample earlier.now old) (linkSample tick.now new) meter
  sentinels : ∀ meter value, .record meter value∈events → sentinel w meter≠some value

/-- The ticks hold the same for a meter: for the links the time and the two
sums of populated accumulators, for another meter the value it is fed with. -/
def SameFor (meter : Meter) (tick tick' : GpuTick w links) : Prop :=
  if IsXgmi meter then
    mapStatus (linkSample tick.now) tick.metrics=mapStatus (linkSample tick'.now) tick'.metrics
  else valueOf tick meter=valueOf tick' meter

/-- A populated field is not the sentinel. -/
theorem fieldValue_ne_sentinel (m : AmdsmiGpuMetrics w links) {meter : Meter} {value : ℕ}
    (h : fieldValue m meter=some value) : sentinel w meter≠some value := by
  have hbits {bits : BitVec w} (h : populatedBits bits=some value) : 2^w-1≠value := by
    unfold populatedBits at h
    split at h
    · cases h
    · next hne =>
      rintro rfl
      exact hne (BitVec.eq_of_toNat_eq ((Option.some.inj h).trans BitVec.toNat_allOnes.symm))
  have hword {field : UInt16} (hne : field≠uint16Max) : 2^16-1≠field.toNat := fun hmax =>
    hne (UInt16.toNat_inj.mp hmax.symm)
  intro hs
  cases meter with
  | temperature =>
    simp only [fieldValue] at h
    split at h
    · cases h
    · next hne => exact hword hne ((Option.some.inj hs).trans (Option.some.inj h).symm)
  | power =>
    simp only [fieldValue] at h
    split at h
    · next hne => exact hword hne ((Option.some.inj hs).trans (Option.some.inj h).symm)
    · split at h
      · next hne => exact hword hne ((Option.some.inj hs).trans (Option.some.inj h).symm)
      · cases h
  | utilization => exact hbits h (Option.some.inj hs)
  | memoryActivity => exact hbits h (Option.some.inj hs)
  | gfxClock => exact hbits h (Option.some.inj hs)
  | memoryClock => exact hbits h (Option.some.inj hs)
  | _ => cases hs

/-- The value of a record is among the records of its meter. -/
theorem mem_records {events : List GpuEvent} {meter : Meter} {value : ℕ}
    (h : .record meter value∈events) : value∈events.filterMap (recordOf meter) :=
  List.mem_filterMap.mpr ⟨_,h,if_pos rfl⟩

/-- Of what a tick holds for a meter, no sentinel is recorded. -/
theorem recorded_ne_sentinel {tick : GpuTick w links} {meter : Meter} {value : ℕ}
    (h : value∈recorded (valueOf tick meter)) : sentinel w meter≠some value := by
  have hcall (hnone : sentinel w meter=none) : sentinel w meter≠some value := by simp [hnone]
  cases hmeter : callOf meter with
  | memory => exact hcall (by cases meter <;> first | rfl | cases hmeter)
  | pcie => exact hcall (by cases meter <;> first | rfl | cases hmeter)
  | metrics =>
    cases hm : tick.metrics with
    | ok m =>
      simp only [valueOf,hmeter,hm,mapStatus,recorded,Option.mem_toList] at h
      exact fieldValue_ne_sentinel m h
    | unsupported => simp [valueOf,hmeter,hm,mapStatus,recorded] at h
    | error => simp [valueOf,hmeter,hm,mapStatus,recorded] at h

/-- The contract holds at every tick of a GPU. -/
theorem tickContract_every_run (before : List (GpuTick w links)) (tick : GpuTick w links) :
    TickContract before tick (outputAfter collectStep .init before tick) := by
  have hsupported (call : Call) :
      (runState collectStep .init before).supported call.latch=true ↔ Reached call before := by
    rw [supported_every_run,decide_eq_true_iff]
  have hrecords (meter : Meter) (hmeter : ¬IsXgmi meter) :
      (outputAfter collectStep .init before tick).filterMap (recordOf meter)=
        if Reached (callOf meter) before then recorded (valueOf tick meter) else [] := by
    refine (collect_records tick hmeter _).trans ?_
    simp only [hsupported]
  have hincrements (meter : Meter) (value : ℕ) (hmeter : IsXgmi meter)
      (h : .record meter value∈outputAfter collectStep .init before tick) :
      Reached .metrics before ∧ ∃ earlier∈before, ∃ old new, earlier.metrics=.ok old ∧
        tick.metrics=.ok new ∧
          value=linkValue (linkSample earlier.now old) (linkSample tick.now new) meter := by
    have hmem : (meter,value)∈(outputAfter collectStep .init before tick).filterMap linkOf :=
      List.mem_filterMap.mpr ⟨_,h,if_pos hmeter⟩
    rw [outputAfter,collect_projects.outputs] at hmem
    obtain ⟨hon,slot,sample,hslot,hsample,hvalue⟩ := linkRead_value hmem
    obtain ⟨earlier,hearlier,old,hold,rfl⟩ := lastXgmi_every_run hslot
    refine ⟨(hsupported .metrics).mp hon,earlier,hearlier,old,?_⟩
    cases hm : tick.metrics with
    | ok new =>
      obtain rfl : linkSample tick.now new=sample := by simpa [hm,mapStatus] using hsample
      exact ⟨new,hold,rfl,hvalue⟩
    | unsupported => simp [hm,mapStatus] at hsample
    | error => simp [hm,mapStatus] at hsample
  constructor
  case calls =>
    intro call
    refine (collect_calls tick call _).2.trans ?_
    simp only [hsupported]
  case records => exact hrecords
  case increments => exact hincrements
  case sentinels =>
    intro meter value h
    by_cases hmeter : IsXgmi meter
    · rcases hmeter with rfl|rfl <;> simp [sentinel]
    · have hmem := mem_records h
      rw [hrecords meter hmeter] at hmem
      split at hmem
      · exact recorded_ne_sentinel hmem
      · cases hmem

/-- The status of a read is part of what a tick holds for its meters. -/
theorem statusOf_callOf (tick : GpuTick w links) (meter : Meter) :
    statusOf tick (callOf meter)=mapStatus (fun _ => ()) (valueOf tick meter) := by
  unfold valueOf
  cases callOf meter with
  | memory => show mapStatus _ tick.memory=_; cases tick.memory <;> rfl
  | pcie => show mapStatus _ tick.pcie=_; cases tick.pcie <;> rfl
  | metrics => show mapStatus _ tick.metrics=_; cases tick.metrics <;> rfl

/-- Whether a read is enabled depends on its statuses. -/
theorem reached_iff_map (call : Call) (before : List (GpuTick w links)) :
    Reached call before ↔ ∀ status∈before.map (statusOf · call),status≠.unsupported := by
  simp [Reached]

/-- The records of a link meter are read off the increments. -/
theorem records_of_links {meter : Meter} (hmeter : IsXgmi meter) (events : List GpuEvent) :
    events.filterMap (recordOf meter)=
      (events.filterMap linkOf).filterMap fun e => if e.1=meter then some e.2 else none := by
  rw [List.filterMap_filterMap]
  refine List.filterMap_congr fun event _ => ?_
  cases event with
  | record other value =>
    by_cases h : other=meter
    · subst h
      simp [recordOf,linkOf,hmeter]
    · by_cases hother : IsXgmi other <;> simp [recordOf,linkOf,h,hother]
  | _ => rfl

/-- The records of a meter depend on what the ticks hold for it. -/
theorem records_of_sameFor {meter : Meter} {before before' : List (GpuTick w links)}
    {tick tick' : GpuTick w links} (hbefore : List.Forall₂ (SameFor meter) before before')
    (htick : SameFor meter tick tick') :
    (outputAfter collectStep .init before tick).filterMap (recordOf meter)=
      (outputAfter collectStep .init before' tick').filterMap (recordOf meter) := by
  have hmap {α : Type} {read : GpuTick w links → α}
      (hread : ∀ t t', SameFor meter t t' → read t=read t') :
      before.map read=before'.map read := by
    rw [←List.forall₂_eq_eq_eq,List.forall₂_map_left_iff,List.forall₂_map_right_iff]
    exact hbefore.imp hread
  by_cases hmeter : IsXgmi meter
  · have hread (t t' : GpuTick w links) (h : SameFor meter t t') :
        mapStatus (linkSample t.now) t.metrics=mapStatus (linkSample t'.now) t'.metrics := by
      rwa [SameFor,if_pos hmeter] at h
    rw [records_of_links hmeter,records_of_links hmeter,collect_projects.outputAfter,
      collect_projects.outputAfter,hmap hread,hread tick tick' htick]
  · have hvalue (t t' : GpuTick w links) (h : SameFor meter t t') :
        valueOf t meter=valueOf t' meter := by
      rwa [SameFor,if_neg hmeter] at h
    have hstatus (t t' : GpuTick w links) (h : SameFor meter t t') :
        statusOf t (callOf meter)=statusOf t' (callOf meter) := by
      rw [statusOf_callOf,statusOf_callOf,hvalue t t' h]
    have hreached : Reached (callOf meter) before ↔ Reached (callOf meter) before' := by
      rw [reached_iff_map,reached_iff_map,hmap hstatus]
    rw [(tickContract_every_run before tick).records meter hmeter,
      (tickContract_every_run before' tick').records meter hmeter,hvalue tick tick' htick]
    simp only [hreached]

/-- The events of one GPU among those of the collector. -/
def eventsOf {count : ℕ} (id : Fin count) (events : List (AmdEvent count)) : List GpuEvent :=
  events.filterMap (gpuEvent id)

/-- In every run of the collector, each tick of each GPU meets the contract of
its own earlier ticks, each latch logs at most once, and what is recorded on a
meter of a GPU depends on nothing but what the ticks of this GPU hold for the
meter, whatever other GPUs, reads and fields there are. -/
theorem latches_every_run (w links count : ℕ) :
    (∀ (before : List (Fin count → GpuTick w links)) (tick : Fin count → GpuTick w links)
        (id : Fin count), TickContract (before.map (· id)) (tick id)
          (eventsOf id (outputAfter gpuMetricsStep (fun _ => .init) before tick))) ∧
      (∀ (history : List (Fin count → GpuTick w links)) (id : Fin count) (latch : Latch),
        (eventsOf id (runOutput gpuMetricsStep (fun _ => .init) history)).countP (isLog latch)≤1) ∧
      ∀ (other : ℕ) (before : List (Fin count → GpuTick w links))
        (before' : List (Fin other → GpuTick w links)) (tick : Fin count → GpuTick w links)
        (tick' : Fin other → GpuTick w links) (id : Fin count) (id' : Fin other) (meter : Meter),
        List.Forall₂ (fun t t' => SameFor meter (t id) (t' id')) before before' →
          SameFor meter (tick id) (tick' id') →
            (eventsOf id (outputAfter gpuMetricsStep (fun _ => .init) before tick)).filterMap
                (recordOf meter)=
              (eventsOf id' (outputAfter gpuMetricsStep (fun _ => .init) before' tick')).filterMap
                (recordOf meter) := by
  refine ⟨fun before tick id => ?_,fun history id latch => ?_,?_⟩
  · rw [eventsOf,(gpuMetrics_projects id).outputAfter]
    exact tickContract_every_run _ _
  · rw [eventsOf,(gpuMetrics_projects id).runOutput]
    exact logs_every_run latch _
  · intro other before before' tick tick' id id' meter hbefore htick
    rw [eventsOf,eventsOf,(gpuMetrics_projects id).outputAfter,
      (gpuMetrics_projects id').outputAfter]
    refine records_of_sameFor ?_ htick
    rwa [List.forall₂_map_left_iff,List.forall₂_map_right_iff]

end Contract

end AtlasAgent.GpuLatches
