import Mathlib.Data.List.Count
import Mathlib.Data.List.Nodup
import Mathlib.Data.List.Range
import Mathlib.Tactic.TypeStar

/-!
# The NVIDIA GPU metrics

Nvml calls the functions of a shared library through a table of symbols, and
GpuMetrics reads the devices through Nvml. A symbol that the library does not
have, and a code other than success, are both a failure of that one reading.
What the library returns is given.
-/

namespace AtlasAgent.NvidiaGpus

/-- The functions of nvml_symtab. -/
inductive NvmlFunction
  | init
  | shutdown
  | deviceGetCount
  | deviceGetHandleByIndex
  | deviceGetName
  | deviceGetPciInfo
  | deviceGetFanSpeed
  | deviceGetTemperature
  | deviceGetUtilizationRates
  | deviceGetMemoryInfo
  | deviceGetPerformanceState
  deriving DecidableEq

/-- NvmlRet::Success. -/
def success : ℤ := 0

/-- What Nvml meets of the shared library. -/
structure NvmlLibrary where
  /-- Whether dlopen finds it. -/
  opens : Bool
  /-- Whether dlsym finds a function. -/
  symbol : NvmlFunction → Bool
  /-- What nvmlInit returns. -/
  init : ℤ

/-- NvmlMemory. -/
structure NvmlMemory where
  total : ℕ
  free : ℕ
  used : ℕ

/-- NvmlUtilization. -/
structure NvmlUtilization where
  gpu : ℕ
  memory : ℕ

/-- What one call of gpu_metrics meets: the code and the value of each function,
by the index of the device. -/
structure Readings (Device : Type*) where
  count : ℤ×ℕ
  handleByIndex : ℕ → ℤ×Device
  memoryInfo : ℕ → ℤ×NvmlMemory
  utilizationRates : ℕ → ℤ×NvmlUtilization
  performanceState : ℕ → ℤ×ℤ
  temperature : ℕ → ℤ×ℕ

/-- The gauges of a GPU. -/
inductive Gauge
  | usedMemory
  | freeMemory
  | totalMemory
  | utilization
  | memoryActivity
  | perfState
  deriving DecidableEq

/-- What happens while the GPUs are collected. -/
inductive NvidiaEvent (Device : Type*)
  | call (function : NvmlFunction)
  /-- A function is called for a device. -/
  | deviceCall (function : NvmlFunction) (device : Device)
  /-- The gauge gpu.count. -/
  | setCount (value : ℕ)
  | set (gauge : Gauge) (gpu : ℕ) (value : ℤ)
  /-- The distribution summary gpu.temperature. -/
  | recordTemperature (value : ℕ)

section Getters

variable {Device : Type*} (symtab : NvmlFunction → Bool)

/-- The common body of the getters: the call, if there is a symbol, and its
value if it succeeds. -/
def callThrough {α : Type*} (function : NvmlFunction) (event : NvidiaEvent Device) (answer : ℤ×α) :
    List (NvidiaEvent Device)×Option α :=
  if symtab function then ([event],if answer.1=success then some answer.2 else none)
  else ([],none)

/-- Nvml::get_count. -/
def getCount (readings : Readings Device) : List (NvidiaEvent Device)×Option ℕ :=
  callThrough symtab .deviceGetCount (.call .deviceGetCount) readings.count

/-- Nvml::get_by_index. -/
def getByIndex (readings : Readings Device) (i : ℕ) : List (NvidiaEvent Device)×Option Device :=
  callThrough symtab .deviceGetHandleByIndex (.call .deviceGetHandleByIndex)
    (readings.handleByIndex i)

/-- Nvml::get_memory_info. -/
def getMemoryInfo (readings : Readings Device) (i : ℕ) (device : Device) :
    List (NvidiaEvent Device)×Option NvmlMemory :=
  callThrough symtab .deviceGetMemoryInfo (.deviceCall .deviceGetMemoryInfo device)
    (readings.memoryInfo i)

/-- Nvml::get_utilization_rates. -/
def getUtilizationRates (readings : Readings Device) (i : ℕ) (device : Device) :
    List (NvidiaEvent Device)×Option NvmlUtilization :=
  callThrough symtab .deviceGetUtilizationRates (.deviceCall .deviceGetUtilizationRates device)
    (readings.utilizationRates i)

/-- Nvml::get_performance_state. -/
def getPerformanceState (readings : Readings Device) (i : ℕ) (device : Device) :
    List (NvidiaEvent Device)×Option ℤ :=
  callThrough symtab .deviceGetPerformanceState (.deviceCall .deviceGetPerformanceState device)
    (readings.performanceState i)

/-- Nvml::get_temperature. -/
def getTemperature (readings : Readings Device) (i : ℕ) (device : Device) :
    List (NvidiaEvent Device)×Option ℕ :=
  callThrough symtab .deviceGetTemperature (.deviceCall .deviceGetTemperature device)
    (readings.temperature i)

/-- What is done with a getter's value, if there is one. -/
def ifRead {α : Type*} (got : List (NvidiaEvent Device)×Option α)
    (use : α → List (NvidiaEvent Device)) : List (NvidiaEvent Device) :=
  got.1++got.2.elim [] use

/-- The body of the loop over the devices. -/
def deviceEvents (readings : Readings Device) (i : ℕ) : List (NvidiaEvent Device) :=
  ifRead (getByIndex symtab readings i) fun device =>
    ifRead (getMemoryInfo symtab readings i device) (fun memory =>
      [.set .usedMemory i memory.used,.set .freeMemory i memory.free,
        .set .totalMemory i memory.total])++
    ifRead (getUtilizationRates symtab readings i device) (fun utilization =>
      [.set .utilization i utilization.gpu,.set .memoryActivity i utilization.memory])++
    ifRead (getPerformanceState symtab readings i device) (fun perfState =>
      [.set .perfState i perfState])++
    ifRead (getTemperature symtab readings i device) (fun temp => [.recordTemperature temp])

/-- GpuMetrics::gpu_metrics. -/
def gpuMetrics (readings : Readings Device) : List (NvidiaEvent Device) :=
  ifRead (getCount symtab readings) fun count =>
    .setCount count::(List.range count).flatMap (deviceEvents symtab readings)

end Getters

section Life

variable {Device : Type*} (library : NvmlLibrary)

/-- Nvml::initialize, and whether it does not throw. -/
def nvmlInitialize : List (NvidiaEvent Device)×Bool :=
  if library.symbol .init then ([.call .init],library.init=success) else ([],false)

/-- Nvml::~Nvml. -/
def destroy : List (NvidiaEvent Device) :=
  if library.symbol .shutdown then [.call .shutdown] else []

/-- GpuMetrics::Create, and whether there is something to collect. The
constructor of Nvml throws without the library. -/
def create : List (NvidiaEvent Device)×Bool :=
  if library.opens then
    let initialized := nvmlInitialize library
    if initialized.2 then (initialized.1,true) else (initialized.1++destroy library,false)
  else ([],false)

/-- What an agent does with the library: GpuMetrics::Create, GpuMetrics::Collect
so many times, and the destructor. -/
def life (collects : List (Readings Device)) : List (NvidiaEvent Device) :=
  let created := create library
  if created.2 then
    created.1++collects.flatMap (gpuMetrics library.symbol)++destroy library
  else created.1

end Life

/-- The function that an event calls. -/
def NvidiaEvent.function {Device : Type*} : NvidiaEvent Device → Option NvmlFunction
  | .call function => some function
  | .deviceCall function _ => some function
  | _ => none

/-- The gauge and the GPU that an event sets. -/
def NvidiaEvent.gauge {Device : Type*} : NvidiaEvent Device → Option (Gauge×ℕ)
  | .set gauge gpu _ => some (gauge,gpu)
  | _ => none

/-- The functions called, in their order. -/
def calls {Device : Type*} (events : List (NvidiaEvent Device)) : List NvmlFunction :=
  events.filterMap NvidiaEvent.function

/-- The functions of a reading: there is a symbol for each, and none of them
begins or ends the use of the library. -/
def Reads {Device : Type*} (symtab : NvmlFunction → Bool) (events : List (NvidiaEvent Device)) :
    Prop :=
  ∀ function∈calls events,symtab function=true ∧ function≠.init ∧ function≠.shutdown

section Readings

variable {Device : Type*} {symtab : NvmlFunction → Bool}

theorem calls_append (first second : List (NvidiaEvent Device)) :
    calls (first++second)=calls first++calls second := List.filterMap_append

theorem Reads.append {first second : List (NvidiaEvent Device)} (hfirst : Reads symtab first)
    (hsecond : Reads symtab second) : Reads symtab (first++second) := by
  intro function hfunction
  rw [calls_append,List.mem_append] at hfunction
  exact hfunction.elim (hfirst function) (hsecond function)

theorem Reads.flatMap {α : Type*} {list : List α} {events : α → List (NvidiaEvent Device)}
    (h : ∀ a∈list,Reads symtab (events a)) : Reads symtab (list.flatMap events) := by
  intro function hfunction
  obtain ⟨event,hevent,hcalls⟩ := List.mem_filterMap.mp hfunction
  obtain ⟨a,ha,hevent⟩ := List.mem_flatMap.mp hevent
  exact h a ha function (List.mem_filterMap.mpr ⟨event,hevent,hcalls⟩)

/-- Events without calls. -/
theorem reads_of_calls_eq_nil {events : List (NvidiaEvent Device)} (h : calls events=[]) :
    Reads symtab events := fun function hfunction => by
  rw [h] at hfunction
  cases hfunction

/-- A getter calls its function, and only where there is a symbol for it. -/
theorem reads_callThrough {α : Type*} {function : NvmlFunction} {event : NvidiaEvent Device}
    (hevent : event.function=some function) (hreads : function≠.init ∧ function≠.shutdown)
    (answer : ℤ×α) : Reads symtab (callThrough symtab function event answer).1 := by
  rw [callThrough]
  split
  · next hsymbol =>
    intro called hcalled
    rw [calls,List.filterMap_cons,hevent,List.filterMap_nil,List.mem_singleton] at hcalled
    exact hcalled ▸ ⟨hsymbol,hreads⟩
  · exact reads_of_calls_eq_nil rfl

theorem Reads.ifRead {α : Type*} {got : List (NvidiaEvent Device)×Option α}
    {use : α → List (NvidiaEvent Device)} (hgot : Reads symtab got.1)
    (huse : ∀ value,Reads symtab (use value)) : Reads symtab (ifRead got use) := by
  refine hgot.append ?_
  cases got.2 with
  | none => exact reads_of_calls_eq_nil rfl
  | some value => exact huse value

/-- All that a collect calls are readings. -/
theorem reads_gpuMetrics (readings : Readings Device) :
    Reads symtab (gpuMetrics symtab readings) := by
  have hset : ∀ events : List (NvidiaEvent Device),calls events=[] → Reads symtab events :=
    fun _ => reads_of_calls_eq_nil
  have hdevice : ∀ i,Reads symtab (deviceEvents symtab readings i) := by
    intro i
    refine Reads.ifRead (reads_callThrough rfl (by decide) _) fun device => ?_
    refine Reads.append (Reads.append (Reads.append ?_ ?_) ?_) ?_
    · exact Reads.ifRead (reads_callThrough rfl (by decide) _) fun _ => hset _ rfl
    · exact Reads.ifRead (reads_callThrough rfl (by decide) _) fun _ => hset _ rfl
    · exact Reads.ifRead (reads_callThrough rfl (by decide) _) fun _ => hset _ rfl
    · exact Reads.ifRead (reads_callThrough rfl (by decide) _) fun _ => hset _ rfl
  refine Reads.ifRead (reads_callThrough rfl (by decide) _) fun count => ?_
  exact Reads.append (hset [.setCount count] rfl) (Reads.flatMap fun i _ => hdevice i)

end Readings

/-- Over the whole life of the collection nvmlInit is called once, first, where
the library is there and has it; then come readings, only after an nvmlInit that
has succeeded, and only of functions that the library has; and nvmlShutdown is
called once, last, where the library has it, also after an nvmlInit that failed. -/
theorem life_calls {Device : Type*} (library : NvmlLibrary) (collects : List (Readings Device)) :
    ∃ readings,calls (life library collects)=
      (if library.opens ∧ library.symbol .init then [.init] else [])++readings++
        (if library.opens ∧ library.symbol .shutdown then [.shutdown] else []) ∧
      (∀ function∈readings,
        library.symbol function=true ∧ function≠.init ∧ function≠.shutdown) ∧
      (readings≠[] → library.opens=true ∧ library.symbol .init=true ∧ library.init=success) := by
  have hdestroy : calls (destroy library : List (NvidiaEvent Device))=
      if library.symbol .shutdown then [.shutdown] else [] := by
    rw [destroy]
    split <;> rfl
  have hreads : Reads library.symbol (collects.flatMap (gpuMetrics library.symbol)) :=
    Reads.flatMap fun readings _ => reads_gpuMetrics readings
  rw [life,create]
  by_cases hopens : library.opens=true
  · rw [if_pos hopens,nvmlInitialize]
    simp only [hopens,true_and]
    by_cases hsymbol : library.symbol .init=true
    · rw [if_pos hsymbol,if_pos hsymbol]
      by_cases hinit : library.init=success
      · refine ⟨_,?_,hreads,fun _ => ⟨hsymbol,hinit⟩⟩
        simp only [hinit,decide_true,if_true,calls_append,hdestroy]
        rfl
      · refine ⟨[],?_,by simp,fun h => absurd rfl h⟩
        simp only [hinit,decide_false,Bool.false_eq_true,if_false,calls_append,hdestroy]
        rfl
    · rw [if_neg hsymbol,if_neg hsymbol]
      refine ⟨[],?_,by simp,fun h => absurd rfl h⟩
      simp only [Bool.false_eq_true,if_false,calls_append,hdestroy]
      rfl
  · refine ⟨[],?_,by simp,fun h => absurd rfl h⟩
    simp [hopens,calls]

/-- The value of a reading that succeeds. -/
def readValue {α : Type*} (symtab : NvmlFunction → Bool) (function : NvmlFunction) (answer : ℤ×α) :
    Option α :=
  if symtab function=true ∧ answer.1=success then some answer.2 else none

section Gauges

variable {Device : Type*} (symtab : NvmlFunction → Bool) (readings : Readings Device)

/-- The number of devices that are read. -/
def deviceCount : ℕ := (readValue symtab .deviceGetCount readings.count).getD 0

/-- The handle of a device that is read. -/
def deviceHandle (gpu : ℕ) : Option Device :=
  readValue symtab .deviceGetHandleByIndex (readings.handleByIndex gpu)

/-- What a gauge of a GPU is to show: the value of the one reading it is from. -/
def gaugeValue (gpu : ℕ) : Gauge → Option ℤ
  | .usedMemory => (readValue symtab .deviceGetMemoryInfo (readings.memoryInfo gpu)).map (·.used)
  | .freeMemory => (readValue symtab .deviceGetMemoryInfo (readings.memoryInfo gpu)).map (·.free)
  | .totalMemory => (readValue symtab .deviceGetMemoryInfo (readings.memoryInfo gpu)).map (·.total)
  | .utilization =>
    (readValue symtab .deviceGetUtilizationRates (readings.utilizationRates gpu)).map (·.gpu)
  | .memoryActivity =>
    (readValue symtab .deviceGetUtilizationRates (readings.utilizationRates gpu)).map (·.memory)
  | .perfState => readValue symtab .deviceGetPerformanceState (readings.performanceState gpu)

variable {symtab readings}

/-- A getter adds no meter itself, and what is done with its value is done
exactly when the reading succeeds. -/
theorem mem_ifRead_callThrough {α : Type*} {function : NvmlFunction} {called : NvidiaEvent Device}
    {answer : ℤ×α} {use : α → List (NvidiaEvent Device)} {event : NvidiaEvent Device}
    (hevent : event.function=none) (hcalled : called.function=some function) :
    event∈ifRead (callThrough symtab function called answer) use ↔
      ∃ value,readValue symtab function answer=some value ∧ event∈use value := by
  have hne : event≠called := by
    rintro rfl
    rw [hevent] at hcalled
    cases hcalled
  rw [ifRead,callThrough,readValue]
  by_cases hsymbol : symtab function=true <;> by_cases hok : answer.1=success <;>
    simp [hsymbol,hok,hne]

/-- The gauges that a device's readings set. -/
theorem mem_deviceEvents {i : ℕ} {gauge : Gauge} {gpu : ℕ} {value : ℤ} :
    .set gauge gpu value∈deviceEvents symtab readings i ↔
      gpu=i ∧ (deviceHandle symtab readings i).isSome ∧
        gaugeValue symtab readings i gauge=some value := by
  rw [deviceEvents,getByIndex,mem_ifRead_callThrough rfl rfl,←deviceHandle]
  have hbody : ∀ device,(.set gauge gpu value∈
      ifRead (getMemoryInfo symtab readings i device) (fun memory =>
        [.set .usedMemory i memory.used,.set .freeMemory i memory.free,
          .set .totalMemory i memory.total])++
      ifRead (getUtilizationRates symtab readings i device) (fun utilization =>
        [.set .utilization i utilization.gpu,.set .memoryActivity i utilization.memory])++
      ifRead (getPerformanceState symtab readings i device) (fun perfState =>
        [.set .perfState i perfState])++
      ifRead (getTemperature symtab readings i device) (fun temp =>
        [.recordTemperature temp])) ↔ gpu=i ∧ gaugeValue symtab readings i gauge=some value := by
    intro device
    rw [List.mem_append,List.mem_append,List.mem_append,getMemoryInfo,getUtilizationRates,
      getPerformanceState,getTemperature,mem_ifRead_callThrough rfl rfl,
      mem_ifRead_callThrough rfl rfl,mem_ifRead_callThrough rfl rfl,mem_ifRead_callThrough rfl rfl]
    cases gauge <;> simp [gaugeValue] <;> grind
  simp only [hbody]
  rw [Option.isSome_iff_exists]
  exact ⟨fun ⟨device,hdevice,hgpu,hvalue⟩ => ⟨hgpu,⟨device,hdevice⟩,hvalue⟩,
    fun ⟨hgpu,⟨device,hdevice⟩,hvalue⟩ => ⟨device,hdevice,hgpu,hvalue⟩⟩

/-- The gauges set by a reading are at most those of its value. -/
theorem gauges_ifRead_sublist {α : Type*} {function : NvmlFunction} {called : NvidiaEvent Device}
    {answer : ℤ×α} {use : α → List (NvidiaEvent Device)} {gauges : List (Gauge×ℕ)}
    (hcalled : called.gauge=none)
    (huse : ∀ value,readValue symtab function answer=some value →
      ((use value).filterMap NvidiaEvent.gauge).Sublist gauges) :
    ((ifRead (callThrough symtab function called answer) use).filterMap
      NvidiaEvent.gauge).Sublist gauges := by
  rw [ifRead,callThrough]
  by_cases hsymbol : symtab function=true
  · rw [if_pos hsymbol,List.filterMap_append,List.filterMap_cons,hcalled,List.filterMap_nil,
      List.nil_append]
    by_cases hok : answer.1=success
    · rw [if_pos hok]
      exact huse answer.2 (if_pos ⟨hsymbol,hok⟩)
    · rw [if_neg hok]
      exact List.nil_sublist _
  · rw [if_neg hsymbol]
    exact List.nil_sublist _

/-- The readings of a device set its gauges in a fixed order, some left out. -/
theorem gauges_deviceEvents_sublist (i : ℕ) :
    ((deviceEvents symtab readings i).filterMap NvidiaEvent.gauge).Sublist
      ([(.usedMemory,i),(.freeMemory,i),(.totalMemory,i)]++[(.utilization,i),(.memoryActivity,i)]++
        [(.perfState,i)]++[]) := by
  refine gauges_ifRead_sublist rfl fun device _ => ?_
  rw [List.filterMap_append,List.filterMap_append,List.filterMap_append]
  refine List.Sublist.append (List.Sublist.append (List.Sublist.append ?_ ?_) ?_) ?_
  · exact gauges_ifRead_sublist rfl fun _ _ => List.Sublist.refl _
  · exact gauges_ifRead_sublist rfl fun _ _ => List.Sublist.refl _
  · exact gauges_ifRead_sublist rfl fun _ _ => List.Sublist.refl _
  · exact gauges_ifRead_sublist rfl fun _ _ => List.Sublist.refl _

/-- A collect sets a gauge of a GPU exactly when the GPU is below the count that
was read, its handle was read, and the one reading the gauge is from succeeded,
whatever became of the others; and no gauge of a GPU is set twice. -/
theorem gpuMetrics_gauges (symtab : NvmlFunction → Bool) (readings : Readings Device) :
    (∀ gauge gpu value,.set gauge gpu value∈gpuMetrics symtab readings ↔
      gpu<deviceCount symtab readings ∧ (deviceHandle symtab readings gpu).isSome ∧
        gaugeValue symtab readings gpu gauge=some value) ∧
    ((gpuMetrics symtab readings).filterMap NvidiaEvent.gauge).Nodup := by
  constructor
  · intro gauge gpu value
    rw [gpuMetrics,getCount,mem_ifRead_callThrough rfl rfl,deviceCount]
    cases readValue symtab .deviceGetCount readings.count with
    | none => simp
    | some count =>
      simp only [Option.some.injEq,exists_eq_left',List.mem_cons,reduceCtorEq,false_or,
        List.mem_flatMap,List.mem_range,mem_deviceEvents,Option.getD_some]
      constructor
      · rintro ⟨i,hi,rfl,hvalue⟩
        exact ⟨hi,hvalue⟩
      · rintro ⟨hgpu,hvalue⟩
        exact ⟨gpu,hgpu,rfl,hvalue⟩
  · have hset : ∀ count : ℕ,
        ((List.range count).flatMap fun i =>
          (deviceEvents symtab readings i).filterMap NvidiaEvent.gauge).Nodup := by
      intro count
      rw [List.nodup_flatMap]
      constructor
      · intro i _
        exact (gauges_deviceEvents_sublist i).nodup (by simp)
      · -- the gauges of different devices carry different numbers
        refine List.nodup_range.imp fun {i j} hne gauge hi hj => hne ?_
        have hof : ∀ k,gauge∈(deviceEvents symtab readings k).filterMap NvidiaEvent.gauge →
            gauge.2=k := fun k hk => by
          have hmem := (gauges_deviceEvents_sublist k).subset hk
          simp only [List.cons_append,List.nil_append,List.mem_cons,List.not_mem_nil,
            or_false] at hmem
          rcases hmem with rfl|rfl|rfl|rfl|rfl|rfl <;> rfl
        exact (hof i hi).symm.trans (hof j hj)
    refine List.Sublist.nodup (gauges_ifRead_sublist rfl fun count hcount => ?_)
      (hset (deviceCount symtab readings))
    rw [List.filterMap_cons_none rfl,List.filterMap_flatMap,deviceCount,hcount]
    exact List.Sublist.refl _

end Gauges

end AtlasAgent.NvidiaGpus
