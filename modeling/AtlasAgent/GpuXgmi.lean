import AtlasAgent.GpuLatches
import AtlasAgent.SampleIncrements
import Mathlib.Algebra.BigOperators.Fin
import Mathlib.Algebra.Order.BigOperators.Group.Finset
import Mathlib.Algebra.Order.Floor.Semifield
import Mathlib.Data.List.Chain

/-!
# What the xGMI counters of a GPU add up to

RecordXgmi samples two sums, each over the links that are populated at the
time. Between two samples with the same links the sum grows by what the links
grow by; a link that comes or goes moves it by its whole accumulator.
-/

namespace AtlasAgent.GpuXgmi

open Effects GpuLatches GpuMetricsAmd RunHistory SampleIncrements

/-- The two accumulators of a link, each with its meter. -/
inductive Direction
  | read
  | write
  deriving DecidableEq

def Direction.meter : Direction → Meter
  | read => .xgmiIn
  | write => .xgmiOut

/-- A call of RecordXgmi: the steady clock in nanoseconds and the table. -/
structure XgmiTick (w links : ℕ) where
  now : ℤ
  table : AmdsmiGpuMetrics w links

section Runs

variable {w links : ℕ}

/-- A call of RecordXgmi as a step. -/
def recordXgmiStep (s : GpuState) (tick : XgmiTick w links) : GpuState×List GpuEvent :=
  ((recordXgmi tick.now tick.table s).state,(recordXgmi tick.now tick.table s).outputs)

/-- The accumulators of a direction. -/
def XgmiTick.acc (tick : XgmiTick w links) : Direction → Fin links → UInt64
  | .read => tick.table.xgmiReadDataAcc
  | .write => tick.table.xgmiWriteDataAcc

/-- What a link reads in kilobytes, if it is populated. -/
def XgmiTick.reading (tick : XgmiTick w links) (direction : Direction) (link : Fin links) :
    Option ℤ :=
  if tick.acc direction link=uint64Max then none else some (tick.acc direction link).toNat

/-- The sum of the populated readings. -/
def XgmiTick.sum (tick : XgmiTick w links) (direction : Direction) : ℤ :=
  ∑ link, (tick.reading direction link).getD 0

/-- The readings of a link at the ticks that have one. -/
def readings (direction : Direction) (link : Fin links) (ticks : List (XgmiTick w links)) :
    List ℤ :=
  ticks.filterMap (·.reading direction link)

/-- The growth of the populated accumulators in kilobytes, from the first
reading of each link to its last one. -/
def growthKb (direction : Direction) (ticks : List (XgmiTick w links)) : ℤ :=
  ∑ link, growthOf none (readings direction link ticks)

/-- The bytes added to the counter of a direction. -/
def bytesAdded (direction : Direction) (ticks : List (XgmiTick w links)) : ℤ :=
  (((runOutput recordXgmiStep .init ticks).filterMap (recordOf direction.meter)).sum : ℕ)

/-- Nothing in the tick that follows another one exceeds 64 bits. -/
def NoOverflow (tick tick' : XgmiTick w links) : Prop :=
  ∀ direction : Direction,
    ⌊((tick'.sum direction-tick.sum direction : ℤ) : ℚ)*1024/
      (((tick'.now-tick.now : ℤ) : ℚ)/nanosPerSecond)⌋*60<2^64

/-- What is promised of a run. -/
structure Lawful (ticks : List (XgmiTick w links)) : Prop where
  clock : ticks.IsChain fun tick tick' => tick.now<tick'.now
  monotone : ∀ direction link, (readings direction link ticks).Pairwise (·≤·)
  sums : ∀ tick∈ticks, ∀ direction, tick.sum direction<2^64
  rates : ticks.IsChain NoOverflow

/-- The bytes added are those of the growth, less at most 59 for every tick
after the first one. -/
def XgmiContract (ticks : List (XgmiTick w links)) : Prop :=
  Lawful ticks → ∀ direction, bytesAdded direction ticks≤1024*growthKb direction ticks ∧
    1024*growthKb direction ticks≤bytesAdded direction ticks+59*(ticks.length-1 : ℕ)

/-- The condition on a tick that follows another one: in each direction the
same links are populated, and sixty seconds have passed unless nothing grew. -/
def SteadyLinks (tick tick' : XgmiTick w links) : Prop :=
  ∀ direction, (∀ link, tick.reading direction link=none ↔ tick'.reading direction link=none) ∧
    (tick'.now-tick.now=60*nanosPerSecond ∨ tick.acc direction=tick'.acc direction)

/-- A sum of machine words is the sum of their values, modulo 2^64. -/
theorem toNat_sum_filter (words : List UInt64) :
    ((words.filter (·≠uint64Max)).sum).toNat=
      (words.map fun word => if word=uint64Max then 0 else word.toNat).sum%2^64 := by
  induction words with
  | nil => rfl
  | cons word words ih =>
    by_cases h : word=uint64Max
    · rw [List.filter_cons_of_neg (by simp [h]),ih,List.map_cons,List.sum_cons,if_pos h,
        Nat.zero_add]
    · rw [List.filter_cons_of_pos (by simp [h]),List.sum_cons,UInt64.toNat_add,ih,List.map_cons,
        List.sum_cons,if_neg h,Nat.add_mod_mod]

/-- RecordXgmi samples the sum of the readings. -/
theorem populatedKb_toNat {tick : XgmiTick w links} {direction : Direction}
    (h : tick.sum direction<2^64) :
    ((populatedKb (tick.acc direction)).toNat : ℤ)=tick.sum direction := by
  have hsum : tick.sum direction=((List.ofFn (tick.acc direction)).map fun word =>
      if word=uint64Max then 0 else word.toNat).sum := by
    rw [List.map_ofFn,List.sum_ofFn,XgmiTick.sum,Nat.cast_sum]
    refine Finset.sum_congr rfl fun link _ => ?_
    rw [XgmiTick.reading,Function.comp_apply]
    split <;> rfl
  rw [populatedKb,toNat_sum_filter,hsum]
  rw [hsum] at h
  rw [Nat.mod_eq_of_lt (by exact_mod_cast h)]

/-- Growth of a series of readings from its first pair on. -/
theorem growthOf_cons_cons (first second : ℤ) (rest : List ℤ) :
    growthOf none (first::second::rest)=second-first+growthOf none (second::rest) := by
  simp only [growthOf,Option.getD_none,zero_add,List.getLast_cons_cons]
  ring

/-- The growth over a tick with the same links as the one before is what their
sum grows by. -/
theorem growthKb_cons_cons {direction : Direction} {tick tick' : XgmiTick w links}
    (h : ∀ link, tick.reading direction link=none ↔ tick'.reading direction link=none)
    (ticks : List (XgmiTick w links)) :
    growthKb direction (tick::tick'::ticks)=
      tick'.sum direction-tick.sum direction+growthKb direction (tick'::ticks) := by
  unfold growthKb XgmiTick.sum
  rw [←Finset.sum_sub_distrib,←Finset.sum_add_distrib]
  refine Finset.sum_congr rfl fun link _ => ?_
  have hlink := h link
  cases hfirst : tick.reading direction link with
  | none =>
    have hsecond := hlink.mp hfirst
    simp [readings,hfirst,hsecond]
  | some first =>
    obtain ⟨second,hsecond⟩ := Option.ne_none_iff_exists'.mp
      (fun hnone => by simp [hlink.mpr hnone] at hfirst : tick'.reading direction link≠none)
    simp only [readings,List.filterMap_cons,hfirst,hsecond,Option.getD_some]
    exact growthOf_cons_cons first second _

theorem growthKb_singleton (direction : Direction) (tick : XgmiTick w links) :
    growthKb direction [tick]=0 := by
  refine Finset.sum_eq_zero fun link _ => ?_
  cases h : tick.reading direction link <;> simp [readings,h,growthOf]

/-- With the same links the sum does not go down. -/
theorem sum_le_sum {direction : Direction} {tick tick' : XgmiTick w links}
    {ticks : List (XgmiTick w links)}
    (h : ∀ link, tick.reading direction link=none ↔ tick'.reading direction link=none)
    (hmono : ∀ link, (readings direction link (tick::tick'::ticks)).Pairwise (·≤·)) :
    tick.sum direction≤tick'.sum direction := by
  refine Finset.sum_le_sum fun link _ => ?_
  have hordered := hmono link
  cases hfirst : tick.reading direction link with
  | none => simp [(h link).mp hfirst]
  | some first =>
    obtain ⟨second,hsecond⟩ := Option.ne_none_iff_exists'.mp
      (fun hnone => by simp [(h link).mpr hnone] at hfirst : tick'.reading direction link≠none)
    simp only [readings,List.filterMap_cons,hfirst,hsecond] at hordered
    simpa [hsecond] using List.rel_of_pairwise_cons hordered (List.mem_cons_self ..)

/-- The sample of a tick. -/
def XgmiTick.sample (tick : XgmiTick w links) : XgmiSample := linkSample tick.now tick.table

theorem recordXgmiStep_links (s : GpuState) (tick : XgmiTick w links) :
    (recordXgmiStep s tick).1.lastXgmi=(linkStep s.lastXgmi tick.sample).1 ∧
      (recordXgmiStep s tick).2.filterMap linkOf=(linkStep s.lastXgmi tick.sample).2 :=
  recordXgmi_links tick.now tick.table s

theorem isXgmi_meter (direction : Direction) : IsXgmi direction.meter := by
  cases direction with
  | read => exact Or.inl rfl
  | write => exact Or.inr rfl

/-- What a tick adds after another one. -/
theorem recordXgmiStep_after {s : GpuState} {tick tick' : XgmiTick w links}
    (hlast : s.lastXgmi=some tick.sample) (hclock : tick.now<tick'.now) :
    (recordXgmiStep s tick').1.lastXgmi=some tick'.sample ∧
      ∀ direction : Direction, (recordXgmiStep s tick').2.filterMap (recordOf direction.meter)=
        [linkValue tick.sample tick'.sample direction.meter] := by
  have hdt : ¬((tick'.now-tick.now : ℤ) : ℚ)/nanosPerSecond≤0 := by
    have hpos : (0 : ℚ)<(tick'.now-tick.now : ℤ) := by exact_mod_cast sub_pos.mpr hclock
    exact not_le.mpr (div_pos hpos (by norm_num [nanosPerSecond]))
  obtain ⟨hstate,houtputs⟩ := recordXgmiStep_links s tick'
  rw [hlast] at hstate houtputs
  have hstep : linkStep (some tick.sample) tick'.sample=
      (some tick'.sample,[(.xgmiIn,linkValue tick.sample tick'.sample .xgmiIn),
        (.xgmiOut,linkValue tick.sample tick'.sample .xgmiOut)]) := if_neg hdt
  refine ⟨hstate.trans (congrArg Prod.fst hstep),fun direction => ?_⟩
  rw [records_of_links (isXgmi_meter direction),houtputs,hstep]
  cases direction <;> rfl

/-- The first tick is the baseline. -/
theorem recordXgmiStep_first (tick : XgmiTick w links) :
    (recordXgmiStep .init tick).1.lastXgmi=some tick.sample ∧
      ∀ direction : Direction, (recordXgmiStep .init tick).2.filterMap (recordOf direction.meter)=
        [] := by
  obtain ⟨hstate,houtputs⟩ := recordXgmiStep_links .init tick
  refine ⟨hstate,fun direction => ?_⟩
  rw [records_of_links (isXgmi_meter direction),houtputs]
  rfl

/-- Without an overflow the increment is sixty times the bytes per second. -/
theorem toNat_rescaled {previous current : UInt64} {dt : ℚ} (hle : previous ≤ current)
    (h : ⌊((current.toNat-previous.toNat : ℕ) : ℚ)*1024/dt⌋₊*60<2^64) :
    (bytesPerSecond previous current dt*kBytesConversion).toNat=
      ⌊((current.toNat-previous.toNat : ℕ) : ℚ)*1024/dt⌋₊*60 := by
  have hdelta : (current-previous).toNat=current.toNat-previous.toNat :=
    UInt64.toNat_sub_of_le current previous hle
  have hrate : (bytesPerSecond previous current dt).toNat=
      ⌊((current.toNat-previous.toNat : ℕ) : ℚ)*1024/dt⌋₊ := by
    simp only [bytesPerSecond,if_pos hle,hdelta]
    refine UInt64.toNat_ofNat_of_lt' ?_
    show _<2^64
    omega
  rw [UInt64.toNat_mul,hrate]
  exact Nat.mod_eq_of_lt h

/-- The bytes per second of a growth in kilobytes. -/
def rateOf (growth : ℕ) (elapsed : ℤ) : ℕ :=
  ⌊(growth : ℚ)*1024/((elapsed : ℚ)/nanosPerSecond)⌋₊

/-- Over sixty seconds, or without growth, rescaling the rate loses less than
sixty bytes. -/
theorem rateOf_bounds (growth : ℕ) (elapsed : ℤ)
    (h : elapsed=60*nanosPerSecond ∨ growth=0) :
    rateOf growth elapsed*60≤1024*growth ∧ 1024*growth ≤ rateOf growth elapsed*60+59 := by
  rcases h with rfl|rfl
  · have hdt : ((60*nanosPerSecond : ℤ) : ℚ)/nanosPerSecond=(60 : ℕ) := by
      norm_num [nanosPerSecond]
    have hrate : rateOf growth (60*nanosPerSecond)=growth*1024/60 := by
      rw [rateOf,hdt,←Nat.floor_div_eq_div (K := ℚ)]
      push_cast
      rfl
    rw [hrate]
    omega
  · simp [rateOf]

/-- What a tick adds after another one with the same links. -/
theorem linkValue_bounds {tick tick' : XgmiTick w links} {direction : Direction}
    (hclock : tick.now<tick'.now) (hsum : tick.sum direction<2^64)
    (hsum' : tick'.sum direction<2^64) (hle : tick.sum direction≤tick'.sum direction)
    (hrate : NoOverflow tick tick')
    (hsteady : tick'.now-tick.now=60*nanosPerSecond ∨ tick.acc direction=tick'.acc direction) :
    (linkValue tick.sample tick'.sample direction.meter : ℤ)≤
        1024*(tick'.sum direction-tick.sum direction) ∧
      1024*(tick'.sum direction-tick.sum direction)≤
        linkValue tick.sample tick'.sample direction.meter+59 := by
  have hkb := populatedKb_toNat hsum
  have hkb' := populatedKb_toNat hsum'
  set old := populatedKb (tick.acc direction) with hold
  set new := populatedKb (tick'.acc direction) with hnew
  have hwords : old≤new := by
    rw [UInt64.le_iff_toNat_le]
    omega
  have hgrowth : tick'.sum direction-tick.sum direction=((new.toNat-old.toNat : ℕ) : ℤ) := by
    omega
  have hvalue : linkValue tick.sample tick'.sample direction.meter=
      rateOf (new.toNat-old.toNat) (tick'.now-tick.now)*60 := by
    have hbps : rateOf (new.toNat-old.toNat) (tick'.now-tick.now)*60<2^64 := by
      have hfloor := hrate direction
      rw [hgrowth,Int.cast_natCast] at hfloor
      have hnonneg : (0 : ℚ)≤((new.toNat-old.toNat : ℕ) : ℚ)*1024/
          (((tick'.now-tick.now : ℤ) : ℚ)/nanosPerSecond) := by
        have hdt : (0 : ℚ)<(tick'.now-tick.now : ℤ) := by exact_mod_cast sub_pos.mpr hclock
        have hnanos : (0 : ℚ)<nanosPerSecond := by norm_num [nanosPerSecond]
        positivity
      rw [←Int.natCast_floor_eq_floor hnonneg] at hfloor
      unfold rateOf
      omega
    have hrescaled := toNat_rescaled hwords hbps
    cases direction with
    | read => exact hrescaled
    | write => exact hrescaled
  have hbounds := rateOf_bounds (new.toNat-old.toNat) (tick'.now-tick.now)
    (hsteady.imp_right fun hacc => by rw [hold,hnew,hacc,Nat.sub_self])
  omega

/-- The bytes added by the ticks after one of which the sample is kept. -/
theorem bytes_after {s : GpuState} {tick : XgmiTick w links} {ticks : List (XgmiTick w links)}
    (direction : Direction) (hlast : s.lastXgmi=some tick.sample) (h : Lawful (tick::ticks))
    (hsteady : (tick::ticks).IsChain SteadyLinks) :
    ((((runOutput recordXgmiStep s ticks).filterMap (recordOf direction.meter)).sum : ℕ) : ℤ)≤
        1024*growthKb direction (tick::ticks) ∧
      1024*growthKb direction (tick::ticks)≤
        (((runOutput recordXgmiStep s ticks).filterMap (recordOf direction.meter)).sum : ℕ)+
          59*ticks.length := by
  induction ticks generalizing s tick with
  | nil => simp [growthKb_singleton]
  | cons tick' ticks ih =>
    obtain ⟨hclock,hmono,hsums,hrates⟩ := h
    obtain ⟨hnow,hclock⟩ := List.isChain_cons_cons.mp hclock
    obtain ⟨hrate,hrates⟩ := List.isChain_cons_cons.mp hrates
    obtain ⟨hpair,hsteady⟩ := List.isChain_cons_cons.mp hsteady
    obtain ⟨hsame,helapsed⟩ := hpair direction
    have htail (direction : Direction) (link : Fin links) :
        (readings direction link (tick'::ticks)).Pairwise (·≤·) := by
      have hall := hmono direction link
      rw [readings,List.filterMap_cons] at hall
      split at hall
      · exact hall
      · exact hall.of_cons
    have hstep := linkValue_bounds hnow (hsums tick (by simp) direction)
      (hsums tick' (by simp) direction) (sum_le_sum hsame (hmono direction)) hrate helapsed
    obtain ⟨hkept,hadded⟩ := recordXgmiStep_after hlast hnow
    have hrest := ih hkept ⟨hclock,htail,fun later hlater => hsums later
      (List.mem_cons_of_mem tick hlater),hrates⟩ hsteady
    rw [runOutput_cons,List.filterMap_append,hadded,List.sum_append,List.sum_singleton,
      growthKb_cons_cons hsame,List.length_cons]
    omega

/-- In every run of which the ticks have the same links and are sixty seconds
apart, unless nothing grows, the bytes added are those of the growth. -/
theorem bytes_of_steadyLinks {ticks : List (XgmiTick w links)}
    (hsteady : ticks.IsChain SteadyLinks) : XgmiContract ticks := by
  intro h direction
  cases ticks with
  | nil => simp [bytesAdded,growthKb,readings,growthOf]
  | cons tick ticks =>
    obtain ⟨hfirst,hnone⟩ := recordXgmiStep_first tick
    have hafter := bytes_after direction hfirst h hsteady
    rw [bytesAdded,runOutput_cons,List.filterMap_append,hnone,List.nil_append]
    simpa using hafter

end Runs

/-- A table in which only the read accumulators of two links matter. -/
def linkTable (first second : UInt64) : AmdsmiGpuMetrics 16 2 :=
  ⟨0,0,0,0,0,0,0,![first,second],![uint64Max,uint64Max]⟩

/-- A tick so many seconds into the run. -/
def linkTick (seconds : ℤ) (first second : UInt64) : XgmiTick 16 2 :=
  ⟨seconds*nanosPerSecond,linkTable first second⟩

/-- Two links, one of which is never populated: growth over a minute, then a
longer time without any. -/
def steadyTicks : List (XgmiTick 16 2) :=
  [linkTick 0 100 uint64Max,linkTick 60 2100 uint64Max,linkTick 150 2100 uint64Max]

/-- Ticks of two links whose conditions are checked in each direction. -/
theorem lawful_of_directions {ticks : List (XgmiTick 16 2)}
    (hclock : ticks.IsChain fun tick tick' => tick.now<tick'.now)
    (hmonotone : ∀ link,(readings .read link ticks).Pairwise (·≤·) ∧
      (readings .write link ticks).Pairwise (·≤·))
    (hsums : ∀ tick∈ticks,tick.sum .read<2^64 ∧ tick.sum .write<2^64)
    (hrates : ticks.IsChain NoOverflow) : Lawful ticks where
  clock := hclock
  monotone direction link := by
    cases direction with
    | read => exact (hmonotone link).1
    | write => exact (hmonotone link).2
  sums tick htick direction := by
    cases direction with
    | read => exact (hsums tick htick).1
    | write => exact (hsums tick htick).2
  rates := hrates

theorem steadyTicks_lawful : Lawful steadyTicks := by
  refine lawful_of_directions (.cons_cons (by decide) (.cons_cons (by decide) (.singleton _)))
    (by decide) (by decide +kernel) (.cons_cons ?_ (.cons_cons ?_ (.singleton _)))
  · rintro (_|_) <;> decide +kernel
  · rintro (_|_) <;> decide +kernel

/-- Two thousand kilobytes are read in the first minute, of which twenty bytes
are lost to the rounding, and nothing is written. -/
theorem bytes_of_steadyLinks_twoLinks :
    XgmiContract steadyTicks ∧ Lawful steadyTicks ∧
      growthKb .read steadyTicks=2000 ∧ bytesAdded .read steadyTicks=2047980 ∧
      bytesAdded .write steadyTicks=0 := by
  refine ⟨bytes_of_steadyLinks (.cons_cons ?_ (.cons_cons ?_ (.singleton _))),steadyTicks_lawful,
    by decide +kernel,by decide +kernel,by decide +kernel⟩
  · rintro (_|_) <;> decide
  · rintro (_|_) <;> decide

/-- A link that reads five thousand kilobytes, is not populated a minute later,
and reads the same again after another minute. -/
def returningTicks : List (XgmiTick 16 2) :=
  [linkTick 0 100 5000,linkTick 60 100 uint64Max,linkTick 120 100 5000]

theorem returningTicks_lawful : Lawful returningTicks := by
  refine lawful_of_directions (.cons_cons (by decide) (.cons_cons (by decide) (.singleton _)))
    (by decide) (by decide +kernel) (.cons_cons ?_ (.cons_cons ?_ (.singleton _)))
  · rintro (_|_) <;> decide +kernel
  · rintro (_|_) <;> decide +kernel

/-- The link adds what it had transferred before the first sample. -/
theorem returningLink_repeats : ¬XgmiContract returningTicks := by
  intro h
  have hread := (h returningTicks_lawful .read).1
  revert hread
  decide +kernel

end AtlasAgent.GpuXgmi
