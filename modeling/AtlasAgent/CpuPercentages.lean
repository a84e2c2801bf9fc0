import AtlasAgent.ProcCpu
import Mathlib.Tactic.FieldSimp
import Mathlib.Tactic.Linarith
import Mathlib.Tactic.Ring

/-!
# The six percentages of ComputeGaugeValues

The differences of the counters are taken modulo 2^64 and so is their sum.
Written over the integers, each value is the share that the change of one
counter has in the net change of all of them, every change being reduced
modulo 2^64 first. While no counter goes back nothing is reduced and the
shares divide the whole among them; a counter that goes back counts as a very
large change, and the net change may then be smaller than a single share.

The shares are exact where the division of a whole is meant. Whether a value
may exceed a hundred is asked of the doubles of the code, in which a product
and a quotient are rounded to 53 bits.
-/

namespace AtlasAgent.CpuPercentages

open ProcCpu NearestEven

/-- The number of values of a uint64_t, as an integer. -/
def wordSize : ℤ := UInt64.size

/-- How far a counter has gone between two readings, below zero if back. -/
def change (prev current : UInt64) : ℤ := current.toNat-prev.toNat

/-- The change of irq and softirq together. -/
def interruptChange (prev current : CpuStatFields) : ℤ :=
  change prev.irq current.irq+change prev.softirq current.softirq

/-- The change of iowait, clamped at zero. -/
def waitChange (prev current : CpuStatFields) : ℤ := max 0 (change prev.iowait current.iowait)

/-- The net change of the seven terms of the denominator. -/
def netChange (prev current : CpuStatFields) : ℤ :=
  change prev.user current.user+change prev.nice current.nice+
    change prev.system current.system+change prev.idle current.idle+waitChange prev current+
      interruptChange prev current+change prev.steal current.steal

/-- The percentage that one change is of the net change, both modulo 2^64. A
net change of zero makes it zero. -/
def share (part net : ℤ) : ℚ := 100*(part%wordSize : ℤ)/(net%wordSize : ℤ)

/-- The percentage that one change is of the net change in some arithmetic,
both modulo 2^64. -/
def wordPercent (percent : ℕ → ℕ → ℚ) (part net : ℤ) : ℚ :=
  percent (part%wordSize).toNat (net%wordSize).toNat

/-- An unsigned difference is the change modulo 2^64. -/
theorem sub_toNat (prev current : UInt64) :
    ((current-prev).toNat : ℤ)=change prev current%wordSize := by
  have hp := prev.toNat_lt
  have hc := current.toNat_lt
  simp only [UInt64.toNat_sub,change,wordSize,UInt64.size]
  omega

/-- An unsigned sum is the sum modulo 2^64. -/
theorem add_toNat (a b : UInt64) : ((a+b).toNat : ℤ)=((a.toNat : ℤ)+b.toNat)%wordSize := by
  simp only [UInt64.toNat_add,wordSize,UInt64.size]
  omega

/-- The unsigned difference of the two interrupt sums. -/
theorem interrupt_toNat (prev current : CpuStatFields) :
    (((current.irq+current.softirq)-(prev.irq+prev.softirq)).toNat : ℤ)=
      interruptChange prev current%wordSize := by
  rw [sub_toNat,change,add_toNat,add_toNat,interruptChange,change,change,Int.emod_sub_emod,
    Int.sub_emod_emod]
  congr 1
  ring

/-- The clamped difference of iowait. -/
theorem wait_toNat (prev current : CpuStatFields) :
    ((if prev.iowait<current.iowait then current.iowait-prev.iowait else 0).toNat : ℤ)=
      waitChange prev current%wordSize := by
  have hlt : prev.iowait<current.iowait ↔ 0<change prev.iowait current.iowait := by
    rw [UInt64.lt_iff_toNat_lt,change]
    omega
  rw [waitChange]
  split
  · next h => rw [sub_toNat,max_eq_right (hlt.mp h).le]
  · next h => rw [max_eq_left (not_lt.mp (hlt.not.mp h))]; rfl

/-- Every value is the percentage of its counter's change and the net change,
both modulo 2^64; a net change of zero makes all of them zero. -/
theorem computeGaugeValuesWith_eq (percent : ℕ → ℕ → ℚ) (prev current : CpuStatFields) :
    computeGaugeValuesWith percent prev current=
      if netChange prev current%wordSize=0 then ⟨0,0,0,0,0,0⟩
      else
        { user := wordPercent percent (change prev.user current.user) (netChange prev current)
          system := wordPercent percent (change prev.system current.system)
            (netChange prev current)
          stolen := wordPercent percent (change prev.steal current.steal)
            (netChange prev current)
          nice := wordPercent percent (change prev.nice current.nice) (netChange prev current)
          wait := wordPercent percent (waitChange prev current) (netChange prev current)
          interrupt := wordPercent percent (interruptChange prev current)
            (netChange prev current) } := by
  have hwait := wait_toNat prev current
  have hinterrupt := interrupt_toNat prev current
  unfold computeGaugeValuesWith
  dsimp only
  generalize (if prev.iowait<current.iowait then current.iowait-prev.iowait else 0)=wait
    at hwait ⊢
  generalize (current.irq+current.softirq)-(prev.irq+prev.softirq)=interrupt at hinterrupt ⊢
  have htotal : (((current.user-prev.user)+(current.nice-prev.nice)+(current.system-prev.system)+
      (current.idle-prev.idle)+wait+interrupt+(current.steal-prev.steal)).toNat : ℤ)=
        netChange prev current%wordSize := by
    simp only [add_toNat,sub_toNat,hwait,hinterrupt,netChange,Int.emod_add_emod,Int.add_emod_emod]
  generalize (current.user-prev.user)+(current.nice-prev.nice)+(current.system-prev.system)+
    (current.idle-prev.idle)+wait+interrupt+(current.steal-prev.steal)=deltaTotal at htotal ⊢
  have hpercent (part : UInt64) {c : ℤ} (hc : (part.toNat : ℤ)=c%wordSize) :
      percent part.toNat deltaTotal.toNat=wordPercent percent c (netChange prev current) := by
    rw [wordPercent,←htotal,←hc,Int.toNat_natCast,Int.toNat_natCast]
  have hpositive : 0<deltaTotal ↔ ¬netChange prev current%wordSize=0 := by
    rw [←htotal,UInt64.lt_iff_toNat_lt,UInt64.toNat_zero]
    omega
  rw [if_congr hpositive rfl rfl,ite_not,hpercent _ (sub_toNat _ _),hpercent _ (sub_toNat _ _),
    hpercent _ (sub_toNat _ _),hpercent _ (sub_toNat _ _),hpercent _ hwait,
    hpercent _ hinterrupt]

/-- In exact arithmetic every value is the share that its counter's change has
in the net change. -/
theorem computeGaugeValues_eq (prev current : CpuStatFields) :
    computeGaugeValues prev current=
      { user := share (change prev.user current.user) (netChange prev current)
        system := share (change prev.system current.system) (netChange prev current)
        stolen := share (change prev.steal current.steal) (netChange prev current)
        nice := share (change prev.nice current.nice) (netChange prev current)
        wait := share (waitChange prev current) (netChange prev current)
        interrupt := share (interruptChange prev current) (netChange prev current) } := by
  have hshare (part net : ℤ) : wordPercent exactPercent part net=share part net := by
    have hword : wordSize≠0 := by decide
    have hcast {n : ℤ} (hn : 0≤n) : (n.toNat : ℚ)=n := by
      rw [←Int.cast_natCast,Int.toNat_of_nonneg hn]
    rw [wordPercent,exactPercent,hcast (Int.emod_nonneg part hword),
      hcast (Int.emod_nonneg net hword),share]
  rw [computeGaugeValues,computeGaugeValuesWith_eq]
  split
  · next hzero => simp [share,hzero]
  · simp only [hshare]

/-- No counter but iowait and the two guest counters goes back. -/
structure NotBack (prev current : CpuStatFields) : Prop where
  user : prev.user.toNat ≤ current.user.toNat
  nice : prev.nice.toNat ≤ current.nice.toNat
  system : prev.system.toNat ≤ current.system.toNat
  idle : prev.idle.toNat ≤ current.idle.toNat
  steal : prev.steal.toNat ≤ current.steal.toNat
  interrupt : prev.irq.toNat+prev.softirq.toNat ≤ current.irq.toNat+current.softirq.toNat

/-- The percentage that one increase is of the sum of the increases. -/
def percentage (part total : ℤ) : ℚ := 100*part/total

/-- The six values divide a hundred percent between them and idle time. -/
structure PartitionsHundred (prev current : CpuStatFields) : Prop where
  /-- Nothing is divided when nothing has increased. -/
  zero : netChange prev current=0 → computeGaugeValues prev current=⟨0,0,0,0,0,0⟩
  /-- Each value is the percentage of its own increase. -/
  values : netChange prev current≠0 → computeGaugeValues prev current=
    { user := percentage (change prev.user current.user) (netChange prev current)
      system := percentage (change prev.system current.system) (netChange prev current)
      stolen := percentage (change prev.steal current.steal) (netChange prev current)
      nice := percentage (change prev.nice current.nice) (netChange prev current)
      wait := percentage (waitChange prev current) (netChange prev current)
      interrupt := percentage (interruptChange prev current) (netChange prev current) }
  /-- Together with idle time they are a hundred percent. -/
  hundred : netChange prev current≠0 → coreUsage (computeGaugeValues prev current)+
    percentage (change prev.idle current.idle) (netChange prev current)=100
  /-- The guest counters have no influence. -/
  guest : ∀ guest guestNice guest' guestNice',
    computeGaugeValues { prev with guest := guest,guestNice := guestNice }
      { current with guest := guest',guestNice := guestNice' }=computeGaugeValues prev current

/-- The seven increases are not negative and none of them exceeds their sum. -/
theorem NotBack.changes {prev current : CpuStatFields} (h : NotBack prev current) :
    ∀ part∈[change prev.user current.user,change prev.system current.system,
      change prev.steal current.steal,change prev.nice current.nice,waitChange prev current,
      interruptChange prev current,change prev.idle current.idle],
      0≤part ∧ part≤netChange prev current := by
  have huser : 0 ≤ change prev.user current.user := by have := h.user; rw [change]; omega
  have hnice : 0 ≤ change prev.nice current.nice := by have := h.nice; rw [change]; omega
  have hsystem : 0 ≤ change prev.system current.system := by have := h.system; rw [change]; omega
  have hidle : 0 ≤ change prev.idle current.idle := by have := h.idle; rw [change]; omega
  have hsteal : 0 ≤ change prev.steal current.steal := by have := h.steal; rw [change]; omega
  have hwait : 0≤waitChange prev current := le_max_left _ _
  have hinterrupt : 0 ≤ interruptChange prev current := by
    have := h.interrupt
    rw [interruptChange,change,change]
    omega
  intro part hpart
  simp only [List.mem_cons,List.not_mem_nil,or_false] at hpart
  rw [netChange]
  rcases hpart with rfl|rfl|rfl|rfl|rfl|rfl|rfl <;> constructor <;> omega

/-- An increase that is part of a sum within 64 bits is its own remainder. -/
theorem share_eq_percentage {part net : ℤ} (hpart : 0≤part ∧ part≤net) (hnet : net<wordSize) :
    share part net=percentage part net := by
  rw [share,percentage,Int.emod_eq_of_lt hpart.1 (hpart.2.trans_lt hnet),
    Int.emod_eq_of_lt (hpart.1.trans hpart.2) hnet]

/-- While no counter goes back and the sum of the increases fits 64 bits, the
values are the percentages of the increases and make a hundred with the idle
percentage. The two interrupt sums may even overflow. -/
theorem computeGaugeValues_partition {prev current : CpuStatFields} (h : NotBack prev current)
    (hnet : netChange prev current<wordSize) : PartitionsHundred prev current := by
  have hparts := h.changes
  simp only [List.forall_mem_cons,List.not_mem_nil,false_imp_iff,implies_true,and_true] at hparts
  obtain ⟨huser,hsystem,hsteal,hnice,hwait,hinterrupt,hidle⟩ := hparts
  have hvalues := computeGaugeValues_eq prev current
  rw [share_eq_percentage huser hnet,share_eq_percentage hsystem hnet,
    share_eq_percentage hsteal hnet,share_eq_percentage hnice hnet,
    share_eq_percentage hwait hnet,share_eq_percentage hinterrupt hnet] at hvalues
  refine ⟨fun hzero => ?_,fun _ => hvalues,fun hne => ?_,fun _ _ _ _ => rfl⟩
  · rw [hvalues,hzero]
    simp [percentage]
  · have hq : (netChange prev current : ℚ)≠0 := by exact_mod_cast hne
    have hsum : (netChange prev current : ℚ)=change prev.user current.user+
        change prev.nice current.nice+change prev.system current.system+
        change prev.idle current.idle+waitChange prev current+interruptChange prev current+
        change prev.steal current.steal := by
      rw [netChange]
      push_cast
      ring
    rw [hvalues,coreUsage]
    simp only [percentage]
    field_simp
    rw [hsum]
    ring

/-- A reading of a CPU that has been up for a while. -/
def earlierReading : CpuStatFields := ⟨100,10,50,800,30,4,6,2,1,0⟩

/-- A later one, in which iowait has gone back. -/
def laterReading : CpuStatFields := ⟨130,10,60,850,20,5,10,7,9,3⟩

/-- The rule at two readings of which the later has less iowait. -/
theorem computeGaugeValues_partition_readings : PartitionsHundred earlierReading laterReading :=
  computeGaugeValues_partition ⟨by decide,by decide,by decide,by decide,by decide,by decide⟩
    (by decide)

/-- All six values are percentages. -/
def Percentages (vals : CpuGaugeValues) : Prop :=
  ∀ value∈[vals.user,vals.system,vals.stolen,vals.nice,vals.wait,vals.interrupt],
    0≤value ∧ value≤100

/-- The changes whose percentages the six values are. -/
def gaugeChanges (prev current : CpuStatFields) : List ℤ :=
  [change prev.user current.user,change prev.system current.system,
    change prev.steal current.steal,change prev.nice current.nice,waitChange prev current,
    interruptChange prev current]

/-- The change and that of all other counters together, both modulo 2^64, are
added without passing 2^64. -/
def WrapFree (part net : ℤ) : Prop := part%wordSize+(net-part)%wordSize<wordSize

/-- A hundred times the change does not exceed as many times the net change by
more than the last double above a hundred leaves room for, both changes being
modulo 2^64 and held in doubles. -/
def FitsDoubles (part net : ℤ) : Prop :=
  toDouble (100*toDouble (part%wordSize : ℤ))≤(100+1/2^47)*toDouble (net%wordSize : ℤ)

/-- Without wrapping the sum is not below the change. -/
theorem wrapFree_iff (part net : ℤ) : WrapFree part net ↔ part%wordSize≤net%wordSize := by
  have hsum : (part%wordSize+(net-part)%wordSize)%wordSize=net%wordSize := by
    rw [←Int.add_emod,add_sub_cancel]
  unfold WrapFree
  simp only [wordSize,UInt64.size] at hsum ⊢
  omega

theorem toDouble_zero : toDouble 0=0 := roundBits_zero 53

theorem toDouble_pos {x : ℚ} (hx : 0<x) : 0<toDouble x := roundBits_pos (by norm_num) hx

theorem toDouble_mono {x y : ℚ} (hx : 0<x) (h : x≤y) : toDouble x≤toDouble y :=
  roundBits_mono (by norm_num) hx h

/-- The double nearest to a number is at most a hundred up to half of the last
bit of a hundred above it, because the mantissa of a hundred is even. -/
theorem toDouble_le_hundred_iff {x : ℚ} (hx : 0<x) : toDouble x≤100 ↔ x≤100+1/2^47 := by
  have h := roundBits_le_even_iff 52 (n := 100*2^46) (by norm_num) (by norm_num)
    (by norm_num) (-46) hx
  norm_num at h
  rw [toDouble,h]
  norm_num

/-- Integers up to 2^48 and their hundredfold are doubles. -/
theorem toDouble_hundred {n : ℕ} (hn : n≤2^48) : toDouble n=n ∧ toDouble (100*n)=100*n := by
  have hscaled := roundBits_eq_self 53 (m := 25*n) (by omega) 2
  have hmul : ((25*n : ℕ) : ℚ)*2^(2 : ℤ)=100*n := by
    push_cast
    ring
  rw [hmul] at hscaled
  exact ⟨roundBits_natCast (by omega),hscaled⟩

/-- In doubles a percentage is between zero and a hundred exactly when the
rounded product fits the rounded total. -/
theorem doublePercent_between_iff (delta : ℕ) {total : ℕ} (htotal : 0<total) :
    (0 ≤ doublePercent delta total ∧ doublePercent delta total≤100) ↔
      toDouble (100*toDouble delta)≤(100+1/2^47)*toDouble total := by
  have hq : 0<toDouble total := toDouble_pos (Nat.cast_pos.mpr htotal)
  rw [doublePercent]
  rcases delta.eq_zero_or_pos with rfl|hdelta
  · have hfit : (0 : ℚ)≤(100+1/2^47)*toDouble total := by positivity
    rw [Nat.cast_zero,toDouble_zero,mul_zero,toDouble_zero,zero_div,toDouble_zero]
    exact iff_of_true ⟨le_rfl,by norm_num⟩ hfit
  · have hd : 0<toDouble delta := toDouble_pos (Nat.cast_pos.mpr hdelta)
    have hproduct : 0<toDouble (100*toDouble delta) := toDouble_pos (by positivity)
    have hquotient : 0<toDouble (100*toDouble delta)/toDouble total := div_pos hproduct hq
    rw [and_iff_right (toDouble_pos hquotient).le,toDouble_le_hundred_iff hquotient,
      div_le_iff₀ hq]

/-- Up to a total of 2^48 the rounding makes no difference. -/
theorem toDouble_fits_iff (delta : ℕ) {total : ℕ} (htotal : total<2^48) :
    toDouble (100*toDouble delta)≤(100+1/2^47)*toDouble total ↔ delta≤total := by
  have hsmall : (total : ℚ)<2^48 := by exact_mod_cast htotal
  rw [(toDouble_hundred htotal.le).1]
  constructor
  · intro h
    by_contra hlt
    have hnext : ((total+1 : ℕ) : ℚ)≤delta := by exact_mod_cast not_le.mp hlt
    have hpos : (0 : ℚ)<(total+1 : ℕ) := by positivity
    obtain ⟨hself,hscaled⟩ := toDouble_hundred (n := total+1) (by omega)
    have hrounded : ((total+1 : ℕ) : ℚ)≤toDouble delta := hself.ge.trans (toDouble_mono hpos hnext)
    have hproduct : 100*((total+1 : ℕ) : ℚ)≤toDouble (100*toDouble delta) :=
      hscaled.ge.trans (toDouble_mono (by positivity) (by linarith))
    push_cast at hproduct
    linarith
  · intro h
    have hdelta : (delta : ℚ)≤total := by exact_mod_cast h
    obtain ⟨hself,hscaled⟩ := toDouble_hundred (n := delta) (by omega)
    have hnonneg : (0 : ℚ)≤delta := by positivity
    rw [hself,hscaled]
    linarith

/-- The six values of some arithmetic are percentages when the net change is a
multiple of 2^64 or the six changes have percentages. -/
theorem percentages_iff_wordPercent (percent : ℕ → ℕ → ℚ) (prev current : CpuStatFields) :
    Percentages (computeGaugeValuesWith percent prev current) ↔
      netChange prev current%wordSize=0 ∨ ∀ part∈gaugeChanges prev current,
        0 ≤ wordPercent percent part (netChange prev current) ∧
          wordPercent percent part (netChange prev current)≤100 := by
  rw [computeGaugeValuesWith_eq,Percentages]
  split
  · next hzero => simp [hzero]
  · next hzero =>
    simp only [gaugeChanges,hzero,false_or,List.forall_mem_cons,List.not_mem_nil,
      false_imp_iff,implies_true,and_true]

/-- A change has a percentage in doubles exactly when it fits. -/
theorem doublePercent_iff_fits (part : ℤ) {net : ℤ} (hnet : ¬net%wordSize=0) :
    (0 ≤ wordPercent doublePercent part net ∧ wordPercent doublePercent part net≤100) ↔
      FitsDoubles part net := by
  have hword : wordSize≠0 := by decide
  have hnonneg := Int.emod_nonneg net hword
  have hcast {n : ℤ} (hn : 0≤n) : (n.toNat : ℚ)=n := by
    rw [←Int.cast_natCast,Int.toNat_of_nonneg hn]
  rw [wordPercent,doublePercent_between_iff _ (by omega),FitsDoubles,
    hcast (Int.emod_nonneg part hword),hcast hnonneg]

/-- Up to a net change of 2^48 a change fits exactly when it does not wrap. -/
theorem fitsDoubles_iff_wrapFree (part : ℤ) {net : ℤ} (hnet : net%wordSize<2^48) :
    FitsDoubles part net ↔ WrapFree part net := by
  have hword : wordSize≠0 := by decide
  have hpart := Int.emod_nonneg part hword
  have hnonneg := Int.emod_nonneg net hword
  have hcast {n : ℤ} (hn : 0≤n) : (n : ℚ)=n.toNat := by
    rw [←Int.cast_natCast,Int.toNat_of_nonneg hn]
  rw [FitsDoubles,hcast hpart,hcast hnonneg,toDouble_fits_iff _ (by omega),wrapFree_iff]
  omega

/-- User time alone goes back: its change of nearly 2^64 is all of the total,
and the quotient of the rounded product is the double above a hundred. -/
example : (computeGaugeValuesDouble ⟨31744,0,0,0,0,0,0,0,0,0⟩ ⟨0,0,0,0,0,0,0,0,0,0⟩).user=
    100+1/2^46 := by
  decide +kernel

/-- Readings in which no counter goes back have percentages, up to a net change
of 2^48. -/
theorem NotBack.percentages {prev current : CpuStatFields} (h : NotBack prev current)
    (hnet : netChange prev current<2^48) :
    Percentages (computeGaugeValuesDouble prev current) := by
  have hnonneg : 0 ≤ netChange prev current := by
    obtain ⟨hpart,hle⟩ := h.changes (waitChange prev current) (by simp)
    exact hpart.trans hle
  have hword : netChange prev current<wordSize := hnet.trans (by decide)
  have hself : netChange prev current%wordSize=netChange prev current :=
    Int.emod_eq_of_lt hnonneg hword
  rw [computeGaugeValuesDouble,percentages_iff_wordPercent,or_iff_not_imp_left]
  intro hzero part hpart
  obtain ⟨hpositive,hle⟩ := h.changes part (List.mem_append_left [_] hpart)
  rw [doublePercent_iff_fits _ hzero,fitsDoubles_iff_wrapFree _ (hself.trans_lt hnet),
    wrapFree_iff,hself,Int.emod_eq_of_lt hpositive (hle.trans_lt hword)]
  exact hle

end AtlasAgent.CpuPercentages
