import AtlasAgent.Effects
import AtlasAgent.LatestSample
import AtlasAgent.Ntp
import AtlasAgent.ReadOutput
import Mathlib.Tactic.Positivity

/-!
# Ntp::collect

The time of the last sample is kept from call to call. A call moves it to the
last of its sources that is tracked and has a number, if chronyc is there, and
publishes its age; what the kernel says about the clock is published in any
case, unless the kernel could not be asked.
-/

namespace AtlasAgent.NtpSamples

open Effects LatestSample Ntp NumberText RunHistory TextFields
open ReadOutput (Environment canExecute)

/-- A gauge that is set. -/
inductive GaugeSet
  | lastSampleAge (value : ℚ)
  | estimatedError (value : ℚ)
  | unsynchronized (value : ℚ)
  deriving DecidableEq

/-- What a call of collect meets. -/
structure Call where
  environment : Environment
  /-- The output of chronyc -c tracking. -/
  tracking : Token
  /-- The lines of chronyc -c sources. -/
  sources : List Source
  /-- Clock::now() when the age is set. -/
  now : Time
  /-- What ntp_adjtime returns. -/
  adjtime : ℤ
  /-- The esterror that ntp_adjtime fills in. -/
  esterror : ℤ

/-- TIME_ERROR. -/
def timeError : ℤ := 5

/-- Ntp::ntp_stats. -/
def ntpStats (err esterror : ℤ) : List GaugeSet :=
  if err= -1 then []
  else .unsynchronized (if err=timeError then 1 else 0)::
    if err≠timeError then [.estimatedError (esterror/1000000)] else []

/-- The part of collect behind can_execute; the state is lastSampleTime_. -/
def chrony (call : Call) : Program Time GaugeSet StdException Unit :=
  if canExecute call.environment "chronyc".toList then do
    let lastSampleTime ← getState
    let stats ← lift (chronyStats lastSampleTime call.tracking call.sources call.now)
    modifyState fun _ => stats.lastSampleTime
    emit (.lastSampleAge stats.lastSampleAge)
  else pure ()

/-- Ntp::collect. -/
def collect (call : Call) : Program Time GaugeSet StdException Unit := do
  chrony call
  forEach emit (ntpStats call.adjtime call.esterror)

/-- A call as a step of a run. -/
def step (lastSampleTime : Time) (call : Call) : Time×List GaugeSet :=
  ((collect call lastSampleTime).state,(collect call lastSampleTime).outputs)

/-- The time of the sample of a source. -/
def sampleTime (server : Token) (source : Source) : Option Time :=
  if isServer server source then
    match lastRx source with
    | .ok n => some (source.now-seconds n)
    | .error _ => none
  else none

/-- A source that does not end the agent. -/
def fits (server : Token) (source : Source) : Bool :=
  match lastRx source with
  | .error .outOfRange => !isServer server source
  | _ => true

/-- The time of the sample that a call takes. -/
def sample (call : Call) : Option Time :=
  let server := currentServer call.tracking
  if canExecute call.environment "chronyc".toList && call.sources.all (fits server) then
    latest (sampleTime server) call.sources
  else none

section Calls

variable {server : Token} {lastSampleTime : Time}

theorem fits_iff (source : Source) : fits server source=true ↔ ¬OutOfRange server source := by
  rw [fits,OutOfRange]
  split
  · simp_all
  · rename_i hnot
    exact iff_of_true rfl fun h => hnot h.2

/-- A source moves the time to that of its sample, if it has one. -/
theorem sourceStep_fits {source : Source} (h : fits server source=true) :
    sourceStep server lastSampleTime source=
      .ok ((sampleTime server source).getD lastSampleTime) := by
  rw [fits] at h
  rw [sourceStep,sampleTime]
  cases hserver : isServer server source with
  | false => rfl
  | true =>
    cases hrx : lastRx source with
    | ok n => rfl
    | error exception =>
      cases exception with
      | invalidArgument => rfl
      | outOfRange => simp [hrx,hserver] at h

/-- The sources move the time to that of their last sample. -/
theorem foldlM_sourceStep {sources : List Source} (h : sources.all (fits server)=true) :
    sources.foldlM (sourceStep server) lastSampleTime=
      .ok ((latest (sampleTime server) sources).getD lastSampleTime) := by
  induction sources using List.reverseRecOn with
  | nil => rfl
  | append_singleton sources source ih =>
    rw [List.all_append,Bool.and_eq_true] at h
    have hsource : fits server source=true := by simpa using h.2
    rw [List.foldlM_append,ih h.1,latest_concat]
    change (sourceStep server _ source >>= fun time => .ok time)=_
    rw [sourceStep_fits hsource]
    cases sampleTime server source with
    | none => rfl
    | some time => rfl

/-- The loop over the sources comes to its end exactly when they all fit. -/
theorem isOk_foldlM_sourceStep_iff (sources : List Source) :
    (∃ time,sources.foldlM (sourceStep server) lastSampleTime=.ok time) ↔
      sources.all (fits server)=true := by
  rw [List.all_eq_true]
  refine FallibleLoop.exists_ok_iff (fun time source => ?_) sources lastSampleTime
  rw [fits_iff]
  obtain ⟨hthrow,herror⟩|⟨hnot,-,hidle⟩|⟨hnot,-,hpass⟩ := sourceStep_cases server source
  · obtain ⟨exception,herror⟩ := herror time
    exact iff_of_false (fun ⟨after,hafter⟩ => by rw [herror] at hafter; cases hafter)
      (not_not_intro hthrow)
  · exact iff_of_true ⟨time,hidle time⟩ hnot
  · exact iff_of_true (hpass time) hnot

/-- What the kernel says is published without a failure. -/
theorem forEach_emit (sets : List GaugeSet) (time : Time) :
    forEach emit sets time=(⟨time,sets,.ok ()⟩ : Outcome Time GaugeSet StdException Unit) := by
  have hrun := forEach_apply (fun set => [set]) (s := time) fun (set : GaugeSet) (_ : set∈sets) =>
    (rfl : (emit set : Program Time GaugeSet StdException Unit) time=⟨time,[set],.ok ()⟩)
  rwa [List.flatMap_singleton'] at hrun

end Calls

/-- The sources that are looked at do not end the agent. -/
def Reads (call : Call) : Prop :=
  canExecute call.environment "chronyc".toList=true →
    ∀ source∈call.sources,¬OutOfRange (currentServer call.tracking) source

/-- What is set of the kernel's answer: nothing if it could not be asked, and
the error, in seconds, only of a clock that is synchronized. -/
def kernelSets (call : Call) : List GaugeSet :=
  if call.adjtime= -1 then []
  else if call.adjtime=5 then [.unsynchronized 1]
  else [.unsynchronized 0,.estimatedError (call.esterror/1000000)]

/-- What a call publishes when the time of the last sample is then this one: its
age in seconds, if there is chronyc, and what the kernel says. -/
def published (call : Call) (lastSampleTime : Time) : List GaugeSet :=
  (if canExecute call.environment "chronyc".toList then
    [.lastSampleAge (((call.now-lastSampleTime : ℤ) : ℚ)/1000000000)] else [])++kernelSets call

theorem ntpStats_eq (call : Call) : ntpStats call.adjtime call.esterror=kernelSets call := by
  rw [ntpStats,kernelSets,timeError]
  by_cases hasked : call.adjtime= -1
  · rw [if_pos hasked,if_pos hasked]
  by_cases herror : call.adjtime=5
  · rw [if_neg hasked,if_neg hasked,if_pos herror,if_pos herror,if_neg (not_not_intro herror)]
  · rw [if_neg hasked,if_neg hasked,if_neg herror,if_neg herror,if_pos herror]

/-- A call returns and moves the time to that of its sample, or ends the agent. -/
theorem collect_cases (call : Call) (lastSampleTime : Time) :
    Reads call ∧ collect call lastSampleTime=
        ⟨(sample call).getD lastSampleTime,
          published call ((sample call).getD lastSampleTime),.ok ()⟩ ∨
      ¬Reads call ∧ sample call=none ∧ ∃ exception,
        collect call lastSampleTime=⟨lastSampleTime,[],.error exception⟩ := by
  by_cases hexecute : canExecute call.environment "chronyc".toList=true
  swap
  · have hsample : sample call=none := if_neg fun h => hexecute (Bool.and_eq_true _ _ ▸ h).1
    refine .inl ⟨fun h => absurd h hexecute,?_⟩
    rw [collect,bind_apply,chrony,if_neg hexecute,pure_apply,andThen_ok,forEach_emit,hsample,
      published,if_neg hexecute,ntpStats_eq]
    rfl
  by_cases hall : call.sources.all (fits (currentServer call.tracking))=true
  · have hsample : sample call=
        latest (sampleTime (currentServer call.tracking)) call.sources :=
      if_pos (by rw [hexecute,hall]; rfl)
    refine .inl ⟨fun _ source hsource =>
      (fits_iff source).mp (List.all_eq_true.mp hall source hsource),?_⟩
    have hchrony : chrony call lastSampleTime=⟨(sample call).getD lastSampleTime,
        [.lastSampleAge (toDoubleSeconds (call.now-(sample call).getD lastSampleTime))],
          .ok ()⟩ := by
      rw [chrony,if_pos hexecute,bind_apply,getState_apply,andThen_ok,bind_apply,lift_apply,
        chronyStats,foldlM_sourceStep hall,hsample]
      rfl
    rw [collect,bind_apply,hchrony,andThen_ok,forEach_emit,ntpStats_eq,published,if_pos hexecute]
    rfl
  · have hloop : ∃ exception,call.sources.foldlM (sourceStep (currentServer call.tracking))
        lastSampleTime=.error exception := by
      cases hrun : call.sources.foldlM (sourceStep (currentServer call.tracking))
          lastSampleTime with
      | error exception => exact ⟨exception,rfl⟩
      | ok time => exact absurd ((isOk_foldlM_sourceStep_iff call.sources).mp ⟨time,hrun⟩) hall
    obtain ⟨exception,hloop⟩ := hloop
    refine .inr ⟨fun h => hall (List.all_eq_true.mpr fun source hsource =>
      (fits_iff source).mpr (h hexecute source hsource)),?_,exception,?_⟩
    · exact if_neg fun h => hall (Bool.and_eq_true _ _ ▸ h).2
    · rw [collect,bind_apply,chrony,if_pos hexecute,bind_apply,getState_apply,andThen_ok,
        bind_apply,lift_apply,chronyStats,hloop]
      rfl

/-- In every run the time is that of the latest call that has taken a sample, or
that of the construction, and the age published is the age of this time. A call
returns exactly when every number of the tracked server fits. -/
theorem samples_every_run (start : Time) (history : List Call) (call : Call) :
    let before := (latest sample history).getD start
    let after := (latest sample (history++[call])).getD start
    runState step start history=before ∧
      (Returns (collect call) before ↔ Reads call) ∧
      (Returns (collect call) before →
        collect call before=⟨after,published call after,.ok ()⟩) := by
  intro before after
  have hstep : ∀ time call,some (step time call).1=(sample call).or (some time) := by
    intro time call
    rw [step]
    obtain ⟨-,hrun⟩|⟨-,hsample,exception,hrun⟩ := collect_cases call time
    · rw [hrun]
      cases sample call with
      | none => rfl
      | some taken => rfl
    · rw [hrun,hsample]
      rfl
  have hbefore := baseline_every_run some sample hstep start history
  have hstate : runState step start history=before := by
    rw [show before=(latest sample history).getD start from rfl]
    cases hlatest : latest sample history with
    | none => rw [hlatest] at hbefore; exact Option.some.inj hbefore
    | some taken => rw [hlatest] at hbefore; exact Option.some.inj hbefore
  have hafter : (sample call).getD before=after := by
    rw [show after=(latest sample (history++[call])).getD start from rfl,latest_concat]
    cases sample call with
    | none => rfl
    | some taken => rfl
  refine ⟨hstate,?_⟩
  obtain ⟨hreads,hrun⟩|⟨hreads,-,exception,hrun⟩ := collect_cases call before
  · rw [hafter] at hrun
    exact ⟨iff_of_true (by rw [Returns,hrun]; exact ⟨(),rfl⟩) hreads,fun _ => hrun⟩
  · have hnot : ¬Returns (collect call) before := by
      rw [Returns,hrun]
      rintro ⟨value,hvalue⟩
      cases hvalue
    exact ⟨iff_of_false hnot hreads,fun h => absurd h hnot⟩

/-- A sample of the tracked server that is five seconds old, besides a source
that claims one of the future. -/
def sampledCall : Call where
  environment := ⟨some "/usr/bin".toList,fun _ => true⟩
  tracking := "R,srv".toList
  sources := [⟨"^,+,other,1,6,377,-9,0".toList,10000000000⟩,
    ⟨"^,*,srv,1,6,377,5,0".toList,10000000000⟩]
  now := 10000000000
  adjtime := 0
  esterror := 16

/-- Two seconds later chronyc does not answer, and the clock is not synchronized. -/
def silentCall : Call :=
  ⟨⟨some "/usr/bin".toList,fun _ => true⟩,[],[],12000000000,5,16⟩

/-- The second of two calls that find chronyc keeps the time that the first one
has taken. -/
theorem samples_silentCall :
    runState step 0 [sampledCall]=5000000000 ∧
      (collect sampledCall 0).outputs=
        [.lastSampleAge 5,.unsynchronized 0,.estimatedError (16/1000000)] ∧
      collect silentCall 5000000000=
        ⟨5000000000,[.lastSampleAge 7,.unsynchronized 1],.ok ()⟩ := by
  have hreads : Reads silentCall := fun _ source hsource => by cases hsource
  have hbefore : (latest sample [sampledCall]).getD 0=5000000000 := by decide +kernel
  have hafter : (latest sample ([sampledCall]++[silentCall])).getD 0=5000000000 := by
    decide +kernel
  have hpublished : published silentCall 5000000000=[.lastSampleAge 7,.unsynchronized 1] := by
    decide +kernel
  have hrun := samples_every_run 0 [sampledCall] silentCall
  dsimp only at hrun
  rw [hbefore,hafter,hpublished] at hrun
  obtain ⟨hstate,hreturns,hsilent⟩ := hrun
  exact ⟨hstate,by decide +kernel,hsilent (hreturns.mpr hreads)⟩

/-- What the clock shows during a call. -/
def readings (call : Call) : List Time := call.sources.map Source.now++[call.now]

/-- The tracked server has its last sample in the past; what other sources have
does not matter. -/
def InPast (call : Call) : Prop :=
  ∀ source∈call.sources,isServer (currentServer call.tracking) source=true →
    ∀ n,lastRx source=.ok n → 0 ≤ n

/-- A sample in the past is not later than a source of its call was looked at. -/
theorem sample_le {call : Call} (h : InPast call) {time : Time} (htime : sample call=some time) :
    ∃ source∈call.sources,time ≤ source.now := by
  have hlatest : latest (sampleTime (currentServer call.tracking)) call.sources=some time := by
    rw [sample] at htime
    split at htime
    · exact htime
    · cases htime
  obtain ⟨before,source,after,hsources,htaken,-⟩ := latest_eq_some_iff.mp hlatest
  have hsource : source∈call.sources := by
    rw [hsources]
    exact List.mem_append_right before List.mem_cons_self
  refine ⟨source,hsource,?_⟩
  rw [sampleTime] at htaken
  split at htaken
  · rename_i hserver
    split at htaken
    · rename_i n hrx
      have hn := h source hsource hserver n hrx
      rw [←Option.some.inj htaken,seconds]
      exact sub_le_self source.now (by positivity)
    · cases htaken
  · cases htaken

/-- The time that a call leaves is not later than its end and what follows. -/
theorem after_le {start : Time} {call : Call} {later : List Time}
    (hclock : (start::(readings call++later)).Pairwise (· ≤ ·)) (hpast : InPast call) :
    ∀ time∈call.now::later,(sample call).getD start ≤ time := by
  obtain ⟨hstart,hrest⟩ := List.pairwise_cons.mp hclock
  rw [readings,List.append_assoc,List.singleton_append] at hstart hrest
  obtain ⟨-,-,hsources⟩ := List.pairwise_append.mp hrest
  intro time htime
  cases hsample : sample call with
  | none => exact hstart time (List.mem_append_right _ htime)
  | some taken =>
    obtain ⟨source,hsource,hle⟩ := sample_le hpast hsample
    exact hle.trans (hsources source.now (List.mem_map_of_mem hsource) time htime)

/-- The only age that a call publishes. -/
theorem age_of_mem_published {call : Call} {time : Time} {age : ℚ}
    (h : .lastSampleAge age∈published call time) :
    age=((call.now-time : ℤ) : ℚ)/1000000000 := by
  have hkernel : .lastSampleAge age∉kernelSets call := by
    rw [kernelSets]
    split_ifs
    · simp
    · simp
    · simp
  rcases List.mem_append.mp h with h|h
  · split at h
    · exact GaugeSet.lastSampleAge.inj (List.mem_singleton.mp h)
    · cases h
  · exact absurd h hkernel

/-- With a clock that never goes back and samples in the past, no age that is
published in a run is negative. -/
theorem age_every_run {start : Time} {history : List Call}
    (hclock : (start::history.flatMap readings).Pairwise (· ≤ ·))
    (hpast : ∀ call∈history,InPast call) :
    ∀ age,.lastSampleAge age∈runOutput step start history → 0 ≤ age := by
  intro age hage
  -- the kept time is never later than a reading that is still to come
  induction history generalizing start with
  | nil => cases hage
  | cons call history ih =>
    obtain ⟨hcall,hhistory⟩ := List.forall_mem_cons.mp hpast
    rw [List.flatMap_cons] at hclock
    have hle := after_le hclock hcall
    have hlater := (List.pairwise_append.mp (List.pairwise_cons.mp hclock).2).2.1
    rw [runOutput_cons,step] at hage
    obtain ⟨-,hrun⟩|⟨-,-,exception,hrun⟩ := collect_cases call start
    · rw [hrun] at hage
      rcases List.mem_append.mp hage with hage|hage
      · have hnow := hle call.now List.mem_cons_self
        rw [age_of_mem_published hage]
        have hnonneg : (0 : ℚ) ≤ ((call.now-(sample call).getD start : ℤ) : ℚ) := by
          exact_mod_cast sub_nonneg.mpr hnow
        positivity
      · exact ih (List.pairwise_cons.mpr ⟨fun time htime => hle time (List.mem_cons_of_mem _ htime),
          hlater⟩) hhistory hage
    · rw [hrun] at hage
      have hstart := (List.pairwise_cons.mp hclock).1
      have hstart' := fun time htime => hstart time (List.mem_append_right _ htime)
      exact ih (List.pairwise_cons.mpr ⟨hstart',hlater⟩) hhistory hage

/-- A sample that was five seconds old is seven seconds old two seconds later,
when chronyc does not answer. -/
theorem age_afterSilence :
    .lastSampleAge 7∈runOutput step 0 [sampledCall,silentCall] ∧ (0 : ℚ) ≤ 7 := by
  have hmem : .lastSampleAge 7∈runOutput step 0 [sampledCall,silentCall] := by decide +kernel
  have hservers : ∀ source∈sampledCall.sources,
      isServer (currentServer sampledCall.tracking) source=true → lastRx source=.ok 5 := by
    simp only [sampledCall,List.forall_mem_cons]
    exact ⟨fun h => absurd h (by decide),fun _ => rfl,List.forall_mem_nil _⟩
  refine ⟨hmem,age_every_run (by decide)
    (List.forall_mem_cons.mpr ⟨?_,List.forall_mem_singleton.mpr ?_⟩) 7 hmem⟩
  · intro source hsource hserver n hrx
    rw [hservers source hsource hserver] at hrx
    cases hrx
    decide
  · exact fun source hsource => by cases hsource

end AtlasAgent.NtpSamples
