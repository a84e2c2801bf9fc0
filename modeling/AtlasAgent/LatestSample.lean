import AtlasAgent.RunHistory
import Mathlib.Data.List.Induction

/-!
# The latest sample of a history

Many components keep a baseline: the last value they managed to read. Here
the specification side of that idea is a function of the whole history, and
one rule turns a one-step fact about a stored baseline into the statement
that the baseline is the latest sample after any run.
-/

namespace AtlasAgent.LatestSample

open RunHistory

variable {σ ι ο α : Type*}

/-- The sample of the latest input that has one. -/
def latest (sample : ι → Option α) (history : List ι) : Option α :=
  (history.filterMap sample).getLast?

@[simp] theorem latest_nil (sample : ι → Option α) : latest sample []=none := rfl

/-- A new sample replaces the latest one; an input without a sample keeps it. -/
theorem latest_concat (sample : ι → Option α) (history : List ι) (input : ι) :
    latest sample (history++[input])=(sample input).or (latest sample history) := by
  unfold latest
  cases hs : sample input with
  | none => simp [List.filterMap_append,hs]
  | some a => simp [List.filterMap_append,hs]

/-- The latest sample is the sample of an input after which none has one. -/
theorem latest_eq_some_iff {sample : ι → Option α} {history : List ι} {a : α} :
    latest sample history=some a ↔ ∃ before input after, history=before++input::after ∧
      sample input=some a ∧ ∀ later∈after,sample later=none := by
  induction history using List.reverseRecOn with
  | nil => simp
  | append_singleton history last ih =>
    rw [latest_concat]
    constructor
    · intro h
      cases hs : sample last with
      | some b =>
        rw [hs,Option.some_or,Option.some.injEq] at h
        subst h
        exact ⟨history,last,[],rfl,hs,by simp⟩
      | none =>
        rw [hs,Option.none_or] at h
        obtain ⟨before,input,after,rfl,ha,hnone⟩ := ih.mp h
        refine ⟨before,input,after++[last],by simp,ha,fun later hl => ?_⟩
        rcases List.mem_append.mp hl with hl|hl
        · exact hnone later hl
        · rw [List.mem_singleton.mp hl,hs]
    · rintro ⟨before,input,after,hsplit,ha,hnone⟩
      rcases List.eq_nil_or_concat after with rfl|⟨after,final,rfl⟩
      · obtain ⟨-,hlast⟩ := List.append_inj' hsplit rfl
        rw [List.cons.inj hlast |>.1,ha,Option.some_or]
      · have hshape : history++[last]=(before++input::after)++[final] := by
          rw [hsplit]; simp
        obtain ⟨rfl,hlast⟩ := List.append_inj' hshape rfl
        have hfinal : sample last=none := by
          rw [(List.cons.inj hlast).1]
          exact hnone final (by simp)
        rw [hfinal,Option.none_or]
        exact ih.mpr ⟨before,input,after,rfl,ha,fun later hl => hnone later (by simp [hl])⟩

/-- No latest sample means that no input of the history had one. -/
theorem latest_eq_none_iff {sample : ι → Option α} {history : List ι} :
    latest sample history=none ↔ ∀ input∈history,sample input=none := by
  simp [latest]

/-- Only the samples matter: renaming the inputs through their samples does not
change which one is the latest. -/
theorem latest_congr {κ : Type*} {sample : ι → Option α} {sample' : κ → Option α}
    {history : List ι} {history' : List κ}
    (h : history.map sample=history'.map sample') :
    latest sample history=latest sample' history' := by
  have hs : history.filterMap sample=(history.map sample).filterMap id := by
    rw [List.filterMap_map]; rfl
  have hs' : history'.filterMap sample'=(history'.map sample').filterMap id := by
    rw [List.filterMap_map]; rfl
  rw [latest,latest,hs,hs',h]

/-- What is read off a sample is read off the latest one. -/
theorem latest_map {β : Type*} (f : α → β) (sample : ι → Option α) (history : List ι) :
    latest (fun input => (sample input).map f) history=(latest sample history).map f := by
  rw [latest,latest,←List.map_filterMap,List.getLast?_map]

/-- Baseline rule: a stored value that every step replaces by its sample, or
keeps when there is none, is the latest sample after the run, or the value it
started from when the run had no sample. -/
theorem baseline_every_run {step : σ → ι → σ×List ο} (baseline : σ → Option α)
    (sample : ι → Option α)
    (hstep : ∀ s input, baseline (step s input).1=(sample input).or (baseline s))
    (s : σ) (history : List ι) :
    baseline (runState step s history)=(latest sample history).or (baseline s) := by
  induction history using List.reverseRecOn with
  | nil => rfl
  | append_singleton history input ih =>
    rw [runState_concat,latest_concat,hstep,ih,Option.or_assoc]

/-- First sample rule: a stored value that is kept once it is there, and until
then replaced by the sample of a step, is the first sample of the run, or the
value it started from. -/
theorem kept_every_run {step : σ → ι → σ×List ο} (kept : σ → Option α) (sample : ι → Option α)
    (hstep : ∀ s input, kept (step s input).1=(kept s).or (sample input))
    (s : σ) (history : List ι) :
    kept (runState step s history)=(kept s).or (history.findSome? sample) := by
  induction history generalizing s with
  | nil => rw [runState_nil,List.findSome?_nil,Option.or_none]
  | cons input history ih =>
    rw [runState_cons,ih,hstep,Option.or_assoc,List.findSome?_cons]
    cases sample input with
    | none => rw [Option.none_or]
    | some a => rfl

end AtlasAgent.LatestSample
