import AtlasAgent.RunHistory

/-!
# What an observer sees of a run

An observer reads a part of the state and picks some of the outputs. When every
step is, for the observer, one of a smaller component that has nothing else,
then every run is. Two components that project onto the same one have the same
runs for the observer, whatever else they do.
-/

namespace AtlasAgent.RunProjections

open RunHistory

variable {σ σ' ι ι' ο ο' : Type*}

/-- Every step of the component is, for the observer, a step of the smaller one. -/
structure Projects (step : σ → ι → σ×List ο) (step' : σ' → ι' → σ'×List ο')
    (part : σ → σ') (input : ι → ι') (pick : ο → Option ο') : Prop where
  state : ∀ s i, part (step s i).1=(step' (part s) (input i)).1
  outputs : ∀ s i, (step s i).2.filterMap pick=(step' (part s) (input i)).2

variable {step : σ → ι → σ×List ο} {step' : σ' → ι' → σ'×List ο'} {part : σ → σ'}
  {input : ι → ι'} {pick : ο → Option ο'}

/-- The part of the state after a run is the state of the smaller component. -/
theorem Projects.runState (h : Projects step step' part input pick) (s : σ) (history : List ι) :
    part (runState step s history)=runState step' (part s) (history.map input) := by
  induction history generalizing s with
  | nil => rfl
  | cons first history ih => rw [runState_cons,ih,h.state,List.map_cons,runState_cons]

/-- The picked outputs of a run are the outputs of the smaller component. -/
theorem Projects.runOutput (h : Projects step step' part input pick) (s : σ)
    (history : List ι) :
    (runOutput step s history).filterMap pick=
      runOutput step' (part s) (history.map input) := by
  induction history generalizing s with
  | nil => rfl
  | cons first history ih =>
    rw [runOutput_cons,List.filterMap_append,ih,h.state,h.outputs,List.map_cons,runOutput_cons]

/-- The same for the outputs of one input. -/
theorem Projects.outputAfter (h : Projects step step' part input pick) (s : σ)
    (history : List ι) (last : ι) :
    (outputAfter step s history last).filterMap pick=
      outputAfter step' (part s) (history.map input) (input last) := by
  unfold RunHistory.outputAfter
  rw [h.outputs,h.runState]

end AtlasAgent.RunProjections
