import Mathlib.Data.List.Basic
import Mathlib.Tactic.TypeStar

/-!
# Loops that an item can end with an error

A loop passes a state from item to item; an item may throw. Where no item
throws, the items that leave every state as it is can be left out.
-/

namespace AtlasAgent.FallibleLoop

variable {σ ι ε : Type*}

/-- The loop comes to its end, and to the same one without the items that are
not kept. -/
def Undisturbed (step : σ → ι → Except ε σ) (keep : ι → Bool) (items : List ι) (s : σ) : Prop :=
  ∃ s',items.foldlM step s=.ok s' ∧ (items.filter keep).foldlM step s=.ok s'

/-- What an item is to a loop: one that throws, one that is not kept and does
nothing, or one that is kept. -/
def Outcome (step : σ → ι → Except ε σ) (keep : ι → Bool) (Throws : ι → Prop) (item : ι) : Prop :=
  (Throws item ∧ ∀ s,∃ exception,step s item=.error exception) ∨
  (¬Throws item ∧ keep item=false ∧ ∀ s,step s item=.ok s) ∨
  (¬Throws item ∧ keep item=true ∧ ∀ s,∃ s',step s item=.ok s')

variable {step : σ → ι → Except ε σ} {keep : ι → Bool}

/-- A loop is undisturbed exactly when none of its items throws. -/
theorem undisturbed_iff {Throws : ι → Prop} (hcases : ∀ item,Outcome step keep Throws item)
    (items : List ι) (s : σ) :
    Undisturbed step keep items s ↔ ∀ item∈items,¬Throws item := by
  constructor
  · rintro ⟨s',hloop,-⟩ item hitem hthrow
    obtain ⟨-,herror⟩|⟨hnot,-⟩|⟨hnot,-⟩ := hcases item
    · obtain ⟨before,after,rfl⟩ := List.append_of_mem hitem
      rw [List.foldlM_append] at hloop
      cases hbefore : before.foldlM step s with
      | error exception =>
        rw [hbefore] at hloop
        cases hloop
      | ok middle =>
        obtain ⟨exception,herror⟩ := herror middle
        rw [hbefore] at hloop
        change (step middle item >>= fun s => after.foldlM step s)=_ at hloop
        rw [herror] at hloop
        cases hloop
    · exact hnot hthrow
    · exact hnot hthrow
  · intro h
    induction items generalizing s with
    | nil => exact ⟨s,rfl,rfl⟩
    | cons item items ih =>
      obtain ⟨hitem,hrest⟩ := List.forall_mem_cons.mp h
      obtain ⟨hthrow,-⟩|⟨-,hkeep,hidle⟩|⟨-,hkeep,hpass⟩ := hcases item
      · exact absurd hthrow hitem
      · obtain ⟨s',hloop,hfilter⟩ := ih s hrest
        refine ⟨s',?_,by rwa [List.filter_cons_of_neg (by simp [hkeep])]⟩
        rw [List.foldlM_cons,hidle]
        exact hloop
      · obtain ⟨middle,hstep⟩ := hpass s
        obtain ⟨s',hloop,hfilter⟩ := ih middle hrest
        refine ⟨s',?_,?_⟩
        · rw [List.foldlM_cons,hstep]
          exact hloop
        · rw [List.filter_cons_of_pos hkeep,List.foldlM_cons,hstep]
          exact hfilter

/-- A loop comes to its end exactly when each item lets it, if that does not
depend on the state. -/
theorem exists_ok_iff {Passes : ι → Prop} (h : ∀ s item,(∃ s',step s item=.ok s') ↔ Passes item)
    (items : List ι) (s : σ) :
    (∃ s',items.foldlM step s=.ok s') ↔ ∀ item∈items,Passes item := by
  induction items generalizing s with
  | nil => exact iff_of_true ⟨s,rfl⟩ fun item hitem => by cases hitem
  | cons item items ih =>
    have hitem := h s item
    rw [List.foldlM_cons,List.forall_mem_cons,←hitem]
    cases hstep : step s item with
    | error exception =>
      refine iff_of_false ?_ ?_
      · rintro ⟨s',hs'⟩
        cases hs'
      · rintro ⟨⟨s',hs'⟩,-⟩
        cases hs'
    | ok middle =>
      have hmiddle : ∃ s',(Except.ok middle : Except ε σ)=.ok s' := ⟨middle,rfl⟩
      exact (ih middle).trans (and_iff_right hmiddle).symm

/-- Two computations return the same exactly when what is made of their results
is the same, if that tells the results apart. -/
theorem exists_ok_map_iff {α β : Type*} {f : α → β} (hf : Function.Injective f)
    (x y : Except ε α) :
    (∃ result,x.map f=.ok result ∧ y.map f=.ok result) ↔
      ∃ result,x=.ok result ∧ y=.ok result := by
  constructor
  · rintro ⟨result,hx,hy⟩
    cases x with
    | error exception => cases hx
    | ok a =>
      cases y with
      | error exception => cases hy
      | ok b =>
        cases hx
        exact ⟨a,rfl,congrArg Except.ok (hf (Except.ok.inj hy))⟩
  · rintro ⟨result,rfl,rfl⟩
    exact ⟨f result,rfl,rfl⟩

end AtlasAgent.FallibleLoop
