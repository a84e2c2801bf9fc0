import Mathlib.Data.Nat.Find
import Mathlib.Data.Nat.Init
import Mathlib.Logic.Relation
import Mathlib.Tactic.TypeStar

/-!
# Loops that may not end

A loop is a pass that leads from a state to another state or to a result. It
ends with a result when some number of passes reaches it. A loop whose passes
shrink some size ends from every state; what every pass keeps holds of the
result.
-/

namespace AtlasAgent.WhileLoop

variable {σ ρ : Type*} {pass : σ → σ⊕ρ}

/-- The result reached within a number of passes. -/
def runLoop (pass : σ → σ⊕ρ) : ℕ → σ → Option ρ
  | 0,_ => none
  | fuel+1,s =>
    match pass s with
    | .inl s' => runLoop pass fuel s'
    | .inr result => some result

/-- The loop ends with the result. -/
def Ends (pass : σ → σ⊕ρ) (s : σ) (result : ρ) : Prop := ∃ fuel,runLoop pass fuel s=some result

/-- More passes reach the same result. -/
theorem runLoop_mono {fuel more : ℕ} {s : σ} {result : ρ} (h : runLoop pass fuel s=some result)
    (hle : fuel ≤ more) : runLoop pass more s=some result := by
  induction fuel generalizing s more with
  | zero => cases h
  | succ fuel ih =>
    obtain ⟨more,rfl⟩ := Nat.exists_eq_add_of_le hle
    rw [Nat.add_right_comm]
    rw [runLoop] at h ⊢
    cases hpass : pass s with
    | inl s' =>
      rw [hpass] at h
      exact ih h (Nat.le_add_right fuel more)
    | inr found =>
      rw [hpass] at h
      exact h

/-- A pass that gives a result ends the loop. -/
theorem ends_of_result {s : σ} {result : ρ} (h : pass s=.inr result) : Ends pass s result :=
  ⟨1,by rw [runLoop,h]⟩

/-- A pass to another state leaves the rest of the loop to that state. -/
theorem ends_pass_iff {s s' : σ} {result : ρ} (h : pass s=.inl s') :
    Ends pass s result ↔ Ends pass s' result := by
  constructor
  · rintro ⟨fuel,hfuel⟩
    cases fuel with
    | zero => cases hfuel
    | succ fuel =>
      rw [runLoop,h] at hfuel
      exact ⟨fuel,hfuel⟩
  · rintro ⟨fuel,hfuel⟩
    exact ⟨fuel+1,by rw [runLoop,h]; exact hfuel⟩

/-- The loop ends from a state as it ends from every state it comes to. -/
theorem ends_reached_iff {s s' : σ} {result : ρ}
    (h : Relation.ReflTransGen (fun s s' => pass s=.inl s') s s') :
    Ends pass s result ↔ Ends pass s' result := by
  induction h with
  | refl => rfl
  | tail _ hpass ih => exact ih.trans (ends_pass_iff hpass)

/-- States with the same next pass end with the same results. -/
theorem ends_congr {s s' : σ} {result : ρ} (h : pass s=pass s') :
    Ends pass s result ↔ Ends pass s' result := by
  refine exists_congr fun fuel => ?_
  cases fuel with
  | zero => rfl
  | succ fuel => rw [runLoop,runLoop,h]

/-- What the loop ends with from a state that gives a result. -/
theorem ends_result_iff {s : σ} {result other : ρ} (h : pass s=.inr result) :
    Ends pass s other ↔ other=result := by
  constructor
  · rintro ⟨fuel,hfuel⟩
    cases fuel with
    | zero => cases hfuel
    | succ fuel =>
      rw [runLoop,h] at hfuel
      exact (Option.some.inj hfuel).symm
  · rintro rfl
    exact ends_of_result h

/-- The loop ends with one result only. -/
theorem Ends.unique {s : σ} {result other : ρ} (h : Ends pass s result) (h' : Ends pass s other) :
    result=other := by
  obtain ⟨fuel,hfuel⟩ := h
  induction fuel generalizing s with
  | zero => cases hfuel
  | succ fuel ih =>
    rw [runLoop] at hfuel
    cases hpass : pass s with
    | inl s' =>
      rw [hpass] at hfuel
      exact ih ((ends_pass_iff hpass).mp h') hfuel
    | inr found =>
      rw [hpass] at hfuel
      rw [(ends_result_iff hpass).mp h']
      exact (Option.some.inj hfuel).symm

section Numbered

variable {state : ℕ → σ} {stop : ℕ → Option ρ}

/-- A loop that never stops reaches nothing. -/
theorem runLoop_of_no_stop (hnext : ∀ i,stop i=none → pass (state i)=.inl (state (i+1)))
    (h : ∀ i,stop i=none) (fuel i : ℕ) : runLoop pass fuel (state i)=none := by
  induction fuel generalizing i with
  | zero => rfl
  | succ fuel ih =>
    rw [runLoop,hnext i (h i)]
    exact ih (i+1)

/-- A loop through numbered states ends with what the first number that stops
it gives. -/
theorem ends_numbered_iff (hnext : ∀ i,stop i=none → pass (state i)=.inl (state (i+1)))
    (hstop : ∀ i result,stop i=some result → pass (state i)=.inr result) (result : ρ) :
    Ends pass (state 0) result ↔ ∃ n,(∀ i,i < n → stop i=none) ∧ stop n=some result := by
  classical
  have hreach : ∀ n,(∀ i,i < n → stop i=none) →
      (Ends pass (state 0) result ↔ Ends pass (state n) result) := by
    intro n hbefore
    induction n with
    | zero => rfl
    | succ n ih =>
      rw [ih fun i hi => hbefore i (Nat.lt_succ_of_lt hi),
        ends_pass_iff (hnext n (hbefore n n.lt_succ_self))]
  constructor
  · intro hends
    by_cases h : ∃ n,stop n≠none
    · have hbefore : ∀ i,i < Nat.find h → stop i=none := fun i hi =>
        not_not.mp (Nat.find_min h hi)
      obtain ⟨found,hfound⟩ := Option.ne_none_iff_exists'.mp (Nat.find_spec h)
      rw [hreach _ hbefore,ends_result_iff (hstop _ found hfound)] at hends
      exact ⟨Nat.find h,hbefore,hends ▸ hfound⟩
    · obtain ⟨fuel,hfuel⟩ := hends
      rw [runLoop_of_no_stop hnext fun i => not_not.mp (not_exists.mp h i)] at hfuel
      cases hfuel
  · rintro ⟨n,hbefore,hresult⟩
    exact (hreach n hbefore).mpr (ends_of_result (hstop n result hresult))

end Numbered

/-- A loop whose passes keep an invariant and shrink a size ends, with a result
that the last pass gives from a state of the invariant. -/
theorem ends_of_size {Inv : σ → Prop} {Post : ρ → Prop} (size : σ → ℕ)
    (hpass : ∀ s s',Inv s → pass s=.inl s' → Inv s' ∧ size s' < size s)
    (hresult : ∀ s result,Inv s → pass s=.inr result → Post result) {s : σ} (hs : Inv s) :
    ∃ result,Ends pass s result ∧ Post result := by
  generalize hsize : size s=n
  induction n using Nat.strongRecOn generalizing s with
  | ind n ih =>
    cases h : pass s with
    | inl s' =>
      obtain ⟨hinv,hless⟩ := hpass s s' hs h
      obtain ⟨result,hends,hpost⟩ := ih (size s') (hsize ▸ hless) hinv rfl
      exact ⟨result,(ends_pass_iff h).mpr hends,hpost⟩
    | inr result => exact ⟨result,ends_of_result h,hresult s result hs h⟩

end AtlasAgent.WhileLoop
