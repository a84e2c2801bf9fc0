import AtlasAgent.HandleLedger
import Mathlib.Logic.Function.Basic

/-!
# Objects that own handles

Each object holds at most one handle. What is open and what is held are the
same as long as an opened handle is taken by an object without one, a closed
handle is one that its object gives up, and a handle that changes hands is
held by one object before and by one after.
-/

namespace AtlasAgent.OwnedHandles

open RunHistory HandleLedger

variable {ν η : Type*}

/-- The open handles are those that the objects hold, each held by one object. -/
structure Owned (holds : ν → Option η) (handles : Multiset η) : Prop where
  nodup : handles.Nodup
  mem_iff : ∀ handle,handle∈handles ↔ ∃ object,holds object=some handle
  unique : ∀ {object other handle},
    holds object=some handle → holds other=some handle → object=other

variable {holds : ν → Option η} {handles : Multiset η}

/-- Without objects nothing is open. -/
theorem owned_none : Owned (fun _ : ν => (none : Option η)) 0 where
  nodup := Multiset.nodup_zero
  mem_iff := by simp
  unique := by simp

/-- Events of a step keep the two sides in agreement when what the objects hold
afterwards is what the events leave open. -/
def Follows [DecidableEq η] (holds after : ν → Option η) (events : List (HandleEvent η)) : Prop :=
  ∀ handles,Owned holds handles → Meets ledgerStep OpensFresh handles events →
    Meets ledgerStep ClosesOpen handles events ∧
      Owned after (runState ledgerStep handles events)

section Follows

variable [DecidableEq η]

/-- Nothing happens to the handles. -/
theorem follows_nil : Follows holds holds [] := fun _ h _ => ⟨trivial,h⟩

/-- Events in sequence. -/
theorem Follows.append {between after : ν → Option η} {first second : List (HandleEvent η)}
    (hfirst : Follows holds between first) (hsecond : Follows between after second) :
    Follows holds after (first++second) := by
  intro handles h hfresh
  obtain ⟨hfresh1,hfresh2⟩ := (meets_append first second).mp hfresh
  obtain ⟨hcloses1,hbetween⟩ := hfirst handles h hfresh1
  obtain ⟨hcloses2,hafter⟩ := hsecond _ hbetween hfresh2
  rw [runState_append]
  exact ⟨(meets_append first second).mpr ⟨hcloses1,hcloses2⟩,hafter⟩

/-- Ownership over a run: when every allowed step's events follow what its
objects hold, a run closes only what is open, and leaves open what its objects
hold. -/
theorem owned_every_run {σ ι : Type*} {step : σ → ι → σ×List (HandleEvent η)} {s : σ}
    {Allowed : σ → ι → Prop} (holdsOf : σ → ν → Option η) {history : List ι}
    (hstep : ∀ s input,Allowed s input →
      Follows (holdsOf s) (holdsOf (step s input).1) (step s input).2)
    (hallowed : Meets step Allowed s history) :
    Follows (holdsOf s) (holdsOf (runState step s history)) (runOutput step s history) := by
  induction history generalizing s with
  | nil => exact follows_nil
  | cons input history ih =>
    exact (hstep s input hallowed.1).append (ih hallowed.2)

/-- A run that begins with nothing held. When nothing is held at its end, every
handle has been closed once for each time it was opened, before the next time. -/
theorem Follows.from_nothing {after : ν → Option η} {trace : List (HandleEvent η)}
    (h : Follows (fun _ : ν => none) after trace) (hfresh : Meets ledgerStep OpensFresh 0 trace) :
    Meets ledgerStep ClosesOpen 0 trace ∧ Owned after (openAfter trace) ∧
      ((∀ object,after object=none) → ∀ handle,
        ∃ count,trace.filter (fun event => event.handle=handle)=lifetimes handle count) := by
  obtain ⟨hcloses,howned⟩ := h 0 owned_none hfresh
  refine ⟨hcloses,howned,fun hnone => filter_handle_eq_lifetimes hfresh hcloses ?_⟩
  refine Multiset.eq_zero_of_forall_notMem fun handle hmem => ?_
  obtain ⟨object,hobject⟩ := (howned.mem_iff handle).mp hmem
  simp [hnone object] at hobject

end Follows

section Objects

variable [DecidableEq ν]

/-- A handle that an object without one takes. -/
theorem Owned.take (h : Owned holds handles) {object : ν} {handle : η} (hnone : holds object=none)
    (hfresh : handle∉handles) :
    Owned (Function.update holds object (some handle)) (handle ::ₘ handles) where
  nodup := Multiset.nodup_cons.mpr ⟨hfresh,h.nodup⟩
  mem_iff := by
    intro asked
    rw [Multiset.mem_cons,h.mem_iff]
    constructor
    · rintro (rfl|⟨other,hother⟩)
      · exact ⟨object,Function.update_self ..⟩
      · have hne : other≠object := by rintro rfl; simp [hnone] at hother
        exact ⟨other,by rw [Function.update_of_ne hne,hother]⟩
    · rintro ⟨other,hother⟩
      by_cases hne : other=object
      · rw [hne,Function.update_self,Option.some.injEq] at hother
        exact Or.inl hother.symm
      · rw [Function.update_of_ne hne] at hother
        exact Or.inr ⟨other,hother⟩
  unique := by
    intro first second asked hfirst hsecond
    -- a handle that is not open before is held by no other object
    have hnot : ∀ other,holds other≠some handle := fun other hother =>
      hfresh ((h.mem_iff handle).mpr ⟨other,hother⟩)
    by_cases hone : first=object <;> by_cases htwo : second=object
    · rw [hone,htwo]
    · rw [hone,Function.update_self,Option.some.injEq] at hfirst
      rw [Function.update_of_ne htwo,←hfirst] at hsecond
      exact absurd hsecond (hnot second)
    · rw [htwo,Function.update_self,Option.some.injEq] at hsecond
      rw [Function.update_of_ne hone,←hsecond] at hfirst
      exact absurd hfirst (hnot first)
    · rw [Function.update_of_ne hone] at hfirst
      rw [Function.update_of_ne htwo] at hsecond
      exact h.unique hfirst hsecond

/-- A handle that its object gives up. -/
theorem Owned.giveUp [DecidableEq η] (h : Owned holds handles) {object : ν} {handle : η}
    (hhandle : holds object=some handle) :
    Owned (Function.update holds object none) (handles.erase handle) where
  nodup := h.nodup.erase handle
  mem_iff := by
    intro asked
    rw [h.nodup.mem_erase_iff,h.mem_iff]
    constructor
    · rintro ⟨hne,other,hother⟩
      have hobject : other≠object := by
        rintro rfl
        exact hne (Option.some.inj (hother.symm.trans hhandle))
      exact ⟨other,by rw [Function.update_of_ne hobject,hother]⟩
    · rintro ⟨other,hother⟩
      have hobject : other≠object := by rintro rfl; simp at hother
      rw [Function.update_of_ne hobject] at hother
      refine ⟨?_,other,hother⟩
      rintro rfl
      exact hobject (h.unique hother hhandle)
  unique := by
    intro first second asked hfirst hsecond
    have hone : first≠object := by rintro rfl; simp at hfirst
    have htwo : second≠object := by rintro rfl; simp at hsecond
    rw [Function.update_of_ne hone] at hfirst
    rw [Function.update_of_ne htwo] at hsecond
    exact h.unique hfirst hsecond

/-- What one object holds goes to an object that holds nothing. -/
theorem Owned.pass (h : Owned holds handles) {source target : ν} (hne : target≠source)
    (hnone : holds target=none) :
    Owned (Function.update (Function.update holds source none) target (holds source)) handles where
  nodup := h.nodup
  mem_iff := by
    intro asked
    rw [h.mem_iff]
    constructor
    · rintro ⟨other,hother⟩
      by_cases hsource : other=source
      · exact ⟨target,by rw [Function.update_self,←hsource,hother]⟩
      · have htarget : other≠target := by rintro rfl; simp [hnone] at hother
        exact ⟨other,by rw [Function.update_of_ne htarget,Function.update_of_ne hsource,hother]⟩
    · rintro ⟨other,hother⟩
      by_cases htarget : other=target
      · rw [htarget,Function.update_self] at hother
        exact ⟨source,hother⟩
      · have hsource : other≠source := by
          rintro rfl
          simp [Function.update_of_ne htarget] at hother
        rw [Function.update_of_ne htarget,Function.update_of_ne hsource] at hother
        exact ⟨other,hother⟩
  unique := by
    -- every holder afterwards stands for the one that held the handle before
    have hback : ∀ other handle,
        Function.update (Function.update holds source none) target (holds source) other=
          some handle → holds (if other=target then source else other)=some handle ∧
            other≠source := by
      intro other handle hother
      by_cases htarget : other=target
      · rw [htarget,Function.update_self] at hother
        rw [if_pos htarget]
        exact ⟨hother,htarget ▸ hne⟩
      · have hsource : other≠source := by
          rintro rfl
          simp [Function.update_of_ne htarget] at hother
        rw [Function.update_of_ne htarget,Function.update_of_ne hsource] at hother
        rw [if_neg htarget]
        exact ⟨hother,hsource⟩
    intro first second asked hfirst hsecond
    obtain ⟨hone,hfirst'⟩ := hback first asked hfirst
    obtain ⟨htwo,hsecond'⟩ := hback second asked hsecond
    have hsame := h.unique hone htwo
    split at hsame <;> split at hsame
    · simp [*]
    · exact absurd hsame.symm hsecond'
    · exact absurd hsame hfirst'
    · exact hsame

/-- What is opened for an object without a handle. -/
theorem follows_opened [DecidableEq η] {object : ν} (hnone : holds object=none)
    (result : Option η) :
    Follows holds (Function.update holds object result) (result.toList.map .opened) := by
  cases result with
  | none =>
    rw [Function.update_eq_iff.mpr ⟨hnone.symm,fun _ _ => rfl⟩]
    exact follows_nil
  | some handle => exact fun _ h hfresh => ⟨⟨trivial,trivial⟩,h.take hnone hfresh.1⟩

/-- What an object holds is closed. -/
theorem follows_closed [DecidableEq η] (holds : ν → Option η) (object : ν) :
    Follows holds (Function.update holds object none) ((holds object).toList.map .closed) := by
  cases hhandle : holds object with
  | none =>
    rw [Function.update_eq_iff.mpr ⟨hhandle.symm,fun _ _ => rfl⟩]
    exact follows_nil
  | some handle =>
    exact fun _ h _ => ⟨⟨(h.mem_iff handle).mpr ⟨object,hhandle⟩,trivial⟩,h.giveUp hhandle⟩

/-- What an object holds is replaced, the old handle closed first. -/
theorem follows_replaced [DecidableEq η] (holds : ν → Option η) (object : ν)
    (result : Option η) :
    Follows holds (Function.update holds object result)
      ((holds object).toList.map .closed++result.toList.map .opened) := by
  have hnew := follows_opened (Function.update_self object none holds) result
  rw [Function.update_idem] at hnew
  exact (follows_closed holds object).append hnew

/-- What an object holds goes to one without a handle. -/
theorem follows_pass [DecidableEq η] {source target : ν} (hne : target≠source)
    (hnone : holds target=none) :
    Follows holds
      (Function.update (Function.update holds source none) target (holds source)) [] :=
  fun _ h _ => ⟨trivial,h.pass hne hnone⟩

end Objects

end AtlasAgent.OwnedHandles
