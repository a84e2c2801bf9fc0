import AtlasAgent.RunHistory
import Mathlib.Data.Multiset.OrderedMonoid
import Mathlib.Algebra.Order.Sub.Basic

/-!
# Handles that are opened and closed

A trace of openings and closings and the handles it leaves open, each as often
as it has been opened and not closed. Who uses the handles owes it to close
only what is open. Who hands them out promises to open only what is not open;
then the events of a handle that is not left open are openings and closings in
turn.
-/

namespace AtlasAgent.HandleLedger

open RunHistory

variable {η : Type*}

/-- What happens to a handle. -/
inductive HandleEvent (η : Type*)
  | opened (handle : η)
  | closed (handle : η)
  deriving DecidableEq

/-- The handle of an event. -/
def HandleEvent.handle : HandleEvent η → η
  | .opened handle => handle
  | .closed handle => handle

/-- A number of openings of a handle, each followed by its closing. -/
def lifetimes (handle : η) (count : ℕ) : List (HandleEvent η) :=
  (List.replicate count [.opened handle,.closed handle]).flatten

theorem lifetimes_succ (handle : η) (count : ℕ) :
    lifetimes handle (count+1)=.opened handle::.closed handle::lifetimes handle count := rfl

variable [DecidableEq η]

/-- The handles that are open after one event. -/
def ledgerStep (handles : Multiset η) : HandleEvent η → Multiset η×List Empty
  | .opened handle => (handle ::ₘ handles,[])
  | .closed handle => (handles.erase handle,[])

/-- The handles that are open after a trace. -/
def openAfter (trace : List (HandleEvent η)) : Multiset η := runState ledgerStep 0 trace

/-- The event does not open a handle that is open. -/
def OpensFresh (handles : Multiset η) : HandleEvent η → Prop
  | .opened handle => handle∉handles
  | .closed _ => True

/-- The event does not close a handle that is not open. -/
def ClosesOpen (handles : Multiset η) : HandleEvent η → Prop
  | .opened _ => True
  | .closed handle => handle∈handles

instance (handles : Multiset η) : ∀ event,Decidable (OpensFresh handles event)
  | .opened handle => inferInstanceAs (Decidable (handle∉handles))
  | .closed _ => .isTrue trivial

/-- Openings add their handles to what is open. -/
theorem runState_opened (handles : Multiset η) (list : List η) :
    runState ledgerStep handles (list.map .opened)=handles+list := by
  induction list generalizing handles with
  | nil => exact (add_zero handles).symm
  | cons first list ih =>
    rw [List.map_cons,runState_cons,ih,ledgerStep,Multiset.cons_add,←Multiset.cons_coe,
      Multiset.add_cons]

theorem closesOpen_opened (handles : Multiset η) (list : List η) :
    Meets ledgerStep ClosesOpen handles (list.map .opened) := by
  induction list generalizing handles with
  | nil => trivial
  | cons first list ih => exact ⟨trivial,ih _⟩

/-- Closings take their handles from what is open. -/
theorem runState_closed (handles : Multiset η) (list : List η) :
    runState ledgerStep handles (list.map .closed)=handles-list := by
  induction list generalizing handles with
  | nil => exact (Multiset.sub_zero handles).symm
  | cons first list ih =>
    rw [List.map_cons,runState_cons,ih,ledgerStep,←Multiset.cons_coe,Multiset.sub_cons]

/-- Closing what is open, each handle as often as it is open, never closes
what is not. -/
theorem closesOpen_closed {handles : Multiset η} {list : List η}
    (hopen : (list : Multiset η)≤handles) :
    Meets ledgerStep ClosesOpen handles (list.map .closed) := by
  induction list generalizing handles with
  | nil => trivial
  | cons first list ih =>
    rw [←Multiset.cons_coe] at hopen
    obtain ⟨rest,rfl⟩ := Multiset.le_iff_exists_add.mp hopen
    rw [Multiset.cons_add]
    refine ⟨Multiset.mem_cons_self _ _,ih ?_⟩
    rw [ledgerStep,Multiset.erase_cons_head]
    exact Multiset.le_add_right _ _

/-- A trace that closes only what is open closes a handle as often as it opens
it, up to what is open before and after. -/
theorem count_opened_add {handles : Multiset η} {trace : List (HandleEvent η)}
    (hcloses : Meets ledgerStep ClosesOpen handles trace) (handle : η) :
    trace.count (.opened handle)+handles.count handle=
      trace.count (.closed handle)+(runState ledgerStep handles trace).count handle := by
  induction trace generalizing handles with
  | nil => rfl
  | cons event trace ih =>
    have hrest := ih hcloses.2
    rw [runState_cons,List.count_cons,List.count_cons]
    cases event with
    | opened other =>
      rw [ledgerStep,Multiset.count_cons] at hrest
      simp only [ledgerStep,beq_iff_eq,HandleEvent.opened.injEq,reduceCtorEq,if_false] at hrest ⊢
      simp only [eq_comm (a:=other)]
      omega
    | closed other =>
      simp only [ledgerStep,beq_iff_eq,HandleEvent.closed.injEq,reduceCtorEq,if_false] at hrest ⊢
      by_cases hsame : other=handle
      · obtain rfl := hsame
        have hpos : 0<handles.count other := Multiset.count_pos.mpr hcloses.1
        rw [Multiset.count_erase_self] at hrest
        rw [if_pos rfl]
        omega
      · rw [Multiset.count_erase_of_ne (Ne.symm hsame)] at hrest
        rw [if_neg hsame]
        omega

/-- Events that open only what is not open leave no handle open twice. -/
theorem nodup_ledgerStep {handles : Multiset η} {event : HandleEvent η} (hnodup : handles.Nodup)
    (hfresh : OpensFresh handles event) : (ledgerStep handles event).1.Nodup := by
  cases event with
  | opened handle => exact Multiset.nodup_cons.mpr ⟨hfresh,hnodup⟩
  | closed handle => exact hnodup.erase handle

/-- The events of a handle that is not left open are openings and closings in
turn, the first one a closing if it is open to begin with. -/
theorem filter_handle_eq {handles : Multiset η} {trace : List (HandleEvent η)} (handle : η)
    (hnodup : handles.Nodup) (hfresh : Meets ledgerStep OpensFresh handles trace)
    (hcloses : Meets ledgerStep ClosesOpen handles trace)
    (hend : handle∉runState ledgerStep handles trace) :
    ∃ count,trace.filter (fun event => event.handle=handle)=
      if handle∈handles then .closed handle::lifetimes handle count
      else lifetimes handle count := by
  induction trace generalizing handles with
  | nil => exact ⟨0,by rw [if_neg (show handle∉handles from hend)]; rfl⟩
  | cons event trace ih =>
    obtain ⟨count,hcount⟩ := ih (nodup_ledgerStep hnodup hfresh.1) hfresh.2 hcloses.2 hend
    by_cases hsame : event.handle=handle
    · rw [List.filter_cons_of_pos (by simpa using hsame),hcount]
      cases event with
      | opened other =>
        obtain rfl : other=handle := hsame
        refine ⟨count+1,?_⟩
        rw [if_neg (show other∉handles from hfresh.1),ledgerStep,
          if_pos (Multiset.mem_cons_self _ _),lifetimes_succ]
      | closed other =>
        obtain rfl : other=handle := hsame
        refine ⟨count,?_⟩
        rw [if_pos (show other∈handles from hcloses.1),ledgerStep,if_neg hnodup.notMem_erase]
    · refine ⟨count,?_⟩
      have hmem : handle∈(ledgerStep handles event).1 ↔ handle∈handles := by
        cases event with
        | opened other =>
          exact Multiset.mem_cons.trans (or_iff_right (Ne.symm hsame))
        | closed other => exact Multiset.mem_erase_of_ne (Ne.symm hsame)
      rw [List.filter_cons_of_neg (by simpa using hsame),hcount]
      simp only [hmem]

/-- After a trace that leaves nothing open, a handle has been closed exactly
once for every time it has been opened, before the next time. -/
theorem filter_handle_eq_lifetimes {trace : List (HandleEvent η)}
    (hfresh : Meets ledgerStep OpensFresh 0 trace) (hcloses : Meets ledgerStep ClosesOpen 0 trace)
    (hend : openAfter trace=0) (handle : η) :
    ∃ count,trace.filter (fun event => event.handle=handle)=lifetimes handle count := by
  have hnot : handle∉runState ledgerStep 0 trace := by
    rw [←openAfter,hend]
    exact Multiset.notMem_zero handle
  obtain ⟨count,hcount⟩ := filter_handle_eq handle Multiset.nodup_zero hfresh hcloses hnot
  exact ⟨count,by rw [hcount,if_neg (Multiset.notMem_zero handle)]⟩

end AtlasAgent.HandleLedger
