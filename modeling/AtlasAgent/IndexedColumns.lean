import Mathlib.Data.List.Basic
import Mathlib.Data.List.Nodup
import Mathlib.Tactic.TypeStar

/-!
# Columns named in one list and filled in another

A loop over names keeps an index and looks into a list of values at it. As long
as every value it asks for is there, it is a fold over the columns, the pairs of
a name and its value; with distinct names a value is found under its name, in
whatever order the columns stand and whichever others stand among them.
-/

namespace AtlasAgent.IndexedColumns

variable {ν α σ β : Type*}

/-- The loop: every name takes a step with what the values have at the index. -/
def alongside (step : σ → ν → Option α → Option σ) (values : List α) :
    ℕ → List ν → σ → Option σ
  | _,[],s => some s
  | idx,name::names,s =>
    (step s name values[idx]?).bind (alongside step values (idx+1) names)

/-- The loop comes to its end exactly when the names that need a value have an
index of the values. -/
theorem alongside_isSome_iff {step : σ → ν → Option α → Option σ} {Needs : ν → Prop}
    (hstep : ∀ s name value,(step s name value).isSome ↔ (Needs name → value.isSome))
    (values : List α) (names : List ν) (idx : ℕ) (s : σ) :
    (alongside step values idx names s).isSome ↔
      ∀ k name,names[k]?=some name → Needs name → idx+k < values.length := by
  induction names generalizing idx s with
  | nil => simp [alongside]
  | cons first names ih =>
    have hfirst := hstep s first values[idx]?
    rw [isSome_getElem?] at hfirst
    rw [alongside]
    constructor
    · intro h k name hname hneeds
      obtain ⟨s',hs'⟩ : ∃ s',step s first values[idx]?=some s' := by
        cases hnext : step s first values[idx]? with
        | none => rw [hnext] at h; cases h
        | some s' => exact ⟨s',rfl⟩
      rw [hs'] at h hfirst
      cases k with
      | zero =>
        cases hname
        exact hfirst.mp rfl hneeds
      | succ k =>
        have hlater := (ih (idx+1) s').mp h k name hname hneeds
        omega
    · intro h
      obtain ⟨s',hs'⟩ := Option.isSome_iff_exists.mp (hfirst.mpr (h 0 first rfl))
      rw [hs']
      refine (ih (idx+1) s').mpr fun k name hname hneeds => ?_
      have hlater := h (k+1) name hname hneeds
      omega

/-- With a value for every name the loop is a fold over the columns. -/
theorem alongside_eq_foldl {step : σ → ν → Option α → Option σ} {assign : σ → ν×α → σ}
    (hstep : ∀ s name value,step s name (some value)=some (assign s (name,value)))
    {values : List α} (names : List ν) (idx : ℕ) (s : σ)
    (h : idx+names.length ≤ values.length) :
    alongside step values idx names s=some ((names.zip (values.drop idx)).foldl assign s) := by
  induction names generalizing idx s with
  | nil => rfl
  | cons name names ih =>
    rw [List.length_cons] at h
    have hidx : idx < values.length := by omega
    rw [alongside,List.getElem?_eq_getElem hidx,hstep,Option.bind_some,ih (idx+1) _ (by omega),
      List.drop_eq_getElem_cons hidx,List.zip_cons_cons,List.foldl_cons]

section Lookup

variable [BEq ν] [LawfulBEq ν] {columns other extra : List (ν×α)} {name : ν}

/-- Nothing is found under a name that no column has. -/
theorem lookup_eq_none (h : name∉columns.map Prod.fst) : columns.lookup name=none := by
  rw [List.lookup_eq_none_iff]
  intro column hmem
  have hne : name≠column.1 := fun heq => h (List.mem_map.mpr ⟨column,hmem,heq.symm⟩)
  simpa using hne

/-- Where names are distinct, the value that is found is any value of the name. -/
theorem lookup_eq_some_iff_mem (h : (columns.map Prod.fst).Nodup) {value : α} :
    columns.lookup name=some value ↔ (name,value)∈columns := by
  induction columns with
  | nil => simp
  | cons column columns ih =>
    obtain ⟨key,first⟩ := column
    rw [List.map_cons,List.nodup_cons] at h
    obtain ⟨hkey,hrest⟩ := h
    rw [List.lookup_cons,List.mem_cons,Prod.mk.injEq]
    by_cases hname : name=key
    · subst hname
      have hlater : (name,value)∉columns := fun hmem =>
        hkey (List.mem_map.mpr ⟨_,hmem,rfl⟩)
      simp [hlater,eq_comm]
    · have hdiffer : (name==key)=false := beq_eq_false_iff_ne.mpr hname
      rw [hdiffer,ih hrest]
      simp [hname]

/-- Neither another order nor further columns change what is found under a name
that the further columns do not have. -/
theorem lookup_eq_of_perm (h : (other.map Prod.fst).Nodup) (hperm : other.Perm (columns++extra))
    (hname : name∉extra.map Prod.fst) : other.lookup name=columns.lookup name := by
  have hall := (hperm.map Prod.fst).nodup_iff.mp h
  rw [List.map_append,List.nodup_append] at hall
  ext value
  rw [lookup_eq_some_iff_mem h,lookup_eq_some_iff_mem hall.1,hperm.mem_iff,List.mem_append]
  exact or_iff_left fun hmem => hname (List.mem_map.mpr ⟨_,hmem,rfl⟩)

/-- A variable that the columns of one name set holds the value found under it,
or what it held. -/
theorem foldl_eq_lookup {assign : σ → ν×α → σ} {field : σ → β} {read : α → β}
    (hset : ∀ s value,field (assign s (name,value))=read value)
    (hother : ∀ s column,column.1≠name → field (assign s column)=field s)
    (h : (columns.map Prod.fst).Nodup) (s : σ) :
    field (columns.foldl assign s)=((columns.lookup name).map read).getD (field s) := by
  induction columns generalizing s with
  | nil => rfl
  | cons column columns ih =>
    obtain ⟨key,value⟩ := column
    rw [List.map_cons,List.nodup_cons] at h
    obtain ⟨hkey,hrest⟩ := h
    rw [List.foldl_cons,ih hrest,List.lookup_cons]
    by_cases hname : name=key
    · subst hname
      rw [lookup_eq_none hkey,beq_self_eq_true,hset]
      rfl
    · rw [beq_eq_false_iff_ne.mpr hname,hother s (key,value) (Ne.symm hname)]

end Lookup

end AtlasAgent.IndexedColumns
