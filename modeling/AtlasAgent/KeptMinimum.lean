import Mathlib.Data.List.AList
import Mathlib.Data.List.MinMax

/-!
# The first minimum of each key

A map is filled from a list by the rule that an element replaces the one that
is kept for its key only when it is strictly smaller. The elements that remain
are the first minima of their keys, one for each key.
-/

namespace AtlasAgent.KeptMinimum

variable {α κ β : Type*} [DecidableEq κ] [LinearOrder β] (key : α → κ) (size : α → β)

/-- Keep a new element if its key has none, or if it is strictly smaller. -/
def keepMinimum (kept : AList fun _ : κ => α) (x : α) : AList fun _ : κ => α :=
  match kept.lookup (key x) with
  | none => kept.insert (key x) x
  | some y => if size x < size y then kept.insert (key x) x else kept

/-- What is kept after the whole list. -/
def keptMinima (xs : List α) : AList fun _ : κ => α := xs.foldl (keepMinimum key size) ∅

/-- The elements of a map, without their keys. -/
def values (kept : AList fun _ : κ => α) : List α := kept.entries.map Sigma.snd

/-- An element of the list that none of its key is smaller than, and that is
strictly smaller than those of its key before it. -/
structure FirstMinimum (xs : List α) (x : α) : Prop where
  /-- It stands somewhere in the list. -/
  first : ∃ before after,xs=before++x::after ∧ ∀ y∈before,key y=key x → size x < size y
  /-- No other one is smaller. -/
  minimal : ∀ y∈xs,key y=key x → size x ≤ size y

theorem lookup_keepMinimum (kept : AList fun _ : κ => α) (x : α) (k : κ) :
    (keepMinimum key size kept x).lookup k=
      if key x=k then some (match kept.lookup k with
        | none => x
        | some y => if size x < size y then x else y)
      else kept.lookup k := by
  unfold keepMinimum
  by_cases hkey : key x=k
  · subst hkey
    rw [if_pos rfl]
    cases hy : kept.lookup (key x) with
    | none => exact AList.lookup_insert kept
    | some y =>
      dsimp only
      split
      · exact AList.lookup_insert kept
      · exact hy
  · rw [if_neg hkey]
    have hne : k≠key x := Ne.symm hkey
    split
    · exact AList.lookup_insert_ne hne
    · split
      · exact AList.lookup_insert_ne hne
      · rfl

/-- For each key the first minimum is kept. -/
theorem lookup_keptMinima (xs : List α) (k : κ) :
    (keptMinima key size xs).lookup k=(xs.filter fun x => decide (key x=k)).argmin size := by
  induction xs using List.reverseRecOn with
  | nil => rfl
  | append_singleton xs x ih =>
    rw [keptMinima,List.foldl_append,List.foldl_cons,List.foldl_nil,lookup_keepMinimum,
      ←keptMinima,ih,List.filter_append]
    by_cases hkey : key x=k
    · have hlast : [x].filter (fun x => decide (key x=k))=[x] := by simp [hkey]
      rw [if_pos hkey,hlast,List.argmin_concat]
      cases (xs.filter fun x => decide (key x=k)).argmin size with
      | none => rfl
      | some y =>
        dsimp only
        split <;> rfl
    · have hlast : [x].filter (fun x => decide (key x=k))=[] := by simp [hkey]
      rw [if_neg hkey,hlast,List.append_nil]

/-- The first minimum of a list in the sense of the library stands after larger
elements only. -/
theorem argmin_split {xs : List α} {x : α} (h : xs.argmin size=some x) :
    ∃ before after,xs=before++x::after ∧ ∀ y∈before,size x < size y := by
  induction xs using List.reverseRecOn generalizing x with
  | nil => cases h
  | append_singleton xs last ih =>
    rw [List.argmin_concat] at h
    cases hxs : xs.argmin size with
    | none =>
      rw [hxs] at h
      rw [List.argmin_eq_none.mp hxs]
      exact ⟨[],[],by rw [Option.some.inj h],by simp⟩
    | some y =>
      rw [hxs] at h
      dsimp only at h
      by_cases hless : size last < size y
      · rw [if_pos hless,Option.some.injEq] at h
        subst h
        refine ⟨xs,[],rfl,fun z hz => ?_⟩
        have hyz : size y ≤ size z := List.le_of_mem_argmin hz hxs
        exact lt_of_lt_of_le hless hyz
      · rw [if_neg hless,Option.some.injEq] at h
        subst h
        obtain ⟨before,after,hsplit,hbefore⟩ := ih hxs
        exact ⟨before,after++[last],by rw [hsplit]; simp,hbefore⟩

/-- What is kept for a key is a first minimum. -/
theorem firstMinimum_of_lookup {xs : List α} {k : κ} {x : α}
    (h : (keptMinima key size xs).lookup k=some x) :
    key x=k ∧ FirstMinimum key size xs x := by
  rw [lookup_keptMinima] at h
  have hx := List.argmin_mem h
  have hkey : key x=k := by simpa using (List.mem_filter.mp hx).2
  refine ⟨hkey,?_,fun y hy hsame => ?_⟩
  · obtain ⟨small,large,hfilter,hsmall⟩ := argmin_split size h
    obtain ⟨before,tail,rfl,rfl,htail⟩ := List.filter_eq_append_iff.mp hfilter
    obtain ⟨skipped,after,rfl,hskipped,-⟩ := List.filter_eq_cons_iff.mp htail
    refine ⟨before++skipped,after,by simp,fun y hy hsame => ?_⟩
    have hyk : decide (key y=k)=true := decide_eq_true (hsame.trans hkey)
    rcases List.mem_append.mp hy with hy|hy
    · exact hsmall y (List.mem_filter.mpr ⟨hy,hyk⟩)
    · exact absurd hyk (hskipped y hy)
  · exact List.le_of_mem_argmin
      (List.mem_filter.mpr ⟨hy,decide_eq_true (hsame.trans hkey)⟩) h

/-- Every element of the result is a first minimum, kept under its own key. -/
theorem firstMinimum_of_mem {xs : List α} {x : α} (h : x∈values (keptMinima key size xs)) :
    (keptMinima key size xs).lookup (key x)=some x ∧ FirstMinimum key size xs x := by
  obtain ⟨⟨k,y⟩,hmem,rfl⟩ := List.mem_map.mp h
  have hlookup := AList.mem_lookup_iff.mpr hmem
  obtain ⟨rfl,hfirst⟩ := firstMinimum_of_lookup key size hlookup
  exact ⟨hlookup,hfirst⟩

/-- Every key of the list has its element in the result. -/
theorem exists_kept {xs : List α} {y : α} (h : y∈xs) :
    ∃ x∈values (keptMinima key size xs),key x=key y := by
  cases hlookup : (keptMinima key size xs).lookup (key y) with
  | none =>
    rw [lookup_keptMinima,List.argmin_eq_none] at hlookup
    have hnot := List.filter_eq_nil_iff.mp hlookup y h
    exact absurd (decide_eq_true rfl) hnot
  | some x =>
    exact ⟨x,List.mem_map.mpr ⟨⟨key y,x⟩,AList.mem_lookup_iff.mp hlookup,rfl⟩,
      (firstMinimum_of_lookup key size hlookup).1⟩

/-- No key has two elements in the result. -/
theorem nodup_keys (xs : List α) : ((values (keptMinima key size xs)).map key).Nodup := by
  have hkeys : (values (keptMinima key size xs)).map key=(keptMinima key size xs).keys := by
    rw [values,List.map_map]
    refine List.map_congr_left fun entry hentry => ?_
    exact (firstMinimum_of_lookup key size (AList.mem_lookup_iff.mpr hentry)).1
  rw [hkeys]
  exact AList.keys_nodup _

end AtlasAgent.KeptMinimum
