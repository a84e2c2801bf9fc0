import Mathlib.Data.List.Nodup
import Mathlib.Tactic.TypeStar

/-!
# Items that give values to keys

Items come one after the other, and each may give a value to a key. What a map
is after them is told key by key: it has the value of the last item that gives
the key one, or else what it had before. A fold has this result if each of its
steps does, and where every key is given by a single item, the pairs of the
items are the map.
-/

namespace AtlasAgent.KeyedUpdates

variable {ι κ ν μ : Type*} {Gives : ι → κ → ν → Prop}

/-- The value is what the last item that gives the key anything gives it. -/
def LastGiven (Gives : ι → κ → ν → Prop) (items : List ι) (key : κ) (value : ν) : Prop :=
  ∃ before item after,items=before++item::after ∧ Gives item key value ∧
    ∀ later∈after,∀ other,¬Gives later key other

/-- The last map is the first one updated by the items, for every key. -/
def Updated (Gives : ι → κ → ν → Prop) (items : List ι) (first last : κ → Option ν) : Prop :=
  ∀ key value,last key=some value ↔
    LastGiven Gives items key value ∨
      first key=some value ∧ ∀ item∈items,∀ other,¬Gives item key other

theorem lastGiven_nil {key : κ} {value : ν} : ¬LastGiven Gives [] key value := by
  rintro ⟨before,item,after,hsplit,-⟩
  simp at hsplit

/-- Of two groups of items the second decides, unless it gives the key nothing. -/
theorem lastGiven_append {items more : List ι} {key : κ} {value : ν} :
    LastGiven Gives (items++more) key value ↔
      LastGiven Gives more key value ∨
        LastGiven Gives items key value ∧ ∀ later∈more,∀ other,¬Gives later key other := by
  constructor
  · rintro ⟨before,item,after,hsplit,hgives,hlater⟩
    obtain ⟨middle,rfl,hmore⟩|⟨middle,rfl,hafter⟩ := List.append_eq_append_iff.mp hsplit
    · exact .inl ⟨middle,item,after,hmore,hgives,hlater⟩
    · cases middle with
      | nil => exact .inl ⟨[],item,after,hafter.symm,hgives,hlater⟩
      | cons first middle =>
        obtain ⟨rfl,rfl⟩ := List.cons.inj hafter
        exact .inr ⟨⟨before,item,middle,rfl,hgives,fun later hmem =>
          hlater later (List.mem_append_left _ hmem)⟩,fun later hmem =>
          hlater later (List.mem_append_right _ hmem)⟩
  · rintro (⟨before,item,after,rfl,hgives,hlater⟩|⟨⟨before,item,after,rfl,hgives,hlater⟩,hmore⟩)
    · exact ⟨items++before,item,after,(List.append_assoc _ _ _).symm,hgives,hlater⟩
    · refine ⟨before,item,after++more,by simp,hgives,fun later hmem => ?_⟩
      obtain hmem|hmem := List.mem_append.mp hmem
      · exact hlater later hmem
      · exact hmore later hmem

theorem lastGiven_singleton {item : ι} {key : κ} {value : ν} :
    LastGiven Gives [item] key value ↔ Gives item key value := by
  constructor
  · rintro ⟨before,last,after,hsplit,hgives,-⟩
    have hmem : last∈[item] := by
      rw [hsplit]
      simp
    rwa [List.mem_singleton.mp hmem] at hgives
  · exact fun hgives => ⟨[],item,[],rfl,hgives,by simp⟩

/-- Updates can be made one after the other. -/
theorem Updated.append {items more : List ι} {first middle last : κ → Option ν}
    (h : Updated Gives items first middle) (hmore : Updated Gives more middle last) :
    Updated Gives (items++more) first last := by
  intro key value
  rw [hmore,h,lastGiven_append,List.forall_mem_append]
  tauto

/-- Fold rule: a map that every step updates by its item is updated by all items. -/
theorem updated_foldl {step : μ → ι → μ} (lookup : μ → κ → Option ν) {items : List ι}
    (hstep : ∀ item∈items,∀ m,Updated Gives [item] (lookup m) (lookup (step m item))) (m : μ) :
    Updated Gives items (lookup m) (lookup (items.foldl step m)) := by
  induction items generalizing m with
  | nil =>
    intro key value
    simp [lastGiven_nil]
  | cons item items ih =>
    obtain ⟨hitem,hitems⟩ := List.forall_mem_cons.mp hstep
    exact (hitem m).append (ih hitems (step m item))

/-- From nothing, items that give one pair each and no key twice make the map of
their pairs. -/
theorem Updated.eq_some_iff_mem {pairs : List (κ×ν)} {item : κ×ν → ι} {last : κ → Option ν}
    (h : Updated Gives (pairs.map item) (fun _ => none) last)
    (hgives : ∀ pair∈pairs,∀ key value,Gives (item pair) key value ↔ pair=(key,value))
    (hdistinct : (pairs.map Prod.fst).Nodup) {key : κ} {value : ν} :
    last key=some value ↔ (key,value)∈pairs := by
  rw [h]
  constructor
  · rintro (⟨before,last,after,hsplit,hgiven,-⟩|⟨hnone,-⟩)
    · obtain ⟨pair,hmem,rfl⟩ : ∃ pair∈pairs,item pair=last := by
        rw [←List.mem_map,hsplit]
        simp
      rwa [(hgives pair hmem key value).mp hgiven] at hmem
    · cases hnone
  · intro hmem
    obtain ⟨before,after,rfl⟩ := List.append_of_mem hmem
    refine .inl ⟨before.map item,item (key,value),after.map item,by simp,
      (hgives _ hmem key value).mpr rfl,?_⟩
    intro later hlater other hother
    -- a later item with the key would be a second one
    obtain ⟨pair,hpair,rfl⟩ := List.mem_map.mp hlater
    rw [(hgives pair (by simp [hpair]) key other).mp hother] at hpair
    rw [List.map_append,List.map_cons,List.nodup_append] at hdistinct
    exact (List.nodup_cons.mp hdistinct.2.1).1 (List.mem_map.mpr ⟨_,hpair,rfl⟩)

end AtlasAgent.KeyedUpdates
