import Mathlib.Data.List.Nodup
import Mathlib.Logic.Function.Basic

/-!
# Statements that assign each key once

A list of statements is run from left to right. A statement is rejected, is
passed over, or assigns a value to a key that has none yet; a second assignment
to a key is rejected too. What a run accepts, and with which values, does not
depend on the order of the statements or on those that are passed over.
-/

namespace AtlasAgent.AssignOnce

variable {α κ ν : Type*} (read : α → Option (Option (κ×ν)))

/-- The assignments among the statements. -/
def assignments (statements : List α) : List (κ×ν) :=
  statements.filterMap fun statement => (read statement).join

/-- All statements are accepted and assign exactly the given value to each key. -/
structure Gives (statements : List α) (value : κ → ν) : Prop where
  accepted : ∀ statement∈statements,(read statement).isSome=true
  once : ((assignments read statements).map Prod.fst).Nodup
  all : ∀ key,(key,value key)∈assignments read statements

/-- The order of the statements does not matter. -/
theorem Gives.of_perm {statements permuted : List α} {value : κ → ν}
    (h : Gives read statements value) (hperm : statements.Perm permuted) :
    Gives read permuted value := by
  have hpairs : (assignments read statements).Perm (assignments read permuted) :=
    hperm.filterMap _
  exact ⟨fun statement hmem => h.accepted statement (hperm.mem_iff.mpr hmem),
    (hpairs.map Prod.fst).nodup_iff.mp h.once,fun key => hpairs.mem_iff.mp (h.all key)⟩

/-- Nor do statements that are passed over. -/
theorem gives_append_iff {statements added : List α} (value : κ → ν)
    (hpassed : ∀ statement∈added,read statement=some none) :
    Gives read (statements++added) value ↔ Gives read statements value := by
  have hnone : assignments read added=[] :=
    List.filterMap_eq_nil_iff.mpr fun statement hmem => by rw [hpassed statement hmem]; rfl
  have hpairs : assignments read (statements++added)=assignments read statements := by
    rw [assignments,List.filterMap_append,←assignments,←assignments,hnone,List.append_nil]
  constructor
  · exact fun h => ⟨fun statement hmem => h.accepted statement (List.mem_append_left _ hmem),
      hpairs ▸ h.once,fun key => hpairs ▸ h.all key⟩
  · intro h
    refine ⟨fun statement hmem => ?_,hpairs.symm ▸ h.once,fun key => hpairs.symm ▸ h.all key⟩
    rcases List.mem_append.mp hmem with hmem|hmem
    · exact h.accepted statement hmem
    · rw [hpassed statement hmem]
      rfl

variable [DecidableEq κ]

/-- Set the value of a key that has none. -/
def assign (values : κ → Option ν) (pair : κ×ν) : Option (κ → Option ν) :=
  if (values pair.1).isSome then none
  else some (Function.update values pair.1 (some pair.2))

/-- One statement. -/
def statementStep (values : κ → Option ν) (statement : α) : Option (κ → Option ν) :=
  match read statement with
  | none => none
  | some none => some values
  | some (some pair) => assign values pair

/-- After an assignment the keys without a value are the others that had none. -/
theorem update_unset_iff {initial : κ → Option ν} {pairs : List (κ×ν)} {key : κ} {value : ν} :
    (∀ pair∈pairs,Function.update initial key (some value) pair.1=none) ↔
      key ∉ pairs.map Prod.fst ∧ ∀ pair∈pairs,initial pair.1=none := by
  constructor
  · intro hnone
    have hne : ∀ pair∈pairs,pair.1≠key := by
      intro pair hpair heq
      have hset := hnone pair hpair
      rw [heq,Function.update_self] at hset
      cases hset
    refine ⟨fun hmem => ?_,fun pair hpair => ?_⟩
    · obtain ⟨pair,hpair,heq⟩ := List.mem_map.mp hmem
      exact hne pair hpair heq
    · rw [←Function.update_of_ne (hne pair hpair) (some value) initial]
      exact hnone pair hpair
  · rintro ⟨hkey,hnone⟩ pair hpair
    have hne : pair.1≠key := fun heq => hkey (List.mem_map.mpr ⟨pair,hpair,heq⟩)
    rw [Function.update_of_ne hne]
    exact hnone pair hpair

/-- Adding one assignment in front of others. -/
theorem assigned_cons_iff {initial values : κ → Option ν} {pairs : List (κ×ν)} {key : κ}
    {value : ν} (h : initial key=none) :
    ((pairs.map Prod.fst).Nodup ∧
        (∀ pair∈pairs,Function.update initial key (some value) pair.1=none) ∧
        ∀ k v,values k=some v ↔
          (k,v)∈pairs ∨ Function.update initial key (some value) k=some v) ↔
      (((key,value)::pairs).map Prod.fst).Nodup ∧
        (∀ pair∈(key,value)::pairs,initial pair.1=none) ∧
        ∀ k v,values k=some v ↔ (k,v)∈(key,value)::pairs ∨ initial k=some v := by
  have hlookup : ∀ k v,((k,v)∈pairs ∨ Function.update initial key (some value) k=some v) ↔
      (k,v)∈(key,value)::pairs ∨ initial k=some v := by
    intro k v
    by_cases hk : k=key
    · subst hk
      rw [Function.update_self,h,List.mem_cons,Prod.mk.injEq,Option.some.injEq]
      simp only [true_and,reduceCtorEq,or_false]
      tauto
    · rw [Function.update_of_ne hk,List.mem_cons,Prod.mk.injEq]
      tauto
  simp only [update_unset_iff,hlookup,List.map_cons,List.nodup_cons,List.forall_mem_cons]
  tauto

/-- A run is accepted exactly when its statements are, and when no key is
assigned twice or has a value before; it adds the values assigned. -/
theorem foldlM_statementStep_iff (statements : List α) (initial values : κ → Option ν) :
    statements.foldlM (statementStep read) initial=some values ↔
      (∀ statement∈statements,(read statement).isSome=true) ∧
        ((assignments read statements).map Prod.fst).Nodup ∧
        (∀ pair∈assignments read statements,initial pair.1=none) ∧
        ∀ k v,values k=some v ↔ (k,v)∈assignments read statements ∨ initial k=some v := by
  induction statements generalizing initial with
  | nil =>
    have hext : initial=values ↔ ∀ k v,values k=some v ↔ initial k=some v := by
      constructor
      · rintro rfl k v
        exact Iff.rfl
      · exact fun h => funext fun k => Option.ext fun v => (h k v).symm
    simpa [assignments] using hext
  | cons statement statements ih =>
    rw [List.foldlM_cons,List.forall_mem_cons]
    cases hread : read statement with
    | none =>
      rw [statementStep,hread]
      simp
    | some result =>
      cases result with
      | none =>
        have hsame : assignments read (statement::statements)=assignments read statements := by
          rw [assignments,List.filterMap_cons_none (by rw [hread]; rfl),assignments]
        rw [statementStep,hread,hsame]
        simpa using ih initial
      | some pair =>
        obtain ⟨key,value⟩ := pair
        have hpairs : assignments read (statement::statements)=
            (key,value)::assignments read statements := by
          rw [assignments,List.filterMap_cons_some (by rw [hread]; rfl),assignments]
        rw [statementStep,hread,hpairs]
        dsimp only [assign]
        by_cases hset : (initial key).isSome=true
        · have hnot : ¬∀ p∈(key,value)::assignments read statements,initial p.1=none := by
            intro hnone
            rw [hnone _ List.mem_cons_self] at hset
            cases hset
          rw [if_pos hset]
          simp only [Option.bind_eq_bind,Option.bind_none,reduceCtorEq,false_iff]
          exact fun h => hnot h.2.2.1
        · have hunset : initial key=none := by simpa using hset
          rw [if_neg hset]
          simp only [Option.bind_eq_bind,Option.bind_some,Option.isSome_some,true_and]
          rw [ih,assigned_cons_iff hunset]

/-- Statements give a value to every key exactly when a run from no values
accepts them and ends with these values. -/
theorem gives_iff (statements : List α) (value : κ → ν) :
    Gives read statements value ↔
      statements.foldlM (statementStep read) (fun _ => none)=some fun key => some (value key) := by
  rw [foldlM_statementStep_iff]
  constructor
  · intro h
    refine ⟨h.accepted,h.once,fun _ _ => rfl,fun k v => ?_⟩
    constructor
    · rintro ⟨rfl⟩
      exact Or.inl (h.all k)
    · rintro (hmem|hnone)
      · have hpair := List.inj_on_of_nodup_map h.once (h.all k) hmem rfl
        rw [(Prod.mk.inj hpair).2]
      · cases hnone
  · rintro ⟨haccepted,honce,-,hvalues⟩
    refine ⟨haccepted,honce,fun key => ?_⟩
    rcases (hvalues key (value key)).mp rfl with hmem|hnone
    · exact hmem
    · cases hnone

end AtlasAgent.AssignOnce
