/-
# Sets by key

An index from keys to sets of identifiers, in which a key without identifiers
has no entry. Adding and removing an identifier under a key change the
membership of that identifier under that key and of nothing else.
-/

import Mathlib.Data.List.AList

namespace OpenPath.Foundation

variable {κ ι : Type*} [DecidableEq κ]

/-- A map from keys to sets. -/
abbrev KeyedSets (κ ι : Type*) := AList fun _ : κ => List ι

namespace KeyedSets

def empty : KeyedSets κ ι := ∅

/-- The set under a key, which is empty without an entry. -/
def members (index : KeyedSets κ ι) (key : κ) : List ι := (index.lookup key).getD []

@[simp]
theorem members_empty (key : κ) : (empty : KeyedSets κ ι).members key = [] := by
  simp [members, empty]

theorem members_insert (index : KeyedSets κ ι) (key k : κ) (set : List ι) :
    members (index.insert key set) k = if k = key then set else index.members k := by
  by_cases hkey : k = key
  · rw [if_pos hkey, hkey, members, AList.lookup_insert, Option.getD_some]
  · rw [if_neg hkey, members, AList.lookup_insert_ne hkey, members]

theorem members_erase (index : KeyedSets κ ι) (key k : κ) :
    members (index.erase key) k = if k = key then [] else index.members k := by
  by_cases hkey : k = key
  · rw [if_pos hkey, hkey, members, AList.lookup_erase, Option.getD_none]
  · rw [if_neg hkey, members, AList.lookup_erase_ne hkey, members]

variable [DecidableEq ι]

def add (index : KeyedSets κ ι) (key : κ) (id : ι) : KeyedSets κ ι :=
  match index.lookup key with
  | some set => if id ∈ set then index else index.insert key (set ++ [id])
  | none => index.insert key [id]

def remove (index : KeyedSets κ ι) (key : κ) (id : ι) : KeyedSets κ ι :=
  match index.lookup key with
  | none => index
  | some set =>
      let rest := set.filter (· ≠ id)
      if rest = [] then index.erase key else index.insert key rest

theorem mem_members_add (index : KeyedSets κ ι) (key k : κ) (id i : ι) :
    i ∈ (index.add key id).members k ↔ i ∈ index.members k ∨ (k = key ∧ i = id) := by
  unfold add
  cases hlookup : index.lookup key with
  | none =>
      have hnone : index.members key = [] := by rw [members, hlookup, Option.getD_none]
      rw [members_insert]
      by_cases hkey : k = key
      · simp [hkey, hnone]
      · simp [hkey]
  | some set =>
      have hset : index.members key = set := by rw [members, hlookup, Option.getD_some]
      dsimp only
      split
      · rename_i hmem
        refine ⟨Or.inl, ?_⟩
        rintro (hold | ⟨rfl, rfl⟩)
        · exact hold
        · exact hset ▸ hmem
      · rw [members_insert]
        by_cases hkey : k = key
        · simp [hkey, hset]
        · simp [hkey]

theorem mem_members_remove (index : KeyedSets κ ι) (key k : κ) (id i : ι) :
    i ∈ (index.remove key id).members k ↔ i ∈ index.members k ∧ ¬ (k = key ∧ i = id) := by
  unfold remove
  cases hlookup : index.lookup key with
  | none =>
      have hnone : index.members key = [] := by rw [members, hlookup, Option.getD_none]
      refine ⟨fun hmem => ⟨hmem, ?_⟩, And.left⟩
      rintro ⟨rfl, -⟩
      rw [hnone] at hmem
      cases hmem
  | some set =>
      have hset : index.members key = set := by rw [members, hlookup, Option.getD_some]
      have hrest : i ∈ set.filter (· ≠ id) ↔ i ∈ set ∧ i ≠ id := by simp
      dsimp only
      split
      · rename_i hempty
        rw [hempty] at hrest
        rw [members_erase]
        by_cases hkey : k = key
        · rw [if_pos hkey, hrest, hkey, hset]
          simp
        · simp [hkey]
      · rw [members_insert]
        by_cases hkey : k = key
        · rw [if_pos hkey, hrest, hkey, hset]
          simp
        · simp [hkey]

variable {index : KeyedSets κ ι}

omit [DecidableEq ι] in
theorem members_of_lookup {key : κ} {set : List ι} (hlookup : index.lookup key = some set) :
    index.members key = set := by
  rw [members, hlookup, Option.getD_some]

/-! ## Entries -/

/-- No entry is empty, and no set lists an identifier twice. -/
structure WellFormed (index : KeyedSets κ ι) : Prop where
  nonempty : ∀ key set, index.lookup key = some set → set ≠ []
  nodup : ∀ key, (index.members key).Nodup

omit [DecidableEq ι] in
theorem wellFormed_empty : WellFormed (empty : KeyedSets κ ι) where
  nonempty := by
    intro key set hlookup
    simp [empty] at hlookup
  nodup := by simp

section

variable (h : index.WellFormed) (key : κ)
include h

omit [DecidableEq ι] in
theorem WellFormed.insert {set : List ι} (hset : set ≠ []) (hnodup : set.Nodup) :
    WellFormed (AList.insert key set index) where
  nonempty := by
    intro k other hlookup
    by_cases hkey : k = key
    · subst hkey
      rw [AList.lookup_insert] at hlookup
      exact Option.some.inj hlookup ▸ hset
    · rw [AList.lookup_insert_ne hkey] at hlookup
      exact h.nonempty k other hlookup
  nodup := by
    intro k
    rw [members_insert]
    split
    · exact hnodup
    · exact h.nodup k

omit [DecidableEq ι] in
theorem WellFormed.erase : WellFormed (AList.erase key index)  where
  nonempty := by
    intro k set hlookup
    by_cases hkey : k = key
    · subst hkey
      rw [AList.lookup_erase] at hlookup
      cases hlookup
    · rw [AList.lookup_erase_ne hkey] at hlookup
      exact h.nonempty k set hlookup
  nodup := by
    intro k
    rw [members_erase]
    split
    · exact List.nodup_nil
    · exact h.nodup k

theorem WellFormed.add (id : ι) : (index.add key id).WellFormed := by
  unfold KeyedSets.add
  cases hlookup : index.lookup key with
  | none => exact h.insert key (List.cons_ne_nil id []) (List.nodup_singleton id)
  | some set =>
      have hset : set.Nodup := members_of_lookup hlookup ▸ h.nodup key
      dsimp only
      split
      · exact h
      · rename_i hnew
        exact h.insert key (by simp) (hset.append (List.nodup_singleton id)
          (List.disjoint_singleton.mpr hnew))

theorem WellFormed.remove (id : ι) : (index.remove key id).WellFormed := by
  unfold KeyedSets.remove
  cases hlookup : index.lookup key with
  | none => exact h
  | some set =>
      have hset : set.Nodup := members_of_lookup hlookup ▸ h.nodup key
      dsimp only
      split
      · exact h.erase key
      · rename_i hrest
        exact h.insert key hrest (hset.filter _)

end

end KeyedSets

end OpenPath.Foundation
