/-
# Counter columns

A table may keep, in a column of each row, how many rows of a second table
belong to that row. The column is exact as long as every statement that adds or
removes rows of the second table moves the counters of their owners by as much.

Rows are lists, statements are functions on them, and the results say which
statements keep a counter exact. A decrement that stops at zero loses nothing
as long as the counter is exact: it is only ever applied for a row that is
counted.
-/

import Mathlib.Data.List.Nodup
import Mathlib.Data.List.Perm.Basic

namespace OpenPath.Foundation

variable {Row Member Key : Type*}

/-- `UPDATE … SET … WHERE …`: the rows afterwards. -/
def updateWhere (selects : Row → Bool) (change : Row → Row) (rows : List Row) : List Row :=
  rows.map fun row => if selects row then change row else row

/-- What such a statement returns: the changed rows. -/
def updated (selects : Row → Bool) (change : Row → Row) (rows : List Row) : List Row :=
  (rows.filter selects).map change

variable {selects : Row → Bool} {change : Row → Row}

theorem mem_updateWhere {rows : List Row} {row : Row} :
    row ∈ updateWhere selects change rows ↔
      ∃ old ∈ rows, (if selects old then change old else old) = row :=
  List.mem_map

theorem mem_updated {rows : List Row} {row : Row} :
    row ∈ updated selects change rows ↔
      ∃ old ∈ rows, selects old = true ∧ change old = row := by
  simp only [updated, List.mem_map, List.mem_filter, and_assoc]

theorem map_updateWhere {Value : Type*} {column : Row → Value}
    (hchange : ∀ row, column (change row) = column row) (rows : List Row) :
    (updateWhere selects change rows).map column = rows.map column := by
  rw [updateWhere, List.map_map]
  apply List.map_congr_left
  intro row _
  simp only [Function.comp_apply]
  split
  · exact hchange row
  · rfl

/-- A column of a row that counts the members that belong to the row. -/
structure CounterColumn (Row Member Key : Type*) where
  key : Row → Key
  count : Row → Int
  owner : Member → Key
  set : Row → Int → Row
  key_set : ∀ row value, key (set row value) = key row
  count_set : ∀ row value, count (set row value) = value

namespace CounterColumn

variable [DecidableEq Key] (column : CounterColumn Row Member Key)

/-- How many members belong to a key. -/
def held (members : List Member) (key : Key) : Nat :=
  members.countP fun member => column.owner member = key

/-- Keys are unique, every member has an owner, and the counters are right. -/
structure Exact (rows : List Row) (members : List Member) : Prop where
  distinct : (rows.map column.key).Nodup
  owned : ∀ member ∈ members, column.owner member ∈ rows.map column.key
  counts : ∀ row ∈ rows, column.count row = column.held members (column.key row)

/-- Count one member less, but never below zero. -/
def decrement (key : Key) (rows : List Row) : List Row :=
  updateWhere (fun row => column.key row = key && 0 < column.count row)
    (fun row => column.set row (max (column.count row - 1) 0)) rows

/-- Count less for every removed member. -/
def decrementAll (removed : List Member) (rows : List Row) : List Row :=
  removed.foldl (fun rows member => column.decrement (column.owner member) rows) rows

variable {column} {rows : List Row} {members : List Member}

@[simp]
theorem held_nil (key : Key) : column.held [] key = 0 := rfl

theorem held_cons (member : Member) (members : List Member) (key : Key) :
    column.held (member :: members) key =
      column.held members key + if column.owner member = key then 1 else 0 := by
  simp only [held, List.countP_cons, decide_eq_true_eq]

theorem held_append (first second : List Member) (key : Key) :
    column.held (first ++ second) key = column.held first key + column.held second key :=
  List.countP_append

theorem held_perm {first second : List Member} (hperm : first.Perm second) (key : Key) :
    column.held first key = column.held second key :=
  hperm.countP_eq _

theorem held_pos {member : Member} (hmember : member ∈ members) :
    0 < column.held members (column.owner member) :=
  List.countP_pos_iff.mpr ⟨member, hmember, decide_eq_true rfl⟩

namespace Exact

variable {row : Row} {selects : Row → Bool} {change : Row → Row} {member : Member}

section

variable (hexact : column.Exact rows members)
include hexact

theorem count_nonneg (hrow : row ∈ rows) : 0 ≤ column.count row := by
  rw [hexact.counts row hrow]
  exact Int.natCast_nonneg _

theorem eq_of_key {first second : Row} (hfirst : first ∈ rows) (hsecond : second ∈ rows)
    (hkey : column.key first = column.key second) : first = second :=
  List.inj_on_of_nodup_map hexact.distinct hfirst hsecond hkey

/-- A statement that changes the row of a key returns that row. -/
theorem head?_updated (hrow : row ∈ rows) (change : Row → Row) :
    (updated (fun other => column.key other = column.key row) change rows).head? =
      some (change row) := by
  have hselected : row ∈ rows.filter fun other => column.key other = column.key row :=
    List.mem_filter.mpr ⟨hrow, decide_eq_true rfl⟩
  rw [updated, List.head?_map]
  cases hfirst : rows.filter fun other => column.key other = column.key row with
  | nil =>
      rw [hfirst] at hselected
      cases hselected
  | cons first rest =>
      have hmember : first ∈ rows.filter fun other => column.key other = column.key row :=
        hfirst ▸ List.mem_cons_self
      obtain ⟨hold, hkey⟩ := List.mem_filter.mp hmember
      rw [hexact.eq_of_key hold hrow (of_decide_eq_true hkey)]
      rfl

theorem perm {other : List Member} (hperm : members.Perm other) : column.Exact rows other where
  distinct := hexact.distinct
  owned member hmember := hexact.owned member (hperm.mem_iff.mpr hmember)
  counts row hrow := by rw [hexact.counts row hrow, held_perm hperm]

theorem mapMembers {change : Member → Member}
    (hchange : ∀ member, column.owner (change member) = column.owner member) :
    column.Exact rows (members.map change) where
  distinct := hexact.distinct
  owned member hmember := by
    obtain ⟨old, hold, rfl⟩ := List.mem_map.mp hmember
    rw [hchange]
    exact hexact.owned old hold
  counts row hrow := by
    rw [hexact.counts row hrow, held, held, List.countP_map]
    congr 2
    funext member
    simp only [Function.comp_apply, hchange]

/-- A statement that changes rows and keeps their keys, next to one that changes
the members. -/
theorem update {others : List Member} (hkey : ∀ row, column.key (change row) = column.key row)
    (howned : ∀ member ∈ others, column.owner member ∈ rows.map column.key)
    (hcount : ∀ row ∈ rows, column.count (if selects row then change row else row) =
      column.held others (column.key row)) :
    column.Exact (updateWhere selects change rows) others where
  distinct := by
    rw [map_updateWhere hkey]
    exact hexact.distinct
  owned := by
    rw [map_updateWhere hkey]
    exact howned
  counts row hrow := by
    obtain ⟨old, hold, rfl⟩ := mem_updateWhere.mp hrow
    rw [hcount old hold]
    split
    · rw [hkey]
    · rfl

theorem insertRow (hfresh : column.key row ∉ rows.map column.key) (hzero : column.count row = 0) :
    column.Exact (rows ++ [row]) members where
  distinct := by
    rw [List.map_append, List.map_singleton]
    exact List.Nodup.append hexact.distinct (List.nodup_singleton _)
      (List.disjoint_singleton.mpr hfresh)
  owned member hmember := by
    rw [List.map_append]
    exact List.mem_append_left _ (hexact.owned member hmember)
  counts other hother := by
    rcases List.mem_append.mp hother with hold | hnew
    · exact hexact.counts other hold
    · obtain rfl := List.mem_singleton.mp hnew
      have hnone : column.held members (column.key other) = 0 := by
        apply List.countP_eq_zero.mpr
        intro member hmember howner
        exact hfresh (of_decide_eq_true howner ▸ hexact.owned member hmember)
      rw [hzero, hnone, Int.natCast_zero]

theorem insertMember (hkey : ∀ row, column.key (change row) = column.key row)
    (hcount : ∀ row, column.count (change row) = column.count row + 1)
    (howner : column.owner member ∈ rows.map column.key)
    (hselects : ∀ row ∈ rows, selects row = true ↔ column.key row = column.owner member) :
    column.Exact (updateWhere selects change rows) (members ++ [member]) := by
  apply hexact.update hkey
  · intro other hother
    rcases List.mem_append.mp hother with hold | hnew
    · exact hexact.owned other hold
    · obtain rfl := List.mem_singleton.mp hnew
      exact howner
  · intro row hrow
    have hheld : column.held (members ++ [member]) (column.key row) =
        column.held members (column.key row) +
          if column.owner member = column.key row then 1 else 0 := by
      rw [held_append, held_cons, held_nil, Nat.zero_add]
    by_cases howned : column.key row = column.owner member
    · rw [if_pos ((hselects row hrow).mpr howned), hcount, hexact.counts row hrow, hheld,
        if_pos howned.symm, Int.natCast_add, Int.natCast_one]
    · rw [if_neg fun hselected => howned ((hselects row hrow).mp hselected),
        hexact.counts row hrow, hheld, if_neg fun h => howned h.symm, Nat.add_zero]

end

theorem removeMember (hexact : column.Exact rows (member :: members))
    (hkey : ∀ row, column.key (change row) = column.key row)
    (hcount : ∀ row, column.count (change row) = max (column.count row - 1) 0)
    (hselects : ∀ row ∈ rows, 0 < column.count row →
      (selects row = true ↔ column.key row = column.owner member))
    (hspares : ∀ row ∈ rows, column.key row ≠ column.owner member → selects row = false) :
    column.Exact (updateWhere selects change rows) members := by
  apply hexact.update hkey
  · intro other hother
    exact hexact.owned other (List.mem_cons_of_mem _ hother)
  · intro row hrow
    have hheld := hexact.counts row hrow
    rw [held_cons] at hheld
    by_cases howner : column.owner member = column.key row
    · rw [if_pos howner] at hheld
      have hselected := (hselects row hrow (by omega)).mpr howner.symm
      rw [if_pos hselected, hcount]
      omega
    · rw [if_neg howner] at hheld
      have hspared := hspares row hrow fun h => howner h.symm
      rw [hspared, if_neg Bool.false_ne_true]
      omega

theorem decrement (hexact : column.Exact rows (member :: members)) :
    column.Exact (column.decrement (column.owner member) rows) members := by
  apply hexact.removeMember (fun row => column.key_set row _) (fun row => column.count_set row _)
  · intro row _ hpos
    simp only [Bool.and_eq_true, decide_eq_true_eq]
    exact and_iff_left hpos
  · intro row _ hother
    simp only [Bool.and_eq_false_iff, decide_eq_false_iff_not]
    exact Or.inl hother

/-- Removed members are counted out one by one. -/
theorem decrementAll {removed : List Member} (hexact : column.Exact rows (removed ++ members)) :
    column.Exact (column.decrementAll removed rows) members := by
  induction removed generalizing rows with
  | nil => exact hexact
  | cons member removed ih => exact ih hexact.decrement

theorem deleteMembers (hexact : column.Exact rows members) (deletes : Member → Bool) :
    column.Exact (column.decrementAll (members.filter deletes) rows)
      (members.filter fun member => !deletes member) := by
  apply decrementAll
  exact hexact.perm (List.filter_append_perm deletes members).symm

theorem deleteRows (hexact : column.Exact rows members) (deletes : Row → Bool) :
    column.Exact (rows.filter fun row => !deletes row)
      (members.filter fun member =>
        !rows.any fun row => deletes row && column.key row = column.owner member) where
  distinct := hexact.distinct.sublist (List.filter_sublist.map column.key)
  owned member hmember := by
    obtain ⟨hold, hkept⟩ := List.mem_filter.mp hmember
    obtain ⟨row, hrow, howner⟩ := List.mem_map.mp (hexact.owned member hold)
    refine List.mem_map.mpr ⟨row, List.mem_filter.mpr ⟨hrow, ?_⟩, howner⟩
    simp only [Bool.not_eq_true', List.any_eq_false, Bool.and_eq_true, decide_eq_true_eq,
      not_and] at hkept ⊢
    cases hdeletes : deletes row with
    | false => rfl
    | true => exact absurd howner (hkept row hrow hdeletes)
  counts row hrow := by
    obtain ⟨hold, hkept⟩ := List.mem_filter.mp hrow
    rw [hexact.counts row hold, held, held, List.countP_filter]
    congr 1
    apply List.countP_congr
    intro member _
    simp only [Bool.and_eq_true, decide_eq_true_eq, Bool.not_eq_true', List.any_eq_false, not_and]
    refine ⟨fun howner => ⟨howner, ?_⟩, And.left⟩
    intro other hother hdeletes hkey
    -- A deleted row with the member's key would be the kept row.
    obtain rfl := hexact.eq_of_key hother hold (hkey.trans howner)
    simp [hdeletes] at hkept

end Exact

end CounterColumn

end OpenPath.Foundation
