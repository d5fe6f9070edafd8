/-
# Answers of a database

A query without an order is answered in whatever order the database likes, and
an order that leaves ties is completed by it. Programs that keep the first row
of each key, or take one row of an answer, then depend on that choice unless at
most one row is left to choose from.
-/

import Mathlib.Data.List.Sort

namespace OpenPath.Foundation

variable {α κ : Type*}

/-! ## At most one row -/

variable {rows answer : List α}

theorem eq_of_perm_of_length_le_one (hperm : answer.Perm rows) (hone : rows.length ≤ 1) :
    answer = rows := by
  cases rows with
  | nil => exact hperm.eq_nil
  | cons row rest =>
      have hrest : rest = [] := List.eq_nil_of_length_eq_zero (by simpa using hone)
      rw [hrest] at hperm ⊢
      exact List.perm_singleton.mp hperm

/-- The first row of a kind is the same in every order if there is only one. -/
theorem find?_eq_of_perm {p : α → Bool} (hperm : answer.Perm rows)
    (hone : (rows.filter p).length ≤ 1) : answer.find? p = (rows.filter p).head? := by
  rw [← eq_of_perm_of_length_le_one (hperm.filter p) hone, List.head?_filter]

/-- Rows any two of which exclude each other are at most one. -/
theorem length_le_one_of_pairwise {R : α → α → Prop}
    (hpairwise : rows.Pairwise fun first second => ¬ R first second)
    (hall : ∀ first ∈ rows, ∀ second ∈ rows, R first second) : rows.length ≤ 1 := by
  cases rows with
  | nil => exact Nat.zero_le 1
  | cons first rest =>
      cases rest with
      | nil => exact Nat.le_refl 1
      | cons second rest =>
          have hnot := (List.pairwise_cons.mp hpairwise).1 second (by simp)
          exact absurd (hall first (by simp) second (by simp)) hnot

/-! ## The order of an answer -/

/-- How a database completes an order: from any arrangement of the rows, and
with any order of texts. -/
structure RowOrder (α κ : Type*) where
  arrange : List α → List α
  perm : ∀ rows, (arrange rows).Perm rows
  keyLe : κ → κ → Bool

namespace RowOrder

/-- `ORDER BY` -/
def orderBy (order : RowOrder α κ) (le : α → α → Bool) (rows : List α) : List α :=
  (order.arrange rows).insertionSort fun first second => le first second

/-- `LIMIT 1` -/
def limitOne (order : RowOrder α κ) (rows : List α) : Option α := (order.arrange rows).head?

theorem orderBy_perm (order : RowOrder α κ) (le : α → α → Bool) (rows : List α) :
    (order.orderBy le rows).Perm rows :=
  (List.perm_insertionSort _ _).trans (order.perm rows)

theorem limitOne_eq (order : RowOrder α κ) {rows : List α} (hone : rows.length ≤ 1) :
    order.limitOne rows = rows.head? := by
  rw [limitOne, eq_of_perm_of_length_le_one (order.perm rows) hone]

end RowOrder

/-! ## The first row of each key -/

section FirstOfEachKey

variable [BEq κ] [LawfulBEq κ]

/-- Add a row under its key unless the key is taken. -/
def setIfAbsent (key : α → κ) (entries : List (κ × α)) (row : α) : List (κ × α) :=
  if (entries.lookup (key row)).isSome then entries else entries ++ [(key row, row)]

theorem lookup_setIfAbsent (key : α → κ) (entries : List (κ × α)) (row : α) (k : κ) :
    (setIfAbsent key entries row).lookup k =
      (entries.lookup k).or (if key row == k then some row else none) := by
  unfold setIfAbsent
  by_cases hkey : key row = k
  · rw [hkey, if_pos (beq_self_eq_true k)]
    cases hlookup : entries.lookup k with
    | some found => simp [hlookup]
    | none => simp [List.lookup_append, hlookup]
  · have hne : (k == key row) = false := beq_eq_false_iff_ne.mpr fun h => hkey h.symm
    have hne' : (key row == k) = false := beq_eq_false_iff_ne.mpr hkey
    rw [hne', if_neg Bool.false_ne_true, Option.or_none]
    split
    · rfl
    · simp [List.lookup_append, List.lookup_cons, hne]

/-- A key that is not taken gets the first of its rows. -/
theorem lookup_foldl_setIfAbsent (key : α → κ) (rows : List α) (entries : List (κ × α))
    (k : κ) :
    (rows.foldl (setIfAbsent key) entries).lookup k =
      (entries.lookup k).or (rows.find? fun row => key row == k) := by
  induction rows generalizing entries with
  | nil => simp
  | cons row rest ih =>
      rw [List.foldl_cons, ih, lookup_setIfAbsent, Option.or_assoc, List.find?_cons]
      cases key row == k <;> simp

end FirstOfEachKey

end OpenPath.Foundation
