/-
# Keys joined from fields

A key that is made by writing fields one after another, with separators between
them, can be read back only if no field holds what the reader takes for a
separator. The module says under which conditions the fields follow from the
key, for a field before a separator, for a field before a marker of three
characters, and for a list of joined pieces; and what equal keys of two lists
say about the lists.
-/

import Mathlib.Data.List.Basic

namespace OpenPath.Foundation

variable {α β γ : Type*}

/-! ## Fields of one key -/

theorem append_separator_inj {separator : α} {first second rest rest' : List α}
    (hfirst : separator ∉ first) (hsecond : separator ∉ second)
    (heq : first ++ separator :: rest = second ++ separator :: rest') :
    first = second ∧ rest = rest' := by
  induction first generalizing second with
  | nil =>
      cases second with
      | nil => exact ⟨rfl, (List.cons.inj heq).2⟩
      | cons head tail =>
          have hhead : separator = head := (List.cons.inj heq).1
          exact absurd List.mem_cons_self (hhead ▸ hsecond)
  | cons head tail ih =>
      cases second with
      | nil =>
          have hhead : head = separator := (List.cons.inj heq).1
          exact absurd List.mem_cons_self (hhead ▸ hfirst)
      | cons head' tail' =>
          obtain ⟨rfl, htail⟩ := List.cons.inj heq
          obtain ⟨rfl, hrest⟩ := ih (fun h => hfirst (List.mem_cons_of_mem _ h))
            (fun h => hsecond (List.mem_cons_of_mem _ h)) htail
          exact ⟨rfl, hrest⟩

/-- With the separator that follows it, the field holds no flag between two
separators. -/
def Unmarked (separator : α) (flags field : List α) : Prop :=
  ∀ flag ∈ flags, ¬ [separator, flag, separator] <:+: field ++ [separator]

section Marker

variable {separator : α} {flags first second rest rest' : List α} {flag flag' : α}

/-- The shorter of two fields before a marker is not shorter. -/
theorem length_le_of_marker (hsecond : Unmarked separator flags second)
    (hseparator : separator ∉ flags) (hflag : flag ∈ flags)
    (heq : first ++ [separator, flag, separator] ++ rest =
      second ++ [separator, flag', separator] ++ rest') : second.length ≤ first.length := by
  by_contra hlong
  by_cases hnext : second.length = first.length + 1
  · -- The flag of the first would be the separator of the second.
    simp only [List.append_assoc] at heq
    obtain ⟨middle, hmiddle⟩ : first <+: second :=
      List.prefix_of_prefix_length_le ⟨_, heq⟩ (List.prefix_append _ _) (by omega)
    obtain ⟨head, rfl⟩ : ∃ head, middle = [head] := by
      apply List.length_eq_one_iff.mp
      have hlength := congrArg List.length hmiddle
      rw [List.length_append] at hlength
      omega
    rw [← hmiddle, List.append_assoc, List.append_cancel_left_eq] at heq
    have hsame : flag = separator := by
      simp only [List.cons_append, List.nil_append, List.cons.injEq] at heq
      exact heq.2.1
    exact hseparator (hsame ▸ hflag)
  · -- The marker of the first would be inside the second.
    apply hsecond flag hflag
    have hleft : first ++ [separator, flag, separator] <+: second ++ [separator] := by
      have hwhole : second ++ [separator] <+: second ++ [separator, flag', separator] ++ rest' :=
        ⟨flag' :: separator :: rest', by simp⟩
      apply List.prefix_of_prefix_length_le (heq ▸ List.prefix_append _ _) hwhole
      simp only [List.length_append, List.length_cons, List.length_nil]
      omega
    obtain ⟨after, hafter⟩ := hleft
    exact ⟨first, after, hafter⟩

theorem append_marker_inj (hfirst : Unmarked separator flags first)
    (hsecond : Unmarked separator flags second) (hseparator : separator ∉ flags)
    (hflag : flag ∈ flags) (hflag' : flag' ∈ flags)
    (heq : first ++ [separator, flag, separator] ++ rest =
      second ++ [separator, flag', separator] ++ rest') :
    first = second ∧ flag = flag' ∧ rest = rest' := by
  have hlength : first.length = second.length :=
    Nat.le_antisymm (length_le_of_marker hfirst hseparator hflag' heq.symm)
      (length_le_of_marker hsecond hseparator hflag heq)
  simp only [List.append_assoc] at heq
  obtain ⟨rfl, htail⟩ := List.append_inj heq hlength
  simpa using htail

end Marker

/-! ## Pieces of a joined list -/

/-- Joined pieces without the separator can be told apart. -/
theorem intercalate_inj [BEq α] [LawfulBEq α] {separator : α} {pieces pieces' : List (List α)}
    (hpieces : ∀ piece ∈ pieces, separator ∉ piece ∧ piece ≠ [])
    (hpieces' : ∀ piece ∈ pieces', separator ∉ piece ∧ piece ≠ [])
    (heq : [separator].intercalate pieces = [separator].intercalate pieces') :
    pieces = pieces' := by
  have hnil : ∀ {list : List (List α)}, (∀ piece ∈ list, separator ∉ piece ∧ piece ≠ []) →
      [separator].intercalate list = [] → list = [] := by
    intro list hlist hempty
    cases list with
    | nil => rfl
    | cons piece rest =>
        have hpiece := hlist piece List.mem_cons_self
        cases rest with
        | nil => exact absurd (by simpa using hempty) hpiece.2
        | cons next rest =>
            rw [List.intercalate_cons_of_ne_nil (by simp)] at hempty
            simp at hempty
  by_cases hempty : pieces = []
  · rw [hempty] at heq ⊢
    exact (hnil hpieces' heq.symm).symm
  · have hempty' : pieces' ≠ [] := by
      intro h
      rw [h] at heq
      exact hempty (hnil hpieces heq)
    rw [← List.splitOn_intercalate separator (fun piece h => (hpieces piece h).1) hempty, heq,
      List.splitOn_intercalate separator (fun piece h => (hpieces' piece h).1) hempty']

/-! ## Equal keys -/

/-- What a key determines agrees in two lists with the same keys. -/
theorem perm_map_of_perm_map [DecidableEq β] {key : α → β} {value : α → γ} {rows rows' : List α}
    (hkey : ∀ row ∈ rows ++ rows', ∀ row' ∈ rows ++ rows', key row = key row' →
      value row = value row')
    (hperm : (rows.map key).Perm (rows'.map key)) : (rows.map value).Perm (rows'.map value) := by
  -- The value can be looked up by the key.
  let lookup : β → Option γ := fun k => ((rows ++ rows').find? (key · = k)).map value
  have hlookup : ∀ row ∈ rows ++ rows', lookup (key row) = some (value row) := by
    intro row hrow
    cases hfind : (rows ++ rows').find? (key · = key row) with
    | none =>
        have hnone := List.find?_eq_none.mp hfind row hrow
        simp at hnone
    | some found =>
        have hsame : key found = key row := by simpa using List.find?_some hfind
        show ((rows ++ rows').find? _).map value = _
        rw [hfind, Option.map_some,
          hkey found (List.mem_of_find?_eq_some hfind) row hrow hsame]
  have hmapped : ∀ {list : List α}, (∀ row ∈ list, row ∈ rows ++ rows') →
      (list.map key).map lookup = (list.map value).map some := by
    intro list hlist
    rw [List.map_map, List.map_map]
    exact List.map_congr_left fun row hrow => hlookup row (hlist row hrow)
  have hsome := hperm.map lookup
  rw [hmapped fun row hrow => List.mem_append_left _ hrow,
    hmapped fun row hrow => List.mem_append_right _ hrow] at hsome
  have hvalues := hsome.filterMap id
  simpa [List.filterMap_map] using hvalues

end OpenPath.Foundation
