/-
# Tables that keep the latest rows

A table with a capacity keeps the rows that were seen last: it is sorted by the times at
which they were seen, the latest first, and cut. The sort is stable, so that rows of one
time stay in their order. A row is kept if and only if the later rows, and those of its own
time before it, are fewer than the capacity.
-/

import Mathlib.Data.List.Sort

namespace OpenPath.Foundation

variable {Row : Type*} (seen : Row → Int)

/-- The rows of the table, the latest first. -/
def latestFirst (table : List Row) : List Row :=
  table.insertionSort fun first second => seen second ≤ seen first

/-- A wanted row of the time for which the capacity reaches. -/
def Reaches (capacity : Nat) (time : Int) (wanted : Row → Prop) (table : List Row) : Prop :=
  ∃ front row back, table = front ++ row :: back ∧ wanted row ∧ seen row = time ∧
    (table.filter fun other => time < seen other).length +
      (front.filter fun other => seen other = time).length < capacity

variable {seen}

theorem pairwise_latestFirst (table : List Row) :
    (latestFirst seen table).Pairwise fun first second => seen second ≤ seen first :=
  have : Std.Total fun first second : Row => seen second ≤ seen first :=
    ⟨fun first second => le_total (seen second) (seen first)⟩
  have : IsTrans Row fun first second => seen second ≤ seen first :=
    ⟨fun _ _ _ hfirst hsecond => le_trans hsecond hfirst⟩
  List.pairwise_insertionSort _ table

theorem mem_latestFirst {table : List Row} {row : Row} :
    row ∈ latestFirst seen table ↔ row ∈ table :=
  List.mem_insertionSort _

/-- Rows of one time stay in their order. -/
theorem filter_latestFirst (time : Int) (table : List Row) :
    ((latestFirst seen table).filter fun row => seen row = time) =
      table.filter fun row => seen row = time := by
  have htime : ∀ row ∈ table.filter (fun row => seen row = time), seen row = time :=
    fun row hrow => of_decide_eq_true (List.mem_filter.mp hrow).2
  have hordered : (table.filter fun row => seen row = time).Pairwise
      fun first second => seen second ≤ seen first :=
    List.pairwise_of_forall_mem_list fun first hfirst second hsecond =>
      le_of_eq ((htime second hsecond).trans (htime first hfirst).symm)
  have hsublist := (List.sublist_insertionSort hordered List.filter_sublist).filter
    fun row => decide (seen row = time)
  rw [List.filter_filter] at hsublist
  simp only [Bool.and_self] at hsublist
  exact (hsublist.eq_of_length ((List.perm_insertionSort _ table).filter _).length_eq.symm).symm

/-- What stands before a row: the later ones, and some of its own time. -/
theorem length_front {table front back : List Row} {row : Row}
    (hordered : table.Pairwise fun first second => seen second ≤ seen first)
    (htable : table = front ++ row :: back) :
    front.length = (table.filter fun other => seen row < seen other).length +
      (front.filter fun other => seen other = seen row).length := by
  subst htable
  rw [List.pairwise_append, List.pairwise_cons] at hordered
  obtain ⟨-, ⟨hback, -⟩, hfront⟩ := hordered
  have hnone : (row :: back).filter (fun other => seen row < seen other) = [] := by
    rw [List.filter_eq_nil_iff]
    intro other hother
    rcases List.mem_cons.mp hother with rfl | hother
    · simp
    · simpa using hback other hother
  have hrest : (front.filter fun other => seen other = seen row) =
      front.filter fun other => !decide (seen row < seen other) := by
    apply List.filter_congr
    intro other hother
    have hle := hfront other hother row List.mem_cons_self
    by_cases hlater : seen row < seen other
    · simp [hlater, ne_of_gt hlater]
    · simp [le_antisymm (not_lt.mp hlater) hle]
  rw [List.filter_append, hnone, List.append_nil, hrest]
  exact List.length_eq_length_filter_add _

theorem mem_take_iff_front {table : List Row} {row : Row} {capacity : Nat} :
    row ∈ table.take capacity ↔
      ∃ front back, table = front ++ row :: back ∧ front.length < capacity := by
  constructor
  · intro hrow
    obtain ⟨front, back, htake⟩ := List.append_of_mem hrow
    refine ⟨front, back ++ table.drop capacity, ?_, ?_⟩
    · rw [← List.cons_append, ← List.append_assoc, ← htake, List.take_append_drop]
    · have hlength := congrArg List.length htake
      rw [List.length_take, List.length_append, List.length_cons] at hlength
      omega
  · rintro ⟨front, back, rfl, hlength⟩
    rw [List.take_append, List.mem_append]
    obtain ⟨rest, hrest⟩ := Nat.exists_eq_add_of_lt hlength
    have hmore : capacity - front.length = rest + 1 := by omega
    rw [hmore, List.take_succ_cons]
    exact Or.inr List.mem_cons_self

/-- What is wanted is kept if and only if the capacity reaches for it. -/
theorem exists_latest_iff {capacity : Nat} {time : Int} {wanted : Row → Prop} {table : List Row} :
    (∃ row ∈ (latestFirst seen table).take capacity, wanted row ∧ seen row = time) ↔
      Reaches seen capacity time wanted table := by
  have hlater : ((latestFirst seen table).filter fun other => time < seen other).length =
      (table.filter fun other => time < seen other).length :=
    ((List.perm_insertionSort _ table).filter _).length_eq
  constructor
  · rintro ⟨row, hrow, hwanted, rfl⟩
    obtain ⟨front, back, hsorted, hlength⟩ := mem_take_iff_front.mp hrow
    rw [length_front (pairwise_latestFirst table) hsorted, hlater] at hlength
    have htied := @filter_latestFirst _ seen (seen row) table
    rw [hsorted, List.filter_append, List.filter_cons_of_pos (by simp)] at htied
    obtain ⟨front', rest, rfl, hfront, hrest⟩ := List.filter_eq_append_iff.mp htied.symm
    obtain ⟨skipped, back', rfl, hskipped, -, -⟩ := List.filter_eq_cons_iff.mp hrest
    have hbefore : ((front' ++ skipped).filter fun other => seen other = seen row) =
        front.filter fun other => seen other = seen row := by
      rw [List.filter_append, List.filter_eq_nil_iff.mpr hskipped, List.append_nil, hfront]
    refine ⟨front' ++ skipped, row, back', (List.append_assoc _ _ _).symm, hwanted, rfl, ?_⟩
    rw [hbefore]
    exact hlength
  · rintro ⟨front, row, back, rfl, hwanted, rfl, hlength⟩
    have htied := @filter_latestFirst _ seen (seen row) (front ++ row :: back)
    rw [@List.filter_append _ _ front, List.filter_cons_of_pos (by simp)] at htied
    obtain ⟨front', rest, hsorted, hfront, hrest⟩ := List.filter_eq_append_iff.mp htied
    obtain ⟨skipped, back', rfl, hskipped, -, -⟩ := List.filter_eq_cons_iff.mp hrest
    rw [← List.append_assoc] at hsorted
    have hbefore : ((front' ++ skipped).filter fun other => seen other = seen row) =
        front.filter fun other => seen other = seen row := by
      rw [List.filter_append, List.filter_eq_nil_iff.mpr hskipped, List.append_nil, hfront]
    refine ⟨row, mem_take_iff_front.mpr ⟨_, back', hsorted, ?_⟩, hwanted, rfl⟩
    rw [length_front (pairwise_latestFirst _) hsorted, hbefore, hlater]
    exact hlength

end OpenPath.Foundation
