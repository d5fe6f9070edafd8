/-
# Longest matching suffixes

A table of items whose names are lists of labels, such as the directives of a
name server, answers for a host by one of the items with the longest name that
is a suffix of the host's. The names of all such items are the same; where items
of different kinds share a name, either may answer.

A table with a default for everything answers as the items without the default
do, wherever one of them matches.
-/

import Mathlib.Data.List.Infix

namespace OpenPath.Foundation

variable {Item Other Label : Type*}

/-- The item matches the host, and none that matches has a longer name. -/
structure LongestMatch (name : Item → List Label) (items : List Item) (host : List Label)
    (item : Item) : Prop where
  mem : item ∈ items
  covers : name item <:+ host
  longest : ∀ other ∈ items, name other <:+ host → (name other).length ≤ (name item).length

/-- Every answer that the table can give is permitted, and there is one. -/
def SurelyPermits (name : Item → List Label) (permits : Item → Prop) (items : List Item)
    (host : List Label) : Prop :=
  (∃ item, LongestMatch name items host item) ∧
    ∀ item, LongestMatch name items host item → permits item

section

variable {name : Item → List Label} {items : List Item} {host : List Label}

theorem exists_longestMatch (hmatch : ∃ item ∈ items, name item <:+ host) :
    ∃ item, LongestMatch name items host item := by
  induction items with
  | nil =>
      obtain ⟨item, member, -⟩ := hmatch
      cases member
  | cons first rest ih =>
      by_cases hrest : ∃ item ∈ rest, name item <:+ host
      · obtain ⟨best, hbest⟩ := ih hrest
        by_cases better : name first <:+ host ∧ (name best).length ≤ (name first).length
        · refine ⟨first, List.mem_cons_self, better.1, ?_⟩
          intro other hother hcovers
          rcases List.mem_cons.mp hother with rfl | hother
          · exact le_rfl
          · exact (hbest.longest other hother hcovers).trans better.2
        · refine ⟨best, List.mem_cons_of_mem first hbest.mem, hbest.covers, ?_⟩
          intro other hother hcovers
          rcases List.mem_cons.mp hother with rfl | hother
          · exact (Nat.lt_of_not_le fun h => better ⟨hcovers, h⟩).le
          · exact hbest.longest other hother hcovers
      · obtain ⟨item, member, covers⟩ := hmatch
        rcases List.mem_cons.mp member with rfl | member
        · refine ⟨item, List.mem_cons_self, covers, ?_⟩
          intro other hother hcovers
          rcases List.mem_cons.mp hother with rfl | hother
          · exact le_rfl
          · exact absurd ⟨other, hother, hcovers⟩ hrest
        · exact absurd ⟨item, member, covers⟩ hrest

variable {otherName : Other → List Label} {table : Item → Other}

theorem longestMatch_map (hname : ∀ item ∈ items, otherName (table item) = name item)
    {other : Other} :
    LongestMatch otherName (items.map table) host other ↔
      ∃ item, LongestMatch name items host item ∧ table item = other := by
  refine ⟨?_, ?_⟩
  · intro hother
    obtain ⟨item, member, rfl⟩ := List.mem_map.mp hother.mem
    refine ⟨item, ⟨member, hname item member ▸ hother.covers, ?_⟩, rfl⟩
    intro rival hrival hcovers
    have hle := hother.longest (table rival) (List.mem_map_of_mem hrival)
      ((hname rival hrival).symm ▸ hcovers)
    rwa [hname rival hrival, hname item member] at hle
  · rintro ⟨item, hitem, rfl⟩
    refine ⟨List.mem_map_of_mem hitem.mem, (hname item hitem.mem).symm ▸ hitem.covers, ?_⟩
    intro rival hrival hcovers
    obtain ⟨source, hsource, rfl⟩ := List.mem_map.mp hrival
    rw [hname source hsource] at hcovers
    rw [hname source hsource, hname item hitem.mem]
    exact hitem.longest source hsource hcovers

variable {permits : Item → Prop}

theorem surelyPermits_of_forall (hmatch : ∃ item ∈ items, name item <:+ host)
    (hall : ∀ item ∈ items, name item <:+ host → permits item) :
    SurelyPermits name permits items host :=
  ⟨exists_longestMatch hmatch, fun item hitem => hall item hitem.mem hitem.covers⟩

/-- Where an item has the name of the host itself, the items with that name answer. -/
theorem surelyPermits_of_exact (hexact : ∃ item ∈ items, name item = host) :
    SurelyPermits name permits items host ↔ ∀ item ∈ items, name item = host → permits item := by
  obtain ⟨exact, hmem, hname⟩ := hexact
  have hmatch : ∀ item, LongestMatch name items host item ↔ item ∈ items ∧ name item = host := by
    intro item
    refine ⟨fun hitem => ⟨hitem.mem, ?_⟩, fun ⟨member, hitem⟩ => ⟨member, hitem ▸ List.suffix_refl _, ?_⟩⟩
    · have hle := hitem.longest exact hmem (hname ▸ List.suffix_refl _)
      rw [hname] at hle
      exact hitem.covers.eq_of_length_le hle
    · intro other hother hcovers
      exact hitem ▸ hcovers.length_le
  simp only [SurelyPermits, hmatch, and_imp]
  exact ⟨fun hall => hall.2, fun hall => ⟨⟨exact, hmem, hname⟩, hall⟩⟩

variable {defaults : List Item}

/-- Items that match everything answer only where no other item matches. -/
theorem longestMatch_defaults (hdefaults : ∀ item ∈ defaults, name item = [])
    (hitems : ∀ item ∈ items, name item ≠ []) {item : Item} :
    LongestMatch name (defaults ++ items) host item ↔
      LongestMatch name items host item ∨
        (item ∈ defaults ∧ ∀ other ∈ items, ¬ name other <:+ host) := by
  refine ⟨?_, ?_⟩
  · intro hitem
    rcases List.mem_append.mp hitem.mem with hdefault | member
    · refine Or.inr ⟨hdefault, ?_⟩
      intro other hother hcovers
      have hle := hitem.longest other (List.mem_append_right _ hother) hcovers
      rw [hdefaults item hdefault, List.length_nil, Nat.le_zero, List.length_eq_zero_iff] at hle
      exact hitems other hother hle
    · exact Or.inl ⟨member, hitem.covers, fun other hother =>
        hitem.longest other (List.mem_append_right _ hother)⟩
  · rintro (hitem | ⟨hdefault, hnone⟩)
    · refine ⟨List.mem_append_right _ hitem.mem, hitem.covers, ?_⟩
      intro other hother hcovers
      rcases List.mem_append.mp hother with hdefault | hother
      · simp [hdefaults other hdefault]
      · exact hitem.longest other hother hcovers
    · refine ⟨List.mem_append_left _ hdefault, by simp [hdefaults item hdefault], ?_⟩
      intro other hother hcovers
      rcases List.mem_append.mp hother with hother | hother
      · simp [hdefaults other hother]
      · exact absurd hcovers (hnone other hother)

/-- A table whose defaults are not permitted permits what its items permit. -/
theorem surelyPermits_defaults (nonempty : defaults ≠ [])
    (hdefaults : ∀ item ∈ defaults, name item = []) (hrefused : ∀ item ∈ defaults, ¬ permits item)
    (hitems : ∀ item ∈ items, name item ≠ []) :
    SurelyPermits name permits (defaults ++ items) host ↔
      SurelyPermits name permits items host := by
  simp only [SurelyPermits, longestMatch_defaults hdefaults hitems]
  refine ⟨?_, ?_⟩
  · rintro ⟨-, hall⟩
    refine ⟨?_, fun item hitem => hall item (Or.inl hitem)⟩
    apply exists_longestMatch
    by_contra hnone
    obtain ⟨default, hdefault⟩ := List.exists_mem_of_ne_nil defaults nonempty
    refine hrefused default hdefault (hall default (Or.inr ⟨hdefault, ?_⟩))
    exact fun other hother hcovers => hnone ⟨other, hother, hcovers⟩
  · rintro ⟨⟨best, hbest⟩, hall⟩
    refine ⟨⟨best, Or.inl hbest⟩, ?_⟩
    rintro item (hitem | ⟨-, hnone⟩)
    · exact hall item hitem
    · exact absurd hbest.covers (hnone best hbest.mem)

theorem exists_permitted_defaults (hdefaults : ∀ item ∈ defaults, name item = [])
    (hrefused : ∀ item ∈ defaults, ¬ permits item) (hitems : ∀ item ∈ items, name item ≠ []) :
    (∃ item, LongestMatch name (defaults ++ items) host item ∧ permits item) ↔
      ∃ item, LongestMatch name items host item ∧ permits item := by
  simp only [longestMatch_defaults hdefaults hitems]
  refine ⟨?_, fun ⟨item, hitem, hpermits⟩ => ⟨item, Or.inl hitem, hpermits⟩⟩
  rintro ⟨item, hitem | ⟨hdefault, -⟩, hpermits⟩
  · exact ⟨item, hitem, hpermits⟩
  · exact absurd hpermits (hrefused item hdefault)

variable {otherPermits : Other → Prop}

section

variable (hname : ∀ item ∈ items, otherName (table item) = name item)
  (hpermits : ∀ item ∈ items, otherPermits (table item) ↔ permits item)
include hname hpermits

theorem surelyPermits_map :
    SurelyPermits otherName otherPermits (items.map table) host ↔
      SurelyPermits name permits items host := by
  simp only [SurelyPermits, longestMatch_map hname]
  refine ⟨?_, ?_⟩
  · rintro ⟨⟨_, item, hitem, -⟩, hall⟩
    exact ⟨⟨item, hitem⟩, fun rival hrival =>
      (hpermits rival hrival.mem).mp (hall _ ⟨rival, hrival, rfl⟩)⟩
  · rintro ⟨⟨item, hitem⟩, hall⟩
    refine ⟨⟨table item, item, hitem, rfl⟩, ?_⟩
    rintro _ ⟨rival, hrival, rfl⟩
    exact (hpermits rival hrival.mem).mpr (hall rival hrival)

theorem exists_permitted_map :
    (∃ other, LongestMatch otherName (items.map table) host other ∧ otherPermits other) ↔
      ∃ item, LongestMatch name items host item ∧ permits item := by
  simp only [longestMatch_map hname]
  refine ⟨?_, ?_⟩
  · rintro ⟨_, ⟨item, hitem, rfl⟩, hother⟩
    exact ⟨item, hitem, (hpermits item hitem.mem).mp hother⟩
  · rintro ⟨item, hitem, hpermit⟩
    exact ⟨table item, ⟨item, hitem, rfl⟩, (hpermits item hitem.mem).mpr hpermit⟩

end

end

end OpenPath.Foundation
