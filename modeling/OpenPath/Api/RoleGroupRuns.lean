/-
# Every run of the role calls

The invariant of a run: either two calls are both to write one row, and never get to,
or there is an order of the calls whose answers are fixed, and the rows are those of
the order, but for the rows that a removal from all roles is still to write.
-/

import Mathlib.Data.List.Permutation
import OpenPath.Api.RoleGroupOrder

namespace OpenPath.Api.RoleGroups

open Accounts Auth Foundation.SerialOrder
open Foundation (Entry Interleaved TransitionSystem)

/-! ## The order and the rows -/

/-- The rows that a removal from all roles is still to write, with its group. -/
def pending : Phase → List (Text × RoleRow)
  | .removing _ groupId remaining _ => remaining.map fun row => (groupId, row)
  | _ => []

/-- A row after the order, beside the row that there is. -/
def Lags (phases : Nat → Phase) (ahead row : RoleRow) : Prop :=
  (ahead = row ∧ ∀ number groupId, (groupId, row) ∉ pending (phases number)) ∨
    ∃ number groupId, (groupId, row) ∈ pending (phases number) ∧ ahead = withoutGroup groupId row

/-- The order of the calls whose answers are fixed, with the rows after it. -/
structure Ordered (known : Known) (initial rows : List RoleRow) (phases : Nat → Phase)
    (order : List (Entry Call Answer)) (ahead : List RoleRow) : Prop where
  once : (order.map (·.number)).Nodup
  entries : ∀ number call answer,
    ⟨number, call, answer⟩ ∈ order ↔ decided known (phases number) = some (call, answer)
  serves : Foundation.SerialOrder.Serves (serve known) initial order ahead
  lags : List.Forall₂ (Lags phases) ahead rows
  places : ∀ number, ∀ entry ∈ pending (phases number),
    getRoleOfUser (Foundation.SerialOrder.before (serve known) initial order number) entry.2.userId =
      some entry.2

/-- Two calls are both to write the row of a user. -/
def Conflict (known : Known) (phases : Nat → Phase) : Prop :=
  ∃ one other userId, one ≠ other ∧ firm known (phases one) = true ∧
    firm known (phases other) = true ∧ userId ∈ reliesOn known (phases one) ∧
      userId ∈ reliesOn known (phases other)

section Lags

variable {known : Known} {phases after : Nat → Phase} {ahead rows : List RoleRow}
  {key : RoleRow → Text} {value : Text}

theorem reliesOn_of_pending {phase : Phase} {groupId : Text} {row : RoleRow}
    (hpending : (groupId, row) ∈ pending phase) :
    firm known phase = true ∧ row.userId ∈ reliesOn known phase := by
  cases phase with
  | removing call removed remaining updatedCount =>
      obtain ⟨other, hother, hsame⟩ := List.mem_map.mp hpending
      obtain ⟨rfl, rfl⟩ := Prod.mk.inj hsame
      refine ⟨rfl, ?_⟩
      rw [reliesOn, relies, List.map_map]
      exact List.mem_map_of_mem hother
  | _ => cases hpending

variable {row : RoleRow}

theorem Lags.same_key {ahead : RoleRow} (hlags : Lags phases ahead row)
    (hkey : ∀ groupId row, key (withoutGroup groupId row) = key row) : key ahead = key row := by
  rcases hlags with ⟨rfl, -⟩ | ⟨number, groupId, -, rfl⟩
  · rfl
  · exact hkey groupId row

section

variable (hlags : List.Forall₂ (Lags phases) ahead rows)
include hlags

theorem map_of_lags (hkey : ∀ groupId row, key (withoutGroup groupId row) = key row) :
    ahead.map key = rows.map key := by
  induction hlags with
  | nil => rfl
  | cons hrow _ ih => rw [List.map_cons, List.map_cons, hrow.same_key hkey, ih]

theorem keyed_of_lags (hkeyed : Keyed rows) : Keyed ahead  where
  ids := by
    rw [map_of_lags hlags fun _ _ => rfl]
    exact hkeyed.ids
  users := by
    rw [map_of_lags hlags fun _ _ => rfl]
    exact hkeyed.users

/-- A row that nobody is still to write is found in both. -/
theorem find_of_lags (hkey : ∀ groupId row, key (withoutGroup groupId row) = key row)
    (hfree : ∀ row ∈ rows, key row = value →
      ∀ number groupId, (groupId, row) ∉ pending (phases number)) :
    ahead.find? (fun row => key row = value) = rows.find? (fun row => key row = value) := by
  induction hlags with
  | nil => rfl
  | @cons one row before rest hrow _ ih =>
      have hsame := hrow.same_key hkey
      have hrest := ih fun other hmem => hfree other (List.mem_cons_of_mem _ hmem)
      rw [List.find?_cons, List.find?_cons, hsame]
      split
      · rename_i hvalue
        rcases hrow with ⟨rfl, -⟩ | ⟨number, groupId, hpending, -⟩
        · rfl
        · exact absurd hpending (hfree row List.mem_cons_self (by simpa using hvalue) _ _)
      · exact hrest

end

theorem Lags.of_pending {ahead : RoleRow} (hlags : Lags phases ahead row)
    (hpending : ∀ number, pending (after number) = pending (phases number)) :
    Lags after ahead row := by
  simp only [Lags, hpending]
  exact hlags

theorem lags_of_pending (hlags : List.Forall₂ (Lags phases) ahead rows)
    (hpending : ∀ number, pending (after number) = pending (phases number)) :
    List.Forall₂ (Lags after) ahead rows :=
  hlags.imp fun _ _ hrow => hrow.of_pending hpending

theorem lags_updateRow {roleId : Text} {change : RoleRow → RoleRow} (hkeeps : KeepsKeys change)
    (hlags : List.Forall₂ (Lags phases) ahead rows)
    (hfree : ∀ row ∈ rows, row.id = roleId → ∀ other : RoleRow, other.userId = row.userId →
      ∀ number groupId, (groupId, other) ∉ pending (phases number)) :
    List.Forall₂ (Lags phases) (updateRow roleId change ahead) (updateRow roleId change rows) := by
  induction hlags with
  | nil => exact .nil
  | @cons one row before rest hrow _ ih =>
      have hrest := ih fun other hmem => hfree other (List.mem_cons_of_mem _ hmem)
      refine .cons ?_ hrest
      have hid : one.id = row.id := hrow.same_key fun _ _ => rfl
      dsimp only
      rw [hid]
      split
      · rename_i hsame
        have hnone := hfree row List.mem_cons_self hsame
        rcases hrow with ⟨rfl, -⟩ | ⟨number, groupId, hpending, -⟩
        · exact Or.inl ⟨rfl, fun number groupId => hnone _ (hkeeps.userId _) number groupId⟩
        · exact absurd hpending (hnone row rfl _ _)
      · exact hrow

theorem violates_of_lags (hlags : List.Forall₂ (Lags phases) ahead rows) :
    violates known ahead row = violates known rows row := by
  have hany : ahead.any (fun other => other.id = row.id || other.userId = row.userId) =
      rows.any (fun other => other.id = row.id || other.userId = row.userId) := by
    induction hlags with
    | nil => rfl
    | @cons one other before rest hrow _ ih =>
        have hid : one.id = other.id := hrow.same_key fun _ _ => rfl
        have huser : one.userId = other.userId := hrow.same_key fun _ _ => rfl
        rw [List.any_cons, List.any_cons, ih, hid, huser]
  rw [violates, violates, hany]

variable {groupId : Text}

theorem hasGroup_withoutGroup {removed : Text} (hnot : hasGroup groupId row = false) :
    hasGroup groupId (withoutGroup removed row) = false := by
  have hnone : groupId ∉ groupsOf row := by simpa [hasGroup] using hnot
  rw [hasGroup, List.contains_eq_mem, decide_eq_false_iff_not]
  exact fun hmem => hnone (List.mem_of_mem_filter hmem)

/-- The rows with a group that nobody is still to write are the same in both. -/
theorem hasGroup_of_lags {ahead : RoleRow} (hlags : Lags phases ahead row)
    (hfree : hasGroup groupId row = true →
      ∀ number removed, (removed, row) ∉ pending (phases number)) :
    hasGroup groupId ahead = hasGroup groupId row ∧ (hasGroup groupId row = true → ahead = row) := by
  rcases hlags with ⟨rfl, -⟩ | ⟨number, removed, hpending, rfl⟩
  · exact ⟨rfl, fun _ => rfl⟩
  · have hnot : hasGroup groupId row = false := by
      by_contra hgroup
      exact hfree (by simpa using hgroup) _ _ hpending
    exact ⟨by rw [hasGroup_withoutGroup hnot, hnot], fun hgroup => by rw [hnot] at hgroup; cases hgroup⟩

section

variable (hlags : List.Forall₂ (Lags phases) ahead rows)
include hlags

variable {groupId : Text}

theorem length_filter_of_lags
    (hfree : ∀ row ∈ rows, hasGroup groupId row = true →
      ∀ number removed, (removed, row) ∉ pending (phases number)) :
    (ahead.filter (hasGroup groupId)).length = (rows.filter (hasGroup groupId)).length := by
  induction hlags with
  | nil => rfl
  | @cons one row before rest hrow _ ih =>
      have hrest := ih fun other hmem => hfree other (List.mem_cons_of_mem _ hmem)
      have hsame := (hasGroup_of_lags hrow (hfree row List.mem_cons_self)).1
      rw [List.filter_cons, List.filter_cons, hsame]
      split
      · rw [List.length_cons, List.length_cons, hrest]
      · exact hrest

/-- The order takes a group from all rows; the rows with it are to be written then. -/
theorem lags_select {number : Nat}
    (hfree : ∀ row ∈ rows, hasGroup groupId row = true →
      ∀ number removed, (removed, row) ∉ pending (phases number))
    (hnew : ∀ row ∈ rows, hasGroup groupId row = true → (groupId, row) ∈ pending (after number))
    (hold : ∀ row, hasGroup groupId row = false → ∀ other removed,
      (removed, row) ∈ pending (after other) ↔ (removed, row) ∈ pending (phases other)) :
    List.Forall₂ (Lags after)
      (ahead.map fun row => if hasGroup groupId row then withoutGroup groupId row else row) rows := by
  induction hlags with
  | nil => exact .nil
  | @cons one row before rest hrow _ ih =>
      have hrest := ih (fun other hmem => hfree other (List.mem_cons_of_mem _ hmem))
        fun other hmem => hnew other (List.mem_cons_of_mem _ hmem)
      obtain ⟨hsame, heq⟩ := hasGroup_of_lags hrow (hfree row List.mem_cons_self)
      refine .cons ?_ hrest
      dsimp only
      rw [hsame]
      split
      · rename_i hgroup
        rw [heq hgroup]
        exact Or.inr ⟨number, groupId, hnew row List.mem_cons_self hgroup, rfl⟩
      · rename_i hgroup
        rw [Bool.not_eq_true] at hgroup
        simp only [Lags, hold row hgroup]
        exact hrow

/-- The row that is written catches up, and the others go on as they were. -/
theorem lags_remove {written : RoleRow} (hone : ∀ row ∈ rows, row.id = written.id → row = written)
    (hpending : ∀ number removed, (removed, written) ∈ pending (phases number) → removed = groupId)
    (hsome : ∃ number, (groupId, written) ∈ pending (phases number))
    (hnone : ∀ row : RoleRow, row.userId = written.userId → ∀ number removed,
      (removed, row) ∉ pending (after number))
    (hold : ∀ row, row ≠ written → ∀ other removed,
      (removed, row) ∈ pending (after other) ↔ (removed, row) ∈ pending (phases other)) :
    List.Forall₂ (Lags after) ahead
      (updateRow written.id (withGroups (remainingGroups written [groupId])) rows) := by
  induction hlags with
  | nil => exact .nil
  | @cons one row before rest hrow _ ih =>
      have hrest := ih fun other hmem => hone other (List.mem_cons_of_mem _ hmem)
      refine .cons ?_ hrest
      dsimp only
      split
      · rename_i hid
        obtain rfl := hone row List.mem_cons_self hid
        obtain ⟨number, hmem⟩ := hsome
        rcases hrow with ⟨-, hnot⟩ | ⟨other, removed, hother, rfl⟩
        · exact absurd hmem (hnot _ _)
        · rw [hpending other removed hother]
          exact Or.inl ⟨rfl, hnone _ rfl⟩
      · rename_i hid
        simp only [Lags, hold row fun h => hid (congrArg RoleRow.id h)]
        exact hrow

end

theorem free_of_relies {number : Nat} {userId : Text} (hno : ¬ Conflict known phases)
    (hfirm : firm known (phases number) = true) (hnone : pending (phases number) = [])
    (hrelies : userId ∈ reliesOn known (phases number)) (hrow : row.userId = userId) (other : Nat)
    (groupId : Text) :
    (groupId, row) ∉ pending (phases other) := by
  intro hpending
  have hne : number ≠ other := by
    rintro rfl
    rw [hnone] at hpending
    cases hpending
  obtain ⟨hfirmOther, hother⟩ := @reliesOn_of_pending known _ _ _ hpending
  exact hno ⟨number, other, userId, hne, hfirm, hfirmOther, hrelies, hrow ▸ hother⟩

end Lags

/-! ## What a step does to the order -/

section Order

variable {known : Known} {initial rows ahead : List RoleRow} {phases : Nat → Phase}
  {order : List (Entry Call Answer)} {number : Nat} {phase : Phase} {call : Call}
  {answer : Answer}

theorem update_same {α : Type} (view : Phase → α) (hsame : view phase = view (phases number))
    (other : Nat) : view (Function.update phases number phase other) = view (phases other) := by
  by_cases hother : other = number
  · subst hother
    rw [Function.update_self, hsame]
  · rw [Function.update_of_ne hother]

section

variable (hordered : Ordered known initial rows phases order ahead)
include hordered

/-- A call without a fixed answer has no entry. -/
theorem Ordered.notMem (hnone : decided known (phases number) = none) :
    number ∉ order.map (·.number) := by
  intro hmem
  obtain ⟨⟨other, call, answer⟩, hentry, rfl⟩ := List.mem_map.mp hmem
  rw [(hordered.entries _ _ _).mp hentry] at hnone
  cases hnone

/-- A removal that is on its way has an entry. -/
theorem Ordered.mem_of_pending {entry : Text × RoleRow}
    (hpending : entry ∈ pending (phases number)) :
    number ∈ order.map (·.number) := by
  cases hphase : phases number with
  | removing call groupId remaining updatedCount =>
      refine List.mem_map.mpr ⟨⟨number, call, .count (updatedCount + remaining.length)⟩, ?_, rfl⟩
      rw [hordered.entries, hphase, decided]
  | _ =>
      rw [hphase] at hpending
      cases hpending

/-- A step that fixes no answer and writes nothing. -/
theorem Ordered.quiet (hdecided : decided known phase = decided known (phases number))
    (hpending : pending phase = pending (phases number)) :
    Ordered known initial rows (Function.update phases number phase) order ahead where
  once := hordered.once
  entries other call answer := by
    rw [update_same (decided known) hdecided]
    exact hordered.entries other call answer
  serves := hordered.serves
  lags := lags_of_pending hordered.lags (update_same pending hpending)
  places other entry hentry := by
    rw [update_same pending hpending] at hentry
    exact hordered.places other entry hentry

theorem Ordered.entries_update {later : List (Entry Call Answer)}
    (hperm : later.Perm (⟨number, call, answer⟩ :: order))
    (hnone : decided known (phases number) = none)
    (hdecided : decided known phase = some (call, answer)) (other : Nat) (otherCall : Call)
    (otherAnswer : Answer) :
    ⟨other, otherCall, otherAnswer⟩ ∈ later ↔
      decided known (Function.update phases number phase other) =
        some (otherCall, otherAnswer) := by
  rw [hperm.mem_iff, List.mem_cons]
  by_cases hother : other = number
  · subst hother
    rw [Function.update_self, hdecided]
    constructor
    · rintro (hsame | hmem)
      · obtain ⟨-, rfl, rfl⟩ := Entry.mk.inj hsame
        rfl
      · exact absurd (List.mem_map.mpr ⟨_, hmem, rfl⟩) (hordered.notMem hnone)
    · intro hsame
      obtain ⟨rfl, rfl⟩ := Prod.mk.inj (Option.some.inj hsame)
      exact Or.inl rfl
  · rw [Function.update_of_ne hother, ← hordered.entries]
    refine or_iff_right ?_
    intro hsame
    exact hother (Entry.mk.inj hsame).1

section

variable (hnone : decided known (phases number) = none)
  (hdecided : decided known phase = some (call, answer))
include hnone hdecided

theorem Ordered.place (hpending : pending phase = pending (phases number))
    (hempty : pending phase = []) {place : Nat}
    (hserve : serve known call (before (serve known) initial order place) =
      (answer, before (serve known) initial order place)) :
    Ordered known initial rows (Function.update phases number phase)
      (insertBefore ⟨number, call, answer⟩ place order) ahead where
  once := by
    have hperm := (insertBefore_perm ⟨number, call, answer⟩ place order).map
      (·.number)
    exact hperm.nodup_iff.mpr (List.nodup_cons.mpr ⟨hordered.notMem hnone, hordered.once⟩)
  entries := hordered.entries_update (insertBefore_perm _ _ _) hnone hdecided
  serves := hordered.serves.insertBefore hserve
  lags := lags_of_pending hordered.lags (update_same pending hpending)
  places other entry hentry := by
    rw [update_same pending hpending] at hentry
    have hother : other ≠ number := by
      rintro rfl
      rw [← hpending, hempty] at hentry
      cases hentry
    rw [before_insertBefore hserve hother]
    exact hordered.places other entry hentry

theorem Ordered.concat {after : List RoleRow} (hempty : pending (phases number) = [])
    (hanswer : (serve known call ahead).1 = answer)
    (hlags : List.Forall₂ (Lags (Function.update phases number phase))
      (serve known call ahead).2 after)
    (hplaces : ∀ entry ∈ pending phase, getRoleOfUser ahead entry.2.userId = some entry.2) :
    Ordered known initial after (Function.update phases number phase)
      (order ++ [⟨number, call, answer⟩]) (serve known call ahead).2 where
  once := by
    rw [List.map_append, List.map_singleton]
    refine List.nodup_append.mpr ⟨hordered.once, List.nodup_singleton _, ?_⟩
    intro one hone other hother hsame
    rw [List.mem_singleton.mp hother] at hsame
    obtain rfl : one = number := hsame
    exact hordered.notMem hnone hone
  entries := hordered.entries_update List.perm_append_comm hnone hdecided
  serves := hordered.serves.concat hanswer
  lags := hlags
  places other entry hentry := by
    by_cases hother : other = number
    · subst hother
      rw [Function.update_self] at hentry
      rw [before_concat hordered.serves (hordered.notMem hnone)]
      exact hplaces entry hentry
    · rw [Function.update_of_ne hother] at hentry
      rw [before_append _ (hordered.mem_of_pending hentry)]
      exact hordered.places other entry hentry

end

/-- There is a place in the order at which the row of a user is as it is now. -/
theorem Ordered.exists_place (hkeyed : Keyed rows) (hnone : decided known (phases number) = none)
    (userId : Text) :
    ∃ place, getRoleOfUser (before (serve known) initial order place) userId =
      getRoleOfUser rows userId := by
  by_cases hpending : ∃ other groupId row, (groupId, row) ∈ pending (phases other) ∧
      row ∈ rows ∧ row.userId = userId
  · obtain ⟨other, groupId, row, hrow, hmem, huser⟩ := hpending
    refine ⟨other, ?_⟩
    rw [(getRoleOfUser_eq_some hkeyed).mpr ⟨hmem, huser⟩, ← huser]
    exact hordered.places other _ hrow
  · refine ⟨number, ?_⟩
    rw [before_of_notMem hordered.serves (hordered.notMem hnone)]
    refine find_of_lags hordered.lags (fun _ _ => rfl) ?_
    intro row hmem huser other groupId hrow
    exact hpending ⟨other, groupId, row, hrow, hmem, huser⟩

variable {groupId : Text}

/-- A removal from all roles is still to write the rows with its group. -/
theorem Ordered.select (hkeyed : Keyed rows)
    (hphase : phases number = .reading (.removeGroupFromAllRoles groupId))
    (hno : ¬ Conflict known (Function.update phases number
      (afterReading rows (.removeGroupFromAllRoles groupId)))) :
    ∃ order ahead, Ordered known initial rows
      (Function.update phases number (afterReading rows (.removeGroupFromAllRoles groupId)))
      order ahead := by
  have hmem : ∀ removed row,
      (removed, row) ∈ pending (afterReading rows (.removeGroupFromAllRoles groupId)) ↔
        removed = groupId ∧ row ∈ rows ∧ hasGroup groupId row = true := by
    intro removed row
    rw [afterReading, pending, List.mem_map]
    constructor
    · rintro ⟨found, hfound, hsame⟩
      obtain ⟨rfl, rfl⟩ := Prod.mk.inj hsame
      exact ⟨rfl, List.mem_filter.mp hfound⟩
    · rintro ⟨rfl, hrow⟩
      exact ⟨row, List.mem_filter.mpr hrow, rfl⟩
  have hbefore : pending (phases number) = [] := by
    rw [hphase]
    rfl
  have hfree : ∀ row ∈ rows, hasGroup groupId row = true →
      ∀ other removed, (removed, row) ∉ pending (phases other) := by
    intro row hrow hgroup other removed hpending
    have hne : number ≠ other := by
      rintro rfl
      rw [hbefore] at hpending
      cases hpending
    refine hno ⟨number, other, row.userId, hne, ?_⟩
    rw [Function.update_self, Function.update_of_ne hne.symm]
    obtain ⟨hfirm, hrelies⟩ :=
      @reliesOn_of_pending known _ _ _ ((hmem groupId row).mpr ⟨rfl, hrow, hgroup⟩)
    obtain ⟨hfirmOther, hreliesOther⟩ := @reliesOn_of_pending known _ _ _ hpending
    exact ⟨hfirm, hfirmOther, hrelies, hreliesOther⟩
  have hanswer : (serve known (.removeGroupFromAllRoles groupId) ahead).1 =
      .count (rows.filter (hasGroup groupId)).length :=
    congrArg Answer.count (length_filter_of_lags hordered.lags hfree)
  have hnone : decided known (phases number) = none := by
    rw [hphase]
    rfl
  have hdecided : decided known (afterReading rows (.removeGroupFromAllRoles groupId)) =
      some (.removeGroupFromAllRoles groupId,
        .count (rows.filter (hasGroup groupId)).length) := by
    rw [afterReading, decided, Nat.zero_add]
  have hnew : ∀ row ∈ rows, hasGroup groupId row = true →
      (groupId, row) ∈ pending (Function.update phases number
        (afterReading rows (.removeGroupFromAllRoles groupId)) number) := by
    intro row hrow hgroup
    rw [Function.update_self]
    exact (hmem groupId row).mpr ⟨rfl, hrow, hgroup⟩
  refine ⟨_, _, hordered.concat hnone hdecided hbefore hanswer ?_ ?_⟩
  · refine lags_select hordered.lags hfree hnew ?_
    · intro row hgroup other removed
      by_cases hother : other = number
      · subst hother
        rw [Function.update_self, hmem, hbefore, hgroup]
        simp
      · rw [Function.update_of_ne hother]
  · rintro ⟨removed, row⟩ hentry
    obtain ⟨-, hrow, hgroup⟩ := (hmem removed row).mp hentry
    have hfound : getRoleOfUser rows row.userId = some row :=
      (getRoleOfUser_eq_some hkeyed).mpr ⟨hrow, rfl⟩
    refine (find_of_lags hordered.lags (fun _ _ => rfl) ?_).trans hfound
    intro other hother huser
    rw [List.inj_on_of_nodup_map hkeyed.users hother hrow huser]
    exact hfree row hrow hgroup

/-- The removal writes its next row, with which the rows catch up. -/
theorem Ordered.remove {row : RoleRow} {remaining : List RoleRow} {updatedCount : Nat}
    (hkeyed : Keyed rows)
    (hphase : phases number = .removing call groupId (row :: remaining) updatedCount)
    (hfound : getRoleOfUser rows row.userId = some row)
    (hshape : ((row :: remaining).map (·.userId)).Nodup)
    (hothers : ∀ other, other ≠ number → row.userId ∉ reliesOn known (phases other)) :
    Ordered known initial (updateRow row.id (withGroups (remainingGroups row [groupId])) rows)
      (Function.update phases number (.removing call groupId remaining (updatedCount + 1)))
      order ahead where
  once := hordered.once
  entries := by
    have hdecided : decided known (.removing call groupId remaining (updatedCount + 1)) =
        decided known (phases number) := by
      rw [hphase, decided, decided, List.length_cons, Nat.add_assoc, Nat.add_comm 1]
    intro other otherCall answer
    rw [update_same (decided known) hdecided]
    exact hordered.entries other otherCall answer
  serves := hordered.serves
  lags := by
    have hmem := ((getRoleOfUser_eq_some hkeyed).mp hfound).1
    refine lags_remove hordered.lags ?_ ?_ ⟨number, ?_⟩ ?_ ?_
    · intro other hother hid
      exact List.inj_on_of_nodup_map hkeyed.ids hother hmem hid
    · intro other removed hpending
      by_cases hother : other = number
      · subst hother
        rw [hphase] at hpending
        obtain ⟨found, -, hsame⟩ := List.mem_map.mp hpending
        exact (Prod.mk.inj hsame).1.symm
      · exact absurd (reliesOn_of_pending hpending).2 (hothers other hother)
    · rw [hphase]
      exact List.mem_cons_self
    · intro other huser place removed hpending
      by_cases hplace : place = number
      · subst hplace
        rw [Function.update_self] at hpending
        obtain ⟨found, hlater, hsame⟩ := List.mem_map.mp hpending
        obtain ⟨-, rfl⟩ := Prod.mk.inj hsame
        exact (List.nodup_cons.mp hshape).1 (List.mem_map.mpr ⟨found, hlater, huser⟩)
      · rw [Function.update_of_ne hplace] at hpending
        exact hothers place hplace (huser ▸ (reliesOn_of_pending hpending).2)
    · intro other hne place removed
      by_cases hplace : place = number
      · subst hplace
        rw [Function.update_self, hphase]
        simp [pending, hne]
      · rw [Function.update_of_ne hplace]
  places := by
    intro other entry hentry
    by_cases hother : other = number
    · subst hother
      rw [Function.update_self] at hentry
      refine hordered.places other entry ?_
      rw [hphase]
      exact List.mem_cons_of_mem _ hentry
    · rw [Function.update_of_ne hother] at hentry
      exact hordered.places other entry hentry

end

end Order

/-! ## One step -/

section Moves

variable {known : Known} {initial : List RoleRow} {store : Store} {phases : Nat → Phase}
  {number : Nat} {label : Statement} {outcome : Store × Phase} {order : List (Entry Call Answer)}
  {ahead : List RoleRow}

theorem call_of_decided {phase : Phase} {call : Call} {answer : Answer}
    (hdecided : decided known phase = some (call, answer)) : phase.call = some call := by
  cases phase with
  | readingTeacher current teacherRole groupId =>
      obtain ⟨failed, -, hsame⟩ := Option.map_eq_some_iff.mp hdecided
      exact congrArg some (Prod.mk.inj hsame).1
  | validatingGroups current roleId seen groupIds =>
      obtain ⟨failed, -, hsame⟩ := Option.map_eq_some_iff.mp hdecided
      exact congrArg some (Prod.mk.inj hsame).1
  | validatingRole current data uuid seen =>
      obtain ⟨failed, -, hsame⟩ := Option.map_eq_some_iff.mp hdecided
      exact congrArg some (Prod.mk.inj hsame).1
  | removing current groupId remaining updatedCount =>
      exact congrArg some (Prod.mk.inj (Option.some.inj hdecided)).1
  | settled current settledAnswer =>
      exact congrArg some (Prod.mk.inj (Option.some.inj hdecided)).1
  | _ => cases hdecided

theorem afterRole_call (call : Call) (roleId : Text) (groupIds : RoleRow → List Text)
    (found : Option RoleRow) : (afterRole call roleId groupIds found).call = some call := by
  cases found <;> rfl

theorem afterReading_call (rows : List RoleRow) (call : Call) :
    (afterReading rows call).call = some call := by
  cases call with
  | addGroupsToRole roleId groupIds => exact afterRole_call _ _ _ _
  | removeGroupsFromRole roleId groupIds => exact afterRole_call _ _ _ _
  | ensureTeacherRoleGroupAccess userId groupId createdBy uuid =>
      rw [afterReading]
      split
      · rfl
      · split <;> rfl
  | _ => rfl

/-- Only the removal from all roles leaves rows to be written. -/
theorem afterReading_kind {rows : List RoleRow} {call : Call}
    (hkind : ∀ groupId, call ≠ .removeGroupFromAllRoles groupId) :
    pending (afterReading rows call) = [] ∧
      ∀ current groupId remaining updatedCount,
        afterReading rows call ≠ .removing current groupId remaining updatedCount := by
  have hrole : ∀ call roleId groupIds (found : Option RoleRow),
      pending (afterRole call roleId groupIds found) = [] ∧
        ∀ current groupId remaining updatedCount,
          afterRole call roleId groupIds found ≠
            .removing current groupId remaining updatedCount := by
    intro call roleId groupIds found
    cases found <;> exact ⟨rfl, by intro _ _ _ _ h; cases h⟩
  cases call with
  | addGroupsToRole roleId groupIds => exact hrole _ _ _ _
  | removeGroupsFromRole roleId groupIds => exact hrole _ _ _ _
  | removeGroupFromAllRoles groupId => exact absurd rfl (hkind groupId)
  | ensureTeacherRoleGroupAccess userId groupId createdBy uuid =>
      rw [afterReading]
      split
      · exact ⟨rfl, by intro _ _ _ _ h; cases h⟩
      · split
        · exact ⟨rfl, by intro _ _ _ _ h; cases h⟩
        · exact ⟨rfl, by intro _ _ _ _ h; cases h⟩
  | _ => exact ⟨rfl, by intro _ _ _ _ h; cases h⟩

/-- Where two calls are both to write a row, they stay so. -/
theorem conflict_step (hkeyed : Keyed store.rows)
    (hknows : ∀ other, Knows known store.rows (phases other))
    (hundisturbed : ∀ userId, writes store.rows (phases number) = some userId →
      ∀ other, other ≠ number → userId ∉ reliesOn known (phases other))
    (hconflict : Conflict known phases)
    (hstep : step known label store (phases number) = some outcome) :
    Conflict known (Function.update phases number outcome.2) := by
  have hkeeps : ∀ one other userId, one ≠ other → firm known (phases one) = true →
      userId ∈ reliesOn known (phases one) → userId ∈ reliesOn known (phases other) →
        firm known (Function.update phases number outcome.2 one) = true ∧
          userId ∈ reliesOn known (Function.update phases number outcome.2 one) := by
    intro one other userId hne hfirm hone hother
    by_cases hsame : one = number
    · subst hsame
      rw [Function.update_self]
      rcases step_firm hkeyed (hknows one) hfirm hone hstep with hlater | hwrites
      · exact hlater
      · exact absurd hother (hundisturbed userId hwrites other hne.symm)
    · rw [Function.update_of_ne hsame]
      exact ⟨hfirm, hone⟩
  obtain ⟨one, other, userId, hne, hfirmOne, hfirmOther, hone, hother⟩ := hconflict
  obtain ⟨hfirst, hfirstUser⟩ := hkeeps one other userId hne hfirmOne hone hother
  obtain ⟨hsecond, hsecondUser⟩ := hkeeps other one userId hne.symm hfirmOther hother hone
  exact ⟨one, other, userId, hne, hfirst, hsecond, hfirstUser, hsecondUser⟩

/-- A user whose row is written is not the user of a row that others are still to
write. -/
theorem free_of_writes {userId : Text} (hnone : pending (phases number) = [])
    (hothers : ∀ other, other ≠ number → userId ∉ reliesOn known (phases other)) {row : RoleRow}
    (hrow : row.userId = userId) (other : Nat) (groupId : Text) :
    (groupId, row) ∉ pending (phases other) := by
  intro hpending
  by_cases hother : other = number
  · rw [hother, hnone] at hpending
    cases hpending
  · exact hothers other hother (hrow ▸ (reliesOn_of_pending hpending).2)

/-- The call is to make its only write. -/
structure AtWrite (known : Known) (call : Call) (phase : Phase) : Prop where
  before : pending phase = []
  undecided : decided known phase = none
  firm : firm known phase = true
  called : phase.call = some call

section

variable (hordered : Ordered known initial store.rows phases order ahead)
include hordered

/-- A call that has reached its write finds after the order what it has read. -/
theorem Ordered.agrees (hno : ¬ Conflict known phases) (hfirm : firm known (phases number) = true)
    (hnone : pending (phases number) = [])
    (hseen : Agrees store.rows (relies known (phases number))) :
    Agrees ahead (relies known (phases number)) := by
  intro entry hentry
  rw [← hseen entry hentry]
  refine find_of_lags hordered.lags (fun _ _ => rfl) ?_
  intro row _ huser
  exact free_of_relies hno hfirm hnone (List.mem_map.mpr ⟨entry, hentry, rfl⟩) huser

variable (hkeyed : Keyed store.rows) (hno : ¬ Conflict known phases)
include hkeyed hno

theorem ordered_updatingGroups {call : Call} {roleId : Text} {seen : Seen} {groupIds : List Text}
    (hphase : phases number = .updatingGroups call roleId seen groupIds)
    (hknows : Knows known store.rows (phases number))
    (hothers : ∀ userId, writes store.rows (phases number) = some userId →
      ∀ other, other ≠ number → userId ∉ reliesOn known (phases other)) :
    ∃ order ahead, Ordered known initial
      ((groupsWrite store.rows roleId groupIds).2.apply store.rows)
      (Function.update phases number
        (.settled call (call.answer (groupsWrite store.rows roleId groupIds).1))) order ahead := by
  obtain ⟨hbefore, hnone, hfirm, hcall⟩ : AtWrite known call (phases number) := by
    rw [hphase]
    exact ⟨rfl, rfl, rfl, rfl⟩
  have hserve := hknows.rest call hcall hnone ahead (keyed_of_lags hordered.lags hkeyed)
    (hordered.agrees hno hfirm hbefore hknows.seen)
  rw [hphase, rest] at hserve
  have hfree : ∀ row ∈ store.rows, row.id = roleId → ∀ other : RoleRow,
      other.userId = row.userId → ∀ place groupId, (groupId, other) ∉ pending (phases place) := by
    intro row hrow hid other huser
    refine free_of_writes hbefore (hothers row.userId ?_) huser
    rw [hphase, writes, (getRoleById_eq_some hkeyed).mpr ⟨hrow, hid⟩, Option.map_some]
  have hfind : getRoleById ahead roleId = getRoleById store.rows roleId :=
    find_of_lags hordered.lags (fun _ _ => rfl) fun row hrow hid => hfree row hrow hid row rfl
  have hanswer : (serve known call ahead).1 =
      call.answer (groupsWrite store.rows roleId groupIds).1 := by
    rw [hserve, finish, served, groupsWrite, groupsWrite, hfind]
  refine ⟨_, _, hordered.concat hnone rfl hbefore hanswer ?_ ?_⟩
  · rw [hserve]
    refine lags_of_pending
      (lags_updateRow (keepsKeys_withGroups _) hordered.lags hfree) (update_same pending ?_)
    rw [hbefore]
    rfl
  · intro entry hentry
    cases hentry

theorem ordered_writingRole {call : Call} {data : AssignRoleData} {uuid : Text}
    {groupIds : List Text} {existing : Option RoleRow}
    (hphase : phases number = .writingRole call data uuid groupIds existing)
    (hknows : Knows known store.rows (phases number))
    (hothers : ∀ userId, writes store.rows (phases number) = some userId →
      ∀ other, other ≠ number → userId ∉ reliesOn known (phases other)) :
    ∃ order ahead, Ordered known initial
      ((roleWrite known store.rows data uuid groupIds existing).2.apply store.rows)
      (Function.update phases number (.settled call
        (call.answer (roleWrite known store.rows data uuid groupIds existing).1))) order ahead := by
  obtain ⟨hbefore, hnone, hfirm, hcall⟩ : AtWrite known call (phases number) := by
    rw [hphase]
    exact ⟨rfl, rfl, rfl, rfl⟩
  have hexisting : getRoleOfUser store.rows data.userId = existing := by
    have hseen := hknows.seen
    rw [hphase] at hseen
    exact agrees_singleton.mp hseen
  have hserve := hknows.rest call hcall hnone ahead (keyed_of_lags hordered.lags hkeyed)
    (hordered.agrees hno hfirm hbefore hknows.seen)
  rw [hphase, rest] at hserve
  have hfree : ∀ row : RoleRow, row.userId = data.userId →
      ∀ place groupId, (groupId, row) ∉ pending (phases place) := by
    intro row huser
    refine free_of_writes hbefore (hothers data.userId ?_) huser
    rw [hphase, writes]
  have hsame : roleWrite known ahead data uuid groupIds existing =
      roleWrite known store.rows data uuid groupIds existing := by
    cases existing with
    | none => rw [roleWrite, roleWrite, violates_of_lags hordered.lags]
    | some row =>
        have huser := ((getRoleOfUser_eq_some hkeyed).mp hexisting).2
        have hfind : getRoleById ahead row.id = getRoleById store.rows row.id := by
          refine find_of_lags hordered.lags (fun _ _ => rfl) ?_
          intro other hother hid
          have hrow := ((getRoleOfUser_eq_some hkeyed).mp hexisting).1
          rw [List.inj_on_of_nodup_map hkeyed.ids hother hrow hid]
          exact hfree row huser
        rw [roleWrite, roleWrite, hfind]
  have hanswer : (serve known call ahead).1 =
      call.answer (roleWrite known store.rows data uuid groupIds existing).1 := by
    rw [hserve, finish, served, hsame]
  refine ⟨_, _, hordered.concat hnone rfl hbefore hanswer ?_ ?_⟩
  · rw [hserve, finish, served, hsame]
    refine lags_of_pending ?_ (update_same pending (by rw [hbefore]; rfl))
    rcases roleWrite_cases known store.rows data uuid groupIds existing with
      ⟨hwrite, -⟩ | ⟨row, rfl, hwrite⟩ | ⟨rfl, -, hwrite⟩
    · rw [hwrite]
      exact hordered.lags
    · rw [hwrite]
      refine lags_updateRow (keepsKeys_withRole _ _) hordered.lags ?_
      intro other hother hid found huser
      obtain ⟨hrow, hrowUser⟩ := (getRoleOfUser_eq_some hkeyed).mp hexisting
      rw [List.inj_on_of_nodup_map hkeyed.ids hother hrow hid, hrowUser] at huser
      exact hfree found huser
    · rw [hwrite]
      exact List.rel_append hordered.lags (.cons (Or.inl ⟨rfl, hfree _ rfl⟩) .nil)
  · intro entry hentry
    cases hentry

end

/-- A call whose first statement fixes its answer. -/
theorem serve_start {call : Call} {rows : List RoleRow} :
    serve known call rows = rest known rows (start call) := by
  cases call <;> rfl

theorem pending_start (call : Call) : pending (start call) = [] := by
  cases call <;> rfl

theorem start_kind (call current : Call) (groupId : Text) (remaining : List RoleRow)
    (updatedCount : Nat) : start call ≠ .removing current groupId remaining updatedCount := by
  cases call <;> exact fun h => Phase.noConfusion h

theorem start_call (call : Call) : (start call).call = some call := by
  cases call <;> rfl

theorem teacher_of_afterReading {rows other : List RoleRow} {call current : Call}
    {teacherRole : RoleRow} {groupId : Text} (hkeyed : Keyed rows)
    (hsame : SameReading rows other call)
    (hphase : afterReading rows call = .readingTeacher current teacherRole groupId) :
    getRoleOfUser other teacherRole.userId = some teacherRole := by
  have hrole : ∀ call roleId groupIds (found : Option RoleRow),
      afterRole call roleId groupIds found ≠ .readingTeacher current teacherRole groupId := by
    intro call roleId groupIds found
    cases found <;> exact fun h => Phase.noConfusion h
  cases call with
  | addGroupsToRole roleId groupIds => exact absurd hphase (hrole _ _ _ _)
  | removeGroupsFromRole roleId groupIds => exact absurd hphase (hrole _ _ _ _)
  | ensureTeacherRoleGroupAccess userId given createdBy uuid =>
      rw [afterReading] at hphase
      split at hphase
      · cases hphase
      · rename_i found hfound
        split at hphase
        · cases hphase
        · obtain ⟨-, rfl, -⟩ := Phase.readingTeacher.inj hphase
          obtain ⟨huser, hid⟩ := findTeacher_eq_some hkeyed hfound
          rw [hid]
          exact Eq.trans hsame huser
  | _ => cases hphase

section

variable (hordered : Ordered known initial store.rows phases order ahead) (hinitial : Keyed initial)
include hordered hinitial

theorem ordered_start {call : Call} (hphase : phases number = .idle) :
    ∃ order ahead,
      Ordered known initial store.rows (Function.update phases number (start call)) order ahead := by
  have hpending : pending (start call) = pending (phases number) := by
    rw [hphase, pending_start]
    rfl
  cases hdecided : decided known (start call) with
  | none =>
      refine ⟨_, _, hordered.quiet ?_ hpending⟩
      rw [hdecided, hphase]
      rfl
  | some outcome =>
      obtain ⟨current, answer⟩ := outcome
      obtain rfl := Option.some.inj ((call_of_decided hdecided).symm.trans (start_call call))
      have hnone : decided known (phases number) = none := by
        rw [hphase]
        rfl
      have hserve : serve known current
          (before (serve known) initial order number) =
            (answer, before (serve known) initial order number) := by
        rw [serve_start]
        refine rest_of_decided hdecided (start_kind _)
          (before_invariant hinitial serve_keyed number) ?_
        intro other teacherRole groupId hteacher
        cases current <;> cases hteacher
      exact ⟨_, _, hordered.place hnone hdecided hpending (pending_start _) hserve⟩

theorem ordered_reading {call : Call} (hkeyed : Keyed store.rows)
    (hphase : phases number = .reading call)
    (hno : ¬ Conflict known (Function.update phases number (afterReading store.rows call))) :
    ∃ order ahead, Ordered known initial store.rows
      (Function.update phases number (afterReading store.rows call)) order ahead := by
  by_cases hkind : ∃ groupId, call = .removeGroupFromAllRoles groupId
  · obtain ⟨groupId, rfl⟩ := hkind
    exact hordered.select hkeyed hphase hno
  · have hkind : ∀ groupId, call ≠ .removeGroupFromAllRoles groupId :=
      fun groupId h => hkind ⟨groupId, h⟩
    obtain ⟨hempty, hremoving⟩ := @afterReading_kind store.rows call hkind
    have hpending : pending (afterReading store.rows call) = pending (phases number) := by
      rw [hphase, hempty]
      rfl
    have hnone : decided known (phases number) = none := by
      rw [hphase]
      rfl
    cases hdecided : decided known (afterReading store.rows call) with
    | none => exact ⟨_, _, hordered.quiet (hdecided.trans hnone.symm) hpending⟩
    | some outcome =>
        obtain ⟨current, answer⟩ := outcome
        obtain rfl := Option.some.inj
          ((call_of_decided hdecided).symm.trans (afterReading_call store.rows call))
        obtain ⟨place, hsame⟩ : ∃ place, SameReading store.rows
            (before (serve known) initial order place) current := by
          rcases sameReading_of_user hkeyed current hkind with ⟨userId, huser⟩ | hids
          · obtain ⟨place, hplace⟩ := hordered.exists_place hkeyed hnone userId
            exact ⟨place, huser _
              (before_invariant hinitial serve_keyed place) hplace⟩
          · refine ⟨number, hids _ ?_⟩
            rw [before_of_notMem hordered.serves (hordered.notMem hnone)]
            exact map_of_lags hordered.lags fun _ _ => rfl
        have hplaced : Keyed (before (serve known) initial order place) :=
          before_invariant hinitial serve_keyed place
        have hserve : serve known current
            (before (serve known) initial order place) =
              (answer, before (serve known) initial order place) := by
          rw [serve_of_sameReading hkeyed hplaced hsame]
          refine rest_of_decided hdecided hremoving hplaced ?_
          intro other teacherRole groupId hteacher
          exact teacher_of_afterReading hkeyed hsame hteacher
        exact ⟨_, _, hordered.place hnone hdecided hpending hempty hserve⟩

theorem ordered_step (hkeyed : Keyed store.rows)
    (hknows : ∀ other, Knows known store.rows (phases other))
    (hothers : ∀ userId, writes store.rows (phases number) = some userId →
      ∀ other, other ≠ number → userId ∉ reliesOn known (phases other))
    (hstep : step known label store (phases number) = some outcome)
    (hno : ¬ Conflict known (Function.update phases number outcome.2)) :
    ∃ order ahead, Ordered known initial outcome.1.rows
      (Function.update phases number outcome.2) order ahead := by
  have hbefore : ¬ Conflict known phases :=
    fun hconflict => hno (conflict_step hkeyed hknows hothers hconflict hstep)
  have hquiet : outcome.1.rows = store.rows →
      decided known outcome.2 = decided known (phases number) →
        pending outcome.2 = pending (phases number) →
          ∃ order ahead, Ordered known initial outcome.1.rows
            (Function.update phases number outcome.2) order ahead := by
    intro hrows hdecided hpending
    rw [hrows]
    exact ⟨_, _, hordered.quiet hdecided hpending⟩
  have hmine := hknows number
  generalize hphase : phases number = phase at hstep hmine hquiet
  revert hstep
  fun_cases step known label store phase
  case case1 call =>
    rintro ⟨⟩
    exact ordered_start hordered hinitial hphase
  case case2 call =>
    rintro ⟨⟩
    exact ordered_reading hordered hinitial hkeyed hphase hno
  case case3 call teacherRole groupId =>
    rintro ⟨⟩
    have hfound : getRoleOfUser store.rows teacherRole.userId = some teacherRole :=
      agrees_singleton.mp hmine.seen
    refine hquiet rfl ?_ ?_
    · rw [afterRole_eq hkeyed hfound]
      rfl
    · rw [afterRole_eq hkeyed hfound]
      rfl
  case case4 call roleId seen groupIds message herror =>
    rintro ⟨⟩
    refine hquiet rfl ?_ rfl
    rw [decided, decided, failure, herror, Option.map_some]
  case case5 call roleId seen groupIds validated hvalidated =>
    rintro ⟨⟩
    have hnone : failure known groupIds = none := by rw [failure, hvalidated]
    refine hquiet rfl (Eq.symm ?_) rfl
    rw [decided, hnone]
    rfl
  case case6 call roleId seen groupIds =>
    rintro ⟨⟩
    exact ordered_updatingGroups hordered hkeyed hbefore hphase (hknows number) hothers
  case case7 call data uuid seen message herror =>
    rintro ⟨⟩
    refine hquiet rfl ?_ rfl
    rw [decided, decided, failure, herror, Option.map_some]
  case case8 call data uuid seen validated hvalidated =>
    rintro ⟨⟩
    have hnone : failure known data.groupIds = none := by rw [failure, hvalidated]
    refine hquiet rfl (Eq.symm ?_) rfl
    rw [decided, hnone]
    rfl
  case case9 call data uuid seen groupIds =>
    rintro ⟨⟩
    exact hquiet rfl rfl rfl
  case case10 call data uuid groupIds existing =>
    rintro ⟨⟩
    exact ordered_writingRole hordered hkeyed hbefore hphase (hknows number) hothers
  case case11 call groupId row remaining updatedCount =>
    rintro ⟨⟩
    refine ⟨_, _, hordered.remove hkeyed hphase hmine.found hmine.shape ?_⟩
    refine hothers row.userId ?_
    rw [hphase, writes]
  case case12 call updatedCount groupId =>
    rintro ⟨⟩
    exact hquiet rfl rfl rfl
  case case13 =>
    rintro ⟨⟩

end

end Moves

/-! ## Every run -/

variable {state : Interleaved Store Phase}

/-- The rows are told apart, and every call knows what it should. -/
theorem known_of_undisturbed {known : Known} {initial : List RoleRow}
    (hreach : (changes known initial).ReachableBy (Undisturbed known) state) :
    (Keyed state.shared.rows ∧ NeverLowers state.shared) ∧
      ∀ number, Knows known state.shared.rows (state.phase number) := by
  refine @Interleaved.interference_free_among Store Phase Statement (Fresh initial) .idle _
    (fun store => Keyed store.rows ∧ NeverLowers store)
    (fun store phase => Knows known store.rows phase) (Undisturbed known) ?_ ?_ state hreach
  · intro store hfresh
    have hkeyed : Keyed store.rows := hfresh.rows ▸ hfresh.keyed
    refine ⟨⟨hkeyed, ?_⟩, agrees_nil _, trivial, ?_⟩
    · intro change hchange
      rw [hfresh.changes] at hchange
      cases hchange
    · intro call hcall
      cases hcall
  · rintro before number label outcome ⟨hkeyed, hnever⟩ hknows ⟨hwrites, hmeets⟩ hmove
    refine ⟨⟨step_keyed hkeyed hmove, step_neverLowers hkeyed (hknows number) hnever hmove⟩,
      step_knows hkeyed (hknows number) hmeets hmove, ?_⟩
    intro other hother
    refine ⟨?_, (hknows other).shape, (hknows other).rest⟩
    intro entry hentry
    refine (step_user hkeyed (hknows number) hmove ?_).trans ((hknows other).seen entry hentry)
    intro hsame
    exact hwrites entry.1 hsame other hother (List.mem_map_of_mem hentry)

/-- In every state there is an order, unless two calls are both to write one row. -/
theorem ordered_of_undisturbed {known : Known} {initial : List RoleRow}
    (hreach : (changes known initial).ReachableBy (Undisturbed known) state) :
    Keyed initial ∧ Trimmed initial ∧ (Conflict known state.phase ∨
      ∃ order ahead, Ordered known initial state.shared.rows state.phase order ahead) := by
  induction hreach with
  | @start state hinit =>
      obtain ⟨hfresh, hidle⟩ := hinit
      have hpending : ∀ number, pending (state.phase number) = [] := by
        intro number
        rw [hidle number]
        rfl
      refine ⟨hfresh.keyed, hfresh.trimmed, Or.inr ⟨[], initial, List.nodup_nil, ?_, rfl, ?_, ?_⟩⟩
      · intro number call answer
        rw [hidle number]
        exact ⟨fun h => absurd h List.not_mem_nil, by intro h; cases h⟩
      · rw [hfresh.rows]
        refine List.forall₂_same.mpr fun row _ => Or.inl ⟨rfl, ?_⟩
        intro number groupId
        rw [hpending number]
        exact List.not_mem_nil
      · intro number entry hentry
        rw [hpending number] at hentry
        cases hentry
  | @step source target label hbefore hmeets hstep ih =>
      obtain ⟨hinitial, htrimmed, hcases⟩ := ih
      obtain ⟨⟨hkeyed, -⟩, hknows⟩ := known_of_undisturbed hbefore
      obtain ⟨outcome, hmove, rfl⟩ := hstep
      refine ⟨hinitial, htrimmed, ?_⟩
      by_cases hconflict : Conflict known (Function.update source.phase label.1 outcome.2)
      · exact Or.inl hconflict
      · refine Or.inr ?_
        rcases hcases with hold | ⟨order, ahead, hordered⟩
        · exact absurd (conflict_step hkeyed hknows hmeets.1 hold hmove) hconflict
        · exact ordered_step hordered hinitial hkeyed hknows hmeets.1 hmove hconflict

/-- A call that has ended, or has not begun, relies on nothing. -/
theorem Quiescent.nothing (hquiescent : Quiescent state) (known : Known) (number : Nat) :
    reliesOn known (state.phase number) = [] ∧ pending (state.phase number) = [] := by
  rcases hquiescent number with hidle | ⟨call, answer, hsettled⟩
  · rw [hidle]
    exact ⟨rfl, rfl⟩
  · rw [hsettled]
    exact ⟨rfl, rfl⟩

/-- Once every call has ended, the order explains the state. -/
theorem Ordered.explains {known : Known} {initial ahead : List RoleRow}
    {order : List (Entry Call Answer)}
    (hordered : Ordered known initial state.shared.rows state.phase order ahead)
    (hquiescent : Quiescent state) (hinitial : Keyed initial) (htrimmed : Trimmed initial) :
    Explains known initial state order := by
  obtain rfl : ahead = state.shared.rows := by
    refine List.forall₂_eq_eq_eq ▸ hordered.lags.imp ?_
    intro one row hrow
    rcases hrow with ⟨rfl, -⟩ | ⟨number, groupId, hpending, -⟩
    · rfl
    · rw [(hquiescent.nothing known number).2] at hpending
      cases hpending
  refine ⟨hordered.once, ?_, hordered.serves, ?_⟩
  · intro number call answer
    rw [hordered.entries]
    rcases hquiescent number with hidle | ⟨current, given, hsettled⟩
    · rw [hidle]
      constructor
      · intro hdecided
        cases hdecided
      · intro hphase
        cases hphase
    · rw [hsettled, decided, Option.some.injEq, Prod.mk.injEq, Phase.settled.injEq]
  · rintro earlier entry later rfl row hrow groupId hgroup hremoves
    obtain ⟨middle, hbefore, hanswer, hafter⟩ :=
      serves_append.mp hordered.serves
    obtain ⟨hkeyed, hstored⟩ := stored_of_serves hbefore hinitial htrimmed
    have hmiddle : Keyed (serve known entry.call middle).2 := serve_keyed entry.call middle hkeyed
    rw [← hanswer] at hremoves
    have hwithout := without_of_removes hkeyed hstored (kept_of_serves hafter)
      (hafter.invariant hmiddle serve_keyed) hrow hremoves
    exact gives_of_serves hafter hmiddle (serve_trimmed hkeyed hstored) hrow hgroup hwithout

/-- In every run in which no call writes a row between another's reading and writing
of it, and none makes a teacher of an administrator, nothing is lost. -/
theorem serialised_of_undisturbed {known : Known} {initial : List RoleRow}
    {state : Interleaved Store Phase}
    (hreach : (changes known initial).ReachableBy (Undisturbed known) state) :
    Serialised known initial state := by
  obtain ⟨⟨-, hnever⟩, -⟩ := known_of_undisturbed hreach
  obtain ⟨hinitial, htrimmed, hcases⟩ := ordered_of_undisturbed hreach
  refine ⟨?_, hnever⟩
  intro hquiescent
  rcases hcases with ⟨one, other, userId, -, -, -, hone, -⟩ | ⟨order, ahead, hordered⟩
  · rw [(hquiescent.nothing known one).1] at hone
    cases hone
  · exact ⟨order, hordered.explains hquiescent hinitial htrimmed⟩

/-! ## Two calls that add a group -/

/-- Three groups and a user. -/
def exampleKnown : Known where
  groups := ["algebra".toList, "biology".toList, "chemistry".toList]
  users := ["user_1".toList]

def exampleRow (groupIds : List Text) : RoleRow where
  id := "role_1".toList
  userId := "user_1".toList
  role := "teacher".toList
  groupIds := some groupIds
  createdBy := none

def exampleRows : List RoleRow := [exampleRow ["algebra".toList]]

def oneTeacher : Interleaved Store Phase where
  shared := { rows := exampleRows, changes := [] }
  phase _ := .idle

theorem oneTeacher_init : (changes exampleKnown exampleRows).init oneTeacher := by
  refine ⟨⟨rfl, ⟨List.nodup_singleton _, List.nodup_singleton _⟩, ?_, rfl⟩, fun _ => rfl⟩
  intro row hrow groupId hgroup
  rw [List.mem_singleton.mp hrow] at hgroup
  rw [List.mem_singleton.mp hgroup]
  decide

def addGroup (groupId : String) : Call := .addGroupsToRole "role_1".toList [groupId.toList]

/-- The rows of two teachers. -/
def twoRows : List RoleRow :=
  exampleRow ["algebra".toList] ::
    [{ exampleRow ["biology".toList, "algebra".toList] with
       id := "role_2".toList
       userId := "user_2".toList }]

/-- An addition, and the removal of a group from both rows. -/
theorem alone_serve_twoTeachers :
    EndsWith exampleKnown (⟨twoRows, []⟩, start (addGroup "biology")) (addGroup "biology")
        (serve exampleKnown (addGroup "biology") twoRows) ∧
      EndsWith exampleKnown
        (⟨twoRows, []⟩, start (.removeGroupFromAllRoles "algebra".toList))
        (.removeGroupFromAllRoles "algebra".toList)
        (serve exampleKnown (.removeGroupFromAllRoles "algebra".toList) twoRows) :=
  ⟨alone_serve _ _ ⟨by decide, by decide⟩, alone_serve _ _ ⟨by decide, by decide⟩⟩

/-- Both calls read the role before either writes it. -/
def twoAdditions : List (Nat × Statement) :=
  [(0, .start (addGroup "biology")), (1, .start (addGroup "chemistry")), (0, .next), (1, .next),
    (0, .next), (1, .next), (0, .next), (1, .next)]

def firstAddition : Entry Call Answer where
  number := 0
  call := addGroup "biology"
  answer := .role (some (exampleRow ["algebra".toList, "biology".toList]))

def secondAddition : Entry Call Answer where
  number := 1
  call := addGroup "chemistry"
  answer := .role (some (exampleRow ["algebra".toList, "chemistry".toList]))

/-- The role without the group of the first call. -/
def lostRows : List RoleRow := [exampleRow ["algebra".toList, "chemistry".toList]]

/-- Each order of the two calls leaves both groups in the role. -/
theorem twoAdditions_unordered :
    ¬ Serves (serve exampleKnown) exampleRows [firstAddition, secondAddition] lostRows ∧
      ¬ Serves (serve exampleKnown) exampleRows [secondAddition, firstAddition] lostRows := by
  constructor
  · rintro ⟨-, -, hrows⟩
    have hrows : _ = lostRows := hrows
    exact absurd hrows (by decide)
  · rintro ⟨-, -, hrows⟩
    have hrows : _ = lostRows := hrows
    exact absurd hrows (by decide)

theorem twoAdditions_phases :
    (Interleaved.run (move exampleKnown) oneTeacher twoAdditions).map
        (fun state => (state.phase 0, state.phase 1, state.shared.rows)) =
      some (.settled firstAddition.call firstAddition.answer,
        .settled secondAddition.call secondAddition.answer, lostRows) := by
  decide

/-- The group of the first call is lost. -/
theorem addition_lost :
    ∃ state, (changes exampleKnown exampleRows).Reachable state ∧ state.shared.rows = lostRows ∧
      ¬ Serialised exampleKnown exampleRows state := by
  obtain ⟨state, hstate, hphases⟩ := Option.map_eq_some_iff.mp twoAdditions_phases
  obtain ⟨hfirst, hrest⟩ := Prod.mk.inj hphases
  obtain ⟨hsecond, hrows⟩ := Prod.mk.inj hrest
  have hidle : ∀ number, 2 ≤ number → state.phase number = .idle := by
    intro number hnumber
    refine Interleaved.phase_run hstate ?_
    intro label hlabel hsame
    have hall : twoAdditions.all (fun label => label.1 < 2) = true := by decide
    have hbound : label.1 < 2 := by simpa using List.all_eq_true.mp hall label hlabel
    exact absurd (hsame ▸ hbound) (Nat.not_lt.mpr hnumber)
  have hcases : ∀ number, number = 0 ∨ number = 1 ∨ 2 ≤ number := by
    intro number
    omega
  refine ⟨state, Interleaved.reachable_run (.start oneTeacher_init) hstate, hrows, ?_⟩
  intro hserialised
  have hquiescent : Quiescent state := by
    intro number
    rcases hcases number with rfl | rfl | hlater
    · exact Or.inr ⟨_, _, hfirst⟩
    · exact Or.inr ⟨_, _, hsecond⟩
    · exact Or.inl (hidle number hlater)
  obtain ⟨order, hexplains⟩ := hserialised.explained hquiescent
  have hentries : ∀ entry, entry ∈ order ↔ entry = firstAddition ∨ entry = secondAddition := by
    rintro ⟨number, call, answer⟩
    rw [hexplains.entries]
    rcases hcases number with rfl | rfl | hlater
    · rw [hfirst]
      simp [firstAddition, secondAddition, eq_comm]
    · rw [hsecond]
      simp [firstAddition, secondAddition, eq_comm]
    · rw [hidle number hlater]
      constructor
      · intro hphase
        cases hphase
      · intro hentry
        have hnumber : number = 0 ∨ number = 1 :=
          hentry.imp (congrArg Entry.number) (congrArg Entry.number)
        omega
  have hperm : order.Perm [firstAddition, secondAddition] := by
    refine (List.perm_ext_iff_of_nodup (hexplains.once.of_map _) (by decide)).mpr ?_
    simpa using hentries
  have hserves := hexplains.serves
  rw [hrows] at hserves
  rcases List.perm_pair.mp hperm with rfl | rfl
  · exact twoAdditions_unordered.1 hserves
  · exact twoAdditions_unordered.2 hserves

/-- A group is added, and taken from all roles after it. -/
def additionThenRemoval : List (Nat × Statement) :=
  [(0, .start (addGroup "biology")), (0, .next), (0, .next), (0, .next),
    (1, .start (.removeGroupFromAllRoles "biology".toList)), (1, .next), (1, .next), (1, .next)]

/-- The condition, for two calls. -/
def undisturbedBool (known : Known) (state : Interleaved Store Phase) (label : Nat × Statement) :
    Bool :=
  (label.1 < 2) && !meetsAdmin state.shared.rows (state.phase label.1) &&
    (writes state.shared.rows (state.phase label.1)).all fun userId =>
      (List.range 2).all fun other =>
        other = label.1 || !((relies known (state.phase other)).map Prod.fst).contains userId

theorem undisturbed_of_bool {known : Known} (state : Interleaved Store Phase)
    (label : Nat × Statement) (hrest : ∀ number, 2 ≤ number → state.phase number = .idle)
    (htest : undisturbedBool known state label = true) :
    label.1 < 2 ∧ Undisturbed known state label := by
  simp only [undisturbedBool, Bool.and_eq_true, decide_eq_true_eq, Bool.not_eq_true',
    Option.all_eq_true, List.all_eq_true, List.mem_range, Bool.or_eq_true,
    List.contains_eq_mem, decide_eq_false_iff_not] at htest
  obtain ⟨⟨hbound, hmeets⟩, hwrites⟩ := htest
  refine ⟨hbound, ?_, hmeets⟩
  intro userId huser other hother
  by_cases hsecond : other < 2
  · exact (hwrites userId huser other hsecond).resolve_left hother
  · rw [hrest other (Nat.not_lt.mp hsecond)]
    exact List.not_mem_nil

theorem serialised_additionThenRemoval :
    ∃ state, (changes exampleKnown exampleRows).Reachable state ∧
      state.shared.rows = exampleRows ∧ Serialised exampleKnown exampleRows state := by
  have hrun : ((TransitionSystem.runBy (undisturbedBool exampleKnown)
      (Interleaved.stepOf (move exampleKnown)) oneTeacher additionThenRemoval).map
        fun state => state.shared.rows) = some exampleRows := by
    decide
  obtain ⟨state, hstate, hrows⟩ := Option.map_eq_some_iff.mp hrun
  have hreach := Interleaved.reachableBy_first 2 undisturbed_of_bool _ (.start oneTeacher_init)
    (fun _ _ => rfl) hstate
  exact ⟨state, hreach.reachable, hrows, serialised_of_undisturbed hreach⟩

end OpenPath.Api.RoleGroups
