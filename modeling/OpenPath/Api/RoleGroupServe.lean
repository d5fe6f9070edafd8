/-
# The role calls on their own

What a call leaves when nothing comes between its statements: rows that are told
apart, groups as the commands store them, and no group but those that were there and
those that the call gives.
-/

import OpenPath.Api.RoleGroups

namespace OpenPath.Api.RoleGroups

open Accounts Auth

/-! ## Rows -/

variable {rows : List RoleRow} {key : RoleRow → Text} {value : Text}

theorem find_key {row : RoleRow} (hnodup : (rows.map key).Nodup) :
    rows.find? (fun other => key other = value) = some row ↔ row ∈ rows ∧ key row = value := by
  constructor
  · intro hfound
    exact ⟨List.mem_of_find?_eq_some hfound, by simpa using List.find?_some hfound⟩
  · rintro ⟨hrow, hkey⟩
    cases hfound : rows.find? (fun other => key other = value) with
    | none => simpa [hkey] using List.find?_eq_none.mp hfound row hrow
    | some other =>
        have hother : key other = value := by simpa using List.find?_some hfound
        rw [List.inj_on_of_nodup_map hnodup (List.mem_of_find?_eq_some hfound) hrow
          (hother.trans hkey.symm)]

theorem find_key_none :
    rows.find? (fun other => key other = value) = none ↔ value ∉ rows.map key := by
  simp [List.find?_eq_none]

section Rows

variable {rows : List RoleRow} {row : RoleRow} {roleId userId : Text}
  {change : RoleRow → RoleRow}

section

variable (hkeyed : Keyed rows)
include hkeyed

theorem getRoleById_eq_some :
    getRoleById rows roleId = some row ↔ row ∈ rows ∧ row.id = roleId :=
  find_key hkeyed.ids

theorem getRoleOfUser_eq_some :
    getRoleOfUser rows userId = some row ↔ row ∈ rows ∧ row.userId = userId :=
  find_key hkeyed.users

theorem getRoleById_of_user (huser : getRoleOfUser rows userId = some row) :
    getRoleById rows row.id = some row :=
  (getRoleById_eq_some hkeyed).mpr ⟨((getRoleOfUser_eq_some hkeyed).mp huser).1, rfl⟩

theorem getRoleOfUser_of_id (hid : getRoleById rows roleId = some row) :
    getRoleOfUser rows row.userId = some row :=
  (getRoleOfUser_eq_some hkeyed).mpr ⟨((getRoleById_eq_some hkeyed).mp hid).1, rfl⟩

theorem findTeacher_eq :
    findTeacher rows userId =
      (getRoleOfUser rows userId).filter fun row => row.role = "teacher".toList := by
  cases hfound : getRoleOfUser rows userId with
  | none =>
      have hnone : getUserRoles rows userId = [] := by
        simpa [getUserRoles, getRoleOfUser, List.filter_eq_nil_iff, List.find?_eq_none] using hfound
      rw [findTeacher, hnone]
      rfl
  | some row =>
      have hone : getUserRoles rows userId = [row] := by
        obtain ⟨hrow, huser⟩ := (getRoleOfUser_eq_some hkeyed).mp hfound
        have hnodup : rows.Nodup := hkeyed.users.of_map _
        refine List.perm_singleton.mp ?_
        refine (List.perm_ext_iff_of_nodup (hnodup.filter _) (List.nodup_singleton row)).mpr ?_
        intro other
        rw [List.mem_filter, List.mem_singleton, decide_eq_true_eq]
        constructor
        · rintro ⟨hother, hsame⟩
          exact List.inj_on_of_nodup_map hkeyed.users hother hrow (hsame.trans huser.symm)
        · rintro rfl
          exact ⟨hrow, huser⟩
      rw [findTeacher, hone, List.find?_singleton, Option.filter_some]

theorem findTeacher_eq_some (hfound : findTeacher rows userId = some row) :
    getRoleOfUser rows userId = some row ∧ row.userId = userId := by
  rw [findTeacher_eq hkeyed, Option.filter_eq_some_iff] at hfound
  exact ⟨hfound.1, ((getRoleOfUser_eq_some hkeyed).mp hfound.1).2⟩

end

/-- A change that leaves the identifier and the user. -/
structure KeepsKeys (change : RoleRow → RoleRow) : Prop where
  id : ∀ row, (change row).id = row.id
  userId : ∀ row, (change row).userId = row.userId

theorem keepsKeys_withGroups (groupIds : List Text) : KeepsKeys (withGroups groupIds) :=
  ⟨fun _ => rfl, fun _ => rfl⟩

theorem keepsKeys_withRole (data : AssignRoleData) (groupIds : List Text) :
    KeepsKeys (withRole data groupIds) :=
  ⟨fun _ => rfl, fun _ => rfl⟩

theorem map_updateRow {key : RoleRow → Text} (hkey : ∀ row, key (change row) = key row) :
    (updateRow roleId change rows).map key = rows.map key := by
  rw [updateRow, List.map_map]
  apply List.map_congr_left
  intro row hrow
  rw [Function.comp_apply]
  split
  · exact hkey row
  · rfl

theorem Keyed.updateRow (hkeyed : Keyed rows) (hkeeps : KeepsKeys change) :
    Keyed (updateRow roleId change rows) where
  ids := by
    rw [map_updateRow hkeeps.id]
    exact hkeyed.ids
  users := by
    rw [map_updateRow hkeeps.userId]
    exact hkeyed.users

theorem getRoleOfUser_updateRow (hkeeps : KeepsKeys change)
    (hother : ∀ row ∈ rows, row.id = roleId → row.userId ≠ userId) :
    getRoleOfUser (updateRow roleId change rows) userId = getRoleOfUser rows userId := by
  induction rows with
  | nil => rfl
  | cons row rest ih =>
      have hrest := ih fun other hmem => hother other (List.mem_cons_of_mem _ hmem)
      simp only [getRoleOfUser, RoleGroups.updateRow, List.map_cons, List.find?_cons] at hrest ⊢
      by_cases hid : row.id = roleId
      · have hne : row.userId ≠ userId := hother row List.mem_cons_self hid
        simp only [hid, if_true, hkeeps.userId, hne, decide_false]
        exact hrest
      · simp only [hid, if_false]
        split
        · rfl
        · exact hrest

theorem Keyed.concat (hkeyed : Keyed rows) (hid : row.id ∉ rows.map (·.id))
    (huser : row.userId ∉ rows.map (·.userId)) : Keyed (rows ++ [row]) where
  ids := by
    rw [List.map_append, List.map_singleton]
    exact List.nodup_append.mpr ⟨hkeyed.ids, List.nodup_singleton _, by
      intro one hone other hother hsame
      rw [List.mem_singleton.mp hother] at hsame
      exact hid (hsame ▸ hone)⟩
  users := by
    rw [List.map_append, List.map_singleton]
    exact List.nodup_append.mpr ⟨hkeyed.users, List.nodup_singleton _, by
      intro one hone other hother hsame
      rw [List.mem_singleton.mp hother] at hsame
      exact huser (hsame ▸ hone)⟩

theorem violates_eq_false {known : Known} (hno : violates known rows row = false) :
    row.id ∉ rows.map (·.id) ∧ row.userId ∉ rows.map (·.userId) := by
  simp only [violates, Bool.or_eq_false_iff, List.any_eq_false, decide_eq_true_eq, not_or,
    Bool.or_eq_true] at hno
  obtain ⟨⟨hrows, -⟩, -⟩ := hno
  refine ⟨?_, ?_⟩
  · intro hmem
    obtain ⟨other, hother, hsame⟩ := List.mem_map.mp hmem
    exact (hrows other hother).1 hsame
  · intro hmem
    obtain ⟨other, hother, hsame⟩ := List.mem_map.mp hmem
    exact (hrows other hother).2 hsame

end Rows

/-! ## Every call leaves the rows told apart -/

section Serve

variable {known : Known}

theorem roleWrite_cases (known : Known) (rows : List RoleRow) (data : AssignRoleData)
    (uuid : Text) (groupIds : List Text) (existing : Option RoleRow) :
    ((roleWrite known rows data uuid groupIds existing).2 = .none ∧
      ∀ row, (roleWrite known rows data uuid groupIds existing).1 ≠ .role (some row)) ∨
      (∃ row, existing = some row ∧ (roleWrite known rows data uuid groupIds existing).2 =
        .update row.id (withRole data groupIds)) ∨
      (existing = none ∧ violates known rows (newRow data uuid groupIds) = false ∧
        (roleWrite known rows data uuid groupIds existing).2 =
          .insert (newRow data uuid groupIds)) := by
  cases existing with
  | none =>
      rw [roleWrite]
      split
      · exact Or.inl ⟨rfl, fun _ h => Answer.noConfusion h⟩
      · rename_i hno
        exact Or.inr (Or.inr ⟨rfl, by simpa using hno, rfl⟩)
  | some row =>
      rw [roleWrite]
      split
      · split
        · exact Or.inr (Or.inl ⟨row, rfl, rfl⟩)
        · exact Or.inl ⟨rfl, fun _ h => Answer.noConfusion h⟩
      · exact Or.inl ⟨rfl, fun _ h => Answer.noConfusion h⟩

variable {rows : List RoleRow}

theorem keyed_roleWrite (hkeyed : Keyed rows) (data : AssignRoleData) (uuid : Text)
    (groupIds : List Text) (existing : Option RoleRow) :
    Keyed ((roleWrite known rows data uuid groupIds existing).2.apply rows) := by
  rcases roleWrite_cases known rows data uuid groupIds existing with
    ⟨hwrite, -⟩ | ⟨row, -, hwrite⟩ | ⟨-, hno, hwrite⟩
  · rw [hwrite]
    exact hkeyed
  · rw [hwrite]
    exact hkeyed.updateRow (keepsKeys_withRole _ _)
  · rw [hwrite]
    exact hkeyed.concat (violates_eq_false hno).1 (violates_eq_false hno).2

theorem keyed_updateRoleGroups (hkeyed : Keyed rows) (roleId : Text) (groupIds : List Text) :
    Keyed (updateRoleGroups known rows roleId groupIds).2 := by
  rw [updateRoleGroups]
  split
  · exact hkeyed
  · exact hkeyed.updateRow (keepsKeys_withGroups _)

theorem keyed_assignRole (hkeyed : Keyed rows) (data : AssignRoleData) (uuid : Text) :
    Keyed (assignRole known rows data uuid).2 := by
  rw [assignRole]
  split
  · exact hkeyed
  · exact keyed_roleWrite hkeyed data uuid _ _

theorem keyed_addGroupsToRole (hkeyed : Keyed rows) (roleId : Text) (groupIds : List Text) :
    Keyed (addGroupsToRole known rows roleId groupIds).2 := by
  rw [addGroupsToRole]
  split
  · exact hkeyed
  · exact keyed_updateRoleGroups hkeyed _ _

theorem map_removeGroupFromAllRoles {key : RoleRow → Text}
    (hkey : ∀ groupId row, key (withoutGroup groupId row) = key row) (groupId : Text) :
    (removeGroupFromAllRoles rows groupId).2.map key = rows.map key := by
  rw [removeGroupFromAllRoles, List.map_map]
  apply List.map_congr_left
  intro row _
  rw [Function.comp_apply]
  split
  · exact hkey groupId row
  · rfl

/-- Every call leaves the rows told apart. -/
theorem serve_keyed (call : Call) (rows : List RoleRow) (hkeyed : Keyed rows) :
    Keyed (serve known call rows).2 := by
  cases call with
  | addGroupsToRole roleId groupIds => exact keyed_addGroupsToRole hkeyed _ _
  | removeGroupsFromRole roleId groupIds =>
      rw [serve, command, finish, removeGroupsFromRole]
      split
      · exact hkeyed
      · exact keyed_updateRoleGroups hkeyed _ _
  | updateRoleGroups roleId groupIds => exact keyed_updateRoleGroups hkeyed _ _
  | removeGroupFromAllRoles groupId =>
      refine ⟨?_, ?_⟩
      · rw [serve, command, finish, map_removeGroupFromAllRoles fun _ _ => rfl]
        exact hkeyed.ids
      · rw [serve, command, finish, map_removeGroupFromAllRoles fun _ _ => rfl]
        exact hkeyed.users
  | assignRole data uuid => exact keyed_assignRole hkeyed _ _
  | ensureTeacherRoleGroupAccess userId groupId createdBy uuid =>
      rw [serve, command, finish, ensureTeacherRoleGroupAccess]
      split
      · exact keyed_assignRole hkeyed _ _
      · split
        · exact hkeyed
        · exact keyed_addGroupsToRole hkeyed _ _

theorem isValid_of_validated {known : Known} {groupIds validated : List Text}
    (hvalidated : normalizeAndValidateRoleGroupIds known groupIds = .ok validated) :
    isValid known groupIds = true ∧ validated = normalizeGroupIds groupIds := by
  unfold normalizeAndValidateRoleGroupIds at hvalidated
  split at hvalidated
  · rename_i hnone
    exact ⟨by simpa [isValid] using hnone, (Except.ok.inj hvalidated).symm⟩
  · cases hvalidated

/-! ## The groups that a call leaves -/

section Groups

variable {rows : List RoleRow} {row after : RoleRow} {roleId groupId : Text}
  {groupIds : List Text}

theorem mem_normalizeGroupIds :
    groupId ∈ normalizeGroupIds groupIds ↔
      groupId ≠ [] ∧ ∃ given ∈ groupIds, JavaScript.trim given = groupId := by
  rw [normalizeGroupIds, List.mem_eraseDups, List.mem_filter, List.mem_map, decide_eq_true_eq,
    and_comm]

theorem trim_of_mem_normalizeGroupIds (hmem : groupId ∈ normalizeGroupIds groupIds) :
    JavaScript.trim groupId = groupId := by
  obtain ⟨-, given, -, rfl⟩ := mem_normalizeGroupIds.mp hmem
  exact JavaScript.trim_trim given

theorem mem_of_mem_normalizeGroupIds (htrimmed : ∀ given ∈ groupIds, JavaScript.trim given = given)
    (hmem : groupId ∈ normalizeGroupIds groupIds) : groupId ∈ groupIds := by
  obtain ⟨-, given, hgiven, rfl⟩ := mem_normalizeGroupIds.mp hmem
  rw [htrimmed given hgiven]
  exact hgiven

variable {change : RoleRow → RoleRow}

theorem mem_updateRow (hkeyed : Keyed rows) (hfound : getRoleById rows roleId = some row)
    (hafter : after ∈ updateRow roleId change rows) :
    after = change row ∨ after ∈ rows := by
  obtain ⟨before, hbefore, rfl⟩ := List.mem_map.mp hafter
  split
  · rename_i hid
    rw [Option.some.inj (((getRoleById_eq_some hkeyed).mpr ⟨hbefore, hid⟩).symm.trans hfound)]
    exact Or.inl rfl
  · exact Or.inr hbefore

theorem updateRow_of_none (hnone : getRoleById rows roleId = none) :
    updateRow roleId change rows = rows := by
  have hids := List.find?_eq_none.mp hnone
  refine (List.map_congr_left ?_).trans (List.map_id rows)
  intro row hrow
  exact if_neg (by simpa using hids row hrow)

theorem mem_updateRoleGroups (hkeyed : Keyed rows)
    (hfound : getRoleById rows roleId = some row)
    (hafter : after ∈ (updateRoleGroups known rows roleId groupIds).2) :
    after = withGroups (normalizeGroupIds groupIds) row ∨ after ∈ rows := by
  rw [updateRoleGroups] at hafter
  split at hafter
  · exact Or.inr hafter
  · rename_i validated hvalidated
    obtain ⟨-, rfl⟩ := isValid_of_validated hvalidated
    exact mem_updateRow hkeyed hfound hafter

/-- The group was in the row before. -/
def HadGroup (rows : List RoleRow) (groupId : Text) (after : RoleRow) : Prop :=
  ∃ before ∈ rows, before.id = after.id ∧ before.userId = after.userId ∧ groupId ∈ groupsOf before

theorem hadGroup_of_mem (hafter : after ∈ rows) (hgroup : groupId ∈ groupsOf after) :
    HadGroup rows groupId after :=
  ⟨after, hafter, rfl, rfl, hgroup⟩

variable {data : AssignRoleData} {uuid : Text} {call : Call}

section

variable (hkeyed : Keyed rows) (htrimmed : Trimmed rows)
include hkeyed htrimmed

theorem groups_updateRoleGroups {given : List Text} (hfound : getRoleById rows roleId = some row)
    (hgiven : ∀ other ∈ groupIds, other ∈ given ∨ other ∈ groupsOf row)
    (hafter : after ∈ (updateRoleGroups known rows roleId groupIds).2)
    (hgroup : groupId ∈ groupsOf after) :
    JavaScript.trim groupId = groupId ∧
      ((after.id = row.id ∧ after.userId = row.userId ∧ groupId ∈ normalizeGroupIds given) ∨
        HadGroup rows groupId after) := by
  have hrow := ((getRoleById_eq_some hkeyed).mp hfound).1
  rcases mem_updateRoleGroups hkeyed hfound hafter with rfl | hbefore
  · refine ⟨trim_of_mem_normalizeGroupIds hgroup, ?_⟩
    obtain ⟨hne, other, hother, htrim⟩ := mem_normalizeGroupIds.mp hgroup
    rcases hgiven other hother with hnew | hold
    · exact Or.inl ⟨rfl, rfl, mem_normalizeGroupIds.mpr ⟨hne, other, hnew, htrim⟩⟩
    · refine Or.inr ⟨row, hrow, rfl, rfl, ?_⟩
      rw [← htrim, htrimmed row hrow other hold]
      exact hold
  · exact ⟨htrimmed after hbefore groupId hgroup, Or.inr (hadGroup_of_mem hbefore hgroup)⟩

theorem groups_addGroupsToRole (hafter : after ∈ (addGroupsToRole known rows roleId groupIds).2)
    (hgroup : groupId ∈ groupsOf after) :
    JavaScript.trim groupId = groupId ∧
      ((∃ row, getRoleById rows roleId = some row ∧ after.id = row.id ∧
          after.userId = row.userId ∧ groupId ∈ normalizeGroupIds groupIds) ∨
        HadGroup rows groupId after) := by
  rw [addGroupsToRole] at hafter
  split at hafter
  · exact ⟨htrimmed after hafter groupId hgroup, Or.inr (hadGroup_of_mem hafter hgroup)⟩
  · rename_i row hfound
    have hgiven : ∀ other ∈ addedGroups row groupIds, other ∈ groupIds ∨ other ∈ groupsOf row := by
      intro other hother
      rw [addedGroups, List.mem_eraseDups, List.mem_append] at hother
      exact hother.symm
    obtain ⟨htrim, hcases⟩ :=
      groups_updateRoleGroups hkeyed htrimmed hfound hgiven hafter hgroup
    exact ⟨htrim, hcases.imp_left fun h => ⟨row, hfound, h⟩⟩

theorem groups_assignRole (hafter : after ∈ (assignRole known rows data uuid).2)
    (hgroup : groupId ∈ groupsOf after) :
    JavaScript.trim groupId = groupId ∧
      ((after.userId = data.userId ∧ groupId ∈ normalizeGroupIds data.groupIds) ∨
        HadGroup rows groupId after) := by
  have hold : after ∈ rows → JavaScript.trim groupId = groupId ∧
      ((after.userId = data.userId ∧ groupId ∈ normalizeGroupIds data.groupIds) ∨
        HadGroup rows groupId after) :=
    fun hmem => ⟨htrimmed after hmem groupId hgroup, Or.inr (hadGroup_of_mem hmem hgroup)⟩
  rw [assignRole] at hafter
  split at hafter
  · exact hold hafter
  · rename_i validated hvalidated
    obtain ⟨-, rfl⟩ := isValid_of_validated hvalidated
    rw [served] at hafter
    rcases roleWrite_cases known rows data uuid (normalizeGroupIds data.groupIds)
      (getRoleOfUser rows data.userId) with
        ⟨hwrite, -⟩ | ⟨row, hrow, hwrite⟩ | ⟨-, -, hwrite⟩
    · rw [hwrite] at hafter
      exact hold hafter
    · rw [hwrite] at hafter
      rcases mem_updateRow hkeyed (getRoleById_of_user hkeyed hrow) hafter with rfl | hmem
      · have huser := ((getRoleOfUser_eq_some hkeyed).mp hrow).2
        exact ⟨trim_of_mem_normalizeGroupIds hgroup, Or.inl ⟨huser, hgroup⟩⟩
      · exact hold hmem
    · rw [hwrite] at hafter
      rcases List.mem_append.mp hafter with hmem | hnew
      · exact hold hmem
      · rw [List.mem_singleton.mp hnew] at hgroup ⊢
        exact ⟨trim_of_mem_normalizeGroupIds hgroup, Or.inl ⟨rfl, hgroup⟩⟩

/-- A group that a row has after a call was there, or the call gives it. -/
theorem groups_serve (hafter : after ∈ (serve known call rows).2)
    (hgroup : groupId ∈ groupsOf after) :
    JavaScript.trim groupId = groupId ∧ (Gives after groupId call ∨ HadGroup rows groupId after) := by
  have hold : after ∈ rows → JavaScript.trim groupId = groupId ∧
      (Gives after groupId call ∨ HadGroup rows groupId after) :=
    fun hmem => ⟨htrimmed after hmem groupId hgroup, Or.inr (hadGroup_of_mem hmem hgroup)⟩
  cases call with
  | addGroupsToRole roleId groupIds =>
      obtain ⟨htrim, ⟨row, hfound, hid, -, hgiven⟩ | hhad⟩ :=
        groups_addGroupsToRole hkeyed htrimmed hafter hgroup
      · exact ⟨htrim, Or.inl ⟨hid.trans ((getRoleById_eq_some hkeyed).mp hfound).2, hgiven⟩⟩
      · exact ⟨htrim, Or.inr hhad⟩
  | removeGroupsFromRole roleId groupIds =>
      rw [serve, command, finish, removeGroupsFromRole] at hafter
      split at hafter
      · exact hold hafter
      · rename_i row hfound
        have hgiven : ∀ other ∈ remainingGroups row groupIds,
            other ∈ ([] : List Text) ∨ other ∈ groupsOf row :=
          fun other hother => Or.inr (List.mem_of_mem_filter hother)
        obtain ⟨htrim, ⟨-, -, hnone⟩ | hhad⟩ :=
          groups_updateRoleGroups hkeyed htrimmed hfound hgiven hafter hgroup
        · obtain ⟨-, other, hother, -⟩ := mem_normalizeGroupIds.mp hnone
          cases hother
        · exact ⟨htrim, Or.inr hhad⟩
  | updateRoleGroups roleId groupIds =>
      cases hfound : getRoleById rows roleId with
      | none =>
          rw [serve, command, finish, updateRoleGroups] at hafter
          split at hafter
          · exact hold hafter
          · exact hold (updateRow_of_none hfound ▸ hafter)
      | some row =>
          obtain ⟨htrim, ⟨hid, -, hgiven⟩ | hhad⟩ := groups_updateRoleGroups hkeyed htrimmed hfound
            (fun other hother => Or.inl hother) hafter hgroup
          · exact ⟨htrim, Or.inl ⟨hid.trans ((getRoleById_eq_some hkeyed).mp hfound).2, hgiven⟩⟩
          · exact ⟨htrim, Or.inr hhad⟩
  | removeGroupFromAllRoles removed =>
      obtain ⟨before, hbefore, rfl⟩ := List.mem_map.mp hafter
      split at hgroup
      · rename_i hhas
        have hmem : groupId ∈ groupsOf before := List.mem_of_mem_filter hgroup
        rw [if_pos hhas]
        exact ⟨htrimmed before hbefore groupId hmem, Or.inr ⟨before, hbefore, rfl, rfl, hmem⟩⟩
      · rename_i hhas
        rw [if_neg hhas] at hold ⊢
        exact hold hbefore
  | assignRole data uuid =>
      exact groups_assignRole hkeyed htrimmed hafter hgroup
  | ensureTeacherRoleGroupAccess userId given createdBy uuid =>
      rw [serve, command, finish, ensureTeacherRoleGroupAccess] at hafter
      split at hafter
      · exact groups_assignRole hkeyed htrimmed hafter hgroup
      · rename_i teacherRole hteacher
        split at hafter
        · exact hold hafter
        · obtain ⟨htrim, ⟨row, hfound, -, huser, hgiven⟩ | hhad⟩ :=
            groups_addGroupsToRole hkeyed htrimmed hafter hgroup
          · obtain ⟨hteacherRow, hid⟩ := findTeacher_eq_some hkeyed hteacher
            have hsame := (getRoleById_of_user hkeyed hteacherRow).symm.trans hfound
            rw [← Option.some.inj hsame] at huser
            exact ⟨htrim, Or.inl ⟨huser.trans hid, hgiven⟩⟩
          · exact ⟨htrim, Or.inr hhad⟩

theorem serve_trimmed : Trimmed (serve known call rows).2 :=
  fun _ hafter _ hgroup => (groups_serve hkeyed htrimmed hafter hgroup).1

end

/-! ### Rows stay -/

/-- Every row is still there, with its identifier and its user. -/
def Kept (rows after : List RoleRow) : Prop :=
  ∀ row ∈ rows, ∃ other ∈ after, other.id = row.id ∧ other.userId = row.userId

theorem Kept.refl (rows : List RoleRow) : Kept rows rows := fun row hrow => ⟨row, hrow, rfl, rfl⟩

variable {later : List RoleRow}

theorem Kept.trans {middle : List RoleRow} (hfirst : Kept rows middle)
    (hsecond : Kept middle later) : Kept rows later := by
  intro row hrow
  obtain ⟨other, hother, hid, huser⟩ := hfirst row hrow
  obtain ⟨last, hlast, hlastId, hlastUser⟩ := hsecond other hother
  exact ⟨last, hlast, hlastId.trans hid, hlastUser.trans huser⟩

theorem kept_map (hkeeps : KeepsKeys change) : Kept rows (rows.map change) :=
  fun row hrow => ⟨change row, List.mem_map_of_mem hrow, hkeeps.id row, hkeeps.userId row⟩

theorem kept_updateRow (hkeeps : KeepsKeys change) : Kept rows (updateRow roleId change rows) := by
  refine kept_map ⟨?_, ?_⟩
  · intro row
    split
    · exact hkeeps.id row
    · rfl
  · intro row
    split
    · exact hkeeps.userId row
    · rfl

theorem kept_updateRoleGroups : Kept rows (updateRoleGroups known rows roleId groupIds).2 := by
  rw [updateRoleGroups]
  split
  · exact .refl _
  · exact kept_updateRow (keepsKeys_withGroups _)

theorem kept_addGroupsToRole : Kept rows (addGroupsToRole known rows roleId groupIds).2 := by
  rw [addGroupsToRole]
  split
  · exact .refl _
  · exact kept_updateRoleGroups

theorem kept_assignRole : Kept rows (assignRole known rows data uuid).2 := by
  rw [assignRole]
  split
  · exact .refl _
  · rename_i validated hvalidated
    rw [served]
    rcases roleWrite_cases known rows data uuid validated (getRoleOfUser rows data.userId) with
      ⟨hwrite, -⟩ | ⟨row, -, hwrite⟩ | ⟨-, -, hwrite⟩
    · rw [hwrite]
      exact .refl _
    · rw [hwrite]
      exact kept_updateRow (keepsKeys_withRole _ _)
    · rw [hwrite]
      exact fun row hrow => ⟨row, List.mem_append_left _ hrow, rfl, rfl⟩

/-- No call deletes a row. -/
theorem kept_serve (call : Call) : Kept rows (serve known call rows).2 := by
  cases call with
  | addGroupsToRole roleId groupIds => exact kept_addGroupsToRole
  | removeGroupsFromRole roleId groupIds =>
      rw [serve, command, finish, removeGroupsFromRole]
      split
      · exact .refl _
      · exact kept_updateRoleGroups
  | updateRoleGroups roleId groupIds => exact kept_updateRoleGroups
  | removeGroupFromAllRoles removed =>
      refine kept_map ⟨?_, ?_⟩
      · intro row
        split <;> rfl
      · intro row
        split <;> rfl
  | assignRole data uuid => exact kept_assignRole
  | ensureTeacherRoleGroupAccess userId given createdBy uuid =>
      rw [serve, command, finish, ensureTeacherRoleGroupAccess]
      split
      · exact kept_assignRole
      · split
        · exact .refl _
        · exact kept_addGroupsToRole

/-! ### A group that is taken away -/

/-- The role does not have the group. -/
def Without (rows : List RoleRow) (row : RoleRow) (groupId : Text) : Prop :=
  ∀ other ∈ rows, other.userId = row.userId → groupId ∉ groupsOf other

/-- Where the row is still to come, the rows with its identifier are those of its user. -/
theorem Kept.same_row (hkept : Kept rows later) (hlater : Keyed later) (hrow : row ∈ later)
    {other : RoleRow} (hother : other ∈ rows) :
    other.id = row.id ↔ other.userId = row.userId := by
  obtain ⟨last, hlast, hid, huser⟩ := hkept other hother
  rw [← hid, ← huser]
  constructor
  · intro hsame
    rw [List.inj_on_of_nodup_map hlater.ids hlast hrow hsame]
  · intro hsame
    rw [List.inj_on_of_nodup_map hlater.users hlast hrow hsame]

/-- A call that does not give the group leaves the role without it. -/
theorem Without.serve (hwithout : Without rows row groupId) (hkeyed : Keyed rows)
    (htrimmed : Trimmed rows) (hkept : Kept (serve known call rows).2 later)
    (hlater : Keyed later) (hrow : row ∈ later) (hnot : ¬ Gives row groupId call) :
    Without (serve known call rows).2 row groupId := by
  intro after hafter huser hgroup
  have hid := (hkept.same_row hlater hrow hafter).mpr huser
  rcases (groups_serve hkeyed htrimmed hafter hgroup).2 with hgives | ⟨before, hbefore, -, hsame, hhad⟩
  · refine hnot ?_
    cases call with
    | addGroupsToRole roleId groupIds => exact ⟨hid.symm.trans hgives.1, hgives.2⟩
    | updateRoleGroups roleId groupIds => exact ⟨hid.symm.trans hgives.1, hgives.2⟩
    | assignRole data uuid => exact ⟨huser.symm.trans hgives.1, hgives.2⟩
    | ensureTeacherRoleGroupAccess userId given createdBy uuid =>
        exact ⟨huser.symm.trans hgives.1, hgives.2⟩
    | _ => exact hgives.elim
  · exact hwithout before hbefore (hsame.trans huser) hhad

variable {written : RoleRow}

theorem groupsOf_updateRoleGroups
    (hanswer : (updateRoleGroups known rows roleId groupIds).1 = .role (some written))
    (hafter : after ∈ (updateRoleGroups known rows roleId groupIds).2) (hid : after.id = roleId) :
    groupsOf after = normalizeGroupIds groupIds := by
  rw [updateRoleGroups] at hanswer hafter
  split at hafter
  · rename_i message herror
    rw [herror] at hanswer
    cases hanswer
  · rename_i validated hvalidated
    obtain ⟨-, rfl⟩ := isValid_of_validated hvalidated
    obtain ⟨before, -, rfl⟩ := List.mem_map.mp hafter
    split at hid
    · rename_i hsame
      rw [if_pos hsame]
      rfl
    · rename_i hne
      exact absurd hid hne

theorem groupsOf_assignRole (hkeyed : Keyed rows)
    (hanswer : (assignRole known rows data uuid).1 = .role (some written))
    (hafter : after ∈ (assignRole known rows data uuid).2) (huser : after.userId = data.userId) :
    groupsOf after = normalizeGroupIds data.groupIds := by
  rw [assignRole] at hanswer hafter
  split at hafter
  · rename_i message herror
    rw [herror] at hanswer
    cases hanswer
  · rename_i validated hvalidated
    obtain ⟨-, rfl⟩ := isValid_of_validated hvalidated
    rw [hvalidated] at hanswer
    rw [served] at hafter
    rcases roleWrite_cases known rows data uuid (normalizeGroupIds data.groupIds)
      (getRoleOfUser rows data.userId) with
        ⟨-, hnone⟩ | ⟨row, hrow, hwrite⟩ | ⟨-, hno, hwrite⟩
    · exact absurd hanswer (hnone written)
    · rw [hwrite] at hafter
      obtain ⟨before, hbefore, rfl⟩ := List.mem_map.mp hafter
      obtain ⟨hmem, hrowUser⟩ := (getRoleOfUser_eq_some hkeyed).mp hrow
      split at huser
      · rename_i hsame
        rw [if_pos hsame]
        rfl
      · rename_i hne
        exact absurd (congrArg RoleRow.id (List.inj_on_of_nodup_map hkeyed.users hbefore hmem
          (huser.trans hrowUser.symm))) hne
    · rw [hwrite] at hafter
      rcases List.mem_append.mp hafter with hold | hnew
      · exact absurd (List.mem_map.mpr ⟨after, hold, huser⟩) (violates_eq_false hno).2
      · rw [List.mem_singleton.mp hnew]
        rfl

/-- A call that takes a group away has written a row, or all of them. -/
theorem written_of_removes {answer : Answer} (hremoves : Removes row groupId call answer) :
    (∃ removed, call = .removeGroupFromAllRoles removed) ∨
      ∃ written, answer = .role (some written) := by
  cases call with
  | removeGroupFromAllRoles removed => exact Or.inl ⟨removed, rfl⟩
  | addGroupsToRole roleId groupIds => exact hremoves.elim
  | ensureTeacherRoleGroupAccess userId given createdBy uuid => exact hremoves.elim
  | _ =>
      cases answer with
      | role written =>
          cases written with
          | some written => exact Or.inr ⟨written, rfl⟩
          | none => exact hremoves.elim
      | _ => exact hremoves.elim

theorem without_of_removes (hkeyed : Keyed rows) (htrimmed : Trimmed rows)
    (hkept : Kept (serve known call rows).2 later) (hlater : Keyed later) (hrow : row ∈ later)
    (hremoves : Removes row groupId call (serve known call rows).1) :
    Without (serve known call rows).2 row groupId := by
  intro after hafter huser hgroup
  have hid := (hkept.same_row hlater hrow hafter).mpr huser
  rcases written_of_removes hremoves with ⟨removed, rfl⟩ | ⟨written, hanswer⟩
  · obtain rfl : removed = groupId := hremoves
    obtain ⟨before, hbefore, rfl⟩ := List.mem_map.mp hafter
    split at hgroup
    · simpa using (List.mem_filter.mp hgroup).2
    · rename_i hhas
      exact hhas (by simpa [hasGroup] using hgroup)
  · rw [hanswer] at hremoves
    cases call with
    | removeGroupsFromRole roleId groupIds =>
        rw [serve, command, finish, removeGroupsFromRole] at hafter hanswer
        cases hfound : getRoleById rows roleId with
        | none =>
            rw [hfound] at hanswer
            cases hanswer
        | some existing =>
            rw [hfound] at hafter hanswer
            rw [groupsOf_updateRoleGroups hanswer hafter (hid.trans hremoves.1)] at hgroup
            have hexisting := ((getRoleById_eq_some hkeyed).mp hfound).1
            have hmem : groupId ∈ remainingGroups existing groupIds := by
              refine mem_of_mem_normalizeGroupIds ?_ hgroup
              intro given hgiven
              exact htrimmed existing hexisting given (List.mem_of_mem_filter hgiven)
            simpa [hremoves.2] using (List.mem_filter.mp hmem).2
    | updateRoleGroups roleId groupIds =>
        rw [groupsOf_updateRoleGroups hanswer hafter (hid.trans hremoves.1)] at hgroup
        exact hremoves.2 hgroup
    | assignRole data uuid =>
        rw [groupsOf_assignRole hkeyed hanswer hafter (huser.trans hremoves.1)] at hgroup
        exact hremoves.2 hgroup
    | _ => exact hremoves.elim

variable {order : List (Foundation.Entry Call Answer)}

section

variable (hserves : Foundation.SerialOrder.Serves (serve known) rows order later)
include hserves

/-- No order of calls deletes a row. -/
theorem kept_of_serves : Kept rows later := by
  induction order generalizing rows with
  | nil =>
      obtain rfl := hserves
      exact .refl _
  | cons entry rest ih => exact (kept_serve entry.call).trans (ih hserves.2)

theorem stored_of_serves (hkeyed : Keyed rows) (htrimmed : Trimmed rows) :
    Keyed later ∧ Trimmed later := by
  induction order generalizing rows with
  | nil =>
      obtain rfl := hserves
      exact ⟨hkeyed, htrimmed⟩
  | cons entry rest ih =>
      exact ih hserves.2 (serve_keyed _ _ hkeyed) (serve_trimmed hkeyed htrimmed)

/-- A group that a role is without comes back only with a call that gives it. -/
theorem gives_of_serves (hkeyed : Keyed rows) (htrimmed : Trimmed rows) (hrow : row ∈ later)
    (hgroup : groupId ∈ groupsOf row) (hwithout : Without rows row groupId) :
    ∃ entry ∈ order, Gives row groupId entry.call := by
  induction order generalizing rows with
  | nil =>
      obtain rfl := hserves
      exact absurd hgroup (hwithout row hrow rfl)
  | cons entry rest ih =>
      obtain ⟨-, hrest⟩ := hserves
      have hafter : Keyed (serve known entry.call rows).2 := serve_keyed entry.call rows hkeyed
      have hlater : Keyed later := hrest.invariant hafter serve_keyed
      by_cases hgives : Gives row groupId entry.call
      · exact ⟨entry, List.mem_cons_self, hgives⟩
      · have hstill := hwithout.serve hkeyed htrimmed (kept_of_serves hrest) hlater hrow hgives
        obtain ⟨other, hother, hgiven⟩ :=
          ih hrest hafter (serve_trimmed hkeyed htrimmed) hstill
        exact ⟨other, List.mem_cons_of_mem _ hother, hgiven⟩

end

end Groups

end Serve

/-! ## Statement by statement, with nothing in between -/

section Alone

variable {known : Known}

theorem answer_threw (call : Call) (message : Text) :
    call.answer (.threw message) = .threw message := by
  cases call <;> rfl

/-- One call takes its statements one after the other. -/
def Alone (known : Known) : Store × Phase → Store × Phase → Prop :=
  Relation.ReflTransGen fun source target => move known .next source = some target

/-- The call ends with this answer and these rows. -/
def EndsWith (known : Known) (source : Store × Phase) (call : Call)
    (outcome : Answer × List RoleRow) : Prop :=
  ∃ store, Alone known source (store, .settled call outcome.1) ∧ store.rows = outcome.2

theorem EndsWith.step {source target : Store × Phase} {call : Call}
    {outcome : Answer × List RoleRow} (hmove : move known .next source = some target)
    (hends : EndsWith known target call outcome) : EndsWith known source call outcome := by
  obtain ⟨store, halone, hrows⟩ := hends
  exact ⟨store, .head hmove halone, hrows⟩

section

variable (store : Store) (call : Call)

theorem endsWith_settled (answer : Answer) :
    EndsWith known (store, .settled call answer) call (answer, store.rows) :=
  ⟨store, .refl, rfl⟩

theorem endsWith_validatingGroups (roleId : Text) (seen : Seen) (groupIds : List Text) :
    EndsWith known (store, .validatingGroups call roleId seen groupIds) call
      (finish call (updateRoleGroups known store.rows roleId groupIds)) := by
  cases hvalidated : normalizeAndValidateRoleGroupIds known groupIds with
  | error message =>
      have hmove : move known .next (store, .validatingGroups call roleId seen groupIds) =
          some (store, .settled call (.threw message)) := by
        rw [move, step, hvalidated]
      rw [updateRoleGroups, hvalidated, finish, answer_threw]
      exact .step hmove (endsWith_settled _ _ _)
  | ok validated =>
      have hmove : move known .next (store, .validatingGroups call roleId seen groupIds) =
          some (store, .updatingGroups call roleId seen validated) := by
        rw [move, step, hvalidated]
      rw [updateRoleGroups, hvalidated, finish]
      exact .step hmove (.step rfl (endsWith_settled _ _ _))

theorem endsWith_validatingRole (data : AssignRoleData) (uuid : Text) (seen : Seen) :
    EndsWith known (store, .validatingRole call data uuid seen) call
      (finish call (assignRole known store.rows data uuid)) := by
  cases hvalidated : normalizeAndValidateRoleGroupIds known data.groupIds with
  | error message =>
      have hmove : move known .next (store, .validatingRole call data uuid seen) =
          some (store, .settled call (.threw message)) := by
        rw [move, step, hvalidated]
      rw [assignRole, hvalidated, finish, answer_threw]
      exact .step hmove (endsWith_settled _ _ _)
  | ok validated =>
      have hmove : move known .next (store, .validatingRole call data uuid seen) =
          some (store, .selectingRole call data uuid seen validated) := by
        rw [move, step, hvalidated]
      rw [assignRole, hvalidated, finish]
      exact .step hmove (.step rfl (.step rfl (endsWith_settled _ _ _)))

theorem endsWith_afterRole (roleId : Text) (groupIds : RoleRow → List Text)
    {outcome : Answer × List RoleRow}
    (hnone : getRoleById store.rows roleId = none → outcome = (.role none, store.rows))
    (hsome : ∀ existing, getRoleById store.rows roleId = some existing →
      outcome = updateRoleGroups known store.rows roleId (groupIds existing)) :
    EndsWith known (store, afterRole call roleId groupIds (getRoleById store.rows roleId)) call
      (finish call outcome) := by
  cases hfound : getRoleById store.rows roleId with
  | none =>
      rw [hnone hfound]
      exact endsWith_settled _ _ _
  | some existing =>
      rw [hsome existing hfound]
      exact endsWith_validatingGroups _ _ _ _ _

theorem endsWith_addGroupsToRole (roleId : Text) (groupIds : List Text) :
    EndsWith known
      (store, afterRole call roleId (addedGroups · groupIds) (getRoleById store.rows roleId)) call
      (finish call (addGroupsToRole known store.rows roleId groupIds)) := by
  refine endsWith_afterRole _ _ _ _ ?_ ?_
  · intro hnone
    rw [addGroupsToRole, hnone]
  · intro existing hfound
    rw [addGroupsToRole, hfound]

end

/-- Row by row, the removal does what it does to all rows at once. -/
theorem endsWith_removing (call : Call) (groupId : Text) (remaining : List RoleRow)
    (store : Store) (updatedCount : Nat) :
    EndsWith known (store, .removing call groupId remaining updatedCount) call
      (.count (updatedCount + remaining.length),
        remaining.foldl
          (fun rows row => updateRow row.id (withGroups (remainingGroups row [groupId])) rows)
          store.rows) := by
  induction remaining generalizing store updatedCount with
  | nil => exact .step rfl (endsWith_settled _ _ _)
  | cons row remaining ih =>
      have hrest := ih (store.write call (.update row.id (withGroups (remainingGroups row [groupId]))))
        (updatedCount + 1)
      rw [List.length_cons, ← Nat.add_assoc, Nat.add_right_comm]
      exact .step rfl hrest

/-- What a row becomes when other rows are written one after the other. -/
theorem foldl_updateRow (groupId : Text) (remaining rows : List RoleRow) :
    remaining.foldl
        (fun rows row => updateRow row.id (withGroups (remainingGroups row [groupId])) rows) rows =
      rows.map fun other => remaining.foldl
        (fun other row =>
          if other.id = row.id then withGroups (remainingGroups row [groupId]) other else other)
        other := by
  induction remaining generalizing rows with
  | nil => exact (List.map_id rows).symm
  | cons row remaining ih =>
      rw [List.foldl_cons, ih, updateRow, List.map_map]
      rfl

variable {groupId : Text} {remaining : List RoleRow} {other : RoleRow}

theorem foldl_other (hother : other.id ∉ remaining.map (·.id)) :
    remaining.foldl
        (fun other row =>
          if other.id = row.id then withGroups (remainingGroups row [groupId]) other else other)
        other = other := by
  induction remaining with
  | nil => rfl
  | cons row remaining ih =>
      rw [List.map_cons, List.mem_cons, not_or] at hother
      rw [List.foldl_cons, if_neg hother.1]
      exact ih hother.2

theorem foldl_mem (hnodup : (remaining.map (·.id)).Nodup) (hmem : other ∈ remaining) :
    remaining.foldl
        (fun other row =>
          if other.id = row.id then withGroups (remainingGroups row [groupId]) other else other)
        other = withoutGroup groupId other := by
  induction remaining with
  | nil => cases hmem
  | cons row remaining ih =>
      obtain ⟨hrow, hrest⟩ := List.nodup_cons.mp hnodup
      rw [List.foldl_cons]
      rcases List.mem_cons.mp hmem with rfl | hlater
      · rw [if_pos rfl]
        exact foldl_other hrow
      · have hne : other.id ≠ row.id := fun h => hrow (List.mem_map.mpr ⟨other, hlater, h⟩)
        rw [if_neg hne]
        exact ih hrest hlater

/-- A call whose statements nothing comes between does what `serve` says. -/
theorem alone_serve (call : Call) (store : Store) (hkeyed : Keyed store.rows) :
    EndsWith known (store, start call) call (serve known call store.rows) := by
  cases call with
  | addGroupsToRole roleId groupIds => exact .step rfl (endsWith_addGroupsToRole _ _ _ _)
  | removeGroupsFromRole roleId groupIds =>
      refine .step rfl (endsWith_afterRole _ _ _ _ ?_ ?_)
      · intro hnone
        rw [command, removeGroupsFromRole, hnone]
      · intro existing hfound
        rw [command, removeGroupsFromRole, hfound]
  | updateRoleGroups roleId groupIds => exact endsWith_validatingGroups _ _ _ _ _
  | removeGroupFromAllRoles groupId =>
      have hrows : (store.rows.filter (hasGroup groupId)).foldl
          (fun rows row => updateRow row.id (withGroups (remainingGroups row [groupId])) rows)
          store.rows = (removeGroupFromAllRoles store.rows groupId).2 := by
        rw [foldl_updateRow, removeGroupFromAllRoles]
        apply List.map_congr_left
        intro row hrow
        split
        · rename_i hhas
          exact foldl_mem (hkeyed.ids.sublist (List.filter_sublist.map _))
            (List.mem_filter.mpr ⟨hrow, hhas⟩)
        · rename_i hnot
          refine foldl_other ?_
          intro hmem
          obtain ⟨other, hother, hid⟩ := List.mem_map.mp hmem
          obtain ⟨hold, hhas⟩ := List.mem_filter.mp hother
          rw [List.inj_on_of_nodup_map hkeyed.ids hold hrow hid] at hhas
          exact hnot hhas
      have hends := @endsWith_removing known (.removeGroupFromAllRoles groupId) groupId
        (store.rows.filter (hasGroup groupId)) store 0
      rw [hrows, Nat.zero_add] at hends
      exact .step rfl hends
  | assignRole data uuid => exact endsWith_validatingRole _ _ _ _ _
  | ensureTeacherRoleGroupAccess userId groupId createdBy uuid =>
      have hends : EndsWith known
          (store, afterReading store.rows
            (.ensureTeacherRoleGroupAccess userId groupId createdBy uuid))
          (.ensureTeacherRoleGroupAccess userId groupId createdBy uuid)
          (serve known (.ensureTeacherRoleGroupAccess userId groupId createdBy uuid)
            store.rows) := by
        rw [serve, command, ensureTeacherRoleGroupAccess, afterReading]
        cases findTeacher store.rows userId with
        | none => exact endsWith_validatingRole _ _ _ _ _
        | some teacherRole =>
            simp only
            split
            · exact endsWith_settled _ _ _
            · exact .step rfl (endsWith_addGroupsToRole _ _ _ _)
      exact .step rfl hends

end Alone

end OpenPath.Api.RoleGroups
