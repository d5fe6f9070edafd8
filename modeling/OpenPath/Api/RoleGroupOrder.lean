/-
# A serial order for the calls

A call takes its place in the order with the statement that writes; one that writes
nothing, where it has read what decides its answer; the removal from all roles with
its first reading, so that the rows lag behind the order until they are all written.
A call that has read a row which still lags is put before the removal.
-/

import OpenPath.Api.RoleGroupServe

namespace OpenPath.Api.RoleGroups

open Accounts Auth
open Foundation (Entry Interleaved TransitionSystem)

/-! ## What remains of a call -/

/-- The answer to groups that are not all known. -/
def failure (known : Known) (groupIds : List Text) : Option Answer :=
  match normalizeAndValidateRoleGroupIds known groupIds with
  | .error message => some (.threw message)
  | .ok _ => none

/-- The call whose answer is fixed, with that answer. -/
def decided (known : Known) : Phase → Option (Call × Answer)
  | .readingTeacher call teacherRole groupId =>
      (failure known (addedGroups teacherRole [groupId])).map (call, ·)
  | .validatingGroups call _ _ groupIds => (failure known groupIds).map (call, ·)
  | .validatingRole call data _ _ => (failure known data.groupIds).map (call, ·)
  | .removing call _ remaining updatedCount =>
      some (call, .count (updatedCount + remaining.length))
  | .settled call answer => some (call, answer)
  | _ => none

def Phase.call : Phase → Option Call
  | .idle => none
  | .reading call => some call
  | .readingTeacher call _ _ => some call
  | .validatingGroups call _ _ _ => some call
  | .updatingGroups call _ _ _ => some call
  | .validatingRole call _ _ _ => some call
  | .selectingRole call _ _ _ _ => some call
  | .writingRole call _ _ _ _ => some call
  | .removing call _ _ _ => some call
  | .settled call _ => some call

/-- What the call does from here on if nothing comes between its statements. -/
def rest (known : Known) (rows : List RoleRow) : Phase → Answer × List RoleRow
  | .reading call => serve known call rows
  | .readingTeacher call teacherRole groupId =>
      finish call (addGroupsToRole known rows teacherRole.id [groupId])
  | .validatingGroups call roleId _ groupIds =>
      finish call (updateRoleGroups known rows roleId groupIds)
  | .updatingGroups call roleId _ groupIds =>
      finish call (served rows (groupsWrite rows roleId groupIds))
  | .validatingRole call data uuid _ => finish call (assignRole known rows data uuid)
  | .selectingRole call data uuid _ groupIds =>
      finish call
        (served rows (roleWrite known rows data uuid groupIds (getRoleOfUser rows data.userId)))
  | .writingRole call data uuid groupIds existing =>
      finish call (served rows (roleWrite known rows data uuid groupIds existing))
  | .settled _ answer => (answer, rows)
  | _ => (.done, rows)

/-- The rows are as the call has read them. -/
def Agrees (rows : List RoleRow) (seen : Seen) : Prop :=
  ∀ entry ∈ seen, getRoleOfUser rows entry.1 = entry.2

/-- A call that makes a teacher has not found an administrator. -/
def Mild (call : Call) (existing : Option RoleRow) : Prop :=
  call.ensuresTeacher = true → ∀ row, existing = some row → isAdmin row = false

/-- What the phases carry along: the role or the user that was read. -/
def Shape : Phase → Prop
  | .validatingGroups _ roleId seen _ =>
      seen = [] ∨ ∃ row, seen = [(row.userId, some row)] ∧ row.id = roleId
  | .updatingGroups _ roleId seen _ =>
      seen = [] ∨ ∃ row, seen = [(row.userId, some row)] ∧ row.id = roleId
  | .validatingRole call data _ seen =>
      (seen = [] ∧ call.ensuresTeacher = false) ∨
        ∃ existing, seen = [(data.userId, existing)] ∧ Mild call existing
  | .selectingRole call data _ seen _ =>
      (seen = [] ∧ call.ensuresTeacher = false) ∨
        ∃ existing, seen = [(data.userId, existing)] ∧ Mild call existing
  | .writingRole call _ _ _ existing => Mild call existing
  | .removing _ _ remaining _ => (remaining.map (·.userId)).Nodup
  | _ => True

/-- What a call knows: the rows that it relies on are there, and with them the rest of
the call does what the whole call does. -/
structure Knows (known : Known) (rows : List RoleRow) (phase : Phase) : Prop where
  seen : Agrees rows (relies known phase)
  shape : Shape phase
  rest : ∀ call, phase.call = some call → decided known phase = none →
    ∀ other, Keyed other → Agrees other (relies known phase) →
      serve known call other = rest known other phase

variable {known : Known} {groupIds : List Text}

theorem failure_eq_none :
    failure known groupIds = none ↔ isValid known groupIds = true := by
  unfold failure normalizeAndValidateRoleGroupIds isValid
  by_cases hnone : missingIds known groupIds = []
  · simp [hnone]
  · simp [hnone]

theorem failure_eq_some {answer : Answer} (hfailure : failure known groupIds = some answer) :
    isValid known groupIds = false ∧
      ∃ message, answer = .threw message ∧
        normalizeAndValidateRoleGroupIds known groupIds = .error message := by
  refine ⟨?_, ?_⟩
  · by_contra hvalid
    rw [failure_eq_none.mpr (by simpa using hvalid)] at hfailure
    cases hfailure
  · unfold failure at hfailure
    split at hfailure
    · rename_i message herror
      exact ⟨message, (Option.some.inj hfailure).symm, herror⟩
    · cases hfailure

@[simp] theorem agrees_nil (rows : List RoleRow) : Agrees rows [] := by
  simp [Agrees]

@[simp] theorem agrees_singleton {rows : List RoleRow} {userId : Text} {row : Option RoleRow} :
    Agrees rows [(userId, row)] ↔ getRoleOfUser rows userId = row := by
  simp [Agrees]

/-! ### The first reading -/

section Reading

variable {known : Known} {rows other : List RoleRow} {roleId userId : Text} {row : RoleRow}
  {groupIds : List Text} {answer : Answer}

/-- Groups that are not all known leave the rows. -/
theorem updateRoleGroups_of_failure (hfailure : failure known groupIds = some answer) :
    updateRoleGroups known rows roleId groupIds = (answer, rows) := by
  obtain ⟨-, message, rfl, herror⟩ := failure_eq_some hfailure
  rw [updateRoleGroups, herror]

theorem assignRole_of_failure {data : AssignRoleData} {uuid : Text}
    (hfailure : failure known data.groupIds = some answer) :
    assignRole known rows data uuid = (answer, rows) := by
  obtain ⟨-, message, rfl, herror⟩ := failure_eq_some hfailure
  rw [assignRole, herror]

theorem finish_of_failure (call : Call) (hfailure : failure known groupIds = some answer) :
    finish call (answer, rows) = (answer, rows) := by
  obtain ⟨-, message, rfl, -⟩ := failure_eq_some hfailure
  rw [finish, answer_threw]

variable {call : Call}

/-- Where the answer is fixed by groups that are not all known, the rest of the call
is that answer. -/
theorem rest_of_decided {phase : Phase} (hdecided : decided known phase = some (call, answer))
    (hkind : ∀ call groupId remaining updatedCount,
      phase ≠ .removing call groupId remaining updatedCount) (hkeyed : Keyed rows)
    (hteacher : ∀ call teacherRole groupId, phase = .readingTeacher call teacherRole groupId →
      getRoleOfUser rows teacherRole.userId = some teacherRole) :
    rest known rows phase = (answer, rows) := by
  cases phase with
  | readingTeacher current teacherRole groupId =>
      obtain ⟨failed, hfailure, hsame⟩ := Option.map_eq_some_iff.mp hdecided
      obtain ⟨rfl, rfl⟩ := Prod.mk.inj hsame
      have hid := getRoleById_of_user hkeyed (hteacher _ _ _ rfl)
      rw [rest, addGroupsToRole, hid]
      simp only
      rw [updateRoleGroups_of_failure hfailure, finish_of_failure _ hfailure]
  | validatingGroups current roleId seen groupIds =>
      obtain ⟨failed, hfailure, hsame⟩ := Option.map_eq_some_iff.mp hdecided
      obtain ⟨rfl, rfl⟩ := Prod.mk.inj hsame
      rw [rest, updateRoleGroups_of_failure hfailure, finish_of_failure _ hfailure]
  | validatingRole current data uuid seen =>
      obtain ⟨failed, hfailure, hsame⟩ := Option.map_eq_some_iff.mp hdecided
      obtain ⟨rfl, rfl⟩ := Prod.mk.inj hsame
      rw [rest, assignRole_of_failure hfailure, finish_of_failure _ hfailure]
  | removing current groupId remaining updatedCount => exact absurd rfl (hkind _ _ _ _)
  | settled current settledAnswer =>
      obtain ⟨rfl, rfl⟩ := Prod.mk.inj (Option.some.inj hdecided)
      rfl
  | _ => cases hdecided

/-- Two tables show a call the same at its first reading. -/
def SameReading (rows other : List RoleRow) : Call → Prop
  | .addGroupsToRole roleId _ => getRoleById other roleId = getRoleById rows roleId
  | .removeGroupsFromRole roleId _ => getRoleById other roleId = getRoleById rows roleId
  | .ensureTeacherRoleGroupAccess userId _ _ _ =>
      getRoleOfUser other userId = getRoleOfUser rows userId
  | .removeGroupFromAllRoles _ => False
  | _ => True

/-- The row that decides is the row of one user, or there is none with the
identifier. -/
theorem sameReading_of_user (hkeyed : Keyed rows) (call : Call)
    (hkind : ∀ groupId, call ≠ .removeGroupFromAllRoles groupId) :
    (∃ userId, ∀ other, Keyed other →
      getRoleOfUser other userId = getRoleOfUser rows userId → SameReading rows other call) ∨
    ∀ other : List RoleRow, other.map (·.id) = rows.map (·.id) → SameReading rows other call := by
  have hrole : ∀ roleId,
      (∃ userId, ∀ other, Keyed other →
        getRoleOfUser other userId = getRoleOfUser rows userId →
          getRoleById other roleId = getRoleById rows roleId) ∨
      ∀ other : List RoleRow, other.map (·.id) = rows.map (·.id) →
        getRoleById other roleId = getRoleById rows roleId := by
    intro roleId
    cases hfound : getRoleById rows roleId with
    | none =>
        refine Or.inr fun other hids => ?_
        rw [getRoleById, find_key_none] at hfound ⊢
        rwa [hids]
    | some row =>
        refine Or.inl ⟨row.userId, fun other hother hsame => ?_⟩
        rw [getRoleOfUser_of_id hkeyed hfound] at hsame
        rw [← ((getRoleById_eq_some hkeyed).mp hfound).2]
        exact getRoleById_of_user hother hsame
  cases call with
  | addGroupsToRole roleId groupIds => exact hrole roleId
  | removeGroupsFromRole roleId groupIds => exact hrole roleId
  | updateRoleGroups roleId groupIds => exact Or.inr fun _ _ => trivial
  | removeGroupFromAllRoles groupId => exact absurd rfl (hkind groupId)
  | assignRole data uuid => exact Or.inr fun _ _ => trivial
  | ensureTeacherRoleGroupAccess userId groupId createdBy uuid =>
      exact Or.inl ⟨userId, fun _ _ hsame => hsame⟩

/-- After its first reading a call goes on as it would have from the start. -/
theorem serve_of_sameReading (hkeyed : Keyed rows) (hother : Keyed other)
    (hsame : SameReading rows other call) :
    serve known call other = rest known other (afterReading rows call) := by
  cases call with
  | addGroupsToRole roleId groupIds =>
      rw [SameReading] at hsame
      rw [serve, command, addGroupsToRole, hsame, afterReading]
      cases getRoleById rows roleId <;> rfl
  | removeGroupsFromRole roleId groupIds =>
      rw [SameReading] at hsame
      rw [serve, command, removeGroupsFromRole, hsame, afterReading]
      cases getRoleById rows roleId <;> rfl
  | updateRoleGroups roleId groupIds => rfl
  | removeGroupFromAllRoles groupId => exact hsame.elim
  | assignRole data uuid => rfl
  | ensureTeacherRoleGroupAccess userId groupId createdBy uuid =>
      have hteacher : findTeacher other userId = findTeacher rows userId := by
        rw [findTeacher_eq hother, findTeacher_eq hkeyed, hsame]
      rw [serve, command, ensureTeacherRoleGroupAccess, hteacher, afterReading]
      cases findTeacher rows userId with
      | none => rfl
      | some teacherRole =>
          simp only
          split <;> rfl

/-- What is known of a row that was found by its identifier. -/
theorem knows_validating (hkeyed : Keyed rows) (hfound : getRoleById rows roleId = some row)
    (hrest : isValid known groupIds = true → ∀ other, Keyed other →
      getRoleOfUser other row.userId = some row →
        serve known call other = finish call (updateRoleGroups known other roleId groupIds)) :
    Knows known rows (.validatingGroups call roleId [(row.userId, some row)] groupIds) where
  seen := by
    rw [relies]
    split
    · exact agrees_singleton.mpr (getRoleOfUser_of_id hkeyed hfound)
    · exact agrees_nil _
  shape := Or.inr ⟨row, rfl, ((getRoleById_eq_some hkeyed).mp hfound).2⟩
  rest := by
    intro current hcall hdecided other hother hagrees
    obtain rfl := Option.some.inj hcall
    rw [decided, Option.map_eq_none_iff, failure_eq_none] at hdecided
    rw [relies, if_pos hdecided, agrees_singleton] at hagrees
    exact hrest hdecided other hother hagrees

theorem knows_settled (call : Call) (answer : Answer) :
    Knows known rows (.settled call answer) where
  seen := agrees_nil _
  shape := trivial
  rest := by
    intro current hcall hdecided
    cases hdecided

theorem knows_start (call : Call) : Knows known rows (start call) := by
  cases call with
  | updateRoleGroups roleId groupIds =>
      refine ⟨?_, Or.inl rfl, ?_⟩
      · simp [start, relies]
      · intro current hcall _ other _ _
        obtain rfl := Option.some.inj hcall
        rfl
  | assignRole data uuid =>
      refine ⟨?_, Or.inl ⟨rfl, rfl⟩, ?_⟩
      · simp [start, relies]
      · intro current hcall _ other _ _
        obtain rfl := Option.some.inj hcall
        rfl
  | _ =>
      refine ⟨agrees_nil _, trivial, ?_⟩
      intro current hcall _ other _ _
      obtain rfl := Option.some.inj hcall
      rfl

theorem knows_afterReading (hkeyed : Keyed rows)
    (hmeets : meetsAdmin rows (.reading call) = false) :
    Knows known rows (afterReading rows call) := by
  have hrole : ∀ call roleId groupIds,
      (∀ other row, Keyed other → getRoleById other roleId = some row →
        serve known call other =
          finish call (updateRoleGroups known other roleId (groupIds row))) →
      Knows known rows (afterRole call roleId groupIds (getRoleById rows roleId)) := by
    intro call roleId groupIds hserve
    cases hfound : getRoleById rows roleId with
    | none => exact knows_settled _ _
    | some row =>
        refine knows_validating hkeyed hfound ?_
        intro _ other hother hsame
        have hid := getRoleById_of_user hother hsame
        rw [((getRoleById_eq_some hkeyed).mp hfound).2] at hid
        exact hserve other row hother hid
  cases call with
  | addGroupsToRole roleId groupIds =>
      refine hrole _ roleId _ fun other row _ hid => ?_
      rw [serve, command, addGroupsToRole, hid]
  | removeGroupsFromRole roleId groupIds =>
      refine hrole _ roleId _ fun other row _ hid => ?_
      rw [serve, command, removeGroupsFromRole, hid]
  | updateRoleGroups roleId groupIds => exact knows_start (.updateRoleGroups roleId groupIds)
  | removeGroupFromAllRoles groupId =>
      refine ⟨?_, ?_, by intro _ _ hdecided; cases hdecided⟩
      · rintro ⟨userId, row⟩ hentry
        obtain ⟨found, hfound, hsame⟩ := List.mem_map.mp hentry
        obtain ⟨rfl, rfl⟩ := Prod.mk.inj hsame
        exact (getRoleOfUser_eq_some hkeyed).mpr ⟨(List.mem_filter.mp hfound).1, rfl⟩
      · exact hkeyed.users.sublist (List.filter_sublist.map _)
  | assignRole data uuid => exact knows_start (.assignRole data uuid)
  | ensureTeacherRoleGroupAccess userId groupId createdBy uuid =>
      rw [afterReading]
      cases hteacher : findTeacher rows userId with
      | none =>
          refine ⟨?_, Or.inr ⟨_, rfl, ?_⟩, ?_⟩
          · simp only [relies]
            split
            · exact agrees_singleton.mpr rfl
            · exact agrees_nil _
          · rintro - row hrow
            rw [meetsAdmin, hrow] at hmeets
            simpa using hmeets
          · intro current hcall hdecided other hother hagrees
            obtain rfl := Option.some.inj hcall
            simp only [decided, Option.map_eq_none_iff, failure_eq_none] at hdecided
            simp only [relies, hdecided, if_true, agrees_singleton] at hagrees
            have hnone : findTeacher other userId = none := by
              rw [findTeacher_eq hother, hagrees, ← findTeacher_eq hkeyed, hteacher]
            rw [serve, command, ensureTeacherRoleGroupAccess, hnone]
            rfl
      | some teacherRole =>
          obtain ⟨hfound, hid⟩ := findTeacher_eq_some hkeyed hteacher
          simp only
          split
          · exact knows_settled _ _
          · rename_i hnot
            refine ⟨agrees_singleton.mpr (hid ▸ hfound), trivial, ?_⟩
            intro current hcall _ other hother hagrees
            obtain rfl := Option.some.inj hcall
            rw [relies, agrees_singleton, hid] at hagrees
            have hsome : findTeacher other userId = some teacherRole := by
              rw [findTeacher_eq hkeyed, hfound] at hteacher
              rw [findTeacher_eq hother, hagrees, hteacher]
            rw [serve, command, ensureTeacherRoleGroupAccess, hsome]
            simp only
            rw [if_neg hnot]
            rfl

end Reading

/-! ## One step -/

section Steps

variable {known : Known} {label : Statement} {store : Store} {phase : Phase}
  {outcome : Store × Phase}

/-- The rows stay told apart. -/
theorem step_keyed (hkeyed : Keyed store.rows)
    (hstep : step known label store phase = some outcome) : Keyed outcome.1.rows := by
  revert hstep
  fun_cases step known label store phase
  case case6 call roleId seen groupIds =>
    rintro ⟨⟩
    exact hkeyed.updateRow (keepsKeys_withGroups _)
  case case10 call data uuid groupIds existing =>
    rintro ⟨⟩
    exact keyed_roleWrite hkeyed data uuid groupIds existing
  case case11 call groupId row remaining updatedCount =>
    rintro ⟨⟩
    exact hkeyed.updateRow (keepsKeys_withGroups _)
  all_goals rintro ⟨⟩
  all_goals exact hkeyed

variable {call : Call} {row : RoleRow}

/-- A row that is still to be written is the row with its identifier. -/
theorem Knows.found {groupId : Text} {remaining : List RoleRow} {updatedCount : Nat}
    (hknows : Knows known store.rows (.removing call groupId (row :: remaining) updatedCount)) :
    getRoleOfUser store.rows row.userId = some row :=
  hknows.seen (row.userId, some row) List.mem_cons_self

theorem step_user (hkeyed : Keyed store.rows) (hknows : Knows known store.rows phase)
    (hstep : step known label store phase = some outcome) {userId : Text}
    (hother : writes store.rows phase ≠ some userId) :
    getRoleOfUser outcome.1.rows userId = getRoleOfUser store.rows userId := by
  revert hstep
  fun_cases step known label store phase
  case case6 call roleId seen groupIds =>
    rintro ⟨⟩
    refine getRoleOfUser_updateRow (keepsKeys_withGroups _) ?_
    rintro row hrow hid rfl
    refine hother ?_
    rw [writes, (getRoleById_eq_some hkeyed).mpr ⟨hrow, hid⟩, Option.map_some]
  case case10 call data uuid groupIds existing =>
    rintro ⟨⟩
    have hne : data.userId ≠ userId := fun h => hother (congrArg some h)
    have hexisting : getRoleOfUser store.rows data.userId = existing :=
      hknows.seen (data.userId, existing) List.mem_cons_self
    rcases roleWrite_cases known store.rows data uuid groupIds existing with
      ⟨hwrite, -⟩ | ⟨row, rfl, hwrite⟩ | ⟨rfl, -, hwrite⟩
    · rw [Store.write, hwrite]
      rfl
    · rw [Store.write, hwrite]
      refine getRoleOfUser_updateRow (keepsKeys_withRole _ _) ?_
      intro other hmem hid
      obtain ⟨hrow, huser⟩ := (getRoleOfUser_eq_some hkeyed).mp hexisting
      rw [List.inj_on_of_nodup_map hkeyed.ids hmem hrow hid, huser]
      exact hne
    · rw [Store.write, hwrite]
      have hrow : (newRow data uuid groupIds).userId ≠ userId := hne
      simp [Write.apply, getRoleOfUser, List.find?_append, hrow]
  case case11 call groupId row remaining updatedCount =>
    rintro ⟨⟩
    refine getRoleOfUser_updateRow (keepsKeys_withGroups _) ?_
    rintro other hmem hid rfl
    obtain ⟨hrow, -⟩ := (getRoleOfUser_eq_some hkeyed).mp hknows.found
    rw [List.inj_on_of_nodup_map hkeyed.ids hmem hrow hid] at hother
    exact hother rfl
  all_goals rintro ⟨⟩
  all_goals rfl

/-- A row that was read is the row with its identifier. -/
theorem afterRole_eq {groupIds : RoleRow → List Text} (hkeyed : Keyed store.rows)
    (hfound : getRoleOfUser store.rows row.userId = some row) :
    afterRole call row.id groupIds (getRoleById store.rows row.id) =
      .validatingGroups call row.id [(row.userId, some row)] (groupIds row) := by
  rw [getRoleById_of_user hkeyed hfound, afterRole]

theorem step_knows (hkeyed : Keyed store.rows) (hknows : Knows known store.rows phase)
    (hmeets : meetsAdmin store.rows phase = false)
    (hstep : step known label store phase = some outcome) :
    Knows known outcome.1.rows outcome.2 := by
  have huser := @step_user _ _ _ _ _ hkeyed hknows hstep
  revert hstep
  fun_cases step known label store phase
  case case1 call =>
    rintro ⟨⟩
    exact knows_start call
  case case2 call =>
    rintro ⟨⟩
    exact knows_afterReading hkeyed hmeets
  case case3 call teacherRole groupId =>
    rintro ⟨⟩
    have hfound : getRoleOfUser store.rows teacherRole.userId = some teacherRole :=
      agrees_singleton.mp hknows.seen
    rw [afterRole_eq hkeyed hfound]
    refine knows_validating hkeyed (getRoleById_of_user hkeyed hfound) ?_
    intro hvalid other hother hsame
    have hdecided : decided known (.readingTeacher call teacherRole groupId) = none := by
      rw [decided, failure_eq_none.mpr hvalid, Option.map_none]
    rw [hknows.rest call rfl hdecided other hother (agrees_singleton.mpr hsame), rest,
      addGroupsToRole, getRoleById_of_user hother hsame]
  case case5 call roleId seen groupIds validated hvalidated =>
    rintro ⟨⟩
    obtain ⟨hvalid, -⟩ := isValid_of_validated hvalidated
    have hdecided : decided known (.validatingGroups call roleId seen groupIds) = none := by
      rw [decided, failure_eq_none.mpr hvalid, Option.map_none]
    have hrelies : relies known (.validatingGroups call roleId seen groupIds) = seen := if_pos hvalid
    refine ⟨hrelies ▸ hknows.seen, hknows.shape, ?_⟩
    intro current hcall _ other hother hagrees
    rw [hknows.rest current hcall hdecided other hother (hrelies.symm ▸ hagrees), rest,
      updateRoleGroups, hvalidated]
    rfl
  case case8 call data uuid seen validated hvalidated =>
    rintro ⟨⟩
    obtain ⟨hvalid, -⟩ := isValid_of_validated hvalidated
    have hdecided : decided known (.validatingRole call data uuid seen) = none := by
      rw [decided, failure_eq_none.mpr hvalid, Option.map_none]
    have hrelies : relies known (.validatingRole call data uuid seen) = seen := if_pos hvalid
    refine ⟨hrelies ▸ hknows.seen, hknows.shape, ?_⟩
    intro current hcall _ other hother hagrees
    rw [hknows.rest current hcall hdecided other hother (hrelies.symm ▸ hagrees), rest,
      assignRole, hvalidated]
    rfl
  case case9 call data uuid seen groupIds =>
    rintro ⟨⟩
    refine ⟨agrees_singleton.mpr rfl, ?_, ?_⟩
    · rcases hknows.shape with ⟨rfl, hcall⟩ | ⟨existing, rfl, hmild⟩
      · intro hensures
        rw [hcall] at hensures
        cases hensures
      · have hexisting : getRoleOfUser store.rows data.userId = existing :=
          agrees_singleton.mp hknows.seen
        rw [Shape, hexisting]
        exact hmild
    · intro current hcall _ other hother hagrees
      have hsame := agrees_singleton.mp hagrees
      have hbefore : Agrees other (relies known (.selectingRole call data uuid seen groupIds)) := by
        rcases hknows.shape with ⟨rfl, -⟩ | ⟨existing, rfl, -⟩
        · exact agrees_nil _
        · have hexisting : getRoleOfUser store.rows data.userId = existing :=
            agrees_singleton.mp hknows.seen
          exact agrees_singleton.mpr (hsame.trans hexisting)
      rw [hknows.rest current hcall rfl other hother hbefore, rest, rest, hsame]
  case case11 call groupId row remaining updatedCount =>
    intro hstep
    obtain rfl := Option.some.inj hstep
    have hshape := List.nodup_cons.mp hknows.shape
    refine ⟨?_, hshape.2, by intro _ _ hdecided; cases hdecided⟩
    rintro ⟨userId, seenRow⟩ hentry
    obtain ⟨other, hmem, hsame⟩ := List.mem_map.mp hentry
    obtain ⟨rfl, rfl⟩ := Prod.mk.inj hsame
    refine (huser ?_).trans (hknows.seen _ (List.mem_cons_of_mem _ hentry))
    intro hwrites
    exact hshape.1 (List.mem_map.mpr ⟨other, hmem, (Option.some.inj hwrites).symm⟩)
  all_goals rintro ⟨⟩
  all_goals exact knows_settled _ _

theorem NeverLowers.write {call : Call} {write : Write} (hnever : NeverLowers store)
    (hwrite : ∀ change ∈ write.changes call store.rows, change.call.ensuresTeacher = true →
      isAdmin change.before = true → change.after.role = change.before.role) :
    NeverLowers (store.write call write) := by
  intro change hchange
  rcases List.mem_append.mp hchange with hbefore | hnew
  · exact hnever change hbefore
  · exact hwrite change hnew

theorem mem_changes_update {rows : List RoleRow} {roleId : Text} {update : RoleRow → RoleRow}
    {change : Change} (hchange : change ∈ (Write.update roleId update).changes call rows) :
    ∃ row, getRoleById rows roleId = some row ∧ change = ⟨call, row, update row⟩ := by
  obtain ⟨row, hrow, hsame⟩ := Option.map_eq_some_iff.mp (Option.mem_toList.mp hchange)
  exact ⟨row, hrow, hsame.symm⟩

theorem step_neverLowers (hkeyed : Keyed store.rows) (hknows : Knows known store.rows phase)
    (hnever : NeverLowers store) (hstep : step known label store phase = some outcome) :
    NeverLowers outcome.1 := by
  have hgroups : ∀ call roleId groupIds,
      NeverLowers (store.write call (.update roleId (withGroups groupIds))) := by
    intro call roleId groupIds
    refine hnever.write ?_
    intro change hchange _ _
    obtain ⟨row, -, rfl⟩ := mem_changes_update hchange
    rfl
  revert hstep
  fun_cases step known label store phase
  case case6 call roleId seen groupIds =>
    rintro ⟨⟩
    exact hgroups _ _ _
  case case10 call data uuid groupIds existing =>
    rintro ⟨⟩
    refine hnever.write ?_
    intro change hchange hensures hadmin
    rcases roleWrite_cases known store.rows data uuid groupIds existing with
      ⟨hwrite, -⟩ | ⟨row, rfl, hwrite⟩ | ⟨rfl, -, hwrite⟩
    · rw [hwrite] at hchange
      cases hchange
    · rw [hwrite] at hchange
      obtain ⟨found, hfound, rfl⟩ := mem_changes_update hchange
      have hexisting : getRoleOfUser store.rows data.userId = some row :=
        agrees_singleton.mp hknows.seen
      rw [getRoleById_of_user hkeyed hexisting] at hfound
      obtain rfl := Option.some.inj hfound
      rw [hknows.shape hensures row rfl] at hadmin
      cases hadmin
    · rw [hwrite] at hchange
      cases hchange
  case case11 call groupId row remaining updatedCount =>
    rintro ⟨⟩
    exact hgroups _ _ _
  all_goals rintro ⟨⟩
  all_goals exact hnever

/-! ## Calls that are both to write a row -/

/-- The users whose rows a call has read and is still to write. -/
def reliesOn (known : Known) (phase : Phase) : List Text := (relies known phase).map Prod.fst

/-- The call is certain to write what it relies on. -/
def firm (known : Known) : Phase → Bool
  | .readingTeacher _ teacherRole groupId => isValid known (addedGroups teacherRole [groupId])
  | _ => true

/-- A call that is to write a row goes on so, or writes it. -/
theorem step_firm (hkeyed : Keyed store.rows) (hknows : Knows known store.rows phase)
    (hfirm : firm known phase = true) {userId : Text} (hrelies : userId ∈ reliesOn known phase)
    (hstep : step known label store phase = some outcome) :
    (firm known outcome.2 = true ∧ userId ∈ reliesOn known outcome.2) ∨
      writes store.rows phase = some userId := by
  revert hstep
  fun_cases step known label store phase
  case case1 call => cases hrelies
  case case2 call => cases hrelies
  case case3 call teacherRole groupId =>
    rintro ⟨⟩
    have hfound : getRoleOfUser store.rows teacherRole.userId = some teacherRole :=
      agrees_singleton.mp hknows.seen
    have hvalid : isValid known (addedGroups teacherRole [groupId]) = true := hfirm
    rw [afterRole_eq hkeyed hfound]
    refine Or.inl ⟨rfl, ?_⟩
    rw [reliesOn, relies, if_pos hvalid]
    exact hrelies
  case case4 call roleId seen groupIds message herror =>
    have hfailure : failure known groupIds = some (.threw message) := by rw [failure, herror]
    rw [reliesOn, relies, (failure_eq_some hfailure).1] at hrelies
    cases hrelies
  case case5 call roleId seen groupIds validated hvalidated =>
    rintro ⟨⟩
    rw [reliesOn, relies, if_pos (isValid_of_validated hvalidated).1] at hrelies
    exact Or.inl ⟨rfl, hrelies⟩
  case case6 call roleId seen groupIds =>
    rintro ⟨⟩
    refine Or.inr ?_
    rcases hknows.shape with rfl | ⟨row, rfl, hid⟩
    · cases hrelies
    · have hfound : getRoleOfUser store.rows row.userId = some row :=
        agrees_singleton.mp hknows.seen
      rw [writes, ← hid, getRoleById_of_user hkeyed hfound, Option.map_some,
        List.mem_singleton.mp hrelies]
  case case7 call data uuid seen message herror =>
    have hfailure : failure known data.groupIds = some (.threw message) := by
      rw [failure, herror]
    rw [reliesOn, relies, (failure_eq_some hfailure).1] at hrelies
    cases hrelies
  case case8 call data uuid seen validated hvalidated =>
    rintro ⟨⟩
    rw [reliesOn, relies, if_pos (isValid_of_validated hvalidated).1] at hrelies
    exact Or.inl ⟨rfl, hrelies⟩
  case case9 call data uuid seen groupIds =>
    rintro ⟨⟩
    refine Or.inl ⟨rfl, ?_⟩
    rcases hknows.shape with ⟨rfl, -⟩ | ⟨existing, rfl, -⟩
    · cases hrelies
    · exact hrelies
  case case10 call data uuid groupIds existing =>
    rintro ⟨⟩
    exact Or.inr (congrArg some (List.mem_singleton.mp hrelies).symm)
  case case11 call groupId row remaining updatedCount =>
    rintro ⟨⟩
    rcases List.mem_cons.mp hrelies with hrow | hlater
    · exact Or.inr (congrArg some hrow.symm)
    · exact Or.inl ⟨rfl, hlater⟩
  case case12 call updatedCount groupId => cases hrelies
  case case13 =>
    rintro ⟨⟩

end Steps

end OpenPath.Api.RoleGroups
