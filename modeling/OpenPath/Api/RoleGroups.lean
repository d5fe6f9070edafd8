/-
# The groups of a role

Each user has at most one row in `roles`, with the groups that the role gives. The
calls that change it read a row, compute the new groups, and write them in a later
statement; the removal of a group from all roles writes row by row. Every statement
is a transaction of its own, so that any statements of other calls may come between.

`serve` is what a call does when nothing comes between its statements, and
`alone_serve` connects it with the steps. The condition under which the calls
are serialisable is at the end: nobody writes a row between another call's reading
and writing of it.
-/

import OpenPath.Api.Accounts
import OpenPath.Foundation.Concurrency
import OpenPath.Foundation.SerialOrder

namespace OpenPath.Api.RoleGroups

open Accounts Auth
open Foundation (Entry Interleaved TransitionSystem)

/-- The groups and the users that exist while the calls run. -/
structure Known where
  groups : List Text
  users : List Text

structure AssignRoleData where
  userId : Text
  role : UserRole
  groupIds : List Text
  createdBy : Option Text
  deriving DecidableEq

/-- The calls, with the random part of the identifier that an insertion draws. -/
inductive Call
  | addGroupsToRole (roleId : Text) (groupIds : List Text)
  | removeGroupsFromRole (roleId : Text) (groupIds : List Text)
  | updateRoleGroups (roleId : Text) (groupIds : List Text)
  | removeGroupFromAllRoles (groupId : Text)
  | assignRole (data : AssignRoleData) (uuid : Text)
  | ensureTeacherRoleGroupAccess (userId groupId createdBy uuid : Text)
  deriving DecidableEq

/-- What a call ends with; `refused` is an error of the database. -/
inductive Answer
  | role (row : Option RoleRow)
  | count (updated : Nat)
  | done
  | threw (message : Text)
  | refused
  deriving DecidableEq

/-- `ensureTeacherRoleGroupAccess` returns nothing. -/
def Answer.void : Answer → Answer
  | .role _ => .done
  | answer => answer

/-- The answer of a call, from that of the command that it ends in. -/
def Call.answer : Call → Answer → Answer
  | .ensureTeacherRoleGroupAccess _ _ _ _, answer => answer.void
  | _, answer => answer

def roleText : UserRole → Text
  | .admin => "admin".toList
  | .teacher => "teacher".toList
  | .student => "student".toList

/-- The groups of a row, where there are any. -/
def groupsOf (row : RoleRow) : List Text := row.groupIds.getD []

def getRoleById (rows : List RoleRow) (roleId : Text) : Option RoleRow :=
  rows.find? (·.id = roleId)

def getRoleOfUser (rows : List RoleRow) (userId : Text) : Option RoleRow :=
  rows.find? (·.userId = userId)

/-! ## The identifiers of groups -/

def normalizeGroupIds (groupIds : List Text) : List Text :=
  ((groupIds.map JavaScript.trim).filter (· ≠ [])).eraseDups

def missingIds (known : Known) (groupIds : List Text) : List Text :=
  (normalizeGroupIds groupIds).filter (· ∉ known.groups)

def normalizeAndValidateRoleGroupIds (known : Known) (groupIds : List Text) :
    Except Text (List Text) :=
  if missingIds known groupIds = [] then .ok (normalizeGroupIds groupIds)
  else
    .error ("Unknown group IDs: ".toList ++ JavaScript.join (missingIds known groupIds) ", ".toList)

/-! ## Writes -/

/-- One statement that writes. -/
inductive Write
  | none
  | update (roleId : Text) (change : RoleRow → RoleRow)
  | insert (row : RoleRow)

def withGroups (groupIds : List Text) (row : RoleRow) : RoleRow :=
  { row with groupIds := some groupIds }

/-- The update of `assignRole`; an undefined `createdBy` is left out. -/
def withRole (data : AssignRoleData) (groupIds : List Text) (row : RoleRow) : RoleRow :=
  { row with
    role := roleText data.role
    groupIds := some groupIds
    createdBy := data.createdBy.or row.createdBy }

def newRow (data : AssignRoleData) (uuid : Text) (groupIds : List Text) : RoleRow where
  id := "role_".toList ++ uuid.take 8
  userId := data.userId
  role := roleText data.role
  groupIds := some groupIds
  createdBy := data.createdBy

def updateRow (roleId : Text) (change : RoleRow → RoleRow) (rows : List RoleRow) : List RoleRow :=
  rows.map fun row => if row.id = roleId then change row else row

def Write.apply (rows : List RoleRow) : Write → List RoleRow
  | .none => rows
  | .update roleId change => updateRow roleId change rows
  | .insert row => rows ++ [row]

/-- What the insertion of a row runs into: a unique column or a foreign key. -/
def violates (known : Known) (rows : List RoleRow) (row : RoleRow) : Bool :=
  rows.any (fun other => other.id = row.id || other.userId = row.userId) ||
    !known.users.contains row.userId || !row.createdBy.all known.users.contains

/-- The update of the groups of a role. -/
def groupsWrite (rows : List RoleRow) (roleId : Text) (groupIds : List Text) : Answer × Write :=
  (.role ((getRoleById rows roleId).map (withGroups groupIds)),
    .update roleId (withGroups groupIds))

/-- The update of the role that `assignRole` has found, or the insertion of one. -/
def roleWrite (known : Known) (rows : List RoleRow) (data : AssignRoleData) (uuid : Text)
    (groupIds : List Text) : Option RoleRow → Answer × Write
  | some existing =>
      if data.createdBy.all known.users.contains then
        match getRoleById rows existing.id with
        | some row =>
            (.role (some (withRole data groupIds row)),
              .update existing.id (withRole data groupIds))
        | none =>
            (.threw ("Failed to update role for user \"".toList ++ data.userId ++ "\"".toList),
              .none)
      else (.refused, .none)
  | none =>
      if violates known rows (newRow data uuid groupIds) then (.refused, .none)
      else (.role (some (newRow data uuid groupIds)), .insert (newRow data uuid groupIds))

/-! ## A call on its own -/

/-- An answer with the rows after the write. -/
def served (rows : List RoleRow) (outcome : Answer × Write) : Answer × List RoleRow :=
  (outcome.1, outcome.2.apply rows)

def updateRoleGroups (known : Known) (rows : List RoleRow) (roleId : Text)
    (groupIds : List Text) : Answer × List RoleRow :=
  match normalizeAndValidateRoleGroupIds known groupIds with
  | .error message => (.threw message, rows)
  | .ok validated => served rows (groupsWrite rows roleId validated)

/-- `[...new Set([...existingGroups, ...groupIds])]` -/
def addedGroups (existing : RoleRow) (groupIds : List Text) : List Text :=
  (groupsOf existing ++ groupIds).eraseDups

def remainingGroups (existing : RoleRow) (groupIds : List Text) : List Text :=
  (groupsOf existing).filter (· ∉ groupIds)

def addGroupsToRole (known : Known) (rows : List RoleRow) (roleId : Text)
    (groupIds : List Text) : Answer × List RoleRow :=
  match getRoleById rows roleId with
  | none => (.role none, rows)
  | some existing => updateRoleGroups known rows roleId (addedGroups existing groupIds)

def removeGroupsFromRole (known : Known) (rows : List RoleRow) (roleId : Text)
    (groupIds : List Text) : Answer × List RoleRow :=
  match getRoleById rows roleId with
  | none => (.role none, rows)
  | some existing => updateRoleGroups known rows roleId (remainingGroups existing groupIds)

/-- `group_ids @> ARRAY[groupId]` -/
def hasGroup (groupId : Text) (row : RoleRow) : Bool := (groupsOf row).contains groupId

def withoutGroup (groupId : Text) (row : RoleRow) : RoleRow :=
  withGroups (remainingGroups row [groupId]) row

def removeGroupFromAllRoles (rows : List RoleRow) (groupId : Text) : Answer × List RoleRow :=
  (.count (rows.filter (hasGroup groupId)).length,
    rows.map fun row => if hasGroup groupId row then withoutGroup groupId row else row)

def assignRole (known : Known) (rows : List RoleRow) (data : AssignRoleData) (uuid : Text) :
    Answer × List RoleRow :=
  match normalizeAndValidateRoleGroupIds known data.groupIds with
  | .error message => (.threw message, rows)
  | .ok validated =>
      served rows (roleWrite known rows data uuid validated (getRoleOfUser rows data.userId))

def findTeacher (rows : List RoleRow) (userId : Text) : Option RoleRow :=
  (getUserRoles rows userId).find? (·.role = "teacher".toList)

def teacherData (userId groupId createdBy : Text) : AssignRoleData where
  userId := userId
  role := .teacher
  groupIds := [groupId]
  createdBy := some createdBy

def ensureTeacherRoleGroupAccess (known : Known) (rows : List RoleRow)
    (userId groupId createdBy uuid : Text) : Answer × List RoleRow :=
  match findTeacher rows userId with
  | none => assignRole known rows (teacherData userId groupId createdBy) uuid
  | some teacherRole =>
      if hasGroup groupId teacherRole then (.done, rows)
      else addGroupsToRole known rows teacherRole.id [groupId]

def command (known : Known) (rows : List RoleRow) : Call → Answer × List RoleRow
  | .addGroupsToRole roleId groupIds => addGroupsToRole known rows roleId groupIds
  | .removeGroupsFromRole roleId groupIds => removeGroupsFromRole known rows roleId groupIds
  | .updateRoleGroups roleId groupIds => updateRoleGroups known rows roleId groupIds
  | .removeGroupFromAllRoles groupId => removeGroupFromAllRoles rows groupId
  | .assignRole data uuid => assignRole known rows data uuid
  | .ensureTeacherRoleGroupAccess userId groupId createdBy uuid =>
      ensureTeacherRoleGroupAccess known rows userId groupId createdBy uuid

/-- The end of a call, after the command that it ends in. -/
def finish (call : Call) (outcome : Answer × List RoleRow) : Answer × List RoleRow :=
  (call.answer outcome.1, outcome.2)

/-- A call that nothing comes between. -/
def serve (known : Known) (call : Call) (rows : List RoleRow) : Answer × List RoleRow :=
  finish call (command known rows call)

/-! ## Statement by statement -/

/-- What a call has read: users, with the row of each. -/
abbrev Seen := List (Text × Option RoleRow)

/-- How far a call has come. -/
inductive Phase
  | idle
  | reading (call : Call)
  | readingTeacher (call : Call) (teacherRole : RoleRow) (groupId : Text)
  | validatingGroups (call : Call) (roleId : Text) (seen : Seen) (groupIds : List Text)
  | updatingGroups (call : Call) (roleId : Text) (seen : Seen) (groupIds : List Text)
  | validatingRole (call : Call) (data : AssignRoleData) (uuid : Text) (seen : Seen)
  | selectingRole (call : Call) (data : AssignRoleData) (uuid : Text) (seen : Seen)
      (groupIds : List Text)
  | writingRole (call : Call) (data : AssignRoleData) (uuid : Text) (groupIds : List Text)
      (existing : Option RoleRow)
  | removing (call : Call) (groupId : Text) (remaining : List RoleRow) (updatedCount : Nat)
  | settled (call : Call) (answer : Answer)
  deriving DecidableEq

/-- An update of a row by a call. -/
structure Change where
  call : Call
  before : RoleRow
  after : RoleRow
  deriving DecidableEq

/-- The table, with all updates of its rows so far. -/
structure Store where
  rows : List RoleRow
  changes : List Change

def Write.changes (call : Call) (rows : List RoleRow) : Write → List Change
  | .update roleId change =>
      ((getRoleById rows roleId).map fun row => ⟨call, row, change row⟩).toList
  | _ => []

def Store.write (store : Store) (call : Call) (write : Write) : Store where
  rows := write.apply store.rows
  changes := store.changes ++ write.changes call store.rows

inductive Statement
  | start (call : Call)
  | next

/-- The first statement of a call. -/
def start : Call → Phase
  | .updateRoleGroups roleId groupIds =>
      .validatingGroups (.updateRoleGroups roleId groupIds) roleId [] groupIds
  | .assignRole data uuid => .validatingRole (.assignRole data uuid) data uuid []
  | call => .reading call

/-- What follows once the row of a role is read. -/
def afterRole (call : Call) (roleId : Text) (groupIds : RoleRow → List Text) :
    Option RoleRow → Phase
  | none => .settled call (call.answer (.role none))
  | some existing =>
      .validatingGroups call roleId [(existing.userId, some existing)] (groupIds existing)

/-- What follows the first reading. -/
def afterReading (rows : List RoleRow) : Call → Phase
  | .addGroupsToRole roleId groupIds =>
      afterRole (.addGroupsToRole roleId groupIds) roleId (addedGroups · groupIds)
        (getRoleById rows roleId)
  | .removeGroupsFromRole roleId groupIds =>
      afterRole (.removeGroupsFromRole roleId groupIds) roleId (remainingGroups · groupIds)
        (getRoleById rows roleId)
  | .removeGroupFromAllRoles groupId =>
      .removing (.removeGroupFromAllRoles groupId) groupId (rows.filter (hasGroup groupId)) 0
  | .ensureTeacherRoleGroupAccess userId groupId createdBy uuid =>
      match findTeacher rows userId with
      | none =>
          .validatingRole (.ensureTeacherRoleGroupAccess userId groupId createdBy uuid)
            (teacherData userId groupId createdBy) uuid [(userId, getRoleOfUser rows userId)]
      | some teacherRole =>
          if hasGroup groupId teacherRole then
            .settled (.ensureTeacherRoleGroupAccess userId groupId createdBy uuid) .done
          else
            .readingTeacher (.ensureTeacherRoleGroupAccess userId groupId createdBy uuid)
              teacherRole groupId
  | call => start call

/-- One statement of a call. -/
def step (known : Known) : Statement → Store → Phase → Option (Store × Phase)
  | .start call, store, .idle => some (store, start call)
  | .next, store, .reading call => some (store, afterReading store.rows call)
  | .next, store, .readingTeacher call teacherRole groupId =>
      some (store, afterRole call teacherRole.id (addedGroups · [groupId])
        (getRoleById store.rows teacherRole.id))
  | .next, store, .validatingGroups call roleId seen groupIds =>
      match normalizeAndValidateRoleGroupIds known groupIds with
      | .error message => some (store, .settled call (.threw message))
      | .ok validated => some (store, .updatingGroups call roleId seen validated)
  | .next, store, .updatingGroups call roleId _ groupIds =>
      some (store.write call (groupsWrite store.rows roleId groupIds).2,
        .settled call (call.answer (groupsWrite store.rows roleId groupIds).1))
  | .next, store, .validatingRole call data uuid seen =>
      match normalizeAndValidateRoleGroupIds known data.groupIds with
      | .error message => some (store, .settled call (.threw message))
      | .ok validated => some (store, .selectingRole call data uuid seen validated)
  | .next, store, .selectingRole call data uuid _ groupIds =>
      some (store, .writingRole call data uuid groupIds (getRoleOfUser store.rows data.userId))
  | .next, store, .writingRole call data uuid groupIds existing =>
      some (store.write call (roleWrite known store.rows data uuid groupIds existing).2,
        .settled call (call.answer (roleWrite known store.rows data uuid groupIds existing).1))
  | .next, store, .removing call groupId (row :: remaining) updatedCount =>
      some (store.write call (.update row.id (withGroups (remainingGroups row [groupId]))),
        .removing call groupId remaining (updatedCount + 1))
  | .next, store, .removing call _ [] updatedCount =>
      some (store, .settled call (.count updatedCount))
  | _, _, _ => none

/-- A step of one call, as a move of the interleaved system. -/
def move (known : Known) (label : Statement) (source : Store × Phase) : Option (Store × Phase) :=
  step known label source.1 source.2

/-- The rows are told apart by their identifiers, and by their users. -/
structure Keyed (rows : List RoleRow) : Prop where
  ids : (rows.map (·.id)).Nodup
  users : (rows.map (·.userId)).Nodup

/-- The groups of the rows are as the commands store them. -/
def Trimmed (rows : List RoleRow) : Prop :=
  ∀ row ∈ rows, ∀ groupId ∈ groupsOf row, JavaScript.trim groupId = groupId

/-- The rows before the first call. -/
structure Fresh (initial : List RoleRow) (store : Store) : Prop where
  rows : store.rows = initial
  keyed : Keyed initial
  trimmed : Trimmed initial
  changes : store.changes = []

/-- All interleavings of the calls, from the initial rows. -/
def changes (known : Known) (initial : List RoleRow) :
    TransitionSystem (Interleaved Store Phase) (Nat × Statement) :=
  Interleaved.system (Fresh initial) .idle (Interleaved.movesOf (move known))

/-! ## Serialised -/

/-- Every call that has started has ended. -/
def Quiescent (state : Interleaved Store Phase) : Prop :=
  ∀ number, state.phase number = .idle ∨
    ∃ call answer, state.phase number = .settled call answer

/-- The call has taken the group from the role. -/
def Removes (row : RoleRow) (groupId : Text) : Call → Answer → Prop
  | .removeGroupsFromRole roleId groupIds, .role (some _) => row.id = roleId ∧ groupId ∈ groupIds
  | .removeGroupFromAllRoles removed, .count _ => removed = groupId
  | .updateRoleGroups roleId groupIds, .role (some _) =>
      row.id = roleId ∧ groupId ∉ normalizeGroupIds groupIds
  | .assignRole data _, .role (some _) =>
      row.userId = data.userId ∧ groupId ∉ normalizeGroupIds data.groupIds
  | _, _ => False

/-- The call gives the group to the role. -/
def Gives (row : RoleRow) (groupId : Text) : Call → Prop
  | .addGroupsToRole roleId groupIds => row.id = roleId ∧ groupId ∈ normalizeGroupIds groupIds
  | .updateRoleGroups roleId groupIds => row.id = roleId ∧ groupId ∈ normalizeGroupIds groupIds
  | .assignRole data _ => row.userId = data.userId ∧ groupId ∈ normalizeGroupIds data.groupIds
  | .ensureTeacherRoleGroupAccess userId given _ _ =>
      row.userId = userId ∧ groupId ∈ normalizeGroupIds [given]
  | _ => False

/-- The order explains the state: one after the other, the calls give the answers that
they have given and the rows that there are; a group that one of them has removed is
there only if a later one has given it. -/
structure Explains (known : Known) (initial : List RoleRow) (state : Interleaved Store Phase)
    (order : List (Entry Call Answer)) : Prop where
  once : (order.map (·.number)).Nodup
  entries : ∀ number call answer,
    ⟨number, call, answer⟩ ∈ order ↔ state.phase number = .settled call answer
  serves : Foundation.SerialOrder.Serves (serve known) initial order state.shared.rows
  removed : ∀ earlier entry later, order = earlier ++ entry :: later →
    ∀ row ∈ state.shared.rows, ∀ groupId ∈ groupsOf row,
      Removes row groupId entry.call entry.answer →
        ∃ other ∈ later, Gives row groupId other.call

def isAdmin (row : RoleRow) : Bool := adminAliases.contains row.role

def Call.ensuresTeacher : Call → Bool
  | .ensureTeacherRoleGroupAccess _ _ _ _ => true
  | _ => false

/-- No `ensureTeacherRoleGroupAccess` has taken the role of an administrator. -/
def NeverLowers (store : Store) : Prop :=
  ∀ change ∈ store.changes, change.call.ensuresTeacher = true →
    isAdmin change.before = true → change.after.role = change.before.role

/-- Nothing is lost, and no administrator is lowered. -/
structure Serialised (known : Known) (initial : List RoleRow) (state : Interleaved Store Phase) :
    Prop where
  explained : Quiescent state → ∃ order, Explains known initial state order
  never_lowers : NeverLowers state.shared

/-! ## The condition -/

def isValid (known : Known) (groupIds : List Text) : Bool := missingIds known groupIds = []

/-- What a call has read and is still to write. -/
def relies (known : Known) : Phase → Seen
  | .readingTeacher _ teacherRole _ => [(teacherRole.userId, some teacherRole)]
  | .validatingGroups _ _ seen groupIds => if isValid known groupIds then seen else []
  | .updatingGroups _ _ seen _ => seen
  | .validatingRole _ data _ seen => if isValid known data.groupIds then seen else []
  | .selectingRole _ _ _ seen _ => seen
  | .writingRole _ data _ _ existing => [(data.userId, existing)]
  | .removing _ _ remaining _ => remaining.map fun row => (row.userId, some row)
  | _ => []

/-- The user whose row the next statement writes. -/
def writes (rows : List RoleRow) : Phase → Option Text
  | .updatingGroups _ roleId _ _ => (getRoleById rows roleId).map (·.userId)
  | .writingRole _ data _ _ _ => some data.userId
  | .removing _ _ (row :: _) _ => some row.userId
  | _ => none

/-- The call is about to find an administrator whom it would make a teacher. -/
def meetsAdmin (rows : List RoleRow) : Phase → Bool
  | .reading (.ensureTeacherRoleGroupAccess userId _ _ _) =>
      (getRoleOfUser rows userId).any isAdmin
  | _ => false

/-- The condition on a step: it writes no row that another call has read and is still
to write, and no call is about to make a teacher of an administrator. -/
def Undisturbed (known : Known) (state : Interleaved Store Phase) (label : Nat × Statement) :
    Prop :=
  (∀ userId, writes state.shared.rows (state.phase label.1) = some userId →
    ∀ other, other ≠ label.1 → userId ∉ (relies known (state.phase other)).map Prod.fst) ∧
    meetsAdmin state.shared.rows (state.phase label.1) = false

end OpenPath.Api.RoleGroups
