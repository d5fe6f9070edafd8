/-
# Policy contexts

Which group's whitelist applies in a classroom, and to a machine of it: the
group chosen by hand before the group of the current schedule before the default
group, and before all of these an exemption of the machine, which puts it under
the exemption's group or under no restriction.
-/

import OpenPath.Api.Classrooms
import OpenPath.Api.ScheduleBoundary
import OpenPath.Foundation.Answers

namespace OpenPath.Api.PolicyContext

open Foundation JavaScript Schedules ScheduleBoundary

inductive CurrentGroupSource
  | manual
  | schedule
  | default
  | none
  deriving DecidableEq, Repr

inductive EffectivePolicyContextMode
  | grouped
  | unrestricted
  deriving DecidableEq, Repr

inductive EffectivePolicyContextReason
  | current (source : CurrentGroupSource)
  | exemption
  deriving DecidableEq, Repr

structure EffectivePolicyContext where
  classroomId : Text
  classroomName : Text
  groupId : Option Text
  mode : EffectivePolicyContextMode
  reason : EffectivePolicyContextReason
  deriving DecidableEq

structure ClassroomPolicyScope where
  classroomId : Text
  classroomName : Text
  classroomDisplayName : Text
  defaultGroupId : Option Text
  activeGroupId : Option Text
  currentGroupId : Option Text
  currentGroupSource : CurrentGroupSource
  mode : EffectivePolicyContextMode

def unrestrictedGroupId : Text := "__unrestricted__".toList

/-- The first group of the three that is set and not empty. -/
def resolveCurrentGroup (activeGroupId scheduleGroupId defaultGroupId : Option Text) :
    Option Text × CurrentGroupSource :=
  match activeGroupId.filter (· ≠ []) with
  | some id => (some id, .manual)
  | none =>
      match scheduleGroupId.filter (· ≠ []) with
      | some id => (some id, .schedule)
      | none =>
          match defaultGroupId.filter (· ≠ []) with
          | some id => (some id, .default)
          | none => (none, .none)

def buildClassroomPolicyScope (classroom : ClassroomRow) (scheduleGroupId : Option Text) :
    ClassroomPolicyScope :=
  let currentGroup :=
    resolveCurrentGroup classroom.activeGroupId scheduleGroupId classroom.defaultGroupId
  { classroomId := classroom.id
    classroomName := classroom.name
    classroomDisplayName := classroom.displayName
    defaultGroupId := classroom.defaultGroupId
    activeGroupId := classroom.activeGroupId
    currentGroupId := currentGroup.1
    currentGroupSource := currentGroup.2
    mode := if currentGroup.1 = none then .unrestricted else .grouped }

def toEffectivePolicyContext (scope : ClassroomPolicyScope) : EffectivePolicyContext where
  classroomId := scope.classroomId
  classroomName := scope.classroomName
  groupId := scope.currentGroupId
  mode := scope.mode
  reason := .current scope.currentGroupSource

def serializePolicyGroupId (context : EffectivePolicyContext) : Option Text :=
  match context.mode with
  | .unrestricted => some unrestrictedGroupId
  | .grouped => context.groupId

/-! ## Queries -/

/-- How the database completes its answers to the queries. -/
structure Answers where
  limitOne : List ScheduleRow → Option ScheduleRow
  exemptions : RowOrder ExemptionRow Text

def getClassroomById (tables : PolicyTables) (id : Text) : Option ClassroomRow :=
  tables.classrooms.find? (·.id = id)

def getMachineByHostname (tables : PolicyTables) (hostname : Text) : Option MachineRow :=
  tables.machines.find? (·.hostname = trim (toLowerCase hostname))

/-- The exemptions of a classroom that have not expired. -/
def activeExemptions (tables : PolicyTables) (classroomId : Text) (now : Int) :
    List ExemptionRow :=
  tables.exemptions.filter fun row => row.classroomId = classroomId && now < row.expiresAt

/-- The hostnames of the machines with such an exemption. -/
def getActiveExemptHostnamesByClassroom (tables : PolicyTables) (classroomId : Text) (now : Int) :
    List Text :=
  (activeExemptions tables classroomId now).flatMap fun row =>
    (tables.machines.filter (·.id = row.machineId)).map (·.hostname)

/-- `ORDER BY created_at DESC`, in which nulls come first. -/
def createdLater (first second : ExemptionRow) : Bool :=
  match first.createdAt, second.createdAt with
  | none, _ => true
  | some _, none => false
  | some a, some b => b ≤ a

/-- The latest exemption of the machine with a group, or the latest one. -/
def getActiveMachineExemption (answers : Answers) (tables : PolicyTables)
    (machineId classroomId : Text) (now : Int) : Option ExemptionRow :=
  let rows := answers.exemptions.orderBy createdLater
    ((activeExemptions tables classroomId now).filter (·.machineId = machineId))
  (rows.find? (·.groupId.isSome)).or rows.head?

/-! ## Contexts -/

def resolveClassroomPolicyScopeForRecord (answers : Answers) (zone : Zone)
    (tables : PolicyTables) (classroom : ClassroomRow) (now : Int) : ClassroomPolicyScope :=
  let currentSchedule :=
    getCurrentSchedule answers.limitOne zone tables.schedules classroom.id now
  buildClassroomPolicyScope classroom (currentSchedule.map (·.groupId))

def resolveEffectiveClassroomPolicyContext (answers : Answers) (zone : Zone)
    (tables : PolicyTables) (classroomId : Text) (now : Int) : Option EffectivePolicyContext :=
  (getClassroomById tables classroomId).map fun classroom =>
    toEffectivePolicyContext
      (resolveClassroomPolicyScopeForRecord answers zone tables classroom now)

/-- The context of an exemption: its group, if it has one. -/
def exemptionContext (classroom : ClassroomRow) (groupId : Option Text) :
    EffectivePolicyContext where
  classroomId := classroom.id
  classroomName := classroom.name
  groupId := groupId.filter (· ≠ [])
  mode := if groupId.filter (· ≠ []) = none then .unrestricted else .grouped
  reason := .exemption

def resolveEffectiveMachineEnforcementPolicyContext (answers : Answers) (zone : Zone)
    (tables : PolicyTables) (hostname : Text) (now : Int) : Option EffectivePolicyContext := do
  let machine ← getMachineByHostname tables hostname
  let classroomId ← machine.classroomId.filter (· ≠ [])
  let classroom ← getClassroomById tables classroomId
  match getActiveMachineExemption answers tables machine.id classroomId now with
  | some active => some (exemptionContext classroom active.groupId)
  | none =>
      some (toEffectivePolicyContext
        (resolveClassroomPolicyScopeForRecord answers zone tables classroom now))

/-! ## What the queries answer -/

section Queries

variable {tables : PolicyTables} {machine : MachineRow}

theorem getMachineByHostname_eq (hmachine : machine ∈ tables.machines) :
    getMachineByHostname tables machine.hostname = some machine := by
  unfold getMachineByHostname
  rw [tables.hostname_slug machine hmachine]
  cases hfind : tables.machines.find? (·.hostname = machine.hostname) with
  | none =>
      have hnone := List.find?_eq_none.mp hfind machine hmachine
      simp at hnone
  | some found =>
      have hsame : found.hostname = machine.hostname := by simpa using List.find?_some hfind
      rw [List.inj_on_of_nodup_map tables.hostname_key (List.mem_of_find?_eq_some hfind)
        hmachine hsame]

theorem getClassroomById_eq {classroom : ClassroomRow}
    (hclassroom : classroom ∈ tables.classrooms) :
    getClassroomById tables classroom.id = some classroom := by
  unfold getClassroomById
  cases hfind : tables.classrooms.find? (·.id = classroom.id) with
  | none =>
      have hnone := List.find?_eq_none.mp hfind classroom hclassroom
      simp at hnone
  | some found =>
      have hsame : found.id = classroom.id := by simpa using List.find?_some hfind
      rw [List.inj_on_of_nodup_map tables.classroom_key (List.mem_of_find?_eq_some hfind)
        hclassroom hsame]

/-- A hostname is exempt if its machine has an exemption that has not expired. -/
theorem mem_exemptHostnames_iff (hmachine : machine ∈ tables.machines) (classroomId : Text)
    (now : Int) :
    machine.hostname ∈ getActiveExemptHostnamesByClassroom tables classroomId now ↔
      ∃ row ∈ activeExemptions tables classroomId now, row.machineId = machine.id := by
  unfold getActiveExemptHostnamesByClassroom
  simp only [List.mem_flatMap, List.mem_map, List.mem_filter, decide_eq_true_eq]
  refine ⟨?_, ?_⟩
  · rintro ⟨row, hrow, other, ⟨hother, hid⟩, hhost⟩
    have hsame := List.inj_on_of_nodup_map tables.hostname_key hother hmachine hhost
    exact ⟨row, hrow, by rw [← hid, hsame]⟩
  · rintro ⟨row, hrow, hid⟩
    exact ⟨row, hrow, machine, ⟨hmachine, hid.symm⟩, rfl⟩

variable (answers : Answers)

/-- Without a group among the exemptions of a machine, the one that is found has
none; otherwise it has one. -/
theorem getActiveMachineExemption_spec (machineId classroomId : Text) (now : Int) :
    match getActiveMachineExemption answers tables machineId classroomId now with
    | none => ∀ row ∈ activeExemptions tables classroomId now, row.machineId ≠ machineId
    | some active => active ∈ activeExemptions tables classroomId now ∧
        active.machineId = machineId ∧
        (active.groupId = none ↔ ∀ row ∈ activeExemptions tables classroomId now,
          row.machineId = machineId → row.groupId = none) := by
  unfold getActiveMachineExemption
  dsimp only
  generalize hrows : answers.exemptions.orderBy createdLater
    ((activeExemptions tables classroomId now).filter (·.machineId = machineId)) = rows
  have hmem : ∀ row, row ∈ rows ↔
      row ∈ activeExemptions tables classroomId now ∧ row.machineId = machineId := by
    intro row
    rw [← hrows, (answers.exemptions.orderBy_perm _ _).mem_iff, List.mem_filter,
      decide_eq_true_eq]
  cases hfind : rows.find? (·.groupId.isSome) with
  | some active =>
      have hactive := (hmem active).mp (List.mem_of_find?_eq_some hfind)
      have hgroup : active.groupId ≠ none := by
        have hsome := List.find?_some hfind
        exact Option.isSome_iff_ne_none.mp hsome
      refine ⟨hactive.1, hactive.2, fun h => absurd h hgroup, ?_⟩
      intro hnone
      exact hnone active hactive.1 hactive.2
  | none =>
      have hnone : ∀ row ∈ rows, row.groupId = none := by
        intro row hrow
        simpa using List.find?_eq_none.mp hfind row hrow
      cases rows with
      | nil =>
          intro row hrow hid
          exact absurd ((hmem row).mpr ⟨hrow, hid⟩) List.not_mem_nil
      | cons active rest =>
          have hactive := (hmem active).mp List.mem_cons_self
          refine ⟨hactive.1, hactive.2, fun _ row hrow hid => ?_, fun _ => ?_⟩
          · exact hnone row ((hmem row).mpr ⟨hrow, hid⟩)
          · exact hnone active List.mem_cons_self

end Queries

/-! ## Serialized groups -/

theorem resolveCurrentGroup_ne_nil (activeGroupId scheduleGroupId defaultGroupId : Option Text) :
    ∀ groupId ∈ (resolveCurrentGroup activeGroupId scheduleGroupId defaultGroupId).1,
      groupId ≠ [] := by
  have hfilter : ∀ (group : Option Text) (id : Text), group.filter (· ≠ []) = some id → id ≠ [] := by
    intro group id hid
    simpa using (Option.filter_eq_some_iff.mp hid).2
  intro groupId hgroup
  unfold resolveCurrentGroup at hgroup
  split at hgroup
  · rename_i hactive
    exact Option.some.inj hgroup ▸ hfilter _ _ hactive
  split at hgroup
  · rename_i hschedule
    exact Option.some.inj hgroup ▸ hfilter _ _ hschedule
  split at hgroup
  · rename_i hdefault
    exact Option.some.inj hgroup ▸ hfilter _ _ hdefault
  · cases hgroup

/-- A classroom's context always stands for a group. -/
theorem serialize_classroom (classroom : ClassroomRow) (scheduleGroupId : Option Text) :
    ∃ groupId, serializePolicyGroupId (toEffectivePolicyContext
        (buildClassroomPolicyScope classroom scheduleGroupId)) = some groupId ∧ groupId ≠ [] := by
  have hnonempty := resolveCurrentGroup_ne_nil classroom.activeGroupId scheduleGroupId
    classroom.defaultGroupId
  unfold serializePolicyGroupId toEffectivePolicyContext buildClassroomPolicyScope
  dsimp only
  cases hgroup : (resolveCurrentGroup classroom.activeGroupId scheduleGroupId
      classroom.defaultGroupId).1 with
  | none => exact ⟨unrestrictedGroupId, rfl, by decide⟩
  | some groupId => exact ⟨groupId, rfl, hnonempty groupId hgroup⟩

/-- An exemption stands for no restriction exactly when it has no group. -/
theorem serialize_exemption_iff {tables : PolicyTables} {exemption : ExemptionRow}
    (hexemption : exemption ∈ tables.exemptions) (classroom : ClassroomRow) :
    serializePolicyGroupId (exemptionContext classroom exemption.groupId) =
        some unrestrictedGroupId ↔ exemption.groupId = none := by
  cases hgroup : exemption.groupId with
  | none => simp [exemptionContext, serializePolicyGroupId]
  | some groupId =>
      have hlength := tables.exemption_group exemption hexemption groupId hgroup
      have hnonempty : groupId ≠ [] := by
        rintro rfl
        cases hlength
      have hnot : groupId ≠ unrestrictedGroupId := by
        rintro rfl
        revert hlength
        decide
      simp [exemptionContext, serializePolicyGroupId, hnonempty, hnot]

end OpenPath.Api.PolicyContext
