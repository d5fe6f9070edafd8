/-
# Routing of events

A machine learns of a change of its whitelist through the hub, under the group
that the hub has its client indexed under, and downloads the whitelist of the
group that enforcement finds for it. After a change of a classroom the hub takes
every exempt machine for unrestricted, while enforcement puts it under the group
of its exemption, if that has one.
-/

import OpenPath.Api.PolicyContext
import OpenPath.Api.SseHub

namespace OpenPath.Api.EventRouting

open Foundation Schedules ScheduleBoundary PolicyContext SseHub

/-- The hub after `publishClassroomChangedLocal`, with what its resolvers answer. -/
def publishClassroomChanged (answers : Answers) (zone : Zone) (tables : PolicyTables) (hub : Hub)
    (classroomId : Text) (now : Int) (writes : Text → Bool) : Hub :=
  hub.publishClassroomChangedLocal unrestrictedGroupId classroomId
    ((resolveEffectiveClassroomPolicyContext answers zone tables classroomId now).map
      serializePolicyGroupId)
    (getActiveExemptHostnamesByClassroom tables classroomId now) writes

/-- The client is indexed under the group that enforcement finds for its
machine, and under no other. A change of a group is written to the clients that
are indexed under it. -/
def RoutedAsEnforced (answers : Answers) (zone : Zone) (tables : PolicyTables) (now : Int)
    (hub : Hub) (client : SseClient) : Prop :=
  ∃ context,
    resolveEffectiveMachineEnforcementPolicyContext answers zone tables client.hostname now =
      some context ∧
    ∀ groupId, client.id ∈ hub.clientIdsByGroupId.members groupId ↔
      serializePolicyGroupId context = some groupId

/-- No exemption that the machine has in the classroom at the time names a group. -/
def NoGroupExemption (tables : PolicyTables) (classroomId machineId : Text) (now : Int) : Prop :=
  ∀ exemption ∈ activeExemptions tables classroomId now,
    exemption.machineId = machineId → exemption.groupId = none

variable {client : SseClient}

/-- A connected client is indexed under its group and no other. -/
theorem mem_members_iff {hub : Hub} (hhub : Consistent hub) (hclient : client ∈ hub.clientsById)
    (groupId : Text) :
    client.id ∈ hub.clientIdsByGroupId.members groupId ↔ client.groupId = groupId := by
  rw [hhub.byGroup]
  constructor
  · rintro ⟨other, hother, hid, hgroup⟩
    rwa [hhub.eq_of_id hother hclient hid] at hgroup
  · intro hgroup
    exact ⟨client, hclient, rfl, hgroup⟩

theorem routedAsEnforced_iff_of_context {answers : Answers} {zone : Zone} {tables : PolicyTables}
    {now : Int} {hub : Hub} (hhub : Consistent hub) (hclient : client ∈ hub.clientsById)
    {context : EffectivePolicyContext}
    (hcontext : resolveEffectiveMachineEnforcementPolicyContext answers zone tables
      client.hostname now = some context) :
    RoutedAsEnforced answers zone tables now hub client ↔
      serializePolicyGroupId context = some client.groupId := by
  constructor
  · rintro ⟨found, hfound, hgroup⟩
    obtain rfl := Option.some.inj (hcontext.symm.trans hfound)
    exact (hgroup client.groupId).mp ((mem_members_iff hhub hclient _).mpr rfl)
  · intro hserialize
    refine ⟨context, hcontext, ?_⟩
    intro groupId
    rw [mem_members_iff hhub hclient, hserialize, Option.some_inj]

section Enforcement

variable (answers : Answers) (zone : Zone) {tables : PolicyTables} {machine : MachineRow}
  {classroom : ClassroomRow} (now : Int)

theorem enforcement_eq (hmachine : machine ∈ tables.machines)
    (hclassroom : classroom ∈ tables.classrooms) (hin : machine.classroomId = some classroom.id) :
    resolveEffectiveMachineEnforcementPolicyContext answers zone tables machine.hostname now =
      some (match getActiveMachineExemption answers tables machine.id classroom.id now with
        | some active => exemptionContext classroom active.groupId
        | none => toEffectivePolicyContext
            (resolveClassroomPolicyScopeForRecord answers zone tables classroom now)) := by
  have hid : (some classroom.id).filter (· ≠ []) = some classroom.id := by
    simp [Option.filter, tables.classroomId_ne_nil hclassroom]
  unfold resolveEffectiveMachineEnforcementPolicyContext
  rw [getMachineByHostname_eq hmachine]
  show (machine.classroomId.filter (· ≠ []) >>= _) = _
  rw [hin, hid]
  show (getClassroomById tables classroom.id >>= _) = _
  rw [getClassroomById_eq hclassroom]
  show (match getActiveMachineExemption answers tables machine.id classroom.id now with
    | some active => _
    | none => _) = _
  cases getActiveMachineExemption answers tables machine.id classroom.id now <;> rfl

end Enforcement

/-- After a change of a classroom, a connected client of it is routed as its
machine is enforced exactly if no exemption of the machine that has not expired
names a group. -/
theorem routedAsEnforced_iff {hub : Hub} (hreach : hubs.ReachableBy FreshId hub)
    (answers : Answers) (zone : Zone) (tables : PolicyTables) (now : Int) (writes : Text → Bool)
    {client : SseClient} {machine : MachineRow} (hmachine : machine ∈ tables.machines)
    (hhost : machine.hostname = client.hostname)
    (hin : machine.classroomId = some client.classroomId)
    (hclient : client ∈ (publishClassroomChanged answers zone tables hub client.classroomId now
      writes).clientsById) :
    RoutedAsEnforced answers zone tables now
        (publishClassroomChanged answers zone tables hub client.classroomId now writes) client ↔
      NoGroupExemption tables client.classroomId machine.id now := by
  have hhub := consistent_of_reachable hreach
  have hafter : Consistent (publishClassroomChanged answers zone tables hub client.classroomId
      now writes) := by
    have hfresh : FreshId hub (.publishClassroom unrestrictedGroupId client.classroomId
      ((resolveEffectiveClassroomPolicyContext answers zone tables client.classroomId now).map
        serializePolicyGroupId)
      (getActiveExemptHostnamesByClassroom tables client.classroomId now) writes) := trivial
    exact hhub.handle hfresh
  obtain ⟨classroom, hclassroom, hid⟩ :=
    tables.machine_classroom machine hmachine client.classroomId hin
  have hcontext := enforcement_eq answers zone now hmachine hclassroom
    (hin.trans (congrArg some hid.symm))
  rw [hhost] at hcontext
  rw [routedAsEnforced_iff_of_context hafter hclient hcontext, NoGroupExemption, ← hid]
  have hspec := @getActiveMachineExemption_spec tables answers machine.id classroom.id now
  cases hactive : getActiveMachineExemption answers tables machine.id classroom.id now with
  | none =>
      -- Not exempt: both go by the classroom's context.
      rw [hactive] at hspec
      obtain ⟨groupId, hgroup, hnonempty⟩ := serialize_classroom classroom
        ((getCurrentSchedule answers.limitOne zone tables.schedules classroom.id now).map
          (·.groupId))
      have hnot : client.hostname ∉
          getActiveExemptHostnamesByClassroom tables client.classroomId now := by
        rw [← hhost, mem_exemptHostnames_iff hmachine, ← hid]
        rintro ⟨row, hrow, hmachineId⟩
        exact hspec row hrow hmachineId
      have hbase : resolveEffectiveClassroomPolicyContext answers zone tables client.classroomId
          now = some (toEffectivePolicyContext
            (resolveClassroomPolicyScopeForRecord answers zone tables classroom now)) := by
        rw [resolveEffectiveClassroomPolicyContext, ← hid, getClassroomById_eq hclassroom]
        rfl
      have hsame : client.groupId = groupId := by
        apply groupId_publishClassroomChangedLocal hhub hclient rfl ?_ hnonempty
        rw [hbase, Hub.nextGroupId, if_neg (by simpa using hnot)]
        exact hgroup
      rw [hsame]
      exact iff_of_true hgroup fun row hrow hmachineId => absurd hmachineId (hspec row hrow)
  | some active =>
      -- Exempt: the hub has the client unrestricted.
      rw [hactive] at hspec
      obtain ⟨hrow, hmachineId, hgroups⟩ := hspec
      have hexempt : client.hostname ∈
          getActiveExemptHostnamesByClassroom tables client.classroomId now := by
        rw [← hhost, mem_exemptHostnames_iff hmachine, ← hid]
        exact ⟨active, hrow, hmachineId⟩
      have hsame : client.groupId = unrestrictedGroupId := by
        apply groupId_publishClassroomChangedLocal hhub hclient rfl ?_ (by decide)
        rw [Hub.nextGroupId, if_pos (by simpa using hexempt)]
      rw [hsame]
      dsimp only
      rw [serialize_exemption_iff (List.mem_filter.mp hrow).1]
      exact hgroups

/-! ## A machine put under another group -/

def mathGroupId : Text := "10000000-0000-4000-8000-000000000001".toList

def examGroupId : Text := "10000000-0000-4000-8000-000000000002".toList

def room : ClassroomRow where
  id := "room_a".toList
  name := "a".toList
  displayName := "A".toList
  defaultGroupId := some mathGroupId
  activeGroupId := none

def desk : MachineRow where
  id := "machine_1".toList
  hostname := "desk".toList
  classroomId := some room.id

/-- Until the thousandth millisecond. -/
def deskExemption (groupId : Option Text) : ExemptionRow where
  id := "exemption".toList
  machineId := desk.id
  classroomId := room.id
  source := .operational
  groupId := groupId
  createdAt := some 0
  expiresAt := 1000

/-- The room of the desk, which is exempt. -/
def exemptRoom (groupId : Option Text) (hgroup : ∀ id ∈ groupId, id.length = 36) :
    PolicyTables where
  classrooms := [room]
  machines := [desk]
  exemptions := [deskExemption groupId]
  schedules := []
  room_id := by
    intro classroom hclassroom
    rw [List.mem_singleton.mp hclassroom]
    decide
  classroom_key := List.nodup_singleton _
  machine_key := List.nodup_singleton _
  hostname_key := List.nodup_singleton _
  hostname_slug := by
    intro machine hmachine
    rw [List.mem_singleton.mp hmachine]
    decide
  machine_classroom := by
    intro machine hmachine classroomId hclassroom
    rw [List.mem_singleton.mp hmachine] at hclassroom
    exact ⟨room, List.mem_singleton_self _, Option.some.inj hclassroom⟩
  schedule_classroom := by
    intro schedule hschedule
    cases hschedule
  exemption_machine := by
    intro exemption hexemption
    rw [List.mem_singleton.mp hexemption]
    exact ⟨desk, List.mem_singleton_self _, rfl⟩
  exemption_group := by
    intro exemption hexemption
    rw [List.mem_singleton.mp hexemption]
    exact hgroup

def freeRoom : PolicyTables := exemptRoom none (by simp)

def examRoom : PolicyTables := exemptRoom (some examGroupId) (by rintro id ⟨⟩; decide)

/-- Rows in the order of the table. -/
def tableAnswers : Answers where
  limitOne := List.head?
  exemptions :=
    { arrange := id
      perm := List.Perm.refl
      keyLe := codePointLe }

def deskClient : SseClient where
  id := "client".toList
  hostname := desk.hostname
  classroomId := room.id
  groupId := mathGroupId

/-- The desk has connected. -/
def connectedHub : Hub := emptyHub.registerSseClient deskClient

theorem reachable_connectedHub : hubs.ReachableBy FreshId connectedHub := by
  have hstart : hubs.ReachableBy FreshId emptyHub := .start rfl
  have hfresh : FreshId emptyHub (.register deskClient) := List.not_mem_nil
  exact hstart.step hfresh rfl

/-- The client after the room has been handled. -/
def movedClient : SseClient := { deskClient with groupId := unrestrictedGroupId }

theorem routedAsEnforced_exempt :
    RoutedAsEnforced tableAnswers (fun _ => 0) freeRoom 0
      (publishClassroomChanged tableAnswers (fun _ => 0) freeRoom connectedHub room.id 0
        fun _ => true) movedClient := by
  have hmoved : movedClient ∈ (publishClassroomChanged tableAnswers (fun _ => 0) freeRoom
      connectedHub movedClient.classroomId 0 fun _ => true).clientsById := by
    decide
  apply (routedAsEnforced_iff reachable_connectedHub tableAnswers (fun _ => 0) freeRoom 0
    (fun _ => true) (List.mem_singleton_self desk) rfl rfl hmoved).mpr
  intro exemption hexemption _
  rw [List.mem_singleton.mp (List.mem_filter.mp hexemption).1]
  rfl

/-- The desk takes an exam under another group, and the hub has it unrestricted:
a change of the exam's whitelist does not reach it. -/
theorem not_routed_exam :
    ∃ tables, ∃ client ∈ (publishClassroomChanged tableAnswers (fun _ => 0) tables connectedHub
        room.id 0 fun _ => true).clientsById,
      hubs.ReachableBy FreshId connectedHub ∧ client.classroomId = room.id ∧
      desk ∈ tables.machines ∧ desk.hostname = client.hostname ∧ desk.classroomId = some room.id ∧
      ¬ RoutedAsEnforced tableAnswers (fun _ => 0) tables 0
        (publishClassroomChanged tableAnswers (fun _ => 0) tables connectedHub room.id 0
          fun _ => true) client := by
  refine ⟨examRoom, movedClient, by decide, reachable_connectedHub, rfl,
    List.mem_singleton_self desk, rfl, rfl, ?_⟩
  rintro ⟨context, hcontext, hgroups⟩
  have hserialize : (resolveEffectiveMachineEnforcementPolicyContext tableAnswers (fun _ => 0)
      examRoom movedClient.hostname 0).bind serializePolicyGroupId = some examGroupId := by
    decide
  rw [hcontext] at hserialize
  have hrouted := (hgroups examGroupId).mpr hserialize
  revert hrouted
  decide

end OpenPath.Api.EventRouting
