/-
# Classrooms and their machines

The tables that decide which policy a machine gets: classrooms, their machines,
the schedules of the classrooms and the exemptions of machines. The keys of the
schema, and the form of the identifiers that the server draws, are fields of the
structure of the tables, so that tables that the database could not hold cannot
be built.
-/

import OpenPath.Api.Schedules

namespace OpenPath.Api

open Schedules

/-- A row of `classrooms`. -/
structure ClassroomRow where
  id : Text
  name : Text
  displayName : Text
  defaultGroupId : Option Text
  activeGroupId : Option Text
  deriving DecidableEq

/-- A row of `machines`. -/
structure MachineRow where
  id : Text
  hostname : Text
  classroomId : Option Text
  deriving DecidableEq

inductive MachineExemptionSource
  | schedule
  | operational
  deriving DecidableEq, Repr

/-- A row of `machine_exemptions`. -/
structure ExemptionRow where
  id : Text
  machineId : Text
  classroomId : Text
  source : MachineExemptionSource
  groupId : Option Text
  createdAt : Option Int
  expiresAt : Int
  deriving DecidableEq

/-- The tables, with the keys of the schema and the forms of what the server
draws: the identifier of a classroom is `room_` and eight characters of a UUID,
that of a group a whole UUID, and the hostname of a machine a lower-case slug. -/
structure PolicyTables where
  classrooms : List ClassroomRow
  machines : List MachineRow
  exemptions : List ExemptionRow
  schedules : List ScheduleRow
  room_id : ∀ classroom ∈ classrooms, "room_".toList <+: classroom.id
  classroom_key : (classrooms.map (·.id)).Nodup
  machine_key : (machines.map (·.id)).Nodup
  hostname_key : (machines.map (·.hostname)).Nodup
  hostname_slug : ∀ machine ∈ machines,
    JavaScript.trim (JavaScript.toLowerCase machine.hostname) = machine.hostname
  machine_classroom : ∀ machine ∈ machines, ∀ classroomId ∈ machine.classroomId,
    ∃ classroom ∈ classrooms, classroom.id = classroomId
  schedule_classroom : ∀ schedule ∈ schedules,
    ∃ classroom ∈ classrooms, classroom.id = schedule.classroomId
  exemption_machine : ∀ exemption ∈ exemptions,
    ∃ machine ∈ machines, machine.id = exemption.machineId
  exemption_group : ∀ exemption ∈ exemptions, ∀ groupId ∈ exemption.groupId,
    groupId.length = 36

namespace PolicyTables

theorem classroomId_ne_nil (tables : PolicyTables) {classroom : ClassroomRow}
    (hclassroom : classroom ∈ tables.classrooms) : classroom.id ≠ [] := by
  intro hnil
  have hroom := tables.room_id classroom hclassroom
  rw [hnil] at hroom
  exact absurd (List.prefix_nil.mp hroom) (by decide)

theorem schedule_classroomId_ne_nil (tables : PolicyTables) {schedule : ScheduleRow}
    (hschedule : schedule ∈ tables.schedules) : schedule.classroomId ≠ [] := by
  obtain ⟨classroom, hclassroom, hid⟩ := tables.schedule_classroom schedule hschedule
  exact hid ▸ tables.classroomId_ne_nil hclassroom

end PolicyTables

end OpenPath.Api
