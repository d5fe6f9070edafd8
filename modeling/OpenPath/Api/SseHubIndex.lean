/-
# The indexes of the hub over whole runs

A change of a classroom is published in two parts: the hub takes the classroom's
set of clients, waits for the classroom's context, and then goes through the set.
Other calls happen in between, and they change the set while the index holds it.
Here runs interleave such publishes with all other calls, and any write may fail
and unregister its client.

In every state of a run the two indexes list the registered clients, each under
its own keys, once, and without empty sets.
-/

import OpenPath.Api.SseHub

namespace OpenPath.Api.SseHub

open Foundation

namespace Hub

/-- The timer writes to the clients that have been idle. -/
def keepAlive (idle writes : Text → Bool) (hub : Hub) : Hub :=
  (writeTo writes ((hub.clientsById.map (·.id)).filter idle) hub).2

end Hub

/-! ## Runs -/

/-- A classroom publish that waits for the classroom's context. It shares its set of
clients with the index; a set that the index has dropped is empty and stays so. -/
structure PendingPublish where
  classroomId : Text
  indexed : Bool

structure HubRun where
  hub : Hub
  pending : List PendingPublish

namespace HubRun

def start : HubRun where
  hub := emptyHub
  pending := []

/-- The hub after a call. The sets of pending publishes are those of the index until
their last client goes. -/
def proceed (pending : List PendingPublish) (hub : Hub) : HubRun where
  hub := hub
  pending := pending.map fun publish =>
    { publish with
      indexed := publish.indexed && !(hub.clientIdsByClassroomId.members publish.classroomId).isEmpty }

/-- The first part of `publishClassroomChangedLocal`. -/
def beginClassroomPublish (run : HubRun) (classroomId : Text) : HubRun :=
  if run.hub.clientIdsByClassroomId.members classroomId = [] then run
  else { run with pending := run.pending ++ [{ classroomId, indexed := true }] }

/-- The second part, once the context is there. -/
def resumeClassroomPublish (run : HubRun) (position : Nat) (unrestrictedGroupId : Text)
    (baseContext : Option (Option Text)) (exemptHostnames : List Text) (writes : Text → Bool) :
    HubRun :=
  match run.pending[position]? with
  | none => run
  | some publish =>
      let pending := run.pending.eraseIdx position
      if baseContext = none ∧ exemptHostnames = [] then { run with pending }
      else
        let ids :=
          if publish.indexed then run.hub.clientIdsByClassroomId.members publish.classroomId
          else []
        proceed pending
          (ids.foldl
            (Hub.reassign (Hub.nextGroupId unrestrictedGroupId (baseContext.bind id) exemptHostnames)
              writes)
            run.hub)

end HubRun

inductive HubCall
  | register (client : SseClient)
  | unregister (id : Text)
  | keepAlive (idle writes : Text → Bool)
  | publishGroupChangedLocal (groupId : Text) (writes : Text → Bool)
  | publishAll (writes : Text → Bool)
  | beginClassroomPublish (classroomId : Text)
  | resumeClassroomPublish (position : Nat) (unrestrictedGroupId : Text)
      (baseContext : Option (Option Text)) (exemptHostnames : List Text) (writes : Text → Bool)

def serve (run : HubRun) : HubCall → HubRun
  | .register client => .proceed run.pending (run.hub.registerSseClient client)
  | .unregister id => .proceed run.pending (run.hub.removeSseClient id)
  | .keepAlive idle writes => .proceed run.pending (run.hub.keepAlive idle writes)
  | .publishGroupChangedLocal groupId writes =>
      .proceed run.pending (run.hub.publishGroupChangedLocal groupId writes).2
  | .publishAll writes => .proceed run.pending (run.hub.publishBroadcastLocal writes)
  | .beginClassroomPublish classroomId => run.beginClassroomPublish classroomId
  | .resumeClassroomPublish position unrestrictedGroupId baseContext exemptHostnames writes =>
      run.resumeClassroomPublish position unrestrictedGroupId baseContext exemptHostnames writes

/-- `randomUUID` draws an identifier that no registered client has. -/
def DrawsNewId (run : HubRun) : HubCall → Prop
  | .register client => client.id ∉ run.hub.clientsById.map (·.id)
  | _ => True

def hubRuns : TransitionSystem HubRun HubCall := .ofFunction (· = .start) serve

/-! ## The invariant -/

/-- The indexes list the clients under their keys, once, and have no empty sets. -/
structure Indexed (hub : Hub) : Prop extends Consistent hub where
  groups : hub.clientIdsByGroupId.WellFormed
  classrooms : hub.clientIdsByClassroomId.WellFormed

section Indexed

variable {hub : Hub}

section

variable (hhub : Indexed hub)
include hhub

theorem Indexed.removeSseClient (id : Text) : Indexed (hub.removeSseClient id) := by
  have consistent := hhub.toConsistent.removeSseClient id
  unfold Hub.removeSseClient at consistent ⊢
  cases hfind : hub.client? id with
  | none => exact hhub
  | some client =>
      rw [hfind] at consistent
      exact ⟨consistent, hhub.groups.remove _ _, hhub.classrooms.remove _ _⟩

theorem Indexed.registerSseClient {client : SseClient}
    (hfresh : client.id ∉ hub.clientsById.map (·.id)) : Indexed (hub.registerSseClient client) where
  toConsistent := hhub.toConsistent.registerSseClient hfresh
  groups := hhub.groups.add _ _
  classrooms := hhub.classrooms.add _ _

theorem Indexed.setGroup {client : SseClient} (hclient : client ∈ hub.clientsById)
    (groupId : Text) :
    Indexed (hub.setGroup client groupId) where
  toConsistent := hhub.toConsistent.setGroup hclient groupId
  groups := (hhub.groups.remove _ _).add _ _
  classrooms := hhub.classrooms

theorem Indexed.tryWrite (writes : Text → Bool) (id : Text) : Indexed (hub.tryWrite writes id) := by
  unfold Hub.tryWrite
  split
  · exact hhub
  · exact hhub.removeSseClient id

theorem Indexed.reassign (nextGroupId : Text → Option Text) (writes : Text → Bool) (id : Text) :
    Indexed (hub.reassign nextGroupId writes id) := by
  unfold Hub.reassign
  cases hfind : hub.client? id with
  | none => exact hhub
  | some client =>
      dsimp only
      split
      · exact hhub
      split
      · exact hhub
      · exact (hhub.setGroup (mem_of_client? hfind).1 _).tryWrite writes id

end

theorem Indexed.foldl {step : Hub → Text → Hub}
    (hstep : ∀ hub id, Indexed hub → Indexed (step hub id)) (hhub : Indexed hub)
    (ids : List Text) : Indexed (ids.foldl step hub) := by
  induction ids generalizing hub with
  | nil => exact hhub
  | cons id ids ih => exact ih (hstep hub id hhub)

theorem Indexed.writeTo (hhub : Indexed hub) (writes : Text → Bool) (ids : List Text) :
    Indexed (Hub.writeTo writes ids hub).2 :=
  writeTo_snd writes ids hub ▸ hhub.foldl (fun _ id h => h.tryWrite writes id) ids

end Indexed

theorem indexed_serve {run : HubRun} (hrun : Indexed run.hub) {call : HubCall}
    (hfresh : DrawsNewId run call) : Indexed (serve run call).hub := by
  cases call with
  | register client => exact hrun.registerSseClient hfresh
  | unregister id => exact hrun.removeSseClient id
  | keepAlive idle writes => exact hrun.writeTo writes _
  | publishGroupChangedLocal groupId writes => exact hrun.writeTo writes _
  | publishAll writes => exact hrun.foldl (fun _ id h => h.tryWrite writes id) _
  | beginClassroomPublish classroomId =>
      show Indexed (run.beginClassroomPublish classroomId).hub
      unfold HubRun.beginClassroomPublish
      split
      · exact hrun
      · exact hrun
  | resumeClassroomPublish position unrestrictedGroupId baseContext exemptHostnames writes =>
      show Indexed (run.resumeClassroomPublish _ _ _ _ _).hub
      unfold HubRun.resumeClassroomPublish
      split
      · exact hrun
      dsimp only
      split
      · exact hrun
      · exact hrun.foldl (fun _ id h => h.reassign _ writes id) _

theorem indexed_of_reachable {run : HubRun} (hreach : hubRuns.ReachableBy DrawsNewId run) :
    Indexed run.hub := by
  induction hreach with
  | start hstart =>
      obtain rfl := hstart
      refine ⟨⟨List.nodup_nil, ?_, ?_⟩, KeyedSets.wellFormed_empty, KeyedSets.wellFormed_empty⟩
      · simp [HubRun.start, emptyHub]
      · simp [HubRun.start, emptyHub]
  | step _ hfresh hmove ih =>
      obtain rfl := hmove
      exact indexed_serve ih hfresh

/-! ## Whom a publish reaches -/

theorem client?_removeSseClient_of_ne (hub : Hub) {id other : Text} (hne : other ≠ id) :
    (hub.removeSseClient id).client? other = hub.client? other := by
  unfold Hub.removeSseClient
  split
  · rfl
  · unfold Hub.client?
    rw [List.find?_filter]
    congr 1
    ext client
    grind

theorem client?_tryWrite_of_ne (hub : Hub) (writes : Text → Bool) {id other : Text}
    (hne : other ≠ id) : (hub.tryWrite writes id).client? other = hub.client? other := by
  unfold Hub.tryWrite
  split
  · rfl
  · exact client?_removeSseClient_of_ne hub hne

/-- Every registered client of a list without repetitions is written to: a write
that fails unregisters no later one. -/
theorem writeTo_eq {writes : Text → Bool} {ids : List Text} (hids : ids.Nodup) {hub : Hub}
    (hall : ∀ id ∈ ids, (hub.client? id).isSome) : (Hub.writeTo writes ids hub).1 = ids := by
  induction ids generalizing hub with
  | nil => rfl
  | cons id ids ih =>
      obtain ⟨hfresh, hrest⟩ := List.nodup_cons.mp hids
      obtain ⟨client, hclient⟩ := Option.isSome_iff_exists.mp (hall id List.mem_cons_self)
      have hid : client.id = id := (mem_of_client? hclient).2
      have hlater : ∀ other ∈ ids, ((hub.tryWrite writes id).client? other).isSome := by
        intro other hother
        have hne : other ≠ id := fun h => hfresh (h ▸ hother)
        rw [client?_tryWrite_of_ne hub writes hne]
        exact hall other (List.mem_cons_of_mem id hother)
      rw [Hub.writeTo, hclient]
      dsimp only
      rw [hid, ih hrest hlater]

theorem client?_isSome_iff {hub : Hub} {id : Text} :
    (hub.client? id).isSome ↔ ∃ client ∈ hub.clientsById, client.id = id := by
  simp [Hub.client?, List.find?_isSome]

theorem Indexed.publishGroupChangedLocal {hub : Hub} (hhub : Indexed hub) (groupId : Text)
    (writes : Text → Bool) :
    (hub.publishGroupChangedLocal groupId writes).1 = hub.clientIdsByGroupId.members groupId := by
  apply writeTo_eq (hhub.groups.nodup groupId)
  intro id hid
  obtain ⟨client, hclient, hsame, -⟩ := (hhub.byGroup groupId id).mp hid
  exact client?_isSome_iff.mpr ⟨client, hclient, hsame⟩

/-- In every state of a run, each client is listed under its group and its
classroom and nowhere else, each index has no empty set and no repetition, and a
change of a group is written once to each client of the group and to no other. -/
theorem indexes_follow_clients {run : HubRun} (hreach : hubRuns.ReachableBy DrawsNewId run) :
    Indexed run.hub ∧
      ∀ groupId writes,
        (run.hub.publishGroupChangedLocal groupId writes).1.Nodup ∧
          ∀ id, id ∈ (run.hub.publishGroupChangedLocal groupId writes).1 ↔
            ∃ client ∈ run.hub.clientsById, client.id = id ∧ client.groupId = groupId := by
  have hindexed := indexed_of_reachable hreach
  refine ⟨hindexed, fun groupId writes => ?_⟩
  rw [hindexed.publishGroupChangedLocal groupId writes]
  exact ⟨hindexed.groups.nodup groupId, hindexed.byGroup groupId⟩

def machine (id : String) : SseClient where
  id := id.toList
  hostname := id.toList
  classroomId := "room".toList
  groupId := "math".toList

/-- Two machines of a classroom that moves to another group; the write to the
second one fails. -/
def lessonCalls : List HubCall :=
  [.register (machine "pc1"), .register (machine "pc2"), .beginClassroomPublish "room".toList,
   .resumeClassroomPublish 0 "__unrestricted__".toList (some (some "art".toList)) []
    (· = "pc1".toList)]

/-- In the lesson the first machine is moved and the second one is dropped. -/
theorem lesson_indexes :
    ((lessonCalls.foldl serve .start).hub.clientsById.map fun client =>
        (client.id, client.groupId)) = [("pc1".toList, "art".toList)] ∧
      Indexed (lessonCalls.foldl serve .start).hub ∧
      ∀ groupId writes,
        ((lessonCalls.foldl serve .start).hub.publishGroupChangedLocal groupId writes).1.Nodup ∧
          ∀ id, id ∈ ((lessonCalls.foldl serve .start).hub.publishGroupChangedLocal groupId
              writes).1 ↔
            ∃ client ∈ (lessonCalls.foldl serve .start).hub.clientsById,
              client.id = id ∧ client.groupId = groupId := by
  refine ⟨by decide, indexes_follow_clients ?_⟩
  have serves : ∀ {run : HubRun} (call : HubCall), hubRuns.ReachableBy DrawsNewId run →
      DrawsNewId run call → hubRuns.ReachableBy DrawsNewId (serve run call) :=
    fun _ prior fresh => .step prior fresh rfl
  have first := serves (.register (machine "pc1")) (.start rfl) List.not_mem_nil
  have second := serves (.register (machine "pc2")) first
    (by show "pc2".toList ∉ ["pc1".toList]; decide)
  have third := serves (.beginClassroomPublish "room".toList) second trivial
  exact serves lessonCalls[3] third trivial

end OpenPath.Api.SseHub
