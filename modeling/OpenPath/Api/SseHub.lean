/-
# Hub of server-sent events

Machines hold a connection open over which they are told that their whitelist
has changed. The hub keeps the connected clients with an index by policy group
and one by classroom, and moves the clients of a classroom to other groups when
the classroom's context changes. A client whose stream fails is dropped.

The two indexes list exactly the connected clients, in every state that the
hub's operations can reach.
-/

import OpenPath.Foundation.KeyedSets
import OpenPath.Foundation.Transition
import OpenPath.Text.Unicode

namespace OpenPath.Api.SseHub

open Foundation

structure SseClient where
  id : Text
  hostname : Text
  classroomId : Text
  groupId : Text
  deriving DecidableEq

structure Hub where
  clientsById : List SseClient
  clientIdsByGroupId : KeyedSets Text Text
  clientIdsByClassroomId : KeyedSets Text Text

def emptyHub : Hub where
  clientsById := []
  clientIdsByGroupId := .empty
  clientIdsByClassroomId := .empty

namespace Hub

def client? (hub : Hub) (id : Text) : Option SseClient := hub.clientsById.find? (·.id = id)

/-- Unsubscribing, and what a failed write leads to. -/
def removeSseClient (hub : Hub) (id : Text) : Hub :=
  match hub.client? id with
  | none => hub
  | some client =>
      { clientsById := hub.clientsById.filter (·.id ≠ id)
        clientIdsByGroupId := hub.clientIdsByGroupId.remove client.groupId id
        clientIdsByClassroomId := hub.clientIdsByClassroomId.remove client.classroomId id }

def registerSseClient (hub : Hub) (client : SseClient) : Hub where
  clientsById := hub.clientsById ++ [client]
  clientIdsByGroupId := hub.clientIdsByGroupId.add client.groupId client.id
  clientIdsByClassroomId := hub.clientIdsByClassroomId.add client.classroomId client.id

/-- `writes` tells the clients whose stream takes what is written. -/
def tryWrite (writes : Text → Bool) (hub : Hub) (id : Text) : Hub :=
  if writes id then hub else hub.removeSseClient id

/-- Writes to the clients of a list that are registered when their turn comes, and
tells which were written to. -/
def writeTo (writes : Text → Bool) : List Text → Hub → List Text × Hub
  | [], hub => ([], hub)
  | id :: ids, hub =>
      match hub.client? id with
      | none => writeTo writes ids hub
      | some client =>
          let rest := writeTo writes ids (hub.tryWrite writes client.id)
          (client.id :: rest.1, rest.2)

/-- The clients a change of the group is written to, and the hub after it. -/
def publishGroupChangedLocal (hub : Hub) (groupId : Text) (writes : Text → Bool) :
    List Text × Hub :=
  writeTo writes (hub.clientIdsByGroupId.members groupId) hub

/-- Every client is written to. -/
def publishBroadcastLocal (hub : Hub) (writes : Text → Bool) : Hub :=
  (hub.clientsById.map (·.id)).foldl (tryWrite writes) hub

/-- Index a client under another group. -/
def setGroup (hub : Hub) (client : SseClient) (groupId : Text) : Hub where
  clientsById := hub.clientsById.map fun other =>
    if other.id = client.id then { other with groupId := groupId } else other
  clientIdsByGroupId :=
    (hub.clientIdsByGroupId.remove client.groupId client.id).add groupId client.id
  clientIdsByClassroomId := hub.clientIdsByClassroomId

/-- Move a client to the group that a change of its classroom gives it, if it
gives one. -/
def reassign (nextGroupId : Text → Option Text) (writes : Text → Bool) (hub : Hub) (id : Text) :
    Hub :=
  match hub.client? id with
  | none => hub
  | some client =>
      match nextGroupId client.hostname with
      | none => hub
      | some groupId =>
          if groupId = [] ∨ client.groupId = groupId then hub
          else tryWrite writes (hub.setGroup client groupId) id

/-- The group of a client's hostname after a change of its classroom: exempt
machines are unrestricted. -/
def nextGroupId (unrestrictedGroupId : Text) (baseGroupId : Option Text)
    (exemptHostnames : List Text) (hostname : Text) : Option Text :=
  if exemptHostnames.contains hostname then some unrestrictedGroupId else baseGroupId

/-- `baseContext` is the classroom's context, as a serialized group, if the
classroom is there. -/
def publishClassroomChangedLocal (unrestrictedGroupId : Text) (hub : Hub) (classroomId : Text)
    (baseContext : Option (Option Text)) (exemptHostnames : List Text) (writes : Text → Bool) :
    Hub :=
  let ids := hub.clientIdsByClassroomId.members classroomId
  if ids = [] then hub
  else if baseContext = none ∧ exemptHostnames = [] then hub
  else
    ids.foldl
      (reassign (nextGroupId unrestrictedGroupId (baseContext.bind id) exemptHostnames) writes)
      hub

end Hub

/-- What can happen to a hub. A keep-alive that fails is a removal. -/
inductive HubEvent
  | register (client : SseClient)
  | remove (id : Text)
  | publishGroup (groupId : Text) (writes : Text → Bool)
  | publishBroadcast (writes : Text → Bool)
  | publishClassroom (unrestrictedGroupId classroomId : Text)
      (baseContext : Option (Option Text)) (exemptHostnames : List Text) (writes : Text → Bool)

def handle (hub : Hub) : HubEvent → Hub
  | .register client => hub.registerSseClient client
  | .remove id => hub.removeSseClient id
  | .publishGroup groupId writes => (hub.publishGroupChangedLocal groupId writes).2
  | .publishBroadcast writes => hub.publishBroadcastLocal writes
  | .publishClassroom unrestrictedGroupId classroomId baseContext exemptHostnames writes =>
      hub.publishClassroomChangedLocal unrestrictedGroupId classroomId baseContext
        exemptHostnames writes

/-- The identifier that a registration draws is new. -/
def FreshId (hub : Hub) : HubEvent → Prop
  | .register client => client.id ∉ hub.clientsById.map (·.id)
  | _ => True

def hubs : TransitionSystem Hub HubEvent := .ofFunction (· = emptyHub) handle

/-! ## The indexes list the clients -/

structure Consistent (hub : Hub) : Prop where
  distinct : (hub.clientsById.map (·.id)).Nodup
  byGroup : ∀ groupId id, id ∈ hub.clientIdsByGroupId.members groupId ↔
    ∃ client ∈ hub.clientsById, client.id = id ∧ client.groupId = groupId
  byClassroom : ∀ classroomId id, id ∈ hub.clientIdsByClassroomId.members classroomId ↔
    ∃ client ∈ hub.clientsById, client.id = id ∧ client.classroomId = classroomId

section Consistent

variable {hub : Hub}

theorem Consistent.eq_of_id (hhub : Consistent hub) {first second : SseClient}
    (hfirst : first ∈ hub.clientsById) (hsecond : second ∈ hub.clientsById)
    (hid : first.id = second.id) : first = second :=
  List.inj_on_of_nodup_map hhub.distinct hfirst hsecond hid

variable {client : SseClient}

theorem mem_of_client? {id : Text} (hclient : hub.client? id = some client) :
    client ∈ hub.clientsById ∧ client.id = id :=
  ⟨List.mem_of_find?_eq_some hclient, by simpa using List.find?_some hclient⟩

section

variable (hhub : Consistent hub)
include hhub

/-- An index entry other than those of the removed client stays. -/
theorem Consistent.removed (hclient : client ∈ hub.clientsById) (field : SseClient → Text)
    (key id : Text) :
    ((∃ other ∈ hub.clientsById, other.id = id ∧ field other = key) ∧
        ¬ (key = field client ∧ id = client.id)) ↔
      ∃ other ∈ hub.clientsById.filter (·.id ≠ client.id), other.id = id ∧ field other = key := by
  simp only [List.mem_filter, decide_eq_true_eq]
  refine ⟨?_, ?_⟩
  · rintro ⟨⟨other, hother, hid, hfield⟩, hnot⟩
    refine ⟨other, ⟨hother, ?_⟩, hid, hfield⟩
    intro hsame
    rw [hhub.eq_of_id hother hclient hsame] at hid hfield
    exact hnot ⟨hfield.symm, hid.symm⟩
  · rintro ⟨other, ⟨hother, hne⟩, hid, hfield⟩
    exact ⟨⟨other, hother, hid, hfield⟩, fun h => hne (hid.trans h.2)⟩

theorem Consistent.removeSseClient (id : Text) : Consistent (hub.removeSseClient id) := by
  unfold Hub.removeSseClient
  cases hfind : hub.client? id with
  | none => exact hhub
  | some client =>
      obtain ⟨hclient, rfl⟩ := mem_of_client? hfind
      refine ⟨hhub.distinct.sublist (List.filter_sublist.map _), ?_, ?_⟩
      · intro groupId other
        rw [KeyedSets.mem_members_remove, hhub.byGroup]
        exact hhub.removed hclient (·.groupId) groupId other
      · intro classroomId other
        rw [KeyedSets.mem_members_remove, hhub.byClassroom]
        exact hhub.removed hclient (·.classroomId) classroomId other

theorem Consistent.registerSseClient (hfresh : client.id ∉ hub.clientsById.map (·.id)) :
    Consistent (hub.registerSseClient client) := by
  have hadded : ∀ (field : SseClient → Text) (key id : Text),
      ((∃ other ∈ hub.clientsById, other.id = id ∧ field other = key) ∨
          (key = field client ∧ id = client.id)) ↔
        ∃ other ∈ hub.clientsById ++ [client], other.id = id ∧ field other = key := by
    intro field key id
    simp only [List.mem_append, List.mem_singleton, or_and_right, exists_or, exists_eq_left]
    rw [and_comm (a := key = field client), eq_comm (a := id), eq_comm (a := key)]
  refine ⟨?_, ?_, ?_⟩
  · show ((hub.clientsById ++ [client]).map (·.id)).Nodup
    rw [List.map_append, List.map_singleton]
    exact List.Nodup.append hhub.distinct (List.nodup_singleton _)
      (List.disjoint_singleton.mpr hfresh)
  · intro groupId id
    show id ∈ (hub.clientIdsByGroupId.add _ _).members groupId ↔ _
    rw [KeyedSets.mem_members_add, hhub.byGroup]
    exact hadded (·.groupId) groupId id
  · intro classroomId id
    show id ∈ (hub.clientIdsByClassroomId.add _ _).members classroomId ↔ _
    rw [KeyedSets.mem_members_add, hhub.byClassroom]
    exact hadded (·.classroomId) classroomId id

theorem Consistent.setGroup (hclient : client ∈ hub.clientsById) (groupId : Text) :
    Consistent (hub.setGroup client groupId) := by
  have hids : (hub.setGroup client groupId).clientsById.map (·.id) =
      hub.clientsById.map (·.id) := by
    show ((hub.clientsById.map _).map _) = _
    rw [List.map_map]
    apply List.map_congr_left
    intro other _
    by_cases hsame : other.id = client.id <;> simp [hsame]
  refine ⟨by rw [hids]; exact hhub.distinct, ?_, ?_⟩
  · intro key id
    show id ∈ ((hub.clientIdsByGroupId.remove _ _).add _ _).members key ↔
      ∃ other ∈ hub.clientsById.map _, _
    rw [KeyedSets.mem_members_add, KeyedSets.mem_members_remove, hhub.byGroup]
    simp only [List.mem_map, exists_exists_and_eq_and]
    refine ⟨?_, ?_⟩
    · rintro (⟨⟨other, hother, hid, hgroup⟩, hnot⟩ | ⟨rfl, rfl⟩)
      · have hne : other.id ≠ client.id := by
          intro hsame
          rw [hhub.eq_of_id hother hclient hsame] at hid hgroup
          exact hnot ⟨hgroup.symm, hid.symm⟩
        refine ⟨other, hother, ?_⟩
        rw [if_neg hne]
        exact ⟨hid, hgroup⟩
      · exact ⟨client, hclient, by simp⟩
    · rintro ⟨other, hother, hid, hgroup⟩
      by_cases hsame : other.id = client.id
      · rw [if_pos hsame] at hid hgroup
        exact Or.inr ⟨hgroup.symm, hid.symm.trans hsame⟩
      · rw [if_neg hsame] at hid hgroup
        exact Or.inl ⟨⟨other, hother, hid, hgroup⟩, fun h => hsame (hid.trans h.2)⟩
  · intro classroomId id
    show id ∈ hub.clientIdsByClassroomId.members classroomId ↔
      ∃ other ∈ hub.clientsById.map _, _
    rw [hhub.byClassroom]
    simp only [List.mem_map, exists_exists_and_eq_and]
    apply exists_congr
    intro other
    by_cases hsame : other.id = client.id <;> simp [hsame]

theorem Consistent.tryWrite (writes : Text → Bool) (id : Text) :
    Consistent (hub.tryWrite writes id) := by
  unfold Hub.tryWrite
  split
  · exact hhub
  · exact hhub.removeSseClient id

theorem Consistent.reassign (nextGroupId : Text → Option Text) (writes : Text → Bool) (id : Text) :
    Consistent (hub.reassign nextGroupId writes id) := by
  unfold Hub.reassign
  cases hfind : hub.client? id with
  | none => exact hhub
  | some client =>
      dsimp only
      split
      · exact hhub
      split
      · exact hhub
      · exact (hhub.setGroup (mem_of_client? hfind).1 _).tryWrite writes id

end

theorem Consistent.foldl {step : Hub → Text → Hub}
    (hstep : ∀ hub id, Consistent hub → Consistent (step hub id)) (hhub : Consistent hub)
    (ids : List Text) : Consistent (ids.foldl step hub) := by
  induction ids generalizing hub with
  | nil => exact hhub
  | cons id ids ih => exact ih (hstep hub id hhub)

/-- The hub after the writes. One that is made to no registered client changes nothing. -/
theorem writeTo_snd (writes : Text → Bool) (ids : List Text) (hub : Hub) :
    (hub.writeTo writes ids).2 = ids.foldl (Hub.tryWrite writes) hub := by
  induction ids generalizing hub with
  | nil => rfl
  | cons id ids ih =>
      rw [Hub.writeTo, List.foldl_cons]
      split
      · next hnone =>
        rw [ih, Hub.tryWrite, Hub.removeSseClient, hnone, ite_self]
      · next client hclient =>
        rw [(mem_of_client? hclient).2]
        exact ih _

theorem Consistent.writeTo (hhub : Consistent hub) (writes : Text → Bool) (ids : List Text) :
    Consistent (Hub.writeTo writes ids hub).2 :=
  writeTo_snd writes ids hub ▸ hhub.foldl (fun _ id h => h.tryWrite writes id) ids

theorem Consistent.handle (hhub : Consistent hub) {event : HubEvent}
    (hfresh : FreshId hub event) : Consistent (handle hub event) := by
  cases event with
  | register client => exact hhub.registerSseClient hfresh
  | remove id => exact hhub.removeSseClient id
  | publishGroup groupId writes =>
      exact hhub.writeTo writes _
  | publishBroadcast writes =>
      exact hhub.foldl (fun _ id h => h.tryWrite writes id) _
  | publishClassroom unrestrictedGroupId classroomId baseContext exemptHostnames writes =>
      show Consistent (hub.publishClassroomChangedLocal _ _ _ _ _)
      unfold Hub.publishClassroomChangedLocal
      dsimp only
      split
      · exact hhub
      split
      · exact hhub
      · exact hhub.foldl (fun _ id h => h.reassign _ writes id) _

/-- The indexes are right in every hub that can be reached. -/
theorem consistent_of_reachable (hreach : hubs.ReachableBy FreshId hub) : Consistent hub := by
  refine hreach.invariant (fun start hstart => ?_) ?_
  · have hempty : start = emptyHub := hstart
    rw [hempty]
    exact ⟨List.nodup_nil, by simp [emptyHub], by simp [emptyHub]⟩
  · rintro source event target hsource hfresh rfl
    exact hsource.handle hfresh

end Consistent

/-! ## A change of a classroom -/

section Reassign

variable {hub : Hub} {nextGroupId : Text → Option Text} {writes : Text → Bool} {client : SseClient}

/-- A client that is left after the classroom of another one has been handled
is unchanged. -/
theorem mem_of_mem_reassign_of_ne {id : Text}
    (hclient : client ∈ (hub.reassign nextGroupId writes id).clientsById) (hne : client.id ≠ id) :
    client ∈ hub.clientsById := by
  have hset : ∀ (found : SseClient) (groupId : Text), found.id = id →
      client ∈ (hub.setGroup found groupId).clientsById → client ∈ hub.clientsById := by
    rintro found groupId rfl hmem
    obtain ⟨other, hother, hsame⟩ := List.mem_map.mp hmem
    by_cases hid : other.id = found.id
    · rw [if_pos hid] at hsame
      exact absurd (hsame ▸ hid) hne
    · rw [if_neg hid] at hsame
      exact hsame ▸ hother
  unfold Hub.reassign at hclient
  cases hfind : hub.client? id with
  | none =>
      rw [hfind] at hclient
      exact hclient
  | some found =>
      rw [hfind] at hclient
      dsimp only at hclient
      split at hclient
      · exact hclient
      split at hclient
      · exact hclient
      rename_i groupId _ _
      apply hset found groupId (mem_of_client? hfind).2
      unfold Hub.tryWrite Hub.removeSseClient at hclient
      split at hclient
      · exact hclient
      split at hclient
      · exact hclient
      · exact (List.mem_filter.mp hclient).1

/-- A client that has been handled is the one it was before, with the group that
was found for it. -/
theorem reassign_self (hhub : Consistent hub)
    (hclient : client ∈ (hub.reassign nextGroupId writes client.id).clientsById) :
    ∃ before ∈ hub.clientsById, before.id = client.id ∧ before.hostname = client.hostname ∧
      before.classroomId = client.classroomId ∧
        ∀ groupId, nextGroupId client.hostname = some groupId → groupId ≠ [] →
          client.groupId = groupId := by
  unfold Hub.reassign at hclient
  cases hfind : hub.client? client.id with
  | none =>
      rw [hfind] at hclient
      have hnone := List.find?_eq_none.mp hfind client hclient
      simp at hnone
  | some found =>
      obtain ⟨hfound, hid⟩ := mem_of_client? hfind
      rw [hfind] at hclient
      dsimp only at hclient
      split at hclient
      · rename_i hnone
        obtain rfl := hhub.eq_of_id hfound hclient hid
        refine ⟨found, hfound, rfl, rfl, rfl, ?_⟩
        intro groupId hgroup
        rw [hnone] at hgroup
        cases hgroup
      rename_i next hnext
      split at hclient
      · rename_i hkept
        obtain rfl := hhub.eq_of_id hfound hclient hid
        refine ⟨found, hfound, rfl, rfl, rfl, ?_⟩
        intro groupId hgroup hnonempty
        obtain rfl := Option.some.inj (hnext.symm.trans hgroup)
        exact hkept.resolve_left hnonempty
      · have hmoved : client ∈ (hub.setGroup found next).clientsById := by
          unfold Hub.tryWrite Hub.removeSseClient at hclient
          split at hclient
          · exact hclient
          split at hclient
          · exact hclient
          · exact (List.mem_filter.mp hclient).1
        obtain ⟨other, hother, hsame⟩ := List.mem_map.mp hmoved
        have hother' : other.id = found.id := by
          by_cases h : other.id = found.id
          · exact h
          · rw [if_neg h] at hsame
            exact hsame ▸ hid.symm
        obtain rfl := hhub.eq_of_id hother hfound hother'
        rw [if_pos rfl] at hsame
        refine ⟨other, hother, hid, by rw [← hsame], by rw [← hsame], ?_⟩
        intro groupId hgroup _
        rw [← hsame] at hgroup ⊢
        exact Option.some.inj (hnext.symm.trans hgroup)

/-- What is left of the clients after all listed ones have been handled. The
induction keeps what earlier steps have done, since a later step changes no
other client. -/
theorem foldl_reassign (hhub : Consistent hub) (ids : List Text)
    (hclient : client ∈ (ids.foldl (Hub.reassign nextGroupId writes) hub).clientsById) :
    ∃ before ∈ hub.clientsById, before.id = client.id ∧ before.hostname = client.hostname ∧
      before.classroomId = client.classroomId ∧
        ((client.id ∉ ids ∧ before.groupId = client.groupId) ∨
          ∀ groupId, nextGroupId client.hostname = some groupId → groupId ≠ [] →
            client.groupId = groupId) := by
  induction ids generalizing hub with
  | nil => exact ⟨client, hclient, rfl, rfl, rfl, Or.inl ⟨List.not_mem_nil, rfl⟩⟩
  | cons id ids ih =>
      obtain ⟨middle, hmiddle, hid, hhost, hroom, hgroup⟩ :=
        ih (hhub.reassign nextGroupId writes id) hclient
      by_cases hself : middle.id = id
      · rw [← hself] at hmiddle
        obtain ⟨before, hbefore, hid', hhost', hroom', hgroup'⟩ := reassign_self hhub hmiddle
        refine ⟨before, hbefore, hid'.trans hid, hhost'.trans hhost, hroom'.trans hroom,
          Or.inr ?_⟩
        rcases hgroup with ⟨-, hsame⟩ | hset
        · rw [← hsame, ← hhost]
          exact hgroup'
        · exact hset
      · have hbefore := mem_of_mem_reassign_of_ne hmiddle hself
        refine ⟨middle, hbefore, hid, hhost, hroom, ?_⟩
        rcases hgroup with ⟨hnot, hsame⟩ | hset
        · refine Or.inl ⟨?_, hsame⟩
          rw [List.mem_cons]
          rintro (h | h)
          · exact hself (hid.trans h)
          · exact hnot h
        · exact Or.inr hset

end Reassign

/-- After a change of a classroom, every client of it that is still connected is
in the group that the change gives its hostname. -/
theorem groupId_publishClassroomChangedLocal {hub : Hub} (hhub : Consistent hub)
    {unrestrictedGroupId classroomId groupId : Text} {baseContext : Option (Option Text)}
    {exemptHostnames : List Text} {writes : Text → Bool} {client : SseClient}
    (hclient : client ∈ (hub.publishClassroomChangedLocal unrestrictedGroupId classroomId
      baseContext exemptHostnames writes).clientsById)
    (hroom : client.classroomId = classroomId)
    (hnext : Hub.nextGroupId unrestrictedGroupId (baseContext.bind id) exemptHostnames
      client.hostname = some groupId)
    (hnonempty : groupId ≠ []) : client.groupId = groupId := by
  unfold Hub.publishClassroomChangedLocal at hclient
  dsimp only at hclient
  split at hclient
  · rename_i hnone
    have hmem := (hhub.byClassroom classroomId client.id).mpr ⟨client, hclient, rfl, hroom⟩
    rw [hnone] at hmem
    cases hmem
  split at hclient
  · rename_i hnothing
    rw [Hub.nextGroupId, hnothing.1, hnothing.2] at hnext
    cases hnext
  · obtain ⟨before, hbefore, hid, -, hroom', hgroup⟩ := foldl_reassign hhub _ hclient
    rcases hgroup with ⟨hnot, -⟩ | hset
    · have hmem := (hhub.byClassroom classroomId client.id).mpr
        ⟨before, hbefore, hid, hroom'.trans hroom⟩
      exact absurd hmem hnot
    · exact hset groupId hnext hnonempty

end OpenPath.Api.SseHub
