/-
# Domain events

A command collects the events of its transaction in a queue, which is published
when the transaction has committed. A transaction that throws leaves the tables
as they were, and its queue is dropped.
-/

import OpenPath.Api.Database

namespace OpenPath.Api.DomainEvents

inductive DomainEvent
  | whitelistChanged (groupId : Text)
  | allWhitelistsChanged
  | classroomChanged (classroomId : Text) (now : Option Int)
  deriving DecidableEq

/-- A key of the queue's order. -/
inductive EventKey
  | whitelistChanged (groupId : Text)
  | allWhitelistsChanged
  | classroomChanged (classroomId : Text)
  deriving DecidableEq

structure EventQueue where
  classroomChanged : List (Text × Option Int)
  hasAllWhitelistsChanged : Bool
  orderedKeys : List EventKey
  whitelistChanged : List Text

def emptyQueue : EventQueue where
  classroomChanged := []
  hasAllWhitelistsChanged := false
  orderedKeys := []
  whitelistChanged := []

namespace EventQueue

def queueEvent (queue : EventQueue) : DomainEvent → EventQueue
  | .whitelistChanged groupId =>
      if queue.hasAllWhitelistsChanged ∨ groupId ∈ queue.whitelistChanged then queue
      else
        { queue with
          whitelistChanged := queue.whitelistChanged ++ [groupId]
          orderedKeys := queue.orderedKeys ++ [.whitelistChanged groupId] }
  | .allWhitelistsChanged =>
      if queue.hasAllWhitelistsChanged then queue
      else
        { queue with
          hasAllWhitelistsChanged := true
          whitelistChanged := []
          orderedKeys := queue.orderedKeys ++ [.allWhitelistsChanged] }
  | .classroomChanged classroomId now =>
      { queue with
        orderedKeys :=
          if (queue.classroomChanged.lookup classroomId).isSome then queue.orderedKeys
          else queue.orderedKeys ++ [.classroomChanged classroomId]
        classroomChanged :=
          queue.classroomChanged.filter (·.1 ≠ classroomId) ++ [(classroomId, now)] }

def publishWhitelistChanged (queue : EventQueue) (groupId : Text) : EventQueue :=
  queue.queueEvent (.whitelistChanged groupId)

/-- The event that is published for a key, if there is one. -/
def eventOf (queue : EventQueue) : EventKey → Option DomainEvent
  | .allWhitelistsChanged => some .allWhitelistsChanged
  | .whitelistChanged groupId =>
      if queue.hasAllWhitelistsChanged then none
      else if groupId ∈ queue.whitelistChanged then some (.whitelistChanged groupId)
      else none
  | .classroomChanged classroomId =>
      (queue.classroomChanged.lookup classroomId).map (.classroomChanged classroomId)

/-- The events that are published, in the order of their first occurrence. -/
def normalizeEvents (queue : EventQueue) : List DomainEvent :=
  queue.orderedKeys.filterMap queue.eventOf

/-- A queue in which only changes of whitelists have been put. -/
structure Whitelists (queue : EventQueue) : Prop where
  not_all : queue.hasAllWhitelistsChanged = false
  keys : queue.orderedKeys = queue.whitelistChanged.map .whitelistChanged

variable {queue : EventQueue}

theorem Whitelists.publish (hqueue : Whitelists queue) (groupId : Text) :
    Whitelists (queue.publishWhitelistChanged groupId) ∧
      ∀ other, other ∈ (queue.publishWhitelistChanged groupId).whitelistChanged ↔
        other ∈ queue.whitelistChanged ∨ other = groupId := by
  unfold publishWhitelistChanged queueEvent
  dsimp only
  split
  · rename_i hknown
    have hmem : groupId ∈ queue.whitelistChanged := by
      rcases hknown with hall | hmem
      · rw [hqueue.not_all] at hall
        cases hall
      · exact hmem
    refine ⟨hqueue, fun other => ⟨Or.inl, ?_⟩⟩
    rintro (hold | rfl)
    · exact hold
    · exact hmem
  · refine ⟨⟨hqueue.not_all, ?_⟩, fun other => ?_⟩
    · show queue.orderedKeys ++ _ = (queue.whitelistChanged ++ _).map _
      rw [hqueue.keys, List.map_append, List.map_singleton]
    · show other ∈ queue.whitelistChanged ++ [groupId] ↔ _
      rw [List.mem_append, List.mem_singleton]

theorem Whitelists.normalizeEvents (hqueue : Whitelists queue) :
    queue.normalizeEvents = queue.whitelistChanged.map .whitelistChanged := by
  have hall : ∀ groupIds : List Text, (∀ groupId ∈ groupIds, groupId ∈ queue.whitelistChanged) →
      (groupIds.map EventKey.whitelistChanged).filterMap queue.eventOf =
        groupIds.map .whitelistChanged := by
    intro groupIds hmem
    induction groupIds with
    | nil => rfl
    | cons groupId rest ih =>
        have hevent : queue.eventOf (.whitelistChanged groupId) =
            some (.whitelistChanged groupId) := by
          simp [eventOf, hqueue.not_all, hmem groupId List.mem_cons_self]
        rw [List.map_cons, List.filterMap_cons_some hevent,
          ih fun other hother => hmem other (List.mem_cons_of_mem _ hother), List.map_cons]
  show queue.orderedKeys.filterMap _ = _
  rw [hqueue.keys]
  exact hall _ fun _ h => h

/-- Publish the groups of a list one after another. -/
def publishAll (queue : EventQueue) (groupIds : List Text) : EventQueue :=
  groupIds.foldl publishWhitelistChanged queue

theorem Whitelists.publishAll (hqueue : Whitelists queue) (groupIds : List Text) :
    Whitelists (queue.publishAll groupIds) ∧
      ∀ other, other ∈ (queue.publishAll groupIds).whitelistChanged ↔
        other ∈ queue.whitelistChanged ∨ other ∈ groupIds := by
  induction groupIds generalizing queue with
  | nil => exact ⟨hqueue, by simp [EventQueue.publishAll]⟩
  | cons groupId rest ih =>
      obtain ⟨hnext, hmem⟩ := hqueue.publish groupId
      obtain ⟨hlast, hall⟩ := ih hnext
      refine ⟨hlast, fun other => ?_⟩
      show other ∈ ((queue.publishWhitelistChanged groupId).publishAll rest).whitelistChanged ↔ _
      rw [hall, hmem, List.mem_cons, or_assoc]

end EventQueue

theorem whitelists_emptyQueue : emptyQueue.Whitelists := ⟨rfl, rfl⟩

/-- What a command publishes is what its transaction put into the queue. -/
theorem mem_normalizeEvents_publishAll (groupIds : List Text) (groupId : Text) :
    .whitelistChanged groupId ∈ (emptyQueue.publishAll groupIds).normalizeEvents ↔
      groupId ∈ groupIds := by
  obtain ⟨hqueue, hmem⟩ := whitelists_emptyQueue.publishAll groupIds
  rw [hqueue.normalizeEvents, List.mem_map]
  constructor
  · rintro ⟨other, hother, heq⟩
    obtain rfl := DomainEvent.whitelistChanged.inj heq
    exact ((hmem other).mp hother).resolve_left List.not_mem_nil
  · intro hgroup
    exact ⟨groupId, (hmem groupId).mpr (Or.inr hgroup), rfl⟩

/-! ## Commands -/

/-- What a call leaves behind: its result, the tables and the events that it has
published. -/
structure Command (ε α : Type) where
  result : Except ε α
  store : Store
  published : List DomainEvent

/-- A call that ends before its transaction. -/
def Command.refused {ε α : Type} (store : Store) (failure : ε) : Command ε α where
  result := .error failure
  store := store
  published := []

/-- What a call makes of the result of its command. -/
def Command.conclude {ε ε' α β : Type} (command : Command ε α)
    (conclusion : Except ε α → Except ε' β) : Command ε' β where
  result := conclusion command.result
  store := command.store
  published := command.published

/-- Run a transaction, and publish its events once it has committed. -/
def writeTransactionalCommand {ε α : Type} (store : Store)
    (operation : EventQueue → Except ε (α × Store × EventQueue)) : Command ε α :=
  match operation emptyQueue with
  | .error failure => .refused store failure
  | .ok (value, after, queue) =>
      { result := .ok value
        store := after
        published := queue.normalizeEvents }

end OpenPath.Api.DomainEvents
