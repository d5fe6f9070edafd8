/-
# What a collector publishes

The events of a transaction come in any order and any number. The batch that is
published names every changed group or all of them, and every changed classroom
once, with the instant of its last event. After an exception nothing is published.
-/

import OpenPath.Api.DomainEvents

namespace OpenPath.Api.DomainEvents

/-- What an event is about: a group, all groups or a classroom. -/
def DomainEvent.key : DomainEvent → EventKey
  | .whitelistChanged groupId => .whitelistChanged groupId
  | .allWhitelistsChanged => .allWhitelistsChanged
  | .classroomChanged classroomId _ => .classroomChanged classroomId

/-- The last event of the classroom carries this instant, if any. -/
def LastInstant (events : List DomainEvent) (classroomId : Text) (now : Option Int) : Prop :=
  ∃ before after, events = before ++ .classroomChanged classroomId now :: after ∧
    ∀ later, .classroomChanged classroomId later ∉ after

/-- A batch that stands for the events of a transaction. -/
structure IsBatch (events batch : List DomainEvent) : Prop where
  once : (batch.map DomainEvent.key).Nodup
  recorded : ∀ event ∈ batch, event ∈ events
  groups : ∀ groupId, .whitelistChanged groupId ∈ events →
    .whitelistChanged groupId ∈ batch ∨ .allWhitelistsChanged ∈ batch
  all : .allWhitelistsChanged ∈ events → .allWhitelistsChanged ∈ batch
  replaced : .allWhitelistsChanged ∈ batch → ∀ groupId, .whitelistChanged groupId ∉ batch
  covered : ∀ classroomId now, .classroomChanged classroomId now ∈ events →
    ∃ last, .classroomChanged classroomId last ∈ batch
  classrooms : ∀ classroomId now, .classroomChanged classroomId now ∈ batch ↔
    LastInstant events classroomId now

variable {events : List DomainEvent}

theorem exists_lastInstant {classroomId : Text} {now : Option Int}
    (hevent : .classroomChanged classroomId now ∈ events) :
    ∃ last, LastInstant events classroomId last := by
  induction events generalizing now with
  | nil => cases hevent
  | cons event rest ih =>
      by_cases hlater : ∃ later, .classroomChanged classroomId later ∈ rest
      · obtain ⟨later, hlater⟩ := hlater
        obtain ⟨last, before, after, rfl, hnone⟩ := ih hlater
        exact ⟨last, event :: before, after, rfl, hnone⟩
      · push Not at hlater
        obtain rfl := (List.mem_cons.mp hevent).resolve_right (hlater now)
        exact ⟨now, [], rest, rfl, hlater⟩

theorem lastInstant_concat (events : List DomainEvent) (event : DomainEvent) (classroomId : Text)
    (now : Option Int) :
    LastInstant (events ++ [event]) classroomId now ↔
      event = .classroomChanged classroomId now ∨
        ((∀ later, event ≠ .classroomChanged classroomId later) ∧
          LastInstant events classroomId now) := by
  constructor
  · rintro ⟨before, after, hevents, hnone⟩
    rcases List.eq_nil_or_concat after with rfl | ⟨after, last, rfl⟩
    · exact Or.inl (List.append_singleton_inj.mp hevents).2
    · rw [List.concat_eq_append] at hevents hnone
      rw [← List.cons_append, ← List.append_assoc] at hevents
      obtain ⟨rfl, rfl⟩ := List.append_singleton_inj.mp hevents
      refine Or.inr ⟨fun later heq => hnone later (by simp [heq]), before, after, rfl, ?_⟩
      exact fun later hmem => hnone later (List.mem_append_left _ hmem)
  · rintro (rfl | ⟨hother, before, after, rfl, hnone⟩)
    · exact ⟨events, [], rfl, fun _ => List.not_mem_nil⟩
    · refine ⟨before, after ++ [event], by simp, fun later hmem => ?_⟩
      rcases List.mem_append.mp hmem with hmem | hmem
      · exact hnone later hmem
      · exact hother later (List.mem_singleton.mp hmem).symm

/-! ## The queue after some events -/

/-- The queue after the events of a transaction. -/
def collect (events : List DomainEvent) : EventQueue :=
  events.foldl EventQueue.queueEvent emptyQueue

theorem collect_concat (events : List DomainEvent) (event : DomainEvent) :
    collect (events ++ [event]) = (collect events).queueEvent event := by
  rw [collect, List.foldl_append]
  rfl

/-- What the queue knows of the events. -/
structure Collected (events : List DomainEvent) (queue : EventQueue) : Prop where
  once : queue.orderedKeys.Nodup
  all : queue.hasAllWhitelistsChanged = true ↔ .allWhitelistsChanged ∈ events
  all_key : .allWhitelistsChanged ∈ queue.orderedKeys ↔ queue.hasAllWhitelistsChanged = true
  groups : queue.hasAllWhitelistsChanged = false →
    ∀ groupId, groupId ∈ queue.whitelistChanged ↔ .whitelistChanged groupId ∈ events
  group_key : queue.hasAllWhitelistsChanged = false →
    ∀ groupId, .whitelistChanged groupId ∈ queue.orderedKeys ↔ groupId ∈ queue.whitelistChanged
  classroom_key : ∀ classroomId, .classroomChanged classroomId ∈ queue.orderedKeys ↔
    (queue.classroomChanged.lookup classroomId).isSome
  classrooms : ∀ classroomId now, queue.classroomChanged.lookup classroomId = some now ↔
    LastInstant events classroomId now

theorem collected_nil : Collected [] emptyQueue where
  once := List.nodup_nil
  all := ⟨fun h => Bool.noConfusion h, fun h => absurd h List.not_mem_nil⟩
  all_key := ⟨fun h => absurd h List.not_mem_nil, fun h => Bool.noConfusion h⟩
  groups := fun _ _ =>
    ⟨fun h => absurd h List.not_mem_nil, fun h => absurd h List.not_mem_nil⟩
  group_key := fun _ _ =>
    ⟨fun h => absurd h List.not_mem_nil, fun h => absurd h List.not_mem_nil⟩
  classroom_key := fun _ => ⟨fun h => absurd h List.not_mem_nil, fun h => Bool.noConfusion h⟩
  classrooms := by
    intro classroomId now
    constructor
    · intro h
      cases h
    · rintro ⟨before, after, hevents, -⟩
      exact absurd hevents.symm (List.append_ne_nil_of_right_ne_nil _ (List.cons_ne_nil _ _))

/-- A table in which one key is set anew. -/
theorem lookup_set {Value : Type} (table : List (Text × Value)) (key other : Text) (value : Value) :
    (table.filter (·.1 ≠ key) ++ [(key, value)]).lookup other =
      if other = key then some value else table.lookup other := by
  induction table with
  | nil =>
      by_cases hsame : other = key
      · rw [if_pos hsame, hsame]
        exact List.lookup_cons_self
      · rw [if_neg hsame, List.filter_nil, List.nil_append, List.lookup_cons,
          beq_false_of_ne hsame]
  | cons entry table ih =>
      obtain ⟨first, old⟩ := entry
      by_cases hdrop : first = key
      · rw [List.filter_cons_of_neg (by simp [hdrop]), ih, List.lookup_cons]
        by_cases hsame : other = key
        · rw [if_pos hsame, if_pos hsame]
        · rw [if_neg hsame, if_neg hsame, hdrop, beq_false_of_ne hsame]
      · rw [List.filter_cons_of_pos (by simp [hdrop]), List.cons_append, List.lookup_cons,
          List.lookup_cons, ih]
        by_cases hfirst : other = first
        · rw [hfirst, beq_self_eq_true]
          exact (if_neg hdrop).symm
        · rw [beq_false_of_ne hfirst]

namespace Collected

variable {events : List DomainEvent} {queue : EventQueue}

section

variable (hcollected : Collected events queue)
include hcollected

/-- An event that is none of a classroom's leaves the instants alone. -/
theorem classrooms_concat (event : DomainEvent)
    (hother : ∀ classroomId later, event ≠ .classroomChanged classroomId later)
    (classroomId : Text) (now : Option Int) :
    queue.classroomChanged.lookup classroomId = some now ↔
      LastInstant (events ++ [event]) classroomId now := by
  rw [hcollected.classrooms, lastInstant_concat]
  refine ⟨fun h => Or.inr ⟨hother classroomId, h⟩, ?_⟩
  rintro (heq | ⟨-, h⟩)
  · exact absurd heq (hother classroomId now)
  · exact h

theorem whitelistChanged (groupId : Text) :
    Collected (events ++ [.whitelistChanged groupId])
      (queue.queueEvent (.whitelistChanged groupId)) := by
  have hclassrooms := hcollected.classrooms_concat (.whitelistChanged groupId)
    fun _ _ heq => by cases heq
  have hall : ∀ events' : List DomainEvent,
      .allWhitelistsChanged ∈ events' ++ [DomainEvent.whitelistChanged groupId] ↔
        .allWhitelistsChanged ∈ events' := by simp
  unfold EventQueue.queueEvent
  dsimp only
  split
  · rename_i hknown
    refine
      { hcollected with
        all := by rw [hall, hcollected.all]
        groups := ?_
        classrooms := hclassrooms }
    intro hnot other
    have hmem : groupId ∈ queue.whitelistChanged :=
      hknown.resolve_left (by rw [hnot]; exact Bool.false_ne_true)
    rw [hcollected.groups hnot, List.mem_append, List.mem_singleton]
    refine ⟨Or.inl, ?_⟩
    rintro (h | h)
    · exact h
    · rw [DomainEvent.whitelistChanged.inj h]
      exact (hcollected.groups hnot groupId).mp hmem
  · rename_i hnew
    push Not at hnew
    obtain ⟨hnot, hnew⟩ := hnew
    have hfalse : queue.hasAllWhitelistsChanged = false := Bool.eq_false_iff.mpr hnot
    exact
      { once := by
          refine List.nodup_append.mpr ⟨hcollected.once, List.nodup_singleton _, ?_⟩
          rintro key hkey _ hsame rfl
          rw [List.mem_singleton.mp hsame, hcollected.group_key hfalse] at hkey
          exact hnew hkey
        all := by rw [hall, hcollected.all]
        all_key := by simpa using hcollected.all_key
        groups := fun hnone other => by
          rw [List.mem_append, List.mem_append, hcollected.groups hnone, List.mem_singleton,
            List.mem_singleton, DomainEvent.whitelistChanged.injEq]
        group_key := fun hnone other => by
          rw [List.mem_append, List.mem_append, hcollected.group_key hnone, List.mem_singleton,
            List.mem_singleton, EventKey.whitelistChanged.injEq]
        classroom_key := by simpa using hcollected.classroom_key
        classrooms := hclassrooms }

theorem allWhitelistsChanged :
    Collected (events ++ [.allWhitelistsChanged]) (queue.queueEvent .allWhitelistsChanged) := by
  have hclassrooms := hcollected.classrooms_concat .allWhitelistsChanged
    fun _ _ heq => by cases heq
  have hall : DomainEvent.allWhitelistsChanged ∈ events ++ [.allWhitelistsChanged] := by simp
  unfold EventQueue.queueEvent
  dsimp only
  split
  · rename_i htrue
    exact
      { hcollected with
        all := ⟨fun _ => hall, fun _ => htrue⟩
        groups := fun hnot => absurd (htrue.symm.trans hnot) (by decide)
        classrooms := hclassrooms }
  · rename_i hnot
    exact
      { once := by
          refine List.nodup_append.mpr ⟨hcollected.once, List.nodup_singleton _, ?_⟩
          rintro key hkey _ hsame rfl
          rw [List.mem_singleton.mp hsame, hcollected.all_key] at hkey
          exact hnot hkey
        all := ⟨fun _ => hall, fun _ => rfl⟩
        all_key := ⟨fun _ => rfl, fun _ => by simp⟩
        groups := fun hfalse => by cases hfalse
        group_key := fun hfalse => by cases hfalse
        classroom_key := by simpa using hcollected.classroom_key
        classrooms := hclassrooms }

theorem classroomChanged (classroomId : Text) (now : Option Int) :
    Collected (events ++ [.classroomChanged classroomId now])
      (queue.queueEvent (.classroomChanged classroomId now)) := by
  have hlookup := lookup_set queue.classroomChanged classroomId
  have hkeys : ∀ key, key ∈ (queue.queueEvent (.classroomChanged classroomId now)).orderedKeys ↔
      key ∈ queue.orderedKeys ∨ key = .classroomChanged classroomId := by
    intro key
    unfold EventQueue.queueEvent
    dsimp only
    split
    · rename_i hknown
      refine ⟨Or.inl, ?_⟩
      rintro (h | rfl)
      · exact h
      · exact (hcollected.classroom_key classroomId).mpr hknown
    · rw [List.mem_append, List.mem_singleton]
  exact
    { once := by
        unfold EventQueue.queueEvent
        dsimp only
        split
        · exact hcollected.once
        · rename_i hnew
          refine List.nodup_append.mpr ⟨hcollected.once, List.nodup_singleton _, ?_⟩
          rintro key hkey _ hsame rfl
          rw [List.mem_singleton.mp hsame, hcollected.classroom_key] at hkey
          exact hnew hkey
      all := by
        rw [List.mem_append, List.mem_singleton]
        refine hcollected.all.trans ⟨Or.inl, ?_⟩
        rintro (h | h)
        · exact h
        · cases h
      all_key := by
        rw [hkeys]
        refine ⟨?_, fun h => Or.inl (hcollected.all_key.mpr h)⟩
        rintro (h | h)
        · exact hcollected.all_key.mp h
        · cases h
      groups := fun hnot groupId => by
        rw [List.mem_append, List.mem_singleton]
        refine (hcollected.groups hnot groupId).trans ⟨Or.inl, ?_⟩
        rintro (h | h)
        · exact h
        · cases h
      group_key := fun hnot groupId => by
        rw [hkeys]
        refine ⟨?_, fun h => Or.inl ((hcollected.group_key hnot groupId).mpr h)⟩
        rintro (h | h)
        · exact (hcollected.group_key hnot groupId).mp h
        · cases h
      classroom_key := fun other => by
        rw [hkeys, hcollected.classroom_key]
        change _ ↔ (List.lookup other (queue.classroomChanged.filter (·.1 ≠ classroomId) ++
          [(classroomId, now)])).isSome
        rw [hlookup]
        by_cases hsame : other = classroomId
        · simp [hsame]
        · simp [hsame]
      classrooms := fun other last => by
        change List.lookup other (queue.classroomChanged.filter (·.1 ≠ classroomId) ++
          [(classroomId, now)]) = _ ↔ _
        rw [hlookup, lastInstant_concat]
        by_cases hsame : other = classroomId
        · subst hsame
          simp
        · rw [if_neg hsame, hcollected.classrooms]
          simp [Ne.symm hsame] }

theorem queueEvent (event : DomainEvent) :
    Collected (events ++ [event]) (queue.queueEvent event) := by
  cases event with
  | whitelistChanged groupId => exact hcollected.whitelistChanged groupId
  | allWhitelistsChanged => exact hcollected.allWhitelistsChanged
  | classroomChanged classroomId now => exact hcollected.classroomChanged classroomId now

end

end Collected

theorem collected_collect (events : List DomainEvent) : Collected events (collect events) := by
  induction events using List.reverseRecOn with
  | nil => exact collected_nil
  | append_singleton events event ih =>
      rw [collect_concat]
      exact ih.queueEvent event

/-! ## The batch of a queue -/

variable {queue : EventQueue} {event : DomainEvent}

theorem key_of_eventOf {key : EventKey} (hevent : queue.eventOf key = some event) : event.key = key := by
  cases key with
  | whitelistChanged groupId =>
      unfold EventQueue.eventOf at hevent
      dsimp only at hevent
      split at hevent
      · cases hevent
      split at hevent
      · rw [← Option.some.inj hevent]
        rfl
      · cases hevent
  | allWhitelistsChanged =>
      rw [← Option.some.inj hevent]
      rfl
  | classroomChanged classroomId =>
      obtain ⟨now, -, rfl⟩ := Option.map_eq_some_iff.mp hevent
      rfl

theorem mem_normalizeEvents :
    event ∈ queue.normalizeEvents ↔
      event.key ∈ queue.orderedKeys ∧ queue.eventOf event.key = some event := by
  rw [EventQueue.normalizeEvents, List.mem_filterMap]
  constructor
  · rintro ⟨key, hkey, hevent⟩
    obtain rfl := key_of_eventOf hevent
    exact ⟨hkey, hevent⟩
  · rintro ⟨hkey, hevent⟩
    exact ⟨event.key, hkey, hevent⟩

theorem nodup_normalizeEvents (honce : queue.orderedKeys.Nodup) :
    (queue.normalizeEvents.map DomainEvent.key).Nodup := by
  have hmap : queue.normalizeEvents.map DomainEvent.key =
      queue.orderedKeys.filter fun key => (queue.eventOf key).isSome := by
    rw [EventQueue.normalizeEvents, List.map_filterMap, ← List.filterMap_eq_filter]
    refine List.filterMap_congr fun key _ => ?_
    cases hevent : queue.eventOf key with
    | none => simp [hevent, Option.guard]
    | some event => simp [hevent, key_of_eventOf hevent]
  rw [hmap]
  exact honce.filter _

theorem Collected.isBatch (hcollected : Collected events queue) :
    IsBatch events queue.normalizeEvents := by
  have hall : .allWhitelistsChanged ∈ queue.normalizeEvents ↔
      queue.hasAllWhitelistsChanged = true := by
    rw [mem_normalizeEvents]
    exact ⟨fun h => hcollected.all_key.mp h.1, fun h => ⟨hcollected.all_key.mpr h, rfl⟩⟩
  have hgroup : ∀ groupId, .whitelistChanged groupId ∈ queue.normalizeEvents ↔
      queue.hasAllWhitelistsChanged = false ∧ .whitelistChanged groupId ∈ events := by
    intro groupId
    rw [mem_normalizeEvents]
    unfold EventQueue.eventOf DomainEvent.key
    dsimp only
    cases hflag : queue.hasAllWhitelistsChanged with
    | true => simp
    | false =>
        rw [hcollected.group_key hflag, ← hcollected.groups hflag]
        simp
  have hclassroom : ∀ classroomId now, .classroomChanged classroomId now ∈ queue.normalizeEvents ↔
      LastInstant events classroomId now := by
    intro classroomId now
    rw [mem_normalizeEvents, ← hcollected.classrooms]
    unfold EventQueue.eventOf DomainEvent.key
    dsimp only
    rw [hcollected.classroom_key]
    cases hlookup : queue.classroomChanged.lookup classroomId with
    | none => simp
    | some last => simp
  refine
    { once := nodup_normalizeEvents hcollected.once
      recorded := ?_
      groups := ?_
      all := fun hmem => hall.mpr (hcollected.all.mpr hmem)
      replaced := ?_
      covered := ?_
      classrooms := hclassroom }
  · intro event hevent
    cases event with
    | whitelistChanged groupId => exact ((hgroup groupId).mp hevent).2
    | allWhitelistsChanged => exact hcollected.all.mp (hall.mp hevent)
    | classroomChanged classroomId now =>
        obtain ⟨before, after, rfl, -⟩ := (hclassroom classroomId now).mp hevent
        simp
  · intro groupId hevent
    cases hflag : queue.hasAllWhitelistsChanged with
    | true => exact Or.inr (hall.mpr hflag)
    | false => exact Or.inl ((hgroup groupId).mpr ⟨hflag, hevent⟩)
  · intro hmem groupId hevent
    have hflag := hall.mp hmem
    rw [((hgroup groupId).mp hevent).1] at hflag
    cases hflag
  · intro classroomId now hevent
    obtain ⟨last, hlast⟩ := exists_lastInstant hevent
    exact ⟨last, (hclassroom classroomId last).mpr hlast⟩

/-! ## Transactions -/

/-- What an operation returns: its result, the tables and the queue it has filled. -/
def withQueue {α : Type} (queue : EventQueue) (committed : α × Store) : α × Store × EventQueue :=
  (committed.1, committed.2, queue)

/-- A transaction that records some events, and then commits or throws. -/
def transact {ε α : Type} (store : Store) (events : List DomainEvent)
    (outcome : Except ε (α × Store)) : Command ε α :=
  writeTransactionalCommand store fun queue =>
    outcome.map (withQueue (events.foldl EventQueue.queueEvent queue))

/-- A commit publishes one batch for all events that were recorded, an exception none. -/
theorem published_transact {ε α : Type} (store : Store) (events : List DomainEvent)
    (committed : α × Store) (failure : ε) :
    IsBatch events
        (transact store events (.ok committed : Except ε (α × Store))).published ∧
      (transact store events (.error failure : Except ε (α × Store))).published = [] :=
  ⟨(collected_collect events).isBatch, rfl⟩

end OpenPath.Api.DomainEvents
