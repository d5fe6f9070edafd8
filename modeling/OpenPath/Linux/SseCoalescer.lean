/-
# Coalescing the updates of the SSE listener

The listener reads the changes that the server announces and calls
`sse_trigger_update` for each of them. A call starts an update, unless one was started
less than a cooldown ago: then it leaves a mark and forks a shell, which sleeps for the
rest of the cooldown, removes the mark and calls again. A call that finds the mark does
nothing.

What the calls know of each other stands in two files. They run in several processes,
so a call is a sequence of steps on the files, and the steps of the processes alternate
in any order. A restart kills the processes at any point and leaves the files. Time is
counted in seconds, and a second passes when every process sleeps: no process takes a
second for what it does.
-/

import OpenPath.Foundation.Transition
import OpenPath.Text.Ascii

namespace OpenPath.Linux.Sse

open Foundation TransitionSystem

/-! ## Files -/

/-- `sse_update_cooldown`. A leading zero, which makes the arithmetic of the shell read
a number in octal, is not looked at. -/
def sseUpdateCooldown (setting : Option Text) : Nat :=
  match setting with
  | some digits =>
      if digits ≠ [] ∧ digits.all Ascii.isDigit then
        digits.foldl (fun value c => 10 * value + (c.toNat - '0'.toNat)) 0
      else 10
  | none => 10

/-- The file of the last update, where it holds a number, and the mark of the deferred
update, with the number of the listener that left it. -/
structure Files where
  lastUpdate : Option Nat
  pendingUpdate : Option Nat
  deriving DecidableEq

/-- `sse_read_last_update` -/
def sseReadLastUpdate (files : Files) : Nat := files.lastUpdate.getD 0

/-! ## Calls -/

/-- What a process does next: the command after the sleep of a forked shell, and the
commands of a call of `sse_trigger_update`. -/
inductive Task
  | expire
  /-- `sse_trigger_update` -/
  | readDate
  | readLast (now : Nat)
  /-- `sse_schedule_deferred_update` -/
  | lookPending (delay : Nat)
  | writePending (delay : Nat)
  | fork (delay : Nat)
  /-- `sse_run_update_now` -/
  | removePending (now : Nat)
  | openLast (now : Nat)
  | writeLast (now : Nat)
  | start
  deriving DecidableEq

/-- What a task does: the files after it, what the process does next, the time at which
a shell that it forks wakes up, and whether it starts the command of the update. -/
structure Outcome where
  files : Files
  next : Option Task
  wake : Option Nat := none
  starts : Bool := false

/-- `elapsed` -/
def elapsedSince (cooldown now last : Nat) : Nat := if now < last then cooldown else now - last

def Task.run (cooldown clock listener : Nat) (files : Files) : Task → Outcome
  | .expire => { files := { files with pendingUpdate := none }, next := some .readDate }
  | .readDate => { files, next := some (.readLast clock) }
  | .readLast now =>
      if elapsedSince cooldown now (sseReadLastUpdate files) < cooldown then
        { files
          next := some (.lookPending
            (cooldown - elapsedSince cooldown now (sseReadLastUpdate files))) }
      else { files, next := some (.removePending now) }
  | .lookPending delay =>
      if files.pendingUpdate.isSome then { files, next := none }
      else { files, next := some (.writePending delay) }
  | .writePending delay =>
      { files := { files with pendingUpdate := some listener }, next := some (.fork delay) }
  | .fork delay => { files, next := none, wake := some (clock + delay) }
  | .removePending now =>
      { files := { files with pendingUpdate := none }, next := some (.openLast now) }
  -- The shell empties the file before it writes the date.
  | .openLast now => { files := { files with lastUpdate := none }, next := some (.writeLast now) }
  | .writeLast now => { files := { files with lastUpdate := some now }, next := some .start }
  | .start => { files, next := none, starts := true }

/-! ## The listener -/

inductive Process
  | sleeping (wake : Nat)
  | awake (task : Task)
  deriving DecidableEq

/-- What is seen of a run. -/
inductive Happening
  | event (time : Nat)
  | update (time : Nat)
  | restart
  deriving DecidableEq

/-- The reader of the events is a process that waits for the next event where it has no
call to finish. The history is that of the run, the latest first; no step reads it. -/
structure State where
  clock : Nat
  listener : Nat
  files : Files
  reader : Option Task
  timers : List Process
  running : Nat
  history : List Happening
  deriving DecidableEq

/-- Where a task may start the update, `found` says whether its command is there. -/
inductive Label
  | event
  | reader (found : Bool)
  | timer (index : Nat) (found : Bool)
  | complete
  | tick
  | restart

def State.processes (s : State) : List Process := (s.reader.map .awake).toList ++ s.timers

def Process.isAsleep (clock : Nat) : Process → Bool
  | .sleeping wake => clock < wake
  | .awake _ => false

def State.outcome (cooldown : Nat) (s : State) (task : Task) : Outcome :=
  task.run cooldown s.clock s.listener s.files

/-- What a task leaves outside of its process. -/
def State.leave (s : State) (outcome : Outcome) (found : Bool) : State :=
  { s with
    files := outcome.files
    timers := s.timers ++ (outcome.wake.map .sleeping).toList
    running := if outcome.starts && found then s.running + 1 else s.running
    history := if outcome.starts && found then .update s.clock :: s.history else s.history }

def State.stepReader (cooldown : Nat) (s : State) (found : Bool) (task : Task) : State :=
  { s with reader := (s.outcome cooldown task).next }.leave (s.outcome cooldown task) found

def State.stepTimer (cooldown : Nat) (s : State) (index : Nat) (found : Bool) :
    Process → Option State
  | .sleeping wake =>
      if wake ≤ s.clock then
        some { s with timers := s.timers.take index ++ .awake .expire :: s.timers.drop (index + 1) }
      else none
  | .awake task =>
      some ({ s with
        timers := s.timers.take index ++
          (((s.outcome cooldown task).next.map Process.awake).toList ++ s.timers.drop (index + 1)) }.leave
          (s.outcome cooldown task) found)

def State.step (cooldown : Nat) (s : State) : Label → Option State
  | .event =>
      if s.reader = none then
        some { s with reader := some .readDate, history := .event s.clock :: s.history }
      else none
  | .reader found => s.reader.map (s.stepReader cooldown found)
  | .timer index found => s.timers[index]?.bind (s.stepTimer cooldown index found)
  | .complete => if 0 < s.running then some { s with running := s.running - 1 } else none
  | .tick =>
      if s.processes.all (Process.isAsleep s.clock) then some { s with clock := s.clock + 1 }
      else none
  | .restart =>
      some
        { s with
          listener := s.listener + 1, reader := none, timers := [], running := 0
          history := .restart :: s.history }

/-- A listener starts with what others left in the files. -/
structure Starts (s : State) : Prop where
  reader : s.reader = none
  timers : s.timers = []
  history : s.history = []
  mark : ∀ listener, s.files.pendingUpdate = some listener → listener < s.listener

/-! ## Events -/

/-- Every event since the last restart is followed by an update that starts in time, if
the time is over. -/
def Followed (cooldown clock : Nat) (history : List Happening) : Prop :=
  ∀ later earlier time, history = later ++ .event time :: earlier → .restart ∉ later →
    (∃ start, .update start ∈ later ∧ time ≤ start ∧ start ≤ time + cooldown) ∨
      clock ≤ time + cooldown

/-- The task that a step runs. -/
def State.taskAt (s : State) : Label → Option Task
  | .reader _ => s.reader
  | .timer index _ =>
      match s.timers[index]? with
      | some (.awake task) => some task
      | _ => none
  | _ => none

def Label.found : Label → Bool
  | .reader found => found
  | .timer _ found => found
  | _ => true

/-- The command of an update is there, and the mark that a call finds was not left by a
listener that was killed. -/
def sound (s : State) (label : Label) : Bool :=
  match s.taskAt label with
  | some .start => label.found
  | some (.lookPending _) => s.files.pendingUpdate.all (· == s.listener)
  | _ => true

def system (cooldown : Nat) : TransitionSystem State Label :=
  ofPartial Starts (State.step cooldown)

/-! ## Time goes on -/

/-- A process makes a step. -/
def Label.isMove : Label → Bool
  | .reader _ => true
  | .timer _ _ => true
  | _ => false

/-- The steps that are left of a task in this second, at most. -/
def Task.work : Task → Nat
  | .expire => 7
  | .readDate => 6
  | .readLast _ => 5
  | .removePending _ => 4
  | .openLast _ => 3
  | .lookPending _ => 3
  | .writeLast _ => 2
  | .writePending _ => 2
  | .start => 1
  | .fork _ => 1

def Process.work (clock : Nat) : Process → Nat
  | .sleeping wake => if wake ≤ clock then 8 else 0
  | .awake task => task.work

def State.work (s : State) : Nat := (s.processes.map (Process.work s.clock)).sum

/-- Every event is followed by an update in time, and the time comes: a second passes,
or a process makes one of the steps that are left in this one. -/
structure KeepsUp (cooldown : Nat) (s : State) : Prop where
  followed : Followed cooldown s.clock s.history
  goesOn : (s.step cooldown .tick).isSome = true ∨
    ∃ label, label.isMove = true ∧ (s.step cooldown label).isSome = true
  settles : ∀ label s', label.isMove = true → s.step cooldown label = some s' → s'.work < s.work

/-! ## Steps of processes -/

/-- The processes that a task leaves in the place of its own. -/
def Outcome.results (outcome : Outcome) : List Process :=
  (outcome.next.map Process.awake).toList ++ (outcome.wake.map Process.sleeping).toList

/-- One process is replaced by others. -/
structure Replaces (s s' : State) (p : Process) (results others : List Process) : Prop where
  clock : s'.clock = s.clock
  listener : s'.listener = s.listener
  source : s.processes.Perm (p :: others)
  target : s'.processes.Perm (results ++ others)

/-- A process makes a step: a shell wakes up or a task runs. -/
inductive Moves (cooldown : Nat) (s : State) (label : Label) (s' : State) : Prop
  | wake (wake : Nat) (others : List Process) (hdue : wake ≤ s.clock)
      (hreplaces : Replaces s s' (.sleeping wake) [.awake .expire] others)
      (hfiles : s'.files = s.files) (hhistory : s'.history = s.history)
  | run (task : Task) (others : List Process) (htask : s.taskAt label = some task)
      (hreplaces : Replaces s s' (.awake task) (s.outcome cooldown task).results others)
      (hfiles : s'.files = (s.outcome cooldown task).files)
      (hhistory : s'.history =
        if (s.outcome cooldown task).starts && label.found then .update s.clock :: s.history
        else s.history)

section Steps

variable {cooldown : Nat} {s s' : State} {label : Label}

theorem replaces_reader {found : Bool} {task : Task} (hreader : s.reader = some task) :
    Replaces s (s.stepReader cooldown found task) (.awake task)
      (s.outcome cooldown task).results s.timers := by
  refine ⟨rfl, rfl, ?_, ?_⟩
  · rw [State.processes, hreader]
    exact List.Perm.refl _
  · rw [State.processes, State.stepReader, State.leave, Outcome.results, List.append_assoc]
    exact List.Perm.append_left _ List.perm_append_comm

theorem perm_timers {index : Nat} {p : Process} (htimer : s.timers[index]? = some p) :
    s.processes.Perm
      (p :: ((s.reader.map Process.awake).toList ++
        (s.timers.take index ++ s.timers.drop (index + 1)))) := by
  have hsplit : s.timers = s.timers.take index ++ p :: s.timers.drop (index + 1) := by
    obtain ⟨hlt, rfl⟩ := List.getElem?_eq_some_iff.mp htimer
    rw [← List.drop_eq_getElem_cons hlt, List.take_append_drop]
  have hmiddle : s.timers.Perm (p :: (s.timers.take index ++ s.timers.drop (index + 1))) := by
    conv_lhs => rw [hsplit]
    exact List.perm_middle
  rw [State.processes]
  exact (List.Perm.append_left _ hmiddle).trans List.perm_middle

theorem moves_of_step (hmove : label.isMove = true) (hstep : s.step cooldown label = some s') :
    Moves cooldown s label s' := by
  cases label with
  | reader found =>
      obtain ⟨task, hreader, rfl⟩ := Option.map_eq_some_iff.mp hstep
      exact .run task s.timers hreader (replaces_reader hreader) rfl rfl
  | timer index found =>
      obtain ⟨p, htimer, hstep⟩ := Option.bind_eq_some_iff.mp hstep
      have hsource := perm_timers htimer
      cases p with
      | sleeping wake =>
          rw [State.stepTimer] at hstep
          split at hstep
          · rename_i hdue
            obtain rfl := Option.some.inj hstep
            refine .wake wake _ hdue ⟨rfl, rfl, hsource, ?_⟩ rfl rfl
            rw [State.processes]
            exact (List.Perm.append_left _ List.perm_middle).trans List.perm_middle
          · cases hstep
      | awake task =>
          obtain rfl := Option.some.inj hstep
          have htask : s.taskAt (.timer index found) = some task := by
            rw [State.taskAt, htimer]
          refine .run task _ htask ⟨rfl, rfl, hsource, ?_⟩ rfl rfl
          rw [List.perm_iff_count]
          intro q
          simp only [State.processes, State.leave, Outcome.results, List.count_append]
          omega
  | event => cases hmove
  | complete => cases hmove
  | tick => cases hmove
  | restart => cases hmove

end Steps

/-! ## Waiting events -/

/-- The events after which no update has started. -/
def waiting : List Happening → List Nat
  | .event time :: earlier => time :: waiting earlier
  | _ => []

/-- An event is followed by an update that starts in time, or waits for one. -/
def FollowedOrWaits (cooldown : Nat) (history : List Happening) : Prop :=
  ∀ later earlier time, history = later ++ .event time :: earlier → .restart ∉ later →
    (∃ start, .update start ∈ later ∧ time ≤ start ∧ start ≤ time + cooldown) ∨
      time ∈ waiting history

section History

variable {cooldown clock : Nat} {history : List Happening}

theorem FollowedOrWaits.event (hhistory : FollowedOrWaits cooldown history) :
    FollowedOrWaits cooldown (.event clock :: history) := by
  intro later earlier time hsplit hrestart
  cases later with
  | nil =>
      obtain ⟨hhead, -⟩ := List.cons.inj hsplit
      obtain rfl := Happening.event.inj hhead
      exact Or.inr List.mem_cons_self
  | cons first later =>
      obtain ⟨-, hrest⟩ := List.cons.inj hsplit
      rcases hhistory later earlier time hrest
        (fun hmem => hrestart (List.mem_cons_of_mem first hmem)) with ⟨start, hstart, hin⟩ | hwaits
      · exact Or.inl ⟨start, List.mem_cons_of_mem first hstart, hin⟩
      · exact Or.inr (List.mem_cons_of_mem clock hwaits)

theorem FollowedOrWaits.update (hhistory : FollowedOrWaits cooldown history)
    (htimely : ∀ time ∈ waiting history, time ≤ clock ∧ clock ≤ time + cooldown) :
    FollowedOrWaits cooldown (.update clock :: history) := by
  intro later earlier time hsplit hrestart
  cases later with
  | nil =>
      obtain ⟨hhead, -⟩ := List.cons.inj hsplit
      cases hhead
  | cons first later =>
      obtain ⟨rfl, hrest⟩ := List.cons.inj hsplit
      rcases hhistory later earlier time hrest
        (fun hmem => hrestart (List.mem_cons_of_mem _ hmem)) with ⟨start, hstart, hin⟩ | hwaits
      · exact Or.inl ⟨start, List.mem_cons_of_mem _ hstart, hin⟩
      · exact Or.inl ⟨clock, List.mem_cons_self, htimely time hwaits⟩

theorem followedOrWaits_restart (cooldown : Nat) (history : List Happening) :
    FollowedOrWaits cooldown (.restart :: history) := by
  intro later earlier time hsplit hrestart
  cases later with
  | nil =>
      obtain ⟨hhead, -⟩ := List.cons.inj hsplit
      cases hhead
  | cons first later =>
      obtain ⟨rfl, -⟩ := List.cons.inj hsplit
      exact absurd List.mem_cons_self hrestart

theorem FollowedOrWaits.followed (hhistory : FollowedOrWaits cooldown history)
    (htimely : ∀ time ∈ waiting history, clock ≤ time + cooldown) :
    Followed cooldown clock history :=
  fun later earlier time hsplit hrestart =>
    (hhistory later earlier time hsplit hrestart).imp_right (htimely time)

end History

/-! ## The invariant -/

/-- An update starts before the second is over. -/
def Task.commits : Task → Bool
  | .removePending _ => true
  | .openLast _ => true
  | .writeLast _ => true
  | .start => true
  | _ => false

/-- The date that a call works with. -/
def Task.date : Task → Option Nat
  | .readLast now => some now
  | .removePending now => some now
  | .openLast now => some now
  | .writeLast now => some now
  | _ => none

def Task.delay : Task → Option Nat
  | .lookPending delay => some delay
  | .writePending delay => some delay
  | .fork delay => some delay
  | _ => none

/-- The time at which a process that defers an update wakes up or is going to. -/
def Process.wakesAt (clock : Nat) : Process → Option Nat
  | .sleeping wake => some wake
  | .awake task => task.delay.map (clock + ·)

/-- A process that is going to remove the mark that is there. -/
def Process.ownsMark : Process → Bool
  | .sleeping _ => true
  | .awake (.fork _) => true
  | .awake .expire => true
  | _ => false

/-- A call commits to an update, or every process that defers one wakes up in time for
the waiting events, which came no earlier than the last update. -/
def Covered (cooldown : Nat) (s : State) : Prop :=
  (∃ task, .awake task ∈ s.processes ∧ task.commits = true) ∨
    ∀ time ∈ waiting s.history,
      (∀ last, s.files.lastUpdate = some last → last ≤ time ∨ s.clock < last) ∧
        ∀ p ∈ s.processes, ∀ wake ∈ p.wakesAt s.clock, wake ≤ time + cooldown

structure Inv (cooldown : Nat) (s : State) : Prop where
  past : ∀ time ∈ waiting s.history, time ≤ s.clock
  timely : ∀ time ∈ waiting s.history, s.clock ≤ time + cooldown
  followed : FollowedOrWaits cooldown s.history
  date : ∀ task, .awake task ∈ s.processes → ∀ now ∈ task.date, now = s.clock
  delay : ∀ task, .awake task ∈ s.processes → ∀ delay ∈ task.delay, 0 < delay
  wakes : ∀ p ∈ s.processes, ∀ wake ∈ p.wakesAt s.clock, wake ≤ s.clock + cooldown
  /-- A date ahead of the clock was there when the listener started. -/
  future : ∀ last, s.files.lastUpdate = some last → s.clock < last →
    ∀ p ∈ s.processes, p.wakesAt s.clock = none
  numbered : ∀ listener, s.files.pendingUpdate = some listener → listener ≤ s.listener
  owned : s.files.pendingUpdate = some s.listener → ∃ p ∈ s.processes, p.ownsMark = true
  served : waiting s.history ≠ [] → s.processes ≠ []
  covered : Covered cooldown s

/-! ## What a task passes on -/

section Tasks

variable {cooldown clock listener : Nat} {files : Files} {task next : Task}

@[simp]
theorem awake_mem_results {outcome : Outcome} :
    .awake next ∈ outcome.results ↔ outcome.next = some next := by
  simp [Outcome.results]

@[simp]
theorem sleeping_mem_results {outcome : Outcome} {wake : Nat} :
    .sleeping wake ∈ outcome.results ↔ outcome.wake = some wake := by
  simp [Outcome.results]

theorem date_of_next (hdate : ∀ now ∈ task.date, now = clock)
    (hnext : (task.run cooldown clock listener files).next = some next) :
    ∀ now ∈ next.date, now = clock := by
  cases task with
  | readLast now =>
      rw [Task.run] at hnext
      split at hnext
      · obtain rfl := Option.some.inj hnext
        exact fun _ h => by cases h
      · obtain rfl := Option.some.inj hnext
        exact hdate
  | lookPending delay =>
      rw [Task.run] at hnext
      split at hnext
      · cases hnext
      · obtain rfl := Option.some.inj hnext
        exact fun _ h => by cases h
  | readDate =>
      obtain rfl := Option.some.inj hnext
      exact fun now h => (Option.some.inj h).symm
  | removePending now =>
      obtain rfl := Option.some.inj hnext
      exact hdate
  | openLast now =>
      obtain rfl := Option.some.inj hnext
      exact hdate
  | expire =>
      obtain rfl := Option.some.inj hnext
      exact fun _ h => by cases h
  | writePending delay =>
      obtain rfl := Option.some.inj hnext
      exact fun _ h => by cases h
  | writeLast now =>
      obtain rfl := Option.some.inj hnext
      exact fun _ h => by cases h
  | fork delay => cases hnext
  | start => cases hnext

/-- The delay of a task that follows: that of the task, or what is left of the cooldown. -/
theorem delay_of_next (hnext : (task.run cooldown clock listener files).next = some next)
    {delay : Nat} (hdelay : delay ∈ next.delay) :
    delay ∈ task.delay ∨ ∃ now, task = .readLast now ∧
      elapsedSince cooldown now (sseReadLastUpdate files) < cooldown ∧
      delay = cooldown - elapsedSince cooldown now (sseReadLastUpdate files) := by
  cases task with
  | readLast now =>
      rw [Task.run] at hnext
      split at hnext
      · rename_i helapsed
        obtain rfl := Option.some.inj hnext
        exact Or.inr ⟨now, rfl, helapsed, (Option.some.inj hdelay).symm⟩
      · obtain rfl := Option.some.inj hnext
        cases hdelay
  | lookPending pending =>
      rw [Task.run] at hnext
      split at hnext
      · cases hnext
      · obtain rfl := Option.some.inj hnext
        exact Or.inl hdelay
  | writePending pending =>
      obtain rfl := Option.some.inj hnext
      exact Or.inl hdelay
  | fork pending => cases hnext
  | start => cases hnext
  | expire | readDate | removePending now | openLast now | writeLast now =>
      obtain rfl := Option.some.inj hnext
      cases hdelay

theorem wake_eq_some_iff {wake : Nat} :
    (task.run cooldown clock listener files).wake = some wake ↔
      ∃ delay, task = .fork delay ∧ wake = clock + delay := by
  cases task with
  | fork delay => simp [Task.run, eq_comm]
  | readLast now =>
      rw [Task.run]
      split
      · simp
      · simp
  | lookPending delay =>
      rw [Task.run]
      split
      · simp
      · simp
  | expire | readDate | writePending delay | removePending now | openLast now | writeLast now
  | start => simp [Task.run]

/-- What a task defers wakes up when the task was going to, or after the cooldown that
it reads. -/
theorem wakesAt_of_results {p : Process} (hp : p ∈ (task.run cooldown clock listener files).results)
    {wake : Nat} (hwake : wake ∈ p.wakesAt clock) :
    wake ∈ (Process.awake task).wakesAt clock ∨ ∃ now, task = .readLast now ∧
      elapsedSince cooldown now (sseReadLastUpdate files) < cooldown ∧
      wake = clock + (cooldown - elapsedSince cooldown now (sseReadLastUpdate files)) := by
  cases p with
  | sleeping time =>
      obtain ⟨delay, rfl, rfl⟩ := wake_eq_some_iff.mp (sleeping_mem_results.mp hp)
      exact Or.inl hwake
  | awake next =>
      obtain ⟨delay, hdelay, rfl⟩ := Option.map_eq_some_iff.mp hwake
      rcases delay_of_next (awake_mem_results.mp hp) hdelay with hsame | ⟨now, htask, hlt, rfl⟩
      · exact Or.inl (Option.map_eq_some_iff.mpr ⟨delay, hsame, rfl⟩)
      · exact Or.inr ⟨now, htask, hlt, rfl⟩

theorem starts_iff : (task.run cooldown clock listener files).starts = true ↔ task = .start := by
  cases task with
  | readLast now =>
      rw [Task.run]
      split
      · simp
      · simp
  | lookPending delay =>
      rw [Task.run]
      split
      · simp
      · simp
  | expire | readDate | writePending delay | fork delay | removePending now | openLast now
  | writeLast now | start => simp [Task.run]

/-- Only a call that commits to an update changes the file of the last update. -/
theorem lastUpdate_of_run {last : Nat}
    (hlast : (task.run cooldown clock listener files).files.lastUpdate = some last) :
    files.lastUpdate = some last ∨ task = .writeLast last := by
  cases task with
  | readLast now =>
      rw [Task.run] at hlast
      split at hlast
      · exact Or.inl hlast
      · exact Or.inl hlast
  | lookPending delay =>
      rw [Task.run] at hlast
      split at hlast
      · exact Or.inl hlast
      · exact Or.inl hlast
  | openLast now => cases hlast
  | writeLast now =>
      obtain rfl := Option.some.inj hlast
      exact Or.inr rfl
  | expire | readDate | writePending delay | fork delay | removePending now | start =>
      exact Or.inl hlast

theorem pendingUpdate_of_run {number : Nat}
    (hpending : (task.run cooldown clock listener files).files.pendingUpdate = some number) :
    (files.pendingUpdate = some number ∧ task ≠ .expire) ∨
      number = listener ∧ ∃ delay, task = .writePending delay := by
  cases task with
  | readLast now =>
      rw [Task.run] at hpending
      split at hpending
      · exact Or.inl ⟨hpending, by simp⟩
      · exact Or.inl ⟨hpending, by simp⟩
  | lookPending delay =>
      rw [Task.run] at hpending
      split at hpending
      · exact Or.inl ⟨hpending, by simp⟩
      · exact Or.inl ⟨hpending, by simp⟩
  | expire => cases hpending
  | removePending now => cases hpending
  | writePending delay => exact Or.inr ⟨(Option.some.inj hpending).symm, delay, rfl⟩
  | readDate | fork delay | openLast now | writeLast now | start =>
      exact Or.inl ⟨hpending, by simp⟩

/-- A call that commits to an update goes on to it. -/
theorem commits_of_run (hcommits : task.commits = true) :
    task = .start ∨ ∃ next, (task.run cooldown clock listener files).next = some next ∧
      next.commits = true := by
  cases task with
  | removePending now => exact Or.inr ⟨_, rfl, rfl⟩
  | openLast now => exact Or.inr ⟨_, rfl, rfl⟩
  | writeLast now => exact Or.inr ⟨_, rfl, rfl⟩
  | start => exact Or.inl rfl
  | expire | readDate | readLast now | lookPending delay | writePending delay | fork delay =>
      cases hcommits

/-- A process ends where it starts an update or finds the mark, and otherwise goes on
or leaves a shell behind. -/
theorem results_eq_nil (hnil : (task.run cooldown clock listener files).results = []) :
    task = .start ∨ (∃ delay, task = .lookPending delay) ∧ files.pendingUpdate.isSome = true := by
  cases task with
  | readLast now =>
      rw [Task.run] at hnil
      split at hnil
      · cases hnil
      · cases hnil
  | lookPending delay =>
      rw [Task.run] at hnil
      split at hnil
      · exact Or.inr ⟨⟨delay, rfl⟩, ‹_›⟩
      · cases hnil
  | start => exact Or.inl rfl
  | expire | readDate | writePending delay | fork delay | removePending now | openLast now
  | writeLast now => cases hnil

end Tasks

/-! ## The invariant is kept -/

section Invariant

variable {cooldown : Nat} {s s' : State} {label : Label}

theorem inv_of_starts (hstarts : Starts s) : Inv cooldown s := by
  have hprocesses : s.processes = [] := by
    rw [State.processes, hstarts.reader, hstarts.timers]
    rfl
  have hwaiting : waiting s.history = [] := by
    rw [hstarts.history]
    rfl
  refine
    { past := by simp [hwaiting]
      timely := by simp [hwaiting]
      followed := ?_
      date := by simp [hprocesses]
      delay := by simp [hprocesses]
      wakes := by simp [hprocesses]
      future := by simp [hprocesses]
      numbered := fun listener hpending => (hstarts.mark listener hpending).le
      owned := fun hpending => absurd (hstarts.mark _ hpending) (lt_irrefl _)
      served := fun hne => absurd hwaiting hne
      covered := Or.inr (by simp [hwaiting]) }
  intro later earlier time hsplit
  rw [hstarts.history] at hsplit
  exact absurd hsplit (by simp)

theorem Inv.event (inv : Inv cooldown s) (hreader : s.reader = none) :
    Inv cooldown { s with reader := some .readDate, history := .event s.clock :: s.history } := by
  have hprocesses : ∀ p, p ∈ State.processes
      { s with reader := some .readDate, history := .event s.clock :: s.history } ↔
        p = .awake .readDate ∨ p ∈ s.processes := by
    intro p
    simp [State.processes, hreader]
  have hwaiting : waiting (.event s.clock :: s.history) = s.clock :: waiting s.history := rfl
  refine
    { past := List.forall_mem_cons.mpr ⟨le_refl _, inv.past⟩
      timely := List.forall_mem_cons.mpr ⟨Nat.le_add_right _ _, inv.timely⟩
      followed := inv.followed.event
      date := ?_
      delay := ?_
      wakes := ?_
      future := ?_
      numbered := inv.numbered
      owned := ?_
      served := fun _ hnil => ?_
      covered := ?_ }
  · intro task htask
    rcases (hprocesses _).mp htask with hnew | hold
    · obtain rfl := Process.awake.inj hnew
      exact fun _ h => by cases h
    · exact inv.date task hold
  · intro task htask
    rcases (hprocesses _).mp htask with hnew | hold
    · obtain rfl := Process.awake.inj hnew
      exact fun _ h => by cases h
    · exact inv.delay task hold
  · intro p hp
    rcases (hprocesses _).mp hp with rfl | hold
    · exact fun _ h => by cases h
    · exact inv.wakes p hold
  · intro last hlast hfuture p hp
    rcases (hprocesses _).mp hp with rfl | hold
    · rfl
    · exact inv.future last hlast hfuture p hold
  · intro hpending
    obtain ⟨p, hp, howns⟩ := inv.owned hpending
    exact ⟨p, (hprocesses p).mpr (Or.inr hp), howns⟩
  · have hmem := (hprocesses (.awake .readDate)).mpr (Or.inl rfl)
    rw [hnil] at hmem
    cases hmem
  · rcases inv.covered with ⟨task, htask, hcommits⟩ | hcovered
    · exact Or.inl ⟨task, (hprocesses _).mpr (Or.inr htask), hcommits⟩
    · right
      have hwakes : ∀ time, s.clock ≤ time → ∀ p ∈ s.processes, ∀ wake ∈ p.wakesAt s.clock,
          wake ≤ time + cooldown := fun time hle p hp wake hwake =>
        (inv.wakes p hp wake hwake).trans (Nat.add_le_add_right hle cooldown)
      intro time htime
      rcases List.mem_cons.mp htime with rfl | htime
      · refine ⟨fun last _ => (Nat.lt_or_ge s.clock last).symm, fun p hp => ?_⟩
        rcases (hprocesses _).mp hp with rfl | hold
        · exact fun _ h => by cases h
        · exact hwakes s.clock (le_refl _) p hold
      · refine ⟨(hcovered time htime).1, fun p hp => ?_⟩
        rcases (hprocesses _).mp hp with rfl | hold
        · exact fun _ h => by cases h
        · exact (hcovered time htime).2 p hold

theorem wakesAt_of_isAsleep {p : Process} {clock : Nat} (hasleep : p.isAsleep clock = true) :
    ∃ wake, p = .sleeping wake ∧ clock < wake := by
  cases p with
  | sleeping wake => exact ⟨wake, rfl, by simpa [Process.isAsleep] using hasleep⟩
  | awake task => cases hasleep

variable {others : List Process}

section

variable (inv : Inv cooldown s)
include inv

/-- A second passes in time for the events that wait: a shell sleeps, and it wakes up
before their cooldown is over. -/
theorem Inv.tick (hasleep : s.processes.all (Process.isAsleep s.clock) = true) :
    Inv cooldown { s with clock := s.clock + 1 } := by
  have hsleeping : ∀ p ∈ s.processes, ∃ wake, p = .sleeping wake ∧ s.clock < wake := fun p hp =>
    wakesAt_of_isAsleep (List.all_eq_true.mp hasleep p hp)
  have hawake : ∀ task, .awake task ∉ s.processes := by
    intro task htask
    obtain ⟨wake, hwake, -⟩ := hsleeping _ htask
    cases hwake
  have hsame : ∀ p ∈ s.processes, p.wakesAt (s.clock + 1) = p.wakesAt s.clock := by
    intro p hp
    obtain ⟨wake, rfl, -⟩ := hsleeping p hp
    rfl
  have hcovered := inv.covered.resolve_left fun hcommits => by
    obtain ⟨task, htask, -⟩ := hcommits
    exact hawake task htask
  have hshell : ∀ time ∈ waiting s.history, ∃ wake, .sleeping wake ∈ s.processes ∧ s.clock < wake := by
    intro time htime
    obtain ⟨p, hp⟩ := List.exists_mem_of_ne_nil _ (inv.served (List.ne_nil_of_mem htime))
    obtain ⟨wake, rfl, hwake⟩ := hsleeping p hp
    exact ⟨wake, hp, hwake⟩
  refine
    { past := fun time htime => (inv.past time htime).trans (Nat.le_succ _)
      timely := ?_
      followed := inv.followed
      date := fun task htask => absurd htask (hawake task)
      delay := fun task htask => absurd htask (hawake task)
      wakes := ?_
      future := ?_
      numbered := inv.numbered
      owned := inv.owned
      served := inv.served
      covered := Or.inr fun time htime => ⟨?_, ?_⟩ }
  · intro time htime
    obtain ⟨wake, hwake, hlater⟩ := hshell time htime
    exact hlater.trans_le ((hcovered time htime).2 _ hwake wake rfl)
  · intro p hp wake hwake
    rw [hsame p hp] at hwake
    exact (inv.wakes p hp wake hwake).trans (Nat.add_le_add_right (Nat.le_succ _) cooldown)
  · intro last hlast hfuture p hp
    rw [hsame p hp]
    exact inv.future last hlast ((Nat.le_succ _).trans_lt hfuture) p hp
  · intro last hlast
    refine ((hcovered time htime).1 last hlast).imp_right fun hfuture => ?_
    obtain ⟨wake, hwake, -⟩ := hshell time htime
    cases inv.future last hlast hfuture _ hwake
  · intro p hp wake hwake
    rw [hsame p hp] at hwake
    exact (hcovered time htime).2 p hp wake hwake

theorem Inv.complete : Inv cooldown { s with running := s.running - 1 } :=
  { inv with }

theorem Inv.restart :
    Inv cooldown
      { s with
        listener := s.listener + 1, reader := none, timers := [], running := 0
        history := .restart :: s.history } where
  past _ h := absurd h List.not_mem_nil
  timely _ h := absurd h List.not_mem_nil
  followed := followedOrWaits_restart cooldown s.history
  date _ h := absurd h List.not_mem_nil
  delay _ h := absurd h List.not_mem_nil
  wakes _ h := absurd h List.not_mem_nil
  future _ _ _ _ h := absurd h List.not_mem_nil
  numbered listener hpending := (inv.numbered listener hpending).trans (Nat.le_succ _)
  owned hpending := absurd (inv.numbered _ hpending) (Nat.not_succ_le_self _)
  served h := absurd rfl h
  covered := Or.inr fun _ h => absurd h List.not_mem_nil

/-- A shell that wakes up stands for the same events. -/
theorem Inv.wake {wake : Nat} (hreplaces : Replaces s s' (.sleeping wake) [.awake .expire] others)
    (hfiles : s'.files = s.files) (hhistory : s'.history = s.history) : Inv cooldown s' := by
  obtain ⟨hclock, hlistener, hsource, htarget⟩ := hreplaces
  have hnew : ∀ p ∈ s'.processes, p = .awake .expire ∨ p ∈ s.processes := fun p hp =>
    (List.mem_cons.mp (htarget.mem_iff.mp hp)).imp_right fun h =>
      hsource.mem_iff.mpr (List.mem_cons_of_mem _ h)
  have hkept : ∀ p ∈ s.processes, p = .sleeping wake ∨ p ∈ s'.processes := fun p hp =>
    (List.mem_cons.mp (hsource.mem_iff.mp hp)).imp_right fun h =>
      htarget.mem_iff.mpr (List.mem_cons_of_mem _ h)
  have hexpire : .awake .expire ∈ s'.processes := htarget.mem_iff.mpr List.mem_cons_self
  refine
    { past := ?_, timely := ?_, followed := ?_, date := ?_, delay := ?_, wakes := ?_, future := ?_
      numbered := ?_, owned := ?_, served := fun _ => List.ne_nil_of_mem hexpire, covered := ?_ }
  · rw [hhistory, hclock]
    exact inv.past
  · rw [hhistory, hclock]
    exact inv.timely
  · rw [hhistory]
    exact inv.followed
  · rw [hclock]
    intro task htask
    rcases hnew _ htask with heq | hold
    · obtain rfl := Process.awake.inj heq
      exact fun _ h => by cases h
    · exact inv.date task hold
  · intro task htask
    rcases hnew _ htask with heq | hold
    · obtain rfl := Process.awake.inj heq
      exact fun _ h => by cases h
    · exact inv.delay task hold
  · rw [hclock]
    intro p hp
    rcases hnew p hp with rfl | hold
    · exact fun _ h => by cases h
    · exact inv.wakes p hold
  · rw [hfiles, hclock]
    intro last hlast hfuture p hp
    rcases hnew p hp with rfl | hold
    · rfl
    · exact inv.future last hlast hfuture p hold
  · rw [hfiles, hlistener]
    exact inv.numbered
  · rw [hfiles, hlistener]
    intro hpending
    obtain ⟨p, hp, howns⟩ := inv.owned hpending
    rcases hkept p hp with rfl | hp
    · exact ⟨_, hexpire, rfl⟩
    · exact ⟨p, hp, howns⟩
  · rw [Covered, hhistory, hfiles, hclock]
    refine inv.covered.imp ?_ fun hcovered time htime =>
      ⟨(hcovered time htime).1, fun p hp => ?_⟩
    · rintro ⟨task, htask, hcommits⟩
      exact ⟨task, (hkept _ htask).resolve_left (by simp), hcommits⟩
    · rcases hnew p hp with rfl | hold
      · exact fun _ h => by cases h
      · exact (hcovered time htime).2 p hold

end

/-- What a call defers by the cooldown that it reads wakes up a cooldown after the last
update. -/
theorem wake_of_readLast {now wake clock : Nat} {files : Files} (hnow : now = clock)
    (helapsed : elapsedSince cooldown now (sseReadLastUpdate files) < cooldown)
    (hwake : wake = clock + (cooldown - elapsedSince cooldown now (sseReadLastUpdate files))) :
    sseReadLastUpdate files ≤ clock ∧ wake = sseReadLastUpdate files + cooldown := by
  unfold elapsedSince at helapsed hwake
  split at helapsed
  · omega
  · rename_i hpast
    rw [if_neg hpast] at hwake
    omega

section Run

variable {task : Task} {others : List Process} (inv : Inv cooldown s)
  (hreplaces : Replaces s s' (.awake task) (s.outcome cooldown task).results others)

include hreplaces

theorem Replaces.self_mem : .awake task ∈ s.processes :=
  hreplaces.source.mem_iff.mpr List.mem_cons_self

variable {p : Process}

theorem Replaces.mem_target :
    p ∈ s'.processes ↔ p ∈ (s.outcome cooldown task).results ∨ p ∈ others := by
  rw [hreplaces.target.mem_iff, List.mem_append]

theorem Replaces.mem_source : p ∈ s.processes ↔ p = .awake task ∨ p ∈ others := by
  rw [hreplaces.source.mem_iff, List.mem_cons]

theorem Replaces.of_others (hp : p ∈ others) : p ∈ s.processes :=
  hreplaces.mem_source.mpr (Or.inr hp)

include inv

theorem Inv.run_wakes : ∀ p ∈ s'.processes, ∀ wake ∈ p.wakesAt s.clock,
    wake ≤ s.clock + cooldown := by
  intro p hp wake hwake
  rcases hreplaces.mem_target.mp hp with hnew | hold
  · rcases wakesAt_of_results hnew hwake with hsame | ⟨now, rfl, helapsed, hequal⟩
    · exact inv.wakes _ hreplaces.self_mem wake hsame
    · have hnow := inv.date _ hreplaces.self_mem now rfl
      have hlast := wake_of_readLast hnow helapsed hequal
      omega
  · exact inv.wakes p (hreplaces.of_others hold) wake hwake

/-- A date ahead of the clock makes every call commit to an update. -/
theorem Inv.run_future {last : Nat} (hlast : (s.outcome cooldown task).files.lastUpdate = some last)
    (hfuture : s.clock < last) : ∀ p ∈ s'.processes, p.wakesAt s.clock = none := by
  have hbefore : s.files.lastUpdate = some last := by
    rcases lastUpdate_of_run hlast with hsame | rfl
    · exact hsame
    · have hnow := inv.date _ hreplaces.self_mem last rfl
      omega
  intro p hp
  rcases hreplaces.mem_target.mp hp with hnew | hold
  · rw [Option.eq_none_iff_forall_not_mem]
    intro wake hwake
    rcases wakesAt_of_results hnew hwake with hsame | ⟨now, rfl, helapsed, hequal⟩
    · rw [inv.future last hbefore hfuture _ hreplaces.self_mem] at hsame
      cases hsame
    · have hnow := inv.date _ hreplaces.self_mem now rfl
      have hread := (wake_of_readLast hnow helapsed hequal).1
      rw [sseReadLastUpdate, hbefore, Option.getD_some] at hread
      omega
  · exact inv.future last hbefore hfuture p (hreplaces.of_others hold)

theorem Inv.run_owned (hpending : (s.outcome cooldown task).files.pendingUpdate = some s.listener) :
    ∃ p ∈ s'.processes, p.ownsMark = true := by
  rcases pendingUpdate_of_run hpending with ⟨hbefore, hexpire⟩ | ⟨-, delay, rfl⟩
  · obtain ⟨p, hp, howns⟩ := inv.owned hbefore
    rcases hreplaces.mem_source.mp hp with rfl | hold
    · cases task with
      | fork delay =>
          exact ⟨.sleeping (s.clock + delay), hreplaces.mem_target.mpr (Or.inl
            (sleeping_mem_results.mpr rfl)), rfl⟩
      | expire => exact absurd rfl hexpire
      | readDate | readLast now | lookPending delay | writePending delay | removePending now
      | openLast now | writeLast now | start => cases howns
    · exact ⟨p, hreplaces.mem_target.mpr (Or.inr hold), howns⟩
  · exact ⟨.awake (.fork delay), hreplaces.mem_target.mpr (Or.inl (awake_mem_results.mpr rfl)), rfl⟩

/-- Where a process ends without an update, the owner of the mark remains. -/
theorem Inv.run_served (hsound : sound s label = true) (htask : s.taskAt label = some task)
    (hstart : task ≠ .start) : s'.processes ≠ [] := by
  intro hnil
  have htarget := hreplaces.target
  rw [hnil, List.nil_perm, List.append_eq_nil_iff] at htarget
  rcases results_eq_nil htarget.1 with hupdate | ⟨⟨delay, rfl⟩, hmarked⟩
  · exact hstart hupdate
  · obtain ⟨number, hpending⟩ := Option.isSome_iff_exists.mp hmarked
    rw [sound, htask] at hsound
    have hnumber : number = s.listener := by simpa [hpending] using hsound
    obtain ⟨p, hp, howns⟩ := inv.owned (hnumber ▸ hpending)
    rcases hreplaces.mem_source.mp hp with rfl | hold
    · cases howns
    · rw [htarget.2] at hold
      cases hold

/-- A call commits to an update or defers it in time for the events that wait. -/
theorem Inv.run_covered (hfiles : s'.files = (s.outcome cooldown task).files)
    (hhistory : s'.history = s.history) (hstart : task ≠ .start) : Covered cooldown s' := by
  rw [Covered, hhistory, hfiles, hreplaces.clock]
  by_cases hcommits : task.commits = true
  · rcases commits_of_run hcommits with hupdate | ⟨next, hnext, hagain⟩
    · exact absurd hupdate hstart
    · exact Or.inl ⟨next, hreplaces.mem_target.mpr (Or.inl (awake_mem_results.mpr hnext)), hagain⟩
  rcases inv.covered with ⟨other, hother, hothers⟩ | hcovered
  · rcases hreplaces.mem_source.mp hother with heq | hold
    · obtain rfl := Process.awake.inj heq
      exact absurd hothers hcommits
    · exact Or.inl ⟨other, hreplaces.mem_target.mpr (Or.inr hold), hothers⟩
  right
  intro time htime
  obtain ⟨hlast, hwakes⟩ := hcovered time htime
  refine ⟨fun last hread => ?_, fun p hp wake hwake => ?_⟩
  · rcases lastUpdate_of_run hread with hsame | rfl
    · exact hlast last hsame
    · exact absurd rfl hcommits
  · rcases hreplaces.mem_target.mp hp with hnew | hold
    · rcases wakesAt_of_results hnew hwake with hsame | ⟨now, rfl, helapsed, hequal⟩
      · exact hwakes _ hreplaces.self_mem wake hsame
      · have hnow := inv.date _ hreplaces.self_mem now rfl
        obtain ⟨hpast, hequal⟩ := wake_of_readLast hnow helapsed hequal
        have hbefore : sseReadLastUpdate s.files ≤ time := by
          cases hdate : s.files.lastUpdate with
          | none => simp [sseReadLastUpdate, hdate]
          | some last =>
              have hcases := hlast last hdate
              rw [sseReadLastUpdate, hdate, Option.getD_some] at hpast ⊢
              omega
        omega
    · exact hwakes p (hreplaces.of_others hold) wake hwake

theorem Inv.run (hsound : sound s label = true) (htask : s.taskAt label = some task)
    (hfiles : s'.files = (s.outcome cooldown task).files)
    (hhistory : s'.history =
      if (s.outcome cooldown task).starts && label.found then .update s.clock :: s.history
      else s.history) : Inv cooldown s' := by
  have hself := hreplaces.self_mem
  have hdate : ∀ next, .awake next ∈ s'.processes → ∀ now ∈ next.date, now = s.clock := by
    intro next hnext
    rcases hreplaces.mem_target.mp hnext with hnew | hold
    · exact date_of_next (inv.date task hself) (awake_mem_results.mp hnew)
    · exact inv.date next (hreplaces.of_others hold)
  have hdelay : ∀ next, .awake next ∈ s'.processes → ∀ delay ∈ next.delay, 0 < delay := by
    intro next hnext delay hdelay
    rcases hreplaces.mem_target.mp hnext with hnew | hold
    · rcases delay_of_next (awake_mem_results.mp hnew) hdelay with hsame | ⟨now, -, helapsed, rfl⟩
      · exact inv.delay task hself delay hsame
      · omega
    · exact inv.delay next (hreplaces.of_others hold) delay hdelay
  have hnumbered : ∀ number, (s.outcome cooldown task).files.pendingUpdate = some number →
      number ≤ s.listener := by
    intro number hpending
    rcases pendingUpdate_of_run hpending with ⟨hbefore, -⟩ | ⟨rfl, -⟩
    · exact inv.numbered number hbefore
    · exact le_refl _
  have hwakes := inv.run_wakes hreplaces
  have hfuture : ∀ last, (s.outcome cooldown task).files.lastUpdate = some last →
      s.clock < last → ∀ p ∈ s'.processes, p.wakesAt s.clock = none := fun _ =>
    inv.run_future hreplaces
  have howned := inv.run_owned hreplaces
  have hserved := inv.run_served hreplaces hsound htask
  have hcovered := inv.run_covered hreplaces hfiles
  have hfollowed : FollowedOrWaits cooldown s'.history := by
    rw [hhistory]
    split
    · exact inv.followed.update fun time htime => ⟨inv.past time htime, inv.timely time htime⟩
    · exact inv.followed
  by_cases hstart : task = .start
  · have hwaiting : waiting s'.history = [] := by
      have hfound : label.found = true := by
        rw [sound, htask, hstart] at hsound
        exact hsound
      have hstarts : (s.outcome cooldown task).starts = true := starts_iff.mpr hstart
      rw [hhistory, hstarts, hfound, Bool.true_and, if_pos rfl]
      rfl
    exact
      { past := by simp [hwaiting]
        timely := by simp [hwaiting]
        followed := hfollowed
        date := by rwa [hreplaces.clock]
        delay := hdelay
        wakes := by rwa [hreplaces.clock]
        future := by rwa [hfiles, hreplaces.clock]
        numbered := by rwa [hfiles, hreplaces.listener]
        owned := by rwa [hfiles, hreplaces.listener]
        served := fun hne => absurd hwaiting hne
        covered := Or.inr (by simp [hwaiting]) }
  · have hsame : s'.history = s.history := by
      rw [hhistory, if_neg]
      rw [Bool.and_eq_true]
      exact fun h => hstart (starts_iff.mp h.1)
    exact
      { past := by rw [hsame, hreplaces.clock]; exact inv.past
        timely := by rw [hsame, hreplaces.clock]; exact inv.timely
        followed := hfollowed
        date := by rwa [hreplaces.clock]
        delay := hdelay
        wakes := by rwa [hreplaces.clock]
        future := by rwa [hfiles, hreplaces.clock]
        numbered := by rwa [hfiles, hreplaces.listener]
        owned := by rwa [hfiles, hreplaces.listener]
        served := fun _ => hserved hstart
        covered := hcovered hsame hstart }

end Run

/-- Every step that meets the condition keeps the invariant. -/
theorem Inv.step (inv : Inv cooldown s) (hsound : sound s label = true)
    (hstep : s.step cooldown label = some s') : Inv cooldown s' := by
  have hprocess : label.isMove = true → Inv cooldown s' := by
    intro hmove
    cases moves_of_step hmove hstep with
    | wake wake others _ hreplaces hfiles hhistory => exact inv.wake hreplaces hfiles hhistory
    | run task others htask hreplaces hfiles hhistory =>
        exact inv.run hreplaces hsound htask hfiles hhistory
  cases label with
  | reader found => exact hprocess rfl
  | timer index found => exact hprocess rfl
  | event =>
      rw [State.step] at hstep
      split at hstep
      · exact Option.some.inj hstep ▸ inv.event ‹_›
      · cases hstep
  | complete =>
      rw [State.step] at hstep
      split at hstep
      · exact Option.some.inj hstep ▸ inv.complete
      · cases hstep
  | tick =>
      rw [State.step] at hstep
      split at hstep
      · exact Option.some.inj hstep ▸ inv.tick ‹_›
      · cases hstep
  | restart => exact Option.some.inj hstep ▸ inv.restart

theorem inv_of_reachable
    (hreach : (system cooldown).ReachableBy (fun s label => sound s label = true) s) :
    Inv cooldown s :=
  hreach.invariant (fun _ hstarts => inv_of_starts hstarts)
    fun _ _ _ inv hsound hstep => inv.step hsound hstep

theorem goesOn (cooldown : Nat) (s : State) : (s.step cooldown .tick).isSome = true ∨
    ∃ label, label.isMove = true ∧ (s.step cooldown label).isSome = true := by
  by_cases hasleep : s.processes.all (Process.isAsleep s.clock) = true
  · left
    rw [State.step, if_pos hasleep]
    rfl
  · right
    rw [List.all_eq_true, not_forall] at hasleep
    obtain ⟨p, hp⟩ := hasleep
    rw [Classical.not_imp] at hp
    obtain ⟨hp, hawake⟩ := hp
    rcases List.mem_append.mp hp with hreader | htimer
    · obtain ⟨task, htask, rfl⟩ := Option.map_eq_some_iff.mp (Option.mem_toList.mp hreader)
      refine ⟨.reader true, rfl, ?_⟩
      rw [State.step, htask]
      rfl
    · obtain ⟨index, htimer⟩ := List.mem_iff_getElem?.mp htimer
      refine ⟨.timer index true, rfl, ?_⟩
      rw [State.step, htimer, Option.bind_some]
      cases p with
      | sleeping wake =>
          have hdue : wake ≤ s.clock := by simpa [Process.isAsleep] using hawake
          rw [State.stepTimer, if_pos hdue]
          rfl
      | awake task => rfl

/-- A task leaves less to do in this second than it was. -/
theorem work_of_results {cooldown clock listener : Nat} {files : Files} {task : Task}
    (hdelay : ∀ delay ∈ task.delay, 0 < delay) :
    ((task.run cooldown clock listener files).results.map (Process.work clock)).sum < task.work := by
  cases task with
  | readLast now =>
      rw [Task.run]
      split
      · exact (by decide : 3 < 5)
      · exact (by decide : 4 < 5)
  | lookPending delay =>
      rw [Task.run]
      split
      · exact (by decide : 0 < 3)
      · exact (by decide : 2 < 3)
  | fork delay =>
      have hpos : 0 < delay := hdelay delay rfl
      have hlater : ¬ clock + delay ≤ clock := by omega
      simp [Task.run, Outcome.results, Process.work, Task.work, hlater]
  | expire | readDate | writePending delay | removePending now | openLast now | writeLast now
  | start => simp [Task.run, Outcome.results, Process.work, Task.work]

theorem Replaces.work_lt {p : Process} {results : List Process}
    (hreplaces : Replaces s s' p results others)
    (hresults : (results.map (Process.work s.clock)).sum < p.work s.clock) : s'.work < s.work := by
  have hsource := (hreplaces.source.map (Process.work s.clock)).sum_nat
  have htarget := (hreplaces.target.map (Process.work s.clock)).sum_nat
  rw [List.map_cons, List.sum_cons] at hsource
  rw [List.map_append, List.sum_append] at htarget
  rw [State.work, State.work, hreplaces.clock]
  omega

theorem Inv.settles (inv : Inv cooldown s) (hmove : label.isMove = true)
    (hstep : s.step cooldown label = some s') : s'.work < s.work := by
  cases moves_of_step hmove hstep with
  | wake wake others hdue hreplaces _ _ =>
      refine hreplaces.work_lt ?_
      simp [Process.work, Task.work, hdue]
  | run task others _ hreplaces _ _ =>
      exact hreplaces.work_lt (work_of_results (inv.delay task hreplaces.self_mem))

/-- In every run in which the command of the update is there, and no call in the
cooldown finds a mark that a killed listener left, every event is followed by an update
that starts in the cooldown after it, unless the listener is restarted before. -/
theorem keepsUp (cooldown : Nat)
    (hreach : (system cooldown).ReachableBy (fun s label => sound s label = true) s) :
    KeepsUp cooldown s :=
  have inv := inv_of_reachable hreach
  { followed := inv.followed.followed inv.timely
    goesOn := goesOn cooldown s
    settles := fun _ _ => inv.settles }

end Invariant

/-! ## Runs -/

/-- A machine on which no listener has run yet. -/
def fresh : State where
  clock := 100
  listener := 0
  files := { lastUpdate := none, pendingUpdate := none }
  reader := none
  timers := []
  running := 0
  history := []

theorem starts_fresh : Starts fresh := ⟨rfl, rfl, rfl, fun _ h => by cases h⟩

/-- Two events in one second: an update, and a mark for the second event. -/
def twoEvents : List Label :=
  .event :: List.replicate 6 (.reader true) ++ .event :: List.replicate 5 (.reader true)

/-- The deferred update starts at the end of the cooldown. -/
def deferredUpdate : List Label :=
  twoEvents ++ List.replicate 10 .tick ++ List.replicate 8 (.timer 0 true)

/-- Where the run with the deferred update ends. -/
def caughtUp : State where
  clock := 110
  listener := 0
  files := { lastUpdate := some 110, pendingUpdate := none }
  reader := none
  timers := []
  running := 2
  history := [.update 110, .event 100, .update 100, .event 100]

theorem keepsUp_caughtUp : KeepsUp 10 caughtUp :=
  keepsUp 10 (reachableBy_runBy deferredUpdate (.start starts_fresh) (by decide))

/-- The listener is restarted after a second and reads one more event in the cooldown. -/
def strandedEvent : List Label :=
  twoEvents ++ .tick :: .restart :: .event :: List.replicate 3 (.reader true) ++
    List.replicate 11 .tick

/-- Where that run ends. -/
def stranded : State where
  clock := 112
  listener := 1
  files := { lastUpdate := some 100, pendingUpdate := some 0 }
  reader := none
  timers := []
  running := 0
  history := [.event 101, .restart, .event 100, .update 100, .event 100]

/-- The event finds the mark of the listener that was killed and is not followed by an
update. -/
theorem stranded_not_followed :
    (system (sseUpdateCooldown none)).Reachable stranded ∧
      ¬ Followed (sseUpdateCooldown none) stranded.clock stranded.history := by
  have hcooldown : sseUpdateCooldown none = 10 := rfl
  have hrun : runBy (fun _ _ => true) (State.step 10) fresh strandedEvent = some stranded := by
    decide
  rw [hcooldown]
  refine ⟨(reachableBy_runBy strandedEvent (.start starts_fresh) hrun).reachable,
    fun hfollowed => ?_⟩
  rcases hfollowed [] _ 101 rfl List.not_mem_nil with ⟨start, hstart, -⟩ | hclock
  · cases hstart
  · exact absurd hclock (by decide)

end OpenPath.Linux.Sse
