/-
# The lock of the Acrylic policy state

A call takes the mutex of the machine and runs its action. Where the mutex is denied
it takes a lock file instead, in the first directory that lets it. Any number of
processes do so at the same time, step by step; each may be denied any of the locks,
and may be killed at any moment.

The handlers cannot tell an error of the action from one of the lock: an action that
fails under a lock file is run again under the next one, and so is one that fails
under the mutex with an error that reads like a denied access. Nor do the locks know
of each other. Where no action fails so, and no call takes a lock while another holds
a different one, every action runs at most once, and on its own.
-/

import OpenPath.Foundation.Concurrency
import OpenPath.Text.DotNet

namespace OpenPath.Windows.AcrylicPolicyLock

open Foundation (Interleaved TransitionSystem)

/-- An exception: its message, and whether it or the one inside it is an
`UnauthorizedAccessException`. -/
structure Failure where
  message : Text
  unauthorized : Bool := false
  innerUnauthorized : Bool := false
  deriving DecidableEq

/-- `(?i)(access.*denied|acceso denegado|UnauthorizedAccessException)` -/
def readsDenied (message : Text) : Bool :=
  ((DotNet.toLowerInvariant message).splitOn '\n').any fun line =>
    line.tails.any (fun rest =>
      "access".toList.isPrefixOf rest && JavaScript.includes (rest.drop 6) "denied".toList) ||
      JavaScript.includes line "acceso denegado".toList ||
      JavaScript.includes line "unauthorizedaccessexception".toList

/-- The test of the handler. -/
def isUnauthorizedAccessException (failure : Failure) : Bool :=
  failure.unauthorized || failure.innerUnauthorized || readsDenied failure.message

/-- What a call depends on: its mutex, and the directories of its process. -/
structure Caller where
  mutexName : Text
  programData : Text
  tempPath : Text
  deriving DecidableEq

/-- `Join-Path directory name` -/
def joinPath (directory name : Text) : Text :=
  if directory.getLast? = some '\\' then directory ++ name else directory ++ '\\' :: name

def lockDirectories (caller : Caller) : List Text :=
  ((if DotNet.trim caller.programData = [] then []
    else [joinPath caller.programData "OpenPath".toList]) ++
    [joinPath caller.tempPath "OpenPath".toList]).eraseDups

def lockPath (directory : Text) : Text :=
  joinPath directory "OpenPathPolicyStateLock.fallback.lock".toList

/-- The locks: a name stands for its mutex, a path for its file. -/
inductive Lock
  | mutex (name : Text)
  | file (path : Text)
  deriving DecidableEq

/-- The locks that are taken. -/
structure Machine where
  taken : List Lock

/-- A call so far: whether it owns the mutex, how often it has run its action, and the
errors that the action has raised. -/
structure Progress where
  caller : Caller
  lockAcquired : Bool := false
  runs : Nat := 0
  raised : List Failure := []

/-- The loop over the directories. -/
structure Fallback where
  lockDirectory : Text
  remaining : List Text

/-- How far a call has come. -/
inductive Phase
  | idle
  | creatingMutex (progress : Progress)
  | waiting (progress : Progress)
  | running (progress : Progress) (under : Option Fallback)
  | handling (progress : Progress) (failure : Failure)
  | preparing (progress : Progress) (fallback : Fallback)
  | opening (progress : Progress) (fallback : Fallback)
  | stamping (progress : Progress) (fallback : Fallback)
  | disposing (progress : Progress) (fallback : Fallback) (failure : Option Failure)
  | releasing (progress : Progress) (failure : Option Failure)
  | ended (progress : Progress) (failure : Option Failure)
  | killed

/-- What happens next in a call. Which locks are denied, and what fails, comes from
outside. -/
inductive Event
  | invoke (caller : Caller)
  | created
  | createFailed (failure : Failure)
  | acquired
  | waitTimedOut
  | waitFailed (failure : Failure)
  | actionReturned
  | actionRaised (failure : Failure)
  | handled
  | prepared
  | prepareFailed (failure : Failure)
  | opened
  | openRetried
  | openTimedOut
  | openFailed (failure : Failure)
  | stamped
  | stampFailed (failure : Failure)
  | disposed
  | released
  | kill

def timedOut (name : Text) : Failure where
  message := "Timed out waiting for ".toList ++ name

def lockTimedOut (path : Text) : Failure where
  message := "Timed out waiting for Acrylic fallback policy lock at ".toList ++ path

/-- The locks that a call holds. -/
def Progress.holds (progress : Progress) : List Lock :=
  if progress.lockAcquired then [.mutex progress.caller.mutexName] else []

def Fallback.lock (fallback : Fallback) : Lock := .file (lockPath fallback.lockDirectory)

def Phase.holds : Phase → List Lock
  | .creatingMutex progress => progress.holds
  | .waiting progress => progress.holds
  | .running progress none => progress.holds
  | .running progress (some fallback) => fallback.lock :: progress.holds
  | .handling progress _ => progress.holds
  | .preparing progress _ => progress.holds
  | .opening progress _ => progress.holds
  | .stamping progress fallback => fallback.lock :: progress.holds
  | .disposing progress fallback _ => fallback.lock :: progress.holds
  | .releasing progress _ => progress.holds
  | _ => []

/-- `& $Action` -/
def run (progress : Progress) (under : Option Fallback) : Phase :=
  .running { progress with runs := progress.runs + 1 } under

/-- An error that the action has raised. -/
def Progress.fails (progress : Progress) (failure : Failure) : Progress :=
  { progress with raised := progress.raised ++ [failure] }

/-- The `catch` of the loop: the next directory, or the last error where there is none. -/
def nextDirectory (progress : Progress) (failure : Failure) : List Text → Phase
  | [] => .releasing progress (some failure)
  | lockDirectory :: remaining => .preparing progress { lockDirectory, remaining }

/-- The loop over the directories, of which the one of temporary files is always
there. -/
def invokeFallback (progress : Progress) : List Text → Phase
  | [] => .releasing progress (some { message := "Acrylic fallback policy lock unavailable".toList })
  | lockDirectory :: remaining => .preparing progress { lockDirectory, remaining }

/-- The `catch` of the call: an error that reads like a denied access leads to the
lock files, any other one is thrown again. -/
def handle (progress : Progress) (failure : Failure) : Phase :=
  if isUnauthorizedAccessException failure then
    invokeFallback progress (lockDirectories progress.caller)
  else .releasing progress (some failure)

/-- A lock is taken where it is free. -/
def take (lock : Lock) (machine : Machine) : Option Machine :=
  if lock ∈ machine.taken then none else some { taken := lock :: machine.taken }

def release (locks : List Lock) (machine : Machine) : Machine where
  taken := machine.taken.filter (· ∉ locks)

/-- One step of a call. -/
def step : Event → Machine → Phase → Option (Machine × Phase)
  | .invoke caller, machine, .idle => some (machine, .creatingMutex { caller })
  | .created, machine, .creatingMutex progress => some (machine, .waiting progress)
  | .createFailed failure, machine, .creatingMutex progress =>
      some (machine, .handling progress failure)
  | .acquired, machine, .waiting progress =>
      (take (.mutex progress.caller.mutexName) machine).map fun machine =>
        (machine, run { progress with lockAcquired := true } none)
  | .waitTimedOut, machine, .waiting progress =>
      some (machine, .handling progress (timedOut progress.caller.mutexName))
  | .waitFailed failure, machine, .waiting progress => some (machine, .handling progress failure)
  | .actionReturned, machine, .running progress none => some (machine, .releasing progress none)
  | .actionRaised failure, machine, .running progress none =>
      some (machine, .handling (progress.fails failure) failure)
  | .actionReturned, machine, .running progress (some fallback) =>
      some (machine, .disposing progress fallback none)
  | .actionRaised failure, machine, .running progress (some fallback) =>
      some (machine, .disposing (progress.fails failure) fallback (some failure))
  | .handled, machine, .handling progress failure => some (machine, handle progress failure)
  | .prepared, machine, .preparing progress fallback => some (machine, .opening progress fallback)
  | .prepareFailed failure, machine, .preparing progress fallback =>
      some (machine, nextDirectory progress failure fallback.remaining)
  | .opened, machine, .opening progress fallback =>
      (take fallback.lock machine).map fun machine => (machine, .stamping progress fallback)
  | .openRetried, machine, .opening progress fallback => some (machine, .opening progress fallback)
  | .openTimedOut, machine, .opening progress fallback =>
      some (machine, nextDirectory progress (lockTimedOut (lockPath fallback.lockDirectory))
        fallback.remaining)
  | .openFailed failure, machine, .opening progress fallback =>
      some (machine, nextDirectory progress failure fallback.remaining)
  | .stamped, machine, .stamping progress fallback => some (machine, run progress (some fallback))
  | .stampFailed failure, machine, .stamping progress fallback =>
      some (machine, .disposing progress fallback (some failure))
  | .disposed, machine, .disposing progress fallback none =>
      some (release [fallback.lock] machine, .releasing progress none)
  | .disposed, machine, .disposing progress fallback (some failure) =>
      some (release [fallback.lock] machine, nextDirectory progress failure fallback.remaining)
  | .released, machine, .releasing progress failure =>
      some (release progress.holds machine, .ended progress failure)
  | .kill, machine, phase => some (release phase.holds machine, .killed)
  | _, _, _ => none

/-- A step of one call, as a move of the interleaved system. -/
def move (event : Event) (source : Machine × Phase) : Option (Machine × Phase) :=
  step event source.1 source.2

/-- Nobody holds a lock. -/
def Free (machine : Machine) : Prop := machine.taken = []

/-- All interleavings of the calls. -/
def calls : TransitionSystem (Interleaved Machine Phase) (Nat × Event) :=
  Interleaved.system Free .idle (Interleaved.movesOf move)

/-! ## Locked -/

def Phase.progress : Phase → Option Progress
  | .idle => none
  | .creatingMutex progress => some progress
  | .waiting progress => some progress
  | .running progress _ => some progress
  | .handling progress _ => some progress
  | .preparing progress _ => some progress
  | .opening progress _ => some progress
  | .stamping progress _ => some progress
  | .disposing progress _ _ => some progress
  | .releasing progress _ => some progress
  | .ended progress _ => some progress
  | .killed => none

def Phase.isRunning : Phase → Bool
  | .running _ _ => true
  | _ => false

/-- The action has run at most once, and its error is that of the call. -/
structure RunsOnce (phase : Phase) : Prop where
  runs : ∀ progress, phase.progress = some progress → progress.runs ≤ 1
  rethrown : ∀ progress outcome, phase = .ended progress outcome →
    ∀ failure ∈ progress.raised, outcome = some failure

/-- Every action runs at most once, and on its own. -/
structure Locked (state : Interleaved Machine Phase) : Prop where
  once : ∀ call, RunsOnce (state.phase call)
  alone : ∀ one other, one ≠ other →
    (state.phase one).isRunning = true → (state.phase other).isRunning = false

/-! ## The condition -/

/-- The lock that a step takes. -/
def takes : Phase → Event → Option Lock
  | .waiting progress, .acquired => some (.mutex progress.caller.mutexName)
  | .opening _ fallback, .opened => some fallback.lock
  | _, _ => none

/-- The action fails with an error after which it is run again: under the mutex, one
that reads like a denied access; under a lock file, any while there is another
directory. -/
def retries : Phase → Event → Bool
  | .running _ none, .actionRaised failure => isUnauthorizedAccessException failure
  | .running _ (some fallback), .actionRaised _ => fallback.remaining ≠ []
  | _, _ => false

/-- The condition on a step: no action fails so that it is run again, and no lock is
taken while another call holds a different one. -/
def Orderly (state : Interleaved Machine Phase) (label : Nat × Event) : Prop :=
  retries (state.phase label.1) label.2 = false ∧
    ∀ lock, takes (state.phase label.1) label.2 = some lock →
      ∀ other, other ≠ label.1 → ∀ held ∈ (state.phase other).holds, held = lock

/-! ## What a step does -/

/-- How often the action has run, and what has become of its error. -/
def Counted : Phase → Prop
  | .idle => True
  | .creatingMutex progress => progress.runs = 0 ∧ progress.raised = []
  | .waiting progress => progress.runs = 0 ∧ progress.raised = []
  | .running progress under =>
      progress.runs = 1 ∧ progress.raised = [] ∧ (under = none → progress.lockAcquired = true)
  | .handling progress failure =>
      (progress.runs = 0 ∧ progress.raised = []) ∨
        (progress.runs = 1 ∧ progress.raised = [failure] ∧
          isUnauthorizedAccessException failure = false)
  | .preparing progress _ => progress.runs = 0 ∧ progress.raised = []
  | .opening progress _ => progress.runs = 0 ∧ progress.raised = []
  | .stamping progress _ => progress.runs = 0 ∧ progress.raised = []
  | .disposing progress _ none => progress.runs = 1 ∧ progress.raised = []
  | .disposing progress fallback (some failure) =>
      (progress.runs = 0 ∧ progress.raised = []) ∨
        (progress.runs = 1 ∧ progress.raised = [failure] ∧ fallback.remaining = [])
  | .releasing progress outcome =>
      progress.runs ≤ 1 ∧ ∀ failure ∈ progress.raised, outcome = some failure
  | .ended progress outcome =>
      progress.runs ≤ 1 ∧ ∀ failure ∈ progress.raised, outcome = some failure
  | .killed => True

section Steps

variable {event : Event} {machine : Machine} {phase : Phase} {outcome : Machine × Phase}

theorem take_eq_some {lock : Lock} {after : Machine} (htake : take lock machine = some after) :
    lock ∉ machine.taken ∧ after.taken = lock :: machine.taken := by
  unfold take at htake
  split at htake
  · cases htake
  · rename_i hfree
    obtain rfl := Option.some.inj htake
    exact ⟨hfree, rfl⟩

variable {failure : Failure}

/-- A call that has not run its action yet may go on to the next directory. -/
theorem counted_nextDirectory {progress : Progress} (remaining : List Text)
    (hruns : progress.runs = 0) (hraised : progress.raised = []) :
    Counted (nextDirectory progress failure remaining) := by
  cases remaining with
  | nil =>
      refine ⟨by omega, ?_⟩
      rw [hraised]
      exact List.forall_mem_nil _
  | cons lockDirectory remaining => exact ⟨hruns, hraised⟩

theorem counted_handle {progress : Progress} (hcounted : Counted (.handling progress failure)) :
    Counted (handle progress failure) := by
  rw [handle]
  rcases hcounted with ⟨hruns, hraised⟩ | ⟨hruns, hraised, hother⟩
  · have hreleasing : ∀ outcome, Counted (.releasing progress outcome) := by
      intro outcome
      refine ⟨by omega, ?_⟩
      rw [hraised]
      exact List.forall_mem_nil _
    split
    · cases lockDirectories progress.caller with
      | nil => exact hreleasing _
      | cons lockDirectory remaining => exact ⟨hruns, hraised⟩
    · exact hreleasing _
  · rw [if_neg (by simp [hother])]
    refine ⟨Nat.le_of_eq hruns, ?_⟩
    rw [hraised]
    exact List.forall_mem_singleton.mpr rfl

/-- The count after a step, where no action fails so that it is run again. -/
theorem step_counted (hcounted : Counted phase) (hretries : retries phase event = false)
    (hstep : step event machine phase = some outcome) : Counted outcome.2 := by
  revert hstep
  fun_cases step event machine phase
  case case1 caller =>
    rintro ⟨⟩
    exact ⟨rfl, rfl⟩
  case case3 failure progress =>
    rintro ⟨⟩
    exact Or.inl hcounted
  case case4 progress =>
    intro hstep
    obtain ⟨after, -, rfl⟩ := Option.map_eq_some_iff.mp hstep
    exact ⟨congrArg Nat.succ hcounted.1, hcounted.2, fun _ => rfl⟩
  case case5 progress =>
    rintro ⟨⟩
    exact Or.inl hcounted
  case case6 failure progress =>
    rintro ⟨⟩
    exact Or.inl hcounted
  case case7 progress =>
    rintro ⟨⟩
    obtain ⟨hruns, hraised, -⟩ := hcounted
    refine ⟨Nat.le_of_eq hruns, ?_⟩
    rw [hraised]
    exact List.forall_mem_nil _
  case case8 failure progress =>
    rintro ⟨⟩
    obtain ⟨hruns, hraised, -⟩ := hcounted
    exact Or.inr ⟨hruns, by rw [Progress.fails, hraised, List.nil_append], hretries⟩
  case case9 progress fallback =>
    rintro ⟨⟩
    exact ⟨hcounted.1, hcounted.2.1⟩
  case case10 failure progress fallback =>
    rintro ⟨⟩
    obtain ⟨hruns, hraised, -⟩ := hcounted
    refine Or.inr ⟨hruns, by rw [Progress.fails, hraised, List.nil_append], ?_⟩
    simpa [retries] using hretries
  case case11 progress failure =>
    rintro ⟨⟩
    exact counted_handle hcounted
  case case13 failure progress fallback =>
    rintro ⟨⟩
    exact counted_nextDirectory _ hcounted.1 hcounted.2
  case case14 progress fallback =>
    intro hstep
    obtain ⟨after, -, rfl⟩ := Option.map_eq_some_iff.mp hstep
    exact hcounted
  case case16 progress fallback =>
    rintro ⟨⟩
    exact counted_nextDirectory _ hcounted.1 hcounted.2
  case case17 failure progress fallback =>
    rintro ⟨⟩
    exact counted_nextDirectory _ hcounted.1 hcounted.2
  case case18 progress fallback =>
    rintro ⟨⟩
    refine ⟨congrArg Nat.succ hcounted.1, hcounted.2, ?_⟩
    intro hnone
    cases hnone
  case case19 failure progress fallback =>
    rintro ⟨⟩
    exact Or.inl hcounted
  case case20 progress fallback =>
    rintro ⟨⟩
    refine ⟨Nat.le_of_eq hcounted.1, ?_⟩
    rw [hcounted.2]
    exact List.forall_mem_nil _
  case case21 progress fallback failure =>
    rintro ⟨⟩
    rcases hcounted with ⟨hruns, hraised⟩ | ⟨hruns, hraised, hlast⟩
    · exact counted_nextDirectory _ hruns hraised
    · rw [hlast]
      refine ⟨Nat.le_of_eq hruns, ?_⟩
      rw [hraised]
      exact List.forall_mem_singleton.mpr rfl
  case case23 =>
    rintro ⟨⟩
    trivial
  all_goals rintro ⟨⟩
  all_goals exact hcounted

theorem holds_nextDirectory (progress : Progress) (failure : Failure) (remaining : List Text) :
    (nextDirectory progress failure remaining).holds = progress.holds := by
  cases remaining <;> rfl

theorem holds_handle (progress : Progress) (failure : Failure) :
    (handle progress failure).holds = progress.holds := by
  rw [handle]
  split
  · cases lockDirectories progress.caller <;> rfl
  · rfl

/-- What a step does to the locks: it leaves them, takes a free one, or gives some
back. -/
inductive LockStep (machine : Machine) (before : List Lock) (taken : Option Lock) :
    Machine → List Lock → Prop
  | same {after : List Lock} (hafter : after ⊆ before) : LockStep machine before taken machine after
  | take {lock : Lock} {later : Machine} {after : List Lock} (htakes : taken = some lock)
      (hfree : lock ∉ machine.taken) (hlater : later.taken = lock :: machine.taken)
      (hafter : after ⊆ lock :: before) : LockStep machine before taken later after
  | release {locks after : List Lock} (hlocks : locks ⊆ before) (hafter : after ⊆ before)
      (hgone : ∀ lock ∈ after, lock ∉ locks) :
      LockStep machine before taken (release locks machine) after

theorem holds_ne_file (progress : Progress) (fallback : Fallback) :
    ∀ lock ∈ progress.holds, lock ∉ [fallback.lock] := by
  intro lock hlock hfile
  rw [List.mem_singleton.mp hfile, Progress.holds] at hlock
  split at hlock
  · cases List.mem_singleton.mp hlock
  · cases hlock

theorem step_locks (hstep : step event machine phase = some outcome) :
    LockStep machine phase.holds (takes phase event) outcome.1 outcome.2.holds := by
  revert hstep
  fun_cases step event machine phase
  case case4 progress =>
    intro hstep
    obtain ⟨after, htake, rfl⟩ := Option.map_eq_some_iff.mp hstep
    obtain ⟨hfree, hafter⟩ := take_eq_some htake
    exact .take rfl hfree hafter (List.cons_subset_cons _ (List.nil_subset _))
  case case9 progress fallback =>
    rintro ⟨⟩
    exact .same (List.Subset.refl _)
  case case11 progress failure =>
    rintro ⟨⟩
    rw [holds_handle]
    exact .same (List.Subset.refl _)
  case case13 failure progress fallback =>
    rintro ⟨⟩
    rw [holds_nextDirectory]
    exact .same (List.Subset.refl _)
  case case14 progress fallback =>
    intro hstep
    obtain ⟨after, htake, rfl⟩ := Option.map_eq_some_iff.mp hstep
    obtain ⟨hfree, hafter⟩ := take_eq_some htake
    exact .take rfl hfree hafter (List.Subset.refl _)
  case case16 progress fallback =>
    rintro ⟨⟩
    rw [holds_nextDirectory]
    exact .same (List.Subset.refl _)
  case case17 failure progress fallback =>
    rintro ⟨⟩
    rw [holds_nextDirectory]
    exact .same (List.Subset.refl _)
  case case20 progress fallback =>
    rintro ⟨⟩
    exact .release (List.cons_subset_cons _ (List.nil_subset _)) (List.subset_cons_self _ _)
      (holds_ne_file progress fallback)
  case case21 progress fallback failure =>
    rintro ⟨⟩
    rw [holds_nextDirectory]
    exact .release (List.cons_subset_cons _ (List.nil_subset _)) (List.subset_cons_self _ _)
      (holds_ne_file progress fallback)
  case case22 progress failure =>
    rintro ⟨⟩
    exact .release (List.Subset.refl _) (List.nil_subset _) (List.forall_mem_nil _)
  case case23 =>
    rintro ⟨⟩
    exact .release (List.Subset.refl _) (List.nil_subset _) (List.forall_mem_nil _)
  all_goals rintro ⟨⟩
  all_goals exact .same (List.Subset.refl _)

end Steps

/-! ## Every run -/

/-- The locks of a call are taken, and its action is counted. -/
structure Placed (machine : Machine) (phase : Phase) : Prop where
  held : phase.holds ⊆ machine.taken
  counted : Counted phase

/-- One of the two calls holds nothing. -/
def Apart (one other : Phase) : Prop := one.holds = [] ∨ other.holds = []

section Moves

variable {machine after : Machine} {before locks : List Lock} {taken : Option Lock}
  {others : List Lock}

/-- A call goes on holding locks that are taken. -/
theorem LockStep.held (hlocks : LockStep machine before taken after locks)
    (hbefore : before ⊆ machine.taken) : locks ⊆ after.taken := by
  cases hlocks with
  | same hafter => exact List.Subset.trans hafter hbefore
  | take htakes hfree hlater hafter =>
      rw [hlater]
      exact List.Subset.trans hafter (List.cons_subset_cons _ hbefore)
  | release hlocks hafter hgone =>
      intro lock hlock
      exact List.mem_filter.mpr ⟨hbefore (hafter hlock), by simpa using hgone lock hlock⟩

/-- Where a call takes a lock only while the others hold no different one, at most one
call holds locks. -/
theorem LockStep.other (hlocks : LockStep machine before taken after locks)
    (hothers : others ⊆ machine.taken) (hapart : before = [] ∨ others = [])
    (honly : ∀ lock, taken = some lock → ∀ held ∈ others, held = lock) :
    others ⊆ after.taken ∧ (locks = [] ∨ others = []) := by
  cases hlocks with
  | same hafter =>
      refine ⟨hothers, hapart.imp_left ?_⟩
      rintro rfl
      exact List.subset_nil.mp hafter
  | @take lock later _ htakes hfree hlater hafter =>
      rw [hlater]
      refine ⟨List.subset_cons_of_subset _ hothers, Or.inr ?_⟩
      rw [List.eq_nil_iff_forall_not_mem]
      intro held hheld
      exact hfree (honly lock htakes held hheld ▸ hothers hheld)
  | release hreleased hafter hgone =>
      rcases hapart with rfl | rfl
      · obtain rfl := List.subset_nil.mp hreleased
        obtain rfl := List.subset_nil.mp hafter
        refine ⟨?_, Or.inl rfl⟩
        intro held hheld
        exact List.mem_filter.mpr ⟨hothers hheld, by simp⟩
      · exact ⟨List.nil_subset _, Or.inr rfl⟩

end Moves

variable {phase : Phase}

/-- A call whose action runs holds a lock. -/
theorem holds_of_isRunning (hcounted : Counted phase) (hrunning : phase.isRunning = true) :
    phase.holds ≠ [] := by
  cases phase with
  | running progress under =>
      cases under with
      | none =>
          rw [Phase.holds, Progress.holds, if_pos (hcounted.2.2 rfl)]
          exact List.cons_ne_nil _ _
      | some fallback => exact List.cons_ne_nil _ _
  | _ => cases hrunning

/-- What is counted bounds the runs of the action. -/
theorem runsOnce_of_counted (hcounted : Counted phase) : RunsOnce phase where
  runs := by
    intro progress hprogress
    cases phase with
    | idle => cases hprogress
    | killed => cases hprogress
    | running current under =>
        obtain rfl := Option.some.inj hprogress
        exact Nat.le_of_eq hcounted.1
    | handling current failure =>
        obtain rfl := Option.some.inj hprogress
        rcases hcounted with ⟨hruns, -⟩ | ⟨hruns, -⟩ <;> omega
    | disposing current fallback outcome =>
        obtain rfl := Option.some.inj hprogress
        cases outcome with
        | none => exact Nat.le_of_eq hcounted.1
        | some failure => rcases hcounted with ⟨hruns, -⟩ | ⟨hruns, -⟩ <;> omega
    | releasing current outcome =>
        obtain rfl := Option.some.inj hprogress
        exact hcounted.1
    | ended current outcome =>
        obtain rfl := Option.some.inj hprogress
        exact hcounted.1
    | _ =>
        obtain rfl := Option.some.inj hprogress
        have hruns := hcounted.1
        omega
  rethrown := by
    rintro progress outcome rfl failure hfailure
    exact hcounted.2 failure hfailure

/-- In every run in which no action fails so that it is run again and no lock is taken
while another call holds a different one, the lock does its work. -/
theorem locked_of_orderly {state : Interleaved Machine Phase}
    (hreach : calls.ReachableBy Orderly state) : Locked state := by
  have hsound := @Interleaved.interference_free_apart Machine Phase Event Free .idle _
    (fun _ => True) Placed (fun _ => Apart) Orderly (fun _ _ _ h => h.symm) ?_ ?_ state hreach
  · obtain ⟨-, hplaced, hapart⟩ := hsound
    refine ⟨fun call => runsOnce_of_counted (hplaced call).counted, ?_⟩
    intro one other hne hone
    by_contra hother
    rw [Bool.not_eq_false] at hother
    rcases hapart one other hne with hnone | hnone
    · exact holds_of_isRunning (hplaced one).counted hone hnone
    · exact holds_of_isRunning (hplaced other).counted hother hnone
  · intro machine _
    exact ⟨trivial, ⟨List.nil_subset _, trivial⟩, Or.inl rfl⟩
  · rintro before call event outcome - hplaced hapart ⟨hretries, honly⟩ hmove
    have hlocks := step_locks hmove
    refine ⟨⟨trivial, hlocks.held (hplaced call).held,
      step_counted (hplaced call).counted hretries hmove⟩, ?_, ?_⟩
    · intro other hne
      obtain ⟨hheld, hapart⟩ := hlocks.other (hplaced other).held
        (hapart call other fun h => hne h.symm) fun lock htakes => honly lock htakes other hne
      exact ⟨⟨hheld, (hplaced other).counted⟩, hapart⟩
    · intro one other _ _ hne
      exact hapart one other hne
/-! ## Two calls that are not kept apart -/

def exampleCaller : Caller where
  mutexName := "Global\\OpenPathPolicyStateLock".toList
  programData := "C:\\ProgramData".toList
  tempPath := "C:\\Windows\\Temp".toList

/-- The action cannot write a file. -/
def accessDenied : Failure where
  message := "Access to the path 'C:\\Acrylic\\AcrylicHosts.txt' is denied.".toList
  innerUnauthorized := true

/-- The mutex is closed to a user without rights. -/
def mutexDenied : Failure where
  message := "Access to the path 'Global\\OpenPathPolicyStateLock' is denied.".toList
  innerUnauthorized := true

def nobody : Interleaved Machine Phase where
  shared := { taken := [] }
  phase _ := .idle

theorem nobody_init : calls.init nobody := ⟨rfl, fun _ => rfl⟩

/-- One call runs its action under the mutex. -/
def underMutex (call : Nat) : List (Nat × Event) :=
  [(call, .invoke exampleCaller), (call, .created), (call, .acquired)]

/-- The call goes on with the lock file. -/
def underFile (call : Nat) : List (Nat × Event) :=
  [(call, .handled), (call, .prepared), (call, .opened), (call, .stamped)]

/-- A second call, which may not use the mutex, runs its action beside it. -/
def besideMutex : List (Nat × Event) :=
  underMutex 0 ++ [(1, .invoke exampleCaller), (1, .createFailed mutexDenied)] ++ underFile 1

/-- A call whose action fails under the mutex runs it again. -/
def failedAction : List (Nat × Event) :=
  underMutex 0 ++ [(0, .actionRaised accessDenied)] ++ underFile 0

theorem besideMutex_running :
    (Interleaved.run move nobody besideMutex).map
        (fun state => ((state.phase 0).isRunning, (state.phase 1).isRunning)) =
      some (true, true) := by
  decide +kernel

theorem failedAction_runs :
    (Interleaved.run move nobody failedAction).map
        (fun state => (state.phase 0).progress.map (·.runs)) = some (some 2) := by
  decide

/-- Two actions at the same time, and an action that runs twice. -/
theorem action_notLocked :
    (∃ state, calls.Reachable state ∧ (state.phase 0).isRunning = true ∧
        (state.phase 1).isRunning = true ∧ ¬ Locked state) ∧
      ∃ state, calls.Reachable state ∧ ¬ RunsOnce (state.phase 0) ∧ ¬ Locked state := by
  constructor
  · obtain ⟨state, hstate, hrunning⟩ := Option.map_eq_some_iff.mp besideMutex_running
    obtain ⟨hfirst, hsecond⟩ := Prod.mk.inj hrunning
    refine ⟨state, Interleaved.reachable_run (.start nobody_init) hstate, hfirst, hsecond, ?_⟩
    intro hlocked
    have hnot := hlocked.alone 0 1 (by decide) hfirst
    rw [hsecond] at hnot
    cases hnot
  · obtain ⟨state, hstate, hruns⟩ := Option.map_eq_some_iff.mp failedAction_runs
    obtain ⟨progress, hprogress, htwo⟩ := Option.map_eq_some_iff.mp hruns
    have htwice : ¬ RunsOnce (state.phase 0) := by
      intro honce
      have hone := honce.runs progress hprogress
      omega
    exact ⟨state, Interleaved.reachable_run (.start nobody_init) hstate, htwice,
      fun hlocked => htwice (hlocked.once 0)⟩

/-- Two calls, the second of which waits for the mutex; the action of the first fails with
an error that does not read like a denied access. -/
def oneAfterTheOther : List (Nat × Event) :=
  underMutex 0 ++ [(1, .invoke exampleCaller), (1, .created),
    (0, .actionRaised { message := "Acrylic hosts verification failed".toList }),
    (0, .handled), (0, .released), (1, .acquired)]

/-- The condition, for two calls. -/
def orderlyBool (state : Interleaved Machine Phase) (label : Nat × Event) : Bool :=
  (label.1 < 2) && !retries (state.phase label.1) label.2 &&
    (takes (state.phase label.1) label.2).all fun lock =>
      (List.range 2).all fun other =>
        other = label.1 || (state.phase other).holds.all fun held => held = lock

theorem orderly_of_bool (state : Interleaved Machine Phase) (label : Nat × Event)
    (hrest : ∀ call, 2 ≤ call → state.phase call = .idle)
    (htest : orderlyBool state label = true) : label.1 < 2 ∧ Orderly state label := by
  simp only [orderlyBool, Bool.and_eq_true, decide_eq_true_eq, Bool.not_eq_true',
    Option.all_eq_true, List.all_eq_true, List.mem_range, Bool.or_eq_true] at htest
  obtain ⟨⟨hbound, hretries⟩, honly⟩ := htest
  refine ⟨hbound, hretries, ?_⟩
  intro lock htakes other hother
  by_cases hsecond : other < 2
  · exact (honly lock htakes other hsecond).resolve_left hother
  · rw [hrest other (Nat.not_lt.mp hsecond)]
    exact List.forall_mem_nil _

theorem locked_oneAfterTheOther :
    ∃ state, calls.Reachable state ∧ (state.phase 1).isRunning = true ∧ Locked state := by
  have hrun : ((TransitionSystem.runBy orderlyBool (Interleaved.stepOf move) nobody
      oneAfterTheOther).map fun state => (state.phase 1).isRunning) = some true := by
    decide +kernel
  obtain ⟨state, hstate, hrunning⟩ := Option.map_eq_some_iff.mp hrun
  have hreach := Interleaved.reachableBy_first 2 orderly_of_bool _ (.start nobody_init)
    (fun _ _ => rfl) hstate
  exact ⟨state, hreach.reachable, hrunning, locked_of_orderly hreach⟩

end OpenPath.Windows.AcrylicPolicyLock
