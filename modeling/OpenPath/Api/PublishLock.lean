/-
# The publish lock

Provisioners in separate processes exclude each other with a lock file. One that
finds the file in its way looks whether it is a leftover: whether the process of
the identifier in it is gone, or, where the file cannot be read, whether it is
old. It then renames the file away, removes it and tries again. Looking and
renaming are separate steps, and so are creating the file and writing the
identifier to it. A cleanup does the same as such a contender, once.

Files are numbered in the order of their creation; a number stays with a file
that is renamed or removed while another process has it open. A process has one
acquisition at a time, which the lock inside a process ensures. All processes
share one table of process identifiers, in which the identifier of a process
that has crashed may be given out again.
-/

import OpenPath.Foundation.Transition
import Mathlib.Logic.Function.Basic

namespace OpenPath.Api.PublishLock

open Foundation

def publishLockStaleMs : Int := 10 * 60 * 1000

def publishLockWaitMs : Int := 30 * 1000

/-- What a reader finds in a lock file. -/
inductive LockContents
  /-- Nothing, or the beginning of an object only. -/
  | unreadable
  | pid (process : Nat)
  deriving DecidableEq

structure LockFile where
  creator : Nat
  contents : LockContents
  mtimeMs : Int

/-- Where a process stands. A contender has the deadline of its acquisition; for
a cleanup there is none. -/
inductive Stage
  | idle
  | attempting (deadline : Int)
  | created (file : Nat)
  | written (file : Nat)
  /-- Between acquisition and release. -/
  | entered (file : Nat)
  | releasing (file : Nat)
  /-- The acquisition failed after the file was created. -/
  | abandoning (file : Nat)
  | refused (deadline : Option Int)
  | statted (deadline : Option Int) (file : Nat) (mtimeMs : Int)
  | opened (deadline : Option Int) (file : Nat) (mtimeMs : Int)
  /-- Judged a leftover: this file, or no file at all. -/
  | stale (deadline : Option Int) (judged : Option Nat)
  | reclaimed (deadline : Option Int)
  | waiting (deadline : Int)
  | crashed
  deriving DecidableEq

namespace Stage

/-- The process has created this file and not yet removed it. -/
def Owns (file : Nat) : Stage → Prop
  | created own | written own | entered own | releasing own | abandoning own => own = file
  | _ => False

instance (file : Nat) : (stage : Stage) → Decidable (stage.Owns file)
  | created own | written own | entered own | releasing own | abandoning own =>
      inferInstanceAs (Decidable (own = file))
  | idle | attempting _ | refused _ | statted _ _ _ | opened _ _ _ | stale _ _ | reclaimed _
  | waiting _ | crashed => inferInstanceAs (Decidable False)

/-- The process is between acquisition and release. -/
def Holds : Stage → Prop
  | entered _ | releasing _ => True
  | _ => False

instance : (stage : Stage) → Decidable stage.Holds
  | entered _ | releasing _ => inferInstanceAs (Decidable True)
  | idle | attempting _ | created _ | written _ | abandoning _ | refused _ | statted _ _ _
  | opened _ _ _ | stale _ _ | reclaimed _ | waiting _ | crashed => inferInstanceAs (Decidable False)

/-- The file that a contender has looked at. -/
def Sees (file : Nat) : Stage → Prop
  | statted _ seen _ | opened _ seen _ | stale _ (some seen) => seen = file
  | _ => False

def Judges (file : Nat) : Stage → Prop
  | stale _ (some judged) => judged = file
  | _ => False

/-- After a lock that is in use. -/
def later : Option Int → Stage
  | none => idle
  | some deadline => waiting deadline

/-- After a lock that is out of the way. -/
def again : Option Int → Stage
  | none => idle
  | some deadline => attempting deadline

def verdict (isStale : Bool) (deadline : Option Int) (file : Nat) : Stage :=
  if isStale then stale deadline (some file) else later deadline

end Stage

/-- The lock entry was removed or renamed away. -/
structure Removal where
  remover : Nat
  file : Nat
  /-- The stages of that moment. -/
  stages : Nat → Stage

structure LockState where
  entry : Option Nat
  file : Nat → LockFile
  nextFile : Nat
  stage : Nat → Stage
  removals : List Removal

namespace LockState

def goTo (state : LockState) (process : Nat) (stage : Stage) : LockState :=
  { state with stage := Function.update state.stage process stage }

/-- `open(lockPath, 'wx')` where there is no entry. -/
def create (state : LockState) (process : Nat) (now : Int) : LockState :=
  { state with
    entry := some state.nextFile
    file := Function.update state.file state.nextFile
      { creator := process, contents := .unreadable, mtimeMs := now }
    nextFile := state.nextFile + 1 }

def write (state : LockState) (file : Nat) (contents : LockContents) (now : Int) : LockState :=
  { state with
    file := Function.update state.file file
      { state.file file with contents, mtimeMs := now } }

/-- `rm(lockPath, { force: true })`, and `rename` of the lock to a name of its own. -/
def removeEntry (state : LockState) (process : Nat) : LockState :=
  match state.entry with
  | none => state
  | some file =>
      { state with
        entry := none
        removals := { remover := process, file, stages := state.stage } :: state.removals }

def Unowned (state : LockState) (file : Nat) : Prop :=
  ∀ process, ¬ (state.stage process).Owns file

/-- The process that created the file has crashed, or is done with it. -/
def GivenUp (state : LockState) (file : Nat) : Prop :=
  ¬ (state.stage (state.file file).creator).Owns file

instance (state : LockState) (file : Nat) : Decidable (state.GivenUp file) :=
  inferInstanceAs (Decidable (¬ _))

/-- `kill(pid, 0)`: the process is there, or another has its identifier now. -/
def processIsAlive (state : LockState) (process : Nat) (reused : Bool) : Bool :=
  decide (state.stage process ≠ .crashed) || reused

end LockState

/-- What one system call does. `fails` and `reused` are up to the operating system. -/
inductive LockStep
  | acquire (now : Int)
  | openExclusive (now : Int) (fails : Bool)
  | writePart (now : Int)
  | writePid (now : Int)
  | sync
  | failAcquisition
  | removeCreated (fails : Bool)
  | leave
  | release (fails : Bool)
  | sweep
  | statLock (fails : Bool)
  | openLock (now : Int) (fails : Bool)
  | readLock (now : Int) (reused fails : Bool)
  | renameLock (fails : Bool)
  | removeReclaimed (fails : Bool)
  | retry (now : Int)
  | crash

/-- An unreadable lock is a leftover only when it is old. -/
def judgedByAge (now mtimeMs : Int) : Bool :=
  decide (publishLockStaleMs < now - mtimeMs)

/-- The verdict of `isStaleFilesystemLock` on a file that it has opened. -/
def judgedByContents (state : LockState) (file : Nat) (mtimeMs now : Int) (reused fails : Bool) :
    Bool :=
  if fails then judgedByAge now mtimeMs
  else
    match (state.file file).contents with
    | .unreadable => judgedByAge now mtimeMs
    | .pid process => !state.processIsAlive process reused

def move (state : LockState) (process : Nat) : LockStep → Stage → Option LockState
  | .acquire now, .idle => some (state.goTo process (.attempting (now + publishLockWaitMs)))
  | .openExclusive now fails, .attempting deadline =>
      if deadline ≤ now ∨ fails then some (state.goTo process .idle)
      else
        match state.entry with
        | none => some ((state.create process now).goTo process (.created state.nextFile))
        | some _ => some (state.goTo process (.refused (some deadline)))
  | .writePart now, .created file => some (state.write file .unreadable now)
  | .writePid now, .created file =>
      some ((state.write file (.pid process) now).goTo process (.written file))
  | .sync, .written file => some (state.goTo process (.entered file))
  | .failAcquisition, .created file => some (state.goTo process (.abandoning file))
  | .failAcquisition, .written file => some (state.goTo process (.abandoning file))
  | .removeCreated fails, .abandoning _ =>
      some ((if fails then state else state.removeEntry process).goTo process .idle)
  | .leave, .entered file => some (state.goTo process (.releasing file))
  | .release fails, .releasing _ =>
      some ((if fails then state else state.removeEntry process).goTo process .idle)
  | .sweep, .idle => some (state.goTo process (.refused none))
  | .statLock fails, .refused deadline =>
      if fails then some (state.goTo process (.later deadline))
      else
        match state.entry with
        | none => some (state.goTo process (.stale deadline none))
        | some file =>
            some (state.goTo process (.statted deadline file (state.file file).mtimeMs))
  | .openLock now fails, .statted deadline file mtimeMs =>
      match fails, state.entry with
      | false, some other => some (state.goTo process (.opened deadline other mtimeMs))
      | _, _ => some (state.goTo process (.verdict (judgedByAge now mtimeMs) deadline file))
  | .readLock now reused fails, .opened deadline file mtimeMs =>
      some (state.goTo process
        (.verdict (judgedByContents state file mtimeMs now reused fails) deadline file))
  | .renameLock fails, .stale deadline _ =>
      if fails then some (state.goTo process (.later deadline))
      else
        match state.entry with
        | none => some (state.goTo process (.again deadline))
        | some _ => some ((state.removeEntry process).goTo process (.reclaimed deadline))
  | .removeReclaimed fails, .reclaimed deadline =>
      some (state.goTo process (if fails then .idle else .again deadline))
  | .retry now, .waiting deadline =>
      some (state.goTo process (if deadline ≤ now then .idle else .attempting deadline))
  | .crash, _ => some (state.goTo process .crashed)
  | _, _ => none

/-- A step that is not a process's next one does nothing. -/
def act (state : LockState) (label : Nat × LockStep) : LockState :=
  (move state label.1 label.2 (state.stage label.1)).getD state

/-- No lock, and all processes idle. -/
def start : LockState where
  entry := none
  file := fun _ => { creator := 0, contents := .unreadable, mtimeMs := 0 }
  nextFile := 0
  stage := fun _ => .idle
  removals := []

def publishLock : TransitionSystem LockState (Nat × LockStep) :=
  .ofFunction (· = start) act

/-- The lock does its work. -/
structure Exclusive (state : LockState) : Prop where
  one : ∀ first second, (state.stage first).Holds → (state.stage second).Holds → first = second
  kept : ∀ removal ∈ state.removals, ∀ process,
    (removal.stages process).Owns removal.file → process = removal.remover

/-- A contender judges by age only a file that its creator is done with, and
renames only the file that it has judged. -/
def WellTimed (state : LockState) (label : Nat × LockStep) : Prop :=
  match label.2, state.stage label.1 with
  | .openLock now fails, .statted _ file mtimeMs =>
      fails = true ∨ state.entry = none → judgedByAge now mtimeMs = true → state.GivenUp file
  | .readLock now _ fails, .opened _ file mtimeMs =>
      fails = true ∨ (state.file file).contents = .unreadable → judgedByAge now mtimeMs = true →
        state.GivenUp file
  | .renameLock fails, .stale _ judged =>
      fails = false → state.entry = none ∨ state.entry = judged
  | _, _ => True

instance (state : LockState) (label : Nat × LockStep) : Decidable (WellTimed state label) := by
  unfold WellTimed
  split <;> infer_instance

/-! ## Stages and steps -/

namespace Stage

variable {file : Nat} {deadline : Option Int}

theorem Holds.owns {stage : Stage} (holds : stage.Holds) : ∃ file, stage.Owns file := by
  cases stage with
  | entered own => exact ⟨own, rfl⟩
  | releasing own => exact ⟨own, rfl⟩
  | _ => exact holds.elim

theorem Judges.sees {stage : Stage} (judges : stage.Judges file) : stage.Sees file := by
  cases stage with
  | stale deadline judged =>
      cases judged with
      | none => exact judges.elim
      | some judged => exact judges
  | _ => exact judges.elim

@[simp] theorem not_owns_later : ¬ (later deadline).Owns file := by
  cases deadline <;> exact id

@[simp] theorem not_sees_later : ¬ (later deadline).Sees file := by
  cases deadline <;> exact id

@[simp] theorem not_owns_again : ¬ (again deadline).Owns file := by
  cases deadline <;> exact id

@[simp] theorem not_sees_again : ¬ (again deadline).Sees file := by
  cases deadline <;> exact id

@[simp] theorem not_owns_verdict {isStale : Bool} {judged : Nat} :
    ¬ (verdict isStale deadline judged).Owns file := by
  cases isStale
  · exact not_owns_later
  · exact id

/-- Only a verdict against a file has looked at one. -/
theorem sees_verdict {isStale : Bool} {judged : Nat}
    (sees : (verdict isStale deadline judged).Sees file) : isStale = true ∧ judged = file := by
  cases isStale
  · exact (not_sees_later sees).elim
  · exact ⟨rfl, sees⟩

end Stage

section Updates

variable {state : LockState} {process other file : Nat} {stage : Stage}
  {contents : LockContents} {now : Int}

@[simp] theorem goTo_entry : (state.goTo process stage).entry = state.entry := rfl

@[simp] theorem goTo_file : (state.goTo process stage).file = state.file := rfl

@[simp] theorem goTo_nextFile : (state.goTo process stage).nextFile = state.nextFile := rfl

@[simp] theorem goTo_removals : (state.goTo process stage).removals = state.removals := rfl

@[simp] theorem goTo_stage_self : (state.goTo process stage).stage process = stage := by
  simp [LockState.goTo]

@[simp] theorem goTo_stage_of_ne (differ : other ≠ process) :
    (state.goTo process stage).stage other = state.stage other := by
  simp [LockState.goTo, differ]

@[simp] theorem create_entry : (state.create process now).entry = some state.nextFile := rfl

@[simp] theorem create_nextFile : (state.create process now).nextFile = state.nextFile + 1 := rfl

@[simp] theorem create_stage : (state.create process now).stage = state.stage := rfl

@[simp] theorem create_file_self :
    (state.create process now).file state.nextFile =
      { creator := process, contents := .unreadable, mtimeMs := now } := by
  simp [LockState.create]

@[simp] theorem create_file_of_ne (differ : file ≠ state.nextFile) :
    (state.create process now).file file = state.file file := by
  simp [LockState.create, differ]

@[simp] theorem write_entry : (state.write file contents now).entry = state.entry := rfl

@[simp] theorem write_stage : (state.write file contents now).stage = state.stage := rfl

@[simp] theorem write_contents_self :
    ((state.write file contents now).file file).contents = contents := by
  simp [LockState.write]

@[simp] theorem write_file_of_ne (differ : other ≠ file) :
    (state.write file contents now).file other = state.file other := by
  simp [LockState.write, differ]

@[simp] theorem write_creator :
    ((state.write file contents now).file other).creator = (state.file other).creator := by
  rcases eq_or_ne other file with rfl | differ
  · simp [LockState.write]
  · rw [write_file_of_ne differ]

@[simp] theorem removeEntry_entry : (state.removeEntry process).entry = none := by
  unfold LockState.removeEntry
  split
  · assumption
  · rfl

@[simp] theorem removeEntry_file : (state.removeEntry process).file = state.file := by
  unfold LockState.removeEntry
  split <;> rfl

@[simp] theorem removeEntry_nextFile :
    (state.removeEntry process).nextFile = state.nextFile := by
  unfold LockState.removeEntry
  split <;> rfl

@[simp] theorem removeEntry_stage : (state.removeEntry process).stage = state.stage := by
  unfold LockState.removeEntry
  split <;> rfl

theorem owns_of_goTo (owns : ∀ file, stage.Owns file → (state.stage process).Owns file)
    (own : ((state.goTo process stage).stage other).Owns file) : (state.stage other).Owns file := by
  rcases eq_or_ne other process with rfl | differ
  · exact owns file (by simpa using own)
  · simpa [differ] using own

end Updates

/-! ## The invariant -/

structure Consistent (state : LockState) : Prop where
  owned : ∀ process file, (state.stage process).Owns file →
    state.entry = some file ∧ (state.file file).creator = process
  entered : ∀ file, state.entry = some file → file < state.nextFile
  seen : ∀ process file, (state.stage process).Sees file → file < state.nextFile
  signed : ∀ file process, (state.file file).contents = .pid process →
    process = (state.file file).creator
  judged : ∀ process file, (state.stage process).Judges file → state.Unowned file
  kept : ∀ removal ∈ state.removals, ∀ process,
    (removal.stages process).Owns removal.file → process = removal.remover

namespace Consistent

variable {state : LockState} {process file : Nat} {stage : Stage}

section

variable (h : Consistent state)
include h

/-- There is one entry and a file has one creator. -/
theorem one_owner {first second other : Nat} (hfirst : (state.stage first).Owns file)
    (hsecond : (state.stage second).Owns other) :
    first = second := by
  obtain ⟨atFile, byFirst⟩ := h.owned first file hfirst
  obtain ⟨atOther, bySecond⟩ := h.owned second other hsecond
  have same : file = other := Option.some.inj (atFile.symm.trans atOther)
  rw [← byFirst, ← bySecond, same]

theorem exclusive : Exclusive state where
  one first second hfirst hsecond := by
    obtain ⟨file, owns⟩ := Stage.Holds.owns hfirst
    obtain ⟨other, ownsOther⟩ := Stage.Holds.owns hsecond
    exact h.one_owner owns ownsOther
  kept := h.kept

theorem unowned_of_givenUp (givenUp : state.GivenUp file) : state.Unowned file := by
  intro owner owns
  refine givenUp ?_
  rw [(h.owned owner file owns).2]
  exact owns

/-- A file whose identifier belongs to a crashed process has no owner. -/
theorem unowned_of_crashed {creator : Nat} (signed : (state.file file).contents = .pid creator)
    (gone : state.stage creator = .crashed) :
    state.Unowned file := by
  intro owner owns
  have same : creator = owner := (h.signed file creator signed).trans (h.owned owner file owns).2
  rw [← same, gone] at owns
  exact owns

/-- A process that gains no file by moving on. -/
theorem goTo (owns : ∀ file, stage.Owns file → (state.stage process).Owns file)
    (sees : ∀ file, stage.Sees file → file < state.nextFile)
    (judges : ∀ file, stage.Judges file → state.Unowned file) :
    Consistent (state.goTo process stage) where
  owned other file own := h.owned other file (owns_of_goTo owns own)
  entered := h.entered
  seen other file see := by
    rcases eq_or_ne other process with rfl | differ
    · exact sees file (by simpa using see)
    · exact h.seen other file (by simpa [differ] using see)
  signed := h.signed
  judged other file judge := by
    have unowned : state.Unowned file := by
      rcases eq_or_ne other process with rfl | differ
      · exact judges file (by simpa using judge)
      · exact h.judged other file (by simpa [differ] using judge)
    exact fun owner own => unowned owner (owns_of_goTo owns own)
  kept := h.kept

end

theorem write (h : Consistent state) {file : Nat} {contents : LockContents} {now : Int}
    (own : (state.stage process).Owns file)
    (signs : contents = .unreadable ∨ contents = .pid process) :
    Consistent (state.write file contents now) where
  owned owner other owns := by
    simpa using h.owned owner other owns
  entered := h.entered
  seen := h.seen
  signed other signer signed := by
    rcases eq_or_ne other file with rfl | differ
    · have creator := (h.owned process other own).2
      rcases signs with rfl | rfl <;> simp_all
    · simpa using h.signed other signer (by simpa [differ] using signed)
  judged := h.judged
  kept := h.kept

section

variable (h : Consistent state)
include h

theorem create {now : Int} (free : state.entry = none) :
    Consistent ((state.create process now).goTo process (.created state.nextFile)) where
  owned owner file owns := by
    rcases eq_or_ne owner process with rfl | differ
    · obtain rfl : state.nextFile = file := by simpa [Stage.Owns] using owns
      simp
    · have := (h.owned owner file (by simpa [differ] using owns)).1
      simp [free] at this
  entered file hfile := by
    obtain rfl : state.nextFile = file := by simpa using hfile
    simp
  seen other file see := by
    rcases eq_or_ne other process with rfl | differ
    · simp [Stage.Sees] at see
    · exact Nat.lt_succ_of_lt (h.seen other file (by simpa [differ] using see))
  signed file signer signed := by
    rcases eq_or_ne file state.nextFile with rfl | differ
    · simp at signed
    · simpa [differ] using h.signed file signer (by simpa [differ] using signed)
  judged other file judge := by
    rcases eq_or_ne other process with rfl | differ
    · simp [Stage.Judges] at judge
    · have old : (state.stage other).Judges file := by simpa [differ] using judge
      have lt : file < state.nextFile := h.seen other file old.sees
      intro owner owns
      rcases eq_or_ne owner process with rfl | differs
      · have : state.nextFile = file := by simpa [Stage.Owns] using owns
        omega
      · exact h.judged other file old owner (by simpa [differs] using owns)
  kept := h.kept

/-- The lock goes where no other process owns it. -/
theorem removeEntry
    (own : ∀ file, state.entry = some file → ∀ owner,
      (state.stage owner).Owns file → owner = process)
    (leaves : ∀ file, ¬ stage.Owns file ∧ ¬ stage.Sees file) :
    Consistent ((state.removeEntry process).goTo process stage) := by
  have none_owned : ∀ owner file,
      ¬ (((state.removeEntry process).goTo process stage).stage owner).Owns file := by
    intro owner file owns
    rcases eq_or_ne owner process with rfl | differ
    · exact (leaves file).1 (by simpa using owns)
    · have old : (state.stage owner).Owns file := by simpa [differ] using owns
      exact differ (own file (h.owned owner file old).1 owner old)
  refine
    { owned := fun owner file owns => absurd owns (none_owned owner file)
      entered := by simp
      seen := ?_
      signed := fun file signer signed => by simpa using h.signed file signer (by simpa using signed)
      judged := fun _ file _ owner => none_owned owner file
      kept := ?_ }
  · intro other file see
    rcases eq_or_ne other process with rfl | differ
    · exact absurd (by simpa using see) (leaves file).2
    · simpa using h.seen other file (by simpa [differ] using see)
  · intro removal mem
    cases entered : state.entry with
    | none => exact h.kept removal (by simpa [LockState.removeEntry, entered] using mem)
    | some file =>
        rcases (by simpa [LockState.removeEntry, entered] using mem :
          removal = _ ∨ removal ∈ state.removals) with rfl | old
        · exact own file entered
        · exact h.kept removal old

/-- A process that leaves the file alone. -/
theorem goOn (leaves : ∀ file, ¬ stage.Owns file ∧ ¬ stage.Sees file) :
    Consistent (state.goTo process stage) :=
  h.goTo (fun file owns => absurd owns (leaves file).1)
    (fun file sees => absurd sees (leaves file).2)
    (fun file judges => absurd judges.sees (leaves file).2)

/-- A contender has looked at a file and takes it for a leftover or not. -/
theorem judge {isStale : Bool} {deadline : Option Int} (seen : file < state.nextFile)
    (sound : isStale → state.Unowned file) :
    Consistent (state.goTo process (.verdict isStale deadline file)) := by
  refine h.goTo (fun _ owns => absurd owns Stage.not_owns_verdict) ?_ ?_
  · intro other sees
    obtain ⟨-, rfl⟩ := Stage.sees_verdict sees
    exact seen
  · intro other judges
    obtain ⟨verdict, rfl⟩ := Stage.sees_verdict judges.sees
    exact sound verdict

/-- The process removes its own file, or fails to. -/
theorem finish (own : (state.stage process).Owns file) (fails : Bool) :
    Consistent ((if fails then state else state.removeEntry process).goTo process .idle) := by
  have leaves : ∀ file, ¬ Stage.idle.Owns file ∧ ¬ Stage.idle.Sees file := fun _ => ⟨id, id⟩
  cases fails with
  | true => exact h.goOn leaves
  | false => exact h.removeEntry (fun _ _ _ owns => h.one_owner owns own) leaves

theorem judgedByContents_sound {mtimeMs now : Int} {reused fails : Bool}
    (timed : fails = true ∨ (state.file file).contents = .unreadable →
      judgedByAge now mtimeMs = true → state.GivenUp file)
    (isStale : judgedByContents state file mtimeMs now reused fails) : state.Unowned file := by
  cases fails with
  | true => exact h.unowned_of_givenUp (timed (.inl rfl) isStale)
  | false =>
      cases contents : (state.file file).contents with
      | unreadable =>
          have old : judgedByAge now mtimeMs = true := by
            simpa [judgedByContents, contents] using isStale
          exact h.unowned_of_givenUp (timed (.inr contents) old)
      | pid creator =>
          have gone : state.stage creator = .crashed ∧ reused = false := by
            simpa [judgedByContents, contents, LockState.processIsAlive] using isStale
          exact h.unowned_of_crashed contents gone.1

/-- What a process may do at each of its stages keeps the lock consistent. -/
theorem move {step : LockStep} {next : LockState} (here : state.stage process = stage)
    (timed : WellTimed state (process, step)) (moved : move state process step stage = some next) :
    Consistent next := by
  cases step with
  | acquire now =>
      cases stage with
      | idle => exact Option.some.inj moved ▸ h.goOn fun _ => ⟨id, id⟩
      | _ => cases moved
  | openExclusive now fails =>
      cases stage with
      | attempting deadline =>
          simp only [PublishLock.move] at moved
          split at moved
          · exact Option.some.inj moved ▸ h.goOn fun _ => ⟨id, id⟩
          · cases entry : state.entry with
            | none => exact Option.some.inj (entry ▸ moved) ▸ h.create entry
            | some file =>
                exact Option.some.inj (entry ▸ moved) ▸ h.goOn fun _ => ⟨id, id⟩
      | _ => cases moved
  | writePart now =>
      cases stage with
      | created file =>
          have own : (state.stage process).Owns file := here ▸ rfl
          exact Option.some.inj moved ▸ h.write own (.inl rfl)
      | _ => cases moved
  | writePid now =>
      cases stage with
      | created file =>
          have own : (state.stage process).Owns file := here ▸ rfl
          exact Option.some.inj moved ▸
            (h.write own (.inr rfl)).goTo (fun _ owns => owns ▸ own) (fun _ => nofun) (fun _ => nofun)
      | _ => cases moved
  | sync =>
      cases stage with
      | written file =>
          exact Option.some.inj moved ▸
            h.goTo (fun _ owns => here ▸ owns) (fun _ => nofun) (fun _ => nofun)
      | _ => cases moved
  | failAcquisition =>
      cases stage with
      | created file =>
          exact Option.some.inj moved ▸
            h.goTo (fun _ owns => here ▸ owns) (fun _ => nofun) (fun _ => nofun)
      | written file =>
          exact Option.some.inj moved ▸
            h.goTo (fun _ owns => here ▸ owns) (fun _ => nofun) (fun _ => nofun)
      | _ => cases moved
  | removeCreated fails =>
      cases stage with
      | abandoning file =>
          have own : (state.stage process).Owns file := here ▸ rfl
          exact Option.some.inj moved ▸ h.finish own fails
      | _ => cases moved
  | leave =>
      cases stage with
      | entered file =>
          exact Option.some.inj moved ▸
            h.goTo (fun _ owns => here ▸ owns) (fun _ => nofun) (fun _ => nofun)
      | _ => cases moved
  | release fails =>
      cases stage with
      | releasing file =>
          have own : (state.stage process).Owns file := here ▸ rfl
          exact Option.some.inj moved ▸ h.finish own fails
      | _ => cases moved
  | sweep =>
      cases stage with
      | idle => exact Option.some.inj moved ▸ h.goOn fun _ => ⟨id, id⟩
      | _ => cases moved
  | statLock fails =>
      cases stage with
      | refused deadline =>
          simp only [PublishLock.move] at moved
          split at moved
          · exact Option.some.inj moved ▸
              h.goOn fun _ => ⟨Stage.not_owns_later, Stage.not_sees_later⟩
          · cases entry : state.entry with
            | none => exact Option.some.inj (entry ▸ moved) ▸ h.goOn fun _ => ⟨id, id⟩
            | some file =>
                have seen := h.entered file entry
                exact Option.some.inj (entry ▸ moved) ▸
                  h.goTo (fun _ => nofun) (fun _ sees => sees ▸ seen) (fun _ => nofun)
      | _ => cases moved
  | openLock now fails =>
      cases stage with
      | statted deadline file mtimeMs =>
          have seen : file < state.nextFile := h.seen process file (here ▸ rfl)
          simp only [WellTimed, here] at timed
          cases fails with
          | true =>
              exact Option.some.inj moved ▸
                h.judge seen fun old => h.unowned_of_givenUp (timed (.inl rfl) old)
          | false =>
              cases entry : state.entry with
              | none =>
                  simp only [PublishLock.move, entry] at moved
                  exact Option.some.inj moved ▸
                    h.judge seen fun old => h.unowned_of_givenUp (timed (.inr entry) old)
              | some other =>
                  simp only [PublishLock.move, entry] at moved
                  exact Option.some.inj moved ▸
                    h.goTo (fun _ => nofun) (fun _ sees => sees ▸ h.entered other entry)
                      (fun _ => nofun)
      | _ => cases moved
  | readLock now reused fails =>
      cases stage with
      | opened deadline file mtimeMs =>
          have seen : file < state.nextFile := h.seen process file (here ▸ rfl)
          simp only [WellTimed, here] at timed
          exact Option.some.inj moved ▸ h.judge seen (h.judgedByContents_sound timed)
      | _ => cases moved
  | renameLock fails =>
      cases stage with
      | stale deadline judged =>
          simp only [PublishLock.move] at moved
          simp only [WellTimed, here] at timed
          split at moved
          · exact Option.some.inj moved ▸
              h.goOn fun _ => ⟨Stage.not_owns_later, Stage.not_sees_later⟩
          · cases entry : state.entry with
            | none =>
                exact Option.some.inj (entry ▸ moved) ▸
                  h.goOn fun _ => ⟨Stage.not_owns_again, Stage.not_sees_again⟩
            | some file =>
                have same : some file = judged := by
                  simpa [entry] using timed (by simpa using ‹¬ fails = true›)
                have judges : (state.stage process).Judges file := by
                  rw [here, ← same]
                  exact rfl
                refine Option.some.inj (entry ▸ moved) ▸ h.removeEntry ?_ fun _ => ⟨id, id⟩
                intro other same owner owns
                obtain rfl : file = other := Option.some.inj (entry.symm.trans same)
                exact absurd owns (h.judged process file judges owner)
      | _ => cases moved
  | removeReclaimed fails =>
      cases stage with
      | reclaimed deadline =>
          refine Option.some.inj moved ▸ h.goOn fun _ => ?_
          cases fails with
          | true => exact ⟨id, id⟩
          | false => exact ⟨Stage.not_owns_again, Stage.not_sees_again⟩
      | _ => cases moved
  | retry now =>
      cases stage with
      | waiting deadline =>
          refine Option.some.inj moved ▸ h.goOn fun _ => ?_
          split <;> exact ⟨id, id⟩
      | _ => cases moved
  | crash => exact Option.some.inj moved ▸ h.goOn fun _ => ⟨id, id⟩

theorem act (label : Nat × LockStep) (timed : WellTimed state label) :
    Consistent (act state label) := by
  unfold PublishLock.act
  cases moved : PublishLock.move state label.1 label.2 (state.stage label.1) with
  | none => exact h
  | some next => exact h.move rfl timed moved

end

theorem start : Consistent start where
  owned _ _ owns := owns.elim
  entered _ := nofun
  seen _ _ sees := sees.elim
  signed _ _ := nofun
  judged _ _ judges := judges.elim
  kept _ := nofun

end Consistent

/-- As long as no contender misjudges a file or renames another than it judged, one
process at a time has the lock and nobody else removes it. -/
theorem exclusive_of_wellTimed {state : LockState}
    (hreach : publishLock.ReachableBy WellTimed state) : Exclusive state := by
  refine Consistent.exclusive (hreach.invariant ?_ ?_)
  · rintro _ rfl
    exact .start
  · rintro source label _ consistent timed rfl
    exact consistent.act label timed

/-! ## A crashed owner, and two contenders that are too slow -/

theorem reachableBy_start : publishLock.ReachableBy WellTimed start := .start rfl

/-- Process 0 crashes while it owns the lock. -/
def crashedOwner : List (Nat × LockStep) :=
  [(0, .acquire 0), (0, .openExclusive 0 false), (0, .writePid 1), (0, .sync), (0, .crash)]

/-- A contender finds that the process of the lock is gone. -/
def judging (process : Nat) : List (Nat × LockStep) :=
  [(process, .acquire 1000), (process, .openExclusive 1000 false), (process, .statLock false),
   (process, .openLock 1001 false), (process, .readLock 1001 false false)]

def takingOver (process : Nat) (now : Int) : List (Nat × LockStep) :=
  [(process, .renameLock false), (process, .removeReclaimed false),
   (process, .openExclusive now false), (process, .writePid now), (process, .sync)]

/-- A run is well timed when each of its steps is. -/
theorem meets_of_check {calls : List (Nat × LockStep)} {state : LockState}
    (check : ∀ count < calls.length, ∀ label ∈ calls[count]?,
      WellTimed ((calls.take count).foldl act state) label) :
    ∀ before label after, calls = before ++ label :: after →
      WellTimed (before.foldl act state) label := by
  rintro before label after rfl
  simpa using check before.length (by simp) label (by simp)

theorem exclusive_crashedOwner :
    ∃ state, state.stage 1 = .entered 1 ∧ Exclusive state := by
  refine ⟨(crashedOwner ++ judging 1 ++ takingOver 1 2000).foldl act start, by decide, ?_⟩
  apply exclusive_of_wellTimed
  apply TransitionSystem.reachableBy_foldl reachableBy_start
  apply meets_of_check
  decide

/-- Both contenders judge the lock of the crashed process; the second renames the
lock that the first has taken. -/
def takeover : List (Nat × LockStep) :=
  crashedOwner ++ judging 1 ++ judging 2 ++ takingOver 1 2000 ++ takingOver 2 3000

/-- Process 0 stops for longer than ten minutes before it writes its identifier. -/
def slowCreator : List (Nat × LockStep) :=
  [(0, .acquire 0), (0, .openExclusive 0 false), (1, .acquire 600001),
   (1, .openExclusive 600001 false), (1, .statLock false), (1, .openLock 600001 false),
   (1, .readLock 600001 false false)] ++ takingOver 1 600002 ++
  [(0, .writePid 600003), (0, .sync)]

/-- Two processes hold the lock, and one has removed that of the other. -/
def Overtaken (first second : Nat) (state : LockState) : Prop :=
  first ≠ second ∧ (state.stage first).Holds ∧ (state.stage second).Holds ∧
    ∃ removal ∈ state.removals, removal.remover = second ∧
      (removal.stages first).Owns removal.file

instance (first second : Nat) (state : LockState) : Decidable (Overtaken first second state) :=
  inferInstanceAs (Decidable (_ ∧ _))

theorem Overtaken.not_exclusive {state : LockState} {first second : Nat}
    (overtaken : Overtaken first second state) : ¬ Exclusive state := by
  obtain ⟨differ, holds, holdsToo, -⟩ := overtaken
  exact fun h => differ (h.one first second holds holdsToo)

/-- Either way a process removes the lock of another and both hold it. -/
theorem overtaken_not_exclusive :
    (∃ state, publishLock.Reachable state ∧ Overtaken 1 2 state ∧ ¬ Exclusive state) ∧
      ∃ state, publishLock.Reachable state ∧ Overtaken 0 1 state ∧ ¬ Exclusive state := by
  have takenOver : Overtaken 1 2 (takeover.foldl act start) := by decide
  have created : Overtaken 0 1 (slowCreator.foldl act start) := by decide
  have reaches (calls : List (Nat × LockStep)) :
      publishLock.Reachable (calls.foldl act start) :=
    TransitionSystem.reachable_foldl reachableBy_start.reachable calls
  exact ⟨⟨_, reaches takeover, takenOver, takenOver.not_exclusive⟩,
    ⟨_, reaches slowCreator, created, created.not_exclusive⟩⟩

end OpenPath.Api.PublishLock
