/-
# The ring of checkpoints

Before an update the agent copies the files that the update may break to the next
slot of a ring, and then moves a pointer file to that slot. A watchdog that finds
the machine broken copies a slot back.

The scripts go on when a command fails, so that each command is done, or fails, or
the process dies in it, possibly after a part of it. Directories are made by `mkdir -p`
along with what is written to them; the services that a restore stops and starts are
left out.
-/

import OpenPath.Foundation.Program
import Mathlib.Logic.Function.Basic

namespace OpenPath.Linux.CheckpointRing

open Foundation

/-- The files of a checkpoint. -/
inductive CheckpointFile
  | dnsmasqConf
  | firefoxPolicies
  | whitelistFile
  deriving DecidableEq

/-- `CHECKPOINT_FILES` -/
def checkpointFiles : List CheckpointFile :=
  [.dnsmasqConf, .firefoxPolicies, .whitelistFile]

theorem mem_checkpointFiles (file : CheckpointFile) : file ∈ checkpointFiles := by
  cases file <;> decide

theorem nodup_checkpointFiles : checkpointFiles.Nodup := by
  decide

/-- What the caller and the clock say about a save. -/
structure Stamp where
  label : String := "auto"
  timestamp : String
  timestampId : String
  version : String := "4.2.0"

/-- The content of `metadata.json`. -/
structure Metadata extends Stamp where
  filesSaved : Nat

/-- `metadata.json` on disk. -/
inductive MetadataFile
  | cut
  | whole (metadata : Metadata)

/-- What there is of each file. -/
abbrev Files (Content : Type) := CheckpointFile → Option Content

/-- The directory of a checkpoint. -/
structure Slot (Content : Type) where
  files : Files Content := fun _ => none
  metadata : Option MetadataFile := none

/-- The file `.current`, which is emptied before it is written. -/
inductive Pointer
  | missing
  | empty
  | holds (slot : Nat)
  deriving DecidableEq

structure Disk (Content : Type) where
  live : Files Content
  slots : Nat → Option (Slot Content)
  current : Pointer

section Commands

variable {Content : Type}

namespace Disk

def setSlot (disk : Disk Content) (slot : Nat) (content : Option (Slot Content)) :
    Disk Content :=
  { disk with slots := Function.update disk.slots slot content }

/-- Writes a file of a slot; the directory is made where it is missing. -/
def putFile (disk : Disk Content) (slot : Nat) (file : CheckpointFile) (content : Content) :
    Disk Content :=
  let old := (disk.slots slot).getD {}
  disk.setSlot slot (some { old with files := Function.update old.files file (some content) })

def setLive (disk : Disk Content) (file : CheckpointFile) (content : Content) :
    Disk Content :=
  { disk with live := Function.update disk.live file (some content) }

end Disk

/-- The commands of a script, as it names them. -/
inductive Command
  | removeSlot
  | makeSlot
  | copyIn (file : CheckpointFile)
  | writeMetadata
  | movePointer
  | copyOut (file : CheckpointFile)

/-- A command with its arguments. -/
inductive Call
  | removeSlot (slot : Nat)
  | makeSlot (slot : Nat)
  | copyIn (slot : Nat) (file : CheckpointFile)
  | writeMetadata (slot : Nat) (metadata : Metadata)
  | movePointer (slot : Nat)
  | copyOut (slot : Nat) (file : CheckpointFile)

def Call.command : Call → Command
  | removeSlot _ => .removeSlot
  | makeSlot _ => .makeSlot
  | copyIn _ file => .copyIn file
  | writeMetadata _ _ => .writeMetadata
  | movePointer _ => .movePointer
  | copyOut _ file => .copyOut file

/-- A part of a command: a file of the slot is gone, or the target has a content for now. -/
inductive Part (Content : Type)
  | removed (file : Option CheckpointFile)
  | written (content : Content)

def perform : Call → Disk Content → Option (Disk Content)
  | .removeSlot slot, disk => some (disk.setSlot slot none)
  | .makeSlot slot, disk => some (disk.setSlot slot (some ((disk.slots slot).getD {})))
  | .copyIn slot file, disk => (disk.live file).map (disk.putFile slot file)
  | .writeMetadata slot metadata, disk =>
      (disk.slots slot).map fun old =>
        disk.setSlot slot (some { old with metadata := some (.whole metadata) })
  | .movePointer slot, disk => some { disk with current := .holds slot }
  | .copyOut slot file, disk =>
      ((disk.slots slot).bind (·.files file)).map (disk.setLive file)

def advance : Call → Part Content → Disk Content → Disk Content
  | .removeSlot slot, .removed none, disk =>
      disk.setSlot slot ((disk.slots slot).map ({ · with metadata := none }))
  | .removeSlot slot, .removed (some file), disk =>
      disk.setSlot slot ((disk.slots slot).map fun old =>
        { old with files := Function.update old.files file none })
  | .copyIn slot file, .written content, disk => disk.putFile slot file content
  | .writeMetadata slot _, .written _, disk =>
      disk.setSlot slot ((disk.slots slot).map ({ · with metadata := some .cut }))
  | .movePointer _, _, disk => { disk with current := .empty }
  | .copyOut _ file, .written content, disk => disk.setLive file content
  | _, _, disk => disk

def fileSystem : Interface (Disk Content) Call (Part Content) where
  perform := perform
  advance := advance

end Commands

/-- An expansion that ends a script. -/
inductive Failure
  | divisionByZero

abbrev Script (Content Result : Type) := Program (Disk Content) Call Failure Result

section Scripts

variable {Content : Type}

/-- Whether a command worked; the script goes on in any case. -/
def attempt (call : Call) : Script Content Bool :=
  .call call (.done true) (.done false)

/-- `get_current_checkpoint`; nothing is the empty text. -/
def currentNumber (disk : Disk Content) : Option Nat :=
  match disk.current with
  | .missing => some 0
  | .empty => none
  | .holds slot => some slot

def getCurrentCheckpoint : Script Content (Option Nat) :=
  Program.observe currentNumber

/-- The value of a text in an arithmetic expansion, where the empty text is zero. -/
def numeral (text : Option Nat) : Nat :=
  text.getD 0

/-- The slot after the current one. -/
def nextSlot (maxCheckpoints : Nat) (disk : Disk Content) : Nat :=
  (numeral (currentNumber disk) + 1) % maxCheckpoints

def saveFiles (slot : Nat) : List CheckpointFile → Nat → Script Content Nat
  | [], saved => pure saved
  | file :: files, saved => do
      if ← Program.observe fun disk => (disk.live file).isSome then
        let copied ← attempt (.copyIn slot file)
        saveFiles slot files (if copied then saved + 1 else saved)
      else
        saveFiles slot files saved

/-- A save up to its last command. -/
def saveSlot (slot : Nat) (stamp : Stamp) : Script Content Unit := do
  let _ ← attempt (.removeSlot slot)
  let _ ← attempt (.makeSlot slot)
  let filesSaved ← saveFiles slot checkpointFiles 0
  let _ ← attempt (.writeMetadata slot { stamp with filesSaved })

def movePointer (slot : Nat) : Script Content Unit := do
  let _ ← attempt (.movePointer slot)

def saveCheckpoint (maxCheckpoints : Nat) (stamp : Stamp) : Script Content Unit := do
  let current ← getCurrentCheckpoint
  if maxCheckpoints = 0 then
    Program.throw .divisionByZero
  else do
    let next := (numeral current + 1) % maxCheckpoints
    saveSlot next stamp
    movePointer next

def restoreFiles (slot : Nat) : List CheckpointFile → Nat → Script Content Nat
  | [], restored => pure restored
  | file :: files, restored => do
      if ← Program.observe fun disk => ((disk.slots slot).bind (·.files file)).isSome then
        let copied ← attempt (.copyOut slot file)
        restoreFiles slot files (if copied then restored + 1 else restored)
      else
        restoreFiles slot files restored

/-- The number in the path of the checkpoint; no directory has a path without one. -/
def targetSlot (target : Option Nat) (disk : Disk Content) : Option Nat :=
  target.or (currentNumber disk)

/-- A restore from the checkpoint that was found, and whether it returns zero. -/
def restoreFound : Option Nat → Script Content Bool
  | none => pure false
  | some slot => do
      let _ ← restoreFiles slot checkpointFiles 0
      pure true

def restoreCheckpoint (target : Option Nat) : Script Content Bool := do
  let path ← Program.observe (targetSlot target)
  let found ← Program.observe fun disk => path.filter fun slot => (disk.slots slot).isSome
  restoreFound found

/-- `get_previous_checkpoint`: the slot before the current one, if it is there. -/
def previousSlot (maxCheckpoints : Nat) (disk : Disk Content) : Option Nat :=
  some ((numeral (currentNumber disk) + maxCheckpoints - 1) % maxCheckpoints) |>.filter
    fun slot => (disk.slots slot).isSome

end Scripts

/-! ## What becomes of an operation -/

variable {Content : Type}

/-- What becomes of each command of an operation. -/
abbrev Fates (Content : Type) := Command → Program.Fate (Part Content)

def execute {Result : Type} (fates : Fates Content) (script : Script Content Result)
    (disk : Disk Content) : Disk Content × Option (Except Failure Result) :=
  script.execute fileSystem (fun call => fates call.command) disk

/-- The commands of a save before it moves the pointer. -/
def saveCommands (live : Files Content) : List Command :=
  [.removeSlot, .makeSlot] ++
    (checkpointFiles.filter fun file => (live file).isSome).map Command.copyIn ++ [.writeMetadata]

/-- Every command of a save works until it moves the pointer. -/
def AllSucceed (live : Files Content) (fates : Fates Content) : Prop :=
  ∀ command ∈ saveCommands live, (fates command).succeeded = true

instance (live : Files Content) (fates : Fates Content) : Decidable (AllSucceed live fates) :=
  inferInstanceAs (Decidable (∀ command ∈ saveCommands live, (fates command).succeeded = true))

/-- The process dies before it moves the pointer. -/
def Interrupted (live : Files Content) (fates : Fates Content) : Prop :=
  ∃ command ∈ saveCommands live, ∃ parts, fates command = .dies parts

/-- The pointer is not moved and not emptied. -/
def PointerLeft (fates : Fates Content) : Prop :=
  fates .movePointer = .fails [] ∨ fates .movePointer = .dies []

/-- What the parts of a copy leave of a file. -/
def overwritten (before : Option Content) (parts : List (Part Content)) : Option Content :=
  parts.foldl (fun now part =>
    match part with
    | .written content => some content
    | .removed _ => now) before

/-- What a restore leaves of a file: one that was not saved is left alone. -/
def restored (saved before : Option Content) (fate : Program.Fate (Part Content)) :
    Option Content :=
  match saved, fate with
  | none, _ => before
  | some content, .succeeds => some content
  | some _, .fails parts => overwritten before parts
  | some _, .dies parts => overwritten before parts

/-! ## Saving -/

section Saving

variable {fates : Fates Content} {slot : Nat} {stamp : Stamp} {disk : Disk Content} {call : Call}
  {inv : Disk Content → Prop}

/-- A command whose failure is not looked at. -/
theorem keeps_attempt (parts : ∀ disk part, inv disk → inv (advance call part disk))
    (whole : ∀ disk after, inv disk → perform call disk = some after → inv after) :
    Program.Keeps fileSystem (fun _ after => inv after) inv
      (attempt call : Script Content Bool) :=
  Program.Keeps.call parts whole (.done true) (.done false)

/-- A save changes its slot and the pointer. -/
structure Touched (slot : Nat) (before after : Disk Content) : Prop where
  live : after.live = before.live
  slots : ∀ other, other ≠ slot → after.slots other = before.slots other

variable {after : Disk Content}

theorem Touched.setSlot (h : Touched slot disk after) (content : Option (Slot Content)) :
    Touched slot disk (after.setSlot slot content) :=
  ⟨h.live, fun other hne => (Function.update_of_ne hne _ _).trans (h.slots other hne)⟩

/-- The commands of a save that write to its slot. -/
def Call.Fills (slot : Nat) (call : Call) : Prop :=
  call = .removeSlot slot ∨ call = .makeSlot slot ∨ (∃ file, call = .copyIn slot file) ∨
    ∃ metadata, call = .writeMetadata slot metadata

theorem Call.Fills.advance_eq (h : call.Fills slot) (part : Part Content) (disk : Disk Content) :
    advance call part disk = disk ∨ ∃ content, advance call part disk = disk.setSlot slot content := by
  obtain rfl | rfl | ⟨file, rfl⟩ | ⟨metadata, rfl⟩ := h
  · cases part with
    | removed file =>
        cases file with
        | none => exact .inr ⟨_, rfl⟩
        | some file => exact .inr ⟨_, rfl⟩
    | written content => exact .inl rfl
  · exact .inl rfl
  · cases part with
    | removed file => exact .inl rfl
    | written content => exact .inr ⟨_, rfl⟩
  · cases part with
    | removed file => exact .inl rfl
    | written content => exact .inr ⟨_, rfl⟩

theorem Call.Fills.perform_eq (h : call.Fills slot) (hperform : perform call disk = some after) :
    ∃ content, after = disk.setSlot slot content := by
  obtain rfl | rfl | ⟨file, rfl⟩ | ⟨metadata, rfl⟩ := h
  · exact ⟨_, (Option.some.inj hperform).symm⟩
  · exact ⟨_, (Option.some.inj hperform).symm⟩
  · obtain ⟨content, _, rfl⟩ := Option.map_eq_some_iff.mp hperform
    exact ⟨_, rfl⟩
  · obtain ⟨old, _, rfl⟩ := Option.map_eq_some_iff.mp hperform
    exact ⟨_, rfl⟩

/-- What does not depend on the slot is kept by what fills it. -/
def Apart (slot : Nat) (inv : Disk Content → Prop) : Prop :=
  ∀ disk content, inv disk → inv (disk.setSlot slot content)

section

variable (hapart : Apart slot inv)
include hapart

theorem Apart.advance (h : call.Fills slot) (disk : Disk Content) (part : Part Content)
    (holds : inv disk) :
    inv (advance call part disk) := by
  obtain heq | ⟨content, heq⟩ := h.advance_eq part disk
  · rwa [heq]
  · rw [heq]
    exact hapart disk content holds

theorem Apart.perform (h : call.Fills slot) (disk after : Disk Content) (holds : inv disk)
    (hperform : perform call disk = some after) :
    inv after := by
  obtain ⟨content, rfl⟩ := h.perform_eq hperform
  exact hapart disk content holds

theorem Apart.keeps (h : call.Fills slot) :
    Program.Keeps fileSystem (fun _ after => inv after) inv
      (attempt call : Script Content Bool) :=
  keeps_attempt (hapart.advance h) (hapart.perform h)

theorem Apart.keeps_saveFiles (files : List CheckpointFile) (saved : Nat) :
    Program.Keeps fileSystem (fun _ after => inv after) inv
      (saveFiles slot files saved : Script Content Nat) := by
  induction files generalizing saved with
  | nil => exact .done saved
  | cons file files ih =>
      apply Program.Keeps.look
      intro disk _
      change Program.Keeps _ _ _ (if (disk.live file).isSome = true then _ else _)
      split
      · exact .bind (hapart.keeps (.inr (.inr (.inl ⟨file, rfl⟩)))) fun copied => ih _
      · exact ih saved

theorem Apart.keeps_saveSlot (stamp : Stamp) :
    Program.Keeps fileSystem (fun _ after => inv after) inv
      (saveSlot slot stamp : Script Content Unit) :=
  .bind (hapart.keeps (.inl rfl)) fun _ =>
    .bind (hapart.keeps (.inr (.inl rfl))) fun _ =>
      .bind (hapart.keeps_saveFiles checkpointFiles 0) fun filesSaved =>
        .bind (hapart.keeps (.inr (.inr (.inr ⟨{ stamp with filesSaved }, rfl⟩)))) fun _ =>
          .done ()

end

theorem apart_touched (slot : Nat) (before : Disk Content) : Apart slot (Touched slot before) :=
  fun _ content h => h.setSlot content

theorem apart_current (slot : Nat) (current : Pointer) :
    Apart slot fun disk : Disk Content => disk.current = current :=
  fun _ _ h => h

theorem apart_live (slot : Nat) (live : Files Content) :
    Apart slot fun disk : Disk Content => disk.live = live :=
  fun _ _ h => h

/-! ### A save that dies -/

/-- From a state with the condition on, a script dies. -/
abbrev Dies {Result : Type} (fates : Fates Content) (inv : Disk Content → Prop)
    (script : Script Content Result) : Prop :=
  Program.Stops fileSystem (fun call => fates call.command) inv script

theorem Apart.dies {Result : Type} (hapart : Apart slot inv) (h : call.Fills slot)
    {rest : Bool → Script Content Result} (hrest : ∀ worked, Dies fates inv (rest worked)) :
    Dies fates inv (attempt call >>= rest) :=
  Program.Stops.call (hapart.advance h) (hapart.perform h) (hrest true) (hrest false)

variable {live : Files Content} {file : CheckpointFile} {parts : List (Part Content)}
  {files : List CheckpointFile}

theorem dies_saveFiles (hexists : (live file).isSome) (hdies : fates (.copyIn file) = .dies parts)
    (hfile : file ∈ files) (saved : Nat) :
    Dies fates (·.live = live) (saveFiles slot files saved) := by
  induction files generalizing saved with
  | nil => exact absurd hfile List.not_mem_nil
  | cons first files ih =>
      apply Program.Stops.look
      rintro disk rfl
      change Dies _ _ (if (disk.live first).isSome = true then _ else _)
      rcases List.mem_cons.mp hfile with rfl | hrest
      · rw [if_pos hexists]
        exact Program.Stops.dies hdies
      · split
        · exact (apart_live slot disk.live).dies (.inr (.inr (.inl ⟨first, rfl⟩)))
            fun worked => ih hrest _
        · exact ih hrest saved

theorem dies_after_saveFiles {Result : Type} {rest : Nat → Script Content Result}
    (h : ∀ saved, Dies fates (·.live = live) (rest saved)) (files : List CheckpointFile)
    (saved : Nat) :
    Dies fates (·.live = live) (saveFiles slot files saved >>= rest) := by
  induction files generalizing saved with
  | nil => exact h saved
  | cons file files ih =>
      apply Program.Stops.look
      rintro disk rfl
      change Dies _ _ ((if (disk.live file).isSome = true then _ else _) >>= rest)
      split
      · change Dies _ _ (attempt (.copyIn slot file) >>= fun copied =>
          saveFiles slot files (if copied then saved + 1 else saved) >>= rest)
        exact (apart_live slot disk.live).dies (.inr (.inr (.inl ⟨file, rfl⟩)))
          fun worked => ih _
      · exact ih saved

theorem dies_saveSlot (h : Interrupted live fates) :
    Dies fates (·.live = live) (saveSlot slot stamp) := by
  obtain ⟨command, hcommand, parts, hdies⟩ := h
  have hlive := apart_live slot live
  simp only [saveCommands, List.cons_append, List.nil_append, List.mem_cons, List.mem_append,
    List.mem_map, List.mem_filter, List.not_mem_nil, or_false] at hcommand
  obtain rfl | rfl | ⟨file, ⟨hfile, hexists⟩, rfl⟩ | rfl := hcommand
  · exact Program.Stops.dies hdies
  · exact hlive.dies (.inl rfl) fun _ => Program.Stops.dies hdies
  · exact hlive.dies (.inl rfl) fun _ => hlive.dies (.inr (.inl rfl)) fun _ =>
      (dies_saveFiles hexists hdies hfile 0).bind
  · exact hlive.dies (.inl rfl) fun _ => hlive.dies (.inr (.inl rfl)) fun _ =>
      dies_after_saveFiles (fun _ => Program.Stops.dies hdies) checkpointFiles 0

/-! ### A save in which nothing goes wrong -/

theorem execute_attempt {Result : Type} {rest : Bool → Script Content Result}
    (hfate : fates call.command = .succeeds) (hperform : perform call disk = some after) :
    execute fates (attempt call >>= rest) disk = execute fates (rest true) after :=
  Program.execute_succeeds hfate hperform

theorem execute_attempt_fails {Result : Type} {rest : Bool → Script Content Result}
    (hfate : fates call.command = .fails parts) :
    execute fates (attempt call >>= rest) disk =
      execute fates (rest false) (Program.advanced fileSystem call parts disk) :=
  Program.execute_fails hfate

theorem execute_attempt_dies {Result : Type} {rest : Bool → Script Content Result}
    (hfate : fates call.command = .dies parts) :
    execute fates (attempt call >>= rest) disk =
      (Program.advanced fileSystem call parts disk, none) :=
  Program.execute_dies hfate

theorem Disk.setSlot_setSlot (disk : Disk Content) (slot : Nat)
    (first second : Option (Slot Content)) :
    (disk.setSlot slot first).setSlot slot second = disk.setSlot slot second := by
  rw [setSlot, setSlot, setSlot, Function.update_idem]

@[simp] theorem Disk.slots_setSlot (disk : Disk Content) (slot : Nat)
    (content : Option (Slot Content)) : (disk.setSlot slot content).slots slot = content :=
  Function.update_self ..

theorem Disk.putFile_setSlot (disk : Disk Content) (slot : Nat) (old : Slot Content)
    (file : CheckpointFile) (content : Content) :
    (disk.setSlot slot (some old)).putFile slot file content =
      disk.setSlot slot
        (some { old with files := Function.update old.files file (some content) }) := by
  rw [putFile, slots_setSlot, Option.getD_some, setSlot_setSlot]

/-- The files of a list on top of others. -/
def onTop (files : List CheckpointFile) (live old : Files Content) : Files Content :=
  fun file => if file ∈ files then (live file).or (old file) else old file

theorem onTop_cons_of_none (h : live file = none) (old : Files Content) :
    onTop (file :: files) live old = onTop files live old := by
  funext other
  by_cases hother : other = file
  · simp [onTop, hother, h]
  · simp [onTop, hother]

theorem onTop_cons_of_some {content : Content} (h : live file = some content)
    (old : Files Content) :
    onTop (file :: files) live old =
      onTop files live (Function.update old file (some content)) := by
  funext other
  by_cases hother : other = file
  · simp [onTop, hother, h]
  · simp [onTop, hother]

theorem onTop_checkpointFiles (live : Files Content) :
    onTop checkpointFiles live (fun _ => none) = live := by
  funext file
  rw [onTop, if_pos (mem_checkpointFiles file), Option.or_none]

theorem execute_saveFiles
    (h : ∀ file ∈ files, (disk.live file).isSome → fates (.copyIn file) = .succeeds)
    (old : Files Content) (saved : Nat) :
    ∃ filesSaved, execute fates (saveFiles slot files saved)
        (disk.setSlot slot (some { files := old })) =
      (disk.setSlot slot (some { files := onTop files disk.live old }),
        some (.ok filesSaved)) := by
  induction files generalizing old saved with
  | nil => exact ⟨saved, rfl⟩
  | cons file files ih =>
      have hrest : ∀ other ∈ files, (disk.live other).isSome →
          fates (.copyIn other) = .succeeds :=
        fun other hother => h other (List.mem_cons_of_mem _ hother)
      change ∃ filesSaved, execute fates (if (disk.live file).isSome = true then _ else _) _ = _
      cases hfile : disk.live file with
      | none =>
          rw [onTop_cons_of_none hfile]
          exact ih hrest old saved
      | some content =>
          have hfate := h file List.mem_cons_self (by rw [hfile]; rfl)
          have hperform : perform (.copyIn slot file) (disk.setSlot slot (some { files := old })) =
              some (disk.setSlot slot
                (some { files := Function.update old file (some content) })) := by
            change (disk.live file).map _ = _
            rw [hfile, Option.map_some, Disk.putFile_setSlot]
          rw [onTop_cons_of_some hfile, if_pos Option.isSome_some,
            execute_attempt hfate hperform]
          exact ih hrest _ _

/-- A save in which nothing goes wrong leaves a whole checkpoint. -/
theorem execute_saveSlot (h : AllSucceed disk.live fates) :
    ∃ metadata, execute fates (saveSlot slot stamp) disk =
      (disk.setSlot slot (some { files := disk.live, metadata := some (.whole metadata) }),
        some (.ok ())) := by
  have hfate : ∀ command ∈ saveCommands disk.live, fates command = .succeeds :=
    fun command hcommand => Program.Fate.eq_of_succeeded (h command hcommand)
  have hremove : execute fates (saveSlot slot stamp) disk = execute fates (do
      let _ ← attempt (.makeSlot slot)
      let filesSaved ← saveFiles slot checkpointFiles 0
      let _ ← attempt (.writeMetadata slot { stamp with filesSaved })) (disk.setSlot slot none) :=
    execute_attempt (hfate _ (by simp [saveCommands, Call.command])) rfl
  have hmake : perform (.makeSlot slot) (disk.setSlot slot none) =
      some (disk.setSlot slot (some {})) := by
    change some _ = _
    rw [Disk.slots_setSlot, Option.getD_none, Disk.setSlot_setSlot]
  have hcopy : ∀ file ∈ checkpointFiles, (disk.live file).isSome →
      fates (.copyIn file) = .succeeds :=
    fun file hfile hexists => hfate _ (by simp [saveCommands, hfile, hexists])
  obtain ⟨filesSaved, hfiles⟩ : ∃ filesSaved,
      execute fates (saveFiles slot checkpointFiles 0) (disk.setSlot slot (some {})) =
        (disk.setSlot slot (some { files := onTop checkpointFiles disk.live fun _ => none }),
          some (.ok filesSaved)) :=
    execute_saveFiles hcopy (fun _ => none) 0
  have hwrite : perform (.writeMetadata slot { stamp with filesSaved })
      (disk.setSlot slot (some { files := disk.live })) =
      some (disk.setSlot slot (some
        { files := disk.live, metadata := some (.whole { stamp with filesSaved }) })) := by
    change Option.map _ _ = _
    rw [Disk.slots_setSlot, Option.map_some, Disk.setSlot_setSlot]
  refine ⟨{ stamp with filesSaved }, ?_⟩
  rw [onTop_checkpointFiles] at hfiles
  rw [hremove, execute_attempt (hfate _ (by simp [saveCommands, Call.command])) hmake]
  refine (Program.execute_bind_ok hfiles).trans ?_
  exact execute_attempt (hfate _ (by simp [saveCommands, Call.command])) hwrite

/-! ### The whole save -/

variable {maxCheckpoints : Nat}

theorem execute_saveCheckpoint (h : maxCheckpoints ≠ 0) :
    execute fates (saveCheckpoint maxCheckpoints stamp) disk =
      execute fates (saveSlot (nextSlot maxCheckpoints disk) stamp >>= fun _ =>
        movePointer (nextSlot maxCheckpoints disk)) disk := by
  change execute fates (if maxCheckpoints = 0 then _ else _) disk = _
  rw [if_neg h]
  rfl

/-- A save stops before the pointer, or it comes to move it. -/
theorem execute_save_cases (fates : Fates Content) (stamp : Stamp) (disk : Disk Content)
    (h : maxCheckpoints ≠ 0) :
    ((execute fates (saveSlot (nextSlot maxCheckpoints disk) stamp) disk).2 ≠ some (.ok ()) ∧
      (execute fates (saveCheckpoint maxCheckpoints stamp) disk).1 =
        (execute fates (saveSlot (nextSlot maxCheckpoints disk) stamp) disk).1) ∨
    ((execute fates (saveSlot (nextSlot maxCheckpoints disk) stamp) disk).2 = some (.ok ()) ∧
      execute fates (saveCheckpoint maxCheckpoints stamp) disk =
        execute fates (movePointer (nextSlot maxCheckpoints disk))
          (execute fates (saveSlot (nextSlot maxCheckpoints disk) stamp) disk).1) := by
  rw [execute_saveCheckpoint h]
  by_cases hended :
      (execute fates (saveSlot (nextSlot maxCheckpoints disk) stamp) disk).2 = some (.ok ())
  · exact .inr ⟨hended, Program.execute_bind_ok (Prod.ext rfl hended)⟩
  · exact .inl ⟨hended, (Program.execute_bind_stopped fun _ => hended).1⟩

theorem touched_saveSlot (fates : Fates Content) (slot : Nat) (stamp : Stamp)
    (disk : Disk Content) : Touched slot disk (execute fates (saveSlot slot stamp) disk).1 :=
  ((apart_touched slot disk).keeps_saveSlot stamp).execute ⟨rfl, fun _ _ => rfl⟩ _

theorem current_saveSlot (fates : Fates Content) (slot : Nat) (stamp : Stamp)
    (disk : Disk Content) :
    (execute fates (saveSlot slot stamp) disk).1.current = disk.current :=
  ((apart_current slot disk.current).keeps_saveSlot stamp).execute rfl _

theorem execute_movePointer (fates : Fates Content) (slot : Nat) (disk : Disk Content) :
    (execute fates (movePointer slot) disk).1.live = disk.live ∧
      (execute fates (movePointer slot) disk).1.slots = disk.slots := by
  have hkeeps : Program.Keeps fileSystem
      (fun _ after => after.live = disk.live ∧ after.slots = disk.slots)
      (fun after => after.live = disk.live ∧ after.slots = disk.slots)
      (movePointer slot : Script Content Unit) :=
    .bind (keeps_attempt (fun _ _ holds => holds) fun _ _ holds hperform => by
      cases hperform
      exact holds) fun _ => .done ()
  exact hkeeps.execute ⟨rfl, rfl⟩ _

theorem execute_movePointer_left (h : PointerLeft fates) :
    (execute fates (movePointer slot) disk).1 = disk := by
  have hcommand : (Call.movePointer slot).command = .movePointer := rfl
  rw [movePointer]
  rcases h with h | h
  · rw [execute_attempt_fails (hcommand ▸ h)]
    rfl
  · rw [execute_attempt_dies (hcommand ▸ h)]
    rfl

theorem execute_movePointer_moved (h : fates .movePointer = .succeeds) :
    (execute fates (movePointer slot) disk).1.current = .holds slot := by
  have hperform : perform (.movePointer slot) disk = some { disk with current := .holds slot } :=
    rfl
  have hcommand : (Call.movePointer slot).command = .movePointer := rfl
  rw [movePointer, execute_attempt (hcommand ▸ h) hperform]
  rfl

/-- Whatever goes wrong, a save keeps the other slots and the files themselves. -/
theorem touched_save (fates : Fates Content) (stamp : Stamp) (disk : Disk Content)
    (h : maxCheckpoints ≠ 0) :
    Touched (nextSlot maxCheckpoints disk) disk
      (execute fates (saveCheckpoint maxCheckpoints stamp) disk).1 := by
  have htouched := touched_saveSlot fates (nextSlot maxCheckpoints disk) stamp disk
  rcases execute_save_cases fates stamp disk h with ⟨_, hstopped⟩ | ⟨_, hended⟩
  · rwa [hstopped]
  · rw [hended]
    obtain ⟨hlive, hslots⟩ := execute_movePointer fates (nextSlot maxCheckpoints disk)
      (execute fates (saveSlot (nextSlot maxCheckpoints disk) stamp) disk).1
    exact ⟨hlive.trans htouched.live,
      fun other hne => (congrFun hslots other).trans (htouched.slots other hne)⟩

/-- The pointer stays where it was when the process dies before it is moved, or its move
does nothing. -/
theorem current_save_of_left (hmax : maxCheckpoints ≠ 0)
    (h : Interrupted disk.live fates ∨ PointerLeft fates) :
    (execute fates (saveCheckpoint maxCheckpoints stamp) disk).1.current = disk.current := by
  have hcurrent := current_saveSlot fates (nextSlot maxCheckpoints disk) stamp disk
  rcases execute_save_cases fates stamp disk hmax with ⟨_, hstopped⟩ | ⟨hok, hended⟩
  · rw [hstopped, hcurrent]
  · rcases h with hdies | hleft
    · exact absurd hok (dies_saveSlot hdies disk rfl ())
    · rw [hended, execute_movePointer_left hleft, hcurrent]

/-- The slot is whole after a save in which nothing goes wrong before the pointer. -/
theorem slots_save_of_allSucceed (hmax : maxCheckpoints ≠ 0) (h : AllSucceed disk.live fates) :
    ∃ metadata, (execute fates (saveCheckpoint maxCheckpoints stamp) disk).1.slots
        (nextSlot maxCheckpoints disk) =
      some { files := disk.live, metadata := some (.whole metadata) } := by
  obtain ⟨metadata, hslot⟩ : ∃ metadata,
      execute fates (saveSlot (nextSlot maxCheckpoints disk) stamp) disk = _ :=
    execute_saveSlot h
  refine ⟨metadata, ?_⟩
  rcases execute_save_cases fates stamp disk hmax with ⟨hstopped, _⟩ | ⟨_, hended⟩
  · exact absurd (congrArg Prod.snd hslot) hstopped
  · rw [hended, (execute_movePointer fates _ _).2, hslot, Disk.slots_setSlot]

theorem current_save_of_allSucceed (hmax : maxCheckpoints ≠ 0) (h : AllSucceed disk.live fates)
    (hmove : fates .movePointer = .succeeds) :
    (execute fates (saveCheckpoint maxCheckpoints stamp) disk).1.current =
      .holds (nextSlot maxCheckpoints disk) := by
  obtain ⟨metadata, hslot⟩ : ∃ metadata,
      execute fates (saveSlot (nextSlot maxCheckpoints disk) stamp) disk = _ :=
    execute_saveSlot h
  rcases execute_save_cases fates stamp disk hmax with ⟨hstopped, _⟩ | ⟨_, hended⟩
  · exact absurd (congrArg Prod.snd hslot) hstopped
  · rw [hended, execute_movePointer_moved hmove]

end Saving

/-! ## Restoring -/

section Restoring

variable {fates : Fates Content} {slot : Nat} {content : Slot Content} {disk : Disk Content}

/-- What a restore of a list of files leaves. -/
def restoredFiles (files : List CheckpointFile) (saved live : Files Content)
    (fates : Fates Content) : Files Content :=
  fun file =>
    if file ∈ files then restored (saved file) (live file) (fates (.copyOut file)) else live file

variable {file : CheckpointFile} {files : List CheckpointFile}

theorem restoredFiles_cons (h : file ∉ files) (saved live : Files Content) (fates : Fates Content) :
    restoredFiles (file :: files) saved live fates =
      restoredFiles files saved
        (Function.update live file (restored (saved file) (live file) (fates (.copyOut file))))
        fates := by
  funext other
  by_cases hother : other = file
  · subst hother
    simp [restoredFiles, h]
  · simp [restoredFiles, hother]

theorem advanced_copyOut (file : CheckpointFile) (parts : List (Part Content)) :
    Program.advanced fileSystem (.copyOut slot file) parts disk =
      { disk with
        live := Function.update disk.live file (overwritten (disk.live file) parts) } := by
  induction parts generalizing disk with
  | nil =>
      change disk = { disk with live := Function.update disk.live file (disk.live file) }
      rw [Function.update_eq_self]
  | cons part parts ih =>
      refine ih.trans ?_
      cases part with
      | removed file => rfl
      | written content =>
          change { disk with live := Function.update (Function.update _ _ _) _ _ } = _
          rw [Function.update_idem]
          change { disk with live := Function.update _ _ (overwritten
            (Function.update disk.live file (some content) file) parts) } = _
          rw [Function.update_self]
          rfl

variable {saved : Content}

theorem perform_copyOut (hslot : disk.slots slot = some content)
    (hfile : content.files file = some saved) :
    perform (.copyOut slot file) disk = some (disk.setLive file saved) := by
  change ((disk.slots slot).bind _).map _ = _
  rw [hslot, Option.bind_some, hfile, Option.map_some]

theorem execute_copyOut {Result : Type} (hslot : disk.slots slot = some content)
    (hfile : content.files file = some saved)
    (hlives : ∀ parts, fates (.copyOut file) ≠ .dies parts) (rest : Bool → Script Content Result) :
    ∃ copied, execute fates (attempt (.copyOut slot file) >>= rest) disk =
      execute fates (rest copied)
        { disk with
          live := Function.update disk.live file
            (restored (content.files file) (disk.live file) (fates (.copyOut file))) } := by
  have hcommand : (Call.copyOut slot file).command = .copyOut file := rfl
  rw [hfile]
  cases hfate : fates (.copyOut file) with
  | succeeds =>
      exact ⟨true, execute_attempt (hcommand ▸ hfate) (perform_copyOut hslot hfile)⟩
  | fails parts =>
      refine ⟨false, ?_⟩
      rw [execute_attempt_fails (hcommand ▸ hfate), advanced_copyOut, restored]
  | dies parts => exact absurd hfate (hlives parts)

theorem execute_restoreFiles (hnodup : files.Nodup) (hslot : disk.slots slot = some content)
    (hlives : ∀ file ∈ files, (content.files file).isSome →
      ∀ parts, fates (.copyOut file) ≠ .dies parts) (count : Nat) :
    ∃ filesRestored, execute fates (restoreFiles slot files count) disk =
      ({ disk with live := restoredFiles files content.files disk.live fates },
        some (.ok filesRestored)) := by
  induction files generalizing disk count with
  | nil => exact ⟨count, rfl⟩
  | cons file files ih =>
      obtain ⟨hfresh, hnodup⟩ := List.nodup_cons.mp hnodup
      have hrest : ∀ other ∈ files, (content.files other).isSome →
          ∀ parts, fates (.copyOut other) ≠ .dies parts :=
        fun other hother => hlives other (List.mem_cons_of_mem _ hother)
      rw [restoredFiles_cons hfresh]
      change ∃ filesRestored, execute fates
        (if ((disk.slots slot).bind (·.files file)).isSome = true then _ else _) disk = _
      rw [hslot, Option.bind_some]
      cases hfile : content.files file with
      | none =>
          rw [restored, Function.update_eq_self]
          exact ih hnodup hslot hrest count
      | some saved =>
          rw [if_pos Option.isSome_some, ← hfile]
          have hlive := hlives file List.mem_cons_self (by rw [hfile]; rfl)
          obtain ⟨copied, heq⟩ := execute_copyOut hslot hfile hlive fun copied =>
            restoreFiles slot files (if copied then count + 1 else count)
          rw [heq]
          exact ih hnodup (by exact hslot) hrest _

theorem dies_restoreFiles (hexists : (content.files file).isSome) {parts : List (Part Content)}
    (hdies : fates (.copyOut file) = .dies parts) (hfile : file ∈ files) (count : Nat) :
    Dies fates (fun disk => disk.slots slot = some content) (restoreFiles slot files count) := by
  induction files generalizing count with
  | nil => exact absurd hfile List.not_mem_nil
  | cons first files ih =>
      apply Program.Stops.look
      intro disk hslot
      change Dies _ _ (if ((disk.slots slot).bind (·.files first)).isSome = true then _ else _)
      rw [hslot, Option.bind_some]
      rcases List.mem_cons.mp hfile with rfl | hrest
      · rw [if_pos hexists]
        exact Program.Stops.dies hdies
      · split
        · refine Program.Stops.call ?_ ?_ (ih hrest _) (ih hrest _)
          · intro now part hnow
            cases part with
            | removed file => exact hnow
            | written content => exact hnow
          · intro now after hnow hperform
            obtain ⟨saved, _, rfl⟩ := Option.map_eq_some_iff.mp hperform
            exact hnow
        · exact ih hrest count

variable {target : Option Nat}

theorem execute_restoreCheckpoint_of_none
    (h : ∀ slot, targetSlot target disk = some slot → disk.slots slot = none) :
    execute fates (restoreCheckpoint target) disk = (disk, some (.ok false)) := by
  have hfound : (targetSlot target disk).filter (fun slot => (disk.slots slot).isSome) = none := by
    rw [Option.filter_eq_none_iff]
    intro slot htarget
    rw [h slot htarget]
    exact Bool.false_ne_true
  change execute fates (restoreFound ((targetSlot target disk).filter
    fun slot => (disk.slots slot).isSome)) disk = _
  rw [hfound]
  rfl

theorem execute_restoreCheckpoint_of_some (htarget : targetSlot target disk = some slot)
    (hslot : disk.slots slot = some content) :
    execute fates (restoreCheckpoint target) disk =
      execute fates (restoreFiles slot checkpointFiles 0 >>= fun _ => pure true) disk := by
  have hfound : (targetSlot target disk).filter (fun slot => (disk.slots slot).isSome) =
      some slot := by
    rw [htarget, Option.filter_some, hslot, Option.isSome_some, if_pos rfl]
  change execute fates (restoreFound ((targetSlot target disk).filter
    fun slot => (disk.slots slot).isSome)) disk = _
  rw [hfound]
  rfl

/-- A restore from a checkpoint that is there dies, or it leaves each file restored. -/
theorem execute_restoreCheckpoint_cases (htarget : targetSlot target disk = some slot)
    (hslot : disk.slots slot = some content) (fates : Fates Content) :
    ((∃ file, (content.files file).isSome ∧ ∃ parts, fates (.copyOut file) = .dies parts) ∧
      (execute fates (restoreCheckpoint target) disk).2 ≠ some (.ok true)) ∨
    ((¬ ∃ file, (content.files file).isSome ∧ ∃ parts, fates (.copyOut file) = .dies parts) ∧
      execute fates (restoreCheckpoint target) disk =
        ({ disk with live := restoredFiles checkpointFiles content.files disk.live fates },
          some (.ok true))) := by
  rw [execute_restoreCheckpoint_of_some htarget hslot]
  by_cases hdies : ∃ file, (content.files file).isSome ∧ ∃ parts, fates (.copyOut file) = .dies parts
  · obtain ⟨file, hexists, parts, hfate⟩ := hdies
    exact .inl ⟨⟨file, hexists, parts, hfate⟩,
      (dies_restoreFiles hexists hfate (mem_checkpointFiles file) 0).bind disk hslot true⟩
  · have hlives : ∀ file ∈ checkpointFiles, (content.files file).isSome →
        ∀ parts, fates (.copyOut file) ≠ .dies parts :=
      fun file _ hexists parts hfate => hdies ⟨file, hexists, parts, hfate⟩
    obtain ⟨count, heq⟩ := execute_restoreFiles nodup_checkpointFiles hslot hlives 0
    exact .inr ⟨hdies, Program.execute_bind_ok heq⟩

theorem exists_slot_of_restored
    (h : (execute fates (restoreCheckpoint target) disk).2 = some (.ok true)) :
    ∃ slot content, targetSlot target disk = some slot ∧ disk.slots slot = some content := by
  by_contra hnone
  have hmissing : ∀ slot, targetSlot target disk = some slot → disk.slots slot = none := by
    intro slot htarget
    by_contra hslot
    obtain ⟨content, hslot⟩ := Option.ne_none_iff_exists'.mp hslot
    exact hnone ⟨slot, content, htarget, hslot⟩
  rw [execute_restoreCheckpoint_of_none hmissing] at h
  cases h

theorem restoredFiles_checkpointFiles (saved live : Files Content) (fates : Fates Content)
    (file : CheckpointFile) :
    restoredFiles checkpointFiles saved live fates file =
      restored (saved file) (live file) (fates (.copyOut file)) :=
  if_pos (mem_checkpointFiles file)

theorem keeps_restoreFiles (slot : Nat) (slots : Nat → Option (Slot Content)) (current : Pointer)
    (files : List CheckpointFile) (count : Nat) :
    Program.Keeps fileSystem (fun _ after => after.slots = slots ∧ after.current = current)
      (fun disk => disk.slots = slots ∧ disk.current = current)
      (restoreFiles slot files count : Script Content Nat) := by
  induction files generalizing count with
  | nil => exact .done count
  | cons file files ih =>
      apply Program.Keeps.look
      intro disk _
      change Program.Keeps _ _ _
        (if ((disk.slots slot).bind (·.files file)).isSome = true then _ else _)
      split
      · refine .bind (keeps_attempt ?_ ?_) fun copied => ih _
        · intro now part hnow
          cases part with
          | removed file => exact hnow
          | written content => exact hnow
        · intro now after hnow hperform
          obtain ⟨saved, _, rfl⟩ := Option.map_eq_some_iff.mp hperform
          exact hnow
      · exact ih count

theorem restore_keeps (fates : Fates Content) (target : Option Nat) (disk : Disk Content) :
    (execute fates (restoreCheckpoint target) disk).1.slots = disk.slots ∧
      (execute fates (restoreCheckpoint target) disk).1.current = disk.current := by
  have hkeeps : Program.Keeps fileSystem
      (fun _ after => after.slots = disk.slots ∧ after.current = disk.current)
      (fun after => after.slots = disk.slots ∧ after.current = disk.current)
      (restoreCheckpoint target) := by
    apply Program.Keeps.look
    intro path _
    apply Program.Keeps.look
    intro found _
    change Program.Keeps _ _ _ (restoreFound ((targetSlot target path).filter _))
    cases (targetSlot target path).filter fun slot => (found.slots slot).isSome with
    | none => exact .done false
    | some slot =>
        exact .bind (keeps_restoreFiles slot disk.slots disk.current checkpointFiles 0)
          fun _ => .done true
  exact hkeeps.execute ⟨rfl, rfl⟩ _

end Restoring

end OpenPath.Linux.CheckpointRing
