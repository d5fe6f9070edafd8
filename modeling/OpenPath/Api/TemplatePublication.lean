/-
# Publication of the template is atomic

What a provisioner creates and removes has names that no reader looks at, except
for the generations and the pointer. A generation is removed only where it is not
the current one, and it appears, complete, at a path that no reader looks at; only
the renaming of the pointer brings it in sight.
-/

import OpenPath.Api.TemplateProvision

namespace OpenPath.Api.TemplatePublication

open Foundation OfflineInstaller TemplateLoader TemplateProvision
open DownloadRefs (isHexDigit uuidPattern)

variable {templateDir : Path} {pin : Pin}

/-! ## Paths apart from what is watched -/

/-- Neither above nor below anything that the reader looks at. -/
def Apart (templateDir : Path) (pin : Pin) (disk : Disk) (path : Path) : Prop :=
  ∀ watched, Watched templateDir pin disk watched → ¬ path <+: watched ∧ ¬ watched <+: path

section Apart

variable {before after : Disk} {path : Path}

theorem Apart.append (apart : Apart templateDir pin before path) (below : Path) :
    Apart templateDir pin before (path ++ below) := by
  intro watched h
  obtain ⟨notAbove, notBelow⟩ := apart watched h
  refine ⟨fun above => notAbove ((List.prefix_append path below).trans above), ?_⟩
  intro inside
  rcases List.prefix_or_prefix_of_prefix inside (List.prefix_append path below) with h | h
  · exact notBelow h
  · exact notAbove h

theorem Apart.kept (apart : Apart templateDir pin before path) (new : Option Disk) (now : Int) :
    Kept templateDir pin before (before.replace new now path) :=
  fun watched h => FileTree.sight_replace_of_not_prefix (apart watched h).1 before

end Apart

variable {disk : Disk} {path : Path}

theorem watched_shape (watched : Watched templateDir pin disk path) :
    ∃ last, path = templateDir ++ pin.version :: pin.commit :: last ∧
      ((∃ name ∈ currentFileName :: bundleFileNames, last = [name]) ∨
        ∃ generationName rest, last = generationsDirName :: generationName :: rest ∧
          currentPointer (pin.directory templateDir) disk = .names generationName) := by
  rcases watched with rfl | ⟨fileName, member, rfl⟩ | ⟨name, pointer, rfl | ⟨fileName, -, rfl⟩⟩
  · exact ⟨[currentFileName], by simp [Pin.directory, commitDirectory],
      .inl ⟨currentFileName, by simp, rfl⟩⟩
  · exact ⟨[fileName], by simp [Pin.directory, commitDirectory],
      .inl ⟨fileName, List.mem_cons_of_mem _ member, rfl⟩⟩
  · exact ⟨[generationsDirName, name], by simp [Pin.directory, commitDirectory, generationDirectory],
      .inr ⟨name, [], rfl, pointer⟩⟩
  · exact ⟨[generationsDirName, name, fileName],
      by simp [Pin.directory, commitDirectory, generationDirectory],
      .inr ⟨name, [fileName], rfl, pointer⟩⟩

/-! ## Names that no reader looks at -/

/-- The name of a leftover, a lock or a temporary file: it begins with a dot and is
not that of the pointer. -/
def Hidden (name : Text) : Prop := (∃ rest, name = '.' :: rest) ∧ name ≠ currentFileName

variable {name : Text}

theorem version_ne_of_hidden (hidden : Hidden name) : name ≠ pin.version := by
  rintro rfl
  obtain ⟨⟨rest, start⟩, -⟩ := hidden
  have valid := pin.version_valid
  rw [start] at valid
  simp [isTemplateVersion, isAlphanumeric] at valid

variable {rest : Text}

theorem commit_ne_of_not_hex {c : Char} (notHex : isHexDigit c = false) :
    c :: rest ≠ pin.commit := by
  intro start
  have valid := pin.commit_valid
  rw [← start] at valid
  simp [isFullCommitSha, notHex] at valid

theorem commit_ne_of_hidden (hidden : Hidden name) : name ≠ pin.commit := by
  obtain ⟨⟨rest, rfl⟩, -⟩ := hidden
  exact commit_ne_of_not_hex (by decide)

theorem generationsDirName_ne_commit : generationsDirName ≠ pin.commit :=
  commit_ne_of_not_hex (c := 'g') (by decide)

theorem head_of_mem_bundleFileNames (member : name ∈ bundleFileNames) : name.head? = some 'O' := by
  simp only [bundleFileNames, List.mem_cons, List.not_mem_nil, or_false] at member
  rcases member with rfl | rfl | rfl <;> rfl

theorem not_mem_of_hidden (hidden : Hidden name) : name ∉ currentFileName :: bundleFileNames := by
  obtain ⟨⟨rest, rfl⟩, notCurrent⟩ := hidden
  intro member
  rcases List.mem_cons.mp member with same | member
  · exact notCurrent same
  · have head := head_of_mem_bundleFileNames member
    simp at head

theorem head_currentFileName : currentFileName.head? = some '.' := rfl

theorem head_generationsDirName : generationsDirName.head? = some 'g' := rfl

theorem generationsDirName_not_mem : generationsDirName ∉ currentFileName :: bundleFileNames := by
  intro member
  have head := head_generationsDirName
  rcases List.mem_cons.mp member with same | member
  · rw [same, head_currentFileName] at head
    simp at head
  · rw [head_of_mem_bundleFileNames member] at head
    simp at head

theorem ne_generationsDirName_of_hidden (hidden : Hidden name) : name ≠ generationsDirName := by
  obtain ⟨⟨rest, rfl⟩, -⟩ := hidden
  intro same
  have head := head_generationsDirName
  rw [← same] at head
  simp at head

/-- A hidden entry of the storage root, of a version or of a commit. -/
theorem apart_of_hidden (relative : Path) (short : relative.length ≤ 2) (hidden : Hidden name)
    (disk : Disk) :
    Apart templateDir pin disk (templateDir ++ (relative ++ [name])) := by
  intro watched h
  obtain ⟨last, rfl, shape⟩ := watched_shape h
  rw [List.prefix_append_right_inj, List.prefix_append_right_inj]
  match relative, short with
  | [], _ =>
      have differ : name ≠ pin.version := version_ne_of_hidden hidden
      simp [List.cons_prefix_cons, differ, differ.symm]
  | [version], _ =>
      have differ : name ≠ pin.commit := commit_ne_of_hidden hidden
      simp [List.cons_prefix_cons, differ, differ.symm]
  | [version, commit], _ =>
      rcases shape with ⟨other, member, rfl⟩ | ⟨generationName, rest, rfl, -⟩
      · have differ : name ≠ other := fun same => not_mem_of_hidden hidden (same ▸ member)
        simp [List.cons_prefix_cons, differ, differ.symm]
      · have differ := ne_generationsDirName_of_hidden hidden
        simp [List.cons_prefix_cons, differ, differ.symm]

/-- A generation that is not the current one. -/
theorem apart_of_other_generation (relative : Path) (short : relative.length ≤ 2)
    (notCommit : name ≠ pin.commit)
    (other : templateDir ++ relative = pin.directory templateDir →
      currentPointer (pin.directory templateDir) disk ≠ .names name) :
    Apart templateDir pin disk (templateDir ++ (relative ++ [generationsDirName, name])) := by
  intro watched h
  obtain ⟨last, rfl, shape⟩ := watched_shape h
  rw [List.prefix_append_right_inj, List.prefix_append_right_inj]
  match relative, short with
  | [], _ => simp [List.cons_prefix_cons, notCommit, notCommit.symm]
  | [version], _ =>
      have differ : generationsDirName ≠ pin.commit := generationsDirName_ne_commit
      simp [List.cons_prefix_cons, differ, differ.symm]
  | [version, commit], _ =>
      rcases shape with ⟨fileName, member, rfl⟩ | ⟨generationName, rest, rfl, pointer⟩
      · have differ : generationsDirName ≠ fileName := fun same =>
          generationsDirName_not_mem (same ▸ member)
        simp [List.cons_prefix_cons, differ, differ.symm]
      · have differ : version = pin.version → commit = pin.commit → name ≠ generationName := by
          rintro rfl rfl rfl
          exact other rfl pointer
        refine ⟨?_, ?_⟩
        · simp only [List.cons_append, List.nil_append, List.cons_prefix_cons]
          rintro ⟨rfl, rfl, -, rfl, -⟩
          exact differ rfl rfl rfl
        · simp only [List.cons_append, List.nil_append, List.cons_prefix_cons]
          rintro ⟨rfl, rfl, -, rfl, -⟩
          exact differ rfl rfl rfl

/-! ### The names of leftovers -/

theorem hidden_of_head {c : Char} (start : name = '.' :: c :: rest)
    (differs : c ≠ 'c' ∨ name.length ≠ currentFileName.length) : Hidden name := by
  refine ⟨⟨c :: rest, start⟩, ?_⟩
  rintro rfl
  rcases differs with differs | differs
  · have second : currentFileName.tail.head? = some 'c' := rfl
    rw [start] at second
    exact differs (by simpa using second)
  · exact differs rfl

theorem hidden_stagingName (suffix : Text) :
    Hidden (".openpath-windows-template-".toList ++ suffix) :=
  hidden_of_head rfl (.inl (by decide))

theorem hidden_of_stagingRootPattern (accepted : stagingRootPattern.accepts name = true) :
    Hidden name := by
  obtain ⟨first, word, second, -, rfl⟩ :=
    (Re.mem_lang_cat _ _ _).mp ((Re.accepts_iff _ _).mp accepted)
  rw [(Re.mem_lang_word _ _).mp word]
  exact hidden_stagingName second

theorem hidden_of_legacyQuarantinePattern (accepted : legacyQuarantinePattern.accepts name = true) :
    Hidden name := by
  obtain ⟨first, dot, second, -, rfl⟩ :=
    (Re.mem_lang_cat _ _ _).mp ((Re.accepts_iff _ _).mp accepted)
  rw [(Re.mem_lang_lit _ _).mp dot] at accepted ⊢
  refine ⟨⟨second, rfl⟩, ?_⟩
  intro same
  rw [same] at accepted
  exact absurd accepted (by decide)

theorem hidden_pointerTempName (rest : Text) : Hidden (".current.".toList ++ rest) := by
  refine hidden_of_head rfl (.inr ?_)
  have length : currentFileName.length = 8 := rfl
  have longer : ".current.".toList.length = 9 := rfl
  rw [List.length_append, length, longer]
  omega

theorem hidden_of_pointerTempPattern (accepted : pointerTempPattern.accepts name = true) :
    Hidden name := by
  obtain ⟨first, word, second, -, rfl⟩ :=
    (Re.mem_lang_cat _ _ _).mp ((Re.accepts_iff _ _).mp accepted)
  rw [(Re.mem_lang_word _ _).mp word]
  exact hidden_pointerTempName second

theorem hidden_publishLockFileName : Hidden publishLockFileName :=
  hidden_of_head rfl (.inl (by decide))

theorem hidden_reclaimedName (rest : Text) : Hidden (publishLockFileName ++ rest) :=
  hidden_of_head rfl (.inl (by decide))

theorem ne_commit_of_abandonedGenerationPattern
    (accepted : abandonedGenerationPattern.accepts name = true) : name ≠ pin.commit := by
  obtain ⟨first, word, second, -, rfl⟩ :=
    (Re.mem_lang_cat _ _ _).mp ((Re.accepts_iff _ _).mp accepted)
  rw [(Re.mem_lang_word _ _).mp word]
  exact commit_ne_of_not_hex (c := 'g') (by decide)

variable {storage : Storage}

theorem parent_of_hasParent (there : storage.hasParent path = true) :
    ∃ dir name, path = dir ++ [name] ∧ storage.disk.sight dir = .directory := by
  simp only [Storage.hasParent, decide_eq_true_eq] at there
  obtain ⟨nonempty, parent⟩ := there
  exact ⟨path.dropLast, path.getLast nonempty, (List.dropLast_append_getLast nonempty).symm, parent⟩

variable {after : Storage} {source target : Path}

section

variable (performed : storage.rename source target = some after)
include performed

theorem rename_eq_some :
    ∃ tree, storage.disk.find? source = some tree ∧ storage.hasParent target = true ∧
      ¬ source <+: target ∧ after = (storage.replace source none).put target tree := by
  unfold Storage.rename at performed
  split at performed
  · cases performed
  · rename_i tree found
    split at performed
    · rename_i allowed
      simp only [Bool.and_eq_true, Bool.not_eq_true'] at allowed
      obtain ⟨⟨⟨-, parent⟩, -⟩, apart⟩ := allowed
      refine ⟨tree, found, parent, fun above => ?_, (Option.some.inj performed).symm⟩
      simp [List.isPrefixOf_iff_prefix.mpr above] at apart
    · cases performed

theorem sight_rename (rest : Path) :
    after.disk.sight (target ++ rest) = storage.disk.sight (source ++ rest) := by
  obtain ⟨tree, found, parent, apart, rfl⟩ := rename_eq_some performed
  obtain ⟨dir, name, rfl, directory⟩ := parent_of_hasParent parent
  have parent_kept : (storage.replace source none).disk.sight dir = .directory := by
    rw [← directory]
    exact FileTree.sight_replace_of_not_prefix
      (fun above => apart (above.trans (List.prefix_append _ _))) storage.disk
  rw [FileTree.sight_append_of_find? found, List.append_assoc, List.singleton_append]
  exact FileTree.sight_replace_append parent_kept rest

theorem sight_rename_of_not_prefix (notSource : ¬ source <+: path) (notTarget : ¬ target <+: path) :
    after.disk.sight path = storage.disk.sight path := by
  obtain ⟨tree, -, -, -, rfl⟩ := rename_eq_some performed
  exact (FileTree.sight_replace_of_not_prefix notTarget _).trans
    (FileTree.sight_replace_of_not_prefix notSource storage.disk)

/-- A reader that looks at neither name notices nothing. -/
theorem kept_rename (sourceApart : Apart templateDir pin storage.disk source)
    (targetApart : Apart templateDir pin storage.disk target) :
    Kept templateDir pin storage.disk after.disk :=
  fun path watched => sight_rename_of_not_prefix performed (sourceApart path watched).1
    (targetApart path watched).1

end

/-- `chmod`, and `sync` of a file or of a directory, change nothing here. -/
theorem same_of_exists
    (performed : (if sightExists (storage.disk.sight path) then some storage else none) =
      some after) : after = storage := by
  split at performed
  · exact (Option.some.inj performed).symm
  · cases performed

/-! ## Calls that no reader notices -/

/-- The removals that are noted are of paths apart from what readers look at. -/
def Logged (templateDir : Path) (before after : Storage) : Prop :=
  after.removals = before.removals ∨
    ∃ path, after.removals = { path, disk := before.disk } :: before.removals ∧
      ∀ pin, Apart templateDir pin before.disk path

def Quiet (templateDir : Path) (before after : Storage) : Prop :=
  (∀ pin, Kept templateDir pin before.disk after.disk) ∧ Logged templateDir before after

section Calls

variable {storage after : Storage} {path : Path}

theorem Quiet.refl (storage : Storage) : Quiet templateDir storage storage :=
  ⟨fun _ => .refl _, .inl rfl⟩

theorem quiet_tick (now : Int) : Quiet templateDir storage { storage with clock := now } :=
  ⟨fun _ => .refl _, .inl rfl⟩

section

variable (apart : ∀ pin, Apart templateDir pin storage.disk path)
include apart

theorem quiet_replace (new : Option Disk) : Quiet templateDir storage (storage.replace path new) :=
  ⟨fun pin => (apart pin).kept new storage.clock, .inl rfl⟩

theorem quiet_writeFile {content : Bytes} (written : storage.writeFile path content = some after) :
    Quiet templateDir storage after := by
  unfold Storage.writeFile at written
  split at written
  · obtain rfl := Option.some.inj written
    exact quiet_replace apart _
  · cases written

theorem quiet_remove (removed : storage.remove path = some after) : Quiet templateDir storage after := by
  have unlinked : Quiet templateDir storage (storage.unlink path) :=
    ⟨fun pin => (apart pin).kept none storage.clock, .inr ⟨path, rfl, apart⟩⟩
  unfold Storage.remove at removed
  split at removed
  · obtain rfl := Option.some.inj removed
    exact .refl storage
  · cases removed
  · cases removed
  · split at removed
    · obtain rfl := Option.some.inj removed
      exact unlinked
    · cases removed

end

/-- A new directory at a path that no reader looks at, though it may look below. -/
theorem quiet_createDirectory
    (unwatched : ∀ pin, ¬ Watched templateDir pin storage.disk path)
    (created : storage.createDirectory path = some after) : Quiet templateDir storage after := by
  unfold Storage.createDirectory at created
  split at created
  · rename_i free
    obtain rfl := Option.some.inj created
    refine ⟨fun pin watched h => ?_, .inl rfl⟩
    by_cases below : path <+: watched
    · obtain ⟨rest, rfl⟩ := below
      obtain ⟨dir, name, rfl, parent⟩ := parent_of_hasParent free.2
      rw [FileTree.sight_append_of_missing free.1]
      cases rest with
      | nil => exact absurd (by simpa using h) (unwatched pin)
      | cons first rest =>
          rw [List.append_assoc, List.singleton_append]
          exact FileTree.sight_replace_append parent _
    · exact FileTree.sight_replace_of_not_prefix below _
  · cases created

end Calls

/-- A program that keeps a condition and is noticed by no reader. -/
def Harmless (templateDir : Path) (inv : Storage → Prop) {Result : Type}
    (program : Provision Result) : Prop :=
  Program.Keeps fileSystem (Quiet templateDir) inv program

section Harmless

variable {inv : Storage → Prop}
  (stable : ∀ before after, inv before → Quiet templateDir before after → inv after)
  {path : Path}

include stable

variable {call : FsCall}

theorem harmless_io
    (parts : ∀ storage progress, inv storage →
      Quiet templateDir storage (fileSystem.advance call progress storage))
    (whole : ∀ storage after, inv storage → fileSystem.perform call storage = some after →
      Quiet templateDir storage after) :
    Harmless templateDir inv (io call) :=
  Program.Keeps.perform stable parts whole

section

variable (apart : ∀ storage, inv storage → ∀ pin, Apart templateDir pin storage.disk path)
include apart

theorem harmless_remove : Harmless templateDir inv (io (.remove path)) := by
  refine harmless_io stable ?_ fun storage after holds => quiet_remove (apart storage holds)
  intro storage progress holds
  cases progress with
  | tick now => exact quiet_tick now
  | written length => exact .refl storage
  | removed below =>
      have apartBelow pin := (apart storage holds pin).append below
      cases removed : storage.remove (path ++ below) with
      | none => simpa [fileSystem, removed] using Quiet.refl storage
      | some after => simpa [fileSystem, removed] using quiet_remove apartBelow removed

theorem harmless_write {content : Bytes} : Harmless templateDir inv (io (.write path content)) := by
  refine harmless_io stable ?_ fun storage after holds => quiet_writeFile (apart storage holds)
  intro storage progress holds
  cases progress with
  | tick now => exact quiet_tick now
  | removed below => exact .refl storage
  | written length =>
      cases written : storage.writeFile path (content.take length) with
      | none => simpa [fileSystem, written] using Quiet.refl storage
      | some after =>
          simpa [fileSystem, written] using quiet_writeFile (apart storage holds) written

end

theorem harmless_whole
    (noParts : ∀ storage length below,
      fileSystem.advance call (.written length) storage = storage ∧
        fileSystem.advance call (.removed below) storage = storage)
    (whole : ∀ storage after, inv storage → fileSystem.perform call storage = some after →
      Quiet templateDir storage after) :
    Harmless templateDir inv (io call) := by
  refine harmless_io stable ?_ whole
  intro storage progress _
  cases progress with
  | tick now => exact quiet_tick now
  | written length =>
      rw [(noParts storage length []).1]
      exact .refl storage
  | removed below =>
      rw [(noParts storage 0 below).2]
      exact .refl storage

theorem harmless_createExclusive
    (apart : ∀ storage, inv storage → ∀ pin, Apart templateDir pin storage.disk path) :
    Harmless templateDir inv (io (.createExclusive path)) := by
  refine harmless_whole stable (fun _ _ _ => ⟨rfl, rfl⟩) ?_
  intro storage after holds performed
  simp only [fileSystem] at performed
  split at performed
  · exact quiet_writeFile (apart storage holds) performed
  · cases performed

section

variable (unwatched : ∀ storage, inv storage → ∀ pin, ¬ Watched templateDir pin storage.disk path)
include unwatched

theorem harmless_mkdir : Harmless templateDir inv (io (.mkdir path)) := by
  refine harmless_whole stable (fun _ _ _ => ⟨rfl, rfl⟩) ?_
  intro storage after holds performed
  simp only [fileSystem] at performed
  split at performed
  · obtain rfl := Option.some.inj performed
    exact .refl storage
  · exact quiet_createDirectory (unwatched storage holds) performed

theorem harmless_mkdtemp : Harmless templateDir inv (io (.mkdtemp path)) :=
  harmless_whole stable (fun _ _ _ => ⟨rfl, rfl⟩)
    fun storage _ holds performed => quiet_createDirectory (unwatched storage holds) performed

end

theorem harmless_chmod : Harmless templateDir inv (io (.chmod path)) := by
  refine harmless_whole stable (fun _ _ _ => ⟨rfl, rfl⟩) ?_
  intro storage after _ performed
  rw [same_of_exists performed]
  exact .refl storage

theorem harmless_sync : Harmless templateDir inv (io (.sync path)) := by
  refine harmless_whole stable (fun _ _ _ => ⟨rfl, rfl⟩) ?_
  intro storage after _ performed
  rw [same_of_exists performed]
  exact .refl storage

theorem harmless_rename {source target : Path}
    (sourceApart : ∀ storage, inv storage → ∀ pin, Apart templateDir pin storage.disk source)
    (targetApart : ∀ storage, inv storage → ∀ pin, Apart templateDir pin storage.disk target) :
    Harmless templateDir inv (io (.rename source target)) := by
  refine harmless_whole stable (fun _ _ _ => ⟨rfl, rfl⟩) ?_
  intro storage after holds performed
  refine ⟨fun pin => kept_rename performed (sourceApart storage holds pin)
    (targetApart storage holds pin), ?_⟩
  obtain ⟨tree, -, -, -, rfl⟩ := rename_eq_some performed
  exact .inl rfl

end Harmless

/-! ## Clearing away -/

section Cleanup

variable {inv : Storage → Prop}
  (stable : ∀ before after, inv before → Quiet templateDir before after → inv after)

include stable

theorem harmless_removeIfStale {candidate : Path} (cutoff : Int)
    (apart : ∀ storage, inv storage → ∀ pin, Apart templateDir pin storage.disk candidate) :
    Harmless templateDir inv (removeIfStale candidate cutoff) := by
  refine .look fun storage _ => ?_
  split
  · exact .done ()
  · split
    · exact .done ()
    · exact .catching (harmless_remove stable apart) fun _ => .done ()

theorem harmless_reclaimStaleFilesystemLock (relative : Path) (short : relative.length ≤ 2)
    (id : Text) :
    Harmless templateDir inv (reclaimStaleFilesystemLock (templateDir ++ relative) id) := by
  have lock (storage : Storage) (pin : Pin) :
      Apart templateDir pin storage.disk (lockPath (templateDir ++ relative)) := by
    simpa [lockPath] using apart_of_hidden relative short hidden_publishLockFileName storage.disk
  have reclaimed (storage : Storage) (pin : Pin) :
      Apart templateDir pin storage.disk (reclaimedPath (templateDir ++ relative) id) := by
    simpa [reclaimedPath] using
      apart_of_hidden relative short (hidden_reclaimedName ('.' :: id ++ ".stale".toList)) storage.disk
  refine .bind (.attempt (harmless_rename stable (fun s _ => lock s) fun s _ => reclaimed s)) ?_
  rintro (error | _)
  · exact .look fun _ _ => .done _
  · exact .bind (harmless_remove stable fun s _ => reclaimed s) fun _ => .done _

variable {relative : Path}

theorem harmless_cleanupGenerationDirectory (short : relative.length ≤ 2) {currentName : Text}
    (cutoff : Int)
    (current : ∀ storage, inv storage → ∀ pin : Pin,
      templateDir ++ relative = pin.directory templateDir →
        currentPointer (pin.directory templateDir) storage.disk = .names currentName) :
    Harmless templateDir inv
      (cleanupGenerationDirectory (templateDir ++ relative ++ [generationsDirName]) currentName
        cutoff) := by
  refine .look fun storage _ => ?_
  split
  · exact .done ()
  · refine .forEach fun entry _ => ?_
    split
    · rename_i old
      refine harmless_removeIfStale stable cutoff fun later holds pin => ?_
      have apart : Apart templateDir pin later.disk
          (templateDir ++ (relative ++ [generationsDirName, entry.1])) := by
        refine apart_of_other_generation relative short
          (ne_commit_of_abandonedGenerationPattern old.2.2) fun here named => ?_
        rw [current later holds pin here] at named
        exact old.2.1 (CurrentPointer.names.inj named).symm
      simpa using apart
    · exact .done ()

theorem harmless_cleanupEntry (chances : Chances) (short : relative.length ≤ 2)
    {current : CurrentPointer} (cutoff : Int) (entry : Text × Bool)
    (same : ∀ storage, inv storage → ∀ pin : Pin,
      templateDir ++ relative = pin.directory templateDir →
        currentPointer (pin.directory templateDir) storage.disk = current) :
    Harmless templateDir inv (cleanupEntry chances (templateDir ++ relative) current cutoff entry) := by
  have leftover (hidden : Hidden entry.1) :
      Harmless templateDir inv (removeIfStale (templateDir ++ relative ++ [entry.1]) cutoff) :=
    harmless_removeIfStale stable cutoff fun storage _ pin => by
      simpa using apart_of_hidden relative short hidden storage.disk
  unfold cleanupEntry
  split
  · split
    · rename_i accepted
      rcases (by simpa using accepted :
        stagingRootPattern.accepts entry.1 = true ∨
          legacyQuarantinePattern.accepts entry.1 = true) with staging | quarantine
      · exact leftover (hidden_of_stagingRootPattern staging)
      · exact leftover (hidden_of_legacyQuarantinePattern quarantine)
    · split
      · rename_i generations
        split
        · rw [generations]
          exact harmless_cleanupGenerationDirectory stable short cutoff same
        · exact .done ()
      · exact .done ()
  · split
    · rename_i accepted
      exact leftover (hidden_of_pointerTempPattern accepted)
    · split
      · exact .bind (harmless_reclaimStaleFilesystemLock stable relative short _) fun _ => .done ()
      · exact .done ()

end Cleanup

/-- A reader of this directory finds the pointer that was there before. -/
def SamePointer (templateDir relative : Path) (before after : Storage) : Prop :=
  ∀ pin : Pin, templateDir ++ relative = pin.directory templateDir →
    currentPointer (pin.directory templateDir) after.disk =
      currentPointer (templateDir ++ relative) before.disk

variable {relative : Path}

theorem SamePointer.quiet {start : Storage} (before after : Storage)
    (same : SamePointer templateDir relative start before)
    (quiet : Quiet templateDir before after) : SamePointer templateDir relative start after :=
  fun pin here => (quiet.1 pin).pointer.trans (same pin here)

/-- The pointer is read once for each directory; no removal in between changes it. -/
theorem harmless_cleanupDirectory (chances : Chances) (cutoff : Int) (short : relative.length ≤ 2) :
    Harmless templateDir (fun _ => True)
      (cleanupDirectory chances cutoff (templateDir ++ relative)) := by
  intro storage _
  refine Program.Wp.look ?_
  split
  · trivial
  · have round (entry : Text × Bool) :
        Harmless templateDir (SamePointer templateDir relative storage)
          (cleanupEntry chances (templateDir ++ relative)
            (currentPointer (templateDir ++ relative) storage.disk) cutoff entry) :=
      harmless_cleanupEntry SamePointer.quiet chances short cutoff entry fun later holds => holds
    have here : SamePointer templateDir relative storage storage := fun pin here => here ▸ rfl
    exact (Program.Keeps.forEach (fun entry _ => round entry) storage here).mono
      fun _ _ _ => trivial

variable {directory : Path}

theorem mem_subdirectories (member : directory ∈ subdirectories path disk) :
    ∃ name, directory = path ++ [name] := by
  obtain ⟨entry, -, rfl⟩ := List.mem_map.mp member
  exact ⟨entry.1, rfl⟩

theorem mem_scanDirectories (member : directory ∈ scanDirectories templateDir disk) :
    ∃ relative, directory = templateDir ++ relative ∧ relative.length ≤ 2 := by
  rcases List.mem_cons.mp member with rfl | member
  · exact ⟨[], by simp, by simp⟩
  · obtain ⟨version, isVersion, member⟩ := List.mem_flatMap.mp member
    obtain ⟨versionName, rfl⟩ := mem_subdirectories isVersion
    rcases List.mem_cons.mp member with rfl | member
    · exact ⟨[versionName], rfl, by simp⟩
    · obtain ⟨commitName, rfl⟩ := mem_subdirectories member
      exact ⟨[versionName, commitName], by simp, by simp⟩

theorem harmless_cleanup (chances : Chances) :
    Harmless templateDir (fun _ => True)
      (cleanupStaleWindowsOfflineInstallerProvisioningDirectories chances templateDir) := by
  refine .look fun storage _ => ?_
  split
  · exact .done ()
  · refine .forEach fun directory member => ?_
    obtain ⟨relative, rfl, short⟩ := mem_scanDirectories member
    exact harmless_cleanupDirectory chances _ short

/-! ## Preparing -/

section Preparing

variable (config : TemplateConfig) (chances : Chances)

theorem apart_stagingRoot (disk : Disk) :
    Apart templateDir pin disk (stagingRoot templateDir chances) :=
  apart_of_hidden [] (by simp) (hidden_stagingName chances.stagingSuffix) disk

theorem apart_stagingDir (disk : Disk) :
    Apart templateDir pin disk (stagingDir templateDir config chances) :=
  (apart_stagingRoot chances disk).append _

theorem apart_stagedPath (fileName : Text) (disk : Disk) :
    Apart templateDir pin disk (stagedPath templateDir config chances fileName) :=
  (apart_stagingDir config chances disk).append _

theorem apart_pointerTempPath (disk : Disk) :
    Apart templateDir pin disk (pointerTempPath templateDir config chances) := by
  have hidden : Hidden (".current.".toList ++ chances.pointerId ++ ".tmp".toList) := by
    rw [List.append_assoc]
    exact hidden_pointerTempName _
  simpa [pointerTempPath, Pin.directory, commitDirectory] using
    apart_of_hidden [config.version, config.commit] (by simp) hidden disk

variable {path : Path} {disk : Disk}

theorem unwatched_of_prefix_stagingDir (above : path <+: stagingDir templateDir config chances) :
    ¬ Watched templateDir pin disk path :=
  fun watched => (apart_stagingDir config chances disk path watched).2 above

/-- No reader looks at the directory of generations itself, or above it. -/
theorem unwatched_of_prefix_generations (above : path <+: generationsDirectory templateDir config) :
    ¬ Watched templateDir pin disk path := by
  intro watched
  obtain ⟨last, rfl, shape⟩ := watched_shape watched
  simp only [generationsDirectory, Pin.directory, commitDirectory, List.append_assoc,
    List.prefix_append_right_inj, List.cons_append, List.nil_append, List.cons_prefix_cons] at above
  rcases shape with ⟨name, member, rfl⟩ | ⟨generationName, rest, rfl, -⟩
  · obtain rfl : name = generationsDirName := by simpa using above.2.2
    exact generationsDirName_not_mem member
  · simp at above

theorem always (before after : Storage) (_ : True) (_ : Quiet templateDir before after) : True :=
  trivial

theorem harmless_makeDirectories
    (unwatched : ∀ above, above <+: path → ∀ (pin : Pin) (disk : Disk),
      ¬ Watched templateDir pin disk above) :
    Harmless templateDir (fun _ => True) (makeDirectories path) := by
  refine .forEach fun directory member => ?_
  have above : directory <+: path := (List.mem_inits _ _).mp (List.mem_of_mem_tail member)
  exact harmless_mkdir always fun storage _ pin => unwatched directory above pin storage.disk

/-- A check of the disk makes no calls. -/
theorem keeps_assertSafeTemplatePath {permitted : Storage → Storage → Prop}
    {inv : Storage → Prop} :
    Program.Keeps fileSystem permitted inv (assertSafeTemplatePath templateDir config) := by
  refine .look fun storage _ => ?_
  split
  · exact .throw _
  · exact .done ()

theorem keeps_assertSafePublicationPaths {permitted : Storage → Storage → Prop}
    (inv : Storage → Prop) :
    Program.Keeps fileSystem permitted inv (assertSafePublicationPaths templateDir config) := by
  refine .bind (keeps_assertSafeTemplatePath config) fun _ => .look fun storage _ => ?_
  split
  · exact .throw _
  · exact .done ()

theorem harmless_makeCommitDirectory :
    Harmless templateDir (fun _ => True) (makeDirectories (config.directory templateDir)) :=
  harmless_makeDirectories fun _ above _ _ =>
    unwatched_of_prefix_generations config (above.trans (List.prefix_append _ _))

theorem harmless_prepareStaging :
    Harmless templateDir (fun _ => True) (prepareStaging templateDir config chances) := by
  have root : Harmless templateDir (fun _ => True) (makeDirectories templateDir) :=
    harmless_makeDirectories fun _ above _ _ =>
      unwatched_of_prefix_stagingDir config chances (above.trans (by
        rw [stagingDir, stagingRoot, List.append_assoc]
        exact List.prefix_append _ _))
  have version :
      Harmless templateDir (fun _ => True) (makeDirectories (templateDir ++ [config.version])) :=
    harmless_makeDirectories fun _ above _ _ =>
      unwatched_of_prefix_generations config (above.trans
        ⟨[config.commit, generationsDirName], by
          simp [generationsDirectory, Pin.directory, commitDirectory]⟩)
  have staging : Harmless templateDir (fun _ => True)
      (io (.mkdtemp (stagingRoot templateDir chances))) :=
    harmless_mkdtemp always fun storage _ pin =>
      unwatched_of_prefix_stagingDir config chances (List.prefix_append _ _)
  exact .bind root fun _ => .bind (keeps_assertSafeTemplatePath config) fun _ =>
    .bind (harmless_chmod always) fun _ => .bind (keeps_assertSafeTemplatePath config) fun _ =>
    .bind version fun _ => .bind (keeps_assertSafeTemplatePath config) fun _ =>
    .bind (harmless_chmod always) fun _ => staging

theorem harmless_writeStagedFiles (platform : ProvisionPlatform) (templateBytes sidecarBytes : Bytes) :
    Harmless templateDir (fun _ => True)
      (writeStagedFiles platform templateDir config chances templateBytes sidecarBytes) := by
  have directory : Harmless templateDir (fun _ => True)
      (makeDirectories (stagingDir templateDir config chances)) :=
    harmless_makeDirectories fun _ above _ _ => unwatched_of_prefix_stagingDir config chances above
  have write (fileName : Text) (content : Bytes) : Harmless templateDir (fun _ => True)
      (io (.write (stagedPath templateDir config chances fileName) content)) :=
    harmless_write always fun storage _ pin =>
      apart_stagedPath config chances fileName storage.disk
  exact .bind directory fun _ => .bind (harmless_chmod always) fun _ =>
    .bind (write _ _) fun _ => .bind (write _ _) fun _ =>
    .bind (harmless_chmod always) fun _ => .bind (harmless_chmod always) fun _ =>
    .bind (write _ _) fun _ => .bind (harmless_chmod always) fun _ =>
    .bind (harmless_sync always) fun _ => .bind (harmless_sync always) fun _ =>
    .bind (harmless_sync always) fun _ => harmless_sync always

theorem harmless_preparePublication :
    Harmless templateDir (fun _ => True) (preparePublication templateDir config) := by
  have generations : Harmless templateDir (fun _ => True)
      (makeDirectories (generationsDirectory templateDir config)) :=
    harmless_makeDirectories fun _ above _ _ => unwatched_of_prefix_generations config above
  exact .bind (keeps_assertSafePublicationPaths config _) fun _ =>
    .bind (harmless_makeCommitDirectory config) fun _ => .bind (harmless_chmod always) fun _ =>
    .bind (keeps_assertSafePublicationPaths config _) fun _ => .bind generations fun _ =>
    .bind (harmless_chmod always) fun _ => keeps_assertSafePublicationPaths config _

/-! ### The lock -/

theorem apart_lockPath (disk : Disk) :
    Apart templateDir pin disk (lockPath (config.directory templateDir)) := by
  simpa [lockPath, Pin.directory, commitDirectory] using
    apart_of_hidden [config.version, config.commit] (by simp)
      hidden_publishLockFileName disk

theorem harmless_removeLock :
    Harmless templateDir (fun _ => True)
      (io (.remove (lockPath (config.directory templateDir)))) :=
  harmless_remove always fun storage _ _ => apart_lockPath config storage.disk

/-- By induction on the tries that are left. -/
theorem harmless_acquireFilesystemPublishLock (tries : Nat) :
    Harmless templateDir (fun _ => True)
      (acquireFilesystemPublishLock chances (config.directory templateDir) tries) := by
  induction tries with
  | zero => exact .throw _
  | succ tries ih =>
      have lock (storage : Storage) (pin : Pin) :
          Apart templateDir pin storage.disk (lockPath (config.directory templateDir)) :=
        apart_lockPath config storage.disk
      refine .bind (.attempt (harmless_createExclusive always fun s _ => lock s)) ?_
      rintro (error | _)
      · refine .look fun storage _ => ?_
        split
        · exact .throw _
        · split
          · refine .bind ?_ fun _ => ih
            exact harmless_reclaimStaleFilesystemLock always [config.version, config.commit]
              (by simp) chances.reclaimedId
          · exact ih
      · refine .catching ?_ fun _ => .bind (harmless_removeLock config) fun _ => .throw _
        exact .bind (harmless_write always fun s _ => lock s) fun _ => harmless_sync always

end Preparing

/-! ## The new generation comes in sight -/

section Publishing

variable (platform : ProvisionPlatform) (templateDir : Path) (config : TemplateConfig)
  (chances : Chances)

/-- The reader finds the complete template of this configuration. -/
def Publishes (pin : Pin) (disk : Disk) : Prop :=
  config.version = pin.version ∧ config.commit = pin.commit ∧
    ∃ template, loadCachedWindowsOfflineTemplate platform.toPlatform templateDir config.expected
      disk = .ok template

/-- A reader notices nothing, or the new template all at once. -/
def Permitted (before after : Storage) : Prop :=
  (∀ pin, Kept templateDir pin before.disk after.disk ∨
    Publishes platform templateDir config pin after.disk) ∧ Logged templateDir before after

variable {platform templateDir config chances} {before after : Storage}

theorem Quiet.permitted (quiet : Quiet templateDir before after) :
    Permitted platform templateDir config before after :=
  ⟨fun pin => .inl (quiet.1 pin), quiet.2⟩

/-- A program whose steps are permitted. -/
def Publishing {Result : Type} (platform : ProvisionPlatform) (templateDir : Path)
    (config : TemplateConfig) (program : Provision Result) : Prop :=
  Program.Keeps fileSystem (Permitted platform templateDir config) (fun _ => True) program

theorem Harmless.publishing {Result : Type} {program : Provision Result}
    (harmless : Harmless templateDir (fun _ => True) program) :
    Publishing platform templateDir config program :=
  fun storage holds => (harmless storage holds).weaken fun _ _ => Quiet.permitted

/-- The staging directory is a complete bundle. -/
def Staged (platform : ProvisionPlatform) (templateDir : Path) (config : TemplateConfig)
    (chances : Chances) (disk : Disk) : Prop :=
  ∃ template, loadWindowsOfflineTemplateBundle platform.toPlatform
    (stagingDir templateDir config chances) config.expected disk = .ok template

/-- The new generation is a complete bundle. -/
def Placed (platform : ProvisionPlatform) (templateDir : Path) (config : TemplateConfig)
    (chances : Chances) (disk : Disk) : Prop :=
  ∃ template, loadWindowsOfflineTemplateBundle platform.toPlatform
    (generationPath templateDir config chances) config.expected disk = .ok template

theorem load_of_same_files {here there : Path} {before after : Disk}
    (same : ∀ fileName ∈ bundleFileNames,
      after.sight (there ++ [fileName]) = before.sight (here ++ [fileName]))
    (loaded : ∃ template, loadWindowsOfflineTemplateBundle platform.toPlatform here
      config.expected before = .ok template) :
    ∃ template, loadWindowsOfflineTemplateBundle platform.toPlatform there config.expected after =
      .ok template := by
  obtain ⟨template, loaded⟩ := loaded
  obtain ⟨digest, checked, -⟩ := map_eq_ok.mp loaded
  unfold loadWindowsOfflineTemplateBundle
  rw [bundleSight_eq _ same, checked]
  exact ⟨_, rfl⟩

/-! ### The pointer -/

theorem generationPattern_accepts :
    generationPattern.accepts (generationName chances) = true := by
  rw [Re.accepts_iff]
  refine (Re.mem_lang_cat _ _ _).mpr ⟨_, (Re.mem_lang_word _ _).mpr rfl, _, ?_, rfl⟩
  exact (Re.accepts_iff _ _).mp chances.generationId_valid

/-- The characters of a generation's name. -/
def isNameChar (c : Char) : Prop := c.toNat < 0x80 ∧ JavaScript.isSpace c = false

theorem isNameChar_of_isHexDigit {c : Char} (hex : isHexDigit c = true) : isNameChar c := by
  simp only [isHexDigit, isDigit, Bool.or_eq_true, Bool.and_eq_true, decide_eq_true_eq] at hex
  have digits : '0'.toNat = 48 ∧ '9'.toNat = 57 ∧ 'a'.toNat = 97 ∧ 'f'.toNat = 102 :=
    ⟨rfl, rfl, rfl, rfl⟩
  refine ⟨by omega, ?_⟩
  simp only [JavaScript.isSpace, Bool.or_eq_false_iff, Bool.and_eq_false_iff, beq_eq_false_iff_ne,
    decide_eq_false_iff_not]
  omega

theorem isNameChar_of_mem_generationName {c : Char} (member : c ∈ generationName chances) :
    isNameChar c := by
  rcases List.mem_append.mp member with word | id
  · have all : "generation-".toList.all (fun d => d.toNat < 0x80 && !JavaScript.isSpace d) = true := by
      decide
    simpa [isNameChar] using List.all_eq_true.mp all c word
  · have allowed : uuidPattern.Over isNameChar := by
      have digits (n : Nat) : (Re.times (.sat isHexDigit) n).Over isNameChar :=
        Re.Over.times (r := .sat isHexDigit) (fun _ => isNameChar_of_isHexDigit) n
      have dash : (Re.lit '-').Over isNameChar := by
        intro d same
        obtain rfl : d = '-' := by simpa using same
        exact ⟨by decide, by decide⟩
      apply Re.Over.sequence
      intro part member
      simp only [List.mem_cons, List.not_mem_nil, or_false] at member
      rcases member with rfl | rfl | rfl | rfl | rfl | rfl | rfl | rfl | rfl
      all_goals first | exact digits _ | exact dash
    exact Re.forall_mem_of_over allowed ((Re.accepts_iff _ _).mp chances.generationId_valid) c id

theorem pointerOf_pointerContent :
    pointerOf (pointerContent chances) = .names (generationName chances) := by
  have ascii : ∀ c ∈ generationName chances ++ ['\n'], c.toNat < 0x80 := by
    intro c member
    rcases List.mem_append.mp member with name | newline
    · exact (isNameChar_of_mem_generationName name).1
    · obtain rfl : c = '\n' := by simpa using newline
      decide
  have trimmed : JavaScript.trim (generationName chances ++ ['\n']) = generationName chances := by
    have nonempty : generationName chances ≠ [] :=
      List.append_ne_nil_of_left_ne_nil (List.ne_nil_of_length_eq_add_one (n := 10) rfl) _
    refine trim_append ?_ nonempty (by simp [JavaScript.isSpace])
    exact ⟨fun c hc => (isNameChar_of_mem_generationName (List.mem_of_mem_head? hc)).2,
      fun c hc => (isNameChar_of_mem_generationName (List.mem_of_mem_getLast? hc)).2⟩
  simp only [pointerOf, pointerContent, Utf8.decode_encode_of_ascii ascii, trimmed,
    generationPattern_accepts, if_true]

/-! ### The two renamings -/

variable {storage : Storage}

theorem removals_rename {source target : Path}
    (performed : storage.rename source target = some after) :
    after.removals = storage.removals := by
  obtain ⟨tree, -, -, -, rfl⟩ := rename_eq_some performed
  rfl

variable {disk : Disk}

/-- A pointer to the new generation, where that is complete. -/
theorem publishes_of_pointer (version : config.version = pin.version)
    (commit : config.commit = pin.commit)
    (named : currentPointer (config.directory templateDir) disk = .names (generationName chances))
    (placed : Placed platform templateDir config chances disk) :
    Publishes platform templateDir config pin disk := by
  obtain ⟨template, loaded⟩ := placed
  exact ⟨version, commit, template, load_of_pointer named loaded⟩

theorem apart_generationPath
    (other : config.version = pin.version → config.commit = pin.commit →
      currentPointer (config.directory templateDir) disk ≠ .names (generationName chances)) :
    Apart templateDir pin disk (generationPath templateDir config chances) := by
  have notCommit : generationName chances ≠ pin.commit :=
    commit_ne_of_not_hex (c := 'g') (by decide)
  have elsewhere : templateDir ++ [config.version, config.commit] = pin.directory templateDir →
      currentPointer (pin.directory templateDir) disk ≠ .names (generationName chances) := by
    intro here named
    obtain ⟨version, commit⟩ : config.version = pin.version ∧ config.commit = pin.commit := by
      simpa [Pin.directory, commitDirectory] using here
    refine other version commit ?_
    rw [← named, Pin.directory, Pin.directory, version, commit]
  simpa [generationPath, generationDirectory, Pin.directory, commitDirectory] using
    apart_of_other_generation [config.version, config.commit] (by simp) notCommit elsewhere

theorem not_generationPath_prefix :
    ¬ generationPath templateDir config chances <+:
      config.directory templateDir ++ [currentFileName] := by
  intro above
  have length := above.length_le
  simp [generationPath, generationDirectory] at length

/-- The staging directory becomes a generation, which no pointer names, or which is
now complete. -/
theorem permitted_place (staged : Staged platform templateDir config chances storage.disk)
    (performed : storage.rename (stagingDir templateDir config chances)
      (generationPath templateDir config chances) = some after) :
    Permitted platform templateDir config storage after ∧
      Placed platform templateDir config chances after.disk := by
  have placed : Placed platform templateDir config chances after.disk :=
    load_of_same_files (fun fileName _ => sight_rename performed [fileName]) staged
  refine ⟨⟨fun pin => ?_, .inl (removals_rename performed)⟩, placed⟩
  by_cases named : config.version = pin.version ∧ config.commit = pin.commit ∧
      currentPointer (config.directory templateDir) storage.disk =
        .names (generationName chances)
  · obtain ⟨version, commit, named⟩ := named
    refine .inr (publishes_of_pointer version commit ?_ placed)
    have sameDirectory : config.directory templateDir = pin.directory templateDir := by
      rw [Pin.directory, Pin.directory, version, commit]
    have watched : Watched templateDir pin storage.disk
        (config.directory templateDir ++ [currentFileName]) := .inl (by rw [sameDirectory])
    rw [currentPointer, sight_rename_of_not_prefix performed
      (apart_stagingDir config chances storage.disk _ watched).1 not_generationPath_prefix]
    exact named
  · refine .inl (kept_rename performed (apart_stagingDir config chances storage.disk) ?_)
    exact apart_generationPath fun version commit same => named ⟨version, commit, same⟩

theorem apart_of_other_commit {rest : Path}
    (other : ¬ (config.version = pin.version ∧ config.commit = pin.commit)) :
    Apart templateDir pin disk (config.directory templateDir ++ rest) := by
  intro watched h
  obtain ⟨last, rfl, -⟩ := watched_shape h
  simp only [Pin.directory, commitDirectory, List.append_assoc, List.prefix_append_right_inj,
    List.cons_append, List.nil_append, List.cons_prefix_cons]
  exact ⟨fun above => other ⟨above.1, above.2.1⟩, fun above => other ⟨above.1.symm, above.2.1.symm⟩⟩

/-- The files of the new generation are beside the pointer and its temporary file. -/
theorem not_prefix_generation_file {name fileName : Text} (differs : name ≠ generationsDirName) :
    ¬ config.directory templateDir ++ [name] <+:
      generationPath templateDir config chances ++ [fileName] := by
  intro above
  simp only [generationPath, generationDirectory, List.append_assoc, List.prefix_append_right_inj,
    List.cons_append, List.nil_append, List.cons_prefix_cons] at above
  exact differs above.1

theorem currentFileName_ne_generationsDirName : currentFileName ≠ generationsDirName := by
  intro same
  have head := head_currentFileName
  rw [same, head_generationsDirName] at head
  simp at head

/-- The pointer temporary file says where the new generation is. -/
def PointerWritten (platform : ProvisionPlatform) (templateDir : Path) (config : TemplateConfig)
    (chances : Chances) (disk : Disk) : Prop :=
  Placed platform templateDir config chances disk ∧
    disk.sight (pointerTempPath templateDir config chances) = .file (pointerContent chances)

theorem hidden_pointerTempFile :
    Hidden (".current.".toList ++ chances.pointerId ++ ".tmp".toList) := by
  rw [List.append_assoc]
  exact hidden_pointerTempName _

/-- The one observable step. -/
theorem permitted_commit
    (written : PointerWritten platform templateDir config chances storage.disk)
    (performed : storage.rename (pointerTempPath templateDir config chances)
      (currentPath templateDir config) = some after) :
    Permitted platform templateDir config storage after := by
  refine ⟨fun pin => ?_, .inl (removals_rename performed)⟩
  by_cases same : config.version = pin.version ∧ config.commit = pin.commit
  · have pointer : after.disk.sight (currentPath templateDir config) =
        .file (pointerContent chances) := by
      simpa [written.2] using sight_rename performed []
    have named : currentPointer (config.directory templateDir) after.disk =
        .names (generationName chances) := by
      rw [currentPointer, ← currentPath, pointer]
      exact pointerOf_pointerContent
    have placed : Placed platform templateDir config chances after.disk := by
      refine load_of_same_files (fun fileName _ => ?_) written.1
      exact sight_rename_of_not_prefix performed
        (not_prefix_generation_file (ne_generationsDirName_of_hidden hidden_pointerTempFile))
        (not_prefix_generation_file currentFileName_ne_generationsDirName)
    exact .inr (publishes_of_pointer same.1 same.2 named placed)
  · exact .inl (kept_rename performed (apart_pointerTempPath config chances storage.disk)
      (apart_of_other_commit same))

/-! ### One call after another -/

variable {call : FsCall} {rest : Unit → Provision Unit}

/-- A call with what it needs of the disk and what it leaves for the rest. -/
theorem wp_io (needs leaves : Disk → Prop) (start : needs storage.disk)
    (parts : ∀ before progress, needs before.disk →
      Permitted platform templateDir config before (fileSystem.advance call progress before) ∧
        needs (fileSystem.advance call progress before).disk)
    (whole : ∀ before after, needs before.disk → fileSystem.perform call before = some after →
      Permitted platform templateDir config before after ∧ leaves after.disk)
    (next : ∀ after, leaves after.disk →
      (rest ()).Wp fileSystem (Permitted platform templateDir config) after fun _ _ => True) :
    (io call >>= rest).Wp fileSystem (Permitted platform templateDir config) storage
      fun _ _ => True := by
  apply Program.Wp.bind
  have reached : ∀ before, needs before.disk → (fun storage : Storage => needs storage.disk) before :=
    fun _ holds => holds
  refine Program.Wp.call _ (reached storage start) parts ?_ ?_
  · intro before after holds performed
    obtain ⟨permitted, left⟩ := whole before after holds performed
    exact ⟨permitted, next after left⟩
  · exact fun _ _ => trivial

theorem wp_whole (needs leaves : Disk → Prop) (start : needs storage.disk)
    (noParts : ∀ storage length below,
      fileSystem.advance call (.written length) storage = storage ∧
        fileSystem.advance call (.removed below) storage = storage)
    (whole : ∀ before after, needs before.disk → fileSystem.perform call before = some after →
      Permitted platform templateDir config before after ∧ leaves after.disk)
    (next : ∀ after, leaves after.disk →
      (rest ()).Wp fileSystem (Permitted platform templateDir config) after fun _ _ => True) :
    (io call >>= rest).Wp fileSystem (Permitted platform templateDir config) storage
      fun _ _ => True := by
  refine wp_io needs leaves start ?_ whole next
  intro before progress holds
  cases progress with
  | tick now => exact ⟨(quiet_tick now).permitted, holds⟩
  | written length =>
      rw [(noParts before length []).1]
      exact ⟨(Quiet.refl before).permitted, holds⟩
  | removed below =>
      rw [(noParts before 0 below).2]
      exact ⟨(Quiet.refl before).permitted, holds⟩

theorem wp_unchanged (needs : Disk → Prop) (start : needs storage.disk)
    (noParts : ∀ storage length below,
      fileSystem.advance call (.written length) storage = storage ∧
        fileSystem.advance call (.removed below) storage = storage)
    (unchanged : ∀ before after, fileSystem.perform call before = some after → after = before)
    (next : ∀ after, needs after.disk →
      (rest ()).Wp fileSystem (Permitted platform templateDir config) after fun _ _ => True) :
    (io call >>= rest).Wp fileSystem (Permitted platform templateDir config) storage
      fun _ _ => True := by
  refine wp_whole needs needs start noParts ?_ next
  intro before after holds performed
  rw [unchanged before after performed]
  exact ⟨(Quiet.refl before).permitted, holds⟩

variable {content : Bytes}

theorem placed_writeFile (placed : Placed platform templateDir config chances before.disk)
    (written : before.writeFile (pointerTempPath templateDir config chances) content = some after) :
    Permitted platform templateDir config before after ∧
      Placed platform templateDir config chances after.disk := by
  refine ⟨(quiet_writeFile
    (fun pin => apart_pointerTempPath config chances before.disk) written).permitted, ?_⟩
  unfold Storage.writeFile at written
  split at written
  · obtain rfl := Option.some.inj written
    refine load_of_same_files (fun fileName _ => ?_) placed
    exact FileTree.sight_replace_of_not_prefix (not_prefix_generation_file
      (ne_generationsDirName_of_hidden hidden_pointerTempFile)) before.disk
  · cases written

theorem sight_of_writeFile {path : Path} (written : before.writeFile path content = some after) :
    after.disk.sight path = .file content := by
  unfold Storage.writeFile at written
  split at written
  · rename_i writable
    obtain rfl := Option.some.inj written
    simp only [Storage.isWritable, Bool.and_eq_true] at writable
    obtain ⟨dir, name, rfl, parent⟩ := parent_of_hasParent writable.1
    exact FileTree.sight_replace_append parent []
  · cases written

theorem wp_replacePointer (placed : Placed platform templateDir config chances storage.disk) :
    (replacePointer templateDir config chances).Wp fileSystem
      (Permitted platform templateDir config) storage fun _ _ => True := by
  refine wp_io (Placed platform templateDir config chances)
    (PointerWritten platform templateDir config chances) placed ?parts ?whole ?next
  case parts =>
    intro before progress holds
    cases progress with
    | tick now => exact ⟨(quiet_tick now).permitted, holds⟩
    | removed below => exact ⟨(Quiet.refl before).permitted, holds⟩
    | written length =>
        cases written : before.writeFile (pointerTempPath templateDir config chances)
            ((pointerContent chances).take length) with
        | none => simpa [fileSystem, written] using ⟨(Quiet.refl before).permitted, holds⟩
        | some after => simpa [fileSystem, written] using placed_writeFile holds written
  case whole =>
    intro before after holds performed
    obtain ⟨permitted, placed⟩ := placed_writeFile holds performed
    exact ⟨permitted, placed, sight_of_writeFile performed⟩
  case next =>
    intro after written
    refine wp_unchanged _ written (fun _ _ _ => ⟨rfl, rfl⟩) (fun _ _ => same_of_exists) ?_
    intro after written
    refine wp_unchanged _ written (fun _ _ _ => ⟨rfl, rfl⟩) (fun _ _ => same_of_exists) ?_
    intro after written
    refine wp_whole _ (fun _ => True) written (fun _ _ _ => ⟨rfl, rfl⟩) ?_ ?_
    · exact fun before after written performed => ⟨permitted_commit written performed, trivial⟩
    · exact fun after _ => (harmless_sync always).publishing after trivial

theorem wp_commitPointer (placed : Placed platform templateDir config chances storage.disk) :
    (commitPointer templateDir config chances).Wp fileSystem
      (Permitted platform templateDir config) storage fun _ _ => True := by
  have cleanup : Publishing platform templateDir config
      (io (.remove (pointerTempPath templateDir config chances))) :=
    (harmless_remove always fun storage _ pin =>
      apart_pointerTempPath config chances storage.disk).publishing
  apply Program.Wp.finallyDo
  refine (wp_replacePointer placed).mono fun _ after _ => (cleanup after trivial).mono ?_
  rintro (error | _) later _
  · trivial
  · trivial

theorem publishing_placeGeneration :
    Publishing platform templateDir config
      (placeGeneration platform templateDir config chances) := by
  intro storage _
  refine Program.Wp.look ?_
  split
  · trivial
  · rename_i template loaded
    have staged : Staged platform templateDir config chances storage.disk := ⟨template, loaded⟩
    apply Program.Wp.bind
    refine (keeps_assertSafePublicationPaths config
      (fun storage => Staged platform templateDir config chances storage.disk)
      storage staged).mono ?_
    rintro (error | _) after staged
    · trivial
    · refine wp_whole (Staged platform templateDir config chances)
        (Placed platform templateDir config chances) staged (fun _ _ _ => ⟨rfl, rfl⟩)
        (fun _ _ => permitted_place) ?_
      intro after placed
      refine wp_unchanged _ placed (fun _ _ _ => ⟨rfl, rfl⟩) (fun _ _ => same_of_exists) ?_
      intro after placed
      refine wp_unchanged _ placed (fun _ _ _ => ⟨rfl, rfl⟩) (fun _ _ => same_of_exists) ?_
      exact fun after placed => wp_commitPointer placed

theorem publishing_withFilesystemPublishLock {Result : Type} {operation : Provision Result}
    (publishing : Publishing platform templateDir config operation) :
    Publishing platform templateDir config
      (withFilesystemPublishLock chances (config.directory templateDir) operation) :=
  .bind (harmless_acquireFilesystemPublishLock config chances chances.lockTries).publishing
    fun _ => .finallyDo publishing (harmless_removeLock config).publishing

theorem publishing_publishStagedTemplate :
    Publishing platform templateDir config
      (publishStagedTemplate platform templateDir config chances) := by
  have published : Publishing platform templateDir config
      (publishedResult platform templateDir config) := by
    refine .look fun storage _ => ?_
    split
    · exact .throw _
    · exact .done _
  have preserved : Publishing platform templateDir config
      (preservedResult platform templateDir config) := by
    refine .look fun storage _ => ?_
    split
    · exact .done _
    · exact .throw _
  refine .bind (keeps_assertSafePublicationPaths config _) fun _ =>
    .bind (harmless_makeCommitDirectory config).publishing fun _ =>
    .bind (harmless_chmod always).publishing fun _ =>
    .bind (keeps_assertSafePublicationPaths config _) fun _ =>
    publishing_withFilesystemPublishLock (.look fun storage _ => ?_)
  split
  · exact .done _
  · exact .catching
      (.bind (harmless_preparePublication config).publishing fun _ =>
        .bind publishing_placeGeneration fun _ => published)
      fun _ => preserved

theorem publishing_stageAndPublish (templateBytes sidecarBytes : Bytes) :
    Publishing platform templateDir config
      (stageAndPublish platform templateDir config chances templateBytes sidecarBytes) := by
  refine .finallyDo (.catching (.bind ?_ fun _ => publishing_publishStagedTemplate) ?_) ?_
  · exact (harmless_writeStagedFiles config chances platform templateBytes sidecarBytes).publishing
  · rintro (⟨code, message⟩ | _)
    · exact .throw _
    · exact .throw _
  · exact (harmless_remove always fun storage _ pin =>
      apart_stagingRoot chances storage.disk).publishing

/-- Every step of a provisioner is permitted. -/
theorem publishing_provision :
    Publishing platform templateDir config
      (provisionWindowsOfflineInstallerTemplate platform templateDir config chances) := by
  have download : Publishing platform templateDir config
      (download platform templateDir config chances) := by
    refine .bind (keeps_assertSafeTemplatePath config) fun _ => .bind ?_ fun fetched =>
      .bind ?_ fun _ => .bind (harmless_prepareStaging config chances).publishing fun _ =>
      publishing_stageAndPublish fetched.1 fetched.2
    · cases chances.fetched with
      | ok fetched => exact .done fetched
      | error failure => exact .throw failure
    · unfold verifyPinnedBytes
      split
      · exact .throw _
      · split
        · exact .throw _
        · exact .done ()
  have cleared : Publishing platform templateDir config (clearAway templateDir chances) := by
    unfold clearAway
    split
    · exact .done ()
    · exact (harmless_cleanup chances).publishing
  refine .bind cleared fun _ => .look fun storage _ => ?_
  split
  · exact .done _
  · split
    · exact .throw _
    · exact download

end Publishing

/-! ## Provisioners one after another -/

/-- A run of a provisioner, as far as it gets. -/
structure Attempt where
  config : TemplateConfig
  chances : Chances
  startTime : Int
  outcomes : List (Outcome Progress)

section Attempts

variable (platform : ProvisionPlatform) (templateDir : Path)

def stopped (storage : Storage) (attempt : Attempt) : Storage :=
  (Program.run fileSystem attempt.outcomes
    ({ storage with clock := attempt.startTime },
      provisionWindowsOfflineInstallerTemplate platform templateDir attempt.config
        attempt.chances)).1

def storageAfter (attempts : List Attempt) (disk : Disk) : Storage :=
  attempts.foldl (stopped platform templateDir) { disk, clock := 0, removals := [] }

/-- What a reader with this version and commit finds, and what was removed. -/
structure Atomic (pin : Pin) (attempts : List Attempt) (start : Disk) (later : Storage) :
    Prop where
  previous_or_new :
    (∀ expected : ExpectedTemplate, expected.version = pin.version →
      expected.commit = pin.commit →
      loadCachedWindowsOfflineTemplate platform.toPlatform templateDir expected later.disk =
        loadCachedWindowsOfflineTemplate platform.toPlatform templateDir expected start) ∨
    ∃ attempt ∈ attempts, Publishes platform templateDir attempt.config pin later.disk
  complete : ∀ (expected : ExpectedTemplate) (template : CachedWindowsOfflineTemplate),
    loadCachedWindowsOfflineTemplate platform.toPlatform templateDir expected later.disk =
      .ok template →
    Complete platform.toPlatform expected
      (bundleSight template.filePath.dropLast expected.releaseTag.isSome later.disk)
  current_kept : ∀ removal ∈ later.removals, ∀ generationName,
    currentPointer (pin.directory templateDir) removal.disk = .names generationName →
    ¬ removal.path <+: generationDirectory (pin.directory templateDir) generationName ∧
      ¬ generationDirectory (pin.directory templateDir) generationName <+: removal.path

/-- What holds between two steps of a run. -/
structure Sound (attempts : List Attempt) (start : Disk) (storage : Storage) : Prop where
  seen : ∀ pin, Kept templateDir pin start storage.disk ∨
    ∃ attempt ∈ attempts, Publishes platform templateDir attempt.config pin storage.disk
  kept : ∀ removal ∈ storage.removals, ∀ pin, Apart templateDir pin removal.disk removal.path

variable {platform templateDir}

theorem Publishes.kept {config : TemplateConfig} {before after : Disk}
    (publishes : Publishes platform templateDir config pin before)
    (kept : Kept templateDir pin before after) :
    Publishes platform templateDir config pin after := by
  obtain ⟨version, commit, template, loaded⟩ := publishes
  exact ⟨version, commit, template, (kept.load_eq platform.toPlatform version commit).trans loaded⟩

theorem Sound.step {attempts : List Attempt} {start : Disk} {before after : Storage}
    (sound : Sound platform templateDir attempts start before) {attempt : Attempt}
    (member : attempt ∈ attempts)
    (permitted : Permitted platform templateDir attempt.config before after) :
    Sound platform templateDir attempts start after := by
  obtain ⟨noticed, logged⟩ := permitted
  refine ⟨fun pin => ?_, ?_⟩
  · rcases noticed pin with kept | publishes
    · rcases sound.seen pin with same | ⟨earlier, among, published⟩
      · exact .inl (same.trans kept)
      · exact .inr ⟨earlier, among, published.kept kept⟩
    · exact .inr ⟨attempt, member, publishes⟩
  · rcases logged with same | ⟨path, noted, apart⟩
    · rw [same]
      exact sound.kept
    · rw [noted]
      intro removal among
      rcases List.mem_cons.mp among with rfl | among
      · exact apart
      · exact sound.kept removal among

theorem Sound.stopped {attempts : List Attempt} {start : Disk} {storage : Storage}
    (sound : Sound platform templateDir attempts start storage) {attempt : Attempt}
    (member : attempt ∈ attempts) :
    Sound platform templateDir attempts start (stopped platform templateDir storage attempt) := by
  have begun : Sound platform templateDir attempts start
      { storage with clock := attempt.startTime } := ⟨sound.seen, sound.kept⟩
  exact (publishing_provision { storage with clock := attempt.startTime } trivial).run
    (fun _ _ sound permitted => sound.step member permitted) begun attempt.outcomes

theorem Sound.storageAfter (attempts : List Attempt) (disk : Disk) :
    Sound platform templateDir attempts disk (storageAfter platform templateDir attempts disk) := by
  have run : ∀ (rest : List Attempt) (storage : Storage), (∀ attempt ∈ rest, attempt ∈ attempts) →
      Sound platform templateDir attempts disk storage →
      Sound platform templateDir attempts disk
        (rest.foldl (TemplatePublication.stopped platform templateDir) storage) := by
    intro rest
    induction rest with
    | nil => exact fun _ _ sound => sound
    | cons attempt rest ih =>
        intro storage among sound
        exact ih _ (fun later member => among later (by simp [member]))
          (sound.stopped (among attempt (by simp)))
  exact run attempts _ (fun _ member => member) ⟨fun _ => .inl (.refl disk), nofun⟩

theorem complete_of_load {templateDir : Path} {platform : Platform} {expected : ExpectedTemplate}
    {template : CachedWindowsOfflineTemplate} {disk : Disk}
    (loaded : loadCachedWindowsOfflineTemplate platform templateDir expected disk = .ok template) :
    Complete platform expected
      (bundleSight template.filePath.dropLast expected.releaseTag.isSome disk) := by
  obtain ⟨templatePath, -, loaded⟩ := bind_eq_ok.mp loaded
  obtain ⟨digest, checked, rfl⟩ := map_eq_ok.mp loaded
  simpa using complete_of_check checked

/-- However provisioners follow each other and wherever each of them stops, a reader
finds what was there before or a complete new template, and no current generation
has been removed. -/
theorem publication_atomic (platform : ProvisionPlatform) (templateDir : Path) (disk : Disk)
    (attempts : List Attempt) (pin : Pin) :
    Atomic platform templateDir pin attempts disk
      (storageAfter platform templateDir attempts disk) := by
  have sound : Sound platform templateDir attempts disk _ := .storageAfter attempts disk
  refine ⟨?_, fun expected template => complete_of_load, ?_⟩
  · refine (sound.seen pin).imp ?_ id
    exact fun kept expected version commit => kept.load_eq platform.toPlatform version commit
  · intro removal member generationName named
    exact sound.kept removal member pin _ (.inr (.inr ⟨generationName, named, .inl rfl⟩))

end Attempts

end OpenPath.Api.TemplatePublication
