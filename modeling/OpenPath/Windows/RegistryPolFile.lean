/-
# Replacing `Registry.pol`

The new content is collected in memory, written to a temporary file beside the old one,
and moved over it after a copy of the old one was kept. The attributes that would be in
the way are taken off before and put back in the end, whether or not the replacement
went well.

Every file operation may fail. Some of them leave a part of their work: a file may be
written in part, and a forced move removes what is in its way first.
-/

import OpenPath.Foundation.Program
import OpenPath.Windows.RegistryPol

namespace OpenPath.Windows.RegistryPol

open Foundation Program

/-! ## Files -/

/-- The attributes that stand in the way of a replacement; others are never touched. -/
structure Protection where
  isHidden : Bool := false
  isSystem : Bool := false
  isReadOnly : Bool := false
  deriving DecidableEq

def Protection.union (first second : Protection) : Protection where
  isHidden := first.isHidden || second.isHidden
  isSystem := first.isSystem || second.isSystem
  isReadOnly := first.isReadOnly || second.isReadOnly

structure PolFile where
  content : Bytes
  protection : Protection := {}
  deriving DecidableEq

structure Files where
  directory : Bool
  pol : Option PolFile
  /-- `$tmpPath` -/
  temporary : Option Bytes
  /-- `$bakPath` -/
  backup : Option PolFile
  deriving DecidableEq

inductive PolicyPath
  | pol
  | backup

def Files.file (files : Files) : PolicyPath → Option PolFile
  | .pol => files.pol
  | .backup => files.backup

def Files.protect (files : Files) (path : PolicyPath) (protection : Protection) : Files :=
  match path with
  | .pol => { files with pol := files.pol.map fun file => { file with protection } }
  | .backup => { files with backup := files.backup.map fun file => { file with protection } }

/-! ## Operations -/

inductive FileCall
  | newItem
  | writeAllBytes (bytes : Bytes)
  | getAttributes (path : PolicyPath)
  | setAttributes (path : PolicyPath) (protection : Protection)
  | copyItem
  | moveItem
  | removeItem

/-- What an operation may leave that did not come to its end. -/
inductive FileProgress
  | torn (bytes : Bytes)
  | removed

def fileSystem : Interface Files FileCall FileProgress where
  perform
    | .newItem, files => some { files with directory := true }
    | .writeAllBytes bytes, files =>
        if files.directory then some { files with temporary := some bytes } else none
    | .getAttributes _, files => some files
    | .setAttributes path protection, files => some (files.protect path protection)
    | .copyItem, files => files.pol.map fun file => { files with backup := some file }
    | .moveItem, files =>
        files.temporary.map fun bytes =>
          { files with pol := some { content := bytes }, temporary := none }
    | .removeItem, files => some { files with temporary := none }
  advance
    | .writeAllBytes _, .torn bytes, files => { files with temporary := some bytes }
    | .copyItem, .torn bytes, files => { files with backup := some { content := bytes } }
    | .moveItem, .removed, files => { files with pol := none }
    | _, _, files => files

/-- The operation that failed. -/
inductive WriteError
  | tooLong
  | temporary
  | protection
  | backup
  | move
  | restore
  deriving DecidableEq

abbrev Write := Program Files FileCall WriteError

/-! ## The writer -/

/-- `Clear-OpenPathPolicyFileProtection` -/
def clearProtection (path : PolicyPath) : Write Protection := do
  let file ← Program.observe (·.file path)
  match file with
  | none => return {}
  | some file =>
      Program.perform (.getAttributes path) .protection
      if file.protection = {} then return {}
      else
        Program.perform (.setAttributes path {}) .protection
        return file.protection

/-- `Restore-OpenPathPolicyFileProtection`, for the file itself. -/
def restoreProtection (protection : Protection) : Write Unit := do
  let file ← Program.observe (·.pol)
  match file with
  | none => return ()
  | some file =>
      if protection = {} then return ()
      else
        Program.perform (.getAttributes .pol) .restore
        Program.perform (.setAttributes .pol (file.protection.union protection)) .restore

/-- `Remove-Item -ErrorAction SilentlyContinue` -/
def removeTemporary : Write Unit := .call .removeItem (.done ()) (.done ())

/-- The `catch` and the `finally` around a part of the replacement. -/
def guarded {Result : Type} (protection : Protection) (body : Write Result) : Write Result :=
  (body.catching fun error => do
    removeTemporary
    .throw error).finallyDo (restoreProtection protection)

/-- The replacement; `$protection` is empty until the attributes were taken off. -/
def replaceFile (bytes : Bytes) : Write Unit := do
  guarded {} (Program.perform (.writeAllBytes bytes) .temporary)
  let file ← Program.observe (·.pol)
  match file with
  | none => guarded {} (Program.perform .moveItem .move)
  | some _ =>
      let protection ← guarded {} (clearProtection .pol)
      guarded protection do
        let _ ← clearProtection .backup
        Program.perform .copyItem .backup
        Program.perform .moveItem .move

/-- What a stream in memory can hold. -/
def streamLimit : Nat := 2 ^ 31 - 1

/-- `Write-OpenPathRegistryPolFile`. A directory that cannot be made is not an error yet. -/
def writeFile (entries : List Entry) : Write Unit := do
  let directory ← Program.observe (·.directory)
  if !directory then
    (.call .newItem (.done ()) (.done ()) : Write Unit)
  if streamLimit < (content entries).length then .throw .tooLong
  else replaceFile (content entries)

/-- `Read-OpenPathRegistryPolFile` -/
def readFile (files : Files) : Except PolError (List Entry) :=
  match files.pol with
  | none => .ok []
  | some file => convertFrom file.content

/-! ## What becomes of the file -/

def contentOf (file : Option PolFile) : Option Bytes := file.map (·.content)

/-- The old content, or the new one, or the old one in the copy while a move is under way. -/
def Safe (old : Option PolFile) (new : Bytes) (files : Files) : Prop :=
  contentOf files.pol = contentOf old ∨ contentOf files.pol = some new ∨
    files.pol = none ∧ contentOf files.backup = contentOf old

/-- What the writer leaves, with success or with an error. -/
def Leaves (old : Option PolFile) (new : Bytes) : Except WriteError Unit → Files → Prop
  | .ok _, after => after.pol = some { content := new, protection := (old.map (·.protection)).getD {} }
  | .error .move, after =>
      after.pol = old ∨ after.pol = none ∧ contentOf after.backup = contentOf old
  | .error .restore, after =>
      contentOf after.pol = contentOf old ∨ contentOf after.pol = some new
  | .error _, after => after.pol = old

@[simp]
theorem Protection.empty_union (protection : Protection) :
    Protection.union {} protection = protection := by
  simp [union]

@[simp]
theorem Protection.union_empty (protection : Protection) :
    protection.union {} = protection := by
  simp [union]

/-- The attributes of the file are put back. -/
def Files.restored (files : Files) (protection : Protection) : Files :=
  { files with
    pol := files.pol.map fun file => { file with protection := file.protection.union protection } }

theorem contentOf_protect (files : Files) (path : PolicyPath) (protection : Protection) :
    contentOf (files.protect path protection).pol = contentOf files.pol ∧
      contentOf (files.protect path protection).backup = contentOf files.backup := by
  cases path
  · exact ⟨by simp [contentOf, Files.protect, Function.comp_def], rfl⟩
  · exact ⟨rfl, by simp [contentOf, Files.protect, Function.comp_def]⟩

section Specification

variable {old : Option PolFile} {new : Bytes} {files : Files}

theorem Safe.protect (h : Safe old new files) (path : PolicyPath) (protection : Protection) :
    Safe old new (files.protect path protection) := by
  obtain ⟨hpol, hbackup⟩ := contentOf_protect files path protection
  have hnone : files.pol = none → (files.protect path protection).pol = none := by
    intro hnone
    cases path
    · simp [Files.protect, hnone]
    · exact hnone
  rcases h with h | h | ⟨h, hcopy⟩
  · exact .inl (hpol.trans h)
  · exact .inr (.inl (hpol.trans h))
  · exact .inr (.inr ⟨hnone h, hbackup.trans hcopy⟩)

variable {error : WriteError} {post : Except WriteError Unit → Files → Prop}

/-- An operation with what its parts keep, from which only safe states are reached. -/
theorem wp_perform {call : FileCall} (inv : Files → Prop) (start : inv files)
    (safe : ∀ before, inv before → Safe old new before)
    (parts : ∀ before progress, inv before → inv (fileSystem.advance call progress before))
    (success : ∀ before after, inv before → fileSystem.perform call before = some after →
      Safe old new after ∧ post (.ok ()) after)
    (failure : ∀ before, inv before → post (.error error) before) :
    (perform call error).Wp fileSystem (fun _ after => Safe old new after) files post :=
  Wp.call inv start
    (fun before progress hbefore =>
      ⟨safe _ (parts before progress hbefore), parts before progress hbefore⟩)
    success failure

variable {path : PolicyPath}

theorem wp_getAttributes (hsafe : Safe old new files) (success : post (.ok ()) files)
    (failure : post (.error error) files) :
    (perform (.getAttributes path) error).Wp fileSystem
      (fun _ after => Safe old new after) files post := by
  apply wp_perform (· = files) rfl
  · rintro _ rfl
    exact hsafe
  · rintro _ progress rfl
    rfl
  · rintro _ after rfl heq
    cases heq
    exact ⟨hsafe, success⟩
  · rintro _ rfl
    exact failure

variable {protection : Protection}

theorem wp_setAttributes (hsafe : Safe old new files)
    (success : post (.ok ()) (files.protect path protection))
    (failure : post (.error error) files) :
    (perform (.setAttributes path protection) error).Wp fileSystem
      (fun _ after => Safe old new after) files post := by
  apply wp_perform (· = files) rfl
  · rintro _ rfl
    exact hsafe
  · rintro _ progress rfl
    rfl
  · rintro _ after rfl heq
    cases heq
    exact ⟨hsafe.protect path protection, success⟩
  · rintro _ rfl
    exact failure

theorem protect_eq_self (h : ∀ file, files.file path = some file → file.protection = protection) :
    files.protect path protection = files := by
  obtain ⟨directory, pol, temporary, backup⟩ := files
  cases path
  · cases pol with
    | none => rfl
    | some file =>
        obtain rfl := h file rfl
        rfl
  · cases backup with
    | none => rfl
    | some file =>
        obtain rfl := h file rfl
        rfl

theorem wp_clearProtection (hsafe : Safe old new files)
    {post : Except WriteError Protection → Files → Prop}
    (success : post (.ok (((files.file path).map (·.protection)).getD {}))
      (files.protect path {})) (failure : post (.error .protection) files) :
    (clearProtection path).Wp fileSystem (fun _ after => Safe old new after) files post := by
  apply Wp.observe
  cases hfile : files.file path with
  | none =>
      have hsame : files.protect path {} = files :=
        protect_eq_self fun file h => by rw [hfile] at h; cases h
      rw [hfile, hsame] at success
      exact success
  | some file =>
      rw [hfile] at success
      apply Wp.bind
      apply wp_getAttributes hsafe
      · by_cases hempty : file.protection = {}
        · have hsame : files.protect path {} = files :=
            protect_eq_self fun other h => by rw [hfile] at h; cases h; exact hempty
          rw [hsame] at success
          simp only [hempty, if_true]
          have hvalue : ((some file).map (·.protection)).getD {} = {} := hempty
          rwa [hvalue] at success
        · simp only [hempty, if_false]
          apply Wp.bind
          exact wp_setAttributes hsafe success failure
      · exact failure

theorem wp_restoreProtection (hsafe : Safe old new files)
    (success : post (.ok ()) (files.restored protection))
    (failure : protection ≠ {} → files.pol ≠ none → post (.error .restore) files) :
    (restoreProtection protection).Wp fileSystem (fun _ after => Safe old new after) files
      post := by
  obtain ⟨directory, pol, temporary, backup⟩ := files
  apply Wp.observe
  cases pol with
  | none => exact success
  | some file =>
      by_cases hempty : protection = {}
      · subst hempty
        simp only [if_true]
        simp only [Files.restored, Option.map_some, Protection.union_empty] at success
        exact success
      · have failed := failure hempty (Option.some_ne_none file)
        simp only [hempty, if_false]
        apply Wp.bind
        apply wp_getAttributes hsafe
        · exact wp_setAttributes hsafe success failed
        · exact failed

theorem wp_removeTemporary (hsafe : Safe old new files)
    (h : ∀ temporary, post (.ok ()) { files with temporary }) :
    removeTemporary.Wp fileSystem (fun _ after => Safe old new after) files post := by
  apply Wp.call (· = files) rfl
  · rintro _ progress rfl
    exact ⟨hsafe, rfl⟩
  · rintro _ after rfl heq
    cases heq
    exact ⟨hsafe, h none⟩
  · rintro now rfl
    exact h now.temporary

/-- What a guarded part leaves has its attributes put back, unless that fails. -/
theorem wp_guarded {Result : Type} {body : Write Result}
    {post : Except WriteError Result → Files → Prop}
    (h : body.Wp fileSystem (fun _ after => Safe old new after) files fun outcome after =>
      Safe old new after ∧ ∀ temporary,
        (outcome.isOk = true → temporary = after.temporary) →
        post outcome ({ after with temporary }.restored protection) ∧
        (protection ≠ {} → after.pol ≠ none → post (.error .restore) { after with temporary })) :
    (guarded protection body).Wp fileSystem (fun _ after => Safe old new after) files post := by
  apply Wp.finallyDo
  apply Wp.catching
  apply h.mono
  rintro (error | result) after ⟨hsafe, hafter⟩
  · apply Wp.bind
    apply wp_removeTemporary hsafe
    intro temporary
    obtain ⟨success, failure⟩ := hafter temporary fun h => Bool.noConfusion h
    have hkept : Safe old new { after with temporary } := hsafe
    exact wp_restoreProtection hkept success failure
  · obtain ⟨success, failure⟩ := hafter after.temporary (fun _ => rfl)
    exact wp_restoreProtection hsafe success failure

theorem Safe.of_eq (h : files.pol = old) : Safe old new files := .inl (h ▸ rfl)

theorem Files.restored_empty (files : Files) : files.restored {} = files := by
  simp [restored]

/-- Writing the temporary file touches nothing else. -/
theorem wp_writeAllBytes {bytes : Bytes} (hold : files.pol = old)
    (success : post (.ok ()) { files with temporary := some bytes })
    (failure : ∀ temporary, post (.error .temporary) { files with temporary }) :
    (guarded {} (perform (.writeAllBytes bytes) .temporary)).Wp fileSystem
      (fun _ after => Safe old new after) files post := by
  apply wp_guarded
  apply wp_perform (fun now => ∃ temporary, now = { files with temporary })
  · exact ⟨files.temporary, rfl⟩
  · rintro _ ⟨temporary, rfl⟩
    exact .of_eq hold
  · rintro _ progress ⟨temporary, rfl⟩
    cases progress with
    | torn bytes => exact ⟨some bytes, rfl⟩
    | removed => exact ⟨temporary, rfl⟩
  · rintro _ after ⟨temporary, rfl⟩ heq
    obtain ⟨-, hafter⟩ := Option.ite_none_right_eq_some.mp heq
    cases hafter
    refine ⟨.of_eq hold, .of_eq hold, fun other hother => ⟨?_, fun h => absurd rfl h⟩⟩
    rw [hother rfl, Files.restored_empty]
    exact success
  · rintro _ ⟨temporary, rfl⟩
    refine ⟨.of_eq hold, fun other _ => ⟨?_, fun h => absurd rfl h⟩⟩
    rw [Files.restored_empty]
    exact failure other

/-- A move may have removed what was in its way when it fails. -/
theorem wp_moveItem (hsafe : Safe old new { files with pol := none })
    (hsafe' : Safe old new files) (htemporary : files.temporary = some new)
    (success : post (.ok ()) { files with pol := some { content := new }, temporary := none })
    (failure : post (.error .move) files)
    (removed : post (.error .move) { files with pol := none }) :
    (perform .moveItem .move).Wp fileSystem (fun _ after => Safe old new after) files
      post := by
  apply wp_perform fun now => now = files ∨ now = { files with pol := none }
  · exact .inl rfl
  · rintro _ (rfl | rfl)
    · exact hsafe'
    · exact hsafe
  · rintro _ progress (rfl | rfl)
    all_goals
      cases progress with
      | torn bytes => simp [fileSystem]
      | removed => exact .inr rfl
  · rintro before after hbefore heq
    have hafter : after = { files with pol := some { content := new }, temporary := none } := by
      rcases hbefore with rfl | rfl
      all_goals
        simp only [fileSystem, htemporary, Option.map_some, Option.some.injEq] at heq
        exact heq.symm
    rw [hafter]
    exact ⟨.inr (.inl rfl), success⟩
  · rintro _ (rfl | rfl)
    · exact failure
    · exact removed

theorem wp_copyItem {file : PolFile} (hfile : files.pol = some file)
    (hsafe : contentOf files.pol = contentOf old)
    (success : post (.ok ()) { files with backup := some file })
    (failure : ∀ backup, post (.error .backup) { files with backup }) :
    (perform .copyItem .backup).Wp fileSystem (fun _ after => Safe old new after) files
      post := by
  apply wp_perform fun now => ∃ backup, now = { files with backup }
  · exact ⟨files.backup, rfl⟩
  · rintro _ ⟨backup, rfl⟩
    exact .inl hsafe
  · rintro _ progress ⟨backup, rfl⟩
    cases progress with
    | torn bytes => exact ⟨some { content := bytes }, rfl⟩
    | removed => exact ⟨backup, rfl⟩
  · rintro _ after ⟨backup, rfl⟩ heq
    simp only [fileSystem, hfile, Option.map_some, Option.some.injEq] at heq
    obtain rfl : after = { files with backup := some file } := by
      rw [← heq, hfile]
    exact ⟨.inl hsafe, success⟩
  · rintro _ ⟨backup, rfl⟩
    exact failure backup

end Specification

/-! ## The whole writer -/

variable {files : Files}

/-- Where there is no file yet, only the new one can come about. -/
theorem wp_place {new : Bytes} (hnone : files.pol = none)
    (htemporary : files.temporary = some new) :
    (guarded {} (perform .moveItem .move)).Wp fileSystem
      (fun _ after => Safe none new after) files (Leaves none new) := by
  have hsame : { files with pol := none } = files := by rw [← hnone]
  have hsafe : Safe none new files := .of_eq hnone
  have failed : Safe none new files ∧ ∀ temporary : Option Bytes,
      ((Except.error .move : Except WriteError Unit).isOk = true → temporary = files.temporary) →
      Leaves none new (.error .move) ({ files with temporary }.restored {}) ∧
      (({} : Protection) ≠ {} → files.pol ≠ none →
        Leaves none new (.error .restore) { files with temporary }) := by
    refine ⟨hsafe, fun temporary _ => ⟨?_, fun h => absurd rfl h⟩⟩
    rw [Files.restored_empty]
    exact .inl hnone
  apply wp_guarded
  refine wp_moveItem (by rwa [hsame]) hsafe htemporary ?_ failed (by rwa [hsame])
  refine ⟨.inr (.inl rfl), fun temporary _ => ⟨?_, fun h => absurd rfl h⟩⟩
  rw [Files.restored_empty]
  rfl

/-- What is done to an existing file while its attributes are off. -/
theorem wp_exchange {new : Bytes} {old : PolFile}
    (hpol : files.pol = some { old with protection := {} })
    (htemporary : files.temporary = some new) :
    (guarded old.protection do
        let _ ← clearProtection .backup
        perform .copyItem .backup
        perform .moveItem .move).Wp fileSystem
      (fun _ after => Safe (some old) new after) files (Leaves (some old) new) := by
  have hcontent : contentOf files.pol = contentOf (some old) := by rw [hpol]; rfl
  -- An error before the move leaves the file, whatever became of the copy.
  have unmoved : ∀ (error : WriteError) (now : Files), now.pol = files.pol →
      (∀ after : Files, after.pol = some old → Leaves (some old) new (.error error) after) →
      Safe (some old) new now ∧ ∀ temporary : Option Bytes,
        ((Except.error error : Except WriteError Unit).isOk = true → temporary = now.temporary) →
        Leaves (some old) new (.error error) ({ now with temporary }.restored old.protection) ∧
        (old.protection ≠ {} → now.pol ≠ none →
          Leaves (some old) new (.error .restore) { now with temporary }) := by
    intro error now hnow leaves
    have hold : contentOf now.pol = contentOf (some old) := by rw [hnow, hcontent]
    refine ⟨.inl hold, fun temporary _ => ⟨leaves _ ?_, fun _ _ => .inl hold⟩⟩
    simp [Files.restored, hnow, hpol]
  apply wp_guarded
  apply Wp.bind
  apply wp_clearProtection (.inl hcontent)
  · have hcleared : (files.protect .backup {}).pol = files.pol := rfl
    have hnew : (files.protect .backup {}).temporary = some new := htemporary
    generalize files.protect .backup {} = cleared at hcleared hnew
    have hfile : cleared.pol = some { old with protection := {} } := hcleared.trans hpol
    have hold : contentOf cleared.pol = contentOf (some old) := by rw [hcleared, hcontent]
    apply Wp.bind
    apply wp_copyItem hfile hold
    · change Wp _ _ _ _ _
      have hgone : Safe (some old) new
          { cleared with pol := none, backup := some { old with protection := {} } } :=
        .inr (.inr ⟨rfl, rfl⟩)
      apply wp_moveItem
      · exact hgone
      · exact .inl hold
      · exact hnew
      · refine ⟨.inr (.inl rfl), fun temporary _ => ⟨?_, fun _ _ => .inr rfl⟩⟩
        simp [Leaves, Files.restored]
      · exact unmoved .move _ hcleared fun after hafter => .inl hafter
      · refine ⟨hgone, fun temporary _ => ⟨?_, fun _ h => absurd rfl h⟩⟩
        exact .inr ⟨rfl, rfl⟩
    · exact fun backup => unmoved .backup _ hcleared fun after hafter => hafter
  · exact unmoved .protection _ rfl fun after hafter => hafter

theorem wp_replaceFile (bytes : Bytes) (files : Files) :
    (replaceFile bytes).Wp fileSystem (fun _ after => Safe files.pol bytes after) files
      (Leaves files.pol bytes) := by
  obtain ⟨directory, pol, temporary, backup⟩ := files
  apply Wp.bind
  apply wp_writeAllBytes rfl
  · apply Wp.observe
    cases pol with
    | none => exact wp_place rfl rfl
    | some file =>
        apply Wp.bind
        apply wp_guarded
        have hsafe : Safe (some file) bytes ⟨directory, some file, some bytes, backup⟩ :=
          .of_eq rfl
        apply wp_clearProtection hsafe
        · refine ⟨hsafe.protect .pol {}, fun temporary htemporary => ⟨?_, fun h => absurd rfl h⟩⟩
          rw [htemporary rfl, Files.restored_empty]
          exact wp_exchange rfl rfl
        · refine ⟨hsafe, fun temporary _ => ⟨?_, fun h => absurd rfl h⟩⟩
          rw [Files.restored_empty]
          exact rfl
  · exact fun temporary => rfl

/-- What the writer leaves, and that it writes only what a stream can hold. -/
theorem wp_writeFile (entries : List Entry) (files : Files) :
    (writeFile entries).Wp fileSystem (fun _ after => Safe files.pol (content entries) after)
      files fun outcome after =>
        Leaves files.pol (content entries) outcome after ∧
          (outcome ≠ .error .tooLong → (content entries).length ≤ streamLimit) := by
  have hwritten : ∀ now : Files, now.pol = files.pol →
      Wp fileSystem (fun _ after => Safe files.pol (content entries) after)
        (if streamLimit < (content entries).length then .throw .tooLong
        else replaceFile (content entries) : Write Unit) now fun outcome after =>
          Leaves files.pol (content entries) outcome after ∧
            (outcome ≠ .error .tooLong → (content entries).length ≤ streamLimit) := by
    intro now hnow
    split
    · exact ⟨hnow, fun h => absurd rfl h⟩
    · next hfits =>
        rw [← hnow]
        apply (wp_replaceFile (content entries) now).mono
        exact fun outcome after hleaves => ⟨hleaves, fun _ => Nat.le_of_not_lt hfits⟩
  apply Wp.observe
  cases hdirectory : files.directory with
  | true => exact hwritten files rfl
  | false =>
      apply Wp.bind
      apply Wp.call (fun now => now.pol = files.pol) rfl
      · exact fun before progress hbefore => ⟨.of_eq hbefore, hbefore⟩
      · intro before after hbefore heq
        cases heq
        exact ⟨.of_eq hbefore, hwritten _ hbefore⟩
      · exact fun before hbefore => hwritten before hbefore

/-! ## Reading what was written -/

/-- An entry whose names are well-formed and hold no terminator. -/
structure Entry.Regular (entry : Entry) : Prop where
  key : 0 ∉ entry.key
  valueName : 0 ∉ entry.valueName
  wellFormedKey : Utf16.WellFormed entry.key
  wellFormedValueName : Utf16.WellFormed entry.valueName

variable {entries : List Entry} {entry : Entry}

theorem length_data_le_content (hentry : entry ∈ entries) :
    entry.data.length ≤ (content entries).length := by
  have hbytes : entry.data.length ≤ (entryBytes entry).length := by
    simp only [entryBytes, List.length_append]
    omega
  have hsublist : List.Sublist (entryBytes entry) (entries.flatMap entryBytes) := by
    rw [List.flatMap_def]
    exact List.sublist_flatten_of_mem (List.mem_map_of_mem hentry)
  rw [content, List.length_append]
  have hlength := hsublist.length_le
  omega

theorem Entry.Regular.plain (h : entry.Regular) (hentry : entry ∈ entries)
    (hfits : (content entries).length ≤ streamLimit) : entry.Plain where
  key := h.key
  valueName := h.valueName
  data := by
    have hlength := length_data_le_content hentry
    rw [streamLimit] at hfits
    omega

theorem map_repaired_eq_self (h : ∀ entry ∈ entries, entry.Regular) :
    entries.map Entry.repaired = entries :=
  (List.map_congr_left fun entry hentry =>
    Entry.repaired_eq_self (h entry hentry).wellFormedKey (h entry hentry).wellFormedValueName).trans
      (List.map_id _)

theorem convertFrom_content_of_regular (h : ∀ entry ∈ entries, entry.Regular)
    (hfits : (content entries).length ≤ streamLimit) :
    convertFrom (content entries) = .ok entries := by
  rw [convertFrom_content fun entry hentry => (h entry hentry).plain hentry hfits,
    map_repaired_eq_self h]

/-- A run of the writer, with what becomes of each file operation. -/
def written (entries : List Entry) (files : Files) (outcomes : List (Outcome FileProgress)) :
    Files × Write Unit :=
  Program.run fileSystem outcomes (files, writeFile entries)

/-- What the reader and the writer promise. -/
structure Codec : Prop where
  readBack : ∀ entries files outcomes after, (∀ entry ∈ entries, Entry.Regular entry) →
    written entries files outcomes = (after, .done ()) → readFile after = .ok entries
  accepted : ∀ body entries, convertFrom (header ++ body) = .ok entries ↔
    ∃ raws, body = raws.flatten ∧ List.Forall₂ IsRecord raws entries
  headed : ∀ bytes entries, convertFrom bytes = .ok entries →
    8 ≤ bytes.length ∧ DotNet.equalsIgnoreCase (asciiString (bytes.take 4)) "PReg".toList = true ∧
      slice bytes 4 4 = littleEndian 4 1
  cutOff : ∀ entries n result, (∀ entry ∈ entries, Entry.Regular entry) →
    (content entries).length ≤ streamLimit →
    convertFrom ((content entries).take n) = .ok result →
      ∃ count, (content entries).take n = content (entries.take count) ∧
        result = entries.take count
  failed : ∀ entries files outcomes after error,
    written entries files outcomes = (after, .throw error) →
      Leaves files.pol (content entries) (.error error) after
  interrupted : ∀ entries files outcomes,
    Safe files.pol (content entries) (written entries files outcomes).1

theorem written_rest {after : Files} {outcomes : List (Outcome FileProgress)} {rest : Write Unit}
    (h : written entries files outcomes = (after, rest)) :
    rest.Wp fileSystem (fun _ after => Safe files.pol (content entries) after) after
      fun outcome after => Leaves files.pol (content entries) outcome after ∧
        (outcome ≠ .error .tooLong → (content entries).length ≤ streamLimit) := by
  have hrest := (wp_writeFile entries files).run_rest outcomes
  rw [written] at h
  rwa [h] at hrest

theorem header_of_hasHeader {bytes : Bytes} (h : hasHeader bytes = true) :
    8 ≤ bytes.length ∧ DotNet.equalsIgnoreCase (asciiString (bytes.take 4)) "PReg".toList = true ∧
      slice bytes 4 4 = littleEndian 4 1 := by
  simp only [hasHeader, Bool.and_eq_true, decide_eq_true_eq] at h
  obtain ⟨⟨hlength, hletters⟩, hversion⟩ := h
  have hslice : (slice bytes 4 4).length = 4 := by
    rw [length_slice]
    omega
  exact ⟨hlength, hletters, (ofLittleEndian_eq_iff hslice (by decide)).mp hversion⟩

/-- A written file is read back, what is read is whole records, a file that was cut off gives
at most the entries before a cut between two of them, and a write that fails leaves the
previous file, unless it failed while moving or while putting attributes back. -/
theorem codec : Codec := by
  constructor
  case readBack =>
    intro entries files outcomes after hregular hwritten
    obtain ⟨hleaves, hfits⟩ := written_rest hwritten
    have hpol : after.pol = some _ := hleaves
    rw [readFile, hpol]
    exact convertFrom_content_of_regular hregular (hfits fun herror => by cases herror)
  case accepted => exact fun body entries => convertFrom_eq_ok
  case headed =>
    intro bytes entries hread
    by_cases hheader : hasHeader bytes = true
    · exact header_of_hasHeader hheader
    · rw [convertFrom_of_not_hasHeader (Bool.not_eq_true _ ▸ hheader)] at hread
      cases hread
  case cutOff =>
    intro entries n result hregular hfits hread
    obtain ⟨count, hcut, hresult⟩ := convertFrom_take
      (fun entry hentry => (hregular entry hentry).plain hentry hfits) hread
    refine ⟨count, hcut, ?_⟩
    rw [hresult]
    exact map_repaired_eq_self fun entry hentry => hregular entry (List.mem_of_mem_take hentry)
  case failed =>
    intro entries files outcomes after error hwritten
    exact (written_rest hwritten).1
  case interrupted =>
    intro entries files outcomes
    exact (wp_writeFile entries files).run (fun _ _ _ hsafe => hsafe) (.inl rfl) outcomes

/-- A value of a policy. -/
def dwordEntry (name : UInt16) : Entry where
  key := [83]
  valueName := [name]
  type := 4
  data := [1, 0, 0, 0]

theorem regular_dwordEntry : (dwordEntry 65).Regular ∧ (dwordEntry 66).Regular := by
  constructor <;> constructor <;> decide

/-- The text `x`. -/
def textEntry : Entry := { dwordEntry 67 with type := 1, data := [120, 0, 0, 0] }

/-- A policy that was written without anything going wrong is read back. -/
theorem codec_dwordEntry :
    readFile (written [dwordEntry 65, textEntry, dwordEntry 66] ⟨true, none, none, none⟩
      [.succeeds, .succeeds, .succeeds]).1 = .ok [dwordEntry 65, textEntry, dwordEntry 66] := by
  have hregular : ∀ entry ∈ [dwordEntry 65, textEntry, dwordEntry 66], entry.Regular := by
    simp only [List.forall_mem_cons, List.not_mem_nil, false_implies, implies_true, and_true]
    refine ⟨regular_dwordEntry.1, ?_, regular_dwordEntry.2⟩
    constructor <;> decide
  exact codec.readBack _ ⟨true, none, none, none⟩ [.succeeds, .succeeds, .succeeds] _ hregular rfl

/-- Nothing in a file says how many entries it has: one that is cut off behind its first entry
is not rejected. -/
theorem cut_between_entries :
    ¬ ∀ entries n, (∀ entry ∈ entries, Entry.Regular entry) → n < (content entries).length →
      ∃ failure, convertFrom ((content entries).take n) = .error failure := by
  intro h
  have hregular : ∀ entry ∈ [dwordEntry 65, dwordEntry 66], entry.Regular := by
    simp only [List.forall_mem_cons, List.not_mem_nil, false_implies, implies_true, and_true]
    exact regular_dwordEntry
  obtain ⟨failure, hfailure⟩ := h _ (content [dwordEntry 65]).length hregular (by decide)
  have hcut : (content [dwordEntry 65, dwordEntry 66]).take (content [dwordEntry 65]).length =
      content [dwordEntry 65] := by
    decide
  have hread : convertFrom (content [dwordEntry 65]) = .ok [dwordEntry 65] := by
    refine convertFrom_content_of_regular (fun entry hentry => ?_) (by decide)
    rw [List.mem_singleton.mp hentry]
    exact regular_dwordEntry.1
  rw [hcut, hread] at hfailure
  cases hfailure

end OpenPath.Windows.RegistryPol
