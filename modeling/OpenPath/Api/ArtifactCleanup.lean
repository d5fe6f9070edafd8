/-
# Installer files and their cleanup

A generator writes an installer to a staging file, renames it to its storage
name and mints a reference for it. A cleanup deletes the references of no
further use, reads the names that the remaining ones have, and removes the files
with other names: those of the references it deleted at once, all others when
they are old enough. The directory and the tables are separate, and so are the
steps on them; other processes take steps in between.

A file in use is removed when a reference to it is minted after the cleanup has
read the names: by a generator that was slow between its renaming and its
minting, or for a file whose last reference the same cleanup has deleted. In
runs where that does not happen no file in use is ever removed.

The download handler's own removal of a file after the last completed transfer
is not part of this model. A file operation that fails leaves the file.
-/

import OpenPath.Api.DownloadLeases

namespace OpenPath.Api.ArtifactCleanup

open Foundation DownloadRefs DownloadLeases

/-- `/^\.\d+-[0-9a-f]{8}-…-[0-9a-f]{12}\.staging\.exe$/u` -/
def stagingArtifactFilePattern : Re Char :=
  .sequence [.lit '.', .plus (.sat isDigit), .lit '-', uuidPattern, .word ".staging.exe".toList]

def isStoredArtifact (fileName : Text) : Bool := storageArtifactFilePattern.accepts fileName

def isStagingArtifact (fileName : Text) : Bool := stagingArtifactFilePattern.accepts fileName

def orphanArtifactGraceMs : Int := 5 * 60 * 1000

/-- Files that are not in use and not written later than this are removed. -/
def orphanCutoffMs (currentTime : Int) (artifactRetentionHours : Option Nat) : Int :=
  match artifactRetentionHours with
  | none => currentTime - orphanArtifactGraceMs
  | some hours => currentTime - hours * 60 * 60 * 1000

structure FileEntry where
  fileName : Text
  mtimeMs : Int
  deriving DecidableEq

/-- A file that was removed, with the tables of that moment. -/
structure Deletion where
  fileName : Text
  time : Int
  tables : Tables

/-- The database, the artifact directory, and what was removed from it. -/
structure Storage where
  service : Service
  directory : List FileEntry
  deletions : List Deletion

namespace Storage

def tables (storage : Storage) : Tables := storage.service.tables

def setTables (storage : Storage) (tables : Tables) : Storage :=
  { storage with service := { storage.service with tables } }

/-- No reference has this file name. -/
def Unreferenced (storage : Storage) (fileName : Text) : Prop :=
  ∀ ref ∈ storage.tables.refs, ref.artifactStorageFileName ≠ fileName

instance (storage : Storage) (fileName : Text) : Decidable (storage.Unreferenced fileName) :=
  inferInstanceAs (Decidable (∀ ref ∈ storage.tables.refs, ref.artifactStorageFileName ≠ fileName))

def find? (storage : Storage) (fileName : Text) : Option FileEntry :=
  storage.directory.find? (·.fileName = fileName)

/-- A name that has just been drawn. -/
def IsNew (storage : Storage) (fileName : Text) : Prop :=
  storage.find? fileName = none ∧ storage.Unreferenced fileName

instance (storage : Storage) (fileName : Text) : Decidable (storage.IsNew fileName) :=
  inferInstanceAs (Decidable (_ ∧ _))

/-- `rm(path, { force: true })` -/
def remove (storage : Storage) (fileName : Text) (time : Int) : Storage :=
  match storage.find? fileName with
  | none => storage
  | some _ =>
      { storage with
        directory := storage.directory.filter (·.fileName ≠ fileName)
        deletions := { fileName, time, tables := storage.tables } :: storage.deletions }

/-- `renameArtifact`: the file keeps its time. -/
def rename (storage : Storage) (source target : Text) : Storage :=
  { storage with
    directory := storage.directory.map fun entry =>
      if entry.fileName = source then { entry with fileName := target } else entry }

/-- `removeArtifact` of a cleanup, which removes files with the names of artifacts
only; `cutoff` is the time bound, where there is one. -/
def removeArtifact (storage : Storage) (fileName : Text) (cutoff : Option Int) (fails : Bool)
    (time : Int) : Storage :=
  if !(isStoredArtifact fileName || isStagingArtifact fileName) then storage
  else
    match storage.find? fileName with
    | none => storage
    | some entry =>
        if cutoff.any fun limit => limit < entry.mtimeMs then storage
        else if fails then storage
        else storage.remove fileName time

end Storage

/-- Where a cleanup or a generator stands. -/
inductive Phase
  | waiting
  | recovered (currentTime cutoff : Int)
  | selected (cutoff : Int) (staleIds : List Uuid)
  | deleted (cutoff : Int) (staleFileNames : List Text)
  | sweeping (cutoff : Int) (activeFileNames remaining : List Text)
  | scanning (cutoff : Int) (activeFileNames remaining : List Text)
  | staged (stagingName : Text)
  | published (stagingName fileName : Text)
  | unpublished (stagingName fileName : Text)
  | failed (stagingName fileName : Text)
  | revoking (fileName : Text)
  | revoked (fileName : Text)

inductive Statement
  | transact (transaction : Transaction)
  | mintReference (config : WindowsOfflineInstallerConfig) (id : Uuid) (rawToken : Text) (now : Int)
      (input : MintInput)
  | startCleanup (currentTime : Int) (artifactRetentionHours : Option Nat)
  | selectStaleRows
  | deleteStaleRows
  | readActiveFileNames (directoryExists : Bool)
  | removeStale (fails : Bool) (time : Int)
  | readDirectory
  | removeOrphan (fails : Bool) (time : Int)
  | finishCleanup
  | stage (stagingName : Text) (mtimeMs : Int)
  | abandon
  | publish (fileName : Text)
  | failPublish (fileName : Text)
  | removeUnpublished (time : Int)
  | mintGenerated (config : WindowsOfflineInstallerConfig) (id : Uuid) (rawToken : Text) (now : Int)
      (input : MintInput) (acknowledged : Bool)
  | removeStaging
  | revoke
  | failRevoke
  | removePublished (fails : Bool) (time : Int)

/-- A new reference. A generator that is told of no success may have inserted the
row all the same. -/
def mint (deps : RefsRepoDeps) (config : WindowsOfflineInstallerConfig) (id : Uuid)
    (rawToken : Text) (now : Int) (input : MintInput) (storage : Storage) :
    Option (Bool × Storage) :=
  if id ∈ storage.service.minted then none
  else
    match DownloadRefs.mintReference deps id rawToken now (configured config input)
        storage.tables with
    | .error _ => some (false, storage)
    | .ok (_, tables) =>
        some (true, { storage with service := { tables, minted := id :: storage.service.minted } })

def move (deps : RefsRepoDeps) : Statement → Storage × Phase → Option (Storage × Phase)
  | .transact transaction, (storage, .waiting) =>
      some (storage.setTables (applyTransaction deps storage.tables transaction), .waiting)
  | .mintReference config id rawToken now input, (storage, .waiting) =>
      (mint deps config id rawToken now input storage).map fun outcome => (outcome.2, .waiting)
  | .startCleanup currentTime artifactRetentionHours, (storage, .waiting) =>
      some (storage.setTables (recoverExpiredTransferLeases currentTime storage.tables),
        .recovered currentTime (orphanCutoffMs currentTime artifactRetentionHours))
  | .selectStaleRows, (storage, .recovered currentTime cutoff) =>
      some (storage, .selected cutoff ((staleRows currentTime storage.tables).map (·.id)))
  | .deleteStaleRows, (storage, .selected cutoff staleIds) =>
      let outcome := DownloadRefs.deleteStaleRows staleIds storage.tables
      some (storage.setTables outcome.2, .deleted cutoff outcome.1)
  | .readActiveFileNames directoryExists, (storage, .deleted cutoff staleFileNames) =>
      if directoryExists then
        some (storage, .sweeping cutoff (storage.tables.refs.map (·.artifactStorageFileName))
          staleFileNames)
      else some (storage, .waiting)
  | .removeStale fails time, (storage, .sweeping cutoff activeFileNames (fileName :: remaining)) =>
      if fileName ∈ activeFileNames then some (storage, .sweeping cutoff activeFileNames remaining)
      else
        some (storage.removeArtifact fileName none fails time,
          .sweeping cutoff activeFileNames remaining)
  | .readDirectory, (storage, .sweeping cutoff activeFileNames []) =>
      some (storage, .scanning cutoff activeFileNames (storage.directory.map (·.fileName)))
  | .removeOrphan fails time, (storage, .scanning cutoff activeFileNames (fileName :: remaining)) =>
      if (isStoredArtifact fileName || isStagingArtifact fileName) ∧ fileName ∉ activeFileNames then
        some (storage.removeArtifact fileName (some cutoff) fails time,
          .scanning cutoff activeFileNames remaining)
      else some (storage, .scanning cutoff activeFileNames remaining)
  | .finishCleanup, (storage, .scanning _ _ []) => some (storage, .waiting)
  | .stage stagingName mtimeMs, (storage, .waiting) =>
      if isStagingArtifact stagingName ∧ storage.IsNew stagingName then
        some ({ storage with
          directory := storage.directory ++ [{ fileName := stagingName, mtimeMs }] },
          .staged stagingName)
      else none
  | .abandon, (storage, .staged stagingName) =>
      some ({ storage with directory := storage.directory.filter (·.fileName ≠ stagingName) },
        .waiting)
  | .publish fileName, (storage, .staged stagingName) =>
      if isStoredArtifact fileName ∧ storage.IsNew fileName ∧
          (storage.find? stagingName).isSome then
        some (storage.rename stagingName fileName, .published stagingName fileName)
      else none
  | .failPublish fileName, (storage, .staged stagingName) =>
      if isStoredArtifact fileName ∧ storage.IsNew fileName then
        some (storage, .unpublished stagingName fileName)
      else none
  | .removeUnpublished time, (storage, .unpublished stagingName fileName) =>
      some (storage.remove fileName time, .failed stagingName fileName)
  | .mintGenerated config id rawToken now input acknowledged,
      (storage, .published stagingName fileName) =>
      (mint deps config id rawToken now { input with artifactStorageFileName := some fileName }
        storage).map fun outcome =>
          (outcome.2,
            if outcome.1 && acknowledged then .waiting else .failed stagingName fileName)
  | .removeStaging, (storage, .failed stagingName fileName) =>
      some ({ storage with directory := storage.directory.filter (·.fileName ≠ stagingName) },
        .revoking fileName)
  | .revoke, (storage, .revoking fileName) =>
      match revokeReferencesForArtifact fileName storage.tables with
      | .error _ => some (storage, .waiting)
      | .ok (canRemove, tables) =>
          some (storage.setTables tables, if canRemove then .revoked fileName else .waiting)
  | .failRevoke, (storage, .revoking _) => some (storage, .waiting)
  | .removePublished fails time, (storage, .revoked fileName) =>
      some (if fails then storage else storage.remove fileName time, .waiting)
  | _, _ => none

def emptyStorage : Storage where
  service := noReferences
  directory := []
  deletions := []

/-- All interleavings of generators, cleanups and the other calls. -/
def processes (deps : RefsRepoDeps) :
    TransitionSystem (Interleaved Storage Phase) (Nat × Statement) :=
  Interleaved.system (· = emptyStorage) .waiting (Interleaved.movesOf (move deps))

/-! ## Files in use -/

/-- A reference that has not expired has this file, or an unexpired lease is on
one that has. -/
def InUse (time : Int) (tables : Tables) (fileName : Text) : Prop :=
  (∃ ref ∈ tables.refs, ref.artifactStorageFileName = fileName ∧ time < ref.expiresAt) ∨
    ∃ lease ∈ tables.leases, time < lease.expiresAt ∧
      ∃ ref ∈ tables.refs, ref.id = lease.downloadRefId ∧ ref.artifactStorageFileName = fileName

/-- No file in use has been removed. -/
def KeptInUse (storage : Storage) : Prop :=
  ∀ deletion ∈ storage.deletions, ¬ InUse deletion.time deletion.tables deletion.fileName

/-- A file that was written no later than a time. -/
def Old (storage : Storage) (cutoff : Int) (fileName : Text) : Prop :=
  ∃ entry ∈ storage.directory, entry.fileName = fileName ∧ entry.mtimeMs ≤ cutoff

/-- The files that a process may still remove, from what it has read. -/
def MayRemove (storage : Storage) : Phase → Text → Prop
  | .sweeping cutoff activeFileNames remaining, fileName =>
      fileName ∉ activeFileNames ∧ (fileName ∈ remaining ∨ Old storage cutoff fileName)
  | .scanning cutoff activeFileNames remaining, fileName =>
      fileName ∉ activeFileNames ∧ fileName ∈ remaining ∧ Old storage cutoff fileName
  | .unpublished _ unpublishedName, fileName => fileName = unpublishedName
  | .revoked revokedName, fileName => fileName = revokedName
  | _, _ => False

/-- The file that a step mints a reference for. -/
def mintedFile (deps : RefsRepoDeps) : Statement → Phase → Option Text
  | .mintReference _ _ rawToken _ input, .waiting =>
      (storageFileName input (hashDownloadReference deps rawToken)).toOption
  | .mintGenerated _ _ _ _ _ _, .published _ fileName => some fileName
  | _, _ => none

/-- No process is about to remove the file that the step mints a reference for. -/
def MintsKeptFile (deps : RefsRepoDeps) (state : Interleaved Storage Phase)
    (label : Nat × Statement) : Prop :=
  ∀ fileName ∈ mintedFile deps label.2 (state.phase label.1),
    ∀ call, ¬ MayRemove state.shared (state.phase call) fileName

/-! ## What a step does -/

/-- The file names of references, after a step on the tables. -/
def NamesKept (old new : Tables) : Prop :=
  ∀ ref ∈ new.refs, ∃ prior ∈ old.refs, prior.artifactStorageFileName = ref.artifactStorageFileName

theorem namesKept_of_follows {old new : Tables} (hfollows : Follows old new) :
    NamesKept old new := by
  intro ref href
  obtain ⟨prior, hprior, hadvances⟩ := hfollows.advances ref href
  exact ⟨prior, hprior, hadvances.artifactStorageFileName.symm⟩

/-- What a step of a process leads to. Removed files are among those that the
process may remove, and a new file has a new name. -/
structure Effect (minted : Option Text) (storage : Storage) (phase : Phase) (after : Storage) :
    Prop where
  steps : Steps storage.service after.service
  names : ∀ ref ∈ after.tables.refs,
    (∃ prior ∈ storage.tables.refs,
      prior.artifactStorageFileName = ref.artifactStorageFileName) ∨
        ref.artifactStorageFileName ∈ minted
  directory : ∀ entry ∈ after.directory,
    entry ∈ storage.directory ∨ after.Unreferenced entry.fileName
  deletions : ∀ deletion ∈ after.deletions, deletion ∈ storage.deletions ∨
    (MayRemove storage phase deletion.fileName ∧ deletion.tables = storage.tables)

variable {storage : Storage} {tables : Tables} {after : Storage} {phase : Phase} {fileName : Text}

section

variable (minted : Option Text)
include minted

theorem Effect.of_tables (phase : Phase) (hfollows : Follows storage.tables tables) :
    Effect minted storage phase (storage.setTables tables) where
  steps := .follows hfollows
  names ref href := Or.inl (namesKept_of_follows hfollows ref href)
  directory _ hentry := Or.inl hentry
  deletions _ hdeletion := Or.inl hdeletion

theorem Effect.of_directory (phase : Phase) (hservice : after.service = storage.service)
    (hdirectory : ∀ entry ∈ after.directory,
      entry ∈ storage.directory ∨ storage.Unreferenced entry.fileName)
    (hdeletions : ∀ deletion ∈ after.deletions, deletion ∈ storage.deletions ∨
      (MayRemove storage phase deletion.fileName ∧ deletion.tables = storage.tables)) :
    Effect minted storage phase after where
  steps := hservice ▸ .follows (Follows.refl _)
  names ref href := Or.inl ⟨ref, by rwa [Storage.tables, hservice] at href, rfl⟩
  directory := by
    simpa only [Storage.Unreferenced, Storage.tables, hservice] using hdirectory
  deletions := hdeletions

theorem Effect.refl (storage : Storage) (phase : Phase) : Effect minted storage phase storage :=
  .of_directory minted phase rfl (fun _ => Or.inl) fun _ => Or.inl

theorem Effect.remove (time : Int)
    (hmay : (storage.find? fileName).isSome = true → MayRemove storage phase fileName) :
    Effect minted storage phase (storage.remove fileName time) := by
  unfold Storage.remove
  cases hfound : storage.find? fileName with
  | none => exact Effect.refl minted storage phase
  | some entry =>
      refine Effect.of_directory minted phase ?_ ?_ ?_
      · rfl
      · intro other hother
        exact Or.inl (List.mem_filter.mp hother).1
      · intro deletion hdeletion
        rcases List.mem_cons.mp hdeletion with rfl | hold
        · exact Or.inr ⟨hmay (by rw [hfound]; rfl), rfl⟩
        · exact Or.inl hold

theorem Effect.removeStagingFile (phase : Phase) (keeps : FileEntry → Bool) :
    Effect minted storage phase { storage with directory := storage.directory.filter keeps } := by
  refine Effect.of_directory minted phase ?_ ?_ ?_
  · rfl
  · intro entry hentry
    exact Or.inl (List.mem_filter.mp hentry).1
  · exact fun _ => Or.inl

end

/-- A file is found with its time. -/
theorem old_of_find? {entry : FileEntry} {cutoff : Int}
    (hfound : storage.find? fileName = some entry) (hold : entry.mtimeMs ≤ cutoff) :
    Old storage cutoff fileName := by
  have hname := List.find?_some hfound
  exact ⟨entry, List.mem_of_find?_eq_some hfound, of_decide_eq_true hname, hold⟩

variable {cutoff : Option Int}

theorem Effect.removeArtifact (minted : Option Text) (fails : Bool) (time : Int)
    (hmay : (∀ limit ∈ cutoff, Old storage limit fileName) → MayRemove storage phase fileName) :
    Effect minted storage phase (storage.removeArtifact fileName cutoff fails time) := by
  unfold Storage.removeArtifact
  split
  · exact Effect.refl minted storage phase
  split
  · exact Effect.refl minted storage phase
  rename_i entry hfound
  split
  · exact Effect.refl minted storage phase
  rename_i hyoung
  split
  · exact Effect.refl minted storage phase
  · apply Effect.remove
    intro _
    apply hmay
    rintro limit hlimit
    apply old_of_find? hfound
    rw [Option.mem_def] at hlimit
    simpa [hlimit] using hyoung

variable {deps : RefsRepoDeps} {input : MintInput}

theorem mint_effect {config : WindowsOfflineInstallerConfig} {id : Uuid} {rawToken : Text}
    {now : Int} {outcome : Bool × Storage}
    (hmint : mint deps config id rawToken now input storage = some outcome) :
    Effect (storageFileName input (hashDownloadReference deps rawToken)).toOption storage phase
      outcome.2 := by
  unfold mint at hmint
  split at hmint
  · cases hmint
  rename_i hfresh
  split at hmint
  · cases hmint
    exact Effect.refl _ storage phase
  · rename_i minted tables hcall
    cases hmint
    obtain ⟨row, rfl, rfl, hmax, hunused, hidle, hname⟩ := mintReference_eq_ok hcall
    refine ⟨.mints row hfresh (hmax ▸ Int.natCast_nonneg _) hunused hidle, ?_, fun _ => Or.inl,
      fun _ => Or.inl⟩
    intro ref href
    rcases List.mem_append.mp href with hold | hnew
    · exact Or.inl ⟨ref, hold, rfl⟩
    · obtain rfl := List.mem_singleton.mp hnew
      have hname' : storageFileName input (hashDownloadReference deps rawToken) =
          .ok ref.artifactStorageFileName := hname
      rw [hname']
      exact Or.inr rfl

variable {minted : Option Text}

theorem Effect.mono {minted' : Option Text} (heffect : Effect minted storage phase after)
    (hle : ∀ fileName ∈ minted, fileName ∈ minted') :
    Effect minted' storage phase after :=
  { heffect with
    names := fun ref href => (heffect.names ref href).imp id (hle _) }

variable {other : Text}

theorem storageFileName_given {referenceHash : Text}
    (hother : other ∈
      (storageFileName { input with artifactStorageFileName := some fileName }
        referenceHash).toOption) : other ∈ some fileName := by
  unfold storageFileName validateArtifactStorageFileName at hother
  split at hother
  · rename_i given hgiven
    cases hgiven
    split at hother
    · exact hother
    · cases hother
  · rename_i hgiven
    cases hgiven

theorem unreferenced_of_revoked
    (hrevoke : revokeReferencesForArtifact fileName storage.tables = .ok (true, tables)) :
    (storage.setTables tables).Unreferenced fileName := by
  unfold revokeReferencesForArtifact at hrevoke
  obtain ⟨validated, hvalid, hrest⟩ := bind_eq_ok.mp hrevoke
  have hname : validated = fileName := by
    unfold validateArtifactStorageFileName at hvalid
    split at hvalid
    · exact (Except.ok.inj hvalid).symm
    · cases hvalid
  subst hname
  obtain ⟨hnone, rfl⟩ := Prod.mk.inj (Except.ok.inj hrest)
  rw [Option.isNone_iff_eq_none, List.find?_eq_none] at hnone
  intro ref href hfile
  exact hnone ref href (decide_eq_true hfile)

theorem follows_revoke_ok {after : Tables} {canRemove : Bool}
    (hrevoke : revokeReferencesForArtifact fileName tables = .ok (canRemove, after)) :
    Follows tables after := by
  have hfollows := follows_revokeReferencesForArtifact fileName tables
  rwa [hrevoke] at hfollows

/-- What a process may remove after its step, it could remove before, or no
reference has it. -/
def Remains (source target : Storage × Phase) : Prop :=
  ∀ fileName, MayRemove target.1 target.2 fileName →
    MayRemove source.1 source.2 fileName ∨ target.1.Unreferenced fileName

variable {source : Storage × Phase}

theorem Remains.of_none (hnone : ∀ fileName, ¬ MayRemove storage phase fileName) :
    Remains source (storage, phase) :=
  fun fileName hmay => absurd hmay (hnone fileName)

theorem old_removeArtifact {fails : Bool} {time limit : Int}
    (hold : Old (storage.removeArtifact fileName cutoff fails time) limit other) :
    Old storage limit other := by
  unfold Storage.removeArtifact Storage.remove at hold
  split at hold
  · exact hold
  split at hold
  · exact hold
  split at hold
  · exact hold
  split at hold
  · exact hold
  split at hold
  · exact hold
  · obtain ⟨entry, hentry, hname, hlimit⟩ := hold
    exact ⟨entry, (List.mem_filter.mp hentry).1, hname, hlimit⟩

theorem move_spec {statement : Statement} {outcome : Storage × Phase}
    (hmove : move deps statement source = some outcome) :
    Effect (mintedFile deps statement source.2) source.1 source.2 outcome.1 ∧
      Remains source outcome := by
  fun_cases move deps statement source with
  | case1 transaction storage =>
      cases hmove
      exact ⟨Effect.of_tables _ _ (follows_transaction deps _ transaction),
        Remains.of_none fun _ => id⟩
  | case2 config newId rawToken now input storage =>
      obtain ⟨minted, hmint, rfl⟩ := Option.map_eq_some_iff.mp hmove
      exact ⟨mint_effect hmint, Remains.of_none fun _ => id⟩
  | case3 currentTime artifactRetentionHours storage =>
      cases hmove
      exact ⟨Effect.of_tables _ _ (follows_recoverExpiredTransferLeases currentTime _),
        Remains.of_none fun _ => id⟩
  | case4 storage currentTime cutoff =>
      cases hmove
      exact ⟨Effect.refl _ _ _, Remains.of_none fun _ => id⟩
  | case5 storage cutoff staleIds =>
      cases hmove
      exact ⟨Effect.of_tables _ _ (follows_deleteRefs _ _), Remains.of_none fun _ => id⟩
  | case6 storage cutoff staleFileNames =>
      cases hmove
      refine ⟨Effect.refl _ _ _, ?_⟩
      rintro fileName ⟨hinactive, -⟩
      refine Or.inr fun ref href hname => hinactive ?_
      exact List.mem_map.mpr ⟨ref, href, hname⟩
  | case7 directoryExists storage cutoff staleFileNames hexists =>
      rw [move, if_neg hexists] at hmove
      cases hmove
      exact ⟨Effect.refl _ _ _, Remains.of_none fun _ => id⟩
  | case8 fails time storage cutoff activeFileNames fileName remaining hactive =>
      rw [move, if_pos hactive] at hmove
      cases hmove
      refine ⟨Effect.refl _ _ _, ?_⟩
      rintro other ⟨hinactive, hlisted⟩
      exact Or.inl ⟨hinactive, hlisted.imp (List.mem_cons_of_mem _) id⟩
  | case9 fails time storage cutoff activeFileNames fileName remaining hinactive =>
      rw [move, if_neg hinactive] at hmove
      cases hmove
      refine ⟨?_, ?_⟩
      · apply Effect.removeArtifact
        intro _
        exact ⟨hinactive, Or.inl List.mem_cons_self⟩
      · rintro other ⟨hother, hlisted⟩
        exact Or.inl ⟨hother, hlisted.imp (List.mem_cons_of_mem _) old_removeArtifact⟩
  | case10 storage cutoff activeFileNames =>
      cases hmove
      refine ⟨Effect.refl _ _ _, ?_⟩
      rintro fileName ⟨hinactive, -, hold⟩
      exact Or.inl ⟨hinactive, Or.inr hold⟩
  | case11 fails time storage cutoff activeFileNames fileName remaining hremoves =>
      rw [move, if_pos hremoves] at hmove
      cases hmove
      refine ⟨?_, ?_⟩
      · apply Effect.removeArtifact
        intro hold
        exact ⟨hremoves.2, List.mem_cons_self, hold cutoff rfl⟩
      · rintro other ⟨hother, hlisted, hold⟩
        exact Or.inl ⟨hother, List.mem_cons_of_mem _ hlisted, old_removeArtifact hold⟩
  | case12 fails time storage cutoff activeFileNames fileName remaining hkeeps =>
      rw [move, if_neg hkeeps] at hmove
      cases hmove
      refine ⟨Effect.refl _ _ _, ?_⟩
      rintro other ⟨hother, hlisted, hold⟩
      exact Or.inl ⟨hother, List.mem_cons_of_mem _ hlisted, hold⟩
  | case13 storage cutoff activeFileNames =>
      cases hmove
      exact ⟨Effect.refl _ _ _, Remains.of_none fun _ => id⟩
  | case14 stagingName mtimeMs storage hdrawn =>
      rw [move, if_pos hdrawn] at hmove
      cases hmove
      refine ⟨?_, Remains.of_none fun _ => id⟩
      refine Effect.of_directory _ _ rfl ?_ fun _ => Or.inl
      intro entry hentry
      rcases List.mem_append.mp hentry with hold | hnew
      · exact Or.inl hold
      · obtain rfl := List.mem_singleton.mp hnew
        exact Or.inr hdrawn.2.2
  | case15 stagingName mtimeMs storage hdrawn =>
      rw [move, if_neg hdrawn] at hmove
      cases hmove
  | case16 storage stagingName =>
      cases hmove
      exact ⟨Effect.removeStagingFile _ _ _, Remains.of_none fun _ => id⟩
  | case17 fileName storage stagingName hdrawn =>
      rw [move, if_pos hdrawn] at hmove
      cases hmove
      refine ⟨?_, Remains.of_none fun _ => id⟩
      refine Effect.of_directory _ _ rfl ?_ fun _ => Or.inl
      intro entry hentry
      obtain ⟨prior, hprior, rfl⟩ := List.mem_map.mp hentry
      split
      · exact Or.inr hdrawn.2.1.2
      · exact Or.inl hprior
  | case18 fileName storage stagingName hdrawn =>
      rw [move, if_neg hdrawn] at hmove
      cases hmove
  | case19 fileName storage stagingName hdrawn =>
      rw [move, if_pos hdrawn] at hmove
      cases hmove
      refine ⟨Effect.refl _ _ _, ?_⟩
      rintro other rfl
      exact Or.inr hdrawn.2.2
  | case20 fileName storage stagingName hdrawn =>
      rw [move, if_neg hdrawn] at hmove
      cases hmove
  | case21 time storage stagingName fileName =>
      cases hmove
      exact ⟨Effect.remove _ _ fun _ => rfl, Remains.of_none fun _ => id⟩
  | case22 config newId rawToken now input acknowledged storage stagingName fileName =>
      obtain ⟨minted, hmint, rfl⟩ := Option.map_eq_some_iff.mp hmove
      refine ⟨(mint_effect hmint).mono fun other hother => ?_, ?_⟩
      · exact storageFileName_given hother
      · apply Remains.of_none
        intro other
        split
        · exact id
        · exact id
  | case23 storage stagingName fileName =>
      cases hmove
      exact ⟨Effect.removeStagingFile _ _ _, Remains.of_none fun _ => id⟩
  | case24 storage fileName failure hrevoke =>
      rw [move, hrevoke] at hmove
      cases hmove
      exact ⟨Effect.refl _ _ _, Remains.of_none fun _ => id⟩
  | case25 storage fileName canRemove tables hrevoke =>
      rw [move, hrevoke] at hmove
      cases hmove
      refine ⟨Effect.of_tables _ _ (follows_revoke_ok hrevoke), ?_⟩
      intro other hmay
      cases canRemove with
      | false => exact hmay.elim
      | true =>
          obtain rfl : other = fileName := hmay
          exact Or.inr (unreferenced_of_revoked hrevoke)
  | case26 storage fileName =>
      cases hmove
      exact ⟨Effect.refl _ _ _, Remains.of_none fun _ => id⟩
  | case27 fails time storage fileName =>
      cases hmove
      refine ⟨?_, Remains.of_none fun _ => id⟩
      cases fails with
      | true => exact Effect.refl _ _ _
      | false => exact Effect.remove _ _ fun _ => rfl
  | case28 =>
      simp_all only [move, reduceCtorEq]

/-! ## Runs -/

theorem deleteStaleRows_leases (hcounted : Counted tables) (staleIds : List Uuid) :
    (DownloadRefs.deleteStaleRows staleIds tables).2.leases = tables.leases := by
  apply List.filter_eq_self.mpr
  intro lease hlease
  rw [Bool.not_eq_true', List.any_eq_false]
  intro ref href hdeleted
  simp only [deletesStale, Bool.and_eq_true, decide_eq_true_eq] at hdeleted
  have hcount := hcounted.exact.counts ref href
  have hheld : 0 < activeTransfers.held tables.leases ref.id := by
    rw [hdeleted.2]
    exact CounterColumn.held_pos hlease
  have hidle : activeTransfers.count ref = 0 := hdeleted.1.2
  have hkey : activeTransfers.key ref = ref.id := rfl
  rw [hidle, hkey] at hcount
  omega

/-- No reference has a file that has been removed, at the moment of its removal. -/
structure Kept (storage : Storage) : Prop where
  service : Invariant storage.service
  removed : ∀ deletion ∈ storage.deletions, ∀ ref ∈ deletion.tables.refs,
    ref.artifactStorageFileName ≠ deletion.fileName

theorem Kept.keptInUse (hkept : Kept storage) : KeptInUse storage := by
  rintro deletion hdeletion (⟨ref, href, hname, -⟩ | ⟨lease, -, -, ref, href, -, hname⟩)
  · exact hkept.removed deletion hdeletion ref href hname
  · exact hkept.removed deletion hdeletion ref href hname

/-- No reference has a file that the process may remove. -/
def Harmless (storage : Storage) (phase : Phase) : Prop :=
  ∀ fileName, MayRemove storage phase fileName → storage.Unreferenced fileName

section

variable (heffect : Effect minted storage phase after)
include heffect

/-- A step leaves the names alone that it mints no reference for. -/
theorem Effect.unreferenced (hunreferenced : storage.Unreferenced fileName)
    (hminted : fileName ∉ minted) :
    after.Unreferenced fileName := by
  intro ref href hname
  rcases heffect.names ref href with ⟨prior, hprior, hsame⟩ | hmint
  · exact hunreferenced prior hprior (hsame.trans hname)
  · exact hminted (hname ▸ hmint)

theorem Effect.old {cutoff : Int} (hold : Old after cutoff fileName) :
    Old storage cutoff fileName ∨ after.Unreferenced fileName := by
  obtain ⟨entry, hentry, rfl, hlimit⟩ := hold
  rcases heffect.directory entry hentry with hprior | hnew
  · exact Or.inl ⟨entry, hprior, rfl, hlimit⟩
  · exact Or.inr hnew

/-- What another process may remove after the step, it could remove before, or no
reference has it. -/
theorem Effect.remains (other : Phase) : Remains (storage, other) (after, other) := by
  intro fileName hmay
  cases other with
  | sweeping cutoff activeFileNames remaining =>
      obtain ⟨hinactive, hlisted | hold⟩ := hmay
      · exact Or.inl ⟨hinactive, Or.inl hlisted⟩
      · exact (heffect.old hold).imp (fun h => ⟨hinactive, Or.inr h⟩) id
  | scanning cutoff activeFileNames remaining =>
      obtain ⟨hinactive, hlisted, hold⟩ := hmay
      exact (heffect.old hold).imp (fun h => ⟨hinactive, hlisted, h⟩) id
  | unpublished stagingName unpublishedName => exact Or.inl hmay
  | revoked revokedName => exact Or.inl hmay
  | _ => exact hmay.elim

theorem harmless_of_remains {own next : Phase} (hremains : Remains (storage, own) (after, next))
    (hharmless : Harmless storage own)
    (hminted : ∀ fileName ∈ minted, ¬ MayRemove storage own fileName) :
    Harmless after next := by
  intro fileName hmay
  rcases hremains fileName hmay with hbefore | hunreferenced
  · exact heffect.unreferenced (hharmless fileName hbefore) fun hmint =>
      hminted fileName hmint hbefore
  · exact hunreferenced

end

theorem Kept.effect (hkept : Kept storage) (hharmless : Harmless storage phase)
    (heffect : Effect minted storage phase after) : Kept after := by
  refine ⟨hkept.service.steps heffect.steps, ?_⟩
  intro deletion hdeletion
  rcases heffect.deletions deletion hdeletion with hold | ⟨hmay, htables⟩
  · exact hkept.removed deletion hold
  · rw [htables]
    exact hharmless deletion.fileName hmay

/-- In a run in which no reference is minted for a file that a process is about to
remove, no file in use is removed, and no cleanup deletes a reference with a
lease. -/
theorem keptInUse_of_mintsKeptFile {deps : RefsRepoDeps} {state : Interleaved Storage Phase}
    (hreach : (processes deps).ReachableBy (MintsKeptFile deps) state) :
    KeptInUse state.shared ∧ ∀ staleIds,
      (DownloadRefs.deleteStaleRows staleIds state.shared.tables).2.leases =
        state.shared.tables.leases := by
  have hrun : Kept state.shared ∧ ∀ call, Harmless state.shared (state.phase call) := by
    refine Interleaved.interference_free_among ?_ ?_ hreach
    · rintro shared rfl
      refine ⟨⟨invariant_noReferences, ?_⟩, fun _ => False.elim⟩
      intro deletion hdeletion
      cases hdeletion
    · intro source call statement outcome hkept hharmless hmints hmove
      obtain ⟨heffect, hremains⟩ := move_spec hmove
      refine ⟨hkept.effect (hharmless call) heffect, ?_, ?_⟩
      · exact harmless_of_remains heffect hremains (hharmless call) fun fileName hmint =>
          hmints fileName hmint call
      · intro other _
        exact harmless_of_remains heffect (heffect.remains _) (hharmless other)
          fun fileName hmint => hmints fileName hmint other
  exact ⟨hrun.1.keptInUse, deleteStaleRows_leases hrun.1.service.counted⟩

/-! ## A generator that crashed, and one that was slow -/

def idleProcesses : Interleaved Storage Phase where
  shared := emptyStorage
  phase _ := .waiting

theorem reachableBy_idleProcesses (deps : RefsRepoDeps) :
    (processes deps).ReachableBy (MintsKeptFile deps) idleProcesses :=
  .start ⟨rfl, fun _ => rfl⟩

def lessonStaging : Text :=
  ".41-00000000-0000-4000-8000-000000000000.staging.exe".toList

def lessonFile : Text := "11111111-1111-4111-8111-111111111111.exe".toList

def laterStaging : Text :=
  ".42-00000000-0000-4000-8000-000000000000.staging.exe".toList

def laterFile : Text := "22222222-2222-4222-8222-222222222222.exe".toList

/-- The file is published, and the generator stops before it mints a reference.
Two hours later a cleanup that keeps files for an hour removes it, while another
generator mints a reference for its own file. -/
def crashedGenerator : List (Nat × Statement) :=
  [(0, .stage lessonStaging 0), (0, .publish lessonFile), (2, .stage laterStaging 7200000),
   (1, .startCleanup 7200000 (some 1)), (1, .selectStaleRows), (1, .deleteStaleRows),
   (1, .readActiveFileNames true), (2, .publish laterFile), (1, .readDirectory),
   (2, .mintGenerated lessonConfig 1 lessonToken 7200001 lessonInput true),
   (1, .removeOrphan false 7200002), (1, .removeOrphan false 7200002), (1, .finishCleanup)]

instance (storage : Storage) (phase : Phase) (fileName : Text) :
    Decidable (MayRemove storage phase fileName) := by
  cases phase <;> unfold MayRemove Old <;> infer_instance

def mintsKeptBool (state : Interleaved Storage Phase) (label : Nat × Statement) : Bool :=
  label.1 < 3 && (mintedFile lessonDeps label.2 (state.phase label.1)).all fun fileName =>
    (List.range 3).all fun call => !decide (MayRemove state.shared (state.phase call) fileName)

theorem mintsKeptFile_of_bool (state : Interleaved Storage Phase) (label : Nat × Statement)
    (hrest : ∀ call, 3 ≤ call → state.phase call = .waiting)
    (htest : mintsKeptBool state label = true) :
    label.1 < 3 ∧ MintsKeptFile lessonDeps state label := by
  simp only [mintsKeptBool, Bool.and_eq_true, decide_eq_true_eq, Option.all_eq_true,
    List.all_eq_true, List.mem_range, Bool.not_eq_true', decide_eq_false_iff_not] at htest
  refine ⟨htest.1, fun fileName hminted call => ?_⟩
  by_cases hcall : call < 3
  · exact htest.2 fileName hminted call hcall
  · rw [hrest call (Nat.not_lt.mp hcall)]
    exact id

theorem keptInUse_crashedGenerator :
    ∃ state, TransitionSystem.runBy mintsKeptBool (Interleaved.stepOf (move lessonDeps))
        idleProcesses crashedGenerator = some state ∧
      state.shared.deletions.length = 1 ∧ state.shared.tables.refs.length = 1 ∧
        KeptInUse state.shared := by
  have hrun : ((TransitionSystem.runBy mintsKeptBool (Interleaved.stepOf (move lessonDeps))
      idleProcesses crashedGenerator).map fun state =>
        (state.shared.deletions.length, state.shared.tables.refs.length)) = some (1, 1) := by
    decide +kernel
  obtain ⟨state, hstate, hlengths⟩ := Option.map_eq_some_iff.mp hrun
  obtain ⟨hremoved, hminted⟩ := Prod.mk.inj hlengths
  have hreach := Interleaved.reachableBy_first 3 mintsKeptFile_of_bool _
    (reachableBy_idleProcesses lessonDeps) (fun _ _ => rfl) hstate
  exact ⟨state, hstate, hremoved, hminted, (keptInUse_of_mintsKeptFile hreach).1⟩

/-- The generator mints its reference after the cleanup has read the names. -/
def slowGenerator : List (Nat × Statement) :=
  [(0, .stage lessonStaging 0), (0, .publish lessonFile), (1, .startCleanup 7200000 (some 1)),
   (1, .selectStaleRows), (1, .deleteStaleRows), (1, .readActiveFileNames true),
   (0, .mintGenerated lessonConfig 1 lessonToken 7200001 lessonInput true),
   (1, .readDirectory), (1, .removeOrphan false 7200002)]

def removedInUse (storage : Storage) : Bool :=
  storage.deletions.any fun deletion => deletion.tables.refs.any fun ref =>
    ref.artifactStorageFileName = deletion.fileName && deletion.time < ref.expiresAt

theorem not_keptInUse_of_removedInUse (hremoved : removedInUse storage = true) :
    ¬ KeptInUse storage := by
  intro hkept
  simp only [removedInUse, List.any_eq_true, Bool.and_eq_true, decide_eq_true_eq] at hremoved
  obtain ⟨deletion, hdeletion, ref, href, hname, htime⟩ := hremoved
  exact hkept deletion hdeletion (Or.inl ⟨ref, href, hname, htime⟩)

/-- The file of a reference that has just been minted is removed. -/
theorem fresh_reference_loses_file :
    ∃ state, (processes lessonDeps).Reachable state ∧ ¬ KeptInUse state.shared := by
  have hrun : ((Interleaved.run (move lessonDeps) idleProcesses slowGenerator).map fun state =>
      removedInUse state.shared) = some true := by
    decide
  obtain ⟨state, hstate, hremoved⟩ := Option.map_eq_some_iff.mp hrun
  have hstart := (reachableBy_idleProcesses lessonDeps).reachable
  exact ⟨state, Interleaved.reachable_run hstart hstate, not_keptInUse_of_removedInUse hremoved⟩

end OpenPath.Api.ArtifactCleanup
