/-
# Provisioning of the template

A provisioner first clears away what earlier ones have left behind and then, where
the template is not there, downloads it, writes it to a staging directory, makes
the staging directory a generation by renaming it, and writes a pointer to it that
takes the place of the current one by another renaming.

Each call of the file system may fail, and the program may stop at any of them,
also in the middle of writing a file or of removing a directory; provisioners may
follow each other, each stopping where it will. Wherever they stop, what a reader
finds is what was there at first or a generation of one of them, complete and with
the digest and the note that belong to it; and no removal has touched a generation
that a pointer named.

Names that are drawn at random, what the network answers and the verdicts on a
lock that is in the way are part of a provisioner's chances. Provisioners run one
after another; the lock has a model of its own.
-/

import OpenPath.Api.TemplateLoader
import OpenPath.Foundation.Program

namespace OpenPath.Api.TemplateProvision

open Foundation OfflineInstaller TemplateLoader
open DownloadRefs (isHexDigit uuidPattern)

/-! ## The file system -/

/-- Something was removed from the disk as it was then. -/
structure Removal where
  path : Path
  disk : Disk

structure Storage where
  disk : Disk
  clock : Int
  removals : List Removal

inductive FsCall
  | mkdir (path : Path)
  | mkdtemp (path : Path)
  /-- `open(path, 'wx')` -/
  | createExclusive (path : Path)
  | write (path : Path) (content : Bytes)
  | chmod (path : Path)
  | sync (path : Path)
  | rename (source target : Path)
  /-- `rm(path, { recursive: true, force: true })` -/
  | remove (path : Path)

/-- What may happen while a call is going on. -/
inductive Progress
  | tick (now : Int)
  | written (length : Nat)
  | removed (below : Path)

namespace Storage

/-- There is a directory for an entry with this path. -/
def hasParent (storage : Storage) (path : Path) : Bool :=
  path ≠ [] ∧ storage.disk.sight path.dropLast = .directory

def replace (storage : Storage) (path : Path) (new : Option Disk) : Storage :=
  { storage with disk := storage.disk.replace new storage.clock path }

def put (storage : Storage) (path : Path) (new : Disk) : Storage :=
  storage.replace path (some new)

def createDirectory (storage : Storage) (path : Path) : Option Storage :=
  if storage.disk.sight path = .missing ∧ storage.hasParent path then
    some (storage.put path (.directory [] storage.clock))
  else none

def isWritable (storage : Storage) (path : Path) : Bool :=
  storage.hasParent path &&
    match storage.disk.sight path with
    | .missing | .file _ => true
    | _ => false

def writeFile (storage : Storage) (path : Path) (content : Bytes) : Option Storage :=
  if storage.isWritable path then some (storage.put path (.file content storage.clock)) else none

/-- A directory may take the place of an empty one, a file that of a file. -/
def mayReplace (storage : Storage) (source : Disk) (target : Path) : Bool :=
  match source, storage.disk.sight target with
  | .directory _ _, .missing => true
  | .directory _ _, .directory => storage.disk.names target == some []
  | .file _ _, .missing => true
  | .file _ _, .file _ => true
  | _, _ => false

def rename (storage : Storage) (source target : Path) : Option Storage :=
  match storage.disk.find? source with
  | none => none
  | some tree =>
      if storage.hasParent source && storage.hasParent target && storage.mayReplace tree target &&
          !source.isPrefixOf target then
        some ((storage.replace source none).put target tree)
      else none

/-- One entry is removed, and noted. -/
def unlink (storage : Storage) (path : Path) : Storage :=
  { storage.replace path none with
    removals := { path, disk := storage.disk } :: storage.removals }

def remove (storage : Storage) (path : Path) : Option Storage :=
  match storage.disk.sight path with
  | .missing => some storage
  | .blocked | .behindLink => none
  | _ => if storage.hasParent path then some (storage.unlink path) else none

end Storage

def fileSystem : Interface Storage FsCall Progress where
  perform
    | .mkdir path, storage =>
        if storage.disk.sight path = .directory then some storage
        else storage.createDirectory path
    | .mkdtemp path, storage => storage.createDirectory path
    | .createExclusive path, storage =>
        if storage.disk.sight path = .missing then storage.writeFile path [] else none
    | .write path content, storage => storage.writeFile path content
    | .chmod path, storage | .sync path, storage =>
        if sightExists (storage.disk.sight path) then some storage else none
    | .rename source target, storage => storage.rename source target
    | .remove path, storage => storage.remove path
  advance
    | _, .tick now, storage => { storage with clock := now }
    | .write path content, .written length, storage =>
        (storage.writeFile path (content.take length)).getD storage
    | .remove path, .removed below, storage => (storage.remove (path ++ below)).getD storage
    | _, _, storage => storage

/-! ## Settings and chances -/

inductive ProvisionErrorCode
  | templateMissing
  | downloadFailed
  | hashMismatch
  | provenanceMissing
  | provenanceInvalid
  | provenanceMismatch
  | publishFailed
  deriving DecidableEq

inductive Failure
  | provisionError (code : ProvisionErrorCode) (message : String)
  | other

abbrev Provision := Program Storage FsCall Failure

/-- The part of a valid configuration that says which template to provision. -/
structure TemplateConfig extends Pin where
  sha256 : Text
  releaseTag : Text

def TemplateConfig.expected (config : TemplateConfig) : ExpectedTemplate where
  version := config.version
  commit := config.commit
  sha256 := config.sha256
  releaseTag := some config.releaseTag

/-- The platform's JSON in both directions. -/
structure ProvisionPlatform extends Platform where
  stringify : OfflineInstaller.Json → Text

/-- What a run of a provisioner draws and is told. -/
structure Chances where
  verifyOnly : Bool
  fetched : Except Failure (Bytes × Bytes)
  stagingSuffix : Text
  generationId : Text
  generationId_valid : uuidPattern.accepts generationId = true
  pointerId : Text
  lockContent : Bytes
  lockIsStale : Nat → Bool
  reclaimedId : Text
  leftoverLockIsStale : Bool
  lockTries : Nat

inductive ProvisionStatus
  | verified
  | provisioned
  deriving DecidableEq

structure ProvisionResult where
  status : ProvisionStatus
  filePath : Path
  releaseTag : Text
  sha256 : Text

def stalePublishRetentionMs : Int := 24 * 60 * 60 * 1000

def publishLockFileName : Text := ".publish.lock".toList

/-- `/^\.openpath-windows-template-[A-Za-z0-9]+$/u` -/
def stagingRootPattern : Re Char :=
  .cat (.word ".openpath-windows-template-".toList) (.plus (.sat isAlphanumeric))

def isHexOrDash (c : Char) : Bool := isHexDigit c || c == '-'

/-- `/^\.[0-9a-f]{40}-[0-9a-f-]{36}\.quarantine$/u` -/
def legacyQuarantinePattern : Re Char :=
  .cat (.lit '.') (.sequence [.times (.sat isHexDigit) 40, .lit '-', .times (.sat isHexOrDash) 36,
    .word ".quarantine".toList])

/-- `/^generation-[A-Za-z0-9._-]+$/u` -/
def abandonedGenerationPattern : Re Char :=
  .cat (.word "generation-".toList)
    (.plus (.sat fun c => isAlphanumeric c || c == '.' || c == '_' || c == '-'))

/-- `/^\.current\.[0-9a-f-]+\.tmp$/u` -/
def pointerTempPattern : Re Char :=
  .cat (.word ".current.".toList) (.cat (.plus (.sat isHexOrDash)) (.word ".tmp".toList))

/-- One call, which throws what the file system throws. -/
def io (call : FsCall) : Provision Unit := Program.perform call .other

/-- `mkdir(path, { recursive: true })` -/
def makeDirectories (path : Path) : Provision Unit :=
  Program.forEach path.inits.tail fun directory => io (.mkdir directory)

/-! ## Clearing away -/

def removeIfStale (candidate : Path) (cutoff : Int) : Provision Unit :=
  Program.look fun storage =>
    match storage.disk.mtime? candidate with
    | none => pure ()
    | some mtime =>
        if cutoff < mtime then pure ()
        else (io (.remove candidate)).catching fun _ => pure ()

/-- The entries of a directory, and whether each is a directory. -/
def directoryEntries (path : Path) (disk : Disk) : Option (List (Text × Bool)) :=
  (disk.names path).map fun names =>
    names.map fun name => (name, disk.sight (path ++ [name]) == .directory)

def subdirectories (path : Path) (disk : Disk) : List Path :=
  (((directoryEntries path disk).getD []).filter (·.2)).map fun entry => path ++ [entry.1]

def cleanupGenerationDirectory (directory : Path) (currentName : Text) (cutoff : Int) :
    Provision Unit :=
  Program.look fun storage =>
    match directoryEntries directory storage.disk with
    | none => pure ()
    | some entries =>
        Program.forEach entries fun entry =>
          if entry.2 ∧ entry.1 ≠ currentName ∧ abandonedGenerationPattern.accepts entry.1 then
            removeIfStale (directory ++ [entry.1]) cutoff
          else pure ()

def lockPath (directory : Path) : Path := directory ++ [publishLockFileName]

def reclaimedPath (directory : Path) (id : Text) : Path :=
  directory ++ [publishLockFileName ++ '.' :: id ++ ".stale".toList]

/-- A stale lock gets a name of its own before it is removed. -/
def reclaimStaleFilesystemLock (directory : Path) (id : Text) : Provision Bool := do
  match ← (io (.rename (lockPath directory) (reclaimedPath directory id))).attempt with
  | .error _ =>
      Program.observe fun storage => storage.disk.sight (lockPath directory) == .missing
  | .ok _ => do
      io (.remove (reclaimedPath directory id))
      pure true

def cleanupEntry (chances : Chances) (directory : Path) (current : CurrentPointer) (cutoff : Int)
    (entry : Text × Bool) : Provision Unit :=
  if entry.2 then
    if stagingRootPattern.accepts entry.1 || legacyQuarantinePattern.accepts entry.1 then
      removeIfStale (directory ++ [entry.1]) cutoff
    else if entry.1 = generationsDirName then
      match current with
      | .names currentName =>
          cleanupGenerationDirectory (directory ++ [entry.1]) currentName cutoff
      | _ => pure ()
    else pure ()
  else if pointerTempPattern.accepts entry.1 then removeIfStale (directory ++ [entry.1]) cutoff
  else if entry.1 = publishLockFileName ∧ chances.leftoverLockIsStale then
    do
      let _ ← reclaimStaleFilesystemLock directory chances.reclaimedId
      pure ()
  else pure ()

def cleanupDirectory (chances : Chances) (cutoff : Int) (directory : Path) : Provision Unit :=
  Program.look fun storage =>
    match directoryEntries directory storage.disk with
    | none => pure ()
    | some entries =>
        Program.forEach entries
          (cleanupEntry chances directory (currentPointer directory storage.disk) cutoff)

/-- The storage root, the directories of versions, and those of commits. -/
def scanDirectories (templateDir : Path) (disk : Disk) : List Path :=
  templateDir :: (subdirectories templateDir disk).flatMap fun versionDirectory =>
    versionDirectory :: subdirectories versionDirectory disk

def cleanupStaleWindowsOfflineInstallerProvisioningDirectories (chances : Chances)
    (templateDir : Path) : Provision Unit :=
  Program.look fun storage =>
    if containsSymbolicLink templateDir storage.disk ∨ storage.disk.names templateDir = none then
      pure ()
    else
      Program.forEach (scanDirectories templateDir storage.disk)
        (cleanupDirectory chances (storage.clock - stalePublishRetentionMs))

/-! ## The lock -/

/-- Tries to create the lock until the time is up. -/
def acquireFilesystemPublishLock (chances : Chances) (directory : Path) : Nat → Provision Unit
  | 0 => Program.throw .other
  | tries + 1 => do
      match ← (io (.createExclusive (lockPath directory))).attempt with
      | .ok _ =>
          (do
            io (.write (lockPath directory) chances.lockContent)
            io (.sync (lockPath directory))).catching fun _ => do
              io (.remove (lockPath directory))
              Program.throw .other
      | .error _ =>
          Program.look fun storage =>
            if storage.disk.sight (lockPath directory) = .missing then Program.throw .other
            else if chances.lockIsStale tries then do
              let _ ← reclaimStaleFilesystemLock directory chances.reclaimedId
              acquireFilesystemPublishLock chances directory tries
            else acquireFilesystemPublishLock chances directory tries

def withFilesystemPublishLock {Result : Type} (chances : Chances) (directory : Path)
    (operation : Provision Result) : Provision Result := do
  acquireFilesystemPublishLock chances directory chances.lockTries
  operation.finallyDo (io (.remove (lockPath directory)))

/-! ## Publishing -/

section Publishing

variable (platform : ProvisionPlatform) (templateDir : Path) (config : TemplateConfig)
  (chances : Chances)

def templatePathContainsSymlink (disk : Disk) : Bool :=
  containsSymbolicLink templateDir disk ||
    containsSymbolicLink (templateDir ++ [config.version]) disk ||
    containsSymbolicLink (config.directory templateDir) disk

def assertSafeTemplatePath : Provision Unit :=
  Program.look fun storage =>
    if templatePathContainsSymlink templateDir config storage.disk then
      Program.throw (.provisionError .publishFailed
        "Pinned template path contains an unsupported symbolic link")
    else pure ()

def generationsDirectory : Path := config.directory templateDir ++ [generationsDirName]

def currentPath : Path := config.directory templateDir ++ [currentFileName]

def assertSafePublicationPaths : Provision Unit := do
  assertSafeTemplatePath templateDir config
  Program.look fun storage =>
    if containsSymbolicLink (generationsDirectory templateDir config) storage.disk ||
        containsSymbolicLink (currentPath templateDir config) storage.disk then
      Program.throw (.provisionError .publishFailed
        "Pinned template publication path contains an unsupported symbolic link")
    else pure ()

def verifiedTemplate (disk : Disk) : Option CachedWindowsOfflineTemplate :=
  if templatePathContainsSymlink templateDir config disk then none
  else
    (loadCachedWindowsOfflineTemplate platform.toPlatform templateDir config.expected disk).toOption

def existingTemplateResult (filePath : Path) : ProvisionResult where
  status := .verified
  filePath
  releaseTag := config.releaseTag
  sha256 := config.sha256

def generationName : Text := "generation-".toList ++ chances.generationId

def generationPath : Path :=
  generationDirectory (config.directory templateDir) (generationName chances)

def pointerTempPath : Path :=
  config.directory templateDir ++ [".current.".toList ++ chances.pointerId ++ ".tmp".toList]

def pointerContent : Bytes := Utf8.encode (generationName chances ++ ['\n'])

def stagingRoot : Path :=
  templateDir ++ [".openpath-windows-template-".toList ++ chances.stagingSuffix]

def stagingDir : Path := stagingRoot templateDir chances ++ [config.commit]

/-- The directories of the commit and of its generations. -/
def preparePublication : Provision Unit := do
  assertSafePublicationPaths templateDir config
  makeDirectories (config.directory templateDir)
  io (.chmod (config.directory templateDir))
  assertSafePublicationPaths templateDir config
  makeDirectories (generationsDirectory templateDir config)
  io (.chmod (generationsDirectory templateDir config))
  assertSafePublicationPaths templateDir config

/-- The pointer is written to a file of its own, which takes the place of the
current one: the single observable commit. -/
def replacePointer : Provision Unit := do
  io (.write (pointerTempPath templateDir config chances) (pointerContent chances))
  io (.chmod (pointerTempPath templateDir config chances))
  io (.sync (pointerTempPath templateDir config chances))
  io (.rename (pointerTempPath templateDir config chances) (currentPath templateDir config))
  io (.sync (config.directory templateDir))

def commitPointer : Provision Unit :=
  (replacePointer templateDir config chances).finallyDo
    (io (.remove (pointerTempPath templateDir config chances)))

/-- The staging directory is checked as a complete bundle and becomes a generation. -/
def placeGeneration : Provision Unit :=
  Program.look fun storage =>
    match loadWindowsOfflineTemplateBundle platform.toPlatform (stagingDir templateDir config chances)
        config.expected storage.disk with
    | .error _ => Program.throw .other
    | .ok _ => do
        assertSafePublicationPaths templateDir config
        io (.rename (stagingDir templateDir config chances)
          (generationPath templateDir config chances))
        io (.sync (generationsDirectory templateDir config))
        io (.sync (config.directory templateDir))
        commitPointer templateDir config chances

def publishedResult : Provision ProvisionResult :=
  Program.look fun storage =>
    match verifiedTemplate platform templateDir config storage.disk with
    | none => Program.throw .other
    | some published =>
        pure { existingTemplateResult config published.filePath with status := .provisioned }

/-- What is left of a failed publication is accepted where it is complete. -/
def preservedResult : Provision ProvisionResult :=
  Program.look fun storage =>
    match verifiedTemplate platform templateDir config storage.disk with
    | some preserved => pure (existingTemplateResult config preserved.filePath)
    | none =>
        Program.throw (.provisionError .publishFailed "Pinned template could not be published")

def publishStagedTemplate : Provision ProvisionResult := do
  assertSafePublicationPaths templateDir config
  makeDirectories (config.directory templateDir)
  io (.chmod (config.directory templateDir))
  assertSafePublicationPaths templateDir config
  withFilesystemPublishLock chances (config.directory templateDir)
    (Program.look fun storage =>
      match verifiedTemplate platform templateDir config storage.disk with
      | some existing => pure (existingTemplateResult config existing.filePath)
      | none =>
          (do
            preparePublication templateDir config
            placeGeneration platform templateDir config chances
            publishedResult platform templateDir config).catching fun _ =>
              preservedResult platform templateDir config)

/-! ## Provisioning -/

def provenanceJson : OfflineInstaller.Json :=
  .object [("version".toList, .string config.version), ("commit".toList, .string config.commit),
    ("releaseTag".toList, .string config.releaseTag), ("sha256".toList, .string config.sha256)]

def provenanceContent : Bytes :=
  Utf8.encode (platform.stringify (provenanceJson config) ++ ['\n'])

def hashMismatch (message : String) : Failure := .provisionError .hashMismatch message

def verifyPinnedBytes (templateBytes sidecarBytes : Bytes) : Provision Unit :=
  if !isHexSha256 (firstWordLower (Utf8.decode sidecarBytes)) then
    Program.throw (hashMismatch "Template checksum invalid")
  else if firstWordLower (Utf8.decode sidecarBytes) ≠ config.sha256 ∨
      platform.sha256Hex templateBytes ≠ config.sha256 then
    Program.throw (hashMismatch "Template checksum mismatch")
  else pure ()

def stagedPath (fileName : Text) : Path := stagingDir templateDir config chances ++ [fileName]

def writeStagedFiles (templateBytes sidecarBytes : Bytes) : Provision Unit := do
  makeDirectories (stagingDir templateDir config chances)
  io (.chmod (stagingDir templateDir config chances))
  io (.write (stagedPath templateDir config chances templateFileName) templateBytes)
  io (.write (stagedPath templateDir config chances sidecarFileName) sidecarBytes)
  io (.chmod (stagedPath templateDir config chances templateFileName))
  io (.chmod (stagedPath templateDir config chances sidecarFileName))
  io (.write (stagedPath templateDir config chances provenanceFileName)
    (provenanceContent platform config))
  io (.chmod (stagedPath templateDir config chances provenanceFileName))
  io (.sync (stagedPath templateDir config chances templateFileName))
  io (.sync (stagedPath templateDir config chances sidecarFileName))
  io (.sync (stagedPath templateDir config chances provenanceFileName))
  io (.sync (stagingDir templateDir config chances))

def prepareStaging : Provision Unit := do
  makeDirectories templateDir
  assertSafeTemplatePath templateDir config
  io (.chmod templateDir)
  assertSafeTemplatePath templateDir config
  makeDirectories (templateDir ++ [config.version])
  assertSafeTemplatePath templateDir config
  io (.chmod (templateDir ++ [config.version]))
  io (.mkdtemp (stagingRoot templateDir chances))

def stageAndPublish (templateBytes sidecarBytes : Bytes) : Provision ProvisionResult :=
  ((do
    writeStagedFiles platform templateDir config chances templateBytes sidecarBytes
    publishStagedTemplate platform templateDir config chances).catching fun failure =>
      match failure with
      | .provisionError code message => Program.throw (.provisionError code message)
      | .other =>
          Program.throw (.provisionError .publishFailed
            "Pinned template could not be prepared for publication")).finallyDo
    (io (.remove (stagingRoot templateDir chances)))

/-- `mapTemplateError`, for the error of a check that must not repair anything. -/
def notReadyCode : LoadFailure → ProvisionErrorCode
  | .cacheError .templateMissing _ | .cacheError .sidecarMissing _ => .templateMissing
  | .cacheError .provenanceMissing _ => .provenanceMissing
  | .cacheError .provenanceInvalid _ => .provenanceInvalid
  | .cacheError .provenanceMismatch _ => .provenanceMismatch
  | .cacheError _ _ => .hashMismatch
  | .typeError => .templateMissing

def download : Provision ProvisionResult := do
  assertSafeTemplatePath templateDir config
  let (templateBytes, sidecarBytes) ← Program.ofExcept chances.fetched
  verifyPinnedBytes platform config templateBytes sidecarBytes
  prepareStaging templateDir config chances
  stageAndPublish platform templateDir config chances templateBytes sidecarBytes

def loadOrDownload : Provision ProvisionResult :=
  Program.look fun storage =>
    match loadCachedWindowsOfflineTemplate platform.toPlatform templateDir config.expected
        storage.disk with
    | .ok cached => pure (existingTemplateResult config cached.filePath)
    | .error failure =>
        if chances.verifyOnly then
          Program.throw (.provisionError (notReadyCode failure) "Pinned template is not ready")
        else download platform templateDir config chances

/-- A check that must not repair anything does not clear away either. -/
def clearAway : Provision Unit :=
  if chances.verifyOnly then pure ()
  else cleanupStaleWindowsOfflineInstallerProvisioningDirectories chances templateDir

def provisionWindowsOfflineInstallerTemplate : Provision ProvisionResult := do
  clearAway templateDir chances
  loadOrDownload platform templateDir config chances

end Publishing

end OpenPath.Api.TemplateProvision
