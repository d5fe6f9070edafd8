/-
# The template of offline installers

The template of offline installers is a file that is published together with its
digest and a note of where it comes from. Each publication is a generation, a
directory of its own, and a pointer file names the current one. A reader follows
the pointer and takes all three files from the directory that it names, or, where
there is no pointer, from the directory above; it accepts them only when digest
and note agree with what it has been configured to expect.

What a reader sees is a function of the sights at a few paths. Which these are
depends on the pointer alone.
-/

import OpenPath.Api.DownloadRefs
import OpenPath.Foundation.Except
import OpenPath.Foundation.FileTree
import OpenPath.Shared.OfflineInstaller
import OpenPath.Text.Utf8

namespace OpenPath.Api.TemplateLoader

open Foundation OfflineInstaller
open DownloadRefs (isHexDigit uuidPattern)

abbrev Disk := FileTree Text Bytes

abbrev Path := List Text

/-- The digest of `node:crypto` in hexadecimal digits, and the platform's JSON. -/
structure Platform where
  sha256Hex : Bytes → Text
  parseJson : Text → Option OfflineInstaller.Json

inductive WindowsOfflineTemplateCacheErrorCode
  | templateMissing
  | sidecarMissing
  | sidecarInvalid
  | sidecarHashMismatch
  | templateHashMismatch
  | provenanceMissing
  | provenanceInvalid
  | provenanceMismatch
  deriving DecidableEq

/-- What the loader throws: an error of its own, or a `TypeError` on a digest that
is not a string. -/
inductive LoadFailure
  | cacheError (code : WindowsOfflineTemplateCacheErrorCode) (message : String)
  | typeError
  deriving DecidableEq

structure CachedWindowsOfflineTemplate where
  filePath : Path
  version : Text
  commit : Text
  sha256 : Text
  deriving DecidableEq

/-- What a reader is configured to expect. -/
structure ExpectedTemplate where
  version : Text
  commit : Text
  sha256 : Text
  releaseTag : Option Text

def currentFileName : Text := ".current".toList
def generationsDirName : Text := "generations".toList
def templateFileName : Text := "OpenPath-Windows-Setup-Template.exe".toList
def sidecarFileName : Text := "OpenPath-Windows-Setup-Template.exe.sha256".toList
def provenanceFileName : Text := "OpenPath-Windows-Setup-Template.exe.provenance.json".toList

def bundleFileNames : List Text := [templateFileName, sidecarFileName, provenanceFileName]

/-- `/^generation-[0-9a-f]{8}-…-[0-9a-f]{12}$/u` -/
def generationPattern : Re Char := .cat (.word "generation-".toList) uuidPattern

def isHexSha256 (value : Text) : Bool := value.length == 64 && value.all isHexDigit

def isAlphanumeric (c : Char) : Bool :=
  ('a' ≤ c && c ≤ 'z') || ('A' ≤ c && c ≤ 'Z') || ('0' ≤ c && c ≤ '9')

/-- `/^[A-Za-z0-9][A-Za-z0-9._-]*$/` -/
def isTemplateVersion : Text → Bool
  | [] => false
  | c :: rest =>
      isAlphanumeric c && rest.all fun d => isAlphanumeric d || d == '.' || d == '_' || d == '-'

/-- `/^[0-9a-f]{40}$/` -/
def isFullCommitSha (value : Text) : Bool := value.length == 40 && value.all isHexDigit

/-- A version and a commit that a configuration may name. -/
structure Pin where
  version : Text
  commit : Text
  version_valid : isTemplateVersion version = true
  commit_valid : isFullCommitSha commit = true

/-- `templateDir/version/commit` -/
def commitDirectory (templateDir : Path) (version commit : Text) : Path :=
  templateDir ++ [version, commit]

def generationDirectory (commitDir : Path) (generationName : Text) : Path :=
  commitDir ++ [generationsDirName, generationName]

/-! ## The pointer -/

/-- `containsSymbolicLink`: a link on the path, or no directory where one should be. -/
def containsSymbolicLink (path : Path) (disk : Disk) : Bool :=
  match disk.sight path with
  | .link | .behindLink | .blocked => true
  | .missing | .file _ | .directory => false

inductive CurrentPointer
  | absent
  | malformed
  | names (generationName : Text)
  deriving DecidableEq

/-- `readFileSync(currentPath, 'utf8').trim()`, where it names a generation. -/
def pointerOf (content : Bytes) : CurrentPointer :=
  let generationName := JavaScript.trim (Utf8.decode content)
  if generationPattern.accepts generationName then .names generationName else .malformed

def currentPointer (commitDir : Path) (disk : Disk) : CurrentPointer :=
  match disk.sight (commitDir ++ [currentFileName]) with
  | .missing => .absent
  | .file content => pointerOf content
  | _ => .malformed

def unavailable : LoadFailure :=
  .cacheError .templateMissing "Pinned OpenPath Windows setup template is unavailable"

def readCurrentGenerationDirectory (commitDir : Path) (disk : Disk) :
    Except LoadFailure (Option Path) :=
  match currentPointer commitDir disk with
  | .absent => .ok none
  | .malformed => .error unavailable
  | .names generationName =>
      let generationDir := generationDirectory commitDir generationName
      if containsSymbolicLink (commitDir ++ [generationsDirName]) disk ||
          containsSymbolicLink generationDir disk then .error unavailable
      else if disk.sight generationDir = .directory then .ok (some generationDir)
      else .error unavailable

def resolveWindowsOfflineInstallerTemplatePath (templateDir : Path) (version commit : Text)
    (disk : Disk) : Except LoadFailure Path :=
  let commitDir := commitDirectory templateDir version commit
  (readCurrentGenerationDirectory commitDir disk).map fun generationDir =>
    generationDir.getD commitDir ++ [templateFileName]

/-! ## The bundle -/

/-- What the loader sees of a bundle. -/
structure BundleSight where
  /-- There is a link on the path of the bundle or of one of its files; that of the
  note counts only where a release is expected. -/
  linked : Bool
  template : FileTree.Sight Bytes
  sidecar : FileTree.Sight Bytes
  provenance : FileTree.Sight Bytes

def bundleSight (bundleDirectory : Path) (withRelease : Bool) (disk : Disk) : BundleSight where
  linked :=
    containsSymbolicLink bundleDirectory disk ||
      containsSymbolicLink (bundleDirectory ++ [templateFileName]) disk ||
      containsSymbolicLink (bundleDirectory ++ [sidecarFileName]) disk ||
      (withRelease && containsSymbolicLink (bundleDirectory ++ [provenanceFileName]) disk)
  template := disk.sight (bundleDirectory ++ [templateFileName])
  sidecar := disk.sight (bundleDirectory ++ [sidecarFileName])
  provenance := disk.sight (bundleDirectory ++ [provenanceFileName])

/-- `existsSync` -/
def sightExists : FileTree.Sight Bytes → Bool
  | .file _ | .directory => true
  | _ => false

/-- `readFileSync`, which throws on a directory. -/
def readFile : FileTree.Sight Bytes → Option Bytes
  | .file content => some content
  | _ => none

/-- `text.trim().split(/\s+/u)[0]?.toLowerCase()` -/
def firstWordLower (text : Text) : Text :=
  JavaScript.toLowerCase ((JavaScript.trim text).takeWhile fun c => !JavaScript.isSpace c)

def sidecarDigest (sidecar : FileTree.Sight Bytes) : Option Text :=
  (readFile sidecar).map fun content => firstWordLower (Utf8.decode content)

/-- A property of a parsed object. -/
def property (name : String) : OfflineInstaller.Json → Option OfflineInstaller.Json
  | .object fields => fields.lookup name.toList
  | _ => none

/-- A property that is strictly equal to a string. -/
def propertyIs (name : String) (value : Text) (json : OfflineInstaller.Json) : Bool :=
  ((property name json).bind OfflineInstaller.Json.string?) == some value

def mismatch : LoadFailure :=
  .cacheError .provenanceMismatch
    "Pinned OpenPath Windows setup template provenance does not match configuration"

def checkProvenance (expected : ExpectedTemplate) (releaseTag : Text) (json : OfflineInstaller.Json) :
    Except LoadFailure Unit :=
  if propertyIs "version" expected.version json && propertyIs "commit" expected.commit json &&
      propertyIs "releaseTag" releaseTag json then
    match property "sha256" json with
    | some (.string value) =>
        if JavaScript.toLowerCase value = JavaScript.toLowerCase expected.sha256 then .ok ()
        else .error mismatch
    | none | some .null => .error mismatch
    | some _ => .error .typeError
  else .error mismatch

/-- `typeof parsed === 'object' && parsed !== null` -/
def isObject : OfflineInstaller.Json → Bool
  | .object _ | .array _ => true
  | _ => false

section Loading

variable (platform : Platform)

def readProvenance (provenance : FileTree.Sight Bytes) : Option OfflineInstaller.Json :=
  ((readFile provenance).bind fun content => platform.parseJson (Utf8.decode content)).filter
    isObject

def templateDigest (template : FileTree.Sight Bytes) : Option Text :=
  (readFile template).map fun content => JavaScript.toLowerCase (platform.sha256Hex content)

/-- Throws the error where the condition does not hold. -/
def require (condition : Bool) (error : LoadFailure) : Except LoadFailure Unit :=
  if condition then .ok () else .error error

/-- Throws the error where there is no value. -/
def orThrow {α : Type} (value : Option α) (error : LoadFailure) : Except LoadFailure α :=
  match value with
  | none => .error error
  | some value => .ok value

def checkRelease (expected : ExpectedTemplate) (provenance : FileTree.Sight Bytes) :
    Except LoadFailure Unit :=
  match expected.releaseTag with
  | none => .ok ()
  | some releaseTag => do
      require (sightExists provenance)
        (.cacheError .provenanceMissing
          "Pinned OpenPath Windows setup template is missing release provenance")
      let json ← orThrow (readProvenance platform provenance)
        (.cacheError .provenanceInvalid
          "Pinned OpenPath Windows setup template provenance is malformed")
      checkProvenance expected releaseTag json

/-- The checks of `loadWindowsOfflineTemplateBundle`; the result is the digest. -/
def checkBundle (expected : ExpectedTemplate) (bundle : BundleSight) :
    Except LoadFailure Text := do
  let expectedDigest := JavaScript.toLowerCase expected.sha256
  require (!bundle.linked) unavailable
  require (sightExists bundle.template)
    (.cacheError .templateMissing "Pinned OpenPath Windows setup template is missing")
  require (sightExists bundle.sidecar)
    (.cacheError .sidecarMissing "Pinned Windows setup template is missing its SHA-256 sidecar")
  let digest ← orThrow ((sidecarDigest bundle.sidecar).filter isHexSha256)
    (.cacheError .sidecarInvalid "Pinned Windows setup template sidecar is malformed")
  require (digest == expectedDigest)
    (.cacheError .sidecarHashMismatch
      "Pinned Windows setup template sidecar does not match configuration")
  require (templateDigest platform bundle.template == some expectedDigest)
    (.cacheError .templateHashMismatch
      "Pinned Windows setup template bytes do not match configuration")
  checkRelease platform expected bundle.provenance
  pure expectedDigest

def loadWindowsOfflineTemplateBundle (bundleDirectory : Path) (expected : ExpectedTemplate)
    (disk : Disk) : Except LoadFailure CachedWindowsOfflineTemplate :=
  (checkBundle platform expected
    (bundleSight bundleDirectory expected.releaseTag.isSome disk)).map fun digest =>
      { filePath := bundleDirectory ++ [templateFileName], version := expected.version,
        commit := expected.commit, sha256 := digest }

def loadCachedWindowsOfflineTemplate (templateDir : Path) (expected : ExpectedTemplate)
    (disk : Disk) : Except LoadFailure CachedWindowsOfflineTemplate := do
  let templatePath ← resolveWindowsOfflineInstallerTemplatePath templateDir expected.version
    expected.commit disk
  loadWindowsOfflineTemplateBundle platform templatePath.dropLast expected disk

/-! ## What is accepted -/

/-- A bundle whose digest and note belong to its template. -/
structure Complete (expected : ExpectedTemplate) (bundle : BundleSight) : Prop where
  template : ∃ content, bundle.template = .file content ∧
    JavaScript.toLowerCase (platform.sha256Hex content) = JavaScript.toLowerCase expected.sha256
  sidecar : ∃ content, bundle.sidecar = .file content ∧
    firstWordLower (Utf8.decode content) = JavaScript.toLowerCase expected.sha256
  provenance : ∀ releaseTag, expected.releaseTag = some releaseTag →
    ∃ content json, bundle.provenance = .file content ∧
      platform.parseJson (Utf8.decode content) = some json ∧
      checkProvenance expected releaseTag json = .ok ()

theorem readFile_eq_some {sight : FileTree.Sight Bytes} {content : Bytes}
    (h : readFile sight = some content) : sight = .file content := by
  cases sight with
  | file other =>
      obtain rfl : other = content := Option.some.inj h
      rfl
  | _ => cases h

variable {error : LoadFailure}

theorem require_eq_ok {condition : Bool} {result : Unit} :
    require condition error = .ok result ↔ condition = true := by
  cases condition <;> simp [require]

theorem orThrow_eq_ok {α : Type} {value : Option α} {result : α} :
    orThrow value error = .ok result ↔ value = some result := by
  cases value <;> simp [orThrow]

theorem complete_of_check {platform : Platform} {expected : ExpectedTemplate}
    {bundle : BundleSight} {digest : Text}
    (h : checkBundle platform expected bundle = .ok digest) :
    Complete platform expected bundle := by
  simp only [checkBundle, bind_eq_ok, require_eq_ok, orThrow_eq_ok, exists_const] at h
  obtain ⟨-, -, -, _, found, same, template, _, release, -⟩ := h
  refine ⟨?_, ?_, ?_⟩
  · obtain ⟨content, read, digested⟩ :=
      Option.map_eq_some_iff.mp (by simpa using template :
        templateDigest platform bundle.template = some _)
    exact ⟨content, readFile_eq_some read, digested⟩
  · obtain ⟨at_sidecar, -⟩ := Option.filter_eq_some_iff.mp found
    obtain ⟨content, read, word⟩ := Option.map_eq_some_iff.mp at_sidecar
    exact ⟨content, readFile_eq_some read, word.trans (by simpa using same)⟩
  · intro releaseTag tagged
    simp only [checkRelease, tagged, bind_eq_ok, require_eq_ok, orThrow_eq_ok, exists_const]
      at release
    obtain ⟨-, json, parsed, checked⟩ := release
    obtain ⟨at_provenance, -⟩ := Option.filter_eq_some_iff.mp parsed
    obtain ⟨content, read, parsed⟩ := Option.bind_eq_some_iff.mp at_provenance
    exact ⟨content, json, readFile_eq_some read, parsed, checked⟩

end Loading

/-! ## What a reader depends on -/

variable {disk : Disk}

/-- A link on the path to a directory is on every path through it. -/
theorem containsSymbolicLink_append {path rest : Path}
    (linked : containsSymbolicLink path disk = true) :
    containsSymbolicLink (path ++ rest) disk = true := by
  rcases List.eq_nil_or_concat rest with rfl | ⟨init, name, rfl⟩
  · simpa using linked
  · have below : init.concat name ≠ [] := by simp
    unfold containsSymbolicLink at linked ⊢
    cases seen : disk.sight path with
    | link => rw [FileTree.sight_append_of_link (.inl seen) below]
    | behindLink => rw [FileTree.sight_append_of_link (.inr seen) below]
    | blocked => rw [FileTree.sight_append_of_file (.inr seen) below]
    | missing => simp [seen] at linked
    | file content => simp [seen] at linked
    | directory => simp [seen] at linked

variable {generationName : Text}

theorem readCurrentGenerationDirectory_of_names {commitDir : Path}
    (named : currentPointer commitDir disk = .names generationName) :
    readCurrentGenerationDirectory commitDir disk =
      if disk.sight (generationDirectory commitDir generationName) = .directory then
        .ok (some (generationDirectory commitDir generationName))
      else .error unavailable := by
  simp only [readCurrentGenerationDirectory, named]
  by_cases there : disk.sight (generationDirectory commitDir generationName) = .directory
  · have plain :
        containsSymbolicLink (generationDirectory commitDir generationName) disk = false := by
      simp [containsSymbolicLink, there]
    have above : containsSymbolicLink (commitDir ++ [generationsDirName]) disk = false := by
      by_contra linked
      have below : containsSymbolicLink (commitDir ++ [generationsDirName] ++ [generationName])
          disk = true := containsSymbolicLink_append (by simpa using linked)
      simp [generationDirectory] at plain below
      simp [plain] at below
    simp [plain, above, there]
  · simp [there]

theorem bundleSight_eq {here there : Path} {before after : Disk} (withRelease : Bool)
    (same : ∀ fileName ∈ bundleFileNames,
      after.sight (there ++ [fileName]) = before.sight (here ++ [fileName])) :
    bundleSight there withRelease after = bundleSight here withRelease before := by
  have absorb (path : Path) (disk : Disk) :
      (containsSymbolicLink path disk ||
        containsSymbolicLink (path ++ [templateFileName]) disk) =
        containsSymbolicLink (path ++ [templateFileName]) disk := by
    cases linked : containsSymbolicLink path disk with
    | false => rfl
    | true => rw [containsSymbolicLink_append linked, Bool.true_or]
  have template := same templateFileName (by simp [bundleFileNames])
  have sidecar := same sidecarFileName (by simp [bundleFileNames])
  have provenance := same provenanceFileName (by simp [bundleFileNames])
  simp only [bundleSight, absorb]
  simp only [containsSymbolicLink, template, sidecar, provenance]

section Watching

variable (templateDir : Path)

def Pin.directory (pin : Pin) : Path := commitDirectory templateDir pin.version pin.commit

/-- The paths at which a reader looks. -/
def Watched (pin : Pin) (disk : Disk) (path : Path) : Prop :=
  path = pin.directory templateDir ++ [currentFileName] ∨
  (∃ fileName ∈ bundleFileNames, path = pin.directory templateDir ++ [fileName]) ∨
  ∃ generationName, currentPointer (pin.directory templateDir) disk = .names generationName ∧
    (path = generationDirectory (pin.directory templateDir) generationName ∨
      ∃ fileName ∈ bundleFileNames,
        path = generationDirectory (pin.directory templateDir) generationName ++ [fileName])

/-- A reader sees the same. -/
def Kept (pin : Pin) (before after : Disk) : Prop :=
  ∀ path, Watched templateDir pin before path → after.sight path = before.sight path

variable {templateDir} {pin : Pin} {before after : Disk}

theorem Kept.refl (disk : Disk) : Kept templateDir pin disk disk := fun _ _ => rfl

theorem Kept.pointer (kept : Kept templateDir pin before after) :
    currentPointer (pin.directory templateDir) after =
      currentPointer (pin.directory templateDir) before := by
  simp only [currentPointer, kept _ (.inl rfl)]

theorem Kept.watched_iff (kept : Kept templateDir pin before after) (path : Path) :
    Watched templateDir pin after path ↔ Watched templateDir pin before path := by
  simp only [Watched, kept.pointer]

theorem Kept.trans {later : Disk} (first : Kept templateDir pin before after)
    (second : Kept templateDir pin after later) : Kept templateDir pin before later := by
  intro path watched
  rw [second path ((first.watched_iff path).mpr watched), first path watched]

/-- The reader's result is a function of what it watches. -/
theorem Kept.load_eq (platform : Platform) (kept : Kept templateDir pin before after)
    {expected : ExpectedTemplate} (version : expected.version = pin.version)
    (commit : expected.commit = pin.commit) :
    loadCachedWindowsOfflineTemplate platform templateDir expected after =
      loadCachedWindowsOfflineTemplate platform templateDir expected before := by
  have dir : commitDirectory templateDir expected.version expected.commit =
      pin.directory templateDir := by
    rw [version, commit]
    rfl
  have sameBundle (bundleDir : Path)
      (watched : ∀ fileName ∈ bundleFileNames,
        Watched templateDir pin before (bundleDir ++ [fileName])) :
      loadWindowsOfflineTemplateBundle platform bundleDir expected after =
        loadWindowsOfflineTemplateBundle platform bundleDir expected before := by
    simp only [loadWindowsOfflineTemplateBundle]
    rw [bundleSight_eq _ fun fileName member => kept _ (watched fileName member)]
  simp only [loadCachedWindowsOfflineTemplate, resolveWindowsOfflineInstallerTemplatePath, dir]
  cases pointer : currentPointer (pin.directory templateDir) before with
  | malformed =>
      simp only [readCurrentGenerationDirectory, kept.pointer, pointer]
      rfl
  | absent =>
      simp only [readCurrentGenerationDirectory, kept.pointer, pointer, Except.map,
        Option.getD_none, Except.bind, bind, List.dropLast_concat]
      exact sameBundle _ fun fileName member => .inr (.inl ⟨fileName, member, rfl⟩)
  | names generationName =>
      rw [readCurrentGenerationDirectory_of_names pointer,
        readCurrentGenerationDirectory_of_names (kept.pointer.trans pointer),
        kept _ (.inr (.inr ⟨generationName, pointer, .inl rfl⟩))]
      split
      · simp only [Except.map, Option.getD_some, Except.bind, bind, List.dropLast_concat]
        exact sameBundle _ fun fileName member =>
          .inr (.inr ⟨generationName, pointer, .inr ⟨fileName, member, rfl⟩⟩)
      · rfl

end Watching

theorem load_of_pointer {platform : Platform} {templateDir : Path} {expected : ExpectedTemplate}
    {template : CachedWindowsOfflineTemplate}
    (named : currentPointer (commitDirectory templateDir expected.version expected.commit) disk =
      .names generationName)
    (loaded : loadWindowsOfflineTemplateBundle platform
      (generationDirectory (commitDirectory templateDir expected.version expected.commit)
        generationName) expected disk = .ok template) :
    loadCachedWindowsOfflineTemplate platform templateDir expected disk = .ok template := by
  obtain ⟨digest, checked, -⟩ := map_eq_ok.mp loaded
  obtain ⟨content, seen, -⟩ := (complete_of_check checked).template
  have there := FileTree.sight_parent (.inl ⟨content, seen⟩)
  simp only [loadCachedWindowsOfflineTemplate, resolveWindowsOfflineInstallerTemplatePath]
  rw [readCurrentGenerationDirectory_of_names named, if_pos there]
  simp only [Except.map, Option.getD_some, Except.bind, bind, List.dropLast_concat]
  exact loaded

end OpenPath.Api.TemplateLoader
