/-
# The stored ETag vouches for the whitelist file

Both agents keep the ETag of the last policy in a file of its own and ask the
server with it whether the policy has changed. The stored ETag is sound in every
run whose steps write the two files together. A rollback that restores the
whitelist file and not its ETag leaves the agent with a policy that the next
request confirms although the server serves another.
-/

import OpenPath.Linux.DownloadWhitelist
import OpenPath.Windows.UpdateCycle

namespace OpenPath.Policy.StoredEtag

open Foundation

/-- The runs of both agents in which every step keeps the ETag. -/
theorem etagSound_of_keepsEtag (limits : Linux.ValidateWhitelist.Limits) (maxCheckpoints : Nat)
    (isWordChar : Char → Bool) (configHosts : List Text) (servedWith : Text → Text) :
    (∀ state, (Linux.DownloadWhitelist.system limits maxCheckpoints).ReachableBy
        (fun source event => Linux.DownloadWhitelist.Honest servedWith event ∧
          Linux.DownloadWhitelist.KeepsEtag limits maxCheckpoints source event) state →
      Linux.DownloadWhitelist.EtagSound limits servedWith state) ∧
    ∀ state, (Windows.UpdateCycle.system isWordChar configHosts).ReachableBy
        (fun source event => Windows.UpdateCycle.Honest servedWith event ∧
          Windows.UpdateCycle.KeepsEtag isWordChar configHosts source event) state →
      Windows.UpdateCycle.EtagSound isWordChar configHosts servedWith state :=
  ⟨fun _ hreach => Linux.DownloadWhitelist.etagSound_of_reachable hreach,
    fun _ hreach => Windows.UpdateCycle.etagSound_of_reachable isWordChar configHosts hreach⟩

/-! ## Runs that lose the policy -/

def firstDocument : Text := "## WHITELIST\nexample.com\n".toList

def secondDocument : Text := "## WHITELIST\nexample.org\n".toList

theorem documents_ne : firstDocument ≠ secondDocument := by decide

/-- A server that has served two documents. -/
def servedWith (etag : Text) : Text :=
  if etag = "\"1\"".toList then firstDocument else secondDocument

namespace LinuxRun

open Linux.DownloadWhitelist

/-- An attempt that installs a document and stores its ETag. -/
def installing (etag document : Text) : Event :=
  .download
    { response := some ("HTTP/2 200\r\netag: ".toList ++ etag ++ "\r\n\r\n".toList, document)
      moved := true
      etagWrite := .written }

/-- Two updates, with a checkpoint after each. -/
def updates : List Event :=
  [installing "\"1\"".toList firstDocument, .saveCheckpoint true,
    installing "\"2\"".toList secondDocument, .saveCheckpoint true]

def fresh : State where
  whitelistFile := none
  etagFile := none
  checkpoints := fun _ => none
  current := 0

def updated : State := updates.foldl (apply Linux.ValidateWhitelist.defaults 3) fresh

theorem honest_installing {etag document : Text}
    (hetag : finalEtag ("HTTP/2 200\r\netag: ".toList ++ etag ++ "\r\n\r\n".toList) = etag)
    (hdocument : document = servedWith etag) : Honest servedWith (installing etag document) := by
  rintro headers body ⟨⟩ -
  rw [hetag, hdocument]

theorem honest_updates : ∀ event ∈ updates, Honest servedWith event := by
  have hfirst : Honest servedWith (installing "\"1\"".toList firstDocument) :=
    honest_installing (by decide) (by decide)
  have hsecond : Honest servedWith (installing "\"2\"".toList secondDocument) :=
    honest_installing (by decide) (by decide)
  simp only [updates, List.mem_cons, List.not_mem_nil, or_false]
  rintro event (rfl | rfl | rfl | rfl)
  · exact hfirst
  · trivial
  · exact hsecond
  · trivial

/-- The agent after the watchdog has restored the checkpoint before the last one. -/
def rolledBack : State := apply Linux.ValidateWhitelist.defaults 3 updated (.rollback true)

theorem reachable_rolledBack :
    (system Linux.ValidateWhitelist.defaults 3).ReachableBy
      (fun _ event => Honest servedWith event) rolledBack := by
  have hupdated : (system Linux.ValidateWhitelist.defaults 3).ReachableBy
      (fun _ event => Honest servedWith event) updated := by
    have hfresh : (system Linux.ValidateWhitelist.defaults 3).ReachableBy
        (fun _ event => Honest servedWith event) fresh :=
      .start (show fresh.etagFile = none from rfl)
    apply TransitionSystem.reachableBy_foldl hfresh updates
    intro before event after hupdates
    apply honest_updates
    rw [hupdates]
    simp
  have hrollback : Honest servedWith (.rollback true) := trivial
  exact .step hupdated hrollback rfl

/-- The whitelist file is the first document, and the stored ETag is that of the
second. -/
theorem rolledBack_files :
    rolledBack.whitelistFile = some firstDocument ∧ currentEtag rolledBack = "\"2\"".toList ∧
      acceptedForm Linux.ValidateWhitelist.defaults servedWith "\"2\"".toList =
        some secondDocument := by
  decide

theorem keepsEtag_installing (state : State) :
    KeepsEtag Linux.ValidateWhitelist.defaults 3 state
      (installing "\"1\"".toList firstDocument) := by
  intro headers accepted haccepted
  have hheaders : headers = "HTTP/2 200\r\netag: \"1\"\r\n\r\n".toList := by
    unfold Attempt.accepted at haccepted
    dsimp only at haccepted
    split at haccepted
    · cases haccepted
    · obtain ⟨_, -, hpair⟩ := Option.map_eq_some_iff.mp haccepted
      exact (Prod.mk.inj hpair).1.symm
  rw [hheaders, if_pos (by decide)]
  exact Or.inr ⟨by decide, Or.inl rfl⟩

end LinuxRun

namespace WindowsRun

open Windows Windows.UpdateCycle DotNet

theorem ascii_of_all {text : Text} (hall : (text.all fun c => c.toNat < 128) = true) :
    ∀ c ∈ text, c.toNat < 128 :=
  fun c hc => of_decide_eq_true (List.all_eq_true.mp hall c hc)

def firstEtag : EntityTag where
  text := "\"1\"".toList
  first := by decide
  last := by decide
  ascii := ascii_of_all (by decide)

def secondEtag : EntityTag where
  text := "\"2\"".toList
  first := by decide
  last := by decide
  ascii := ascii_of_all (by decide)

/-- A cycle that downloads a document and writes it. -/
def installing (etag : EntityTag) (document : Text) : Cycle where
  enableCheckpointRollback := false
  maxCheckpoints := 3
  checkpointSaved := false
  response := .content document (some etag)
  etagWrite := .written
  whitelistWrite := .written
  fault := none
  restore := { lockTaken := true, checkpointCopied := true, reapplied := true, backupCopied := true }

/-- The same cycle, but a step after the writing throws. -/
def failing (etag : EntityTag) (document : Text) : Cycle :=
  { installing etag document with fault := some { stage := .afterWrite, dies := false } }

def fresh : State where
  whitelist := none
  etagFile := none
  backup := none
  checkpoints := []

def updated : State := runCycle Ascii.isWordChar [] fresh (installing firstEtag firstDocument)

def rolledBack : State := runCycle Ascii.isWordChar [] updated (failing secondEtag secondDocument)

theorem honest_first : Honest servedWith (.cycle (installing firstEtag firstDocument)) := by
  rintro body etag ⟨⟩
  decide

theorem honest_second : Honest servedWith (.cycle (failing secondEtag secondDocument)) := by
  rintro body etag ⟨⟩
  decide

theorem reachable_rolledBack :
    (UpdateCycle.system Ascii.isWordChar []).ReachableBy
      (fun _ event => Honest servedWith event) rolledBack :=
  .step (.step (.start (show fresh.etagFile = none from rfl)) honest_first rfl) honest_second rfl

/-- The policy of a document of one domain. -/
def policyOf (document : Text) : WhitelistSections where
  sections := filterSections []
    (getWhitelistSectionsFromLines Ascii.isWordChar (document.splitOn '\n')).sections
  isDisabled := false

theorem acceptContent_first :
    acceptContent Ascii.isWordChar [] firstDocument = .ok (policyOf firstDocument) :=
  acceptContent_eq [] (by decide)

theorem acceptContent_second :
    acceptContent Ascii.isWordChar [] secondDocument = .ok (policyOf secondDocument) :=
  acceptContent_eq [] (by decide)

theorem acceptedFile_ne :
    acceptedFile (policyOf firstDocument) ≠ acceptedFile (policyOf secondDocument) := by
  rw [policyOf, policyOf, filterSections_eq, filterSections_eq]
  decide

theorem result_of_content {cycle : Cycle} {document : Text} {etag : Option EntityTag}
    {sections : WhitelistSections} (hresponse : cycle.response = .content document etag)
    (haccepted : acceptContent Ascii.isWordChar [] document = .ok sections) :
    cycle.result Ascii.isWordChar [] = .policy sections ∧
      cycle.acceptedEtag Ascii.isWordChar [] = etag := by
  rw [Cycle.result, Cycle.acceptedEtag, hresponse]
  dsimp only
  rw [haccepted]
  exact ⟨rfl, rfl⟩

theorem accepted_first :
    (installing firstEtag firstDocument).accepted Ascii.isWordChar [] =
      some (policyOf firstDocument) := by
  obtain ⟨hresult, -⟩ := @result_of_content (installing firstEtag firstDocument) _ _ _ rfl
    acceptContent_first
  rw [Cycle.accepted, hresult]

theorem failure_first :
    UpdateCycle.failure Ascii.isWordChar [] fresh (installing firstEtag firstDocument) = none := by
  obtain ⟨hresult, -⟩ := @result_of_content (installing firstEtag firstDocument) _ _ _ rfl
    acceptContent_first
  rw [UpdateCycle.failure, show (installing firstEtag firstDocument).fault = none from rfl]
  dsimp only
  rw [failedWithoutWhitelist, hresult]
  rfl

/-- The first cycle writes the first document. -/
theorem updated_whitelist : updated.whitelist = some (acceptedFile (policyOf firstDocument)) := by
  have hcopy : rollbackCopy Ascii.isWordChar [] fresh (installing firstEtag firstDocument) =
      none := by
    rw [rollbackCopy, failure_first]
    rfl
  have hwhitelist := (runCycle_files Ascii.isWordChar [] fresh (installing firstEtag firstDocument)).1
  rw [hcopy, handledWhitelist, accepted_first] at hwhitelist
  exact hwhitelist

/-- A failing cycle restores the whitelist that it has backed up. -/
theorem rollbackCopy_failing {state : State} {whitelist : Text}
    (hwhitelist : state.whitelist = some whitelist) (etag : EntityTag) (document : Text) :
    rollbackCopy Ascii.isWordChar [] state (failing etag document) = some whitelist := by
  show (backupWhitelistState state (failing etag document)).backup = some whitelist
  rw [backupWhitelistState, hwhitelist]

theorem rolledBack_whitelist :
    rolledBack.whitelist = some (acceptedFile (policyOf firstDocument)) := by
  have hwhitelist := (runCycle_files Ascii.isWordChar [] updated (failing secondEtag secondDocument)).1
  rw [rollbackCopy_failing updated_whitelist] at hwhitelist
  exact hwhitelist

theorem rolledBack_etag : cachedEtag rolledBack = some secondEtag.text := by
  apply cachedEtag_stored
  obtain ⟨-, haccepted⟩ := @result_of_content (failing secondEtag secondDocument) _ _ _ rfl
    acceptContent_second
  have hetagFile := (runCycle_files Ascii.isWordChar [] updated (failing secondEtag secondDocument)).2
  rw [downloadedEtagFile, haccepted] at hetagFile
  exact hetagFile

/-- A cycle that a 304 answer lets go on with its whitelist, and that throws later. The
whitelist has become a checkpoint by then. -/
def confirmed : Cycle :=
  { failing firstEtag firstDocument with
    enableCheckpointRollback := true
    checkpointSaved := true
    response := .notModified }

theorem leaves_first :
    Leaves Ascii.isWordChar [] fresh (installing firstEtag firstDocument)
      (acceptedFile (policyOf firstDocument)) := by
  refine ⟨?_, ?_, ?_⟩
  · intro copy hcopy
    rw [rollbackCopies, failure_first] at hcopy
    cases hcopy
  · intro _ _ sections haccepted _
    rw [accepted_first] at haccepted
    rw [← Option.some.inj haccepted]
    exact ⟨rfl, rfl⟩
  · intro _ hkept
    rw [accepted_first] at hkept
    rcases hkept with hwrites | haccepted | hrefused
    · cases hwrites
    · cases haccepted
    · cases hrefused

theorem keepsEtag_first :
    KeepsEtag Ascii.isWordChar [] fresh (.cycle (installing firstEtag firstDocument)) := by
  have haccepted := (@result_of_content (installing firstEtag firstDocument) _ _ _ rfl
    acceptContent_first).2
  have hwritten : (installing firstEtag firstDocument).etagOutcome Ascii.isWordChar [] =
      .written := by
    rw [Cycle.etagOutcome, haccepted]
    rfl
  refine ⟨?_, ?_⟩
  · intro _ sections hsections
    rw [accepted_first] at hsections
    rw [← Option.some.inj hsections]
    exact leaves_first
  · intro hrefused
    rw [hwritten] at hrefused
    cases hrefused

/-- The runs whose events the theorem admits. -/
def Admitted : State → Prop :=
  (UpdateCycle.system Ascii.isWordChar []).ReachableBy fun source event =>
    Honest servedWith event ∧ KeepsEtag Ascii.isWordChar [] source event

theorem admitted_updated : Admitted updated := by
  have hfresh : Admitted fresh := .start (show fresh.etagFile = none from rfl)
  exact .step hfresh ⟨honest_first, keepsEtag_first⟩ rfl

variable {state : State} {file : Text}

/-- The rollback of the confirmed cycle has nothing but the whitelist to restore. -/
theorem leaves_confirmed (hfile : state.whitelist = some file) :
    Leaves Ascii.isWordChar [] state confirmed file := by
  have hcopies : rollbackCopies Ascii.isWordChar [] state confirmed = [file, file] := by
    show reachedCopies true (backupWhitelistState state confirmed) confirmed = [file, file]
    rw [backupWhitelistState, hfile]
    rfl
  refine ⟨?_, ?_, ?_⟩
  · intro copy hcopy
    simpa [hcopies] using hcopy
  · intro hnone
    rw [hcopies] at hnone
    cases hnone
  · intro hnone
    rw [hcopies] at hnone
    cases hnone

theorem checkpoints_confirmed (hfile : state.whitelist = some file) :
    (runCycle Ascii.isWordChar [] state confirmed).checkpoints.head? = some file := by
  show (invokeUpdateRollback Ascii.isWordChar true (backupWhitelistState state confirmed)
    confirmed).checkpoints.head? = some file
  rw [invokeUpdateRollback_eq, backupWhitelistState, hfile]
  rfl

theorem acceptedForm_second :
    acceptedForm Ascii.isWordChar [] servedWith secondEtag.text =
      some (acceptedFile (policyOf secondDocument)) := by
  have hserved : servedWith secondEtag.text = secondDocument := by decide
  rw [acceptedForm, hserved, acceptContent_second]

theorem admitted_confirmed : Admitted (runCycle Ascii.isWordChar [] updated confirmed) := by
  have hkeeps : KeepsEtag Ascii.isWordChar [] updated (.cycle confirmed) :=
    ⟨fun hwritten => absurd hwritten (by decide),
      fun _ => Or.inr ⟨_, updated_whitelist, leaves_confirmed updated_whitelist⟩⟩
  have hhonest : Honest servedWith (.cycle confirmed) := by
    rintro body etag ⟨⟩
  exact .step admitted_updated ⟨hhonest, hkeeps⟩ rfl

/-- The watchdog finds the whitelist itself as the latest checkpoint. -/
theorem admitted_restored :
    Admitted (apply Ascii.isWordChar [] (runCycle Ascii.isWordChar [] updated confirmed)
      (.restoreCheckpoint confirmed.restore)) := by
  have hkeeps : KeepsEtag Ascii.isWordChar [] (runCycle Ascii.isWordChar [] updated confirmed)
      (.restoreCheckpoint confirmed.restore) := by
    refine Or.inr (Or.inr ?_)
    intro checkpoint hcheckpoint
    rw [checkpoints_confirmed updated_whitelist] at hcheckpoint
    rw [runCycle_whitelist _ _ (leaves_confirmed updated_whitelist)]
    exact hcheckpoint
  have hhonest : Honest servedWith (.restoreCheckpoint confirmed.restore) := trivial
  exact .step admitted_confirmed ⟨hhonest, hkeeps⟩ rfl

end WindowsRun

/-- On both agents a rollback leaves the first document with the ETag of the second. -/
theorem rolledBack_unsound :
    (∃ state, (Linux.DownloadWhitelist.system Linux.ValidateWhitelist.defaults 3).ReachableBy
        (fun _ event => Linux.DownloadWhitelist.Honest servedWith event) state ∧
      ¬ Linux.DownloadWhitelist.EtagSound Linux.ValidateWhitelist.defaults servedWith state) ∧
    ∃ state, (Windows.UpdateCycle.system Ascii.isWordChar []).ReachableBy
        (fun _ event => Windows.UpdateCycle.Honest servedWith event) state ∧
      ¬ Windows.UpdateCycle.EtagSound Ascii.isWordChar [] servedWith state := by
  refine ⟨⟨_, LinuxRun.reachable_rolledBack, ?_⟩, ⟨_, WindowsRun.reachable_rolledBack, ?_⟩⟩
  · intro hsound
    obtain ⟨hfile, hetag, hform⟩ := LinuxRun.rolledBack_files
    obtain ⟨file, haccepted, hsame⟩ := hsound.whitelist (by rw [hetag]; decide)
    rw [hetag, hform] at haccepted
    rw [hfile, ← haccepted] at hsame
    exact documents_ne (Option.some.inj hsame)
  · intro hsound
    obtain ⟨file, haccepted, hsame⟩ := hsound.whitelist _ _ WindowsRun.rolledBack_etag
    rw [WindowsRun.acceptedForm_second] at haccepted
    rw [WindowsRun.rolledBack_whitelist, ← haccepted] at hsame
    exact WindowsRun.acceptedFile_ne (Option.some.inj hsame)

/-- A first download on each agent. On Windows a cycle follows that throws after a 304
answer and restores what it has saved, and the watchdog restores it once more. -/
theorem etagSound_firstDownload :
    Linux.DownloadWhitelist.EtagSound Linux.ValidateWhitelist.defaults servedWith
        (Linux.DownloadWhitelist.apply Linux.ValidateWhitelist.defaults 3 LinuxRun.fresh
          (LinuxRun.installing "\"1\"".toList firstDocument)) ∧
      Windows.UpdateCycle.EtagSound Ascii.isWordChar [] servedWith
        (Windows.UpdateCycle.apply Ascii.isWordChar []
          (Windows.UpdateCycle.runCycle Ascii.isWordChar [] WindowsRun.updated WindowsRun.confirmed)
          (.restoreCheckpoint WindowsRun.confirmed.restore)) := by
  obtain ⟨hlinux, hwindows⟩ := etagSound_of_keepsEtag Linux.ValidateWhitelist.defaults 3
    Ascii.isWordChar [] servedWith
  exact ⟨hlinux _ (.step (.start (show LinuxRun.fresh.etagFile = none from rfl))
    ⟨LinuxRun.honest_updates _ (by simp [LinuxRun.updates]), LinuxRun.keepsEtag_installing _⟩ rfl),
    hwindows _ WindowsRun.admitted_restored⟩

end OpenPath.Policy.StoredEtag
