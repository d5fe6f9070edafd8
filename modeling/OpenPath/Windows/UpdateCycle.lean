/-
# The update cycle of the Windows agent and the stored ETag

A cycle backs up the whitelist file, downloads the policy and applies it. The ETag
is stored while the policy is downloaded, the whitelist file is written after it,
and a cycle that fails copies an older whitelist back over the file. The whitelist
and the ETag are two files of which the rollback restores one.
-/

import OpenPath.Foundation.CachedCopy
import OpenPath.Foundation.Transition
import OpenPath.Windows.WhitelistDownload

namespace OpenPath.Windows.UpdateCycle

open DotNet
open Foundation (CachedCopy TransitionSystem WriteOutcome)

/-- The text of an `EntityTagHeaderValue`: an ASCII text in quotes, which a mark of
weakness may precede. -/
structure EntityTag where
  text : Text
  first : text.head? = some '"' ∨ text.head? = some 'W'
  last : text.getLast? = some '"'
  ascii : ∀ c ∈ text, c.toNat < 128

/-- What `Invoke-OpenPathHttpGetText` returns or throws. -/
inductive Response
  | failed
  | notModified
  | content (body : Text) (etag : Option EntityTag)

structure State where
  whitelist : Option Text
  etagFile : Option Text
  backup : Option Text
  /-- The whitelists of the checkpoints, the latest first. -/
  checkpoints : List Text

/-- The trimmed content of the ETag file. -/
def cachedEtag (state : State) : Option Text :=
  match state.etagFile with
  | some file => if trim file = [] then none else some (trim file)
  | none => none

/-! ## Events -/

/-- How far a cycle gets that does not complete. -/
inductive Stage
  | beforeConfig
  | beforeBackup
  | beforeWrite
  | afterWrite
  deriving DecidableEq

/-- A cycle that does not complete throws, or the process ends without a rollback. -/
structure Fault where
  stage : Stage
  dies : Bool

/-- Whether the configuration is known when the cycle throws. -/
def Fault.configRead (fault : Fault) : Bool := fault.stage != .beforeConfig

/-- What becomes of the attempts to restore a whitelist. -/
structure Restore where
  lockTaken : Bool
  checkpointCopied : Bool
  reapplied : Bool
  backupCopied : Bool

/-- A cycle, with everything that is decided outside the agent. -/
structure Cycle where
  enableCheckpointRollback : Bool
  maxCheckpoints : Nat
  checkpointSaved : Bool
  response : Response
  etagWrite : WriteOutcome
  whitelistWrite : WriteOutcome
  fault : Option Fault
  restore : Restore

/-! ## The stages -/

/-- `Backup-OpenPathWhitelistState` -/
def backupWhitelistState (state : State) (cycle : Cycle) : State :=
  match state.whitelist with
  | none => state
  | some whitelist =>
      { state with
        backup := some whitelist
        checkpoints :=
          if cycle.enableCheckpointRollback && cycle.checkpointSaved then
            (whitelist :: state.checkpoints).take (max 1 cycle.maxCheckpoints)
          else state.checkpoints }

/-- What `Get-OpenPathWhitelistDownloadResult` returns. -/
inductive DownloadResult
  | failed
  | notModified
  | policy (sections : WhitelistSections)

section Agent

variable (isWordChar : Char → Bool) (configHosts : List Text)

/-- `Get-OpenPathFromUrl`. The ETag of an accepted document is stored at once. -/
def getOpenPathFromUrl (state : State) (cycle : Cycle) : DownloadResult × State :=
  match cycle.response with
  | .failed => (.failed, state)
  | .notModified => (.notModified, state)
  | .content body etag =>
      match acceptContent isWordChar configHosts body with
      | .error _ => (.failed, state)
      | .ok sections =>
          match etag with
          | some newEtag =>
              (.policy sections,
                { state with
                  etagFile := cycle.etagWrite.result state.etagFile (setContent newEtag.text) })
          | none => (.policy sections, state)

/-- The file that `Handle-OpenPathDisabledWhitelist` or `Handle-OpenPathWhitelistApply`
writes for a policy. -/
def acceptedFile (sections : WhitelistSections) : Text :=
  if sections.isDisabled then setContent "# DESACTIVADO".toList else whitelistFile sections

/-- The handler of a download result. Without a whitelist it throws for a failed
download. -/
def handle (state : State) (result : DownloadResult) (write : WriteOutcome) : Option State :=
  match result with
  | .failed => if state.whitelist.isNone then none else some state
  | .notModified => some state
  | .policy sections =>
      some { state with whitelist := write.result state.whitelist (acceptedFile sections) }

/-- Whether a checkpoint that was copied counts as restored. -/
def checkpointAccepted (checkpoint : Text) (restore : Restore) : Bool :=
  let domains := (getWhitelistSectionsFromFile isWordChar checkpoint).sections.whitelist
  (domains.filter testDomainFormat).length ≥ 1 && restore.reapplied

/-- `Restore-OpenPathLatestCheckpoint` and `Restore-OpenPathCheckpoint`, with whether
they succeed. -/
def restoreLatestCheckpoint (state : State) (restore : Restore) : State × Bool :=
  match state.checkpoints with
  | [] => (state, false)
  | checkpoint :: _ =>
      if restore.checkpointCopied then
        ({ state with whitelist := some checkpoint },
          checkpointAccepted isWordChar checkpoint restore)
      else (state, false)

/-- `Copy-Item $BackupPath $WhitelistPath`, where there is a backup. -/
def restoreBackup (state : State) (restore : Restore) : State :=
  match state.backup with
  | some backup => if restore.backupCopied then { state with whitelist := some backup } else state
  | none => state

/-- `Invoke-OpenPathUpdateRollback`. Without the configuration it does not look for
a checkpoint, and a lock that is not taken ends it. -/
def invokeUpdateRollback (configRead : Bool) (state : State) (cycle : Cycle) : State :=
  if cycle.enableCheckpointRollback && configRead then
    if cycle.restore.lockTaken then
      let restored := restoreLatestCheckpoint isWordChar state cycle.restore
      if restored.2 then restored.1 else restoreBackup restored.1 cycle.restore
    else state
  else restoreBackup state cycle.restore

/-- The end of a cycle that does not complete. -/
def afterFault (state : State) (cycle : Cycle) (fault : Fault) : State :=
  if fault.dies then state
  else invokeUpdateRollback isWordChar fault.configRead state cycle

/-- The stages from the download on. -/
def downloadAndApply (state : State) (cycle : Cycle) : State :=
  let (result, state) := getOpenPathFromUrl isWordChar configHosts state cycle
  match cycle.fault, handle state result cycle.whitelistWrite with
  | some { stage := .afterWrite, dies }, some applied =>
      afterFault isWordChar applied cycle { stage := .afterWrite, dies := dies }
  | some fault, _ => afterFault isWordChar state cycle fault
  | none, some applied => applied
  | none, none => afterFault isWordChar state cycle { stage := .beforeWrite, dies := false }

/-- One update cycle. -/
def runCycle (state : State) (cycle : Cycle) : State :=
  match cycle.fault with
  | some { stage := .beforeConfig, dies } =>
      afterFault isWordChar state cycle { stage := .beforeConfig, dies := dies }
  | some { stage := .beforeBackup, dies } =>
      afterFault isWordChar state cycle { stage := .beforeBackup, dies := dies }
  | _ => downloadAndApply isWordChar configHosts (backupWhitelistState state cycle) cycle

/-- What writes the whitelist: a cycle, or the watchdog in a critical state. -/
inductive Event
  | cycle (cycle : Cycle)
  | restoreCheckpoint (restore : Restore)

/-- The state after an event. `Restore-CheckpointFromWatchdog` restores the latest
checkpoint between two cycles and verifies the resolution afterwards. -/
def apply (state : State) : Event → State
  | .cycle cycle => runCycle isWordChar configHosts state cycle
  | .restoreCheckpoint restore => (restoreLatestCheckpoint isWordChar state restore).1

/-- A document that comes with an ETag is the one that the server serves with it. -/
def Honest (servedWith : Text → Text) : Event → Prop
  | .cycle cycle =>
      ∀ body newEtag, cycle.response = .content body (some newEtag) →
        body = servedWith newEtag.text
  | .restoreCheckpoint _ => True

/-- The agent, from a state in which it has not stored an ETag yet. -/
def system : TransitionSystem State Event :=
  .ofFunction (fun state => state.etagFile = none) (apply isWordChar configHosts)

/-! ## What a cycle leaves behind -/

/-- What the download makes of the response. -/
def Cycle.result (cycle : Cycle) : DownloadResult :=
  match cycle.response with
  | .failed => .failed
  | .notModified => .notModified
  | .content body _ =>
      match acceptContent isWordChar configHosts body with
      | .error _ => .failed
      | .ok sections => .policy sections

/-- The policy of a response that is accepted. -/
def Cycle.accepted (cycle : Cycle) : Option WhitelistSections :=
  match cycle.result isWordChar configHosts with
  | .policy sections => some sections
  | _ => none

/-- The ETag of a response that is accepted. -/
def Cycle.acceptedEtag (cycle : Cycle) : Option EntityTag :=
  match cycle.response with
  | .content body etag =>
      match acceptContent isWordChar configHosts body with
      | .ok _ => etag
      | .error _ => none
  | _ => none

/-- Whether the cycle gets to the download. -/
def Cycle.downloads (cycle : Cycle) : Bool :=
  match cycle.fault with
  | some fault => fault.stage != .beforeConfig && fault.stage != .beforeBackup
  | none => true

/-- Whether the cycle gets to the file of the whitelist. -/
def Cycle.writes (cycle : Cycle) : Bool :=
  match cycle.fault with
  | some fault => fault.stage == .afterWrite
  | none => true

def failedWithoutWhitelist (state : State) (cycle : Cycle) : Bool :=
  match cycle.result isWordChar configHosts with
  | .failed => state.whitelist.isNone
  | _ => false

/-- Why the cycle does not complete. -/
def failure (state : State) (cycle : Cycle) : Option Fault :=
  match cycle.fault with
  | some fault => some fault
  | none =>
      if failedWithoutWhitelist isWordChar configHosts state cycle then
        some { stage := .beforeWrite, dies := false }
      else none

/-- The backup, if it is restored. -/
def backupCopy (state : State) (restore : Restore) : Option Text :=
  if restore.backupCopied then state.backup else none

/-- The copy that a rollback leaves as the whitelist, if it restores any. -/
def restoredCopy (configRead : Bool) (state : State) (cycle : Cycle) : Option Text :=
  if cycle.enableCheckpointRollback && configRead then
    if cycle.restore.lockTaken then
      match state.checkpoints with
      | [] => backupCopy state cycle.restore
      | checkpoint :: _ =>
          if cycle.restore.checkpointCopied then
            if checkpointAccepted isWordChar checkpoint cycle.restore then some checkpoint
            else (backupCopy state cycle.restore).or (some checkpoint)
          else backupCopy state cycle.restore
    else none
  else backupCopy state cycle.restore

/-- The copies that a rollback reaches, one of which is the last to be copied. -/
def reachedCopies (configRead : Bool) (state : State) (cycle : Cycle) : List Text :=
  if cycle.enableCheckpointRollback && configRead then
    if cycle.restore.lockTaken then
      (if cycle.restore.checkpointCopied then state.checkpoints.take 1 else []) ++
        (backupCopy state cycle.restore).toList
    else []
  else (backupCopy state cycle.restore).toList

/-- The copy that a fault at a state leads to. -/
def faultCopy (state : State) (cycle : Cycle) (fault : Option Fault) : Option Text :=
  match fault with
  | some fault =>
      if fault.dies then none else restoredCopy isWordChar fault.configRead state cycle
  | none => none

/-- The copy that a cycle restores. -/
def rollbackCopy (state : State) (cycle : Cycle) : Option Text :=
  faultCopy isWordChar (if cycle.downloads then backupWhitelistState state cycle else state) cycle
    (failure isWordChar configHosts state cycle)

/-- The copies that are at hand for a cycle that fails and lives to roll back. -/
def rollbackCopies (state : State) (cycle : Cycle) : List Text :=
  match failure isWordChar configHosts state cycle with
  | some fault =>
      if fault.dies then []
      else reachedCopies fault.configRead
        (if cycle.downloads then backupWhitelistState state cycle else state) cycle
  | none => []

/-- A rollback that reaches a copy leaves one of those that it reaches. -/
theorem restoredCopy_spec (configRead : Bool) (state : State) (cycle : Cycle) :
    (restoredCopy isWordChar configRead state cycle = none ↔
        reachedCopies configRead state cycle = []) ∧
      ∀ copy ∈ restoredCopy isWordChar configRead state cycle,
        copy ∈ reachedCopies configRead state cycle := by
  unfold restoredCopy reachedCopies
  split
  · split
    · cases state.checkpoints with
      | nil => cases backupCopy state cycle.restore <;> simp
      | cons checkpoint rest =>
          cases cycle.restore.checkpointCopied with
          | false => cases backupCopy state cycle.restore <;> simp
          | true =>
              by_cases haccepted : checkpointAccepted isWordChar checkpoint cycle.restore = true <;>
                cases backupCopy state cycle.restore <;> simp [haccepted]
    · simp
  · cases backupCopy state cycle.restore <;> simp

theorem rollbackCopy_spec (state : State) (cycle : Cycle) :
    (rollbackCopy isWordChar configHosts state cycle = none ↔
        rollbackCopies isWordChar configHosts state cycle = []) ∧
      ∀ copy ∈ rollbackCopy isWordChar configHosts state cycle,
        copy ∈ rollbackCopies isWordChar configHosts state cycle := by
  unfold rollbackCopy faultCopy rollbackCopies
  cases failure isWordChar configHosts state cycle with
  | none => simp
  | some fault =>
      dsimp only
      cases fault.dies with
      | true => simp
      | false => exact restoredCopy_spec isWordChar _ _ cycle

theorem restoreBackup_eq (state : State) (restore : Restore) :
    restoreBackup state restore =
      { state with whitelist := (backupCopy state restore).or state.whitelist } := by
  obtain ⟨whitelist, etagFile, backup, checkpoints⟩ := state
  cases backup <;> by_cases hcopied : restore.backupCopied = true <;>
    simp [restoreBackup, backupCopy, hcopied]

/-- A rollback writes the restored copy and nothing else. -/
theorem invokeUpdateRollback_eq (configRead : Bool) (state : State) (cycle : Cycle) :
    invokeUpdateRollback isWordChar configRead state cycle =
      { state with
        whitelist := (restoredCopy isWordChar configRead state cycle).or state.whitelist } := by
  obtain ⟨whitelist, etagFile, backup, checkpoints⟩ := state
  unfold invokeUpdateRollback restoredCopy
  split
  · split
    · cases checkpoints with
      | nil => simp [restoreLatestCheckpoint, restoreBackup_eq]
      | cons checkpoint rest =>
          by_cases hcopied : cycle.restore.checkpointCopied = true
          · simp only [restoreLatestCheckpoint, hcopied, if_true]
            split
            · rfl
            · simp [restoreBackup_eq, backupCopy]
          · simp [restoreLatestCheckpoint, hcopied, restoreBackup_eq]
    · rfl
  · exact restoreBackup_eq _ cycle.restore

variable {cycle : Cycle}

/-- What a rollback restores does not depend on the two files. -/
theorem restoredCopy_congr {configRead : Bool} {first second : State}
    (hbackup : first.backup = second.backup)
    (hcheckpoints : first.checkpoints = second.checkpoints) :
    restoredCopy isWordChar configRead first cycle =
      restoredCopy isWordChar configRead second cycle := by
  simp only [restoredCopy, backupCopy, hbackup, hcheckpoints]

/-- The ETag file after the download. -/
def downloadedEtagFile (state : State) (cycle : Cycle) : Option Text :=
  match cycle.acceptedEtag isWordChar configHosts with
  | some newEtag => cycle.etagWrite.result state.etagFile (setContent newEtag.text)
  | none => state.etagFile

/-- The whitelist after the handler. -/
def handledWhitelist (state : State) (cycle : Cycle) : Option Text :=
  match cycle.accepted isWordChar configHosts with
  | some sections => cycle.whitelistWrite.result state.whitelist (acceptedFile sections)
  | none => state.whitelist

theorem getOpenPathFromUrl_eq (state : State) (cycle : Cycle) :
    getOpenPathFromUrl isWordChar configHosts state cycle =
      (cycle.result isWordChar configHosts,
        { state with etagFile := downloadedEtagFile isWordChar configHosts state cycle }) := by
  unfold getOpenPathFromUrl downloadedEtagFile Cycle.acceptedEtag Cycle.result
  cases cycle.response with
  | failed => rfl
  | notModified => rfl
  | content body etag =>
      dsimp only
      cases acceptContent isWordChar configHosts body with
      | error message => rfl
      | ok sections => cases etag <;> rfl

/-- The handler throws exactly when the download failed and there is no whitelist. -/
theorem handle_result (state : State) (cycle : Cycle) :
    handle state (cycle.result isWordChar configHosts) cycle.whitelistWrite =
      if failedWithoutWhitelist isWordChar configHosts state cycle then none
      else some { state with whitelist := handledWhitelist isWordChar configHosts state cycle } := by
  unfold handledWhitelist Cycle.accepted failedWithoutWhitelist
  cases hresult : cycle.result isWordChar configHosts with
  | notModified => rfl
  | policy sections => rfl
  | failed =>
      obtain ⟨whitelist, etagFile, backup, checkpoints⟩ := state
      cases whitelist <;> rfl

variable {state : State}

/-- Without a whitelist a failed download leaves none. -/
theorem handledWhitelist_of_failed
    (hfailed : failedWithoutWhitelist isWordChar configHosts state cycle = true) :
    handledWhitelist isWordChar configHosts state cycle = state.whitelist := by
  unfold failedWithoutWhitelist at hfailed
  unfold handledWhitelist Cycle.accepted
  split at hfailed
  · rename_i hresult
    rw [hresult]
  · cases hfailed

theorem backupWhitelistState_whitelist (state : State) (cycle : Cycle) :
    (backupWhitelistState state cycle).whitelist = state.whitelist := by
  unfold backupWhitelistState
  cases hwhitelist : state.whitelist with
  | none => exact hwhitelist
  | some whitelist => rfl

theorem backupWhitelistState_etagFile (state : State) (cycle : Cycle) :
    (backupWhitelistState state cycle).etagFile = state.etagFile := by
  unfold backupWhitelistState
  cases state.whitelist <;> rfl

/-- A cycle that fails writes the copy that it restores, if it lives to restore one. -/
theorem afterFault_eq (state : State) (cycle : Cycle) (fault : Fault) :
    afterFault isWordChar state cycle fault =
      { state with
        whitelist := (if fault.dies then none
          else restoredCopy isWordChar fault.configRead state cycle).or
            state.whitelist } := by
  unfold afterFault
  split
  · rfl
  · exact invokeUpdateRollback_eq isWordChar _ state cycle

theorem afterFault_files (state other : State) (cycle : Cycle) (fault : Fault)
    (hbackup : other.backup = state.backup) (hcheckpoints : other.checkpoints = state.checkpoints) :
    (afterFault isWordChar other cycle fault).whitelist =
        (faultCopy isWordChar state cycle (some fault)).or other.whitelist ∧
      (afterFault isWordChar other cycle fault).etagFile = other.etagFile := by
  rw [afterFault_eq, restoredCopy_congr isWordChar hbackup hcheckpoints]
  exact ⟨rfl, rfl⟩

theorem downloadAndApply_files {state : State} {cycle : Cycle} (hdownloads : cycle.downloads = true) :
    (downloadAndApply isWordChar configHosts state cycle).whitelist =
        (faultCopy isWordChar state cycle (failure isWordChar configHosts state cycle)).or
          (if cycle.writes then handledWhitelist isWordChar configHosts state cycle
            else state.whitelist) ∧
      (downloadAndApply isWordChar configHosts state cycle).etagFile =
        downloadedEtagFile isWordChar configHosts state cycle := by
  let downloaded : State :=
    { state with etagFile := downloadedEtagFile isWordChar configHosts state cycle }
  have hafter := fun other => afterFault_files isWordChar state other cycle
  have hhandle := handle_result isWordChar configHosts downloaded cycle
  have hmissing : failedWithoutWhitelist isWordChar configHosts downloaded cycle =
      failedWithoutWhitelist isWordChar configHosts state cycle := rfl
  rw [hmissing] at hhandle
  unfold downloadAndApply failure
  rw [getOpenPathFromUrl_eq]
  dsimp only
  rw [hhandle]
  cases hfailed : failedWithoutWhitelist isWordChar configHosts state cycle with
  | true =>
      have hkept := handledWhitelist_of_failed isWordChar configHosts hfailed
      rw [if_pos rfl, hkept, ite_self]
      cases hfault : cycle.fault with
      | none => exact hafter downloaded { stage := .beforeWrite, dies := false } rfl rfl
      | some fault =>
          obtain ⟨stage, dies⟩ := fault
          cases stage <;> exact hafter downloaded _ rfl rfl
  | false =>
      rw [if_neg Bool.false_ne_true]
      cases hfault : cycle.fault with
      | none =>
          have hwrites : cycle.writes = true := by rw [Cycle.writes, hfault]
          rw [hwrites, if_pos rfl]
          exact ⟨rfl, rfl⟩
      | some fault =>
          obtain ⟨stage, dies⟩ := fault
          cases stage with
          | beforeConfig => simp [Cycle.downloads, hfault] at hdownloads
          | beforeBackup => simp [Cycle.downloads, hfault] at hdownloads
          | beforeWrite =>
              have hwrites : cycle.writes = false := by simp [Cycle.writes, hfault]
              rw [hwrites, if_neg Bool.false_ne_true]
              exact hafter downloaded { stage := .beforeWrite, dies := dies } rfl rfl
          | afterWrite =>
              have hwrites : cycle.writes = true := by simp [Cycle.writes, hfault]
              rw [hwrites, if_pos rfl]
              exact hafter
                { downloaded with whitelist := handledWhitelist isWordChar configHosts downloaded cycle }
                { stage := .afterWrite, dies := dies } rfl rfl

theorem runCycle_files (state : State) (cycle : Cycle) :
    (runCycle isWordChar configHosts state cycle).whitelist =
        (rollbackCopy isWordChar configHosts state cycle).or
          (if cycle.writes then handledWhitelist isWordChar configHosts state cycle
            else state.whitelist) ∧
      (runCycle isWordChar configHosts state cycle).etagFile =
        if cycle.downloads then downloadedEtagFile isWordChar configHosts state cycle
        else state.etagFile := by
  have hearly : ∀ stage dies, cycle.fault = some { stage := stage, dies := dies } →
      stage = .beforeConfig ∨ stage = .beforeBackup →
        cycle.writes = false ∧ cycle.downloads = false ∧
          rollbackCopy isWordChar configHosts state cycle =
            faultCopy isWordChar state cycle (some { stage := stage, dies := dies }) := by
    intro stage dies hfault hstage
    have hdownloads : cycle.downloads = false := by
      rcases hstage with rfl | rfl <;> simp [Cycle.downloads, hfault]
    refine ⟨?_, hdownloads, ?_⟩
    · rcases hstage with rfl | rfl <;> simp [Cycle.writes, hfault]
    · rw [rollbackCopy, failure, hfault, hdownloads]
      rfl
  have hlate : cycle.downloads = true →
      (downloadAndApply isWordChar configHosts (backupWhitelistState state cycle) cycle).whitelist =
          (rollbackCopy isWordChar configHosts state cycle).or
            (if cycle.writes then handledWhitelist isWordChar configHosts state cycle
              else state.whitelist) ∧
        (downloadAndApply isWordChar configHosts
          (backupWhitelistState state cycle) cycle).etagFile =
            downloadedEtagFile isWordChar configHosts state cycle := by
    intro hdownloads
    have hwhitelist := backupWhitelistState_whitelist state cycle
    have hetagFile := backupWhitelistState_etagFile state cycle
    have hfailure : failure isWordChar configHosts (backupWhitelistState state cycle) cycle =
        failure isWordChar configHosts state cycle := by
      unfold failure failedWithoutWhitelist
      rw [hwhitelist]
    have hhandled : handledWhitelist isWordChar configHosts (backupWhitelistState state cycle)
        cycle = handledWhitelist isWordChar configHosts state cycle := by
      simp only [handledWhitelist, hwhitelist]
    obtain ⟨hfile, hetag⟩ := @downloadAndApply_files isWordChar configHosts
      (backupWhitelistState state cycle) cycle hdownloads
    rw [hfile, hetag, rollbackCopy, hdownloads, if_pos rfl, hfailure, hhandled, hwhitelist]
    exact ⟨rfl, by simp only [downloadedEtagFile, hetagFile]⟩
  unfold runCycle
  split
  · rename_i dies hfault
    obtain ⟨hwrites, hdownloads, hcopy⟩ := hearly _ dies hfault (Or.inl rfl)
    rw [hwrites, hdownloads, hcopy]
    exact afterFault_files isWordChar state state cycle _ rfl rfl
  · rename_i dies hfault
    obtain ⟨hwrites, hdownloads, hcopy⟩ := hearly _ dies hfault (Or.inr rfl)
    rw [hwrites, hdownloads, hcopy]
    exact afterFault_files isWordChar state state cycle _ rfl rfl
  · rename_i hconfig hbackup
    have hdownloads : cycle.downloads = true := by
      unfold Cycle.downloads
      cases hfault : cycle.fault with
      | none => rfl
      | some fault =>
          obtain ⟨stage, dies⟩ := fault
          cases stage with
          | beforeConfig => exact absurd hfault (hconfig dies)
          | beforeBackup => exact absurd hfault (hbackup dies)
          | beforeWrite => rfl
          | afterWrite => rfl
    rw [hdownloads, if_pos rfl]
    exact hlate hdownloads

/-! ## Soundness -/

def cache (state : State) : CachedCopy Text Text where
  validator := cachedEtag state
  copy := state.whitelist

/-- The file that the agent writes for the document that the server serves with an
ETag. -/
def acceptedForm (servedWith : Text → Text) (etag : Text) : Option Text :=
  match acceptContent isWordChar configHosts (servedWith etag) with
  | .ok sections => some (acceptedFile sections)
  | .error _ => none

/-- The whitelist file is the accepted form of the document with the stored ETag. -/
def EtagSound (servedWith : Text → Text) (state : State) : Prop :=
  (cache state).Sound (acceptedForm isWordChar configHosts servedWith)

variable {servedWith : Text → Text}

/-- What a sound ETag says about the whitelist that a 304 answer confirms. -/
theorem EtagSound.whitelist (hsound : EtagSound isWordChar configHosts servedWith state)
    {etag : Text} (hetag : cachedEtag state = some etag) :
    ∃ file, acceptedForm isWordChar configHosts servedWith etag = some file ∧
      state.whitelist = some file :=
  hsound etag hetag

/-- What becomes of the ETag file. A cycle that stores no ETag leaves it alone. -/
def Cycle.etagOutcome (cycle : Cycle) : WriteOutcome :=
  if cycle.downloads && (cycle.acceptedEtag isWordChar configHosts).isSome then cycle.etagWrite
  else .refused

/-- What it takes that a cycle leaves a given text in the whitelist file: every copy
that it can restore is that text, and if it restores none, then what it writes is that
text, or it writes nothing and the text was there. -/
structure Leaves (state : State) (cycle : Cycle) (content : Text) : Prop where
  restored : ∀ copy ∈ rollbackCopies isWordChar configHosts state cycle, copy = content
  written : rollbackCopies isWordChar configHosts state cycle = [] → cycle.writes = true →
    ∀ sections, cycle.accepted isWordChar configHosts = some sections →
      cycle.whitelistWrite ≠ .refused →
        cycle.whitelistWrite = .written ∧ acceptedFile sections = content
  kept : rollbackCopies isWordChar configHosts state cycle = [] →
    cycle.writes = false ∨ cycle.accepted isWordChar configHosts = none ∨
      cycle.whitelistWrite = .refused → state.whitelist = some content

/-- When a cycle keeps a sound ETag sound. A cycle that truncates the ETag file does. -/
structure Cycle.KeepsEtag (state : State) (cycle : Cycle) : Prop where
  stored : cycle.etagOutcome isWordChar configHosts = .written →
    ∀ sections, cycle.accepted isWordChar configHosts = some sections →
      Leaves isWordChar configHosts state cycle (acceptedFile sections)
  kept : cycle.etagOutcome isWordChar configHosts = .refused →
    cachedEtag state = none ∨ ∃ whitelist, state.whitelist = some whitelist ∧
      Leaves isWordChar configHosts state cycle whitelist

/-- When an event does. The watchdog restores a checkpoint and leaves the ETag. -/
def KeepsEtag (state : State) : Event → Prop
  | .cycle cycle => cycle.KeepsEtag isWordChar configHosts state
  | .restoreCheckpoint restore =>
      cachedEtag state = none ∨ restore.checkpointCopied = false ∨
        ∀ checkpoint ∈ state.checkpoints.head?, state.whitelist = some checkpoint

theorem runCycle_whitelist {content : Text}
    (hleaves : Leaves isWordChar configHosts state cycle content) :
    (runCycle isWordChar configHosts state cycle).whitelist = some content := by
  rw [(runCycle_files isWordChar configHosts state cycle).1]
  obtain ⟨hnone, hmem⟩ := rollbackCopy_spec isWordChar configHosts state cycle
  cases hcopy : rollbackCopy isWordChar configHosts state cycle with
  | some copy =>
      rw [hleaves.restored copy (hmem copy hcopy)]
      rfl
  | none =>
      have hcopies := hnone.mp hcopy
      rw [Option.none_or]
      cases hwrites : cycle.writes with
      | false => exact hleaves.kept hcopies (Or.inl hwrites)
      | true =>
          rw [if_pos rfl, handledWhitelist]
          cases haccepted : cycle.accepted isWordChar configHosts with
          | none => exact hleaves.kept hcopies (Or.inr (Or.inl haccepted))
          | some sections =>
              dsimp only
              by_cases hrefused : cycle.whitelistWrite = .refused
              · rw [hrefused]
                exact hleaves.kept hcopies (Or.inr (Or.inr hrefused))
              · obtain ⟨hwritten, hsame⟩ := hleaves.written hcopies hwrites sections haccepted hrefused
                rw [hwritten, ← hsame]
                rfl

theorem EntityTag.trim_setContent (etag : EntityTag) : trim (setContent etag.text) = etag.text := by
  have hnonempty : etag.text ≠ [] := by
    intro hnil
    have hlast := etag.last
    rw [hnil] at hlast
    cases hlast
  apply Foundation.trim_append _ hnonempty (List.all_eq_true.mp (by decide))
  refine ⟨?_, ?_⟩
  · intro c hc
    rcases etag.first with hfirst | hfirst
    · rw [hfirst, Option.mem_some_iff] at hc
      rw [← hc]
      decide
    · rw [hfirst, Option.mem_some_iff] at hc
      rw [← hc]
      decide
  · intro c hc
    rw [etag.last, Option.mem_some_iff] at hc
    rw [← hc]
    decide

variable {etag : EntityTag}

/-- An ETag that is stored is the one that is sent with the next request. -/
theorem cachedEtag_stored (hfile : state.etagFile = some (setContent etag.text)) :
    cachedEtag state = some etag.text := by
  have hnonempty : etag.text ≠ [] := by
    intro hnil
    have hlast := etag.last
    rw [hnil] at hlast
    cases hlast
  rw [cachedEtag, hfile]
  dsimp only
  rw [etag.trim_setContent, if_neg hnonempty]

theorem accepted_of_acceptedEtag (hetag : cycle.acceptedEtag isWordChar configHosts = some etag) :
    ∃ body sections, cycle.response = .content body (some etag) ∧
      acceptContent isWordChar configHosts body = .ok sections ∧
      cycle.accepted isWordChar configHosts = some sections := by
  unfold Cycle.acceptedEtag at hetag
  cases hresponse : cycle.response with
  | failed =>
      rw [hresponse] at hetag
      cases hetag
  | notModified =>
      rw [hresponse] at hetag
      cases hetag
  | content body newEtag =>
      rw [hresponse] at hetag
      dsimp only at hetag
      cases hbody : acceptContent isWordChar configHosts body with
      | error message =>
          rw [hbody] at hetag
          cases hetag
      | ok sections =>
          rw [hbody] at hetag
          cases hetag
          refine ⟨body, sections, rfl, hbody, ?_⟩
          rw [Cycle.accepted, Cycle.result, hresponse]
          dsimp only
          rw [hbody]

/-- A file that keeps its content keeps its ETag sound. -/
theorem EtagSound.of_files {target : State}
    (hsound : EtagSound isWordChar configHosts servedWith state)
    (hetagFile : target.etagFile = state.etagFile)
    (hfile : cachedEtag state = none ∨ target.whitelist = state.whitelist) :
    EtagSound isWordChar configHosts servedWith target := by
  have hcache : cache target =
      { validator := (cache state).validator, copy := target.whitelist } := by
    simp [cache, cachedEtag, hetagFile]
  rw [EtagSound, hcache, CachedCopy.Sound.replace_iff hsound]
  exact hfile

theorem etagSound_runCycle (hsound : EtagSound isWordChar configHosts servedWith state)
    (hhonest : Honest servedWith (.cycle cycle))
    (hkeeps : cycle.KeepsEtag isWordChar configHosts state) :
    EtagSound isWordChar configHosts servedWith (runCycle isWordChar configHosts state cycle) := by
  have hetagFile := (runCycle_files isWordChar configHosts state cycle).2
  have hsame : (runCycle isWordChar configHosts state cycle).etagFile = state.etagFile →
      (cachedEtag state = none ∨ ∃ whitelist, state.whitelist = some whitelist ∧
        Leaves isWordChar configHosts state cycle whitelist) →
      EtagSound isWordChar configHosts servedWith
        (runCycle isWordChar configHosts state cycle) := by
    intro hsameFile hfile
    apply hsound.of_files isWordChar configHosts hsameFile
    refine hfile.imp_right ?_
    rintro ⟨whitelist, hwhitelist, hleaves⟩
    rw [hwhitelist, runCycle_whitelist isWordChar configHosts hleaves]
  obtain ⟨hstored, hkept⟩ := hkeeps
  unfold Cycle.etagOutcome at hstored hkept
  by_cases hstores : (cycle.downloads && (cycle.acceptedEtag isWordChar configHosts).isSome) = true
  · rw [if_pos hstores] at hstored hkept
    rw [Bool.and_eq_true, Option.isSome_iff_exists] at hstores
    obtain ⟨hdownloads, etag, hetag⟩ := hstores
    rw [hdownloads, if_pos rfl, downloadedEtagFile, hetag] at hetagFile
    obtain ⟨body, sections, hresponse, hbody, haccepted⟩ :=
      accepted_of_acceptedEtag isWordChar configHosts hetag
    cases houtcome : cycle.etagWrite with
    | written =>
        rw [houtcome] at hetagFile
        have hform : acceptedForm isWordChar configHosts servedWith etag.text =
            some (acceptedFile sections) := by
          rw [acceptedForm, ← hhonest body etag hresponse, hbody]
        have hfile := runCycle_whitelist isWordChar configHosts (hstored houtcome sections haccepted)
        rw [EtagSound, cache, cachedEtag_stored hetagFile, CachedCopy.sound_store_iff hform]
        exact hfile
    | refused =>
        rw [houtcome] at hetagFile
        exact hsame hetagFile (hkept houtcome)
    | truncated =>
        rw [houtcome] at hetagFile
        apply CachedCopy.sound_of_none
        rw [cache, cachedEtag, hetagFile]
        rfl
  · rw [if_neg hstores] at hkept
    refine hsame ?_ (hkept rfl)
    rw [hetagFile]
    split
    · rename_i hdownloads
      rw [hdownloads, Bool.true_and, Option.isSome_iff_ne_none, not_not] at hstores
      rw [downloadedEtagFile, hstores]
    · rfl

theorem etagSound_restoreCheckpoint (hsound : EtagSound isWordChar configHosts servedWith state)
    {restore : Restore}
    (hkeeps : KeepsEtag isWordChar configHosts state (.restoreCheckpoint restore)) :
    EtagSound isWordChar configHosts servedWith
      (restoreLatestCheckpoint isWordChar state restore).1 := by
  unfold restoreLatestCheckpoint
  cases hcheckpoints : state.checkpoints with
  | nil => exact hsound
  | cons checkpoint rest =>
      dsimp only
      split
      · rename_i hcopied
        refine hsound.of_files isWordChar configHosts ?_ ?_
        · rfl
        rcases hkeeps with hnone | hrefused | hlatest
        · exact Or.inl hnone
        · rw [hrefused] at hcopied
          cases hcopied
        · exact Or.inr (hlatest checkpoint (by rw [hcheckpoints]; rfl)).symm
      · exact hsound

/-- Every run whose events keep the ETag. -/
theorem etagSound_of_reachable
    (hreach : (system isWordChar configHosts).ReachableBy
      (fun source event => Honest servedWith event ∧
        KeepsEtag isWordChar configHosts source event) state) :
    EtagSound isWordChar configHosts servedWith state := by
  apply hreach.invariant
  · intro start hstart
    apply CachedCopy.sound_of_none
    rw [cache, cachedEtag, show start.etagFile = none from hstart]
  · rintro source event target hsound ⟨hhonest, hkeeps⟩ rfl
    cases event with
    | cycle cycle => exact etagSound_runCycle isWordChar configHosts hsound hhonest hkeeps
    | restoreCheckpoint restore =>
        exact etagSound_restoreCheckpoint isWordChar configHosts hsound hkeeps

end Agent

end OpenPath.Windows.UpdateCycle
