/-
# The whitelist file of the Linux agent and its ETag

`download_whitelist` asks for the document with the stored ETag, installs what the
validation accepts and stores the new ETag after it. The update saves a checkpoint
of the whitelist file, the watchdog restores the checkpoint before the current one,
and enrolling anew removes the file together with its ETag.
-/

import OpenPath.Foundation.CachedCopy
import OpenPath.Foundation.Transition
import OpenPath.Linux.ValidateWhitelist

namespace OpenPath.Linux.DownloadWhitelist

open Foundation Ascii ValidateWhitelist

/-! ## Response headers -/

/-- What the scan of the header file finds. -/
structure HeaderScan where
  status : Text
  newEtag : Text
  deriving DecidableEq

/-- `^HTTP/[^[:space:]]+[[:space:]]+([0-9]{3})` -/
def httpStatus (line : Text) : Option Text :=
  if "HTTP/".toList <+: line then
    let version := (line.drop 5).takeWhile fun c => !isSpace c
    let rest := (line.drop 5).dropWhile fun c => !isSpace c
    let status := (rest.dropWhile isSpace).take 3
    if version ≠ [] ∧ rest ≠ [] ∧ status.length = 3 ∧ status.all isDigit then some status
    else none
  else none

/-- The value of a line that matches `^[Ee][Tt][Aa][Gg]:`, without carriage
returns and without white space around it. -/
def etagValue (line : Text) : Option Text :=
  if (line.take 5).map Char.toLower = "etag:".toList then
    some (trim isSpace ((line.drop 5).filter (· ≠ '\r')))
  else none

def scanLine (scan : HeaderScan) (line : Text) : HeaderScan :=
  match httpStatus line with
  | some status => { scan with status := status }
  | none =>
      match etagValue line with
      | some newEtag => { scan with newEtag := newEtag }
      | none => scan

def scanLines (lines : List Text) : HeaderScan :=
  lines.foldl scanLine { status := [], newEtag := [] }

/-- The lines that `read` finds: what follows the last line feed is not one. -/
def headerLines (headers : Text) : List Text := (headers.splitOn '\n').dropLast

def scanHeaders (headers : Text) : HeaderScan := scanLines (headerLines headers)

/-- The ETag of the last response of a redirected request. -/
def finalEtag (headers : Text) : Text :=
  (scanLines ((headerLines headers).reverse.takeWhile
    fun line => (httpStatus line).isNone).reverse).newEtag

/-! ## The agent -/

structure State where
  whitelistFile : Option Text
  etagFile : Option Text
  /-- The whitelist in each checkpoint directory that exists. -/
  checkpoints : Nat → Option (Option Text)
  current : Nat

/-- `tr -d '\r\n' < "$etag_file"` -/
def currentEtag (state : State) : Text :=
  (state.etagFile.getD []).filter fun c => c ≠ '\r' && c ≠ '\n'

/-- A request, with everything that the agent does not decide. The response is the
header file and the body, if `curl` succeeds. -/
structure Attempt where
  response : Option (Text × Text)
  moved : Bool
  etagWrite : WriteOutcome

/-- `download_whitelist`, with whether it succeeds. -/
def downloadWhitelist (limits : Limits) (state : State) (attempt : Attempt) : State × Bool :=
  match attempt.response with
  | none => (state, false)
  | some (headers, body) =>
      let scan := scanHeaders headers
      if scan.status = "304".toList then (state, true)
      else if body = [] then (state, false)
      else
        match validateWhitelistContent limits body with
        | none => (state, false)
        | some accepted =>
            let state := if attempt.moved then { state with whitelistFile := some accepted }
              else state
            let state := if scan.newEtag ≠ [] then
                { state with
                  etagFile := attempt.etagWrite.result state.etagFile (scan.newEtag ++ ['\n']) }
              else state
            (state, true)

/-- `save_checkpoint`. The copy may fail. -/
def saveCheckpoint (maxCheckpoints : Nat) (state : State) (copied : Bool) : State :=
  let next := (state.current + 1) % maxCheckpoints
  { state with
    checkpoints := fun slot =>
      if slot = next then some (if copied then state.whitelistFile else none)
      else state.checkpoints slot
    current := next }

/-- `get_previous_checkpoint` -/
def getPreviousCheckpoint (maxCheckpoints : Nat) (state : State) : Option Nat :=
  let previous := (state.current + maxCheckpoints - 1) % maxCheckpoints
  if (state.checkpoints previous).isSome then some previous else none

/-- `restore_checkpoint`. The copy may fail. -/
def restoreCheckpoint (state : State) (target : Nat) (copied : Bool) : State :=
  match state.checkpoints target with
  | some (some whitelist) =>
      if copied then { state with whitelistFile := some whitelist } else state
  | _ => state

/-- `attempt_rollback_recovery`, as far as the files go. -/
def attemptRollbackRecovery (maxCheckpoints : Nat) (state : State) (copied : Bool) : State :=
  match getPreviousCheckpoint maxCheckpoints state with
  | some previous => restoreCheckpoint state previous copied
  | none => state

/-- `reset_cached_whitelist_state` -/
def resetCachedWhitelistState (state : State) : State :=
  { state with whitelistFile := none, etagFile := none }

/-- What happens to the files. -/
inductive Event
  | download (attempt : Attempt)
  | saveCheckpoint (copied : Bool)
  | rollback (copied : Bool)
  | reset

def apply (limits : Limits) (maxCheckpoints : Nat) (state : State) : Event → State
  | .download attempt => (downloadWhitelist limits state attempt).1
  | .saveCheckpoint copied => DownloadWhitelist.saveCheckpoint maxCheckpoints state copied
  | .rollback copied => attemptRollbackRecovery maxCheckpoints state copied
  | .reset => resetCachedWhitelistState state

/-- A document that comes with an ETag is the one that the server serves with it. -/
def Honest (servedWith : Text → Text) : Event → Prop
  | .download attempt => ∀ headers body, attempt.response = some (headers, body) →
      finalEtag headers ≠ [] → body = servedWith (finalEtag headers)
  | _ => True

/-- The agent, from a state in which it has not stored an ETag yet. -/
def system (limits : Limits) (maxCheckpoints : Nat) : TransitionSystem State Event :=
  .ofFunction (fun state => state.etagFile = none) (apply limits maxCheckpoints)

/-! ## Soundness -/

def cache (state : State) : CachedCopy Text Text where
  validator := if currentEtag state = [] then none else some (currentEtag state)
  copy := state.whitelistFile

/-- What the agent installs of the document that the server serves with an ETag. -/
def acceptedForm (limits : Limits) (servedWith : Text → Text) (etag : Text) : Option Text :=
  validateWhitelistContent limits (servedWith etag)

/-- The whitelist file is the accepted form of the document with the stored ETag. -/
def EtagSound (limits : Limits) (servedWith : Text → Text) (state : State) : Prop :=
  (cache state).Sound (acceptedForm limits servedWith)

variable {limits : Limits} {servedWith : Text → Text} {state : State}

/-- What a sound ETag says about the whitelist that a 304 answer confirms. -/
theorem EtagSound.whitelist (hsound : EtagSound limits servedWith state)
    (hetag : currentEtag state ≠ []) :
    ∃ file, acceptedForm limits servedWith (currentEtag state) = some file ∧
      state.whitelistFile = some file :=
  hsound (currentEtag state) (if_neg hetag)

/-- The document of an attempt that is installed. -/
def Attempt.accepted (limits : Limits) (attempt : Attempt) : Option (Text × Text) :=
  match attempt.response with
  | none => none
  | some (headers, body) =>
      if (scanHeaders headers).status = "304".toList ∨ body = [] then none
      else (validateWhitelistContent limits body).map fun accepted => (headers, accepted)

/-- When an event keeps a sound ETag sound. -/
def KeepsEtag (limits : Limits) (maxCheckpoints : Nat) (state : State) : Event → Prop
  | .download attempt => ∀ headers accepted, attempt.accepted limits = some (headers, accepted) →
      if (scanHeaders headers).newEtag ≠ [] ∧ attempt.etagWrite ≠ .refused then
        attempt.etagWrite = .truncated ∨
          ((scanHeaders headers).newEtag = finalEtag headers ∧
            (attempt.moved = true ∨ state.whitelistFile = some accepted))
      else currentEtag state = [] ∨ attempt.moved = false ∨ state.whitelistFile = some accepted
  | .saveCheckpoint _ => True
  | .rollback copied => ∀ previous whitelist,
      getPreviousCheckpoint maxCheckpoints state = some previous →
        state.checkpoints previous = some (some whitelist) → copied = true →
          currentEtag state = [] ∨ state.whitelistFile = some whitelist
  | .reset => True

variable {etag : Text}

theorem no_break_of_etagValue {line : Text} (hline : '\n' ∉ line)
    (hetag : etagValue line = some etag) : '\r' ∉ etag ∧ '\n' ∉ etag := by
  unfold etagValue at hetag
  split at hetag
  · obtain rfl := Option.some.inj hetag
    refine ⟨?_, ?_⟩
    · intro hmem
      simpa using List.of_mem_filter (mem_of_mem_trim hmem)
    · intro hmem
      exact hline (List.mem_of_mem_drop (List.mem_of_mem_filter (mem_of_mem_trim hmem)))
  · cases hetag

theorem no_break_of_scanHeaders (headers : Text) :
    '\r' ∉ (scanHeaders headers).newEtag ∧ '\n' ∉ (scanHeaders headers).newEtag := by
  have hlines : ∀ line ∈ headerLines headers, '\n' ∉ line := fun line hline =>
    not_mem_of_mem_splitOn (List.mem_of_mem_dropLast hline)
  have hfold : ∀ (lines : List Text) (scan : HeaderScan), (∀ line ∈ lines, '\n' ∉ line) →
      '\r' ∉ scan.newEtag ∧ '\n' ∉ scan.newEtag →
        '\r' ∉ (lines.foldl scanLine scan).newEtag ∧
          '\n' ∉ (lines.foldl scanLine scan).newEtag := by
    intro lines
    induction lines with
    | nil => exact fun scan _ hscan => hscan
    | cons line lines ih =>
        intro scan hlines hscan
        apply ih (scanLine scan line) fun other hother =>
          hlines other (List.mem_cons_of_mem line hother)
        unfold scanLine
        split
        · exact hscan
        · split
          · rename_i etag hetag
            exact no_break_of_etagValue (hlines line List.mem_cons_self) hetag
          · exact hscan
  exact hfold _ _ hlines (by simp)

theorem filter_stored (hreturn : '\r' ∉ etag) (hfeed : '\n' ∉ etag) :
    (etag ++ ['\n']).filter (fun c => c ≠ '\r' && c ≠ '\n') = etag := by
  rw [List.filter_append]
  have hself : etag.filter (fun c => c ≠ '\r' && c ≠ '\n') = etag := by
    apply List.filter_eq_self.mpr
    intro c hc
    have hr : c ≠ '\r' := fun h => hreturn (h ▸ hc)
    have hn : c ≠ '\n' := fun h => hfeed (h ▸ hc)
    simp [hr, hn]
  rw [hself]
  simp

/-! ## Steps -/

section Step

variable {limits : Limits} {maxCheckpoints : Nat} {servedWith : Text → Text} {state : State}

theorem currentEtag_stored {newEtag : Text} (hreturn : '\r' ∉ newEtag) (hfeed : '\n' ∉ newEtag)
    (hfile : state.etagFile = some (newEtag ++ ['\n'])) : currentEtag state = newEtag := by
  rw [currentEtag, hfile]
  exact filter_stored hreturn hfeed

variable {attempt : Attempt}

theorem downloadWhitelist_of_rejected (hrejected : attempt.accepted limits = none) :
    (downloadWhitelist limits state attempt).1 = state := by
  unfold Attempt.accepted at hrejected
  unfold downloadWhitelist
  split
  · rfl
  · rename_i headers body hresponse
    rw [hresponse] at hrejected
    dsimp only at hrejected ⊢
    split
    · rfl
    · rename_i hstatus
      split
      · rfl
      · rename_i hbody
        rw [if_neg (not_or.mpr ⟨hstatus, hbody⟩), Option.map_eq_none_iff] at hrejected
        rw [hrejected]

variable {headers : Text}

theorem downloadWhitelist_of_accepted {accepted : Text}
    (haccepted : attempt.accepted limits = some (headers, accepted)) :
    (downloadWhitelist limits state attempt).1 =
      { state with
        whitelistFile := if attempt.moved then some accepted else state.whitelistFile
        etagFile := if (scanHeaders headers).newEtag ≠ [] then
            attempt.etagWrite.result state.etagFile ((scanHeaders headers).newEtag ++ ['\n'])
          else state.etagFile } := by
  unfold Attempt.accepted at haccepted
  unfold downloadWhitelist
  split
  · rename_i hresponse
    rw [hresponse] at haccepted
    cases haccepted
  · rename_i headers' body hresponse
    rw [hresponse] at haccepted
    dsimp only at haccepted ⊢
    split at haccepted
    · cases haccepted
    · rename_i hnot
      rw [not_or] at hnot
      obtain ⟨document, hvalid, hpair⟩ := Option.map_eq_some_iff.mp haccepted
      obtain ⟨rfl, rfl⟩ := Prod.mk.inj hpair
      rw [if_neg hnot.1, if_neg hnot.2, hvalid]
      cases attempt.moved <;> by_cases hetag : (scanHeaders headers').newEtag = [] <;>
        simp [hetag]

/-- The document of an accepted response with an ETag is what the server serves. -/
theorem acceptedForm_finalEtag {accepted : Text} (hhonest : Honest servedWith (.download attempt))
    (haccepted : attempt.accepted limits = some (headers, accepted))
    (hetag : finalEtag headers ≠ []) :
    acceptedForm limits servedWith (finalEtag headers) = some accepted := by
  unfold Attempt.accepted at haccepted
  split at haccepted
  · cases haccepted
  · rename_i headers' body hresponse
    split at haccepted
    · cases haccepted
    · obtain ⟨document, hvalid, hpair⟩ := Option.map_eq_some_iff.mp haccepted
      obtain ⟨rfl, rfl⟩ := Prod.mk.inj hpair
      rw [acceptedForm, ← hhonest headers' body hresponse hetag]
      exact hvalid

theorem etagSound_of_noEtag (hnone : currentEtag state = []) : EtagSound limits servedWith state :=
  CachedCopy.sound_of_none (by simp [cache, hnone])

section

variable (hsound : EtagSound limits servedWith state)
include hsound

/-- An event that leaves the ETag alone has to leave the whitelist alone. -/
theorem EtagSound.replace {target : State} (hetag : target.etagFile = state.etagFile)
    (hcopy : currentEtag state = [] ∨ target.whitelistFile = state.whitelistFile) :
    EtagSound limits servedWith target := by
  have hcache : cache target = { validator := (cache state).validator, copy := target.whitelistFile } := by
    simp [cache, currentEtag, hetag]
  rw [EtagSound, hcache]
  apply (CachedCopy.Sound.replace_iff hsound target.whitelistFile).mpr
  rcases hcopy with hnone | hsame
  · exact Or.inl (by simp [cache, hnone])
  · exact Or.inr hsame

theorem etagSound_download (hhonest : Honest servedWith (.download attempt))
    (hkeeps : KeepsEtag limits maxCheckpoints state (.download attempt)) :
    EtagSound limits servedWith (downloadWhitelist limits state attempt).1 := by
  cases haccepted : attempt.accepted limits with
  | none =>
      rw [downloadWhitelist_of_rejected haccepted]
      exact hsound
  | some pair =>
      obtain ⟨headers, accepted⟩ := pair
      have hcondition := hkeeps headers accepted haccepted
      rw [downloadWhitelist_of_accepted haccepted]
      split at hcondition
      · rename_i hwrite
        obtain ⟨hetag, hopened⟩ := hwrite
        rw [if_pos hetag]
        rcases hcondition with htruncated | ⟨hfinal, hcopy⟩
        · apply etagSound_of_noEtag
          simp [currentEtag, htruncated, WriteOutcome.result]
        · cases houtcome : attempt.etagWrite with
          | refused => exact absurd houtcome hopened
          | truncated =>
              apply etagSound_of_noEtag
              simp [currentEtag, WriteOutcome.result]
          | written =>
              obtain ⟨hreturn, hfeed⟩ := no_break_of_scanHeaders headers
              have hvalid := acceptedForm_finalEtag hhonest haccepted (hfinal ▸ hetag)
              rw [← hfinal] at hvalid
              rw [EtagSound, cache, currentEtag_stored hreturn hfeed rfl, if_neg hetag]
              apply (CachedCopy.sound_store_iff hvalid _).mpr
              rcases hcopy with hmoved | hsame
              · rw [if_pos hmoved]
              · rw [hsame, ite_self]
      · rename_i hkept
        have hfile : (if (scanHeaders headers).newEtag ≠ [] then
            attempt.etagWrite.result state.etagFile ((scanHeaders headers).newEtag ++ ['\n'])
            else state.etagFile) = state.etagFile := by
          split
          · rename_i hetag
            have hrefused : attempt.etagWrite = .refused := by
              by_contra hopened
              exact hkept ⟨hetag, hopened⟩
            rw [hrefused, WriteOutcome.result]
          · rfl
        refine hsound.replace hfile ?_
        rcases hcondition with hnone | hmoved | hsame
        · exact Or.inl hnone
        · exact Or.inr (by simp [hmoved])
        · exact Or.inr (by simp [hsame])

theorem etagSound_rollback {copied : Bool}
    (hkeeps : KeepsEtag limits maxCheckpoints state (.rollback copied)) :
    EtagSound limits servedWith (attemptRollbackRecovery maxCheckpoints state copied) := by
  unfold attemptRollbackRecovery
  split
  · rename_i previous hprevious
    unfold restoreCheckpoint
    split
    · rename_i whitelist hslot
      by_cases hcopied : copied = true
      · rw [if_pos hcopied]
        refine hsound.replace ?_ ?_
        · rfl
        rcases hkeeps previous whitelist hprevious hslot hcopied with hnone | hsame
        · exact Or.inl hnone
        · exact Or.inr hsame.symm
      · rw [if_neg hcopied]
        exact hsound
    · exact hsound
  · exact hsound

theorem etagSound_apply {event : Event} (hhonest : Honest servedWith event)
    (hkeeps : KeepsEtag limits maxCheckpoints state event) :
    EtagSound limits servedWith (apply limits maxCheckpoints state event) := by
  cases event with
  | download attempt => exact etagSound_download hsound hhonest hkeeps
  | saveCheckpoint copied =>
      refine hsound.replace ?_ (Or.inr ?_)
      · rfl
      · rfl
  | rollback copied => exact etagSound_rollback hsound hkeeps
  | reset => exact etagSound_of_noEtag rfl

end

end Step

/-- Every run whose events keep the ETag. -/
theorem etagSound_of_reachable {maxCheckpoints : Nat}
    (hreach : (system limits maxCheckpoints).ReachableBy
      (fun source event => Honest servedWith event ∧ KeepsEtag limits maxCheckpoints source event)
      state) :
    EtagSound limits servedWith state := by
  apply hreach.invariant
  · intro start hstart
    apply etagSound_of_noEtag
    rw [currentEtag, show start.etagFile = none from hstart]
    rfl
  · rintro source event target hsound ⟨hhonest, hkeeps⟩ rfl
    exact etagSound_apply hsound hhonest hkeeps

end OpenPath.Linux.DownloadWhitelist
