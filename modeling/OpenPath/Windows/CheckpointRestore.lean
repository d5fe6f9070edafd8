/-
# Restoring the latest checkpoint

`Restore-OpenPathLatestCheckpoint` copies the whitelist of the latest checkpoint over the
active file, and only then looks whether it has valid domains. From those domains it
builds the policy of the DNS proxy, without the blocked subdomains of the document, and
restarts the proxy.

So a restore that fails leaves the copy in place, and one that succeeds may enforce
less than the document says. It is right under the conditions that are stated here.
-/

import OpenPath.Windows.AcrylicDefinition
import OpenPath.Windows.UpdateCycle

namespace OpenPath.Windows.CheckpointRestore

open Acrylic DotNet
open Foundation (WriteOutcome)

/-- A directory of the checkpoints, with its whitelist where there is one. -/
structure Checkpoint where
  path : Text
  lastWriteTime : Nat
  whitelist : Option Text

/-- The latest checkpoint, if it has a whitelist. -/
def getLatestCheckpoint (checkpoints : List Checkpoint) : Option (Text × Text) :=
  (checkpoints.mergeSort fun first second => second.lastWriteTime ≤ first.lastWriteTime).head?.bind
    fun latest => latest.whitelist.map fun whitelist => (latest.path, whitelist)

structure Agent where
  whitelist : Option Text
  checkpoints : List Checkpoint
  machine : Machine
  /-- The policy in the files of the DNS proxy. -/
  files : Option Policy
  /-- The policy that the proxy has read. -/
  loaded : Option Policy

/-- What became of `Update-AcrylicHost`: a call that returns `$false` or throws leaves the
files of the proxy in some state. -/
inductive UpdateOutcome
  | applied
  | refused (left : Option Policy)
  | threw (left : Option Policy)

/-- What happens during a restore. -/
structure Chances where
  copy : WriteOutcome
  update : UpdateOutcome
  /-- `Restart-AcrylicService` returns `$true`. -/
  restarts : Bool
  /-- Nothing throws while the protected mode is restored. -/
  protects : Bool
  /-- The text of what is thrown. -/
  thrown : String

structure RestoreResult where
  success : Bool := false
  checkpointPath : Option Text := none
  domainCount : Nat := 0
  error : Option String := none
  deriving DecidableEq

section Restore

variable (isWordChar : Char → Bool)

/-- `Get-ValidWhitelistDomainsFromFile` -/
def validWhitelistDomains (file : Text) : List Text :=
  ((getWhitelistSectionsFromFile isWordChar file).sections.whitelist.map trim).filter
    testDomainFormat

def failed (chances : Chances) : RestoreResult where
  error := some ("Checkpoint restore failed: " ++ chances.thrown)

/-- `Restore-OpenPathProtectedMode`, of which only an exception counts. -/
def restoreProtectedMode (agent : Agent) (chances : Chances) (result : RestoreResult) :
    Agent × RestoreResult :=
  let agent := if chances.restarts then { agent with loaded := agent.files } else agent
  if chances.protects then (agent, result) else (agent, failed chances)

/-- `Restore-OpenPathLatestCheckpoint` -/
def restoreLatestCheckpoint (agent : Agent) (chances : Chances) : Agent × RestoreResult :=
  match getLatestCheckpoint agent.checkpoints with
  | none => (agent, { error := some "No checkpoint available" })
  | some (path, document) =>
      let agent := { agent with whitelist := chances.copy.result agent.whitelist document }
      if chances.copy ≠ .written then (agent, failed chances)
      else
        let domains := validWhitelistDomains isWordChar document
        if domains.length < 1 then
          (agent,
            { error := some "Checkpoint restore aborted: no valid domains in checkpoint whitelist" })
        else
          let result :=
            { success := true, checkpointPath := some path, domainCount := domains.length }
          match chances.update with
          | .applied =>
              let files := some (buildPolicy agent.machine domains [])
              restoreProtectedMode { agent with files } chances result
          | .refused left => restoreProtectedMode { agent with files := left } chances result
          | .threw left => ({ agent with files := left }, failed chances)

/-! ## What a restore owes -/

/-- The policy of a document, as an update builds it. -/
def documentPolicy (machine : Machine) (document : Text) : Policy :=
  let sections := (getWhitelistSectionsFromFile isWordChar document).sections
  buildPolicy machine sections.whitelist sections.blockedSubdomains

/-- After a failure the active file is what it was, and after a success the policy of the
checkpoint is enforced. -/
structure Faithful (agent : Agent) (chances : Chances) : Prop where
  unchanged : (restoreLatestCheckpoint isWordChar agent chances).2.success = false →
    (restoreLatestCheckpoint isWordChar agent chances).1.whitelist = agent.whitelist
  enforced : (restoreLatestCheckpoint isWordChar agent chances).2.success = true →
    ∀ path document, getLatestCheckpoint agent.checkpoints = some (path, document) →
      (restoreLatestCheckpoint isWordChar agent chances).1.loaded =
        some (documentPolicy isWordChar agent.machine document)

/-- Nothing of the document gets lost on the way to the policy. -/
def Complete (machine : Machine) (document : Text) : Prop :=
  let sections := (getWhitelistSectionsFromFile isWordChar document).sections
  let domains := validWhitelistDomains isWordChar document
  sections.blockedSubdomains = [] ∧
    domains.take machine.maxDomains = sections.whitelist.take machine.maxDomains ∧
    runtimeDependencies machine domains [] =
      runtimeDependencies machine sections.whitelist sections.blockedSubdomains

/-- The restore goes on to its end. -/
def Completes (chances : Chances) (document : Text) : Prop :=
  chances.copy = .written ∧ validWhitelistDomains isWordChar document ≠ [] ∧
    (∀ left, chances.update ≠ .threw left) ∧ chances.protects = true

/-- What the copy leaves in the active file is what was there. -/
def CopyHarmless (agent : Agent) (chances : Chances) (document : Text) : Prop :=
  match chances.copy with
  | .written => agent.whitelist = some document
  | .refused => True
  | .truncated => agent.whitelist = some []

/-- The proxy reads a policy that is complete, or has read one that is right. -/
def PolicyReached (agent : Agent) (chances : Chances) (document : Text) : Prop :=
  if chances.restarts then
    match chances.update with
    | .applied => Complete isWordChar agent.machine document
    | .refused left => left = some (documentPolicy isWordChar agent.machine document)
    | .threw _ => True
  else agent.loaded = some (documentPolicy isWordChar agent.machine document)

/-- When a restore does what it owes. -/
def RestoreCondition (agent : Agent) (chances : Chances) : Prop :=
  ∀ path document, getLatestCheckpoint agent.checkpoints = some (path, document) →
    (Completes isWordChar chances document → PolicyReached isWordChar agent chances document) ∧
      (¬ Completes isWordChar chances document → CopyHarmless agent chances document)

/-! ## How a restore ends -/

section Ends

variable {isWordChar} {agent : Agent} {chances : Chances} {path document : Text}

variable (isWordChar chances) in
theorem restore_of_none (h : getLatestCheckpoint agent.checkpoints = none) :
    (restoreLatestCheckpoint isWordChar agent chances).1 = agent ∧
      (restoreLatestCheckpoint isWordChar agent chances).2.success = false := by
  rw [restoreLatestCheckpoint, h]
  exact ⟨rfl, rfl⟩

theorem success_restoreProtectedMode (result : RestoreResult) (hresult : result.success = true) :
    (restoreProtectedMode agent chances result).2.success = chances.protects := by
  rw [restoreProtectedMode]
  cases chances.protects with
  | true => exact hresult
  | false => rfl

theorem whitelist_restoreProtectedMode (result : RestoreResult) :
    (restoreProtectedMode agent chances result).1.whitelist = agent.whitelist := by
  rw [restoreProtectedMode]
  cases chances.protects
  all_goals
    cases chances.restarts
    all_goals rfl

theorem loaded_restoreProtectedMode (result : RestoreResult) :
    (restoreProtectedMode agent chances result).1.loaded =
      if chances.restarts then agent.files else agent.loaded := by
  rw [restoreProtectedMode]
  cases chances.protects
  all_goals
    cases chances.restarts
    all_goals rfl

variable (isWordChar chances) in
/-- Whatever becomes of a restore, the active file is what the copy has left. -/
theorem whitelist_restore (h : getLatestCheckpoint agent.checkpoints = some (path, document)) :
    (restoreLatestCheckpoint isWordChar agent chances).1.whitelist =
      chances.copy.result agent.whitelist document := by
  rw [restoreLatestCheckpoint, h]
  dsimp only
  split
  · rfl
  · split
    · rfl
    · split
      · rw [whitelist_restoreProtectedMode]
      · rw [whitelist_restoreProtectedMode]
      · rfl

variable (isWordChar chances) in
theorem success_restore_iff (h : getLatestCheckpoint agent.checkpoints = some (path, document)) :
    (restoreLatestCheckpoint isWordChar agent chances).2.success = true ↔
      Completes isWordChar chances document := by
  have hnone : (validWhitelistDomains isWordChar document).length < 1 ↔
      validWhitelistDomains isWordChar document = [] := by
    rw [Nat.lt_one_iff, List.length_eq_zero_iff]
  rw [restoreLatestCheckpoint, h, Completes]
  dsimp only
  by_cases hcopy : chances.copy = .written
  · rw [if_neg (not_not.mpr hcopy)]
    by_cases hvalid : validWhitelistDomains isWordChar document = []
    · rw [if_pos (hnone.mpr hvalid)]
      simp [hvalid]
    · rw [if_neg (mt hnone.mp hvalid)]
      cases chances.update with
      | applied => simp [success_restoreProtectedMode, hcopy, hvalid]
      | refused left => simp [success_restoreProtectedMode, hcopy, hvalid]
      | threw left => simp [failed]
  · rw [if_pos hcopy]
    simp [hcopy, failed]

theorem loaded_restore (h : getLatestCheckpoint agent.checkpoints = some (path, document))
    (hcompletes : Completes isWordChar chances document) :
    (restoreLatestCheckpoint isWordChar agent chances).1.loaded =
      if chances.restarts then
        match chances.update with
        | .applied =>
            some (buildPolicy agent.machine (validWhitelistDomains isWordChar document) [])
        | .refused left => left
        | .threw left => left
      else agent.loaded := by
  obtain ⟨hcopy, hvalid, hthrew, -⟩ := hcompletes
  have hsome : ¬ (validWhitelistDomains isWordChar document).length < 1 := by
    rw [Nat.lt_one_iff, List.length_eq_zero_iff]
    exact hvalid
  rw [restoreLatestCheckpoint, h]
  dsimp only
  rw [if_neg (not_not.mpr hcopy), if_neg hsome]
  cases hupdate : chances.update with
  | applied => rw [loaded_restoreProtectedMode]
  | refused left => rw [loaded_restoreProtectedMode]
  | threw left => exact absurd hupdate (hthrew left)

theorem copyHarmless_iff :
    CopyHarmless agent chances document ↔
      chances.copy.result agent.whitelist document = agent.whitelist := by
  rw [CopyHarmless]
  cases chances.copy with
  | written => exact eq_comm
  | refused => exact iff_of_true trivial rfl
  | truncated => exact eq_comm

theorem listed_of_entry (type : RulesValidation.RuleType) {entry : Text}
    (hentry : entry ∈
      (getWhitelistSectionsFromFile isWordChar document).sections.get type) : Listed entry :=
  have h := isEntry_of_mem hentry
  ⟨h.nonempty, h.trimmed⟩

theorem listed_validWhitelistDomains :
    ∀ domain ∈ validWhitelistDomains isWordChar document, Listed domain := by
  intro domain hdomain
  obtain ⟨entry, hentry, rfl⟩ := List.mem_map.mp (List.mem_filter.mp hdomain).1
  have hlisted : Listed entry := listed_of_entry .whitelist hentry
  rw [hlisted.trimmed]
  exact hlisted

theorem buildPolicy_eq_documentPolicy_iff (machine : Machine) :
    buildPolicy machine (validWhitelistDomains isWordChar document) [] =
        documentPolicy isWordChar machine document ↔
      Complete isWordChar machine document :=
  buildPolicy_eq_iff machine listed_validWhitelistDomains
    (fun _ hentry => listed_of_entry .whitelist hentry)
    (fun _ hentry => listed_of_entry .blockedSubdomain hentry)

theorem policyReached_iff (h : getLatestCheckpoint agent.checkpoints = some (path, document))
    (hcompletes : Completes isWordChar chances document) :
    PolicyReached isWordChar agent chances document ↔
      (restoreLatestCheckpoint isWordChar agent chances).1.loaded =
        some (documentPolicy isWordChar agent.machine document) := by
  rw [loaded_restore h hcompletes, PolicyReached]
  by_cases hrestarts : chances.restarts = true
  · rw [if_pos hrestarts, if_pos hrestarts]
    cases hupdate : chances.update with
    | applied =>
        rw [Option.some.injEq]
        exact (buildPolicy_eq_documentPolicy_iff agent.machine).symm
    | refused left => exact Iff.rfl
    | threw left => exact absurd hupdate (hcompletes.2.2.1 left)
  · rw [if_neg hrestarts, if_neg hrestarts]

end Ends

/-- A restore does what it owes if and only if, where it goes on to its end, the policy that
the proxy then has read is complete, and where it does not, the copy has changed nothing. -/
theorem faithful_iff (agent : Agent) (chances : Chances) :
    Faithful isWordChar agent chances ↔ RestoreCondition isWordChar agent chances := by
  constructor
  · rintro ⟨hunchanged, henforced⟩ path document hlatest
    have hsuccess := success_restore_iff isWordChar chances hlatest
    constructor
    · intro hcompletes
      exact (policyReached_iff hlatest hcompletes).mpr
        (henforced (hsuccess.mpr hcompletes) path document hlatest)
    · intro hfails
      rw [copyHarmless_iff, ← whitelist_restore isWordChar chances hlatest]
      exact hunchanged (Bool.eq_false_iff.mpr (mt hsuccess.mp hfails))
  · intro hcondition
    constructor
    · intro hfailed
      cases hlatest : getLatestCheckpoint agent.checkpoints with
      | none => rw [(restore_of_none isWordChar chances hlatest).1]
      | some latest =>
          obtain ⟨path, document⟩ := latest
          have hsuccess :=
            success_restore_iff isWordChar chances hlatest
          have hfails : ¬ Completes isWordChar chances document := by
            rw [← hsuccess, hfailed]
            exact Bool.false_ne_true
          rw [whitelist_restore isWordChar chances hlatest]
          exact copyHarmless_iff.mp ((hcondition path document hlatest).2 hfails)
    · intro hsucceeded path document hlatest
      have hcompletes := (success_restore_iff isWordChar chances hlatest).mp hsucceeded
      exact (policyReached_iff hlatest hcompletes).mp
        ((hcondition path document hlatest).1 hcompletes)

/-- The update cycle sees of a restore the active file and whether it succeeded. -/
theorem restoreLatestCheckpoint_updateCycle (state : UpdateCycle.State)
    (restore : UpdateCycle.Restore) {agent : Agent} {chances : Chances}
    (hwhitelist : agent.whitelist = state.whitelist)
    (hcheckpoints : (getLatestCheckpoint agent.checkpoints).map Prod.snd = state.checkpoints.head?)
    (hcopy : chances.copy = if restore.checkpointCopied then .written else .refused)
    (hreapplied : restore.reapplied = true ↔
      (∀ left, chances.update ≠ .threw left) ∧ chances.protects = true) :
    UpdateCycle.restoreLatestCheckpoint isWordChar state restore =
      ({ state with
          whitelist := (restoreLatestCheckpoint isWordChar agent chances).1.whitelist },
        (restoreLatestCheckpoint isWordChar agent chances).2.success) := by
  obtain ⟨whitelist, etagFile, backup, checkpoints⟩ := state
  cases hlatest : getLatestCheckpoint agent.checkpoints with
  | none =>
      rw [hlatest, Option.map_none] at hcheckpoints
      obtain rfl : checkpoints = [] := List.head?_eq_none_iff.mp hcheckpoints.symm
      obtain ⟨hagent, hsuccess⟩ := restore_of_none isWordChar chances hlatest
      rw [hagent, hsuccess, hwhitelist]
      rfl
  | some latest =>
      obtain ⟨path, document⟩ := latest
      rw [hlatest, Option.map_some] at hcheckpoints
      obtain ⟨rest, rfl⟩ := List.head?_eq_some_iff.mp hcheckpoints.symm
      have hsuccess := success_restore_iff isWordChar chances hlatest
      have hvalid : validWhitelistDomains isWordChar document =
          (getWhitelistSectionsFromFile isWordChar document).sections.whitelist.filter
            testDomainFormat := by
        have htrim : (getWhitelistSectionsFromFile isWordChar document).sections.whitelist.map
            trim = (getWhitelistSectionsFromFile isWordChar document).sections.whitelist :=
          (List.map_congr_left fun entry hentry =>
            (listed_of_entry .whitelist hentry).trimmed).trans (List.map_id _)
        rw [validWhitelistDomains, htrim]
      have haccepted : UpdateCycle.checkpointAccepted isWordChar document restore = true ↔
          validWhitelistDomains isWordChar document ≠ [] ∧ restore.reapplied = true := by
        rw [UpdateCycle.checkpointAccepted, ← hvalid, Bool.and_eq_true, decide_eq_true_eq,
          ge_iff_le, Nat.one_le_iff_ne_zero, ne_eq, List.length_eq_zero_iff]
      rw [UpdateCycle.restoreLatestCheckpoint, whitelist_restore isWordChar chances hlatest, hcopy,
        hwhitelist]
      by_cases hcopied : restore.checkpointCopied = true
      · have hsame : UpdateCycle.checkpointAccepted isWordChar document restore =
            (restoreLatestCheckpoint isWordChar agent chances).2.success := by
          rw [Bool.eq_iff_iff, haccepted, hsuccess, Completes, hcopy, if_pos hcopied, hreapplied]
          simp
        simp only [hcopied, if_true, hsame]
        rfl
      · have hfailed : (restoreLatestCheckpoint isWordChar agent chances).2.success = false := by
          rw [Bool.eq_false_iff, ne_eq, hsuccess, Completes, hcopy, if_neg hcopied]
          simp
        simp only [hcopied, hfailed, Bool.false_eq_true, if_false, WriteOutcome.result]

end Restore

/-! ## A document with a blocked subdomain -/

def schoolMachine : Machine where
  configHosts := []
  captivePortalDomains := []
  maxDomains := 500
  splitDnsPortalUpstreams := []
  runtimeDependencyProtectedHosts := []
  overlay := none
  now := 0

def schoolDocument : Text :=
  "example.com\n## BLOCKED-SUBDOMAINS\nads.example.com\n".toList

def schoolAgent : Agent where
  whitelist := some "example.org\n".toList
  checkpoints := [⟨"checkpoint-1".toList, 1, some schoolDocument⟩]
  machine := schoolMachine
  files := none
  loaded := none

/-- Everything goes well. -/
def smooth : Chances where
  copy := .written
  update := .applied
  restarts := true
  protects := true
  thrown := ""

theorem restoreLatestCheckpoint_updateCycle_smooth :
    let state := ⟨schoolAgent.whitelist, none, none, [schoolDocument]⟩
    UpdateCycle.restoreLatestCheckpoint Ascii.isWordChar state ⟨true, true, true, true⟩ =
      ({ state with
          whitelist :=
            (restoreLatestCheckpoint Ascii.isWordChar schoolAgent smooth).1.whitelist },
        (restoreLatestCheckpoint Ascii.isWordChar schoolAgent smooth).2.success) :=
  restoreLatestCheckpoint_updateCycle _ _ _ rfl (by decide +kernel) rfl
    ⟨fun _ => ⟨fun _ => UpdateOutcome.noConfusion, rfl⟩, fun _ => rfl⟩

/-- The restore succeeds, and the blocked subdomain is no longer blocked. -/
theorem restored_without_blocked :
    ¬ Faithful Ascii.isWordChar schoolAgent smooth := by
  intro h
  have hlatest : getLatestCheckpoint schoolAgent.checkpoints =
      some ("checkpoint-1".toList, schoolDocument) := by
    decide +kernel
  have hvalid : validWhitelistDomains Ascii.isWordChar schoolDocument ≠ [] := by
    decide +kernel
  have hcompletes : Completes Ascii.isWordChar smooth schoolDocument :=
    ⟨rfl, hvalid, fun _ => UpdateOutcome.noConfusion, rfl⟩
  have henforced :=
    h.enforced ((success_restore_iff _ _ hlatest).mpr hcompletes) _ _ hlatest
  have hcomplete : Complete Ascii.isWordChar schoolMachine schoolDocument :=
    (policyReached_iff hlatest hcompletes).mpr henforced
  have hblocked : (getWhitelistSectionsFromFile Ascii.isWordChar
      schoolDocument).sections.blockedSubdomains ≠ [] := by
    decide
  exact hblocked hcomplete.1

end OpenPath.Windows.CheckpointRestore
