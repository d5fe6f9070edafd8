/-
# The AppLocker transactions of the Windows agent

`Set-OpenPathNonAdminAppControl` and `Remove-OpenPathNonAdminAppControl` change the local
AppLocker policy under a machine mutex. Each change has a directory with the policies
before it, the candidate and a `state.json` that goes from state to state, and each run
first resolves what an earlier run has left. The policy, the journals and the security
fields of `config.json` are three stores, written one after the other.

A step is a call that is done, or fails, or the process dies in it, before or after its
effect; a step that changes none of the three stores is one only to fail or to die. What
the cmdlets, SHA-256 and the XML library do is a structure.
-/

import OpenPath.Foundation.Executions
import Mathlib.Data.List.Sort

namespace OpenPath.Windows.AppControl

open Foundation

/-- A GUID. Its text has a fixed length, so that texts are in the order of numbers. -/
abbrev Guid := Nat

/-- What the module takes from Windows and .NET. -/
structure Cmdlets (Xml Hash Form : Type) where
  sha256 : Xml → Hash
  /-- `ConvertTo-OpenPathCanonicalPolicyXml`, unless it throws. -/
  canonical : Xml → Option Form
  /-- What `Get-AppLockerPolicy -Local -Xml` reads after `Set-AppLockerPolicy`. -/
  stored : Xml → Xml
  /-- The policy less the rules of OpenPath, as `Remove-OpenPathNonAdminAppControl` makes it. -/
  withoutManaged : Xml → Xml

variable {Xml Hash Form : Type}

/-- `Compare-OpenPathAppLockerPolicyXml`, which is false of what has no canonical form. -/
def Cmdlets.compare [DecidableEq Form] (cmdlets : Cmdlets Xml Hash Form) (expected actual : Xml) :
    Bool :=
  (cmdlets.canonical expected).isSome &&
    decide (cmdlets.canonical expected = cmdlets.canonical actual)

/-! ## The configuration -/

inductive Profile
  | managedBrowserCompatibility
  | strictApplicationAllowlist
  deriving DecidableEq

inductive Mode
  | auditOnly
  | enforced
  deriving DecidableEq

/-- A member of `config.json` that is to name a value. -/
inductive Configured (Value : Type)
  | blank
  | unknown
  | value (value : Value)
  deriving DecidableEq

inductive CommitState
  | none
  | pending
  | committed
  deriving DecidableEq

/-- The members that a transaction owns, each of which may be absent. -/
structure Security where
  appControlCommitState : Option CommitState
  activeAppControlProfile : Option Profile
  appControlTransactionId : Option Guid
  deriving DecidableEq

structure Config where
  appControlProfile : Configured Profile
  nonAdminAppControlMode : Configured Mode
  security : Security
  deriving DecidableEq

/-! ## The journals -/

inductive State
  | prepared
  | applyAttempted
  | applied
  | validated
  | committed
  | rollbackAttempted
  | rolledBack
  | aborted
  | recoveryRequired
  deriving DecidableEq

/-- `$script:TerminalStates` -/
def State.isTerminal (state : State) : Bool :=
  state ∈ [.committed, .rolledBack, .aborted]

inductive ReasonCode
  | appcontrolRecoveryRequired
  | appcontrolRollbackVerificationFailed
  | appcontrolCommitMetadataInvalid
  deriving DecidableEq

inductive Operation
  | apply
  | remove
  deriving DecidableEq

/-- The files of a transaction: `before-local.xml`, `before-effective.xml`,
`candidate.xml` and `state.json`. -/
inductive FileName
  | beforeLocal
  | beforeEffective
  | candidate
  | state
  deriving DecidableEq

/-- A file in the directory of a transaction. -/
structure FilePath where
  directory : Guid
  name : FileName
  deriving DecidableEq

structure ConfigurationMetadata where
  requireConfigCommit : Option Bool
  commitVerified : Option Bool
  profile : Option Profile
  mode : Option Mode
  before : Option Security
  deriving DecidableEq

/-- The content of `state.json`, less its times. -/
structure StateFile (Hash : Type) where
  schemaVersion : Nat
  transactionId : Guid
  operation : Operation
  state : State
  beforeLocal : FilePath
  beforeEffective : FilePath
  candidate : FilePath
  stateFile : FilePath
  beforeLocalSha256 : Hash
  beforeEffectiveSha256 : Hash
  candidateSha256 : Option Hash
  applyAttempted : Bool
  internalRollbackSucceeded : Bool
  reasonCodes : List ReasonCode
  configurationMetadata : ConfigurationMetadata
  deriving DecidableEq

/-- The directory of a transaction, with the files that are there. -/
structure Directory (Xml Hash : Type) where
  id : Guid
  beforeLocal : Option Xml
  beforeEffective : Option Xml
  candidate : Option Xml
  state : Option (StateFile Hash)
  deriving DecidableEq

/-- The three stores: the local policy, `config.json` where it can be read, and the
directories of the transactions in the order of their creation. -/
structure Machine (Xml Hash : Type) where
  policy : Xml
  config : Option Config
  journals : List (Directory Xml Hash)

def Machine.directory (machine : Machine Xml Hash) (id : Guid) : Option (Directory Xml Hash) :=
  machine.journals.find? fun directory => directory.id == id

section Reading

variable [DecidableEq Hash] (cmdlets : Cmdlets Xml Hash Form)

/-- A file is there with the recorded hash. -/
def hasHash (file : Option Xml) (hash : Hash) : Bool :=
  file.any fun content => decide (cmdlets.sha256 content = hash)

/-- The candidate is there with the hash that is recorded, once it has to be. -/
def candidateFits (directory : Directory Xml Hash) (current : StateFile Hash) : Bool :=
  match current.candidateSha256 with
  | some hash => hasHash cmdlets directory.candidate hash
  | none => current.state = .prepared && directory.candidate.isNone

/-- `Get-OpenPathTransactionStateObject`, unless it throws `appcontrol_recovery_required`. -/
def Directory.readState (directory : Directory Xml Hash) : Option (StateFile Hash) :=
  directory.state.filter fun current =>
    current.schemaVersion = 2 &&
    current.stateFile = { directory := directory.id, name := .state } &&
    current.beforeLocal = { directory := directory.id, name := .beforeLocal } &&
    current.beforeEffective = { directory := directory.id, name := .beforeEffective } &&
    current.candidate = { directory := directory.id, name := .candidate } &&
    hasHash cmdlets directory.beforeLocal current.beforeLocalSha256 &&
    hasHash cmdlets directory.beforeEffective current.beforeEffectiveSha256 &&
    candidateFits cmdlets directory current

def Machine.readState (machine : Machine Xml Hash) (id : Guid) : Option (StateFile Hash) :=
  (machine.directory id).bind (Directory.readState cmdlets)

end Reading

/-! ## Calls -/

/-- The steps of the recovery of a journal that are no writes of its state. -/
inductive RecoveryPoint
  | readPolicy
  | readSnapshots
  | applyBefore
  | verifyBefore
  | readConfig
  | writeConfig
  deriving DecidableEq

/-- Where in a run a step is. -/
inductive Point
  | enterTransaction
  | recovery (id : Guid) (point : RecoveryPoint)
  | readIntent
  | syncRestrictedGroup
  | backUpPolicy
  | readPolicy
  | generatePolicy
  | readEffectivePolicy
  | createRoot
  | saveCandidate
  | applyCandidate
  | startServices
  | validate
  | readback
  | writeDiagnostic
  | readCommitConfig
  | writeCommitConfig
  | verifyCommitConfig
  | log
  | readTransaction
  | readBefore
  | applyBefore
  | verifyBefore
  | readRestoreConfig
  | writeRestoreConfig
  | writeFinalDiagnostic
  deriving DecidableEq

inductive Call (Xml Hash : Type)
  /-- A step that changes none of the stores. -/
  | step (point : Point)
  | createDirectory (id : Guid)
  /-- `Write-OpenPathTransactionCreateNew` -/
  | createFile (path : FilePath) (content : Xml)
  /-- `Write-OpenPathTransactionAtomic` of `state.json` -/
  | writeState (id : Guid) (content : StateFile Hash)
  /-- `Set-AppLockerPolicy` -/
  | setPolicy (point : Point) (policy : Xml)
  | writeConfig (point : Point) (config : Config)
  deriving DecidableEq

/-- Changes the directory of a transaction. -/
def Machine.edit (machine : Machine Xml Hash) (id : Guid)
    (change : Directory Xml Hash → Directory Xml Hash) : Machine Xml Hash :=
  { machine with
    journals := machine.journals.map fun directory =>
      if directory.id = id then change directory else directory }

/-- The content of a file that is no `state.json`. -/
def Directory.file (directory : Directory Xml Hash) : FileName → Option Xml
  | .beforeLocal => directory.beforeLocal
  | .beforeEffective => directory.beforeEffective
  | .candidate => directory.candidate
  | .state => none

def Directory.addFile (directory : Directory Xml Hash) (name : FileName) (content : Xml) :
    Directory Xml Hash :=
  match name with
  | .beforeLocal => { directory with beforeLocal := some content }
  | .beforeEffective => { directory with beforeEffective := some content }
  | .candidate => { directory with candidate := some content }
  | .state => directory

def Directory.empty (id : Guid) : Directory Xml Hash :=
  { id := id, beforeLocal := none, beforeEffective := none, candidate := none, state := none }

/-- What a call does. An existing directory is left alone, a file that exists is not
created again, and a text that is no policy is not set. -/
def perform (cmdlets : Cmdlets Xml Hash Form) :
    Call Xml Hash → Machine Xml Hash → Option (Machine Xml Hash)
  | .step _, machine => some machine
  | .createDirectory id, machine =>
      if (machine.directory id).isSome then some machine
      else some { machine with journals := machine.journals ++ [.empty id] }
  | .createFile path content, machine =>
      if ((machine.directory path.directory).bind fun found => found.file path.name).isSome then
        none
      else some (machine.edit path.directory fun found => found.addFile path.name content)
  | .writeState id content, machine =>
      some (machine.edit id fun found => { found with state := some content })
  | .setPolicy _ policy, machine =>
      (cmdlets.canonical policy).map fun _ => { machine with policy := cmdlets.stored policy }
  | .writeConfig _ config, machine => some { machine with config := some config }

/-- A call fails, or the process dies in it, before its effect or after it. -/
def stores (cmdlets : Cmdlets Xml Hash Form) :
    Interface (Machine Xml Hash) (Call Xml Hash) Unit where
  perform := perform cmdlets
  advance := fun request _ machine => (perform cmdlets request machine).getD machine

/-- What an error says about the variables of the function that catches it: whether
`Set-AppLockerPolicy` has returned, and whether the failure has its diagnostic. -/
inductive Raised
  | unapplied
  | policyApplied
  | diagnosed
  deriving DecidableEq

abbrev JournalProgram (Xml Hash Result : Type) :=
  Program (Machine Xml Hash) (Call Xml Hash) Raised Result

def check (condition : Bool) (raised : Raised) : JournalProgram Xml Hash Unit :=
  if condition then .done () else .throw raised

def ofOption {Value : Type} (raised : Raised) : Option Value → JournalProgram Xml Hash Value
  | some value => .done value
  | none => .throw raised

/-! ## Transitions -/

/-- `Test-OpenPathTransactionTransition` -/
def testTransition (source target : State) : Bool :=
  match source with
  | .prepared => target ∈ [.applyAttempted, .aborted]
  | .applyAttempted => target ∈ [.applied, .rollbackAttempted, .recoveryRequired]
  | .applied => target ∈ [.validated, .rollbackAttempted, .recoveryRequired]
  | .validated => target ∈ [.committed, .rollbackAttempted, .recoveryRequired]
  | .rollbackAttempted => target ∈ [.rolledBack, .recoveryRequired]
  | .committed | .rolledBack | .aborted | .recoveryRequired => false

/-- What a transition changes in `state.json`. -/
def StateFile.move (current : StateFile Hash) (state : State) (reasonCodes : List ReasonCode) :
    StateFile Hash :=
  { current with
    state := state
    applyAttempted := state ∉ [.prepared, .aborted]
    reasonCodes := if reasonCodes = [] then current.reasonCodes else reasonCodes }

section Transactions

variable [DecidableEq Hash] [DecidableEq Form] (cmdlets : Cmdlets Xml Hash Form)

/-- `Get-OpenPathTransactionStateObject` -/
def readStateObject (id : Guid) (raised : Raised) : JournalProgram Xml Hash (StateFile Hash) :=
  .look fun machine => ofOption raised (machine.readState cmdlets id)

/-- `Set-OpenPathAppControlTransactionState` -/
def setTransactionState (id : Guid) (state : State) (reasonCodes : List ReasonCode)
    (raised : Raised) : JournalProgram Xml Hash (StateFile Hash) := do
  let current ← readStateObject cmdlets id raised
  check (testTransition current.state state || current.state = state) raised
  Program.perform (.writeState id (current.move state reasonCodes)) raised
  return current.move state reasonCodes

/-- `$normalizedMetadata` -/
def normalizedMetadata (operation : Operation) (given : ConfigurationMetadata) :
    ConfigurationMetadata :=
  let required := given.requireConfigCommit.getD (operation = .apply)
  { given with
    requireConfigCommit := some required
    commitVerified := if required && given.commitVerified.isNone then some false
      else given.commitVerified }

/-- The first content of `state.json`. -/
def preparedState (id : Guid) (operation : Operation) (before effective : Xml)
    (metadata : ConfigurationMetadata) : StateFile Hash where
  schemaVersion := 2
  transactionId := id
  operation := operation
  state := .prepared
  beforeLocal := { directory := id, name := .beforeLocal }
  beforeEffective := { directory := id, name := .beforeEffective }
  candidate := { directory := id, name := .candidate }
  stateFile := { directory := id, name := .state }
  beforeLocalSha256 := cmdlets.sha256 before
  beforeEffectiveSha256 := cmdlets.sha256 effective
  candidateSha256 := none
  applyAttempted := false
  internalRollbackSucceeded := false
  reasonCodes := []
  configurationMetadata := normalizedMetadata operation metadata

/-- `New-OpenPathAppControlTransaction` -/
def newTransaction (id : Guid) (operation : Operation) (before effective : Xml)
    (metadata : ConfigurationMetadata) : JournalProgram Xml Hash (StateFile Hash) := do
  Program.perform (.step .createRoot) .unapplied
  Program.perform (.createDirectory id) .unapplied
  Program.perform (.createFile { directory := id, name := .beforeLocal } before) .unapplied
  Program.perform (.createFile { directory := id, name := .beforeEffective } effective) .unapplied
  Program.perform (.writeState id (preparedState cmdlets id operation before effective metadata))
    .unapplied
  return preparedState cmdlets id operation before effective metadata

/-- `Write-OpenPathAppControlTransactionCandidate` -/
def writeCandidate (id : Guid) (candidate : Xml) : JournalProgram Xml Hash Unit := do
  let current ← readStateObject cmdlets id .unapplied
  check (current.state = .prepared) .unapplied
  Program.perform (.createFile { directory := id, name := .candidate } candidate) .unapplied
  Program.perform
    (.writeState id { current with candidateSha256 := some (cmdlets.sha256 candidate) }) .unapplied

/-- What the confirmation of a commit changes in `state.json`. -/
def StateFile.verified (current : StateFile Hash) : StateFile Hash :=
  { current with
    configurationMetadata := { current.configurationMetadata with commitVerified := some true } }

/-- The metadata name what was committed. -/
def ConfigurationMetadata.names (metadata : ConfigurationMetadata) : Bool :=
  metadata.profile.isSome && metadata.mode.isSome

/-- `Confirm-OpenPathAppControlTransactionConfigurationCommit` -/
def confirmCommit (id : Guid) : JournalProgram Xml Hash Unit := do
  let current ← readStateObject cmdlets id .policyApplied
  check (current.configurationMetadata.requireConfigCommit = some true &&
    current.configurationMetadata.names) .policyApplied
  Program.perform (.writeState id current.verified) .policyApplied

/-! ## Rollback -/

/-- The catch block of a rollback. -/
def giveUp (id : Guid) (raised : Raised) : JournalProgram Xml Hash Unit :=
  (setTransactionState cmdlets id .recoveryRequired
    [.appcontrolRecoveryRequired] raised).attempt.bind fun _ => .done ()

/-- `Get-Content` of the snapshot before the transaction. -/
def readBefore (id : Guid) (raised : Raised) : JournalProgram Xml Hash Xml := do
  Program.perform (.step .readBefore) raised
  let before ← Program.observe fun machine : Machine Xml Hash =>
    (machine.directory id).bind Directory.beforeLocal
  ofOption raised before

/-- The end of a rollback, once the policy is read back. -/
def finishRollback (id : Guid) (same : Bool) (raised : Raised) : JournalProgram Xml Hash Bool :=
  if same then do
    let state ← setTransactionState cmdlets id .rolledBack [] raised
    Program.perform (.writeState id { state with internalRollbackSucceeded := true }) raised
    return true
  else do
    let _ ← setTransactionState cmdlets id .recoveryRequired
      [.appcontrolRollbackVerificationFailed] raised
    return false

/-- The try block of a rollback. -/
def restoreBefore (id : Guid) (raised : Raised) : JournalProgram Xml Hash Bool := do
  let before ← readBefore id raised
  Program.perform (.setPolicy .applyBefore before) raised
  Program.perform (.step .verifyBefore) raised
  let readback ← Program.observe fun machine : Machine Xml Hash => machine.policy
  finishRollback cmdlets id (cmdlets.compare before readback) raised

/-- `Invoke-OpenPathAppControlTransactionRollback` -/
def invokeRollback (id : Guid) (raised : Raised) : JournalProgram Xml Hash Bool :=
  (setTransactionState cmdlets id .rollbackAttempted [] raised).attempt.bind fun attempted =>
    match attempted with
    | .error _ => .done false
    | .ok _ =>
        (restoreBefore cmdlets id raised).catching fun _ =>
          (giveUp cmdlets id raised).bind fun _ => .done false

/-- The configuration with its security fields as they were before the transaction. -/
def Config.restored (config : Config) (before : Security) : Config :=
  { config with security := before }

/-- `Restore-OpenPathAppControlSecurityConfig` -/
def restoreSecurityConfig (metadata : ConfigurationMetadata) (reading writing : Point)
    (raised : Raised) : JournalProgram Xml Hash Unit :=
  match metadata.requireConfigCommit, metadata.before with
  | some true, some before => do
      Program.perform (.step reading) raised
      let config ← Program.observe fun machine : Machine Xml Hash => machine.config
      let current ← ofOption raised config
      Program.perform (.writeConfig writing (current.restored before)) raised
  | _, _ => .done ()

/-! ## Recovery -/

/-- What is pending: a journal, or what cannot be resolved. -/
inductive Item (Hash : Type)
  | journal (state : StateFile Hash)
  | recoveryRequired (id : Guid) (reasonCode : ReasonCode)
  deriving DecidableEq

/-- A committed transaction that is to have committed its configuration has done so. -/
def ConfigurationMetadata.isCommitted (metadata : ConfigurationMetadata) : Bool :=
  metadata.requireConfigCommit ≠ some true ||
    (metadata.commitVerified = some true && metadata.names)

/-- What the `state.json` of a directory leaves to do. -/
def Directory.pendingState (directory : Directory Xml Hash) : Option (Item Hash) :=
  directory.state.bind fun _ =>
    match directory.readState cmdlets with
    | none => some (.recoveryRequired directory.id .appcontrolRecoveryRequired)
    | some current =>
        if current.state = .committed && !current.configurationMetadata.isCommitted then
          some (.recoveryRequired current.transactionId .appcontrolCommitMetadataInvalid)
        else if current.state.isTerminal then none
        else some (.journal current)

/-- A directory without `state.json`. -/
def Directory.withoutState (directory : Directory Xml Hash) : Option (Item Hash) :=
  if directory.state.isNone then
    some (.recoveryRequired directory.id .appcontrolRecoveryRequired)
  else none

/-- `Get-OpenPathAppControlPendingRecovery` -/
def pendingRecovery (machine : Machine Xml Hash) : List (Item Hash) :=
  let listed := machine.journals.insertionSort fun first second => first.id ≤ second.id
  listed.filterMap (Directory.pendingState cmdlets) ++ listed.filterMap Directory.withoutState

/-- `Get-Content` of the two snapshots that the policy is compared with. -/
def readSnapshots (id : Guid) : JournalProgram Xml Hash (Xml × Xml) := do
  Program.perform (.step (.recovery id .readSnapshots)) .unapplied
  let directory ← Program.observe fun machine : Machine Xml Hash => machine.directory id
  let before ← ofOption .unapplied (directory.bind Directory.beforeLocal)
  let candidate ← ofOption .unapplied (directory.bind Directory.candidate)
  return (before, candidate)

/-- `& $RestoreConfiguration $item`, where the caller gives it. -/
def restoreConfiguration (restores : Bool) (item : StateFile Hash) : JournalProgram Xml Hash Unit :=
  if restores then
    restoreSecurityConfig item.configurationMetadata (.recovery item.transactionId .readConfig)
      (.recovery item.transactionId .writeConfig) .unapplied
  else .done ()

/-- The try block of the recovery of a journal. -/
def resolveItem (restores : Bool) (item : StateFile Hash) : JournalProgram Xml Hash Unit := do
  let id := item.transactionId
  Program.perform (.step (.recovery id .readPolicy)) .unapplied
  let current ← Program.observe fun machine : Machine Xml Hash => machine.policy
  let snapshots ← readSnapshots id
  check (cmdlets.compare snapshots.1 current || cmdlets.compare snapshots.2 current) .unapplied
  let _ ← setTransactionState cmdlets id .rollbackAttempted [.appcontrolRecoveryRequired] .unapplied
  Program.perform (.setPolicy (.recovery id .applyBefore) snapshots.1) .unapplied
  Program.perform (.step (.recovery id .verifyBefore)) .unapplied
  let readback ← Program.observe fun machine : Machine Xml Hash => machine.policy
  check (cmdlets.compare snapshots.1 readback) .unapplied
  restoreConfiguration restores item
  let _ ← setTransactionState cmdlets id .rolledBack [.appcontrolRecoveryRequired] .unapplied
  return ()

/-- The states whose journals the recovery rolls back. -/
def State.isInterrupted (state : State) : Bool :=
  state ∈ [.applyAttempted, .applied, .validated, .rollbackAttempted]

/-- One round of the loop over what is pending, with what it leaves unresolved. -/
def recoverItem (restores : Bool) : Item Hash → JournalProgram Xml Hash (Option (Item Hash))
  | .recoveryRequired id reasonCode => .done (some (.recoveryRequired id reasonCode))
  | .journal item =>
      let unresolved := Item.recoveryRequired item.transactionId .appcontrolRecoveryRequired
      if item.state = .prepared then
        (setTransactionState cmdlets item.transactionId .aborted [] .unapplied).attempt.bind
          fun aborted => .done (if aborted.toBool then none else some unresolved)
      else if item.state.isInterrupted then
        ((resolveItem cmdlets restores item).bind fun _ => .done none).catching fun _ =>
          (giveUp cmdlets item.transactionId .unapplied).bind fun _ => .done (some unresolved)
      else .done (some (.journal item))

def recoverItems (restores : Bool) : List (Item Hash) → JournalProgram Xml Hash (List (Item Hash))
  | [] => .done []
  | item :: items => do
      let unresolved ← recoverItem cmdlets restores item
      let others ← recoverItems restores items
      return unresolved.toList ++ others

/-- `Invoke-OpenPathAppControlTransactionRecovery`, with what it leaves unresolved. -/
def recovery (restores : Bool) : JournalProgram Xml Hash (List (Item Hash)) :=
  .look fun machine => recoverItems cmdlets restores (pendingRecovery cmdlets machine)

/-! ## Setting the policy -/

/-- What a run of `Set-OpenPathNonAdminAppControl` is given, and what it meets. -/
structure SetRun (Xml : Type) where
  /-- `[guid]::NewGuid()` -/
  transactionId : Guid
  profile : Profile
  mode : Mode
  /-- The merged policy for the current one, unless its making or a preflight check throws. -/
  generate : Xml → Option Xml
  /-- `Get-AppLockerPolicy -Effective -Xml` -/
  effective : Xml
  /-- `Test-OpenPathNonAdminAppControlActive` -/
  healthy : Bool

/-- The configuration names the profile and the mode of the run. -/
def SetRun.isIntended (run : SetRun Xml) (config : Config) : Bool :=
  config.appControlProfile = .value run.profile && config.nonAdminAppControlMode = .value run.mode

/-- The installed intent, which has to be that of the run. -/
def readIntent (run : SetRun Xml) : JournalProgram Xml Hash Config := do
  Program.perform (.step .readIntent) .unapplied
  let installed ← Program.observe fun machine : Machine Xml Hash => machine.config
  let config ← ofOption .unapplied installed
  check (run.isIntended config) .unapplied
  return config

/-- `$effectivePolicyText` -/
def readEffectivePolicy (effective current : Xml) : JournalProgram Xml Hash Xml :=
  .call (.step .readEffectivePolicy) (.done effective) (.done current)

/-- The configuration that `Set-OpenPathAppControlCommittedConfig` writes. -/
def SetRun.committedConfig (run : SetRun Xml) (config : Config) : Option Config :=
  if config.appControlProfile = .value run.profile &&
      (config.nonAdminAppControlMode = .blank ||
        config.nonAdminAppControlMode = .value run.mode) then
    some { config with
      security :=
        { appControlCommitState := some .committed
          activeAppControlProfile := some run.profile
          appControlTransactionId := some run.transactionId } }
  else none

/-- The readback shows the commit. -/
def SetRun.showsCommit (run : SetRun Xml) (readback : Option Config) : Bool :=
  readback.any fun config =>
    config.security.appControlCommitState = some .committed &&
      config.security.activeAppControlProfile = some run.profile &&
      config.security.appControlTransactionId = some run.transactionId

/-- `Set-OpenPathAppControlCommittedConfig` -/
def setCommittedConfig (run : SetRun Xml) : JournalProgram Xml Hash Unit := do
  Program.perform (.step .readCommitConfig) .policyApplied
  let installed ← Program.observe fun machine : Machine Xml Hash => machine.config
  let config ← ofOption .policyApplied (installed.bind run.committedConfig)
  Program.perform (.writeConfig .writeCommitConfig config) .policyApplied
  Program.perform (.step .verifyCommitConfig) .policyApplied
  let readback ← Program.observe fun machine : Machine Xml Hash => machine.config
  check (run.showsCommit readback) .policyApplied

/-- The candidate is recorded and applied. -/
def applyCandidate (id : Guid) (candidate : Xml) : JournalProgram Xml Hash Unit := do
  writeCandidate cmdlets id candidate
  let _ ← setTransactionState cmdlets id .applyAttempted [] .unapplied
  Program.perform (.step .saveCandidate) .unapplied
  Program.perform (.setPolicy .applyCandidate candidate) .unapplied
  let _ ← setTransactionState cmdlets id .applied [] .policyApplied
  return ()

/-- The rollback after a failed validation. -/
def refuse (transaction : StateFile Hash) : JournalProgram Xml Hash Bool := do
  Program.perform (.step .writeDiagnostic) .diagnosed
  let _ ← (do
    let _ ← invokeRollback cmdlets transaction.transactionId .diagnosed
    restoreSecurityConfig transaction.configurationMetadata .readRestoreConfig .writeRestoreConfig
      .diagnosed).attempt
  Program.perform (.step .writeFinalDiagnostic) .diagnosed
  return false

/-- What follows a successful validation. -/
def commit (run : SetRun Xml) : JournalProgram Xml Hash Bool := do
  let _ ← setTransactionState cmdlets run.transactionId .validated [] .policyApplied
  setCommittedConfig run
  confirmCommit cmdlets run.transactionId
  let _ ← setTransactionState cmdlets run.transactionId .committed [] .policyApplied
  Program.perform (.step .log) .policyApplied
  return true

/-- The transaction, once its directory is there. -/
def applyTransaction (run : SetRun Xml) (transaction : StateFile Hash) (candidate : Xml) :
    JournalProgram Xml Hash Bool := do
  applyCandidate cmdlets run.transactionId candidate
  Program.perform (.step .startServices) .policyApplied
  Program.perform (.step .validate) .policyApplied
  if run.healthy then commit cmdlets run else refuse cmdlets transaction

/-- `Get-OpenPathAppControlTransaction`, which is null without `state.json`. -/
def getTransaction (id : Guid) (raised : Raised) :
    JournalProgram Xml Hash (Option (StateFile Hash)) := do
  Program.perform (.step .readTransaction) raised
  let found ← Program.observe fun machine : Machine Xml Hash =>
    (machine.directory id).bind Directory.state
  if found.isNone then return none
  else
    let current ← readStateObject cmdlets id raised
    return some current

/-- An unapplied transaction is aborted. -/
def abortPrepared (id : Guid) (current : Option (StateFile Hash)) (raised : Raised) :
    JournalProgram Xml Hash Unit :=
  if current.map StateFile.state = some .prepared then do
    let _ ← setTransactionState cmdlets id .aborted [] raised
    return ()
  else .done ()

/-- The journal that the catch block reads makes a rollback necessary. -/
def inspectTransaction (id : Guid) (raised : Raised) : JournalProgram Xml Hash Bool := do
  let current ← getTransaction cmdlets id raised
  abortPrepared cmdlets id current raised
  return decide (raised = .policyApplied) || current.any fun found => found.state.isInterrupted

/-- `$rollbackRequired` -/
def rollbackRequired (id : Guid) (raised : Raised) : JournalProgram Xml Hash Bool :=
  (inspectTransaction cmdlets id raised).catching fun _ => .done true

/-- The rollback in the catch block, where it is required. -/
def rollBackTransaction (transaction : StateFile Hash) (required : Bool) (raised : Raised) :
    JournalProgram Xml Hash Bool :=
  if required then do
    let _ ← invokeRollback cmdlets transaction.transactionId raised
    let _ ← (restoreSecurityConfig transaction.configurationMetadata .readRestoreConfig
      .writeRestoreConfig raised).attempt
    return false
  else .done false

/-- The catch block, once there is a transaction. -/
def recoverFailure (transaction : StateFile Hash) (raised : Raised) :
    JournalProgram Xml Hash Bool :=
  if raised = .diagnosed then .done false
  else do
    let required ← rollbackRequired cmdlets transaction.transactionId raised
    rollBackTransaction cmdlets transaction required raised

/-- `@{ profile = $Profile; mode = $Mode; RequireConfigCommit = $true; Before = … }` -/
def SetRun.metadata (run : SetRun Xml) (config : Config) : ConfigurationMetadata where
  requireConfigCommit := some true
  commitVerified := none
  profile := some run.profile
  mode := some run.mode
  before := some config.security

/-- What comes before the transaction: the intent, the current policy, the candidate and
the effective policy. -/
def prepareSet (run : SetRun Xml) : JournalProgram Xml Hash (Config × Xml × Xml × Xml) := do
  Program.perform (.step .enterTransaction) .unapplied
  let unresolved ← recovery cmdlets true
  check unresolved.isEmpty .unapplied
  let config ← readIntent run
  Program.perform (.step .syncRestrictedGroup) .unapplied
  Program.perform (.step .readPolicy) .unapplied
  let current ← Program.observe fun machine : Machine Xml Hash => machine.policy
  Program.perform (.step .backUpPolicy) .unapplied
  Program.perform (.step .generatePolicy) .unapplied
  let candidate ← ofOption .unapplied (run.generate current)
  let effective ← readEffectivePolicy run.effective current
  return (config, current, candidate, effective)

/-- `Set-OpenPathNonAdminAppControl`, once its preconditions hold. -/
def setAppControl (run : SetRun Xml) : JournalProgram Xml Hash Bool :=
  (do
    let prepared ← prepareSet cmdlets run
    let transaction ← newTransaction cmdlets run.transactionId .apply prepared.2.1
      prepared.2.2.2 (run.metadata prepared.1)
    (applyTransaction cmdlets run transaction prepared.2.2.1).catching
      (recoverFailure cmdlets transaction)).catching fun _ => .done false

/-! ## Removing the rules -/

/-- What a run of `Remove-OpenPathNonAdminAppControl` meets. -/
structure RemoveRun (Xml : Type) where
  transactionId : Guid
  effective : Xml

def RemoveRun.metadata : ConfigurationMetadata where
  requireConfigCommit := none
  commitVerified := none
  profile := none
  mode := none
  before := none

/-- The transaction, once its directory is there. -/
def removeTransaction (id : Guid) (candidate : Xml) : JournalProgram Xml Hash Bool := do
  applyCandidate cmdlets id candidate
  Program.perform (.step .readback) .policyApplied
  let readback ← Program.observe fun machine : Machine Xml Hash => machine.policy
  check (cmdlets.compare candidate readback) .policyApplied
  let _ ← setTransactionState cmdlets id .validated [] .policyApplied
  let _ ← setTransactionState cmdlets id .committed [] .policyApplied
  Program.perform (.step .log) .policyApplied
  return true

/-- What the catch block does with the journal that it has read. -/
def settleRemoval (id : Guid) (current : Option (StateFile Hash)) (raised : Raised) :
    JournalProgram Xml Hash Unit :=
  if current.any fun found => found.state.isInterrupted then
    (invokeRollback cmdlets id raised).bind fun _ => .done ()
  else abortPrepared cmdlets id current raised

/-- The catch block, once there is a transaction. -/
def recoverRemoval (id : Guid) (raised : Raised) : JournalProgram Xml Hash Bool :=
  (do
    let current ← getTransaction cmdlets id raised
    settleRemoval cmdlets id current raised
    return false).catching fun _ => .done false

/-- What comes before the transaction: the current and the effective policy. -/
def prepareRemove (run : RemoveRun Xml) : JournalProgram Xml Hash (Xml × Xml) := do
  Program.perform (.step .enterTransaction) .unapplied
  let unresolved ← recovery cmdlets false
  check unresolved.isEmpty .unapplied
  Program.perform (.step .readPolicy) .unapplied
  let current ← Program.observe fun machine : Machine Xml Hash => machine.policy
  let effective ← readEffectivePolicy run.effective current
  return (current, effective)

/-- `Remove-OpenPathNonAdminAppControl`, once its preconditions hold. -/
def removeAppControl (run : RemoveRun Xml) : JournalProgram Xml Hash Bool :=
  (do
    let prepared ← prepareRemove cmdlets run
    let _ ← newTransaction cmdlets run.transactionId .remove prepared.1 prepared.2
      RemoveRun.metadata
    (removeTransaction cmdlets run.transactionId (cmdlets.withoutManaged prepared.1)).catching
      (recoverRemoval cmdlets run.transactionId)).catching fun _ => .done false

end Transactions

end OpenPath.Windows.AppControl
