/-
# Values of the policy store

Setting a value replaces its first entry in `Registry.pol`, or adds one. What was there
before the first write is recorded in the ledger first, and removing the value puts it back.
Both work out what to write from what they have read, and start again when the file was
replaced meanwhile.
-/

import OpenPath.Windows.PolicyStore

namespace OpenPath.Windows.PolicyStore

open Foundation RegistryPol

/-! ## Setting -/

structure SetCall where
  target : Target
  value : PolicyValue
  releaseOriginal : Bool := false
  lookup : OwnerLookup

/-- What a round takes over from the one before. -/
structure SetState where
  ledger : Ledger
  confirmed : Bool

/-- What is left to be done when the merge is over. -/
structure Merged where
  ledger : Ledger
  changed : Bool

/-- `$PSCmdlet.ShouldProcess`, once. -/
def confirm {Result : Type} (result : Result) (confirmed : Bool) : Work Result Unit :=
  if confirmed then .done () else .call .shouldProcess (.done ()) (.throw (some result))

/-- The ledger is written before the file, and only when it has no original yet. -/
def recordOriginal (upper : UInt16 → UInt16) (call : SetCall) (result : StoreResult)
    (ledger : Ledger) (entries : List Entry) : Work StoreResult Ledger :=
  if call.releaseOriginal ∨ (ledger.original upper call.target).isSome then .done ledger
  else
    .call
      (.writeLedger (ledger.setOriginal upper call.target
        (some (originalOf (entries.find? (call.target.isEntry upper))))))
      (.done (ledger.setOriginal upper call.target
        (some (originalOf (entries.find? (call.target.isEntry upper))))))
      (.throw (some (result.failed .ledgerWriteFailed)))

def afterSet (result : StoreResult) (ledger : Ledger) :
    Saved → Work StoreResult (Round SetState Merged)
  | .conflict => .done (.again ⟨ledger, true⟩)
  | .failed code => .throw (some (result.failed code))
  | .written (some code) => .throw (some ({ result with changed := true }.failed code))
  | .written none => .done (.ends ⟨ledger, true⟩)

/-- The part of a round behind the snapshot and the confirmation. -/
def mergeValue (upper : UInt16 → UInt16) (call : SetCall) (result : StoreResult)
    (ledger : Ledger) (snapshot : Snapshot) : Work StoreResult (Round SetState Merged) :=
  if setEntry upper call.target (convertToData call.value) snapshot.entries = snapshot.entries then
    .done (.ends ⟨ledger, false⟩)
  else do
    let ledger ← recordOriginal upper call result ledger snapshot.entries
    let saved ← saveEntries
      (setEntry upper call.target (convertToData call.value) snapshot.entries) snapshot.bytes
    afterSet result ledger saved

def setRound (upper : UInt16 → UInt16) (call : SetCall) (result : StoreResult)
    (state : SetState) : Work StoreResult (Round SetState Merged) := do
  let snapshot ← readSnapshot (result.failed .localGpoUnreadable)
  confirm result state.confirmed
  mergeValue upper call result state.ledger snapshot

/-- The conversion in `Set-OpenPathPolicyRegistryValue`; `[int]` takes no larger number. -/
def typedValue : PolicyValue → Option RegistryValue
  | .dWord number => if isInt32 number then some (registryValue (.dWord number)) else none
  | value => some (registryValue value)

/-- `Set-OpenPathPolicyRegistryValue` -/
def setRegistryValue {Result : Type} (target : Target) (value : Option RegistryValue)
    (failure : Result) : Work Result Unit :=
  match value with
  | none => .throw (some failure)
  | some value =>
      .call (.setRegistryValue target.key target.valueName value) (.done ()) (.throw (some failure))

/-- The ledger forgets the original; a ledger that cannot be written is not an error. -/
def forgetOriginal {Result : Type} (upper : UInt16 → UInt16) (target : Target) (ledger : Ledger) :
    Work Result Unit :=
  if (ledger.original upper target).isSome then
    .call (.writeLedger (ledger.setOriginal upper target none)) (.done ()) (.done ())
  else .done ()

def releaseOriginal (upper : UInt16 → UInt16) (call : SetCall) (ledger : Ledger) :
    Work StoreResult Unit :=
  if call.releaseOriginal then forgetOriginal upper call.target ledger else .done ()

/-- The part behind the loop. -/
def finishSet (upper : UInt16 → UInt16) (call : SetCall) (result : StoreResult) :
    Option Merged → Work StoreResult StoreResult
  | none => .throw (some (result.failed .localGpoBusy))
  | some merged => do
      setRegistryValue call.target (typedValue call.value)
        ({ result with changed := merged.changed }.failed .registryWriteFailed)
      releaseOriginal upper call merged.ledger
      return { result with applied := true, changed := merged.changed }

/-- What is done with the lock held. -/
def setBehindGate (upper : UInt16 → UInt16) (call : SetCall) (gate : Gate) :
    Work StoreResult StoreResult :=
  match gate.failureCode with
  | some code => .throw (some { owner := gate.owner, failureCode := some code })
  | none => do
      let ledger ← readLedger
      let merged ← Program.retry (setRound upper call { owner := gate.owner }) maxWriteAttempts
        ⟨ledger, false⟩
      finishSet upper call { owner := gate.owner } merged

/-- `Set-OpenPathManagedPolicyValue` -/
def setManagedPolicyValue (upper : UInt16 → UInt16) (call : SetCall) :
    Work StoreResult StoreResult :=
  .call .enterLock
    (match getPolicyStoreGate call.lookup with
      | none => .throw none
      | some gate => setBehindGate upper call gate)
    (.throw (some { failureCode := some .localGpoBusy }))

/-! ## Removing -/

structure RemoveCall where
  target : Target
  discardOriginal : Bool := false
  keepRegistryValue : Bool := false
  lookup : OwnerLookup

/-- `$original`, as far as it is put back. -/
def RemoveCall.restores (upper : UInt16 → UInt16) (call : RemoveCall) (ledger : Ledger) :
    Option PolicyData :=
  if call.discardOriginal then none else (ledger.original upper call.target).bind Original.data

/-- The entries that are written. -/
def keptEntries (upper : UInt16 → UInt16) (target : Target) (restored : Option PolicyData)
    (entries : List Entry) : List Entry :=
  match restored with
  | none => otherEntries upper target entries
  | some data => restoreEntry upper target data entries

def afterRemove (result : RemoveResult) : Saved → Work RemoveResult (Round Unit RemoveResult)
  | .conflict => .done (.again ())
  | .failed code => .throw (some (result.failed code))
  | .written code => .done (.ends { result with removed := true, failureCode := code })

def mergeRemoved (upper : UInt16 → UInt16) (call : RemoveCall) (restored : Option PolicyData)
    (snapshot : Snapshot) : Work RemoveResult (Round Unit RemoveResult) :=
  if keptEntries upper call.target restored snapshot.entries = snapshot.entries then
    .done (.ends {})
  else do
    let saved ← saveEntries (keptEntries upper call.target restored snapshot.entries)
      snapshot.bytes
    afterRemove {} saved

def removeRound (upper : UInt16 → UInt16) (call : RemoveCall) (restored : Option PolicyData)
    (_ : Unit) : Work RemoveResult (Round Unit RemoveResult) := do
  let snapshot ← readSnapshot (({} : RemoveResult).failed .localGpoUnreadable)
  mergeRemoved upper call restored snapshot

/-- `Remove-OpenPathPolicyRegistryValue` and what becomes of the result. -/
def removeRegistryValue (upper : UInt16 → UInt16) (call : RemoveCall) (result : RemoveResult) :
    Work RemoveResult RemoveResult :=
  .look fun store =>
    if (store.properties upper call.target.key).any fun property =>
        testPolicyNameEqual upper property.name call.target.valueName then
      .call (.removeRegistryValue call.target.key call.target.valueName)
        (.done { result with removed := true })
        (.throw (some (result.failed .registryWriteFailed)))
    else .done result

/-- Where nothing is put into the registry, its value goes, unless the caller keeps it. -/
def clearMirror (upper : UInt16 → UInt16) (call : RemoveCall) (result : RemoveResult) :
    Work RemoveResult RemoveResult :=
  if call.keepRegistryValue then .done result else removeRegistryValue upper call result

/-- The registry gets what `Registry.pol` got, where it has a type for it. -/
def mirrorRemoved (upper : UInt16 → UInt16) (call : RemoveCall) (restored : Option PolicyData)
    (result : RemoveResult) : Work RemoveResult RemoveResult :=
  match restored with
  | none => clearMirror upper call result
  | some data =>
      if isInt32 data.type = false then .throw (some (result.failed .registryWriteFailed))
      else if hasTypeName data.type then do
        setRegistryValue call.target ((convertFromData data).map registryValue)
          (result.failed .registryWriteFailed)
        return { result with restored := true }
      else clearMirror upper call { result with restored := true }

def finishRemove (upper : UInt16 → UInt16) (call : RemoveCall) (ledger : Ledger)
    (restored : Option PolicyData) : Option RemoveResult → Work RemoveResult RemoveResult
  | none => .throw (some (({} : RemoveResult).failed .localGpoBusy))
  | some result => do
      let mirrored ← mirrorRemoved upper call restored result
      forgetOriginal upper call.target ledger
      return mirrored

def removeBehindGate (upper : UInt16 → UInt16) (call : RemoveCall) :
    Work RemoveResult RemoveResult := do
  let ledger ← readLedger
  let merged ← Program.retry (removeRound upper call (call.restores upper ledger))
    maxWriteAttempts ()
  finishRemove upper call ledger (call.restores upper ledger) merged

/-- `Remove-OpenPathManagedPolicyValue` -/
def removeManagedPolicyValue (upper : UInt16 → UInt16) (call : RemoveCall) :
    Work RemoveResult RemoveResult :=
  .call .enterLock
    (match getPolicyStoreGate call.lookup with
      | none => .throw none
      | some gate =>
          match gate.failureCode with
          | some code => .throw (some (({} : RemoveResult).failed code))
          | none => removeBehindGate upper call)
    (.throw (some (({} : RemoveResult).failed .localGpoBusy)))

end OpenPath.Windows.PolicyStore
