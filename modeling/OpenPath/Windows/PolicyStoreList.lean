/-
# Lists of the policy store

A list is a key whose values have numbers for names. The ledger says which of its texts are
the agent's; entries with other texts are foreign and stay. The agent's entries follow the
highest foreign number, at the place of the ones that they replace, and the registry is made
to agree with the file by differences.
-/

import OpenPath.Windows.PolicyStoreValue

namespace OpenPath.Windows.PolicyStore

open Foundation RegistryPol

/-! ## Numbers -/

/-- The tables of the system, and what they leave alone. -/
structure Characters where
  upper : UInt16 → UInt16
  isDigit : UInt16 → Bool
  isDigit_upper : ∀ unit, isDigit (upper unit) = isDigit unit
  isHighSurrogate_upper : ∀ unit, Utf16.isHighSurrogate (upper unit) = Utf16.isHighSurrogate unit
  isLowSurrogate_upper : ∀ unit, Utf16.isLowSurrogate (upper unit) = Utf16.isLowSurrogate unit
  upper_replacement : upper Utf16.replacement = Utf16.replacement
  isDigit_of_ascii : ∀ unit, 48 ≤ unit → unit ≤ 57 → isDigit unit = true
  upper_eq_iff : ∀ unit other, other < 64 → (upper unit = other ↔ unit = other)

def isAsciiDigit (unit : UInt16) : Bool := 48 ≤ unit && unit ≤ 57

/-- What the end of a pattern, or of a number, leaves out. -/
def withoutNewline (name : Utf16) : Utf16 :=
  if name.getLast? = some 10 then name.dropLast else name

/-- `-match '^\\d+$'` -/
def isNumbered (characters : Characters) (name : Utf16) : Bool :=
  withoutNewline name != [] && (withoutNewline name).all characters.isDigit

/-- `[int]::MaxValue` -/
def maxInt : Nat := 2 ^ 31 - 1

def decimalValue (digits : Utf16) : Nat :=
  digits.foldl (fun value unit => 10 * value + (unit.toNat - 48)) 0

/-- `[int]::TryParse` of a name that is numbered. -/
def tryParse (name : Utf16) : Option Nat :=
  if (withoutNewline name).all isAsciiDigit ∧ decimalValue (withoutNewline name) ≤ maxInt then
    some (decimalValue (withoutNewline name))
  else none

/-- `[string]$n`, also where the counter has become a floating-point number. -/
def numberName (n : Nat) : Utf16 := (Nat.toDigits 10 n).map fun c => UInt16.ofNat c.toNat

/-! ## Entries -/

/-- The text of an entry of type `REG_SZ`. -/
def textOf (entry : Entry) : Option Utf16 :=
  if entry.type = 1 then some ((Utf16.getString entry.data).rdropWhile (· == 0)) else none

section Classification

variable (characters : Characters) (key : Utf16)

def isListKey (entry : Entry) : Bool := testPolicyKeyEqual characters.upper entry.key key

/-- `$isNumbered` -/
def isListEntry (entry : Entry) : Bool :=
  isListKey characters key entry && isNumbered characters entry.valueName

/-- An entry that is the agent's, by its text. -/
def isOwned (owned : List Utf16) (entry : Entry) : Bool :=
  isListEntry characters key entry && testPolicyValueInSet characters.upper owned (textOf entry)

/-- `$merged`, before anything is added. -/
def foreignEntries (owned : List Utf16) (entries : List Entry) : List Entry :=
  entries.filter fun entry => !isOwned characters key owned entry

def foreignTexts (owned : List Utf16) (entries : List Entry) : List Utf16 :=
  ((foreignEntries characters key owned entries).filter (isListEntry characters key)).filterMap
    textOf

/-- `$maxForeign` -/
def maxForeign (owned : List Utf16) (entries : List Entry) : Nat :=
  (((foreignEntries characters key owned entries).filter (isListEntry characters key)).filterMap
    fun entry => tryParse entry.valueName).foldl max 0

/-- The place of the first owned entry, or behind the last entry of the key, or the end. No
entry before the first owned one is left out. -/
def insertAt (owned : List Utf16) (entries : List Entry) : Nat :=
  match entries.findIdx? (isOwned characters key owned) with
  | some index => index
  | none =>
      if entries.any (isListKey characters key) then
        (entries.rdropWhile fun entry => !isListKey characters key entry).length
      else entries.length

/-- `$newOwned`: the texts that no foreign entry holds, each of them once. -/
def newOwned (foreign : List Utf16) (requested : List Utf16) : List Utf16 :=
  requested.foldl
    (fun owned value =>
      if testPolicyValueInSet characters.upper foreign (some value) then owned
      else if testPolicyValueInSet characters.upper owned (some value) then owned
      else owned ++ [value])
    []

/-- `$added` -/
def addedEntries (from_ : Nat) : List Utf16 → List Entry
  | [] => []
  | value :: values =>
      (⟨key, numberName (from_ + 1)⟩ : Target).entry (convertToData (.string value)) ::
        addedEntries (from_ + 1) values

/-- `$union` -/
def unionOwned (stored new : List Utf16) : List Utf16 :=
  new.foldl
    (fun union value =>
      if testPolicyValueInSet characters.upper union (some value) then union
      else union ++ [value])
    stored

/-- What a round works out. -/
structure ListPlan where
  owned : List Utf16
  entries : List Entry

def listPlan (owned requested : List Utf16) (entries : List Entry) : ListPlan where
  owned := newOwned characters (foreignTexts characters key owned entries) requested
  entries :=
    (foreignEntries characters key owned entries).take (insertAt characters key owned entries) ++
      addedEntries key (maxForeign characters key owned entries)
        (newOwned characters (foreignTexts characters key owned entries) requested) ++
      (foreignEntries characters key owned entries).drop (insertAt characters key owned entries)

end Classification

/-! ## Synchronising -/

structure SyncCall where
  key : Utf16
  values : List Utf16
  lookup : OwnerLookup
  pruneUnownedRegistryValues : Bool := false

/-- `$ledger.Lists[$Key]`; the key is not trimmed. -/
def Ledger.list (upper : UInt16 → UInt16) (ledger : Ledger) (key : Utf16) :
    Option (List Utf16) :=
  ledger.lists (fold upper key)

def Ledger.setList (upper : UInt16 → UInt16) (ledger : Ledger) (key : Utf16)
    (values : Option (List Utf16)) : Ledger :=
  { ledger with lists := Function.update ledger.lists (fold upper key) values }

structure SyncState where
  ledger : Ledger
  storedOwned : List Utf16
  confirmed : Bool

/-- What the loop leaves to the rest. -/
structure Synced where
  ledger : Ledger
  storedOwned : List Utf16
  plan : ListPlan
  changed : Bool

section Synchronising

variable (characters : Characters)

/-- The ledger holds the old and the new texts before the file can hold the new ones. -/
def storeUnion (call : SyncCall) (result : StoreResult) (state : SyncState) (plan : ListPlan) :
    Work StoreResult SyncState :=
  if (unionOwned characters state.storedOwned plan.owned).length = state.storedOwned.length then
    .done { state with confirmed := true }
  else
    .call
      (.writeLedger (state.ledger.setList characters.upper call.key
        (some (unionOwned characters state.storedOwned plan.owned))))
      (.done
        { ledger := state.ledger.setList characters.upper call.key
            (some (unionOwned characters state.storedOwned plan.owned))
          storedOwned := unionOwned characters state.storedOwned plan.owned
          confirmed := true })
      (.throw (some (result.failed .ledgerWriteFailed)))

def afterSync (result : StoreResult) (state : SyncState) (plan : ListPlan) :
    Saved → Work StoreResult (Round SyncState Synced)
  | .conflict => .done (.again state)
  | .failed code => .throw (some (result.failed code))
  | .written (some code) => .throw (some ({ result with changed := true }.failed code))
  | .written none => .done (.ends ⟨state.ledger, state.storedOwned, plan, true⟩)

/-- The part of a round behind the snapshot and the classification. -/
def mergeList (call : SyncCall) (result : StoreResult) (state : SyncState) (snapshot : Snapshot)
    (plan : ListPlan) : Work StoreResult (Round SyncState Synced) := do
  confirm result state.confirmed
  let state ← storeUnion characters call result state plan
  if plan.entries = snapshot.entries then
    .done (.ends ⟨state.ledger, state.storedOwned, plan, false⟩)
  else do
    let saved ← saveEntries plan.entries snapshot.bytes
    afterSync result state plan saved

/-- The classification throws on a type that `[int]` does not take. -/
def syncRound (call : SyncCall) (owned : List Utf16) (result : StoreResult) (state : SyncState) :
    Work StoreResult (Round SyncState Synced) := do
  let snapshot ← readSnapshot (result.failed .localGpoUnreadable)
  if snapshot.entries.all fun entry =>
      !isListEntry characters call.key entry || isInt32 entry.type then
    mergeList characters call result state snapshot
      (listPlan characters call.key owned call.values snapshot.entries)
  else .throw none

/-- `-join "`n"` -/
def joinLines (lines : List Utf16) : Utf16 := [10].intercalate lines

/-- The ledger is cut down to the new texts; when that fails, nothing is said. -/
def narrowLedger (call : SyncCall) (synced : Synced) : Work StoreResult Unit :=
  if testPolicyNameEqual characters.upper (joinLines synced.storedOwned)
      (joinLines synced.plan.owned) then .done ()
  else
    .call
      (.writeLedger (synced.ledger.setList characters.upper call.key
        (if synced.plan.owned = [] then none else some synced.plan.owned)))
      (.done ()) (.done ())

/-- The values that the registry is to have, the last one of each name. -/
def desiredProperties (key : Utf16) (entries : List Entry) : Option (List Property) :=
  ((entries.filter (isListEntry characters key)).filter
      fun entry => !isInt32 entry.type || hasTypeName entry.type).foldlM
    (fun desired entry =>
      if isInt32 entry.type then
        (convertFromData (policyData entry)).map fun value =>
          setProperty characters.upper entry.valueName (registryValue value) desired
      else none)
    []

def findProperty (name : Utf16) (properties : List Property) : Option Property :=
  properties.find? fun property => testPolicyNameEqual characters.upper property.name name

/-- `[string](@($value) | Select-Object -First 1)` -/
def firstText (value : RegistryValue) : Utf16 := value.texts.headD []

/-- Whether a numbered value of the registry goes. -/
def isSurplus (call : SyncCall) (union : List Utf16) (desired : List Property)
    (property : Property) : Bool :=
  isNumbered characters property.name && (findProperty characters property.name desired).isNone &&
    (testPolicyValueInSet characters.upper union (some (firstText property.value)) ||
      call.pruneUnownedRegistryValues)

/-- Whether a desired value is in the registry already. -/
def isCurrent (current : List Property) (property : Property) : Bool :=
  match findProperty characters property.name current with
  | none => false
  | some found => joinLines found.value.texts == joinLines property.value.texts

def removeSurplus (key : Utf16) (result : StoreResult) (property : Property) :
    Work StoreResult Unit :=
  .call (.removeRegistryValue key property.name) (.done ())
    (.throw (some (result.failed .registryWriteFailed)))

def setDesired (key : Utf16) (result : StoreResult) (property : Property) :
    Work StoreResult Unit :=
  .call (.setRegistryValue key property.name property.value) (.done ())
    (.throw (some (result.failed .registryWriteFailed)))

/-- The mirror of the list in the registry. -/
def mirrorList (call : SyncCall) (result : StoreResult) (synced : Synced) :
    Work StoreResult Unit :=
  match desiredProperties characters call.key synced.plan.entries with
  | none => .throw (some (result.failed .registryWriteFailed))
  | some desired => do
      let current ← Program.observe fun store =>
        (store.properties characters.upper call.key).filter fun property =>
          isNumbered characters property.name
      Program.forEach
        (current.filter (isSurplus characters call synced.storedOwned desired))
        (removeSurplus call.key result)
      Program.forEach (desired.filter fun property => !isCurrent characters current property)
        (setDesired call.key result)

def finishSync (call : SyncCall) (result : StoreResult) :
    Option Synced → Work StoreResult StoreResult
  | none => .throw (some (result.failed .localGpoBusy))
  | some synced => do
      narrowLedger characters call synced
      mirrorList characters call { result with changed := synced.changed } synced
      return { result with applied := true, changed := synced.changed }

def syncBehindGate (call : SyncCall) (gate : Gate) : Work StoreResult StoreResult :=
  match gate.failureCode with
  | some code => .throw (some { owner := gate.owner, failureCode := some code })
  | none => do
      let ledger ← readLedger
      let synced ← Program.retry
        (syncRound characters call ((ledger.list characters.upper call.key).getD [])
          { owner := gate.owner })
        maxWriteAttempts ⟨ledger, (ledger.list characters.upper call.key).getD [], false⟩
      finishSync characters call { owner := gate.owner } synced

/-- `Sync-OpenPathManagedPolicyList` -/
def syncManagedPolicyList (call : SyncCall) : Work StoreResult StoreResult :=
  .call .enterLock
    (match getPolicyStoreGate call.lookup with
      | none => .throw none
      | some gate => syncBehindGate characters call gate)
    (.throw (some { failureCode := some .localGpoBusy }))

end Synchronising

/-! ## Removing -/

structure RemoveListCall where
  key : Utf16
  lookup : OwnerLookup

section Removing

variable (characters : Characters)

def afterRemoveList : Saved → Work RemoveResult (Round Unit RemoveResult)
  | .conflict => .done (.again ())
  | .failed code => .throw (some (({} : RemoveResult).failed code))
  | .written code => .done (.ends { removed := true, failureCode := code })

def removeListRound (call : RemoveListCall) (owned : List Utf16) (_ : Unit) :
    Work RemoveResult (Round Unit RemoveResult) := do
  let snapshot ← readSnapshot (({} : RemoveResult).failed .localGpoUnreadable)
  if snapshot.entries.all fun entry =>
      !isListEntry characters call.key entry || isInt32 entry.type then
    if (foreignEntries characters call.key owned snapshot.entries).length =
        snapshot.entries.length then
      .done (.ends {})
    else do
      let saved ← saveEntries (foreignEntries characters call.key owned snapshot.entries)
        snapshot.bytes
      afterRemoveList saved
  else .throw none

/-- A failure here is reported, and the ledger is cleared nevertheless. -/
def removeProperties (key : Utf16) (result : RemoveResult) :
    List Property → Work RemoveResult RemoveResult
  | [] => .done result
  | property :: properties =>
      .call (.removeRegistryValue key property.name)
        (removeProperties key { result with removed := true } properties)
        (.done (result.failed .registryWriteFailed))

def clearList (call : RemoveListCall) (ledger : Ledger) (result : RemoveResult) :
    Work RemoveResult RemoveResult :=
  if (ledger.list characters.upper call.key).isSome then
    .call (.writeLedger (ledger.setList characters.upper call.key none)) (.done result)
      (.done { result with
        failureCode := result.failureCode.or (some .ledgerWriteFailed) })
  else .done result

def finishRemoveList (call : RemoveListCall) (ledger : Ledger) (owned : List Utf16) :
    Option RemoveResult → Work RemoveResult RemoveResult
  | none => .throw (some (({} : RemoveResult).failed .localGpoBusy))
  | some result => do
      let properties ← Program.observe fun store =>
        (store.properties characters.upper call.key).filter fun property =>
          isNumbered characters property.name &&
            testPolicyValueInSet characters.upper owned (some (firstText property.value))
      let mirrored ← removeProperties call.key result properties
      clearList characters call ledger mirrored

def removeListBehindGate (call : RemoveListCall) : Work RemoveResult RemoveResult := do
  let ledger ← readLedger
  let merged ← Program.retry
    (removeListRound characters call ((ledger.list characters.upper call.key).getD []))
    maxWriteAttempts ()
  finishRemoveList characters call ledger ((ledger.list characters.upper call.key).getD []) merged

/-- `Remove-OpenPathManagedPolicyList` -/
def removeManagedPolicyList (call : RemoveListCall) : Work RemoveResult RemoveResult :=
  .call .enterLock
    (match getPolicyStoreGate call.lookup with
      | none => .throw none
      | some gate =>
          match gate.failureCode with
          | some code => .throw (some (({} : RemoveResult).failed code))
          | none => removeListBehindGate characters call)
    (.throw (some (({} : RemoveResult).failed .localGpoBusy)))

end Removing

end OpenPath.Windows.PolicyStore
