/-
# The policy store

The agent writes its policies into the `Registry.pol` of the local Group Policy, steps the
version in `gpt.ini` so that they are applied again, and mirrors them in the registry. What
was there before is kept in a ledger. A write is computed from the bytes that were read, and
the file is only replaced while it still holds them; otherwise the merge starts again.

Names are compared without capitals, by the table of the system.
-/

import OpenPath.Foundation.Retry
import OpenPath.Windows.RegistryPolFile

namespace OpenPath.Windows.PolicyStore

open Foundation RegistryPol

/-! ## Names -/

/-- What is left of a name for a comparison with `OrdinalIgnoreCase`. -/
def fold (upper : UInt16 → UInt16) (name : Utf16) : Utf16 := name.map upper

def backslash : UInt16 := 0x5c

def bar : UInt16 := 0x7c

/-- `$Key.Trim('\')` -/
def trimKey (key : Utf16) : Utf16 := Foundation.trim (· == backslash) key

/-- `Test-OpenPathPolicyNameEqual` -/
def testPolicyNameEqual (upper : UInt16 → UInt16) (first second : Utf16) : Bool :=
  fold upper first == fold upper second

/-- `Test-OpenPathPolicyKeyEqual` -/
def testPolicyKeyEqual (upper : UInt16 → UInt16) (first second : Utf16) : Bool :=
  testPolicyNameEqual upper (trimKey first) (trimKey second)

/-- `Test-OpenPathPolicyValueInSet` -/
def testPolicyValueInSet (upper : UInt16 → UInt16) (set : List Utf16) : Option Utf16 → Bool
  | none => false
  | some text => set.any fun item => testPolicyNameEqual upper item text

/-! ## Data -/

/-- The values that the store writes, and reads back. -/
inductive PolicyValue
  | string (text : Utf16)
  | multiString (lines : List Utf16)
  | dWord (number : UInt32)
  deriving DecidableEq

/-- The type and the data of an entry. -/
structure PolicyData where
  type : UInt32
  data : Bytes
  deriving DecidableEq

/-- `ConvertTo-OpenPathRegistryPolData` -/
def convertToData : PolicyValue → PolicyData
  | .string text => ⟨1, Utf16.getBytes (text ++ [0])⟩
  | .multiString lines => ⟨7, Utf16.getBytes (lines.flatMap (· ++ [0]) ++ [0])⟩
  | .dWord number => ⟨4, littleEndian 4 number.toNat⟩

/-- `text.Split([char]0)` without the empty parts at its end. -/
def splitLines (text : Utf16) : List Utf16 := (text.splitOn 0).rdropWhile (· == [])

/-- `ConvertFrom-OpenPathRegistryPolData`, where it does not throw. -/
def convertFromData (data : PolicyData) : Option PolicyValue :=
  if data.type = 1 then some (.string ((Utf16.getString data.data).rdropWhile (· == 0)))
  else if data.type = 7 then some (.multiString (splitLines (Utf16.getString data.data)))
  else if data.type = 4 then
    if data.data.length < 4 then none
    else some (.dWord (UInt32.ofNat (ofLittleEndian (data.data.take 4))))
  else none

/-- The types that `[int]` takes. -/
def isInt32 (type : UInt32) : Bool := type < 0x80000000

/-- `Get-OpenPathPolicyTypeName`, as far as whether there is a name. -/
def hasTypeName (type : UInt32) : Bool := type = 1 || type = 7 || type = 4

/-! ## Entries -/

/-- The value that a call is about. -/
structure Target where
  key : Utf16
  valueName : Utf16
  deriving DecidableEq

def policyData (entry : Entry) : PolicyData := ⟨entry.type, entry.data⟩

def withData (entry : Entry) (data : PolicyData) : Entry :=
  { entry with type := data.type, data := data.data }

/-- An entry for the value, as the store adds it. -/
def Target.entry (target : Target) (data : PolicyData) : Entry where
  key := trimKey target.key
  valueName := target.valueName
  type := data.type
  data := data.data

/-- Whether an entry is one of the value. -/
def Target.isEntry (upper : UInt16 → UInt16) (target : Target) (entry : Entry) : Bool :=
  testPolicyKeyEqual upper entry.key target.key &&
    testPolicyNameEqual upper entry.valueName target.valueName

/-- The first entry of the value gets the data; where there is none, one is added. -/
def setEntry (upper : UInt16 → UInt16) (target : Target) (data : PolicyData) :
    List Entry → List Entry
  | [] => [target.entry data]
  | entry :: entries =>
      if target.isEntry upper entry then withData entry data :: entries
      else entry :: setEntry upper target data entries

/-- The entries of other values. -/
def otherEntries (upper : UInt16 → UInt16) (target : Target) (entries : List Entry) :
    List Entry :=
  entries.filter fun entry => !target.isEntry upper entry

/-- The entries of the value. -/
def valueEntries (upper : UInt16 → UInt16) (target : Target) (entries : List Entry) :
    List Entry :=
  entries.filter fun entry => target.isEntry upper entry

/-- All entries of the value go; the first of them, or one at the end, gets the original. -/
def restoreEntry (upper : UInt16 → UInt16) (target : Target) (data : PolicyData) :
    List Entry → List Entry
  | [] => [target.entry data]
  | entry :: entries =>
      if target.isEntry upper entry then
        withData entry data :: otherEntries upper target entries
      else entry :: restoreEntry upper target data entries

/-! ## The ledger -/

/-- What `Registry.pol` held for a value before the store wrote it. -/
inductive Original
  | inPol (data : PolicyData)
  | absent
  deriving DecidableEq

def Original.data : Original → Option PolicyData
  | .inPol data => some data
  | .absent => none

def originalOf : Option Entry → Original
  | some entry => .inPol (policyData entry)
  | none => .absent

/-- The ledger. A hashtable does not look at capitals: it is a function of folded names. -/
structure Ledger where
  lists : Utf16 → Option (List Utf16)
  originals : Utf16 → Option Original

def Ledger.empty : Ledger := ⟨fun _ => none, fun _ => none⟩

/-- `Get-OpenPathPolicyStoreOriginalId`, folded. -/
def originalId (upper : UInt16 → UInt16) (target : Target) : Utf16 :=
  fold upper (trimKey target.key ++ [bar] ++ target.valueName)

def Ledger.original (upper : UInt16 → UInt16) (ledger : Ledger) (target : Target) :
    Option Original :=
  ledger.originals (originalId upper target)

def Ledger.setOriginal (upper : UInt16 → UInt16) (ledger : Ledger) (target : Target)
    (original : Option Original) : Ledger :=
  { ledger with originals := Function.update ledger.originals (originalId upper target) original }

/-! ## The machine -/

/-- A registry value: its type, and what it consists of as texts. -/
structure RegistryValue where
  type : UInt32
  texts : List Utf16
  deriving DecidableEq

structure Property where
  name : Utf16
  value : RegistryValue
  deriving DecidableEq

/-- A text of ASCII characters. -/
def ofString (text : String) : Utf16 := text.toList.map fun c => UInt16.ofNat c.toNat

/-- `[int][BitConverter]::ToInt32` -/
def int32 (number : UInt32) : Int :=
  if number < 0x80000000 then number.toNat else (number.toNat : Int) - 0x100000000

/-- What `New-ItemProperty` stores for a value. -/
def registryValue : PolicyValue → RegistryValue
  | .string text => ⟨1, [text]⟩
  | .multiString lines => ⟨7, lines⟩
  | .dWord number => ⟨4, [ofString (toString (int32 number))]⟩

/-- The values below a key. -/
abbrev Registry := Utf16 → List Property

def foldKey (upper : UInt16 → UInt16) (key : Utf16) : Utf16 := fold upper (trimKey key)

def setProperty (upper : UInt16 → UInt16) (name : Utf16) (value : RegistryValue) :
    List Property → List Property
  | [] => [⟨name, value⟩]
  | property :: properties =>
      if testPolicyNameEqual upper property.name name then { property with value } :: properties
      else property :: setProperty upper name value properties

def removeProperty (upper : UInt16 → UInt16) (name : Utf16) (properties : List Property) :
    List Property :=
  properties.filter fun property => !testPolicyNameEqual upper property.name name

/-- The version that `Step-OpenPathLocalGpoMachineVersion` writes: the lower half counts, and
never becomes zero. -/
def stepVersion : Option UInt32 → UInt32
  | none => 1
  | some version =>
      if version % 0x10000 = 0xffff then version - version % 0x10000 + 1 else version + 1

/-- What the store did to the files of the Group Policy. -/
inductive Trace
  | replaced (before : Option Bytes) (ledger : Ledger) (after : Bytes)
  /-- A replacement that failed after the old file was taken away. -/
  | lost
  | stepped

structure Store where
  /-- `Registry.pol` -/
  pol : Option Bytes
  /-- The version in `gpt.ini`. -/
  version : Option UInt32
  ledger : Ledger
  /-- What `Registry.pol` held when the ledger was written last. -/
  recordedPol : Option Bytes
  /-- A ledger that cannot be read is taken for an empty one. -/
  ledgerReadable : Bool
  registry : Registry
  /-- Newest first. -/
  trace : List Trace

inductive StoreCall
  | enterLock
  | shouldProcess
  | readPol
  | readBeforeReplace
  | writeLedger (ledger : Ledger)
  | replacePol (entries : List Entry)
  | stepVersion
  | setRegistryValue (key name : Utf16) (value : RegistryValue)
  | removeRegistryValue (key name : Utf16)

/-- What happens beside the store, or of its own calls when they fail. -/
inductive StoreEvent
  | otherWriter (pol : Option Bytes)
  | ledgerReads (readable : Bool)
  | replaced
  | lost
  | stepped

/-- A file that holds the entries already is not replaced once more. -/
def Store.replace (store : Store) (entries : List Entry) : Store :=
  if store.pol = some (content entries) then store
  else
    { store with
      pol := some (content entries)
      trace := .replaced store.pol store.ledger (content entries) :: store.trace }

def Store.lose (store : Store) : Store :=
  { store with pol := none, trace := .lost :: store.trace }

def Store.writeLedger (store : Store) (ledger : Ledger) : Store :=
  { store with ledger, recordedPol := store.pol }

def Store.step (store : Store) : Store :=
  { store with version := some (stepVersion store.version), trace := .stepped :: store.trace }

def Store.properties (upper : UInt16 → UInt16) (store : Store) (key : Utf16) : List Property :=
  store.registry (foldKey upper key)

def Store.setProperties (upper : UInt16 → UInt16) (store : Store) (key : Utf16)
    (properties : List Property) : Store :=
  { store with registry := Function.update store.registry (foldKey upper key) properties }

/-- What the calls do. Other writers replace the file before it is read and before it is
checked; when they do so at another time, a later call sees the same. -/
def machine (upper : UInt16 → UInt16) : Interface Store StoreCall StoreEvent where
  perform
    | .enterLock, store => some store
    | .shouldProcess, store => some store
    | .readPol, store => some store
    | .readBeforeReplace, store => some store
    | .writeLedger ledger, store => some (store.writeLedger ledger)
    | .replacePol entries, store =>
        if (content entries).length ≤ streamLimit then some (store.replace entries) else none
    | .stepVersion, store => some store.step
    | .setRegistryValue key name value, store =>
        some (store.setProperties upper key
          (setProperty upper name value (store.properties upper key)))
    | .removeRegistryValue key name, store =>
        some (store.setProperties upper key
          (removeProperty upper name (store.properties upper key)))
  advance
    | .enterLock, .ledgerReads readable, store => { store with ledgerReadable := readable }
    | .readPol, .otherWriter pol, store => { store with pol }
    | .readBeforeReplace, .otherWriter pol, store => { store with pol }
    | .replacePol entries, .replaced, store =>
        if (content entries).length ≤ streamLimit then store.replace entries else store
    | .replacePol _, .lost, store => store.lose
    | .stepVersion, .stepped, store => store.step
    | _, _, store => store

/-! ## Results -/

inductive FailureCode
  | localGpoBusy
  | localGpoUnreadable
  | policyExternallyManaged
  | ledgerWriteFailed
  | localGpoWriteFailed
  | gptIniBumpFailed
  | registryWriteFailed
  deriving DecidableEq

inductive OwnerKind
  | domainGpo
  | mdm
  | localGpo
  | unknown
  | nobody
  deriving DecidableEq

structure Owner where
  kind : OwnerKind
  gpoName : Utf16
  deriving DecidableEq

/-- What `Get-OpenPathPolicyValueOwner` finds, or how it throws. -/
inductive OwnerLookup
  | found (owner : Owner)
  | unreadable
  | throws

structure Gate where
  failureCode : Option FailureCode := none
  owner : Option Owner := none

/-- `Get-OpenPathPolicyStoreGate`; a gate is blocked when it has a failure code. -/
def getPolicyStoreGate : OwnerLookup → Option Gate
  | .found owner =>
      if owner.kind = .domainGpo ∨ owner.kind = .mdm then
        some { failureCode := some .policyExternallyManaged, owner := some owner }
      else some { owner := some owner }
  | .unreadable => some { failureCode := some .localGpoUnreadable }
  | .throws => none

/-- `New-OpenPathPolicyStoreResult`; without an owner both of its fields are empty. -/
structure StoreResult where
  applied : Bool := false
  changed : Bool := false
  owner : Option Owner := none
  failureCode : Option FailureCode := none
  deriving DecidableEq

def StoreResult.failed (result : StoreResult) (code : FailureCode) : StoreResult :=
  { result with failureCode := some code }

structure RemoveResult where
  removed : Bool := false
  restored : Bool := false
  failureCode : Option FailureCode := none
  deriving DecidableEq

def RemoveResult.failed (result : RemoveResult) (code : FailureCode) : RemoveResult :=
  { result with failureCode := some code }

/-! ## Reading and saving -/

/-- Parts of an operation. It returns early with a result, or throws what is no result. -/
abbrev Work (Result Value : Type) := Program Store StoreCall (Option Result) Value

structure Snapshot where
  bytes : Option Bytes
  entries : List Entry

/-- The entries of `Registry.pol`; a missing file has none. -/
def readEntries : Option Bytes → Except PolError (List Entry)
  | none => .ok []
  | some bytes => convertFrom bytes

section Work

variable {Result : Type}

/-- `Read-OpenPathPolicyStoreSnapshot` -/
def readSnapshot (unreadable : Result) : Work Result Snapshot :=
  .call .readPol
    (.look fun store =>
      match readEntries store.pol with
      | .ok entries => .done ⟨store.pol, entries⟩
      | .error _ => .throw (some unreadable))
    (.throw (some unreadable))

/-- `Read-OpenPathPolicyStoreLedger` -/
def readLedger : Work Result Ledger :=
  Program.observe fun store => if store.ledgerReadable then store.ledger else .empty

/-- How `Save-OpenPathPolicyStoreEntries` ends. -/
inductive Saved
  | conflict
  | failed (code : FailureCode)
  | written (failureCode : Option FailureCode)

/-- The step behind a replacement. -/
def bumpVersion : Work Result Saved :=
  .call .stepVersion (.done (.written none)) (.done (.written (some .gptIniBumpFailed)))

/-- `Save-OpenPathPolicyStoreEntries`; nothing comes between the check and the replacement. -/
def saveEntries (entries : List Entry) (base : Option Bytes) : Work Result Saved :=
  .call .readBeforeReplace
    (.look fun store =>
      if store.pol = base then
        .call (.replacePol entries) bumpVersion (.done (.failed .localGpoWriteFailed))
      else .done .conflict)
    (.done (.failed .localGpoUnreadable))

/-- `$script:LocalGpoMaxWriteAttempts` -/
def maxWriteAttempts : Nat := 3

end Work

end OpenPath.Windows.PolicyStore
