/-
# Download references

A generated installer is downloaded through an opaque reference, which is known
by the hash of its token. A download first takes one of the reference's attempts
and a lease, which it renews while it runs; when it ends it gives the lease up,
and a download that completed marks the reference as consumed. The row of the
reference counts the attempts taken and the transfers under way.

Each function below is one transaction of the service, or one statement of
`cleanupExpired`, which is not a transaction as a whole. Columns that no
statement reads, and the lengths of columns, are left out.
-/

import OpenPath.Api.Database
import OpenPath.Api.OfflineInstallerConfig
import OpenPath.Foundation.CounterColumns

namespace OpenPath.Api.DownloadRefs

open Foundation

abbrev Uuid := BitVec 128

instance : LawfulBEq Uuid := instLawfulBEq

/-- A row of `windows_offline_download_refs`. -/
structure WindowsOfflineDownloadRef where
  id : Uuid
  classroomId : Text
  classroomName : Text
  createdBy : Option Text
  referenceHash : Text
  artifactFileName : Text
  artifactStorageFileName : Text
  artifactSha256 : Text
  artifactSize : Int
  maxAttempts : Int
  usedAttempts : Int
  activeTransfers : Int
  expiresAt : Int
  consumedAt : Option Int
  deriving DecidableEq

/-- A row of `windows_offline_download_transfer_leases`. -/
structure TransferLease where
  id : Uuid
  downloadRefId : Uuid
  expiresAt : Int
  deriving DecidableEq

structure Tables where
  refs : List WindowsOfflineDownloadRef
  leases : List TransferLease
  deriving DecidableEq

/-- What the service is created with: the hash of `node:crypto`, in hexadecimal
digits, and the time a lease lasts. -/
structure RefsRepoDeps where
  sha256Hex : Text → Text
  transferLeaseMs : Int

structure DownloadRefRecord extends WindowsOfflineDownloadRef where
  transferId : Option Uuid
  deriving DecidableEq

inductive DownloadReferenceErrorCode
  | invalid
  | expired
  | exhausted
  | consumed
  deriving DecidableEq

/-- What a call of the service throws. -/
inductive Failure
  | downloadReferenceError (code : DownloadReferenceErrorCode) (message : String)
  | error (message : String)
  | database (cause : DbError)
  deriving DecidableEq

/-! ## Tokens, hashes and file names -/

def isReferenceChar (c : Char) : Bool := c.isAlphanum || c == '_' || c == '-'

/-- `/^[A-Za-z0-9_-]{43}$/u` -/
def isValidWindowsOfflineDownloadReference (value : Text) : Bool :=
  value.length == 43 && value.all isReferenceChar

def isHexDigit (c : Char) : Bool := isDigit c || ('a'.toNat ≤ c.toNat && c.toNat ≤ 'f'.toNat)

/-- `/^[0-9a-f]{64}$/u` -/
def isReferenceHash (value : Text) : Bool := value.length == 64 && value.all isHexDigit

/-- `[0-9a-f]{8}-[0-9a-f]{4}-[0-9a-f]{4}-[0-9a-f]{4}-[0-9a-f]{12}` -/
def uuidPattern : Re Char :=
  let digits := Re.times (.sat isHexDigit)
  .sequence [digits 8, .lit '-', digits 4, .lit '-', digits 4, .lit '-', digits 4, .lit '-',
    digits 12]

def storageArtifactFilePattern : Re Char :=
  .cat (.alt (.times (.sat isHexDigit) 32) uuidPattern) (.word ".exe".toList)

/-- `createHash('sha256').update(rawToken).digest('hex')` -/
def hashDownloadReference (deps : RefsRepoDeps) (rawToken : Text) : Text :=
  deps.sha256Hex rawToken

def artifactFileNameFromReferenceHash (referenceHash : Text) : Except Failure Text :=
  if isReferenceHash referenceHash then .ok (referenceHash.take 32 ++ ".exe".toList)
  else .error (.error "Invalid Windows offline installer reference hash")

def validateArtifactStorageFileName (fileName : Text) : Except Failure Text :=
  if storageArtifactFilePattern.accepts fileName then .ok fileName
  else .error (.error "Invalid Windows offline installer artifact storage filename")

/-! ## Rows -/

namespace Tables

def refByHash (tables : Tables) (referenceHash : Text) : Option WindowsOfflineDownloadRef :=
  tables.refs.find? (·.referenceHash = referenceHash)

/-- Identifiers and hashes are unique. -/
def insertRef (tables : Tables) (row : WindowsOfflineDownloadRef) :
    Except Failure (List WindowsOfflineDownloadRef) :=
  if tables.refs.any fun ref => ref.id = row.id || ref.referenceHash = row.referenceHash then
    .error (.database .uniqueViolation)
  else .ok (tables.refs ++ [row])

/-- Deleting references. Their leases go with them. -/
def deleteRefs (tables : Tables) (deletes : WindowsOfflineDownloadRef → Bool) : Tables where
  refs := tables.refs.filter fun ref => !deletes ref
  leases := tables.leases.filter fun lease =>
    !tables.refs.any fun ref => deletes ref && ref.id = lease.downloadRefId

/-- The leases of a reference. -/
def leasesOf (tables : Tables) (id : Uuid) : List TransferLease :=
  tables.leases.filter (·.downloadRefId = id)

end Tables

/-- The number of transfers under way, as a counter of lease rows. -/
def activeTransfers : CounterColumn WindowsOfflineDownloadRef TransferLease Uuid where
  key := (·.id)
  count := (·.activeTransfers)
  owner := (·.downloadRefId)
  set ref value := { ref with activeTransfers := value }
  key_set _ _ := rfl
  count_set _ _ := rfl

def toRecord (row : WindowsOfflineDownloadRef) (transferId : Option Uuid) : DownloadRefRecord where
  toWindowsOfflineDownloadRef := row
  transferId := transferId

/-- Why a row cannot be used. -/
def classifyRow (row : Option WindowsOfflineDownloadRef) (now : Int) : Failure :=
  match row with
  | none => .downloadReferenceError .invalid "Unknown download reference"
  | some row =>
      if row.consumedAt.isSome then
        .downloadReferenceError .consumed "Download reference already consumed"
      else if row.expiresAt ≤ now then
        .downloadReferenceError .expired "Download reference expired"
      else if row.maxAttempts ≤ row.usedAttempts then
        .downloadReferenceError .exhausted "Download attempt limit reached"
      else .downloadReferenceError .expired "Download reference is no longer usable"

/-! ## The calls of the service -/

structure MintInput where
  classroomId : Text
  classroomName : Text
  createdBy : Option Text
  artifactFileName : Text
  artifactStorageFileName : Option Text
  artifactSha256 : Text
  artifactSize : Int
  ttlMinutes : Int
  maxAttempts : Int

/-- The file that a new reference is for: an existing one, or one named after the
reference. -/
def storageFileName (input : MintInput) (referenceHash : Text) : Except Failure Text :=
  match input.artifactStorageFileName with
  | some fileName => validateArtifactStorageFileName fileName
  | none => artifactFileNameFromReferenceHash referenceHash >>= validateArtifactStorageFileName

/-- `id` is drawn by the database and `rawToken` by the token generator. -/
def mintReference (deps : RefsRepoDeps) (id : Uuid) (rawToken : Text) (now : Int)
    (input : MintInput) (tables : Tables) :
    Except Failure ((DownloadRefRecord × Text) × Tables) :=
  if !isValidWindowsOfflineDownloadReference rawToken then
    .error (.error "Reference generator returned an invalid opaque reference")
  else do
    let referenceHash := hashDownloadReference deps rawToken
    let artifactStorageFileName ← storageFileName input referenceHash
    let row : WindowsOfflineDownloadRef :=
      { id, classroomId := input.classroomId, classroomName := input.classroomName,
        createdBy := input.createdBy, referenceHash, artifactFileName := input.artifactFileName,
        artifactStorageFileName, artifactSha256 := input.artifactSha256,
        artifactSize := input.artifactSize, maxAttempts := input.maxAttempts, usedAttempts := 0,
        activeTransfers := 0, expiresAt := now + input.ttlMinutes * 60000, consumedAt := none }
    let refs ← tables.insertRef row
    return ((toRecord row none, rawToken), { tables with refs })

/-- The rows that `consumeAttempt` takes an attempt of. -/
def takesAttempt (id : Uuid) (currentTime : Int) (ref : WindowsOfflineDownloadRef) : Bool :=
  ref.id = id && ref.consumedAt.isNone && currentTime < ref.expiresAt &&
    ref.usedAttempts < ref.maxAttempts

def withAttempt (ref : WindowsOfflineDownloadRef) : WindowsOfflineDownloadRef :=
  { ref with
    usedAttempts := ref.usedAttempts + 1
    activeTransfers := ref.activeTransfers + 1 }

/-- Take an attempt and a lease, whose identifier the database draws. `latestTime`
is the time when the service reads its clock again to say why it found no row. -/
def consumeAttempt (deps : RefsRepoDeps) (rawToken : Text) (currentTime latestTime : Int)
    (leaseId : Uuid) (tables : Tables) : Except Failure (DownloadRefRecord × Tables) :=
  if !isValidWindowsOfflineDownloadReference rawToken then
    .error (.downloadReferenceError .invalid "Invalid download reference")
  else
    match tables.refByHash (hashDownloadReference deps rawToken) with
    | none => .error (classifyRow none currentTime)
    | some row =>
        if row.consumedAt.isSome then .error (classifyRow (some row) currentTime)
        else if row.expiresAt ≤ currentTime then .error (classifyRow (some row) currentTime)
        else if row.maxAttempts ≤ row.usedAttempts then .error (classifyRow (some row) currentTime)
        else
          let selects := takesAttempt row.id currentTime
          let refs := updateWhere selects withAttempt tables.refs
          match (updated selects withAttempt tables.refs).head? with
          | none => .error (classifyRow (refs.find? (·.id = row.id)) latestTime)
          | some reserved =>
              let lease : TransferLease :=
                { id := leaseId
                  downloadRefId := reserved.id
                  expiresAt := max (currentTime + deps.transferLeaseMs)
                    (row.expiresAt + deps.transferLeaseMs) }
              if tables.leases.any (·.id = leaseId) then .error (.database .uniqueViolation)
              else
                .ok (toRecord reserved (some leaseId), { refs, leases := tables.leases ++ [lease] })

/-- The lease that a call names. -/
def namesLease (transferId refId : Uuid) (lease : TransferLease) : Bool :=
  lease.id = transferId && lease.downloadRefId = refId

/-- A renewal never shortens a lease. -/
def withRenewal (expiresAt : Int) (lease : TransferLease) : TransferLease :=
  { lease with expiresAt := max lease.expiresAt expiresAt }

/-- The answer is whether the lease was still running. -/
def renewAttempt (deps : RefsRepoDeps) (rawToken : Text) (transferId : Uuid) (currentTime : Int)
    (tables : Tables) : Bool × Tables :=
  if !isValidWindowsOfflineDownloadReference rawToken then (false, tables)
  else
    match tables.refByHash (hashDownloadReference deps rawToken) with
    | none => (false, tables)
    | some reference =>
        let selects (lease : TransferLease) :=
          namesLease transferId reference.id lease && currentTime < lease.expiresAt
        let renew := withRenewal (currentTime + deps.transferLeaseMs)
        ((updated selects renew tables.leases).head?.isSome,
          { tables with leases := updateWhere selects renew tables.leases })

def releaseAttempt (deps : RefsRepoDeps) (rawToken : Text) (transferId : Uuid)
    (tables : Tables) : Tables :=
  if !isValidWindowsOfflineDownloadReference rawToken then tables
  else
    match tables.refByHash (hashDownloadReference deps rawToken) with
    | none => tables
    | some reference =>
        let ends := namesLease transferId reference.id
        let leases := tables.leases.filter fun lease => !ends lease
        match (tables.leases.filter ends).head? with
        | none => { tables with leases }
        | some lease =>
            { refs := activeTransfers.decrement lease.downloadRefId tables.refs, leases }

/-- A completed transfer: the first one sets the time of consumption. -/
def withConsumption (now : Int) (ref : WindowsOfflineDownloadRef) : WindowsOfflineDownloadRef :=
  { ref with
    consumedAt := ref.consumedAt.or (some now)
    activeTransfers := max (ref.activeTransfers - 1) 0 }

/-- The answer is whether this completion released the last active transfer. -/
def markConsumed (deps : RefsRepoDeps) (rawToken : Text) (transferId : Uuid) (now : Int)
    (tables : Tables) : Bool × Tables :=
  if !isValidWindowsOfflineDownloadReference rawToken then (false, tables)
  else
    match tables.refByHash (hashDownloadReference deps rawToken) with
    | none => (false, tables)
    | some reference =>
        let ends := namesLease transferId reference.id
        let leases := tables.leases.filter fun lease => !ends lease
        match (tables.leases.filter ends).head? with
        | none => (false, { tables with leases })
        | some lease =>
            let selects (ref : WindowsOfflineDownloadRef) : Bool := ref.id = lease.downloadRefId
            let row := (updated selects (withConsumption now) tables.refs).head?
            (row.map (·.activeTransfers) = some 0,
              { refs := updateWhere selects (withConsumption now) tables.refs, leases })

def invalidateReference (deps : RefsRepoDeps) (rawToken : Text) (tables : Tables) : Tables :=
  if !isValidWindowsOfflineDownloadReference rawToken then tables
  else tables.deleteRefs (·.referenceHash = hashDownloadReference deps rawToken)

/-- The answer is whether no reference for the file remains. -/
def revokeReferencesForArtifact (artifactStorageFileName : Text) (tables : Tables) :
    Except Failure (Bool × Tables) := do
  let validatedFileName ← validateArtifactStorageFileName artifactStorageFileName
  let remaining := tables.deleteRefs fun ref =>
    ref.artifactStorageFileName = validatedFileName && ref.activeTransfers = 0
  return ((remaining.refs.find? (·.artifactStorageFileName = validatedFileName)).isNone, remaining)

/-! ## The statements of `cleanupExpired` -/

def recoverExpiredTransferLeases (currentTime : Int) (tables : Tables) : Tables :=
  let expired (lease : TransferLease) : Bool := lease.expiresAt ≤ currentTime
  { refs := activeTransfers.decrementAll (tables.leases.filter expired) tables.refs
    leases := tables.leases.filter fun lease => !expired lease }

/-- The references that are of no further use and that no transfer holds. -/
def staleRows (currentTime : Int) (tables : Tables) : List WindowsOfflineDownloadRef :=
  tables.refs.filter fun ref =>
    (ref.consumedAt.isSome || ref.expiresAt ≤ currentTime || ref.maxAttempts ≤ ref.usedAttempts) &&
      ref.activeTransfers = 0

/-- A selected reference is deleted unless a transfer holds it by now. -/
def deletesStale (staleIds : List Uuid) (ref : WindowsOfflineDownloadRef) : Bool :=
  staleIds.contains ref.id && ref.activeTransfers = 0

/-- The file names of the deleted references, and the tables without them. -/
def deleteStaleRows (staleIds : List Uuid) (tables : Tables) : List Text × Tables :=
  ((tables.refs.filter (deletesStale staleIds)).map (·.artifactStorageFileName),
    tables.deleteRefs (deletesStale staleIds))

end OpenPath.Api.DownloadRefs
