/-
# Runtime dependencies of the Linux agent: overlay

The overlay is a file with an entry for each pair of a page's host and a host that it
depends on. Three commands of `runtime-dependency-overlay.py` rewrite it: `update`
merges requests, `domains --prune` drops what the policy or the clock no longer
admits, and `mark-applied` notes that the name server has been reloaded.

An entry is kept as what the commands read from it: a field that is no string is an
empty text, a time is what `parse_time` makes of it in seconds, and a generation that
is no positive number is zero. The fields that nothing reads are left out.
-/

import OpenPath.Linux.DependencyPolicy

namespace OpenPath.Linux.Overlay

open Python RuntimeDependency

/-! ## The document -/

structure OverlayEntry where
  anchorHost : Text
  dependencyHost : Text
  requestTypes : List Text
  lastSeen : Int
  expiresAt : Option Int
  generation : Nat
  deriving DecidableEq

structure OverlayDocument where
  generation : Nat
  appliedGeneration : Nat
  entries : List OverlayEntry
  deriving DecidableEq

abbrev Pair := Text × Text

def OverlayEntry.pair (entry : OverlayEntry) : Pair := (entry.anchorHost, entry.dependencyHost)

def Candidate.pair (c : Candidate) : Pair := (c.anchorHost, c.dependencyHost)

/-- `load_overlay_document`, for a file that need not exist. -/
def loadOverlayDocument (file : Option OverlayDocument) : OverlayDocument :=
  file.getD { generation := 0, appliedGeneration := 0, entries := [] }

/-- The arguments that carry the policy: each is a list of hosts. -/
structure PolicyArguments where
  whitelist : Text
  protectedHosts : Text
  blockedSubdomains : Text

def PolicyArguments.validate (policy : PolicyArguments) (entry : JsonObject) : Option Candidate :=
  validateCandidate entry (splitHosts policy.whitelist) (splitHosts policy.protectedHosts)
    (splitHosts policy.blockedSubdomains)

/-- `next_document_generation` -/
def nextDocumentGeneration (entries : List OverlayEntry) (previousGeneration : Nat) : Nat :=
  entries.foldl (fun highest entry => max highest entry.generation) previousGeneration

/-! ## Pruning -/

/-- What the check of an entry sees of it. -/
def OverlayEntry.candidate (entry : OverlayEntry) : JsonObject :=
  [("anchorHost".toList, .string entry.anchorHost),
   ("dependencyHost".toList, .string entry.dependencyHost),
   ("requestType".toList, .string (entry.requestTypes.head?.getD "fetch".toList))]

def pruneEntry (now : Int) (policy : PolicyArguments) (entry : OverlayEntry) :
    Option OverlayEntry :=
  match entry.expiresAt with
  | none => none
  | some expiresAt =>
      if expiresAt ≤ now then none
      else
        (policy.validate entry.candidate).map fun c =>
          { entry with anchorHost := c.anchorHost, dependencyHost := c.dependencyHost }

/-- `prune_entries` -/
def pruneEntries (entries : List OverlayEntry) (now : Int) (policy : PolicyArguments) :
    List OverlayEntry :=
  entries.filterMap (pruneEntry now policy)

/-! ## Updates -/

/-- An assignment to a key of the table: the last entry of a pair counts, at the place
of the first. -/
def putEntry (table : List OverlayEntry) (entry : OverlayEntry) : List OverlayEntry :=
  if entry.pair ∈ table.map OverlayEntry.pair then
    table.map fun old => if old.pair = entry.pair then entry else old
  else table ++ [entry]

def byKey (entries : List OverlayEntry) : List OverlayEntry := entries.foldl putEntry []

/-- `sorted(request_types | {request_type})` -/
def addRequestType (requestTypes : List Text) (requestType : Text) : List Text :=
  sorted (requestType :: requestTypes).dedup

def OverlayEntry.refresh (entry : OverlayEntry) (c : Candidate) (now expiresAt : Int) :
    OverlayEntry :=
  { entry with
    requestTypes := addRequestType entry.requestTypes c.requestType
    lastSeen := now
    expiresAt := some expiresAt }

def newEntry (c : Candidate) : OverlayEntry where
  anchorHost := c.anchorHost
  dependencyHost := c.dependencyHost
  requestTypes := []
  lastSeen := 0
  expiresAt := none
  generation := 0

/-- A request refreshes the entry of its pair, or adds one. -/
def mergeCandidate (now expiresAt : Int) (table : List OverlayEntry) (c : Candidate) :
    List OverlayEntry :=
  if c.pair ∈ table.map OverlayEntry.pair then
    table.map fun old => if old.pair = c.pair then old.refresh c now expiresAt else old
  else table ++ [(newEntry c).refresh c now expiresAt]

/-- What a line of the requests is checked as: only an object can be admitted. -/
def PolicyArguments.validateRequest (policy : PolicyArguments) : Option Json → Option Candidate
  | some (.object members) => policy.validate members
  | _ => none

def secondsPerDay : Int := 86400

structure UpdateArguments where
  policy : PolicyArguments
  ttlDays : Int
  capacity : Int

/-- The table after the requests: what is left of the old entries, and the new ones. -/
def mergedTable (arguments : UpdateArguments) (now : Int) (requests : List (Option Json))
    (entries : List OverlayEntry) : List OverlayEntry :=
  (requests.filterMap arguments.policy.validateRequest).foldl
    (mergeCandidate now (now + max arguments.ttlDays 1 * secondsPerDay)) (byKey entries)

/-- The entries of pairs that are new get the next generation. -/
def stampEntry (addedKeys : List Pair) (generation : Nat) (entry : OverlayEntry) : OverlayEntry :=
  if entry.pair ∈ addedKeys then { entry with generation } else entry

/-- The pairs of the table that no entry had before the requests. -/
def addedKeys (table entries : List OverlayEntry) : List Pair :=
  (table.map OverlayEntry.pair).filter (· ∉ entries.map OverlayEntry.pair)

/-- The entries after an update: those that were seen last, as many as fit. -/
def updatedEntries (arguments : UpdateArguments) (now : Int) (requests : List (Option Json))
    (previous : OverlayDocument) : List OverlayEntry :=
  let entries := pruneEntries previous.entries now arguments.policy
  let table := mergedTable arguments now requests entries
  let stamped := table.map (stampEntry (addedKeys table entries) (previous.generation + 1))
  Python.take arguments.capacity
    (stamped.insertionSort fun first second => second.lastSeen ≤ first.lastSeen)

structure UpdateResult where
  document : Option OverlayDocument
  processed : Nat
  rejected : Nat
  changed : Bool

/-- `command_update`. A request is `none` where its line is no JSON. -/
def commandUpdate (arguments : UpdateArguments) (now : Int) (requests : List (Option Json))
    (file : Option OverlayDocument) : UpdateResult :=
  let previous := loadOverlayDocument file
  let entries := pruneEntries previous.entries now arguments.policy
  let nextEntries := updatedEntries arguments now requests previous
  let processed := (requests.filterMap arguments.policy.validateRequest).length
  { document :=
      if nextEntries ≠ entries ∨ file = none then
        some
          { generation := nextDocumentGeneration nextEntries previous.generation
            appliedGeneration := previous.appliedGeneration
            entries := nextEntries }
      else file
    processed
    rejected := requests.length - processed
    changed := nextEntries ≠ entries }

/-- `command_mark_applied` -/
def commandMarkApplied (file : Option OverlayDocument) : Option OverlayDocument :=
  let document := loadOverlayDocument file
  if document.generation = 0 ∨ document.generation ≤ document.appliedGeneration then file
  else some { document with appliedGeneration := document.generation }

/-! ## Domains -/

/-- `command_domains`: what it leaves in the file. -/
def commandDomains (policy : PolicyArguments) (now : Int) (prune : Bool)
    (file : Option OverlayDocument) : Option OverlayDocument :=
  let previous := loadOverlayDocument file
  let entries := pruneEntries previous.entries now policy
  if prune ∧ entries ≠ previous.entries then
    some
      { generation := nextDocumentGeneration entries previous.generation
        appliedGeneration := previous.appliedGeneration
        entries }
  else file

/-- What `command_domains` prints. -/
def domainsOutput (policy : PolicyArguments) (now : Int) (file : Option OverlayDocument) : Text :=
  let entries := pruneEntries (loadOverlayDocument file).entries now policy
  (sorted (entries.map OverlayEntry.dependencyHost).dedup).flatMap (· ++ ['\n'])

/-- `get_runtime_dependency_domains` as the agent reads it, line by line. -/
def emittedDomains (policy : PolicyArguments) (now : Int) (file : Option OverlayDocument) :
    List Text :=
  ((domainsOutput policy now file).splitOn '\n').filter (· ≠ [])

end OpenPath.Linux.Overlay
