/-
# Runtime dependencies of the Windows agent: overlay

`RuntimeDependency.Overlay.ps1` keeps an entry for each pair of a page's host and a host
that it depends on. An update merges a batch of requests into the entries and the result
is written over the file; entries whose pair was not on disk get a new generation.
`Get-OpenPathRuntimeDependencyDomains` lists the hosts for the DNS proxy and rewrites the
file where entries are dropped. After a reload of the proxy a generation is marked as
applied.

An entry keeps the texts of its hosts as they stand in the file, where a value that is
no string counts as an empty text. A generation that is no positive number is zero. The
fields that nothing reads are left out.
-/

import OpenPath.Windows.AcrylicHosts
import OpenPath.Windows.DependencyPolicy

namespace OpenPath.Windows.Overlay

open DotNet RuntimeDependency

/-! ## The document -/

/-- The `expiresAt` of an entry: without one it stays, and with one that is no time it
has expired. -/
inductive Expiry
  | never
  | after (time : Int)
  | unreadable
  deriving DecidableEq

def Expiry.isExpired (now : Int) : Expiry → Bool
  | .never => false
  | .after time => time ≤ now
  | .unreadable => true

structure OverlayEntry where
  anchorHost : Text
  dependencyHost : Text
  lastSeen : Int
  expiresAt : Expiry
  generation : Nat
  deriving DecidableEq

structure OverlayDocument where
  generation : Nat
  appliedGeneration : Nat
  entries : List OverlayEntry
  deriving DecidableEq

abbrev Pair := Text × Text

/-- `Read-OpenPathRuntimeDependencyOverlayDocument`, for a file that need not exist. -/
def readDocument (file : Option OverlayDocument) : OverlayDocument :=
  file.getD { generation := 0, appliedGeneration := 0, entries := [] }

/-- `Test-OpenPathRuntimeDependencyEntryReady` -/
def testEntryReady (entry : OverlayEntry) (appliedGeneration documentGeneration : Nat) : Bool :=
  if 0 < entry.generation then entry.generation ≤ appliedGeneration
  else 0 < documentGeneration && documentGeneration ≤ appliedGeneration

/-- The key of two hosts. Normal forms are in lower case already. -/
def hostsKey (anchorHost dependencyHost : Text) : Option Pair :=
  let anchor := normalizeText anchorHost
  let dependency := normalizeText dependencyHost
  if anchor = [] ∨ dependency = [] then none else some (anchor, dependency)

/-- `Get-OpenPathRuntimeDependencyPairKey` -/
def pairKey (entry : OverlayEntry) : Option Pair :=
  hostsKey entry.anchorHost entry.dependencyHost

def pairKeys (entries : List OverlayEntry) : List Pair := entries.filterMap pairKey

/-- The pairs of the entries that were not on disk. -/
def addedPairs (entries : List OverlayEntry) (previous : OverlayDocument) : List Pair :=
  (pairKeys entries).filter (· ∉ pairKeys previous.entries)

/-- `Set-OpenPathRuntimeDependencyEntryGeneration`, for the entries of added pairs. -/
def stampEntry (added : List Pair) (generation : Nat) (entry : OverlayEntry) : OverlayEntry :=
  if (pairKey entry).any (· ∈ added) then { entry with generation } else entry

/-- `Write-OpenPathRuntimeDependencyOverlay` -/
def writeOverlay (entries : List OverlayEntry) (file : Option OverlayDocument) : OverlayDocument :=
  let previous := readDocument file
  let added := addedPairs entries previous
  let nextGeneration :=
    if added = [] then previous.generation else previous.generation + 1
  let stamped := entries.map (stampEntry added nextGeneration)
  { generation := stamped.foldl (fun highest entry => max highest entry.generation) nextGeneration
    appliedGeneration := previous.appliedGeneration
    entries := stamped }

/-- `Set-OpenPathRuntimeDependencyOverlayApplied`, with `-Generation` or without. -/
def setOverlayApplied (generation : Option Nat) (file : Option OverlayDocument) :
    Option OverlayDocument :=
  file.map fun document =>
    let target := (generation.map (min · document.generation)).getD document.generation
    if target ≤ document.appliedGeneration then document
    else { document with appliedGeneration := target }

/-! ## Updates -/

structure UpdateArguments where
  context : PolicyContext
  capacity : Int
  ttlDays : Int

/-- The tests that an entry on disk must pass to be kept. -/
def keepsEntry (context : PolicyContext) (now : Int) (entry : OverlayEntry) : Bool :=
  let dependency := normalizeText entry.dependencyHost
  let anchor := normalizeText entry.anchorHost
  !(decide (dependency = []) || decide (anchor = []) || entry.expiresAt.isExpired now ||
    !coversHost context.whitelistSet anchor ||
    coversHost context.protectedHosts anchor ||
    coversHost context.protectedHosts dependency ||
    coversHost context.blockedSubdomainSet dependency)

/-- A request refreshes the first entry with its hosts, or adds one at the end. -/
def mergeCandidate (now : Int) (expiresAt : Expiry) (c : Candidate) :
    List OverlayEntry → List OverlayEntry
  | [] =>
      [{ anchorHost := c.anchorHost, dependencyHost := c.dependencyHost, lastSeen := now,
         expiresAt, generation := 0 }]
  | entry :: rest =>
      if equalsIgnoreCase (normalizeText entry.dependencyHost) c.dependencyHost &&
          equalsIgnoreCase (normalizeText entry.anchorHost) c.anchorHost then
        { entry with lastSeen := now, expiresAt } :: rest
      else entry :: mergeCandidate now expiresAt c rest

/-- The requests of a batch that are admitted. -/
def admitted (context : PolicyContext) (requests : List JsonObject) : List Candidate :=
  requests.filterMap fun request => (testCandidate request context).toOption

def ticksPerDay : Int := 864000000000

/-- The entries that are kept, with the admitted requests merged in. -/
def mergedEntries (arguments : UpdateArguments) (now : Int) (requests : List JsonObject)
    (entries : List OverlayEntry) : List OverlayEntry :=
  (admitted arguments.context requests).foldl
    (fun kept c =>
      mergeCandidate now (.after (now + max 1 arguments.ttlDays * ticksPerDay)) c kept)
    (entries.filter (keepsEntry arguments.context now))

structure UpdateResult where
  entries : List OverlayEntry
  processed : Nat
  rejected : Nat
  changed : Bool

/-- `Update-OpenPathRuntimeDependencyOverlay` -/
def updateOverlay (arguments : UpdateArguments) (now : Int) (requests : List JsonObject)
    (entries : List OverlayEntry) : UpdateResult :=
  let processed := (admitted arguments.context requests).length
  { entries :=
      ((mergedEntries arguments now requests entries).insertionSort
        fun first second => second.lastSeen ≤ first.lastSeen).take (max 1 arguments.capacity).toNat
    processed
    rejected := requests.length - processed
    changed := 0 < processed }

/-- The file after a batch of requests, which is written only if some request counts. -/
def applyRequests (arguments : UpdateArguments) (now : Int) (requests : List JsonObject)
    (file : Option OverlayDocument) : Option OverlayDocument :=
  let result := updateOverlay arguments now requests (readDocument file).entries
  if result.changed then some (writeOverlay result.entries file) else file

/-! ## Domains -/

/-- The tests of `Get-OpenPathRuntimeDependencyDomains`. -/
def listsEntry (context : PolicyContext) (now : Int) (entry : OverlayEntry) : Bool :=
  let dependency := normalizeText entry.dependencyHost
  let anchor := normalizeText entry.anchorHost
  !(decide (dependency = []) || decide (anchor = []) || entry.expiresAt.isExpired now ||
    !coversHost context.whitelistSet anchor ||
    coversHost context.protectedHosts dependency ||
    coversHost context.blockedSubdomainSet dependency ||
    !testDomainFormat dependency)

/-- `Get-OpenPathRuntimeDependencyDomains` -/
def getDomains (context : PolicyContext) (now : Int) (file : Option OverlayDocument) : List Text :=
  (((readDocument file).entries.filter (listsEntry context now)).map fun entry =>
    normalizeText entry.dependencyHost).foldl addDistinct []

/-- What `Get-OpenPathRuntimeDependencyDomains` with `-Prune` leaves in the file. -/
def pruneOverlay (context : PolicyContext) (now : Int) (file : Option OverlayDocument) :
    Option OverlayDocument :=
  let entries := (readDocument file).entries
  let kept := entries.filter (listsEntry context now)
  if kept.length ≠ entries.length then some (writeOverlay kept file) else file

/-- `Get-AcrylicAllowedRuntimeDependencyDomains`: the hosts that the proxy forwards. -/
def allowedDomains (context : PolicyContext) (domains : List Text) : List Text :=
  (domains.map fun domain => trimDots (trim domain)).filter fun domain =>
    domain ≠ [] ∧ coversHost context.blockedSubdomainSet domain = false

end OpenPath.Windows.Overlay
