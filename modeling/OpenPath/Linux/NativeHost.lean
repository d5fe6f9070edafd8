/-
# The native host on Linux

`openpath-native-host.py` serves the browser extension: a loop reads a framed message,
dispatches it by its action and writes a framed response. Messages and files may hold
any JSON value where the handlers expect objects, lists or strings, and an exception
that no handler catches ends the loop.

What the host reads from its surroundings while it serves one message is an
environment: the files by their contents, and the outcomes of the commands, of the name
resolution and of the writes to the queue. What the host uses of Python's library is a
structure of its own; a string is a text, so that a lone surrogate is read as some
character that is neither a letter nor a digit.
-/

import OpenPath.Foundation.Buffers
import OpenPath.Linux.DependencyPolicy
import OpenPath.Text.Utf8

namespace OpenPath.Linux.NativeHost

open Python Foundation

/-! ## Python -/

/-- What ends the loop when no handler catches it. -/
inductive Raised
  | structError
  | unicodeDecode
  | jsonDecode
  | type
  | os
  /-- What `json.loads` raises beside `JSONDecodeError`: the document is nested too deep,
  or an integer has too many digits. -/
  | limit
  deriving DecidableEq, Repr

abbrev Run := Except Raised

inductive LoadFault
  | decode
  | limit

structure Library where
  loads : Text → Except LoadFault Json
  dumps : Json → Bytes
  isAlnum : Char → Bool
  upper : Text → Text
  sha256 : Bytes → Text

def LoadFault.raised : LoadFault → Raised
  | .decode => .jsonDecode
  | .limit => .limit

/-- `json.loads(text)` -/
def Library.parse (library : Library) (text : Text) : Run Json :=
  (library.loads text).mapError LoadFault.raised

/-- `bytes.decode("utf-8")` -/
def decodeUtf8 (bytes : Bytes) : Run Text :=
  match Utf8.decodeStrict bytes with
  | some text => .ok text
  | none => .error .unicodeDecode

/-- The line breaks of a file in text mode. -/
def universalNewlines : Text → Text
  | '\r' :: '\n' :: rest => '\n' :: universalNewlines rest
  | '\r' :: rest => '\n' :: universalNewlines rest
  | c :: rest => c :: universalNewlines rest
  | [] => []

/-- `bool(value)` -/
def truthy : Json → Bool
  | .null => false
  | .bool value => value
  | .int value => value ≠ 0
  | .real shown => shown ≠ "0.0".toList ∧ shown ≠ "-0.0".toList
  | .string value => !value.isEmpty
  | .array items => !items.isEmpty
  | .object members => !members.isEmpty

/-- The value can be looked up in a set. -/
def hashable : Json → Bool
  | .array _ => false
  | .object _ => false
  | _ => true

/-- `value[:count]` of a value that is not empty, or is a list or a string. -/
def sliceOf (count : Nat) : Json → Run (List Json)
  | .array items => .ok (items.take count)
  | .string value => .ok ((value.take count).map fun c => .string [c])
  | _ => .error .type

/-- What a loop over a value goes through. -/
def iterate : Json → Run (List Json)
  | .array items => .ok items
  | .string value => .ok (value.map fun c => .string [c])
  | .object members => .ok (members.map fun member => .string member.1)
  | _ => .error .type

/-- The values that are objects. -/
def objects (values : List Json) : List JsonObject :=
  values.filterMap fun value =>
    match value with
    | .object members => some members
    | _ => none

/-- `sorted(set(values))` -/
def sortedSet (values : List Text) : List Text := sorted values.dedup

/-! ## The environment -/

inductive File
  | absent
  | unreadable (errno : Int) (error : Text)
  | content (bytes : Bytes)

structure WhitelistFile where
  path : Text
  file : File
  mtime : Int

/-- How a command ended: with its output, or with an exception. -/
abbrev CommandOutput := Option Text

/-- How the update script ended. -/
inductive UpdateRun
  | notFound
  | failed (output error : Text) (code : Int)
  | finished (output : Text) (converged : Bool)
  | timedOut
  | raised (error : Text)

structure Environment where
  whitelist : Option WhitelistFile
  systemDisabled : Bool
  overlay : File
  whitelistUrl : File
  apiUrl : File
  healthApiUrl : File
  transportConf : File
  diagnosticsConf : File
  /-- The environment variable `CAPTIVE_PORTAL_SPLIT_DNS_HOSTS`. -/
  captivePortalHosts : Text
  hostname : Text
  /-- `openpath domains` and `openpath status`, when the command is installed. -/
  command : Option (CommandOutput × CommandOutput)
  /-- What the command, or the system's name resolution, finds for a domain. -/
  resolution : Text → Bool × Option Text
  update : UpdateRun
  queueDirectory : Bool
  /-- The write of the request at a place of its batch raises an `OSError`. -/
  queueFails : Nat → Bool
  /-- In milliseconds. -/
  now : Int

/-- What the host keeps from one message to the next. -/
structure HostState where
  windowStart : Int
  windowMessages : Nat

def osErrorText (path : Text) : File → Option Text
  | .absent => some ("[Errno 2] No such file or directory: '".toList ++ path ++ "'".toList)
  | .unreadable _ error => some error
  | .content _ => none

/-- `path.read_text(encoding="utf-8")` -/
def readText : File → Run Text
  | .content bytes => (decodeUtf8 bytes).map universalNewlines
  | _ => .error .os

/-- `read_optional_text` -/
def readOptionalText : File → Run Text
  | .content bytes => (readText (.content bytes)).map strip
  | _ => .ok []

/-! ## Responses -/

/-- An object with the given members. -/
def fields (members : List (String × Json)) : JsonObject :=
  members.map fun member => (member.1.toList, member.2)

def text (value : String) : Json := .string value.toList

def texts (values : List Text) : Json := .array (values.map .string)

/-- A response that says that an action failed. -/
def failure (action error : String) : JsonObject :=
  fields [("success", .bool false), ("action", text action), ("error", text error)]

/-- `result.get("success") is True` -/
def succeeded (response : JsonObject) : Bool := Json.isTrue (response.lookup "success".toList)

/-! ## Runtime dependencies -/

def runtimeDependencyBatchLimit : Nat := 20

/-- `normalize_runtime_dependency_host` -/
def normalizeRuntimeDependencyHost (value : Option Json) : Text := Overlay.normalizeHost value

structure RuntimeDependency where
  anchorHost : Text
  dependencyHost : Text
  requestType : Text
  deriving DecidableEq

abbrev Pair := Text × Text

def RuntimeDependency.pair (dependency : RuntimeDependency) : Pair :=
  (dependency.anchorHost, dependency.dependencyHost)

def RuntimeDependency.members (dependency : RuntimeDependency) : List (String × Json) :=
  [("anchorHost", .string dependency.anchorHost),
    ("dependencyHost", .string dependency.dependencyHost),
    ("requestType", .string dependency.requestType)]

def invalidPayload : JsonObject :=
  failure "allow-local-runtime-dependency" "Invalid runtime dependency payload"

/-- `validate_runtime_dependency_entry`: an error response, or what was read. -/
def validateRuntimeDependencyEntry : Json → Except JsonObject RuntimeDependency
  | .object entry =>
      let anchorHost := normalizeRuntimeDependencyHost (entry.lookup "anchorHost".toList)
      let dependencyHost := normalizeRuntimeDependencyHost (entry.lookup "dependencyHost".toList)
      let requestType :=
        lower (strip (str ((entry.lookup "requestType".toList).getD (.string []))))
      let dependency : RuntimeDependency := { anchorHost, dependencyHost, requestType }
      if anchorHost = [] ∨ dependencyHost = [] ∨ requestType = [] then .error invalidPayload
      else if requestType = "main_frame".toList then
        .error
          (fields
            ([("success", .bool false), ("action", text "allow-local-runtime-dependency")] ++
              dependency.members ++
              [("error", text "main_frame dependencies are not supported")]))
      else .ok dependency
  | _ => .error invalidPayload

def runtimeDependencySource : Json := text "firefox-webrequest-local"

/-- `write_runtime_dependency_request`, for the entry at a place of its batch -/
def writeRuntimeDependencyRequest (environment : Environment) (place : Nat) (entry : Json) :
    Run JsonObject :=
  match validateRuntimeDependencyEntry entry with
  | .error response => .ok response
  | .ok dependency =>
      if !environment.queueDirectory then
        .ok
          (fields
            ([("success", .bool false), ("action", text "allow-local-runtime-dependency")] ++
              dependency.members ++ [("error", text "Queue directory not configured")]))
      else if environment.queueFails place then .error .os
      else
        .ok
          (fields
            ([("success", .bool true), ("action", text "allow-local-runtime-dependency")] ++
              dependency.members ++ [("queued", .bool true), ("source", runtimeDependencySource)]))

structure OverlayState where
  generation : Int
  appliedGeneration : Int
  entries : List JsonObject

def OverlayState.empty : OverlayState where
  generation := 0
  appliedGeneration := 0
  entries := []

/-- An integer member, and zero for everything else. -/
def intMember (members : JsonObject) (name : String) : Int :=
  match members.lookup name.toList with
  | some (.int value) => value
  | _ => 0

/-- The entries of an overlay that are objects; the loop over them may raise. -/
def overlayEntries (overlay : JsonObject) : Run (List JsonObject) :=
  match overlay.lookup "entries".toList with
  | none => .ok []
  | some value => (iterate value).map objects

/-- An overlay that cannot be parsed, or is no object, counts as an empty one: the faults
of reading and decoding are caught, and so is that of asking a list for a member. -/
def withEntries {α : Type} (parsed : Run Json) (empty : α)
    (use : JsonObject → List JsonObject → α) : Run α :=
  match parsed with
  | .error .limit => .error .limit
  | .error _ => .ok empty
  | .ok (.object overlay) => (overlayEntries overlay).map (use overlay)
  | .ok _ => .ok empty

variable (library : Library)

/-- `read_runtime_dependency_overlay_state` -/
def readRuntimeDependencyOverlayState : File → Run OverlayState
  | .content bytes =>
      withEntries ((readText (.content bytes)).bind library.parse) .empty fun parsed entries =>
        { generation := max (intMember parsed "generation") 0
          appliedGeneration := max (intMember parsed "appliedGeneration") 0
          entries := entries }
  | _ => .ok .empty

/-- `find_runtime_dependency_entry` -/
def findRuntimeDependencyEntry (pair : Pair) (entries : List JsonObject) : Option JsonObject :=
  entries.find? fun entry =>
    normalizeRuntimeDependencyHost (entry.lookup "anchorHost".toList) == pair.1 &&
      normalizeRuntimeDependencyHost (entry.lookup "dependencyHost".toList) == pair.2

/-- `entry_is_ready` -/
def entryIsReady (entry : Option JsonObject) (overlay : OverlayState) : Bool :=
  match entry with
  | none => false
  | some members =>
      let entryGeneration := intMember members "generation"
      if 0 < entryGeneration then entryGeneration ≤ overlay.appliedGeneration
      else 0 < overlay.generation && overlay.generation ≤ overlay.appliedGeneration

structure EntryState where
  ready : Bool
  expiresAt : Option Text

/-- `get_runtime_dependency_entry_states`, for one of the pairs -/
def entryState (overlay : OverlayState) (pair : Pair) : EntryState :=
  let entry := findRuntimeDependencyEntry pair overlay.entries
  { ready := entryIsReady entry overlay
    expiresAt :=
      match entry.bind (·.lookup "expiresAt".toList) with
      | some (.string value) => some value
      | _ => none }

def stateName (ready : Bool) : Json := if ready then text "ready" else text "pending"

/-- The response for a dependency that is ready already. -/
def readyResponse (dependency : RuntimeDependency) : JsonObject :=
  fields
    ([("success", .bool true), ("action", text "allow-local-runtime-dependency")] ++
      dependency.members ++
      [("queued", .bool false), ("ready", .bool true), ("runtimeDependencyState", text "ready"),
        ("mode", text "enqueue"), ("source", runtimeDependencySource)])

/-- `dict.update`: a member that is there keeps its place. -/
def updateMember (members : JsonObject) (name : String) (value : Json) : JsonObject :=
  if (members.lookup name.toList).isSome then
    members.map fun member => if member.1 = name.toList then (member.1, value) else member
  else members ++ [(name.toList, value)]

/-- The response for a dependency that was queued, in the mode that does not wait. -/
def pendingResponse (response : JsonObject) : JsonObject :=
  [("mode", text "enqueue"), ("queued", Json.bool true), ("ready", Json.bool false),
      ("runtimeDependencyState", text "pending")].foldl
    (fun members member => updateMember members member.1 member.2) response

/-- What one entry comes to in the mode that does not wait. -/
def enqueueEntry (environment : Environment) (overlay : OverlayState) (place : Nat)
    (entry : Json) : Run JsonObject :=
  match validateRuntimeDependencyEntry entry with
  | .error response => .ok response
  | .ok dependency =>
      if (entryState overlay dependency.pair).ready then .ok (readyResponse dependency)
      else
        (writeRuntimeDependencyRequest environment place entry).map fun response =>
          if succeeded response then pendingResponse response else response

/-- `enqueue_runtime_dependency_request` -/
def enqueueRuntimeDependencyRequest (environment : Environment) (entry : Json) :
    Run JsonObject :=
  match validateRuntimeDependencyEntry entry with
  | .error response => .ok response
  | .ok _ => do
      let overlay ← readRuntimeDependencyOverlayState library environment.overlay
      enqueueEntry environment overlay 0 entry

/-- An entry that passes the validation. -/
def isValidEntry (entry : Json) : Bool := (validateRuntimeDependencyEntry entry).toBool

/-- The responses of a batch, one after the other. -/
def eachEntry (respond : Nat → Json → Run JsonObject) : Nat → List Json → Run (List JsonObject)
  | _, [] => .ok []
  | place, entry :: rest => do
      let response ← respond place entry
      let responses ← eachEntry respond (place + 1) rest
      return response :: responses

/-- What is added to the results of a batch that is too long. -/
def limitExceeded (action : String) (entries : List Json) : List JsonObject :=
  if runtimeDependencyBatchLimit < entries.length then
    [failure action "Runtime dependency batch limit exceeded"]
  else []

def queuedCount (results : List JsonObject) : Json :=
  .int (results.filter fun result => Json.isTrue (result.lookup "queued".toList)).length

def resultsOf (results : List JsonObject) : Json := .array (results.map .object)

def invalidBatch : JsonObject :=
  fields
    [("success", .bool false), ("action", text "allow-local-runtime-dependency-batch"),
      ("error", text "Invalid runtime dependency batch payload"), ("results", .array [])]

/-- The entries of a batch: a list that is not empty. -/
def batchEntries : Json → Option (List Json)
  | .array [] => none
  | .array entries => some entries
  | _ => none

/-- `enqueue_runtime_dependency_batch` -/
def enqueueRuntimeDependencyBatch (environment : Environment) (entries : Json) :
    Run JsonObject :=
  match batchEntries entries with
  | none => .ok invalidBatch
  | some entries => do
      let batch := entries.take runtimeDependencyBatchLimit
      let overlay ←
        if batch.any isValidEntry then
          readRuntimeDependencyOverlayState library environment.overlay
        else .ok .empty
      let responses ← eachEntry (enqueueEntry environment overlay) 0 batch
      let results := responses ++ limitExceeded "allow-local-runtime-dependency" entries
      return fields
        [("success", .bool (results.all succeeded)),
          ("action", text "allow-local-runtime-dependency-batch"), ("mode", text "enqueue"),
          ("count", .int results.length), ("queuedCount", queuedCount responses),
          ("results", resultsOf results)]

/-- The pair of a response that was queued. -/
def queuedPair (response : JsonObject) : Option Pair :=
  match response.lookup "anchorHost".toList, response.lookup "dependencyHost".toList with
  | some (.string anchorHost), some (.string dependencyHost) =>
      if succeeded response ∧ anchorHost ≠ [] ∧ dependencyHost ≠ [] then
        some (anchorHost, dependencyHost)
      else none
  | _, _ => none

/-- A queued response, after the wait for its dependency. The overlay does not change
while the host waits. -/
def waitedResponse (overlay : OverlayState) (response : JsonObject) : JsonObject :=
  match queuedPair response with
  | none => response
  | some pair =>
      let ready := (entryState overlay pair).ready
      updateMember (updateMember response "ready" (.bool ready)) "runtimeDependencyState"
        (stateName ready)

/-- Wait for the dependencies that were queued. -/
def waitForResponses (environment : Environment) (responses : List JsonObject) :
    Run (List JsonObject) :=
  if responses.any fun response => (queuedPair response).isSome then do
    let overlay ← readRuntimeDependencyOverlayState library environment.overlay
    return responses.map (waitedResponse overlay)
  else .ok responses

inductive Mode
  | blocking
  | enqueue
  | unsupported
  deriving DecidableEq

/-- The member `mode` of a message. -/
def modeOf (message : JsonObject) : Mode :=
  let mode := lower (strip (str ((message.lookup "mode".toList).getD (.string []))))
  if mode = [] ∨ mode = "blocking".toList then .blocking
  else if mode = "enqueue".toList then .enqueue
  else .unsupported

/-- The action `allow-local-runtime-dependency` -/
def allowLocalRuntimeDependency (environment : Environment) (message : JsonObject) :
    Run JsonObject :=
  match modeOf message with
  | .unsupported =>
      .ok (failure "allow-local-runtime-dependency" "Unsupported runtime dependency mode")
  | .enqueue => enqueueRuntimeDependencyRequest library environment (.object message)
  | .blocking => do
      let response ← writeRuntimeDependencyRequest environment 0 (.object message)
      let responses ← waitForResponses library environment [response]
      return responses.headD response

/-- The action `allow-local-runtime-dependency-batch` -/
def allowLocalRuntimeDependencyBatch (environment : Environment) (message : JsonObject) :
    Run JsonObject :=
  let entries := (message.lookup "entries".toList).getD (.array [])
  match modeOf message with
  | .unsupported =>
      .ok (failure "allow-local-runtime-dependency-batch" "Unsupported runtime dependency mode")
  | .enqueue => enqueueRuntimeDependencyBatch library environment entries
  | .blocking =>
      match batchEntries entries with
      | none => .ok invalidBatch
      | some entries => do
          let written ←
            eachEntry (writeRuntimeDependencyRequest environment) 0
              (entries.take runtimeDependencyBatchLimit)
          let responses ← waitForResponses library environment written
          let results := responses ++ limitExceeded "allow-local-runtime-dependency" entries
          return fields
            [("success", .bool (results.all succeeded)),
              ("action", text "allow-local-runtime-dependency-batch"),
              ("count", .int results.length), ("queuedCount", queuedCount results),
              ("results", resultsOf results)]

/-- The pair that an entry names, when both hosts can be read. -/
def entryPair (anchorHost dependencyHost : Option Json) : Option Pair :=
  let pair :=
    (normalizeRuntimeDependencyHost anchorHost, normalizeRuntimeDependencyHost dependencyHost)
  if pair.1 = [] ∨ pair.2 = [] then none else some pair

def checkPair : Json → Option Pair
  | .object entry =>
      entryPair (entry.lookup "anchorHost".toList) (entry.lookup "dependencyHost".toList)
  | _ => none

def invalidCheck : JsonObject :=
  failure "check-local-runtime-dependency" "Invalid runtime dependency payload"

def checkedResponse (overlay : OverlayState) (pair : Pair) : JsonObject :=
  let state := entryState overlay pair
  fields
    ([("success", .bool true), ("action", text "check-local-runtime-dependency"),
        ("anchorHost", .string pair.1), ("dependencyHost", .string pair.2),
        ("ready", .bool state.ready), ("runtimeDependencyState", stateName state.ready)] ++
      match state.expiresAt with
      | some expiresAt => [("expiresAt", .string expiresAt)]
      | none => [])

/-- The action `check-local-runtime-dependency`. In a batch the entries that cannot be
read come first. -/
def checkLocalRuntimeDependency (environment : Environment) (message : JsonObject) :
    Run JsonObject :=
  match (message.lookup "entries".toList).bind batchEntries with
  | some entries => do
      let batch := entries.take runtimeDependencyBatchLimit
      let pairs := batch.filterMap checkPair
      let overlay ←
        if pairs.isEmpty then .ok .empty
        else readRuntimeDependencyOverlayState library environment.overlay
      let results :=
        (batch.filter fun entry => (checkPair entry).isNone).map (fun _ => invalidCheck) ++
          pairs.map (checkedResponse overlay) ++
          limitExceeded "check-local-runtime-dependency" entries
      return fields
        [("success", .bool (results.all succeeded)),
          ("action", text "check-local-runtime-dependency"), ("count", .int results.length),
          ("results", resultsOf results)]
  | none =>
      match
        entryPair (message.lookup "anchorHost".toList) (message.lookup "dependencyHost".toList) with
      | none => .ok invalidCheck
      | some pair => do
          let overlay ← readRuntimeDependencyOverlayState library environment.overlay
          return checkedResponse overlay pair

end OpenPath.Linux.NativeHost
