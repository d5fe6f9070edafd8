/-
# The persistent native transport

The extension keeps one port to the native host open and sends its calls over it.
The state is the variables that `createPersistentNativeTransport` closes over, with
the event loop around it: the timers that are armed, and the microtasks in the order in
which they were queued. A message, a disconnect and a timer are tasks, and a task starts
when no microtask is left. The extension calls the transport in a task or in a microtask
of its own, which both stand at the head of the queue until the extension returns.
Timers fire at any time, and every step reads the clock once.

A settled promise is recorded together with the call that it belongs to. Logging, the
diagnostics and the Boolean answers to those who connect are left out.
-/

import OpenPath.Foundation.Transition
import OpenPath.Text.Json
import Mathlib.Algebra.Group.Int.Defs

namespace OpenPath.Extension.NativeTransport

/-! ## Messages of the host -/

/-- A number of a message. -/
inductive Number
  | int (value : Int)
  | real (shown : Text)
  deriving DecidableEq

/-- `typeof value === 'number' && Number.isFinite(value)` -/
def finiteNumber : Option Json → Option Number
  | some (.int value) => some (.int value)
  | some (.real shown) =>
      if shown ∈ ["inf".toList, "-inf".toList, "nan".toList] then none else some (.real shown)
  | _ => none

/-- A property of a message, which only objects have. -/
def property (response : Json) (name : String) : Option Json :=
  match response with
  | .object members => members.lookup name.toList
  | _ => none

def resolveResponseId (response : Json) : Option Number := finiteNumber (property response "id")

def isNull (response : Json) : Bool :=
  match response with
  | .null => true
  | _ => false

structure ProbeResponse where
  capabilities : List Text
  protocolVersion : Number
  success : Bool

/-- The capability names of a list: strings that are not empty, each once. -/
def capabilityNames : Option Json → List Text
  | some (.array items) =>
      (items.filterMap fun item =>
        match item with
        | .string name => if name.isEmpty then none else some name
        | _ => none).eraseDups
  | _ => []

def extractResponseCapabilities (response : Json) : ProbeResponse where
  capabilities := capabilityNames (property response "capabilities")
  protocolVersion := (finiteNumber (property response "protocolVersion")).getD (.int 0)
  success := Json.isTrue (property response "success")

/-! ## The variables -/

inductive TransportState
  | idle
  /-- Port opening or capability probe in flight. -/
  | connecting
  /-- Port open and the host announced capabilities. -/
  | ready
  /-- Port open but the host is an older agent without capabilities. -/
  | legacy
  /-- Port dropped or unhealthy. -/
  | backoff
  deriving DecidableEq, Repr

/-- Who waits for the answer to a call: the connection attempt, the liveness check, or
the extension. -/
inductive Caller
  | probe
  | liveness
  | request
  deriving DecidableEq, Repr

/-- A call in `pendingCalls`, and the port on which it was posted. -/
structure PendingCall where
  id : Nat
  caller : Caller
  target : Nat
  deriving DecidableEq, Repr

/-- How a promise is settled. -/
inductive Settlement
  | resolved (response : Json)
  | rejected (error : String)

/-- A call whose promise was settled. A call that was refused got no id. -/
structure SettledCall where
  id : Option Nat
  caller : Caller
  settlement : Settlement

/-- The promise in `connectPromise`: of an attempt under way, or one left behind that
is settled already. -/
inductive ConnectPromise
  | underWay
  | leftBehind
  deriving DecidableEq, Repr

/-- A microtask. -/
inductive Job
  /-- `connectOnce` goes on after the probe. -/
  | connect (probe : Settlement)
  /-- The `catch` after the liveness ping. -/
  | liveness (ping : Settlement)
  /-- The `finally` after it. -/
  | livenessDone
  /-- The reaction of a wait to the end of the connection attempt. -/
  | wait (id : Nat)
  /-- The extension goes on. -/
  | caller

structure Options where
  livenessStaleMs : Int
  reconnectBaseDelayMs : Int
  reconnectMaxDelayMs : Int

structure Transport where
  state : TransportState
  port : Option Nat
  capabilities : List Text
  protocolVersion : Number
  nextRequestId : Nat
  connectPromise : Option ConnectPromise
  reconnectAttempts : Nat
  nextReconnectAt : Int
  stopped : Bool
  lastHostMessageAt : Int
  livenessProbeInFlight : Bool
  pendingCalls : List PendingCall
  /-- The calls whose timers are armed. -/
  timers : List Nat
  /-- The waits that the connection attempt under way will wake. -/
  waits : List Nat
  /-- The waits whose timers are armed. -/
  waitTimers : List Nat
  nextWait : Nat
  /-- The ports opened so far. -/
  ports : Nat
  jobs : List Job
  settledCalls : List SettledCall

/-- `createPersistentNativeTransport` -/
def createPersistentNativeTransport (now : Int) : Transport where
  state := .idle
  port := none
  capabilities := []
  protocolVersion := .int 0
  nextRequestId := 1
  connectPromise := none
  reconnectAttempts := 0
  nextReconnectAt := 0
  stopped := false
  lastHostMessageAt := now
  livenessProbeInFlight := false
  pendingCalls := []
  timers := []
  waits := []
  waitTimers := []
  nextWait := 0
  ports := 0
  jobs := []
  settledCalls := []

namespace Transport

/-! ## Promises -/

/-- What a settled promise queues. -/
def reaction (caller : Caller) (settlement : Settlement) : Job :=
  match caller with
  | .probe => .connect settlement
  | .liveness => .liveness settlement
  | .request => .caller

/-- `pending.resolve` or `pending.reject`. -/
def settle (s : Transport) (call : PendingCall) (settlement : Settlement) : Transport :=
  { s with
    jobs := s.jobs ++ [reaction call.caller settlement]
    settledCalls := s.settledCalls ++ [⟨some call.id, call.caller, settlement⟩] }

/-- A call that is refused: `Promise.reject`. -/
def refuse (s : Transport) (caller : Caller) (error : String) : Transport :=
  { s with
    jobs := s.jobs ++ [reaction caller (.rejected error)]
    settledCalls := s.settledCalls ++ [⟨none, caller, .rejected error⟩] }

/-- The call leaves `pendingCalls`, and its timer is cleared or has fired. -/
def forget (s : Transport) (id : Nat) : Transport :=
  { s with
    pendingCalls := s.pendingCalls.filter fun call => call.id ≠ id
    timers := s.timers.filter (· ≠ id) }

def rejection (reason : String) (call : PendingCall) : Settlement :=
  .rejected ("native transport call " ++ toString call.id ++ " rejected: " ++ reason)

def rejectAllPendingCalls (reason : String) (s : Transport) : Transport :=
  { s with
    pendingCalls := []
    timers := s.timers.filter fun timer => timer ∉ s.pendingCalls.map PendingCall.id
    jobs := s.jobs ++ s.pendingCalls.map fun call => reaction call.caller (rejection reason call)
    settledCalls := s.settledCalls ++
      s.pendingCalls.map fun call => ⟨some call.id, call.caller, rejection reason call⟩ }

/-! ## The port -/

section Port

variable (options : Options)

def scheduleReconnect (now : Int) (s : Transport) : Transport :=
  { s with
    reconnectAttempts := s.reconnectAttempts + 1
    nextReconnectAt := now +
      min options.reconnectMaxDelayMs (options.reconnectBaseDelayMs * 2 ^ s.reconnectAttempts) }

def markBackoff (now : Int) (reason : String) (s : Transport) : Transport :=
  let s := { s with port := none }
  let s :=
    if s.state ≠ .backoff then scheduleReconnect options now { s with state := .backoff } else s
  s.rejectAllPendingCalls reason

def handleDisconnect (now : Int) (target : Nat) (s : Transport) : Transport :=
  if s.port ≠ some target then s
  else
    let s := { s with port := none, capabilities := [], protocolVersion := .int 0, state := .backoff }
    (scheduleReconnect options now s).rejectAllPendingCalls "native port disconnected"

/-- The call with the id of a response, if it is pending. -/
def pendingCall (s : Transport) (responseId : Number) : Option PendingCall :=
  s.pendingCalls.find? fun call => responseId = .int call.id

def handleMessage (now : Int) (target : Nat) (message : Json) (s : Transport) : Transport :=
  if s.port ≠ some target then s
  else
    let s := { s with lastHostMessageAt := now }
    match resolveResponseId message with
    | some responseId =>
        match s.pendingCall responseId with
        | some call => (s.forget call.id).settle call (.resolved message)
        | none => s
    | none =>
        -- a legacy host does not echo ids
        match s.pendingCalls with
        | [call] => (s.forget call.id).settle call (.resolved message)
        | _ => s

/-- `connectNative` gives a port that was not there before. -/
def attachPort (now : Int) (s : Transport) : Transport :=
  { s with port := some s.ports, ports := s.ports + 1, lastHostMessageAt := now }

/-- The next call on a port. -/
def nextCall (s : Transport) (caller : Caller) (target : Nat) : PendingCall :=
  { id := s.nextRequestId, caller, target }

/-- A call gets its id and its timer, and is pending. -/
def issue (s : Transport) (call : PendingCall) : Transport :=
  { s with
    nextRequestId := s.nextRequestId + 1
    timers := s.timers ++ [call.id]
    pendingCalls := s.pendingCalls ++ [call] }

/-- The argument `postError` says whether `postMessage` throws. -/
def callOnPort (now : Int) (postError : Option String) (caller : Caller) (s : Transport) :
    Transport :=
  match s.port with
  | none => s.refuse caller "native transport port is not open"
  | some target =>
      let call := s.nextCall caller target
      match postError with
      | none => s.issue call
      | some error =>
          (((s.issue call).forget call.id).settle call (.rejected error)).markBackoff options now
            "postMessage failed"

def probeLivenessAfterTimeout (now : Int) (postError : Option String) (s : Transport) :
    Transport :=
  if s.stopped ∨ s.port = none ∨ s.state ≠ .ready ∨ s.livenessProbeInFlight then s
  else if now - s.lastHostMessageAt < options.livenessStaleMs then s
  else callOnPort options now postError .liveness { s with livenessProbeInFlight := true }

/-- The timer of a call. -/
def handleTimeout (now : Int) (postError : Option String) (call : PendingCall) (s : Transport) :
    Transport :=
  let s := (s.forget call.id).settle call
    (.rejected ("native transport call " ++ toString call.id ++ " timed out"))
  if call.caller = .liveness then s else s.probeLivenessAfterTimeout options now postError

/-! ## Connecting -/

def connectionUnusable (now : Int) (s : Transport) : Bool :=
  s.state = .backoff && now < s.nextReconnectAt

/-- What happens while a port is opened: `connectNative` or `postMessage` may throw. -/
structure Opening where
  connectError : Option String
  postError : Option String

/-- `connectOnce` up to its first `await`. Where `connectNative` throws there is none,
and `finally` clears the promise before it is assigned. -/
def connectOnce (now : Int) (opening : Opening) (s : Transport) : Transport :=
  if s.connectPromise.isSome ∨ s.stopped then s
  else
    let s := { s with state := .connecting, capabilities := [], protocolVersion := .int 0 }
    match opening.connectError with
    | some _ =>
        { s.markBackoff options now "connect failed" with connectPromise := some .leftBehind }
    | none =>
        { callOnPort options now opening.postError .probe (s.attachPort now) with
          connectPromise := some .underWay }

/-- `connectOnce` after the probe. Its promise wakes the waits and the extension. -/
def finishConnect (now : Int) (probe : Settlement) (s : Transport) : Transport :=
  let s :=
    match probe with
    | .rejected _ => s.markBackoff options now "connect failed"
    | .resolved response =>
        let parsed := extractResponseCapabilities response
        if !parsed.success then
          -- the error of a response that is null cannot be read
          s.markBackoff options now (if isNull response then "connect failed"
            else "capability probe failed")
        else
          { s with
            capabilities := parsed.capabilities
            protocolVersion := parsed.protocolVersion
            reconnectAttempts := 0
            nextReconnectAt := 0
            state := if parsed.capabilities.length > 0 then .ready else .legacy }
  { s with
    connectPromise := none
    jobs := s.jobs ++ s.waits.map Job.wait ++ [.caller]
    waits := [] }

/-! ## What the extension calls -/

def ensureConnected (now : Int) (opening : Opening) (s : Transport) : Transport :=
  if s.stopped then s
  else if s.state = .ready ∨ s.state = .legacy then s
  else if s.state = .connecting ∧ s.connectPromise.isSome then s
  else if s.connectionUnusable now then s
  else s.connectOnce options now opening

/-- A wait arms a timer, and listens to the promise of the connection attempt. -/
def waitForSettledConnection (s : Transport) : Transport :=
  match s.connectPromise with
  | none => s
  | some .underWay =>
      { s with
        waits := s.waits ++ [s.nextWait]
        waitTimers := s.waitTimers ++ [s.nextWait]
        nextWait := s.nextWait + 1 }
  | some .leftBehind =>
      { s with
        jobs := s.jobs ++ [.wait s.nextWait]
        waitTimers := s.waitTimers ++ [s.nextWait]
        nextWait := s.nextWait + 1 }

def waitUntilReady (now : Int) (opening : Opening) (s : Transport) : Transport :=
  if s.stopped then s
  else if s.state = .ready ∨ s.state = .legacy then s
  else if s.state = .connecting then s.waitForSettledConnection
  else if s.state = .backoff ∧ s.connectionUnusable now then s
  else (s.connectOnce options now opening).waitForSettledConnection

def call (now : Int) (postError : Option String) (s : Transport) : Transport :=
  if s.stopped then s.refuse .request "native transport is shut down"
  else if s.port = none ∨ (s.state ≠ .ready ∧ s.state ≠ .connecting) then
    s.refuse .request "native transport is not ready"
  else callOnPort options now postError .request s

def markUnhealthy (now : Int) (reason : String) (s : Transport) : Transport :=
  s.markBackoff options now reason

def shutdown (s : Transport) : Transport :=
  { rejectAllPendingCalls "transport shut down" { s with stopped := true } with
    port := none
    state := .idle }

/-! ## Steps -/

/-- The `catch` after the liveness ping. -/
def finishLiveness (now : Int) (ping : Settlement) (s : Transport) : Transport :=
  let s :=
    match ping with
    | .resolved _ => s
    | .rejected _ =>
        if s.stopped then s else s.markBackoff options now "liveness probe timed out"
  { s with jobs := s.jobs ++ [.livenessDone] }

/-- A wait ends, unless its timer ended it before. -/
def finishWait (id : Nat) (s : Transport) : Transport :=
  if id ∈ s.waitTimers then
    { s with waitTimers := s.waitTimers.filter (· ≠ id), jobs := s.jobs ++ [.caller] }
  else s

/-- A microtask. The code of the extension may have gone on to wait for something
else, and comes back. -/
def runJob (now : Int) (again : Bool) (s : Transport) : Job → Transport
  | .connect probe => s.finishConnect options now probe
  | .liveness ping => s.finishLiveness options now ping
  | .livenessDone => { s with livenessProbeInFlight := false }
  | .wait id => s.finishWait id
  | .caller => if again then { s with jobs := s.jobs ++ [.caller] } else s

inductive Event
  /-- A task in which the extension runs. -/
  | wake
  | ensureConnected (now : Int) (opening : Opening)
  | waitUntilReady (now : Int) (opening : Opening)
  | call (now : Int) (postError : Option String)
  | markUnhealthy (now : Int) (reason : String)
  | shutdown
  | message (now : Int) (target : Nat) (message : Json)
  | disconnect (now : Int) (target : Nat)
  | timeout (now : Int) (id : Nat) (postError : Option String)
  | waitTimeout (id : Nat)
  | job (now : Int) (again : Bool)

/-- The extension runs: the microtask at the head of the queue is one of its own. -/
def extensionRuns (s : Transport) : Bool :=
  match s.jobs with
  | .caller :: _ => true
  | _ => false

/-- One step of the event loop. A timer that fires is no longer armed. -/
def step (s : Transport) : Event → Option Transport
  | .wake => if s.jobs.isEmpty then some { s with jobs := [.caller] } else none
  | .ensureConnected now opening =>
      if s.extensionRuns then some (s.ensureConnected options now opening) else none
  | .waitUntilReady now opening =>
      if s.extensionRuns then some (s.waitUntilReady options now opening) else none
  | .call now postError =>
      if s.extensionRuns then some (s.call options now postError) else none
  | .markUnhealthy now reason =>
      if s.extensionRuns then some (s.markUnhealthy options now reason) else none
  | .shutdown => if s.extensionRuns then some s.shutdown else none
  | .message now target message =>
      if s.jobs.isEmpty then some (s.handleMessage now target message) else none
  | .disconnect now target =>
      if s.jobs.isEmpty then some (s.handleDisconnect options now target) else none
  | .timeout now id postError =>
      if s.jobs.isEmpty ∧ id ∈ s.timers then
        (s.pendingCalls.find? fun call => call.id = id).map fun call =>
          s.handleTimeout options now postError call
      else none
  | .waitTimeout id =>
      if s.jobs.isEmpty ∧ id ∈ s.waitTimers then some (s.finishWait id) else none
  | .job now again =>
      match s.jobs with
      | [] => none
      | job :: rest => some (runJob options now again { s with jobs := rest } job)

/-- The runs of the transport. -/
def runs : Foundation.TransitionSystem Transport Event :=
  .ofPartial (fun s => ∃ now, s = createPersistentNativeTransport now) (step options)

end Port

end Transport

end OpenPath.Extension.NativeTransport
