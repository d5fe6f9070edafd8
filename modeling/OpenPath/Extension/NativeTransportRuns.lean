/-
# The runs of the persistent native transport

Every call is settled once, by a response that is its own; the calls that are pending
were posted on the port that is open; and after a shutdown nothing is left. The
invariant accounts for the ids that were given out and for the connection attempt under
way, whose probe is pending or whose microtask is queued. It holds in the middle of a
microtask too: the jobs that are held are those taken from the queue.
-/

import OpenPath.Extension.PersistentNativeTransport
import Mathlib.Data.List.Nodup

namespace OpenPath.Extension.NativeTransport

def Job.isConnect : Job → Bool
  | .connect _ => true
  | _ => false

def PendingCall.isProbe (call : PendingCall) : Bool := call.caller = .probe

/-- A response settles the call with its id, and one without an id the probe. -/
def OwnResponse (settled : SettledCall) : Prop :=
  ∀ response, settled.settlement = .resolved response →
    ∃ id : Nat, settled.id = some id ∧
      (resolveResponseId response = some (.int id) ∨
        (resolveResponseId response = none ∧ settled.caller = .probe))

theorem ownResponse_rejected (id : Option Nat) (caller : Caller) (error : String) :
    OwnResponse ⟨id, caller, .rejected error⟩ := by
  intro response hresolved
  cases hresolved

namespace Transport

variable {options : Options} {held : List Job} {s t : Transport}

def pendingIds (s : Transport) : List Nat := s.pendingCalls.map PendingCall.id

def settledIds (s : Transport) : List Nat := s.settledCalls.filterMap SettledCall.id

theorem isConnect_reaction (call : PendingCall) (settlement : Settlement) :
    (reaction call.caller settlement).isConnect = call.isProbe := by
  rw [PendingCall.isProbe]
  cases call.caller <;> rfl

theorem reaction_rejected (caller : Caller) (error : String) (response : Json) :
    reaction caller (.rejected error) ≠ .connect (.resolved response) := by
  cases caller
  · rintro ⟨⟩
  · rintro ⟨⟩
  · rintro ⟨⟩

/-- The connection attempts under way. -/
def attempts (promise : Option ConnectPromise) : Nat := if promise = some .underWay then 1 else 0

/-- The invariant, with the jobs that were taken from the queue. -/
structure Inv (held : List Job) (s : Transport) : Prop where
  timers : s.timers = s.pendingIds
  issued : 1 ≤ s.nextRequestId
  once : (s.settledIds ++ s.pendingIds).Perm (List.range' 1 (s.nextRequestId - 1))
  own : ∀ settled ∈ s.settledCalls, OwnResponse settled
  target : ∀ call ∈ s.pendingCalls, s.port = some call.target
  connected : s.port.isSome = true ↔
    s.state = .connecting ∨ s.state = .ready ∨ s.state = .legacy
  probes : (held ++ s.jobs).countP Job.isConnect + s.pendingCalls.countP PendingCall.isProbe =
    attempts s.connectPromise
  connecting : s.state = .connecting → s.connectPromise = some .underWay
  unanswered : ∀ response, Job.connect (.resolved response) ∉ s.jobs
  waits : s.waits ≠ [] → s.connectPromise = some .underWay
  waitTimers : ∀ id ∈ s.waitTimers, id ∈ s.waits ∨ Job.wait id ∈ held ++ s.jobs
  stopped : s.stopped = true → s.state = .idle ∧ s.connectPromise ≠ some .underWay

theorem inv_createPersistentNativeTransport (now : Int) :
    Inv [] (createPersistentNativeTransport now) where
  timers := rfl
  issued := Nat.le_refl 1
  once := List.Perm.refl _
  own := by
    intro settled hsettled
    cases hsettled
  target := by
    intro call hcall
    cases hcall
  connected := by
    simp [createPersistentNativeTransport]
  probes := rfl
  connecting := by
    intro hstate
    cases hstate
  unanswered := fun _ => List.not_mem_nil
  waits := fun hwaits => absurd rfl hwaits
  waitTimers := by
    intro id hid
    cases hid
  stopped := by
    intro hstopped
    cases hstopped

/-! ## Taking and queueing jobs -/

theorem Inv.pop {job : Job} {rest : List Job} (h : Inv [] s) (hjobs : s.jobs = job :: rest) :
    Inv [job] { s with jobs := rest } where
  timers := h.timers
  issued := h.issued
  once := h.once
  own := h.own
  target := h.target
  connected := h.connected
  probes := by
    have hprobes := h.probes
    rw [hjobs] at hprobes
    exact hprobes
  connecting := h.connecting
  unanswered := by
    intro response hmem
    refine h.unanswered response ?_
    rw [hjobs]
    exact List.mem_cons_of_mem job hmem
  waits := h.waits
  waitTimers := by
    intro id hid
    have hwait := h.waitTimers id hid
    rw [hjobs] at hwait
    exact hwait
  stopped := h.stopped

/-- A job that is held goes to the end of the queue. -/
theorem Inv.enqueue {job : Job} (h : Inv (job :: held) s)
    (hplain : ∀ response, job ≠ .connect (.resolved response)) :
    Inv held { s with jobs := s.jobs ++ [job] } where
  timers := h.timers
  issued := h.issued
  once := h.once
  own := h.own
  target := h.target
  connected := h.connected
  probes := by
    rw [← h.probes]
    simp only [List.cons_append, List.countP_append, List.countP_cons, List.countP_nil]
    omega
  connecting := h.connecting
  unanswered := by
    intro response hmem
    rcases List.mem_append.mp hmem with hold | hnew
    · exact h.unanswered response hold
    · exact hplain response (List.mem_singleton.mp hnew).symm
  waits := h.waits
  waitTimers := by
    intro id hid
    refine (h.waitTimers id hid).imp_right fun hwait => ?_
    simp only [List.cons_append, List.mem_cons, List.mem_append, List.mem_nil_iff,
      or_false] at hwait ⊢
    tauto
  stopped := h.stopped

/-- A job that connects nothing may be held. -/
theorem Inv.hold {job : Job} (h : Inv held s) (hjob : job.isConnect = false) :
    Inv (job :: held) s where
  timers := h.timers
  issued := h.issued
  once := h.once
  own := h.own
  target := h.target
  connected := h.connected
  probes := by
    rw [List.cons_append, List.countP_cons_of_neg (by simp [hjob])]
    exact h.probes
  connecting := h.connecting
  unanswered := h.unanswered
  waits := h.waits
  waitTimers := fun id hid => (h.waitTimers id hid).imp_right (List.mem_cons_of_mem job)
  stopped := h.stopped

theorem Inv.push (h : Inv held s) (job : Job) (hjob : job.isConnect = false) :
    Inv held { s with jobs := s.jobs ++ [job] } := by
  refine (h.hold hjob).enqueue ?_
  rintro response rfl
  cases hjob

/-- A job that connects nothing and ends no wait is dropped. -/
theorem Inv.drop {job : Job} (h : Inv [job] s) (hjob : job.isConnect = false)
    (hwait : ∀ id ∈ s.waitTimers, job ≠ .wait id) : Inv [] s where
  timers := h.timers
  issued := h.issued
  once := h.once
  own := h.own
  target := h.target
  connected := h.connected
  probes := by
    have hprobes := h.probes
    rw [List.cons_append, List.countP_cons_of_neg (by simp [hjob])] at hprobes
    exact hprobes
  connecting := h.connecting
  unanswered := h.unanswered
  waits := h.waits
  waitTimers := by
    intro id hid
    refine (h.waitTimers id hid).imp_right fun hmem => ?_
    rcases List.mem_cons.mp hmem with hsame | hqueued
    · exact absurd hsame.symm (hwait id hid)
    · exact hqueued
  stopped := h.stopped

/-! ## Settling calls -/

theorem Inv.nodup_pendingIds (h : Inv held s) : s.pendingIds.Nodup :=
  (List.nodup_append.mp (h.once.nodup_iff.mpr List.nodup_range')).2.1

/-- A pending call and the others. -/
theorem perm_forget (hnodup : s.pendingIds.Nodup) {call : PendingCall}
    (hcall : call ∈ s.pendingCalls) :
    s.pendingCalls.Perm (call :: s.pendingCalls.filter fun other => other.id ≠ call.id) := by
  obtain ⟨before, after, hsplit⟩ := List.append_of_mem hcall
  rw [pendingIds, hsplit, List.map_append, List.map_cons] at hnodup
  have hothers : ∀ other ∈ before ++ after, other.id ≠ call.id := by
    have hnotin := (List.nodup_cons.mp (List.perm_middle.nodup_iff.mp hnodup)).1
    rw [← List.map_append] at hnotin
    exact fun other hother hid => hnotin (hid ▸ List.mem_map_of_mem hother)
  have hkept : (s.pendingCalls.filter fun other => other.id ≠ call.id) = before ++ after := by
    rw [hsplit, List.filter_append, List.filter_cons_of_neg (by simp), ← List.filter_append,
      List.filter_eq_self]
    simpa using hothers
  rw [hkept, hsplit]
  exact List.perm_middle

variable {settlement : Settlement} {state : TransportState}

section

variable (h : Inv held s)
include h

/-- A pending call is answered, and what its promise queues is held. -/
theorem Inv.answer {call : PendingCall} (hcall : call ∈ s.pendingCalls)
    (hown : OwnResponse ⟨some call.id, call.caller, settlement⟩) :
    Inv (reaction call.caller settlement :: held)
      { s.forget call.id with
        settledCalls := s.settledCalls ++ [⟨some call.id, call.caller, settlement⟩] } where
  timers := by
    change s.timers.filter _ = (s.pendingCalls.filter _).map _
    rw [h.timers, pendingIds, List.filter_map]
    rfl
  issued := h.issued
  once := by
    refine List.Perm.trans ?_ h.once
    change ((s.settledCalls ++ [_]).filterMap _ ++ (s.pendingCalls.filter _).map _).Perm
      (s.settledIds ++ s.pendingCalls.map PendingCall.id)
    rw [List.filterMap_append, List.append_assoc]
    refine List.Perm.append_left _ ?_
    exact ((perm_forget h.nodup_pendingIds hcall).map PendingCall.id).symm
  own := by
    intro settled hsettled
    rcases List.mem_append.mp hsettled with hold | hnew
    · exact h.own settled hold
    · rw [List.mem_singleton.mp hnew]
      exact hown
  target := fun other hother => h.target other (List.mem_of_mem_filter hother)
  connected := h.connected
  probes := by
    have hcount := (perm_forget h.nodup_pendingIds hcall).countP_eq PendingCall.isProbe
    have hprobes := h.probes
    rw [hcount, List.countP_cons] at hprobes
    change (reaction call.caller settlement :: (held ++ s.jobs)).countP _ +
      (s.pendingCalls.filter _).countP _ = attempts s.connectPromise
    rw [← hprobes, List.countP_cons, isConnect_reaction]
    omega
  connecting := h.connecting
  unanswered := h.unanswered
  waits := h.waits
  waitTimers := fun id hid => (h.waitTimers id hid).imp_right (List.mem_cons_of_mem _)
  stopped := h.stopped

theorem Inv.settle {call : PendingCall} (hcall : call ∈ s.pendingCalls)
    (hown : OwnResponse ⟨some call.id, call.caller, settlement⟩)
    (hplain : ∀ response, reaction call.caller settlement ≠ .connect (.resolved response)) :
    Inv held ((s.forget call.id).settle call settlement) :=
  (h.answer hcall hown).enqueue hplain

theorem Inv.reject {call : PendingCall} (hcall : call ∈ s.pendingCalls) (error : String) :
    Inv held ((s.forget call.id).settle call (.rejected error)) :=
  h.settle hcall (ownResponse_rejected _ _ error) (reaction_rejected call.caller error)

/-! ## Losing the port -/

/-- The port is lost, and with it all pending calls. -/
theorem Inv.lose (reason : String) (capabilities : List Text) (protocolVersion : Number)
    (reconnectAttempts : Nat) (nextReconnectAt : Int) (stopped : Bool)
    (hstate : state = .idle ∨ state = .backoff)
    (hstopped : stopped = true → state = .idle ∧ s.connectPromise ≠ some .underWay) :
    Inv held
      { rejectAllPendingCalls reason s with
        port := none, state, capabilities, protocolVersion, reconnectAttempts, nextReconnectAt,
        stopped } where
  timers := by
    change s.timers.filter _ = []
    rw [List.filter_eq_nil_iff, h.timers]
    intro id hid
    simpa [pendingIds] using hid
  issued := h.issued
  once := by
    refine List.Perm.trans ?_ h.once
    change ((s.settledCalls ++ s.pendingCalls.map _).filterMap _ ++ []).Perm _
    rw [List.append_nil, List.filterMap_append, List.filterMap_map]
    refine List.Perm.append_left _ ?_
    rw [pendingIds, ← List.filterMap_eq_map]
    exact List.Perm.refl _
  own := by
    intro settled hsettled
    rcases List.mem_append.mp hsettled with hold | hnew
    · exact h.own settled hold
    · obtain ⟨call, -, rfl⟩ := List.mem_map.mp hnew
      exact ownResponse_rejected _ _ _
  target := by
    intro call hcall
    cases hcall
  connected := by
    rcases hstate with rfl | rfl
    · simp
    · simp
  probes := by
    change (held ++ (s.jobs ++ s.pendingCalls.map _)).countP _ + 0 = attempts s.connectPromise
    have hmap : Job.isConnect ∘ (fun call => reaction call.caller (rejection reason call)) =
        PendingCall.isProbe := funext fun call => isConnect_reaction call (rejection reason call)
    rw [← h.probes, ← List.append_assoc, List.countP_append, List.countP_map, hmap, Nat.add_zero]
  connecting := by
    rcases hstate with rfl | rfl
    · rintro ⟨⟩
    · rintro ⟨⟩
  unanswered := by
    intro response hmem
    rcases List.mem_append.mp hmem with hold | hnew
    · exact h.unanswered response hold
    · obtain ⟨call, -, hjob⟩ := List.mem_map.mp hnew
      exact reaction_rejected call.caller _ response hjob
  waits := h.waits
  waitTimers := by
    intro id hid
    refine (h.waitTimers id hid).imp_right fun hwait => ?_
    change Job.wait id ∈ held ++ (s.jobs ++ _)
    rw [← List.append_assoc]
    exact List.mem_append_left _ hwait
  stopped := hstopped

theorem Inv.markBackoff (hstopped : s.stopped = false) (now : Int) (reason : String) :
    Inv held (s.markBackoff options now reason) := by
  have hnot : s.stopped = true →
      TransportState.backoff = .idle ∧ s.connectPromise ≠ some .underWay := by
    rw [hstopped]
    rintro ⟨⟩
  by_cases hstate : s.state = .backoff
  · have hsame : s.markBackoff options now reason =
        { rejectAllPendingCalls reason s with
          port := none, state := .backoff, capabilities := s.capabilities,
          protocolVersion := s.protocolVersion, reconnectAttempts := s.reconnectAttempts,
          nextReconnectAt := s.nextReconnectAt, stopped := s.stopped } := by
      simp [Transport.markBackoff, hstate, rejectAllPendingCalls]
    rw [hsame]
    exact h.lose reason _ _ _ _ _ (Or.inr rfl) hnot
  · have hsame : s.markBackoff options now reason =
        { rejectAllPendingCalls reason s with
          port := none, state := .backoff, capabilities := s.capabilities,
          protocolVersion := s.protocolVersion, reconnectAttempts := s.reconnectAttempts + 1,
          nextReconnectAt := now + min options.reconnectMaxDelayMs
            (options.reconnectBaseDelayMs * 2 ^ s.reconnectAttempts),
          stopped := s.stopped } := by
      simp [Transport.markBackoff, hstate, rejectAllPendingCalls, scheduleReconnect]
    rw [hsame]
    exact h.lose reason _ _ _ _ _ (Or.inr rfl) hnot

theorem Inv.stopped_of_port (hport : s.port.isSome = true) : s.stopped = false := by
  rw [Bool.eq_false_iff]
  intro hstopped
  have hidle := (h.stopped hstopped).1
  have hstate := h.connected.mp hport
  rw [hidle] at hstate
  simp at hstate

theorem Inv.handleDisconnect (now : Int) (target : Nat) :
    Inv held (s.handleDisconnect options now target) := by
  rw [Transport.handleDisconnect]
  split
  · exact h
  · rename_i hport
    have hstopped := h.stopped_of_port (s := s) (by rw [not_not.mp hport]; rfl)
    refine h.lose "native port disconnected" [] (.int 0) (s.reconnectAttempts + 1)
      (now + min options.reconnectMaxDelayMs
        (options.reconnectBaseDelayMs * 2 ^ s.reconnectAttempts)) s.stopped (Or.inr rfl) ?_
    rw [hstopped]
    rintro ⟨⟩

theorem Inv.shutdown (horderly : s.connectPromise ≠ some .underWay) : Inv held s.shutdown :=
  h.lose "transport shut down" s.capabilities s.protocolVersion s.reconnectAttempts
    s.nextReconnectAt true (Or.inl rfl) fun _ => ⟨rfl, horderly⟩

/-! ## Calls on the port -/

/-- What the clock and the liveness check remember does not matter. -/
theorem Inv.touch (lastHostMessageAt : Int) (livenessProbeInFlight : Bool) :
    Inv held { s with lastHostMessageAt, livenessProbeInFlight } :=
  ⟨h.timers, h.issued, h.once, h.own, h.target, h.connected, h.probes, h.connecting,
    h.unanswered, h.waits, h.waitTimers, h.stopped⟩

end

/-- What is held for a call that is not posted yet: a connection attempt without its
probe. -/
def awaited : Caller → List Job
  | .probe => [.connect (.rejected "")]
  | _ => []

theorem countP_awaited (s : Transport) (caller : Caller) (target : Nat) :
    (awaited caller).countP Job.isConnect =
      if (s.nextCall caller target).isProbe = true then 1 else 0 := by
  cases caller <;> rfl

theorem Inv.issue {caller : Caller} {target : Nat} (h : Inv (awaited caller) s)
    (hport : s.port = some target) : Inv [] (s.issue (s.nextCall caller target)) where
  timers := by
    change s.timers ++ [s.nextRequestId] = (s.pendingCalls ++ [_]).map _
    rw [h.timers, List.map_append]
    rfl
  issued := Nat.le_succ_of_le h.issued
  once := by
    have hissued := h.issued
    have hnext : s.nextRequestId + 1 - 1 = (s.nextRequestId - 1) + 1 := by omega
    have hlast : 1 + (s.nextRequestId - 1) = s.nextRequestId := by omega
    change (s.settledIds ++ (s.pendingCalls ++ [_]).map _).Perm
      (List.range' 1 (s.nextRequestId + 1 - 1))
    rw [hnext, List.range'_1_concat, hlast, List.map_append, ← List.append_assoc]
    exact List.Perm.append_right _ h.once
  own := h.own
  target := by
    intro call hcall
    rcases List.mem_append.mp hcall with hold | hnew
    · exact h.target call hold
    · rw [List.mem_singleton.mp hnew]
      exact hport
  connected := h.connected
  probes := by
    have hprobes := h.probes
    change s.jobs.countP _ + (s.pendingCalls ++ [_]).countP _ = attempts s.connectPromise
    rw [← hprobes, List.countP_append, List.countP_append, countP_awaited s caller target,
      List.countP_singleton]
    omega
  connecting := h.connecting
  unanswered := h.unanswered
  waits := h.waits
  waitTimers := by
    intro id hid
    refine (h.waitTimers id hid).imp_right fun hwait => ?_
    rcases List.mem_append.mp hwait with hheld | hqueued
    · exfalso
      cases caller with
      | probe => cases List.mem_singleton.mp hheld
      | liveness => cases hheld
      | request => cases hheld
    · exact hqueued
  stopped := h.stopped

theorem Inv.callOnPort {caller : Caller} (h : Inv (awaited caller) s)
    (hport : s.port.isSome = true) (now : Int) (postError : Option String) :
    Inv [] (callOnPort options now postError caller s) := by
  rw [Transport.callOnPort]
  split
  · rename_i hnone
    rw [hnone] at hport
    cases hport
  · rename_i target htarget
    have hissued := h.issue htarget
    cases postError with
    | none => exact hissued
    | some error =>
        have hcall : s.nextCall caller target ∈ (s.issue (s.nextCall caller target)).pendingCalls :=
          List.mem_append_right _ List.mem_cons_self
        exact (hissued.reject hcall error).markBackoff (h.stopped_of_port hport) now _

theorem Inv.refuse (h : Inv [] s) (error : String) : Inv [] (s.refuse .request error) where
  timers := h.timers
  issued := h.issued
  once := by
    change ((s.settledCalls ++ [_]).filterMap _ ++ s.pendingIds).Perm _
    rw [List.filterMap_append]
    exact (List.append_nil s.settledIds).symm ▸ h.once
  own := by
    intro settled hsettled
    rcases List.mem_append.mp hsettled with hold | hnew
    · exact h.own settled hold
    · rw [List.mem_singleton.mp hnew]
      exact ownResponse_rejected _ _ _
  target := h.target
  connected := h.connected
  probes := (h.push .caller rfl).probes
  connecting := h.connecting
  unanswered := (h.push .caller rfl).unanswered
  waits := h.waits
  waitTimers := (h.push .caller rfl).waitTimers
  stopped := h.stopped

theorem Inv.call (h : Inv [] s) (now : Int) (postError : Option String) :
    Inv [] (s.call options now postError) := by
  rw [Transport.call]
  split
  · exact h.refuse _
  split
  · exact h.refuse _
  · rename_i hopen
    have hport : s.port.isSome = true :=
      Option.isSome_iff_ne_none.mpr fun hnone => hopen (Or.inl hnone)
    have hrequest : Inv (awaited .request) s := h
    exact hrequest.callOnPort hport now postError

theorem Inv.probeLivenessAfterTimeout (h : Inv [] s) (now : Int) (postError : Option String) :
    Inv [] (s.probeLivenessAfterTimeout options now postError) := by
  rw [Transport.probeLivenessAfterTimeout]
  split
  · exact h
  split
  · exact h
  · rename_i hcheck _
    simp only [not_or] at hcheck
    have hliveness : Inv (awaited .liveness) { s with livenessProbeInFlight := true } :=
      h.touch s.lastHostMessageAt true
    exact hliveness.callOnPort (Option.isSome_iff_ne_none.mpr hcheck.2.1) now postError

theorem Inv.handleTimeout (h : Inv [] s) {call : PendingCall} (hcall : call ∈ s.pendingCalls)
    (now : Int) (postError : Option String) :
    Inv [] (s.handleTimeout options now postError call) := by
  have hrejected := h.reject hcall
    ("native transport call " ++ toString call.id ++ " timed out")
  rw [Transport.handleTimeout]
  split
  · exact hrejected
  · exact hrejected.probeLivenessAfterTimeout now postError

/-! ## Connecting -/

theorem Inv.pendingCalls_eq_nil (h : Inv held s) (hport : s.port = none) :
    s.pendingCalls = [] := by
  rw [List.eq_nil_iff_forall_not_mem]
  intro call hcall
  have htarget := h.target call hcall
  rw [hport] at htarget
  cases htarget

/-- The connection attempt starts, with its probe to be posted. -/
theorem Inv.attach (h : Inv [] s) (hpromise : s.connectPromise = none) (hport : s.port = none)
    (hstopped : s.stopped = false) (now : Int) :
    Inv (awaited .probe)
      { s with
        state := .connecting, capabilities := [], protocolVersion := .int 0,
        port := some s.ports, ports := s.ports + 1, lastHostMessageAt := now,
        connectPromise := some .underWay } where
  timers := h.timers
  issued := h.issued
  once := h.once
  own := h.own
  target := by
    intro call hcall
    rw [h.pendingCalls_eq_nil hport] at hcall
    cases hcall
  connected := by simp
  probes := by
    have hprobes := h.probes
    rw [hpromise, List.nil_append] at hprobes
    change (_ :: s.jobs).countP _ + s.pendingCalls.countP _ = 1
    rw [List.countP_cons_of_pos rfl]
    change _ = 0 at hprobes
    omega
  connecting := fun _ => rfl
  unanswered := h.unanswered
  waits := fun _ => rfl
  waitTimers := fun id hid => (h.waitTimers id hid).imp_right (List.mem_cons_of_mem _)
  stopped := by
    intro hidle
    rw [hstopped] at hidle
    cases hidle

/-- Posting the probe does not look at the promise of the attempt. -/
theorem callOnPort_connectPromise (now : Int) (postError : Option String) (caller : Caller)
    (promise : Option ConnectPromise) :
    { callOnPort options now postError caller s with connectPromise := promise } =
      callOnPort options now postError caller { s with connectPromise := promise } := by
  obtain ⟨state, port⟩ := s
  cases port with
  | none => rfl
  | some target =>
      cases postError with
      | none => rfl
      | some error => cases state <;> rfl

/-- Nothing is under way: a promise that is settled may be left behind. -/
theorem Inv.leaveBehind (h : Inv held s) (hpromise : s.connectPromise ≠ some .underWay) :
    Inv held { s with connectPromise := some .leftBehind } where
  timers := h.timers
  issued := h.issued
  once := h.once
  own := h.own
  target := h.target
  connected := h.connected
  probes := by
    have hprobes := h.probes
    rw [attempts, if_neg hpromise] at hprobes
    exact hprobes
  connecting := fun hstate => absurd (h.connecting hstate) hpromise
  unanswered := h.unanswered
  waits := fun hwaits => absurd (h.waits hwaits) hpromise
  waitTimers := h.waitTimers
  stopped := by
    intro hstopped
    refine ⟨(h.stopped hstopped).1, ?_⟩
    rintro ⟨⟩

theorem Inv.connectOnce (h : Inv [] s)
    (hstate : ¬ (s.state = .ready ∨ s.state = .legacy)) (now : Int) (opening : Opening) :
    Inv [] (s.connectOnce options now opening) := by
  rw [Transport.connectOnce]
  split
  · exact h
  rename_i hidle
  simp only [not_or, Bool.not_eq_true, Option.isSome_eq_false_iff,
    Option.isNone_iff_eq_none] at hidle
  obtain ⟨hpromise, hstopped⟩ := hidle
  have hport : s.port = none := by
    rw [← Option.not_isSome_iff_eq_none, h.connected]
    rintro (hconnecting | hconnected)
    · have hunderWay := h.connecting hconnecting
      rw [hpromise] at hunderWay
      cases hunderWay
    · exact hstate hconnected
  have hattached := h.attach hpromise hport hstopped now
  split
  · have hlost : Inv []
        { rejectAllPendingCalls "connect failed" s with
          port := none, state := .backoff, capabilities := [], protocolVersion := .int 0,
          reconnectAttempts := s.reconnectAttempts + 1,
          nextReconnectAt := now + min options.reconnectMaxDelayMs
            (options.reconnectBaseDelayMs * 2 ^ s.reconnectAttempts),
          stopped := s.stopped } := by
      refine h.lose _ _ _ _ _ _ (Or.inr rfl) ?_
      rw [hstopped]
      rintro ⟨⟩
    refine hlost.leaveBehind ?_
    change s.connectPromise ≠ _
    rw [hpromise]
    rintro ⟨⟩
  · rw [callOnPort_connectPromise]
    exact hattached.callOnPort rfl now opening.postError

theorem Inv.waitForSettledConnection (h : Inv [] s) : Inv [] s.waitForSettledConnection := by
  rw [Transport.waitForSettledConnection]
  split
  · exact h
  · rename_i hunderWay
    exact
      { h with
        waits := fun _ => hunderWay
        waitTimers := by
          intro id hid
          rcases List.mem_append.mp hid with hold | hnew
          · exact (h.waitTimers id hold).imp_left (List.mem_append_left _)
          · exact Or.inl (List.mem_append_right _ hnew) }
  · have hpushed := h.push (.wait s.nextWait) rfl
    exact
      { hpushed with
        waitTimers := by
          intro id hid
          rcases List.mem_append.mp hid with hold | hnew
          · exact hpushed.waitTimers id hold
          · rw [List.mem_singleton.mp hnew]
            exact Or.inr (List.mem_append_right s.jobs List.mem_cons_self) }

theorem Inv.ensureConnected (h : Inv [] s) (now : Int) (opening : Opening) :
    Inv [] (s.ensureConnected options now opening) := by
  rw [Transport.ensureConnected]
  split
  · exact h
  split
  · exact h
  · rename_i hstate
    split
    · exact h
    split
    · exact h
    · exact h.connectOnce hstate now opening

theorem Inv.waitUntilReady (h : Inv [] s) (now : Int) (opening : Opening) :
    Inv [] (s.waitUntilReady options now opening) := by
  rw [Transport.waitUntilReady]
  split
  · exact h
  split
  · exact h
  · rename_i hstate
    split
    · exact h.waitForSettledConnection
    split
    · exact h
    · exact (h.connectOnce hstate now opening).waitForSettledConnection

variable {probe : Settlement}

theorem Inv.underWay_of_held (h : Inv [.connect probe] s) :
    s.connectPromise = some .underWay ∧ s.jobs.countP Job.isConnect = 0 ∧
      s.pendingCalls.countP PendingCall.isProbe = 0 := by
  have hprobes := h.probes
  rw [List.singleton_append, List.countP_cons_of_pos rfl, attempts] at hprobes
  split at hprobes
  · rename_i hunderWay
    exact ⟨hunderWay, by omega, by omega⟩
  · omega

theorem Inv.stopped_of_held (h : Inv [.connect probe] s) : s.stopped = false := by
  rw [Bool.eq_false_iff]
  exact fun hstopped => (h.stopped hstopped).2 h.underWay_of_held.1

/-- The promise of the attempt is settled, and wakes those who wait for it. -/
theorem Inv.endAttempt (h : Inv [.connect probe] s) (hstate : s.state ≠ .connecting) :
    Inv []
      { s with
        connectPromise := none
        jobs := s.jobs ++ s.waits.map Job.wait ++ [.caller]
        waits := [] } where
  timers := h.timers
  issued := h.issued
  once := h.once
  own := h.own
  target := h.target
  connected := h.connected
  probes := by
    obtain ⟨-, hjobs, hpending⟩ := h.underWay_of_held
    have hwaits : (s.waits.map Job.wait).countP Job.isConnect = 0 := by
      rw [List.countP_eq_zero]
      simp [Job.isConnect]
    change (s.jobs ++ s.waits.map Job.wait ++ [Job.caller]).countP _ + s.pendingCalls.countP _ = 0
    rw [List.countP_append, List.countP_append, hjobs, hwaits, hpending]
    rfl
  connecting := fun hconnecting => absurd hconnecting hstate
  unanswered := by
    intro response hmem
    rcases List.mem_append.mp hmem with hmem | hcaller
    · rcases List.mem_append.mp hmem with hold | hwait
      · exact h.unanswered response hold
      · simp at hwait
    · simp at hcaller
  waits := fun hwaits => absurd rfl hwaits
  waitTimers := by
    intro id hid
    right
    change Job.wait id ∈ s.jobs ++ s.waits.map Job.wait ++ [Job.caller]
    rcases h.waitTimers id hid with hwait | hqueued
    · simp [hwait]
    · rw [List.singleton_append, List.mem_cons] at hqueued
      rcases hqueued with hheld | hqueued
      · cases hheld
      · simp [hqueued]
  stopped := by
    intro hstopped
    have hrunning : s.stopped = false := h.stopped_of_held
    rw [hrunning] at hstopped
    cases hstopped

theorem state_markBackoff (now : Int) (reason : String) :
    (s.markBackoff options now reason).state = .backoff := by
  by_cases hstate : s.state = .backoff
  · simp [Transport.markBackoff, hstate, rejectAllPendingCalls]
  · simp [Transport.markBackoff, hstate, rejectAllPendingCalls, scheduleReconnect]

/-- The probe was answered on the port, and the host serves calls. -/
theorem Inv.probed (h : Inv held s) (hport : s.port.isSome = true)
    (hstate : state = .ready ∨ state = .legacy) (capabilities : List Text)
    (protocolVersion : Number) :
    Inv held
      { s with
        capabilities, protocolVersion, reconnectAttempts := 0, nextReconnectAt := 0, state } where
  timers := h.timers
  issued := h.issued
  once := h.once
  own := h.own
  target := h.target
  connected := iff_of_true hport (Or.inr hstate)
  probes := h.probes
  connecting := by
    rcases hstate with rfl | rfl
    · rintro ⟨⟩
    · rintro ⟨⟩
  unanswered := h.unanswered
  waits := h.waits
  waitTimers := h.waitTimers
  stopped := by
    intro hstopped
    have hrunning : s.stopped = false := h.stopped_of_port hport
    rw [hrunning] at hstopped
    cases hstopped

theorem Inv.finishConnect (h : Inv [.connect probe] s)
    (hanswered : ∀ response, probe = .resolved response → s.port.isSome = true) (now : Int) :
    Inv [] (s.finishConnect options now probe) := by
  have hfailed : ∀ reason, Inv []
      { s.markBackoff options now reason with
        connectPromise := none
        jobs := (s.markBackoff options now reason).jobs ++
          (s.markBackoff options now reason).waits.map Job.wait ++ [.caller]
        waits := [] } := by
    intro reason
    refine (h.markBackoff h.stopped_of_held now reason).endAttempt ?_
    rw [state_markBackoff]
    rintro ⟨⟩
  cases probe with
  | rejected error => exact hfailed _
  | resolved response =>
      rw [Transport.finishConnect]
      dsimp only
      split
      · exact hfailed _
      · have hstate : ∀ names : List Text,
            (if names.length > 0 then TransportState.ready else .legacy) = .ready ∨
              (if names.length > 0 then TransportState.ready else .legacy) = .legacy := by
          intro names
          split
          · exact Or.inl rfl
          · exact Or.inr rfl
        have hnames := hstate (extractResponseCapabilities response).capabilities
        refine (h.probed (hanswered response rfl) hnames _ _).endAttempt ?_
        change (if _ then TransportState.ready else .legacy) ≠ .connecting
        split
        · rintro ⟨⟩
        · rintro ⟨⟩

/-! ## Messages and microtasks -/

/-- The invariant between steps. The answer to the probe is followed by its microtask,
before which the extension cannot run. -/
def Holds (s : Transport) : Prop :=
  Inv [] s ∨ ∃ response, s.jobs = [.connect (.resolved response)] ∧ s.port.isSome = true ∧
    Inv [.connect (.resolved response)] { s with jobs := [] }

theorem Inv.answered (h : Inv [] s) (hjobs : s.jobs = []) (hport : s.port.isSome = true)
    {call : PendingCall} (hcall : call ∈ s.pendingCalls) {message : Json}
    (hown : OwnResponse ⟨some call.id, call.caller, .resolved message⟩) :
    Holds ((s.forget call.id).settle call (.resolved message)) := by
  by_cases hprobe : call.caller = .probe
  · have hreaction : reaction call.caller (.resolved message) = .connect (.resolved message) := by
      rw [hprobe]
      rfl
    have hanswered := h.answer hcall hown
    rw [hreaction] at hanswered
    refine Or.inr ⟨message, ?_, hport, ?_⟩
    · change s.jobs ++ [reaction call.caller _] = _
      rw [hjobs, hreaction]
      rfl
    · have hcleared :
          { (s.forget call.id).settle call (.resolved message) with jobs := [] } =
            { s.forget call.id with
              settledCalls := s.settledCalls ++
                [⟨some call.id, call.caller, .resolved message⟩] } := by
        simp [Transport.settle, forget, hjobs]
      rw [hcleared]
      exact hanswered
  · refine Or.inl (h.settle hcall hown fun response => ?_)
    cases hcaller : call.caller with
    | probe => exact absurd hcaller hprobe
    | liveness => rintro ⟨⟩
    | request => rintro ⟨⟩

/-- The steps that keep the calls apart: a message without an id comes only when it can
be for the probe, and after a shutdown, for which no connection attempt is under way,
the transport is left alone. -/
def Orderly (s : Transport) : Event → Prop
  | .shutdown => s.connectPromise ≠ some .underWay
  | .markUnhealthy _ _ => s.stopped = false
  | .message _ target message =>
      s.port = some target → resolveResponseId message = none → s.pendingCalls.length = 1 →
        ∀ call ∈ s.pendingCalls, call.caller = .probe
  | _ => True

instance (s : Transport) (event : Event) : Decidable (Orderly s event) :=
  match event with
  | .shutdown => inferInstanceAs (Decidable (_ ≠ _))
  | .markUnhealthy _ _ => inferInstanceAs (Decidable (_ = _))
  | .message _ _ _ => inferInstanceAs (Decidable (_ → _ → _ → _))
  | .wake | .ensureConnected _ _ | .waitUntilReady _ _ | .call _ _ | .disconnect _ _
  | .timeout _ _ _ | .waitTimeout _ | .job _ _ => instDecidableTrue

theorem Inv.handleMessage (h : Inv [] s) (hjobs : s.jobs = []) {now : Int} {target : Nat}
    {message : Json} (horderly : Orderly s (.message now target message)) :
    Holds (s.handleMessage now target message) := by
  have htouched := h.touch now s.livenessProbeInFlight
  rw [Transport.handleMessage]
  split
  · exact Or.inl h
  rename_i hport
  rw [not_not] at hport
  have hisSome : s.port.isSome = true := by rw [hport]; rfl
  cases hid : resolveResponseId message with
  | some responseId =>
      dsimp only
      split
      · rename_i call hcall
        have hmem : call ∈ s.pendingCalls := List.mem_of_find?_eq_some hcall
        have hsame : responseId = .int call.id := by simpa using List.find?_some hcall
        refine htouched.answered hjobs hisSome hmem ?_
        rintro _ ⟨⟩
        exact ⟨call.id, rfl, Or.inl (hid.trans (congrArg some hsame))⟩
      · exact Or.inl htouched
  | none =>
      dsimp only
      split
      · rename_i call hsingle
        change s.pendingCalls = [call] at hsingle
        have hmem : call ∈ s.pendingCalls := by
          rw [hsingle]
          exact List.mem_cons_self
        have hone : s.pendingCalls.length = 1 := by
          rw [hsingle]
          rfl
        refine htouched.answered hjobs hisSome hmem ?_
        rintro _ ⟨⟩
        exact ⟨call.id, rfl, Or.inr ⟨hid, horderly hport hid hone call hmem⟩⟩
      · exact Or.inl htouched

theorem Inv.finishLiveness {ping : Settlement} (h : Inv [.liveness ping] s) (now : Int) :
    Inv [] (s.finishLiveness options now ping) := by
  have hdropped : Inv [] s := h.drop rfl (by rintro id - ⟨⟩)
  cases ping with
  | resolved response => exact hdropped.push .livenessDone rfl
  | rejected error =>
      refine Inv.push ?_ .livenessDone rfl
      dsimp only
      split
      · exact hdropped
      · rename_i hstopped
        exact hdropped.markBackoff (Bool.eq_false_iff.mpr hstopped) now _

variable {id : Nat}

/-- The timer of a wait is cleared, or has fired. -/
theorem Inv.finishWait (h : Inv [.wait id] s) : Inv [] (s.finishWait id) := by
  rw [Transport.finishWait]
  split
  · have hkept : Inv [.wait id] { s with waitTimers := s.waitTimers.filter (· ≠ id) } :=
      { h with waitTimers := fun other hother => h.waitTimers other (List.mem_of_mem_filter hother) }
    have hdropped : Inv [] { s with waitTimers := s.waitTimers.filter (· ≠ id) } := by
      refine hkept.drop rfl ?_
      intro other hother hsame
      obtain rfl : id = other := by
        cases hsame
        rfl
      simpa using List.of_mem_filter hother
    exact hdropped.push .caller rfl
  · rename_i hid
    refine h.drop rfl ?_
    intro other hother hsame
    obtain rfl : id = other := by
      cases hsame
      rfl
    exact hid hother

theorem Inv.runJob {job : Job} (h : Inv [job] s)
    (hanswered : ∀ response, job = .connect (.resolved response) → s.port.isSome = true)
    (now : Int) (again : Bool) : Inv [] (runJob options now again s job) := by
  cases job with
  | connect probe =>
      refine h.finishConnect (fun response hresolved => hanswered response ?_) now
      rw [hresolved]
  | liveness ping => exact h.finishLiveness now
  | livenessDone =>
      have hdropped : Inv [] s := h.drop rfl (by rintro id - ⟨⟩)
      exact hdropped.touch s.lastHostMessageAt false
  | wait id => exact h.finishWait
  | caller =>
      have hdropped : Inv [] s := h.drop rfl (by rintro id - ⟨⟩)
      rw [Transport.runJob]
      split
      · exact hdropped.push .caller rfl
      · exact hdropped

/-! ## Steps -/

theorem eq_of_guarded {p : Prop} [Decidable p] (hstep : (if p then some s else none) = some t) :
    t = s :=
  (Option.some.inj (Option.ite_none_right_eq_some.mp hstep).2).symm

theorem Inv.step {event : Event} (h : Inv [] s) (horderly : Orderly s event)
    (hstep : step options s event = some t) : Holds t := by
  cases event with
  | wake =>
      obtain ⟨hjobs, hnext⟩ := Option.ite_none_right_eq_some.mp hstep
      obtain rfl := Option.some.inj hnext
      have hpushed := h.push .caller rfl
      rw [List.isEmpty_iff.mp hjobs] at hpushed
      exact Or.inl hpushed
  | ensureConnected now opening =>
      obtain rfl := eq_of_guarded hstep
      exact Or.inl (h.ensureConnected now opening)
  | waitUntilReady now opening =>
      obtain rfl := eq_of_guarded hstep
      exact Or.inl (h.waitUntilReady now opening)
  | call now postError =>
      obtain rfl := eq_of_guarded hstep
      exact Or.inl (h.call now postError)
  | markUnhealthy now reason =>
      obtain rfl := eq_of_guarded hstep
      exact Or.inl (h.markBackoff horderly now reason)
  | shutdown =>
      obtain rfl := eq_of_guarded hstep
      exact Or.inl (h.shutdown horderly)
  | message now target message =>
      obtain ⟨hjobs, hnext⟩ := Option.ite_none_right_eq_some.mp hstep
      obtain rfl := Option.some.inj hnext
      exact h.handleMessage (List.isEmpty_iff.mp hjobs) horderly
  | disconnect now target =>
      obtain rfl := eq_of_guarded hstep
      exact Or.inl (h.handleDisconnect now target)
  | timeout now id postError =>
      obtain ⟨-, hnext⟩ := Option.ite_none_right_eq_some.mp hstep
      obtain ⟨call, hcall, rfl⟩ := Option.map_eq_some_iff.mp hnext
      exact Or.inl (h.handleTimeout (List.mem_of_find?_eq_some hcall) now postError)
  | waitTimeout id =>
      obtain rfl := eq_of_guarded hstep
      exact Or.inl (h.hold rfl).finishWait
  | job now again =>
      cases hjobs : s.jobs with
      | nil => simp [Transport.step, hjobs] at hstep
      | cons job rest =>
          simp only [Transport.step, hjobs, Option.some.injEq] at hstep
          obtain rfl := hstep
          refine Or.inl ((h.pop hjobs).runJob ?_ now again)
          rintro response rfl
          refine absurd ?_ (h.unanswered response)
          rw [hjobs]
          exact List.mem_cons_self

theorem Holds.step {event : Event} (h : Holds s) (horderly : Orderly s event)
    (hstep : step options s event = some t) : Holds t := by
  rcases h with h | ⟨response, hjobs, hport, h⟩
  · exact h.step horderly hstep
  · -- the microtask that follows the answer to the probe comes first
    cases event with
    | job now again =>
        simp only [Transport.step, hjobs, Option.some.injEq] at hstep
        obtain rfl := hstep
        exact Or.inl (h.runJob (fun _ _ => hport) now again)
    | _ => simp [Transport.step, hjobs, extensionRuns] at hstep

theorem holds_of_reachable (hreach : (runs options).ReachableBy Orderly s) : Holds s := by
  refine hreach.invariant ?_ ?_
  · rintro state ⟨now, rfl⟩
    exact Or.inl (inv_createPersistentNativeTransport now)
  · intro source event target hholds horderly hstep
    exact hholds.step horderly hstep

/-! ## What the runs guarantee -/

/-- The calls of a state of a run. -/
structure Sound (options : Options) (s : Transport) : Prop where
  /-- Every call that got an id is either settled, once, or still waits with its timer
  armed. -/
  once : ∀ id, 1 ≤ id → id < s.nextRequestId →
    (s.settledIds.count id = 1 ∧ id ∉ s.pendingIds ∧ id ∉ s.timers) ∨
      (s.settledIds.count id = 0 ∧ id ∈ s.pendingIds ∧ id ∈ s.timers)
  /-- The timer of a call settles it. -/
  fires : ∀ id ∈ s.timers, s.jobs = [] → ∀ now postError, ∃ t,
    step options s (.timeout now id postError) = some t ∧ t.settledIds.count id = 1
  /-- A call without an id was refused. -/
  own : ∀ settled ∈ s.settledCalls, OwnResponse settled
  isOpen : s.state = .ready ∨ s.state = .legacy → s.port.isSome = true
  target : ∀ call ∈ s.pendingCalls, s.port = some call.target
  /-- After a shutdown nothing is left, but for waits that the microtasks will end, and
  no step opens a port. -/
  quiet : s.stopped = true → s.state = .idle ∧ s.port = none ∧ s.timers = [] ∧
    s.connectPromise ≠ some .underWay ∧ (s.jobs = [] → s.waitTimers = []) ∧
    ∀ event t, step options s event = some t → t.ports = s.ports

theorem Inv.once_each (h : Inv held s) (hpos : 1 ≤ id) (hissued : id < s.nextRequestId) :
    (s.settledIds.count id = 1 ∧ id ∉ s.pendingIds ∧ id ∉ s.timers) ∨
      (s.settledIds.count id = 0 ∧ id ∈ s.pendingIds ∧ id ∈ s.timers) := by
  have hmem : id ∈ List.range' 1 (s.nextRequestId - 1) := by
    rw [List.mem_range'_1]
    omega
  have hcount : s.settledIds.count id + s.pendingIds.count id = 1 := by
    rw [← List.count_append, h.once.count_eq]
    exact List.count_eq_one_of_mem List.nodup_range' hmem
  rw [h.timers]
  by_cases hpending : id ∈ s.pendingIds
  · have hpositive := List.count_pos_iff.mpr hpending
    exact Or.inr ⟨by omega, hpending, hpending⟩
  · have hzero := List.count_eq_zero.mpr hpending
    exact Or.inl ⟨by omega, hpending, hpending⟩

theorem settledCalls_markBackoff (now : Int) (reason : String) :
    s.settledCalls <+: (s.markBackoff options now reason).settledCalls := by
  rw [Transport.markBackoff, rejectAllPendingCalls]
  dsimp only
  split <;> exact List.prefix_append _ _

theorem settledCalls_callOnPort (now : Int) (postError : Option String) (caller : Caller) :
    s.settledCalls <+: (callOnPort options now postError caller s).settledCalls := by
  rw [callOnPort]
  split
  · exact List.prefix_append _ _
  · cases postError with
    | none => exact List.prefix_refl _
    | some error =>
        refine List.IsPrefix.trans ?_ (settledCalls_markBackoff now _)
        exact List.prefix_append _ _

theorem settledIds_handleTimeout (now : Int) (postError : Option String) (call : PendingCall) :
    call.id ∈ (s.handleTimeout options now postError call).settledIds := by
  have hsettled : call.id ∈ ((s.forget call.id).settle call
      (.rejected ("native transport call " ++ toString call.id ++ " timed out"))).settledIds := by
    rw [settledIds, Transport.settle, List.filterMap_append]
    exact List.mem_append_right _ List.mem_cons_self
  rw [Transport.handleTimeout, Transport.probeLivenessAfterTimeout]
  split
  · exact hsettled
  split
  · exact hsettled
  split
  · exact hsettled
  · exact ((settledCalls_callOnPort now postError .liveness).filterMap SettledCall.id).subset
      hsettled

theorem Inv.fires (h : Inv [] s) (hid : id ∈ s.timers) (hjobs : s.jobs = []) (now : Int)
    (postError : Option String) :
    ∃ t, Transport.step options s (.timeout now id postError) = some t ∧
      t.settledIds.count id = 1 := by
  have hpending : id ∈ s.pendingIds := h.timers ▸ hid
  obtain ⟨call, hcall, hsame⟩ := List.mem_map.mp hpending
  have hsome : (s.pendingCalls.find? fun other => other.id = id).isSome = true := by
    rw [List.find?_isSome]
    exact ⟨call, hcall, by simpa using hsame⟩
  obtain ⟨found, hfound⟩ := Option.isSome_iff_exists.mp hsome
  have hmem : found ∈ s.pendingCalls := List.mem_of_find?_eq_some hfound
  have hfoundId : found.id = id := by simpa using List.find?_some hfound
  have hnext : Inv [] (s.handleTimeout options now postError found) :=
    h.handleTimeout hmem now postError
  refine ⟨s.handleTimeout options now postError found, ?_, ?_⟩
  · rw [Transport.step, if_pos ⟨List.isEmpty_iff.mpr hjobs, hid⟩, hfound]
    rfl
  · have hnodup := (List.nodup_append.mp (hnext.once.nodup_iff.mpr List.nodup_range')).1
    rw [← hfoundId]
    exact List.count_eq_one_of_mem hnodup (settledIds_handleTimeout now postError found)

theorem ports_markBackoff (now : Int) (reason : String) :
    (s.markBackoff options now reason).ports = s.ports := by
  rw [Transport.markBackoff, rejectAllPendingCalls]
  dsimp only
  split <;> rfl

/-- After a shutdown no step opens a port. -/
theorem Inv.ports_step {event : Event} (h : Inv [] s) (hstopped : s.stopped = true)
    (hstep : Transport.step options s event = some t) : t.ports = s.ports := by
  have hport : s.port = none := by
    rw [← Option.not_isSome_iff_eq_none, h.connected, (h.stopped hstopped).1]
    simp
  have hother : ∀ target, s.port ≠ some target := by
    intro target
    rw [hport]
    rintro ⟨⟩
  cases event with
  | wake =>
      obtain rfl := eq_of_guarded hstep
      rfl
  | ensureConnected now opening =>
      obtain rfl := eq_of_guarded hstep
      rw [Transport.ensureConnected, if_pos hstopped]
  | waitUntilReady now opening =>
      obtain rfl := eq_of_guarded hstep
      rw [Transport.waitUntilReady, if_pos hstopped]
  | call now postError =>
      obtain rfl := eq_of_guarded hstep
      rw [Transport.call, if_pos hstopped]
      rfl
  | markUnhealthy now reason =>
      obtain rfl := eq_of_guarded hstep
      exact ports_markBackoff now reason
  | shutdown =>
      obtain rfl := eq_of_guarded hstep
      rfl
  | message now target message =>
      obtain rfl := eq_of_guarded hstep
      rw [Transport.handleMessage, if_pos (hother target)]
  | disconnect now target =>
      obtain rfl := eq_of_guarded hstep
      rw [Transport.handleDisconnect, if_pos (hother target)]
  | timeout now id postError =>
      obtain ⟨⟨-, hid⟩, -⟩ := Option.ite_none_right_eq_some.mp hstep
      rw [h.timers, pendingIds, h.pendingCalls_eq_nil hport] at hid
      cases hid
  | waitTimeout id =>
      obtain rfl := eq_of_guarded hstep
      rw [Transport.finishWait]
      split <;> rfl
  | job now again =>
      cases hjobs : s.jobs with
      | nil => simp [Transport.step, hjobs] at hstep
      | cons job rest =>
          simp only [Transport.step, hjobs, Option.some.injEq] at hstep
          obtain rfl := hstep
          cases job with
          | connect probe =>
              have hrunning : s.stopped = false := (h.pop hjobs).stopped_of_held
              rw [hrunning] at hstopped
              cases hstopped
          | liveness ping =>
              cases ping with
              | resolved response => rfl
              | rejected error => simp [Transport.runJob, Transport.finishLiveness, hstopped]
          | livenessDone => rfl
          | wait id =>
              rw [Transport.runJob, Transport.finishWait]
              split <;> rfl
          | caller =>
              rw [Transport.runJob]
              split <;> rfl

theorem Inv.quiet (h : Inv [] s) (hstopped : s.stopped = true) :
    s.state = .idle ∧ s.port = none ∧ s.timers = [] ∧
      s.connectPromise ≠ some .underWay ∧ (s.jobs = [] → s.waitTimers = []) ∧
      ∀ event t, Transport.step options s event = some t → t.ports = s.ports := by
  obtain ⟨hidle, hpromise⟩ := h.stopped hstopped
  have hport : s.port = none := by
    rw [← Option.not_isSome_iff_eq_none, h.connected, hidle]
    simp
  refine ⟨hidle, hport, ?_, hpromise, ?_, fun event t hstep => h.ports_step hstopped hstep⟩
  · rw [h.timers, pendingIds, h.pendingCalls_eq_nil hport, List.map_nil]
  · intro hjobs
    rw [List.eq_nil_iff_forall_not_mem]
    intro id hid
    rcases h.waitTimers id hid with hwait | hqueued
    · exact hpromise (h.waits (List.ne_nil_of_mem hwait))
    · rw [hjobs] at hqueued
      cases hqueued

/-- In every run whose steps are orderly. -/
theorem sound_of_orderly (hreach : (runs options).ReachableBy Orderly s) : Sound options s := by
  rcases holds_of_reachable hreach with h | ⟨response, hjobs, hport, h⟩
  · exact
      { once := fun id hpos hissued => h.once_each hpos hissued
        fires := fun id hid hjobs now postError => h.fires hid hjobs now postError
        own := h.own
        isOpen := fun hstate => h.connected.mpr (Or.inr hstate)
        target := h.target
        quiet := h.quiet }
  · exact
      { once := fun id hpos hissued => h.once_each hpos hissued
        fires := by
          intro id hid hnone
          rw [hjobs] at hnone
          cases hnone
        own := h.own
        isOpen := fun _ => hport
        target := h.target
        quiet := by
          intro hstopped
          have hrunning : s.stopped = false := h.stopped_of_held
          rw [hrunning] at hstopped
          cases hstopped }

/-! ## Runs on an example -/

open Foundation.TransitionSystem (runBy reachableBy_runBy)

def sampleOptions : Options where
  livenessStaleMs := 15000
  reconnectBaseDelayMs := 1000
  reconnectMaxDelayMs := 30000

/-- The answer of a host to the probe. -/
def pong : Json :=
  .object [("success".toList, .bool true), ("id".toList, .int 1),
    ("capabilities".toList, .array [.string "message-id-echo".toList])]

/-- An answer without an id. -/
def anonymous : Json := .object [("success".toList, .bool true)]

/-- The extension connects, the host answers, and the extension makes a call. -/
def connected : List Event :=
  [.wake, .ensureConnected 0 ⟨none, none⟩, .job 0 false, .message 1 0 pong, .job 1 false,
    .call 2 none, .job 2 false]

theorem reachable_fresh (condition : Transport → Event → Prop) :
    (runs sampleOptions).ReachableBy condition (createPersistentNativeTransport 0) :=
  .start ⟨0, rfl⟩

/-- A call that is made on the port is pending, and its timer is armed. -/
theorem sound_connected : ∃ s, Sound sampleOptions s ∧ s.state = .ready ∧ s.timers = [2] := by
  obtain ⟨s, hrun, hready, htimers⟩ : ∃ s,
      runBy (fun s event => decide (Orderly s event)) (step sampleOptions)
        (createPersistentNativeTransport 0) connected = some s ∧
      s.state = .ready ∧ s.timers = [2] := ⟨_, rfl, rfl, rfl⟩
  have hreach := (reachableBy_runBy connected (reachable_fresh _) hrun).mono
    fun _ _ horderly => of_decide_eq_true horderly
  exact ⟨s, sound_of_orderly hreach, hready, htimers⟩

/-- A transport that is shut down while it connects goes to the backoff state, and a
call is answered by a message without an id. -/
theorem shutdown_connecting_and_anonymous_answer :
    (∃ s, (runs sampleOptions).Reachable s ∧ s.stopped = true ∧ s.state = .backoff) ∧
      ∃ s, (runs sampleOptions).Reachable s ∧
        ∃ settled ∈ s.settledCalls, settled.caller = .request ∧ ¬ OwnResponse settled := by
  constructor
  · obtain ⟨s, hrun, hstate⟩ : ∃ s,
        runBy (fun _ _ => true) (step sampleOptions) (createPersistentNativeTransport 0)
          [.wake, .ensureConnected 0 ⟨none, none⟩, .shutdown, .job 0 false, .job 0 false] = some s ∧
        s.stopped = true ∧ s.state = .backoff := ⟨_, rfl, rfl, rfl⟩
    exact ⟨s, (reachableBy_runBy _ (reachable_fresh _) hrun).reachable, hstate⟩
  · obtain ⟨s, hrun, settled, hsettled, hcaller, hanswer⟩ : ∃ s,
        runBy (fun _ _ => true) (step sampleOptions) (createPersistentNativeTransport 0)
          (connected ++ [.message 3 0 anonymous]) = some s ∧
        ∃ settled ∈ s.settledCalls, settled.caller = .request ∧
          settled.settlement = .resolved anonymous :=
      ⟨_, rfl, _, List.mem_cons_of_mem _ List.mem_cons_self, rfl, rfl⟩
    refine ⟨s, (reachableBy_runBy _ (reachable_fresh _) hrun).reachable, settled, hsettled, hcaller,
      fun hown => ?_⟩
    have hanonymous : resolveResponseId anonymous = none := by decide
    obtain ⟨id, -, hid | ⟨-, hprobe⟩⟩ := hown anonymous hanswer
    · rw [hanonymous] at hid
      cases hid
    · rw [hcaller] at hprobe
      cases hprobe

end Transport

end OpenPath.Extension.NativeTransport
