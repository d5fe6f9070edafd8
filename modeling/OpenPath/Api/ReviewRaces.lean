/-
# Concurrent reviewers

Any number of approvals and rejections of requests, interleaved statement by
statement. Each call reads the request first and decides on what it read; it
writes later. The write of an approval is a transaction that expects the request
to be pending still. The write of a rejection expects nothing, so a rejection
that was overtaken by an approval overwrites it.

A log of the status writes that committed tells what happened to each request.
Without the overtaking, every request is decided at most once.
-/

import OpenPath.Api.RequestReview
import OpenPath.Foundation.Concurrency

namespace OpenPath.Api.ReviewRaces

open Foundation GroupsService RequestReview

/-- A committed write of the status of a request: what it was before, and what
was written. -/
structure StatusWrite where
  id : Text
  before : RequestStatus
  written : RequestStatus
  deriving DecidableEq

/-- The tables, with the status writes so far. -/
structure Reviewed where
  store : Store
  log : List StatusWrite

/-- How far a call has come, with what it has read. -/
inductive Phase
  | idle
  | approvalRead (user : Auth.JWTPayload) (groupId : Option Text) (request : RequestRow)
  | approvalReady (user : Auth.JWTPayload) (request : RequestRow) (target : ResolvedGroupTarget)
  | rejectionReady (user : Auth.JWTPayload) (reason : Option Text) (request : RequestRow)
  | settled

/-- One statement of a call, or one transaction. A write may be aborted by the
database. -/
inductive Statement
  | readApproval (id : Text) (groupId : Option Text) (user : Auth.JWTPayload)
  | authorizeApproval
  | commitApproval (aborted : Bool)
  | readRejection (id : Text) (reason : Option Text) (user : Auth.JWTPayload)
  | writeRejection (aborted : Bool)

/-- Log the write of a status to a request. -/
def record (store : Store) (id : Text) (written : RequestStatus) (log : List StatusWrite) :
    List StatusWrite :=
  match getStoredRequestById store id with
  | none => log
  | some row => log ++ [{ id, before := row.status, written }]

/-- One statement of one call. -/
def move : CallContext × Statement → Reviewed × Phase → Option (Reviewed × Phase)
  | (_, .readApproval id groupId user), (state, .idle) =>
      match readPending id state.store with
      | .error _ => some (state, .settled)
      | .ok request => some (state, .approvalRead user groupId request)
  | (ctx, .authorizeApproval), (state, .approvalRead user groupId request) =>
      match RequestReview.authorizeApproval ctx groupId user request state.store with
      | .error _ => some (state, .settled)
      | .ok target => some (state, .approvalReady user request target)
  | (_, .commitApproval true), (state, .approvalReady _ _ _) => some (state, .settled)
  | (ctx, .commitApproval false), (state, .approvalReady user request target) =>
      match approveWhitelistRequest ctx
        (Domain.normalizeManualRequestDomain request.domain.text) request.id user.name target
        state.store with
      | .error _ => some (state, .settled)
      | .ok (_, store) =>
          some ({ store, log := record state.store request.id .approved state.log }, .settled)
  | (_, .readRejection id reason user), (state, .idle) =>
      match checkRejection id user state.store with
      | .error _ => some (state, .settled)
      | .ok request => some (state, .rejectionReady user reason request)
  | (_, .writeRejection true), (state, .rejectionReady _ _ _) => some (state, .settled)
  | (ctx, .writeRejection false), (state, .rejectionReady user reason request) =>
      let (updated, store) :=
        updateRequestStatus ctx request.id .rejected user.name reason none state.store
      match updated with
      | none => some (state, .settled)
      | some _ =>
          some ({ store, log := record state.store request.id .rejected state.log }, .settled)
  | _, _ => none

/-- The database starts with distinct requests and nothing written. -/
def Fresh (state : Reviewed) : Prop :=
  (state.store.requests.map (·.id)).Nodup ∧ state.log = []

/-- All interleavings of the calls. -/
def reviewers : TransitionSystem (Interleaved Reviewed Phase) (Nat × CallContext × Statement) :=
  Interleaved.system Fresh .idle (Interleaved.movesOf move)

/-! ## Decided at most once -/

def leavesPending (id : Text) (write : StatusWrite) : Bool :=
  write.id = id && write.before = .pending && write.written ≠ .pending

/-- Each request leaves `pending` at most once; one that was approved is not
seen as rejected afterwards, and one that was rejected not as approved. -/
structure DecidedOnce (state : Reviewed) : Prop where
  leaves_once : ∀ id, state.log.countP (leavesPending id) ≤ 1
  approval_stays : ∀ write ∈ state.log, write.written = .approved →
    ∀ row ∈ state.store.requests, row.id = write.id → row.status ≠ .rejected
  rejection_stays : ∀ write ∈ state.log, write.written = .rejected →
    ∀ row ∈ state.store.requests, row.id = write.id → row.status ≠ .approved

/-- The condition on a statement: no rejection is written over an approval. -/
def NotOvertaken (state : Reviewed) : Phase → CallContext × Statement → Prop
  | .rejectionReady _ _ request, (_, .writeRejection false) =>
      ∀ row ∈ state.store.requests, row.id = request.id → row.status ≠ .approved
  | _, _ => True

/-- What the statements keep: the last write of a request is its status. -/
structure DecisionInvariant (state : Reviewed) : Prop where
  distinct : (state.store.requests.map (·.id)).Nodup
  decided : ∀ write ∈ state.log, write.written ≠ .pending ∧
    ∀ row ∈ state.store.requests, row.id = write.id → row.status = write.written
  leaves_once : ∀ id, state.log.countP (leavesPending id) ≤ 1

variable {state : Reviewed}

theorem DecisionInvariant.decidedOnce (hinv : DecisionInvariant state) : DecidedOnce state  where
  leaves_once := hinv.leaves_once
  approval_stays := by
    intro write hwrite happroved row hrow hid
    rw [(hinv.decided write hwrite).2 row hrow hid, happroved]
    decide
  rejection_stays := by
    intro write hwrite hrejected row hrow hid
    rw [(hinv.decided write hwrite).2 row hrow hid, hrejected]
    decide

variable {store : Store}

theorem getStoredRequestById_eq_some {id : Text} {row : RequestRow}
    (hrow : getStoredRequestById store id = some row) :
    row ∈ store.requests ∧ row.id = id :=
  ⟨List.mem_of_find?_eq_some hrow, by simpa using List.find?_some hrow⟩

/-- Writing a decided status keeps the invariant if every row with the
identifier is pending, or has that status already. -/
theorem DecisionInvariant.write {state : Reviewed} (hinv : DecisionInvariant state)
    {store : Store} {id : Text} {written : RequestStatus} (hwritten : written ≠ .pending)
    (hids : store.requests.map (·.id) = state.store.requests.map (·.id))
    (hrows : ∀ row ∈ store.requests,
      (row.id = id ∧ row.status = written) ∨
        (row.id ≠ id ∧ row ∈ state.store.requests))
    (hbefore : ∀ row ∈ state.store.requests, row.id = id →
      row.status = .pending ∨ row.status = written) :
    DecisionInvariant { store, log := record state.store id written state.log } := by
  have hold : ∀ write ∈ state.log, ∀ row ∈ store.requests, row.id = write.id →
      row.status = write.written := by
    intro write hwrite row hrow hid
    obtain ⟨hdecided, hstatus⟩ := hinv.decided write hwrite
    rcases hrows row hrow with ⟨hrowId, hrowStatus⟩ | ⟨-, hmember⟩
    · have hpresent : id ∈ state.store.requests.map (·.id) := by
        rw [← hids, ← hrowId]
        exact List.mem_map_of_mem hrow
      obtain ⟨old, holdRow, holdId⟩ := List.mem_map.mp hpresent
      have holdStatus := hstatus old holdRow (holdId.trans (hrowId.symm.trans hid))
      rcases hbefore old holdRow holdId with hpending | hsame
      · exact absurd (holdStatus.symm.trans hpending) hdecided
      · rw [hrowStatus, ← hsame, holdStatus]
    · exact hstatus row hmember hid
  unfold record
  cases hfound : getStoredRequestById state.store id with
  | none =>
      exact ⟨by rw [hids]; exact hinv.distinct,
        fun write hwrite => ⟨(hinv.decided write hwrite).1, hold write hwrite⟩,
        hinv.leaves_once⟩
  | some found =>
      obtain ⟨hfoundRow, hfoundId⟩ := getStoredRequestById_eq_some hfound
      refine ⟨by rw [hids]; exact hinv.distinct, ?_, ?_⟩
      · intro write hwrite
        rcases List.mem_append.mp hwrite with hlogged | hnew
        · exact ⟨(hinv.decided write hlogged).1, hold write hlogged⟩
        · rw [List.mem_singleton] at hnew
          subst hnew
          refine ⟨hwritten, ?_⟩
          intro row hrow hid
          rcases hrows row hrow with ⟨-, hstatus⟩ | ⟨hne, -⟩
          · exact hstatus
          · exact absurd hid hne
      · intro other
        rw [List.countP_append, List.countP_singleton]
        by_cases hleaves : leavesPending other { id, before := found.status, written } = true
        · have hpending : id = other ∧ found.status = .pending := by
            simp only [leavesPending, Bool.and_eq_true, decide_eq_true_eq] at hleaves
            exact ⟨hleaves.1.1, hleaves.1.2⟩
          have hnone : state.log.countP (leavesPending other) = 0 := by
            rw [List.countP_eq_zero]
            intro write hwrite hbad
            simp only [leavesPending, Bool.and_eq_true, decide_eq_true_eq] at hbad
            obtain ⟨hdecided, hstatus⟩ := hinv.decided write hwrite
            have hsame : found.id = write.id :=
              hfoundId.trans (hpending.1.trans hbad.1.1.symm)
            exact hdecided ((hstatus found hfoundRow hsame).symm.trans hpending.2)
          simp [hnone, hleaves]
        · have := hinv.leaves_once other
          simpa [hleaves] using this

variable {ctx : CallContext} {resolvedBy : Text}

theorem updateRequestStatus_rows {id : Text} {status : RequestStatus} {note : Option Text}
    {expected : Option RequestStatus}
    (hexpected : ∀ row ∈ store.requests, row.id = id → expected.all (row.status = ·) = true) :
    ∀ row ∈ (updateRequestStatus ctx id status resolvedBy note expected store).2.requests,
      (row.id = id ∧ row.status = status) ∨ (row.id ≠ id ∧ row ∈ store.requests) := by
  intro row hrow
  obtain ⟨old, hold, rfl⟩ := List.mem_map.mp hrow
  by_cases hid : old.id = id
  · have hmatch := hexpected old hold hid
    simp [hid, hmatch]
  · simp [hid, hold]

theorem updateRequestStatus_ids (ctx : CallContext) (id : Text) (status : RequestStatus)
    (resolvedBy : Text) (note : Option Text) (expected : Option RequestStatus)
    (store : Store) :
    (updateRequestStatus ctx id status resolvedBy note expected store).2.requests.map (·.id) =
      store.requests.map (·.id) := by
  unfold updateRequestStatus
  rw [List.map_map]
  apply List.map_congr_left
  intro row _
  dsimp only [Function.comp]
  split
  · rfl
  · rfl

theorem createRule_requests {uuid groupId : Text} {type : RulesValidation.RuleType} {value : Text}
    {comment : Option Text} {store' : Store} {result : GroupsStorage.CreateRuleResult}
    (hcreate : GroupsStorage.createRule ctx uuid groupId type value comment store =
      .ok (result, store')) : store'.requests = store.requests := by
  rcases GroupsStorage.createRule_cases hcreate with ⟨-, rfl⟩ | ⟨row, -, -, -, -, -, -, -, rfl⟩
  · rfl
  · rfl

variable {request : Text}

/-- An approval that commits writes over a pending request. -/
theorem commitApproval_invariant {domain : Text} {target : ResolvedGroupTarget}
    {updated : RequestRow} (hinv : DecisionInvariant state)
    (hcommit : approveWhitelistRequest ctx domain request resolvedBy target state.store =
      .ok (updated, store)) :
    DecisionInvariant { store, log := record state.store request .approved state.log } := by
  obtain ⟨result, middle, hcreate, hupdate⟩ := approveWhitelistRequest_eq_ok hcommit
  have hrequests := createRule_requests hcreate
  have hstore := congrArg Prod.snd hupdate
  have hfound := congrArg Prod.fst hupdate
  dsimp only at hstore hfound
  -- the row that the update found is pending, and it is the only one with its identifier
  obtain ⟨old, hold, -⟩ := Option.map_eq_some_iff.mp hfound
  have holdRow : old ∈ state.store.requests := hrequests ▸ List.mem_of_find?_eq_some hold
  have hmatch := List.find?_some hold
  simp only [Option.all_some, Bool.and_eq_true, decide_eq_true_eq] at hmatch
  have hpending : ∀ row ∈ state.store.requests, row.id = request → row.status = .pending := by
    intro row hrow hid
    have hsame : row = old :=
      List.inj_on_of_nodup_map hinv.distinct hrow holdRow (hid.trans hmatch.1.symm)
    rw [hsame, hmatch.2]
  have hexpected : ∀ row ∈ middle.requests, row.id = request →
      (some RequestStatus.pending).all (row.status = ·) = true := by
    intro row hrow hid
    simp [hpending row (hrequests ▸ hrow) hid]
  refine hinv.write (by decide) ?_ ?_ fun row hrow hid => Or.inl (hpending row hrow hid)
  · rw [← hstore, updateRequestStatus_ids, hrequests]
  · intro row hrow
    rw [← hstore] at hrow
    rcases updateRequestStatus_rows hexpected row hrow with hnew | ⟨hne, hmember⟩
    · exact Or.inl hnew
    · exact Or.inr ⟨hne, hrequests ▸ hmember⟩

/-- A rejection keeps the invariant where it is not written over an approval. -/
theorem writeRejection_invariant {reason : Option Text} (hinv : DecisionInvariant state)
    (hnot : ∀ row ∈ state.store.requests, row.id = request → row.status ≠ .approved) :
    DecisionInvariant
      { store := (updateRequestStatus ctx request .rejected resolvedBy reason none
          state.store).2
        log := record state.store request .rejected state.log } := by
  refine hinv.write (by decide) (updateRequestStatus_ids _ _ _ _ _ _ _)
    (updateRequestStatus_rows fun row _ _ => rfl) ?_
  intro row hrow hid
  have hne := hnot row hrow hid
  cases hstatus : row.status with
  | pending => exact Or.inl rfl
  | approved => exact absurd hstatus hne
  | rejected => exact Or.inr rfl

variable {label : CallContext × Statement} {phase : Phase}

/-- Every statement that overtakes no approval keeps the invariant. -/
theorem move_invariant {outcome : Reviewed × Phase} (hinv : DecisionInvariant state)
    (hmeets : NotOvertaken state phase label) (hmove : move label (state, phase) = some outcome) :
    DecisionInvariant outcome.1 := by
  unfold move at hmove
  split at hmove
  · rename_i hpair
    obtain ⟨rfl, rfl⟩ := Prod.mk.inj hpair
    split at hmove <;> obtain rfl := Option.some.inj hmove <;> exact hinv
  · rename_i hpair
    obtain ⟨rfl, rfl⟩ := Prod.mk.inj hpair
    split at hmove <;> obtain rfl := Option.some.inj hmove <;> exact hinv
  · rename_i hpair
    obtain ⟨rfl, rfl⟩ := Prod.mk.inj hpair
    obtain rfl := Option.some.inj hmove
    exact hinv
  · rename_i hpair
    obtain ⟨rfl, rfl⟩ := Prod.mk.inj hpair
    split at hmove
    · obtain rfl := Option.some.inj hmove
      exact hinv
    · rename_i hcommit
      obtain rfl := Option.some.inj hmove
      exact commitApproval_invariant hinv hcommit
  · rename_i hpair
    obtain ⟨rfl, rfl⟩ := Prod.mk.inj hpair
    split at hmove <;> obtain rfl := Option.some.inj hmove <;> exact hinv
  · rename_i hpair
    obtain ⟨rfl, rfl⟩ := Prod.mk.inj hpair
    obtain rfl := Option.some.inj hmove
    exact hinv
  · rename_i hpair
    obtain ⟨rfl, rfl⟩ := Prod.mk.inj hpair
    dsimp only at hmove
    split at hmove
    · obtain rfl := Option.some.inj hmove
      exact hinv
    · obtain rfl := Option.some.inj hmove
      exact writeRejection_invariant hinv hmeets
  · cases hmove

/-- In every run in which no rejection overtakes an approval, every request is
decided at most once. -/
theorem decidedOnce_of_notOvertaken {state : Interleaved Reviewed Phase}
    (hreach : reviewers.ReachableBy (Interleaved.Meets NotOvertaken) state) :
    DecidedOnce state.shared := by
  have hinv : DecisionInvariant state.shared := by
    refine Interleaved.invariant ?_ ?_ hreach
    · rintro shared ⟨hdistinct, hlog⟩
      exact ⟨hdistinct, by simp [hlog], by simp [hlog]⟩
    · intro label shared phase outcome hinv hmeets hmove
      exact move_invariant hinv hmeets hmove
  exact hinv.decidedOnce

/-! ## A rejection that overtakes an approval -/

theorem no_nul_exampleDomain : Char.ofNat 0 ∉ "example.com".toList := by decide

/-- One pending request for a group, nothing written yet. -/
def onePending : Interleaved Reviewed Phase where
  shared :=
    { store :=
        { groups :=
            [{ id := "math".toList, name := "math".toList, displayName := "Math".toList,
               enabled := true, visibility := .priv, ownerUserId := none, updatedAt := 0 }]
          rules := []
          requests :=
            [{ id := "req_1".toList
               domain := ⟨"example.com".toList, by decide, no_nul_exampleDomain⟩
               groupId := "math".toList, status := .pending, resolvedBy := none
               resolvedAt := none, resolutionNote := [] }] }
      log := [] }
  phase _ := .idle

theorem onePending_init : reviewers.init onePending :=
  ⟨⟨by decide, rfl⟩, fun _ => rfl⟩

def reviewContext : CallContext where
  uuid n := ("rule-" ++ toString n).toList
  now := 1
  localeLe left right := decide (left ≤ right)
  driverMessage _ := "driver error"

def administrator : Auth.JWTPayload where
  sub := "u1".toList
  name := "Admin".toList
  roles := [{ role := .admin, groupIds := [] }]

def statements (list : List (Nat × Statement)) : List (Nat × CallContext × Statement) :=
  list.map fun step => (step.1, reviewContext, step.2)

/-- An approval and a rejection both read the pending request; the approval
commits; the rejection is written over it. -/
def overtaking : List (Nat × CallContext × Statement) :=
  statements
    [(0, .readApproval "req_1".toList none administrator),
     (1, .readRejection "req_1".toList none administrator),
     (0, .authorizeApproval), (0, .commitApproval false), (1, .writeRejection false)]

/-- Some request was approved, and is stored as rejected. -/
def approvedThenRejected (state : Reviewed) : Bool :=
  state.log.any fun write => write.written = .approved &&
    state.store.requests.any fun row => row.id = write.id && row.status = .rejected

theorem not_decidedOnce_of_approvedThenRejected (hstate : approvedThenRejected state = true) :
    ¬ DecidedOnce state := by
  intro hdecided
  simp only [approvedThenRejected, List.any_eq_true, Bool.and_eq_true, decide_eq_true_eq]
    at hstate
  obtain ⟨write, hwrite, happroved, row, hrow, hid, hrejected⟩ := hstate
  exact hdecided.approval_stays write hwrite happroved row hrow hid hrejected

/-- The approved request, whose rule is stored, ends as rejected. -/
theorem approval_overwritten_by_rejection :
    ∃ state, reviewers.Reachable state ∧ ¬ DecidedOnce state.shared := by
  have hrun : ((Interleaved.run move onePending overtaking).map
      fun state => approvedThenRejected state.shared) = some true := by
    decide
  obtain ⟨state, hstate, hbad⟩ := Option.map_eq_some_iff.mp hrun
  exact ⟨state, Interleaved.reachable_run (.start onePending_init) hstate,
    not_decidedOnce_of_approvedThenRejected hbad⟩

/-- The condition, as a test. -/
def notOvertakenTest (state : Interleaved Reviewed Phase) (label : Nat × CallContext × Statement) :
    Bool :=
  match state.phase label.1, label.2.2 with
  | .rejectionReady _ _ request, .writeRejection false =>
      state.shared.store.requests.all fun row => row.id ≠ request.id || row.status ≠ .approved
  | _, _ => true

theorem notOvertaken_of_test (state : Interleaved Reviewed Phase)
    (label : Nat × CallContext × Statement) (htest : notOvertakenTest state label = true) :
    Interleaved.Meets NotOvertaken state label := by
  obtain ⟨call, ctx, statement⟩ := label
  unfold Interleaved.Meets NotOvertaken
  dsimp only
  split
  · next hphase hstatement =>
    obtain ⟨-, rfl⟩ := Prod.mk.inj hstatement
    rw [notOvertakenTest, hphase] at htest
    intro row hrow hid
    simpa [hid] using List.all_eq_true.mp htest row hrow
  · trivial

/-- A rejection is written while an approval is under way, which then gives up, as does an
approval that reads later. -/
def inTurn : List (Nat × CallContext × Statement) :=
  statements
    [(0, .readApproval "req_1".toList none administrator), (0, .authorizeApproval),
     (1, .readRejection "req_1".toList none administrator), (1, .writeRejection false),
     (0, .commitApproval false), (2, .readApproval "req_1".toList none administrator)]

theorem decidedOnce_inTurn :
    ∃ state, reviewers.Reachable state ∧ state.shared.log.map (·.written) = [.rejected] ∧
      DecidedOnce state.shared := by
  have hrun : ((TransitionSystem.runBy notOvertakenTest (Interleaved.stepOf move) onePending
      inTurn).map fun state => state.shared.log.map (·.written)) = some [.rejected] := by
    decide
  obtain ⟨state, hstate, hlog⟩ := Option.map_eq_some_iff.mp hrun
  have hreach := Interleaved.reachableBy_runBy _ (.start onePending_init) hstate
  exact ⟨state, hreach.reachable, hlog, decidedOnce_of_notOvertaken (hreach.mono notOvertaken_of_test)⟩

end OpenPath.Api.ReviewRaces
