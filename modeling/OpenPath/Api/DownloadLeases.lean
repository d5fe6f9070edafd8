/-
# Leases of download references

Any number of downloads, revocations and cleanups work on the reference and
lease tables at the same time, each call one transaction; a cleanup is three
statements with the other calls in between. In every state that such a run can
reach, the counter of a reference is the number of its leases, so that a lease
that has been recovered, released or completed is never counted out again.

A reference that has ended, which means that it was consumed, deleted, past its
time or out of attempts, stays so: no step brings back a row, and the columns
that decide move in one direction. The database draws a new identifier for each
row, which is why a deleted reference does not come back under its identifier.
-/

import OpenPath.Api.DownloadRefs
import OpenPath.Foundation.Concurrency
import OpenPath.Foundation.Except

namespace OpenPath.Api.DownloadLeases

open Foundation DownloadRefs

/-- The tables, and the identifiers of all references that were ever minted. -/
structure Service where
  tables : Tables
  minted : List Uuid

/-- Where a cleanup stands. Any other call is a single move of a call that waits. -/
inductive CleanupPhase
  | waiting
  | recovered (currentTime : Int)
  | selected (staleIds : List Uuid)

/-- The calls that are one transaction on rows that are there. A call reads its
own clock. -/
inductive Transaction
  | consumeAttempt (rawToken : Text) (currentTime latestTime : Int) (leaseId : Uuid)
  | renewAttempt (rawToken : Text) (transferId : Uuid) (currentTime : Int)
  | releaseAttempt (rawToken : Text) (transferId : Uuid)
  | markConsumed (rawToken : Text) (transferId : Uuid) (now : Int)
  | invalidateReference (rawToken : Text)
  | revokeReferencesForArtifact (artifactStorageFileName : Text)
  | deleteClassroom (classroomId : Text)

/-- What a call does next. The identifier and the token of a new reference are
drawn. -/
inductive Statement
  | mintReference (config : WindowsOfflineInstallerConfig) (id : Uuid) (rawToken : Text) (now : Int)
      (input : MintInput)
  | transact (transaction : Transaction)
  | recoverExpiredTransferLeases (currentTime : Int)
  | selectStaleRows
  | deleteStaleRows

/-- The input of a generated installer has the configured bounds. -/
def configured (config : WindowsOfflineInstallerConfig) (input : MintInput) : MintInput :=
  { input with
    ttlMinutes := config.downloadRefTtlMinutes.value
    maxAttempts := config.downloadRefMaxAttempts.value }

/-- A transaction that throws changes nothing. -/
def tablesAfter {Answer : Type} (tables : Tables) :
    Except Failure (Answer × Tables) → Tables
  | .error _ => tables
  | .ok (_, after) => after

def applyTransaction (deps : RefsRepoDeps) (tables : Tables) : Transaction → Tables
  | .consumeAttempt rawToken currentTime latestTime leaseId =>
      tablesAfter tables (consumeAttempt deps rawToken currentTime latestTime leaseId tables)
  | .renewAttempt rawToken transferId currentTime =>
      (renewAttempt deps rawToken transferId currentTime tables).2
  | .releaseAttempt rawToken transferId => releaseAttempt deps rawToken transferId tables
  | .markConsumed rawToken transferId now => (markConsumed deps rawToken transferId now tables).2
  | .invalidateReference rawToken => invalidateReference deps rawToken tables
  | .revokeReferencesForArtifact artifactStorageFileName =>
      tablesAfter tables (revokeReferencesForArtifact artifactStorageFileName tables)
  | .deleteClassroom classroomId => tables.deleteRefs (·.classroomId = classroomId)

/-- The move of a call. It is undefined where the cleanup is not in the phase for
it, and for an identifier that the database would not draw. -/
def move (deps : RefsRepoDeps) :
    Statement → Service × CleanupPhase → Option (Service × CleanupPhase)
  | .mintReference config id rawToken now input, (service, .waiting) =>
      if id ∈ service.minted then none
      else
        match mintReference deps id rawToken now (configured config input) service.tables with
        | .error _ => some (service, .waiting)
        | .ok (_, tables) => some ({ tables, minted := id :: service.minted }, .waiting)
  | .transact transaction, (service, .waiting) =>
      some ({ service with tables := applyTransaction deps service.tables transaction }, .waiting)
  | .recoverExpiredTransferLeases currentTime, (service, .waiting) =>
      some ({ service with tables := recoverExpiredTransferLeases currentTime service.tables },
        .recovered currentTime)
  | .selectStaleRows, (service, .recovered currentTime) =>
      some (service, .selected ((staleRows currentTime service.tables).map (·.id)))
  | .deleteStaleRows, (service, .selected staleIds) =>
      some ({ service with tables := (deleteStaleRows staleIds service.tables).2 }, .waiting)
  | _, _ => none

def noReferences : Service where
  tables := { refs := [], leases := [] }
  minted := []

/-- All interleavings of calls, from empty tables. -/
def calls (deps : RefsRepoDeps) :
    TransitionSystem (Interleaved Service CleanupPhase) (Nat × Statement) :=
  Interleaved.system (· = noReferences) .waiting (Interleaved.movesOf (move deps))

/-! ## What a statement does to the tables -/

/-- The counters are the numbers of leases, and leases are known by their
identifiers. -/
structure Counted (tables : Tables) : Prop where
  exact : activeTransfers.Exact tables.refs tables.leases
  leaseIds : (tables.leases.map (·.id)).Nodup

/-- A row, and the same row later. -/
structure Advances (prior ref : WindowsOfflineDownloadRef) : Prop where
  id : ref.id = prior.id
  expiresAt : ref.expiresAt = prior.expiresAt
  maxAttempts : ref.maxAttempts = prior.maxAttempts
  usedAttempts : prior.usedAttempts ≤ ref.usedAttempts
  bounded : prior.usedAttempts ≤ prior.maxAttempts → ref.usedAttempts ≤ ref.maxAttempts
  consumed : prior.consumedAt.isSome = true → ref.consumedAt.isSome = true
  artifactStorageFileName : ref.artifactStorageFileName = prior.artifactStorageFileName

theorem Advances.refl (ref : WindowsOfflineDownloadRef) : Advances ref ref :=
  ⟨rfl, rfl, rfl, le_refl _, fun h => h, fun h => h, rfl⟩

theorem Advances.trans {first second third : WindowsOfflineDownloadRef}
    (hfirst : Advances first second) (hsecond : Advances second third) : Advances first third where
  id := hsecond.id.trans hfirst.id
  expiresAt := hsecond.expiresAt.trans hfirst.expiresAt
  maxAttempts := hsecond.maxAttempts.trans hfirst.maxAttempts
  usedAttempts := hfirst.usedAttempts.trans hsecond.usedAttempts
  bounded h := hsecond.bounded (hfirst.bounded h)
  consumed h := hsecond.consumed (hfirst.consumed h)
  artifactStorageFileName := hsecond.artifactStorageFileName.trans hfirst.artifactStorageFileName

/-- Every row was there before. -/
def RefsAdvance (old new : List WindowsOfflineDownloadRef) : Prop :=
  ∀ ref ∈ new, ∃ prior ∈ old, Advances prior ref

theorem RefsAdvance.refl (refs : List WindowsOfflineDownloadRef) : RefsAdvance refs refs :=
  fun ref href => ⟨ref, href, Advances.refl ref⟩

theorem RefsAdvance.trans {first second third : List WindowsOfflineDownloadRef}
    (hfirst : RefsAdvance first second) (hsecond : RefsAdvance second third) :
    RefsAdvance first third := by
  intro ref href
  obtain ⟨middle, hmiddle, hlast⟩ := hsecond ref href
  obtain ⟨prior, hprior, hstart⟩ := hfirst middle hmiddle
  exact ⟨prior, hprior, hstart.trans hlast⟩

theorem refsAdvance_filter (refs : List WindowsOfflineDownloadRef)
    (keeps : WindowsOfflineDownloadRef → Bool) : RefsAdvance refs (refs.filter keeps) :=
  fun ref href => ⟨ref, (List.mem_filter.mp href).1, Advances.refl ref⟩

theorem refsAdvance_updateWhere {selects : WindowsOfflineDownloadRef → Bool}
    {change : WindowsOfflineDownloadRef → WindowsOfflineDownloadRef}
    (hchange : ∀ ref, selects ref = true → Advances ref (change ref))
    (refs : List WindowsOfflineDownloadRef) :
    RefsAdvance refs (updateWhere selects change refs) := by
  intro ref href
  obtain ⟨prior, hprior, rfl⟩ := mem_updateWhere.mp href
  refine ⟨prior, hprior, ?_⟩
  split
  · rename_i hselected
    exact hchange prior hselected
  · exact Advances.refl prior

theorem refsAdvance_decrement (id : Uuid) (refs : List WindowsOfflineDownloadRef) :
    RefsAdvance refs (activeTransfers.decrement id refs) := by
  rw [CounterColumn.decrement]
  apply refsAdvance_updateWhere
  intro ref _
  exact ⟨rfl, rfl, rfl, le_refl _, fun h => h, fun h => h, rfl⟩

theorem refsAdvance_decrementAll (leases : List TransferLease)
    (refs : List WindowsOfflineDownloadRef) :
    RefsAdvance refs (activeTransfers.decrementAll leases refs) := by
  induction leases generalizing refs with
  | nil => exact RefsAdvance.refl refs
  | cons lease leases ih =>
      exact (refsAdvance_decrement lease.downloadRefId refs).trans (ih _)

/-- What every statement but an insertion of a reference does. -/
structure Follows (old new : Tables) : Prop where
  counted : Counted old → Counted new
  advances : RefsAdvance old.refs new.refs

theorem Follows.refl (tables : Tables) : Follows tables tables :=
  ⟨fun h => h, RefsAdvance.refl _⟩

theorem follows_deleteRefs (tables : Tables) (deletes : WindowsOfflineDownloadRef → Bool) :
    Follows tables (tables.deleteRefs deletes) where
  counted hcounted :=
    { exact := hcounted.exact.deleteRows deletes
      leaseIds := hcounted.leaseIds.sublist (List.filter_sublist.map _) }
  advances := refsAdvance_filter _ _

variable {tables : Tables} {ref : WindowsOfflineDownloadRef}

/-- The row that a call's token names. -/
theorem mem_of_refByHash {hash : Text} (hfound : tables.refByHash hash = some ref) :
    ref ∈ tables.refs :=
  List.mem_of_find?_eq_some hfound

variable {deps : RefsRepoDeps} {rawToken : Text} {after : Tables} {currentTime latestTime : Int}
  {leaseId : Uuid} {record : DownloadRefRecord}

/-- A successful attempt is one of a row that was open, and adds a lease. -/
theorem consumeAttempt_eq_ok
    (hcall : consumeAttempt deps rawToken currentTime latestTime leaseId tables =
      .ok (record, after)) :
    ∃ row ∈ tables.refs, record.id = row.id ∧ row.consumedAt = none ∧
      currentTime < row.expiresAt ∧ row.usedAttempts < row.maxAttempts ∧
      leaseId ∉ tables.leases.map (·.id) ∧ ∃ expiresAt,
        after =
          { refs := updateWhere (takesAttempt row.id currentTime) withAttempt tables.refs
            leases := tables.leases ++
              [{ id := leaseId, downloadRefId := row.id, expiresAt := expiresAt }] } := by
  unfold consumeAttempt at hcall
  split at hcall
  · cases hcall
  split at hcall
  · cases hcall
  rename_i row hfound
  split at hcall
  · cases hcall
  rename_i hopen
  split at hcall
  · cases hcall
  rename_i hlive
  split at hcall
  · cases hcall
  rename_i hbudget
  dsimp only at hcall
  split at hcall
  · cases hcall
  rename_i reserved hreserved
  split at hcall
  · cases hcall
  rename_i hfresh
  cases hcall
  obtain ⟨prior, -, htakes, rfl⟩ := mem_updated.mp (List.mem_of_mem_head? hreserved)
  have hid : prior.id = row.id := by
    simp only [takesAttempt, Bool.and_eq_true, decide_eq_true_eq] at htakes
    exact htakes.1.1.1
  refine ⟨row, mem_of_refByHash hfound, hid, ?_, not_le.mp hlive, not_le.mp hbudget, ?_,
    max (currentTime + deps.transferLeaseMs) (row.expiresAt + deps.transferLeaseMs), ?_⟩
  · simpa using hopen
  · simpa using hfresh
  · rw [← hid]
    rfl

theorem follows_consumeAttempt (deps : RefsRepoDeps) (rawToken : Text)
    (currentTime latestTime : Int) (leaseId : Uuid) (tables : Tables) :
    Follows tables
      (tablesAfter tables (consumeAttempt deps rawToken currentTime latestTime leaseId tables)) := by
  cases hcall : consumeAttempt deps rawToken currentTime latestTime leaseId tables with
  | error failure => exact Follows.refl tables
  | ok outcome =>
      obtain ⟨row, hrow, -, hopen, hlive, hbudget, hfresh, expiresAt, hafter⟩ :=
        consumeAttempt_eq_ok hcall
      show Follows tables outcome.2
      rw [hafter]
      refine ⟨?_, ?_⟩
      · intro hcounted
        refine ⟨?_, ?_⟩
        · refine hcounted.exact.insertMember ?_ ?_ (List.mem_map_of_mem hrow) ?_
          · exact fun _ => rfl
          · exact fun _ => rfl
          · intro ref href
            show takesAttempt row.id currentTime ref = true ↔ ref.id = row.id
            simp only [takesAttempt, Bool.and_eq_true, decide_eq_true_eq]
            refine ⟨fun h => h.1.1.1, ?_⟩
            intro hid
            obtain rfl := hcounted.exact.eq_of_key href hrow hid
            exact ⟨⟨⟨rfl, by rw [hopen]; rfl⟩, hlive⟩, hbudget⟩
        · rw [List.map_append, List.map_singleton]
          exact List.Nodup.append hcounted.leaseIds (List.nodup_singleton _)
            (List.disjoint_singleton.mpr hfresh)
      · apply refsAdvance_updateWhere
        intro ref htakes
        simp only [takesAttempt, Bool.and_eq_true, decide_eq_true_eq] at htakes
        have hbelow := htakes.2
        refine ⟨rfl, rfl, rfl, ?_, ?_, fun h => h, rfl⟩
        · show ref.usedAttempts ≤ ref.usedAttempts + 1
          omega
        · intro _
          show ref.usedAttempts + 1 ≤ ref.maxAttempts
          omega

theorem follows_renewAttempt (deps : RefsRepoDeps) (rawToken : Text) (transferId : Uuid)
    (currentTime : Int) (tables : Tables) :
    Follows tables (renewAttempt deps rawToken transferId currentTime tables).2 := by
  unfold renewAttempt
  split
  · exact Follows.refl tables
  split
  · exact Follows.refl tables
  refine ⟨?_, RefsAdvance.refl _⟩
  intro hcounted
  refine ⟨?_, ?_⟩
  · apply hcounted.exact.mapMembers
    intro lease
    split
    · rfl
    · rfl
  · show ((updateWhere _ (withRenewal _) tables.leases).map (·.id)).Nodup
    rw [map_updateWhere]
    · exact hcounted.leaseIds
    · exact fun _ => rfl

variable {transferId refId : Uuid} {lease : TransferLease} {leases : List TransferLease}

theorem filter_namesLease (hids : (leases.map (·.id)).Nodup)
    (hfirst : (leases.filter (namesLease transferId refId)).head? = some lease) :
    leases.filter (namesLease transferId refId) = [lease] := by
  have hnamed (other : TransferLease)
      (hother : other ∈ leases.filter (namesLease transferId refId)) : other.id = transferId := by
    have hnames := (List.mem_filter.mp hother).2
    simp only [namesLease, Bool.and_eq_true, decide_eq_true_eq] at hnames
    exact hnames.1
  have hdistinct : ((leases.filter (namesLease transferId refId)).map (·.id)).Nodup :=
    hids.sublist (List.filter_sublist.map _)
  cases hrest : leases.filter (namesLease transferId refId) with
  | nil =>
      rw [hrest] at hfirst
      cases hfirst
  | cons first rest =>
      rw [hrest] at hfirst hnamed hdistinct
      obtain rfl : first = lease := Option.some.inj hfirst
      cases rest with
      | nil => rfl
      | cons second rest =>
          exfalso
          simp only [List.map_cons, List.nodup_cons, List.mem_cons, not_or] at hdistinct
          apply hdistinct.1.1
          rw [hnamed first (by simp), hnamed second (by simp)]

theorem Counted.endLease (hcounted : Counted tables)
    (hfirst : (tables.leases.filter (namesLease transferId refId)).head? = some lease) :
    activeTransfers.Exact tables.refs
      (lease :: tables.leases.filter fun lease => !namesLease transferId refId lease) := by
  apply hcounted.exact.perm
  have hsplit := List.filter_append_perm (namesLease transferId refId) tables.leases
  rw [filter_namesLease hcounted.leaseIds hfirst, List.singleton_append] at hsplit
  exact hsplit.symm

theorem filter_not_namesLease (hnone : (leases.filter (namesLease transferId refId)).head? = none) :
    (leases.filter fun lease => !namesLease transferId refId lease) = leases := by
  rw [List.head?_eq_none_iff, List.filter_eq_nil_iff] at hnone
  apply List.filter_eq_self.mpr
  intro lease hlease
  rw [Bool.not_eq_true', Bool.eq_false_iff]
  exact hnone lease hlease

theorem follows_releaseAttempt (deps : RefsRepoDeps) (rawToken : Text) (transferId : Uuid)
    (tables : Tables) : Follows tables (releaseAttempt deps rawToken transferId tables) := by
  unfold releaseAttempt
  split
  · exact Follows.refl tables
  split
  · exact Follows.refl tables
  dsimp only
  split
  · rename_i hnone
    rw [filter_not_namesLease hnone]
    exact Follows.refl tables
  · rename_i lease hfirst
    refine ⟨?_, refsAdvance_decrement _ _⟩
    intro hcounted
    exact
      { exact := (hcounted.endLease hfirst).decrement
        leaseIds := hcounted.leaseIds.sublist (List.filter_sublist.map _) }

theorem follows_markConsumed (deps : RefsRepoDeps) (rawToken : Text) (transferId : Uuid)
    (now : Int) (tables : Tables) :
    Follows tables (markConsumed deps rawToken transferId now tables).2 := by
  unfold markConsumed
  split
  · exact Follows.refl tables
  split
  · exact Follows.refl tables
  dsimp only
  split
  · rename_i hnone
    rw [filter_not_namesLease hnone]
    exact Follows.refl tables
  · rename_i lease hfirst
    refine ⟨?_, ?_⟩
    · intro hcounted
      refine ⟨?_, hcounted.leaseIds.sublist (List.filter_sublist.map _)⟩
      apply (hcounted.endLease hfirst).removeMember
      · exact fun _ => rfl
      · exact fun _ => rfl
      · exact fun ref _ _ => decide_eq_true_iff
      · exact fun ref _ hother => decide_eq_false hother
    · apply refsAdvance_updateWhere
      intro ref _
      refine ⟨rfl, rfl, rfl, le_refl _, fun h => h, ?_, rfl⟩
      intro hconsumed
      obtain ⟨time, htime⟩ := Option.isSome_iff_exists.mp hconsumed
      rw [withConsumption, htime]
      rfl

theorem follows_invalidateReference (deps : RefsRepoDeps) (rawToken : Text) (tables : Tables) :
    Follows tables (invalidateReference deps rawToken tables) := by
  unfold invalidateReference
  split
  · exact Follows.refl tables
  · exact follows_deleteRefs tables _

theorem follows_revokeReferencesForArtifact (artifactStorageFileName : Text) (tables : Tables) :
    Follows tables
      (tablesAfter tables (revokeReferencesForArtifact artifactStorageFileName tables)) := by
  unfold revokeReferencesForArtifact validateArtifactStorageFileName
  split
  · exact follows_deleteRefs tables _
  · exact Follows.refl tables

theorem follows_recoverExpiredTransferLeases (currentTime : Int) (tables : Tables) :
    Follows tables (recoverExpiredTransferLeases currentTime tables) where
  counted hcounted :=
    { exact := hcounted.exact.deleteMembers _
      leaseIds := hcounted.leaseIds.sublist (List.filter_sublist.map _) }
  advances := refsAdvance_decrementAll _ _

/-! ## Invariant -/

/-- The invariant of a run. -/
structure Invariant (service : Service) : Prop where
  counted : Counted service.tables
  bounded : ∀ ref ∈ service.tables.refs, ref.usedAttempts ≤ ref.maxAttempts
  minted : ∀ ref ∈ service.tables.refs, ref.id ∈ service.minted

/-- What a move does to the service: a statement on rows that are there, or a new
reference. -/
inductive Steps (service : Service) : Service → Prop
  | follows {tables : Tables} (hfollows : Follows service.tables tables) :
      Steps service { service with tables }
  | mints (row : WindowsOfflineDownloadRef) (hfresh : row.id ∉ service.minted)
      (hlimit : 0 ≤ row.maxAttempts) (hunused : row.usedAttempts = 0)
      (hidle : row.activeTransfers = 0) :
      Steps service
        { tables := { service.tables with refs := service.tables.refs ++ [row] }
          minted := row.id :: service.minted }

variable {id : Uuid}

theorem mintReference_eq_ok {now : Int} {input : MintInput} {minted : DownloadRefRecord × Text}
    (hcall : mintReference deps id rawToken now input tables = .ok (minted, after)) :
    ∃ row : WindowsOfflineDownloadRef, after = { tables with refs := tables.refs ++ [row] } ∧
      row.id = id ∧ row.maxAttempts = input.maxAttempts ∧ row.usedAttempts = 0 ∧
      row.activeTransfers = 0 ∧
      storageFileName input (hashDownloadReference deps rawToken) =
        .ok row.artifactStorageFileName := by
  unfold mintReference at hcall
  split at hcall
  · cases hcall
  obtain ⟨fileName, hname, hcall⟩ := bind_eq_ok.mp hcall
  obtain ⟨refs, hinsert, hcall⟩ := bind_eq_ok.mp hcall
  cases hcall
  unfold Tables.insertRef at hinsert
  split at hinsert
  · cases hinsert
  · cases hinsert
    exact ⟨_, rfl, rfl, rfl, rfl, rfl, hname⟩

theorem follows_transaction (deps : RefsRepoDeps) (tables : Tables) (transaction : Transaction) :
    Follows tables (applyTransaction deps tables transaction) := by
  cases transaction with
  | consumeAttempt rawToken currentTime latestTime leaseId =>
      exact follows_consumeAttempt deps rawToken currentTime latestTime leaseId tables
  | renewAttempt rawToken transferId currentTime =>
      exact follows_renewAttempt deps rawToken transferId currentTime tables
  | releaseAttempt rawToken transferId =>
      exact follows_releaseAttempt deps rawToken transferId tables
  | markConsumed rawToken transferId now =>
      exact follows_markConsumed deps rawToken transferId now tables
  | invalidateReference rawToken => exact follows_invalidateReference deps rawToken tables
  | revokeReferencesForArtifact artifactStorageFileName =>
      exact follows_revokeReferencesForArtifact artifactStorageFileName tables
  | deleteClassroom classroomId => exact follows_deleteRefs tables _

variable {service : Service}

theorem steps_of_move {statement : Statement} {phase : CleanupPhase}
    {outcome : Service × CleanupPhase}
    (hmove : move deps statement (service, phase) = some outcome) : Steps service outcome.1 := by
  cases statement with
  | mintReference config id rawToken now input =>
      cases phase with
      | waiting =>
          rw [move] at hmove
          split at hmove
          · cases hmove
          rename_i hfresh
          split at hmove
          · cases hmove
            exact .follows (Follows.refl _)
          · rename_i minted after hmint
            cases hmove
            obtain ⟨row, rfl, rfl, hmax, hunused, hidle, -⟩ := mintReference_eq_ok hmint
            exact .mints row hfresh (hmax ▸ Int.natCast_nonneg _) hunused hidle
      | recovered _ => cases hmove
      | selected _ => cases hmove
  | transact transaction =>
      cases phase with
      | waiting =>
          cases hmove
          exact .follows (follows_transaction deps _ transaction)
      | recovered _ => cases hmove
      | selected _ => cases hmove
  | recoverExpiredTransferLeases currentTime =>
      cases phase with
      | waiting =>
          cases hmove
          exact .follows (follows_recoverExpiredTransferLeases currentTime _)
      | recovered _ => cases hmove
      | selected _ => cases hmove
  | selectStaleRows =>
      cases phase with
      | waiting => cases hmove
      | recovered _ =>
          cases hmove
          exact .follows (Follows.refl _)
      | selected _ => cases hmove
  | deleteStaleRows =>
      cases phase with
      | waiting => cases hmove
      | recovered _ => cases hmove
      | selected _ =>
          cases hmove
          exact .follows (follows_deleteRefs _ _)

theorem Invariant.steps {after : Service} (hinv : Invariant service)
    (hsteps : Steps service after) : Invariant after := by
  cases hsteps with
  | follows hfollows =>
      refine ⟨hfollows.counted hinv.counted, ?_, ?_⟩
      · intro ref href
        obtain ⟨prior, hprior, hadvances⟩ := hfollows.advances ref href
        exact hadvances.bounded (hinv.bounded prior hprior)
      · intro ref href
        obtain ⟨prior, hprior, hadvances⟩ := hfollows.advances ref href
        rw [hadvances.id]
        exact hinv.minted prior hprior
  | mints row hfresh hlimit hunused hidle =>
      have habsent : row.id ∉ service.tables.refs.map (·.id) := by
        intro hmember
        obtain ⟨ref, href, hid⟩ := List.mem_map.mp hmember
        exact hfresh (hid ▸ hinv.minted ref href)
      refine ⟨⟨hinv.counted.exact.insertRow habsent hidle, hinv.counted.leaseIds⟩, ?_, ?_⟩
      · intro ref href
        rcases List.mem_append.mp href with hold | hnew
        · exact hinv.bounded ref hold
        · obtain rfl := List.mem_singleton.mp hnew
          rw [hunused]
          exact hlimit
      · intro ref href
        rcases List.mem_append.mp href with hold | hnew
        · exact List.mem_cons_of_mem _ (hinv.minted ref hold)
        · obtain rfl := List.mem_singleton.mp hnew
          exact List.mem_cons_self

theorem invariant_noReferences : Invariant noReferences where
  counted :=
    { exact :=
        { distinct := List.nodup_nil
          owned := fun _ hlease => by cases hlease
          counts := fun _ href => by cases href }
      leaseIds := List.nodup_nil }
  bounded _ href := by cases href
  minted _ href := by cases href

variable {state : Interleaved Service CleanupPhase}

theorem invariant_of_reachable (hreach : (calls deps).Reachable state) : Invariant state.shared := by
  let inv (state : Interleaved Service CleanupPhase) : Prop := Invariant state.shared
  suffices hinv : inv state from hinv
  refine hreach.invariant ?_ ?_
  · rintro start ⟨hstart, -⟩
    show Invariant start.shared
    rw [hstart]
    exact invariant_noReferences
  · rintro source label target hinv ⟨outcome, hmove, rfl⟩
    exact hinv.steps (steps_of_move hmove)

/-! ## References that have ended -/

/-- No attempt of the row is left at a time. -/
def Closed (time : Int) (ref : WindowsOfflineDownloadRef) : Prop :=
  ref.consumedAt.isSome = true ∨ ref.expiresAt ≤ time ∨ ref.maxAttempts ≤ ref.usedAttempts

variable {time : Int}

theorem Closed.advances {prior : WindowsOfflineDownloadRef} (hclosed : Closed time prior)
    (hadvances : Advances prior ref) : Closed time ref := by
  rcases hclosed with hconsumed | hexpired | hexhausted
  · exact Or.inl (hadvances.consumed hconsumed)
  · exact Or.inr (Or.inl (hadvances.expiresAt ▸ hexpired))
  · have hused := hadvances.usedAttempts
    have hmax := hadvances.maxAttempts
    exact Or.inr (Or.inr (by omega))

/-- A reference that was minted and is consumed, expired at the time, exhausted,
or no longer there. -/
structure Ended (time : Int) (service : Service) (id : Uuid) : Prop where
  minted : id ∈ service.minted
  closed : ∀ ref ∈ service.tables.refs, ref.id = id → Closed time ref

theorem Ended.steps {after : Service} (hended : Ended time service id)
    (hsteps : Steps service after) : Ended time after id := by
  cases hsteps with
  | follows hfollows =>
      refine ⟨hended.minted, ?_⟩
      intro ref href hid
      obtain ⟨prior, hprior, hadvances⟩ := hfollows.advances ref href
      exact (hended.closed prior hprior (hadvances.id.symm.trans hid)).advances hadvances
  | mints row hfresh hlimit hunused hidle =>
      refine ⟨List.mem_cons_of_mem _ hended.minted, ?_⟩
      intro ref href hid
      rcases List.mem_append.mp href with hold | hnew
      · exact hended.closed ref hold hid
      · obtain rfl := List.mem_singleton.mp hnew
        exact absurd (hid ▸ hended.minted) hfresh

theorem ended_of_startingAt {later : Interleaved Service CleanupPhase}
    (hended : Ended time state.shared id)
    (hlater : ((calls deps).startingAt state).Reachable later) : Ended time later.shared id := by
  induction hlater with
  | start hstart => exact hstart ▸ hended
  | step _ _ hstep ih =>
      obtain ⟨outcome, hmove, rfl⟩ := hstep
      exact ih.steps (steps_of_move hmove)

theorem consumeAttempt_not_ended (hended : Ended time service id) (htime : time ≤ currentTime)
    (hcall : consumeAttempt deps rawToken currentTime latestTime leaseId service.tables =
      .ok (record, after)) : record.id ≠ id := by
  obtain ⟨row, hrow, hid, hopen, hlive, hbudget, -⟩ := consumeAttempt_eq_ok hcall
  intro hsame
  rcases hended.closed row hrow (hid.symm.trans hsame) with hconsumed | hexpired | hexhausted
  · rw [hopen] at hconsumed
    cases hconsumed
  · omega
  · omega

/-! ## The last transfer -/

theorem length_leasesOf (hcounted : Counted tables) (href : ref ∈ tables.refs) :
    ref.activeTransfers = (tables.leasesOf ref.id).length := by
  rw [Tables.leasesOf, ← List.countP_eq_length_filter]
  exact hcounted.exact.counts ref href

theorem mem_leasesOf_of_namesLease :
    lease ∈ tables.leases.filter (namesLease transferId refId) ↔
      lease ∈ tables.leasesOf refId ∧ lease.id = transferId := by
  simp only [Tables.leasesOf, List.mem_filter, namesLease, Bool.and_eq_true, decide_eq_true_eq]
  refine ⟨?_, ?_⟩
  · rintro ⟨hlease, hid, href⟩
    exact ⟨⟨hlease, href⟩, hid⟩
  · rintro ⟨⟨hlease, href⟩, hid⟩
    exact ⟨hlease, hid, href⟩

/-- The counter of a reference that gives one of its leases up is zero exactly
when there was no other. -/
theorem last_lease_iff (hcounted : Counted tables) (href : ref ∈ tables.refs)
    (hlease : lease ∈ tables.leasesOf ref.id) :
    max (ref.activeTransfers - 1) 0 = 0 ↔ (tables.leasesOf ref.id).map (·.id) = [lease.id] := by
  have hcount := length_leasesOf hcounted href
  have hsome := List.length_pos_of_mem hlease
  refine ⟨?_, ?_⟩
  · intro hzero
    obtain ⟨only, honly⟩ := List.length_eq_one_iff.mp
      (show (tables.leasesOf ref.id).length = 1 by omega)
    rw [honly] at hlease ⊢
    obtain rfl := List.mem_singleton.mp hlease
    rfl
  · intro honly
    have hlength := congrArg List.length honly
    rw [List.length_map, List.length_singleton] at hlength
    omega

/-- Completing a transfer succeeds exactly for the only lease of a reference. -/
theorem markConsumed_iff (hcounted : Counted tables) (deps : RefsRepoDeps) (rawToken : Text)
    (transferId : Uuid) (now : Int) :
    (markConsumed deps rawToken transferId now tables).1 = true ↔
      isValidWindowsOfflineDownloadReference rawToken = true ∧
        ∃ ref, tables.refByHash (hashDownloadReference deps rawToken) = some ref ∧
          (tables.leasesOf ref.id).map (·.id) = [transferId] := by
  unfold markConsumed
  cases hvalid : isValidWindowsOfflineDownloadReference rawToken with
  | false => simp
  | true =>
      cases hfound : tables.refByHash (hashDownloadReference deps rawToken) with
      | none => simp
      | some ref =>
          simp only [Bool.not_true, Bool.false_eq_true, if_false, true_and, Option.some.injEq,
            exists_eq_left']
          have href := mem_of_refByHash hfound
          split
          · rename_i hnone
            rw [List.head?_eq_none_iff] at hnone
            refine ⟨fun hfalse => absurd hfalse Bool.false_ne_true, ?_⟩
            intro honly
            obtain ⟨lease, hlease, hid⟩ := List.mem_map.mp (honly ▸ List.mem_singleton_self _)
            have hnamed := mem_leasesOf_of_namesLease.mpr ⟨hlease, hid⟩
            rw [hnone] at hnamed
            cases hnamed
          · rename_i lease hfirst
            obtain ⟨hlease, rfl⟩ := mem_leasesOf_of_namesLease.mp (List.mem_of_mem_head? hfirst)
            have howner : lease.downloadRefId = ref.id :=
              of_decide_eq_true (List.mem_filter.mp hlease).2
            have hrow : (updated (fun other => other.id = ref.id) (withConsumption now)
                tables.refs).head? = some (withConsumption now ref) :=
              hcounted.exact.head?_updated href (withConsumption now)
            rw [← last_lease_iff hcounted href hlease]
            show decide ((updated (fun other => other.id = lease.downloadRefId)
              (withConsumption now) tables.refs).head?.map (·.activeTransfers) = some 0) = true ↔ _
            simp only [howner]
            rw [hrow, decide_eq_true_iff, Option.map_some, Option.some.injEq]
            rfl

/-- What holds between the counters, the leases and the calls. -/
structure Safe (deps : RefsRepoDeps) (state : Interleaved Service CleanupPhase) : Prop where
  counts : ∀ ref ∈ state.shared.tables.refs,
    ref.activeTransfers = (state.shared.tables.leasesOf ref.id).length
  nonneg : ∀ ref ∈ state.shared.tables.refs, 0 ≤ ref.activeTransfers
  bounded : ∀ ref ∈ state.shared.tables.refs, ref.usedAttempts ≤ ref.maxAttempts
  not_granted : ∀ time id, Ended time state.shared id →
    ∀ later, ((calls deps).startingAt state).Reachable later →
      ∀ rawToken currentTime latestTime leaseId record after, time ≤ currentTime →
        consumeAttempt deps rawToken currentTime latestTime leaseId later.shared.tables =
          .ok (record, after) → record.id ≠ id
  last : ∀ rawToken transferId now,
    (markConsumed deps rawToken transferId now state.shared.tables).1 = true →
      ∃ ref, state.shared.tables.refByHash (hashDownloadReference deps rawToken) = some ref ∧
        (state.shared.tables.leasesOf ref.id).map (·.id) = [transferId]

/-- The counters are right in every run, no attempt of a reference is granted
after it has ended, and a completion succeeds for the last transfer only. -/
theorem safe_of_reachable {deps : RefsRepoDeps} {state : Interleaved Service CleanupPhase}
    (hreach : (calls deps).Reachable state) : Safe deps state := by
  have hinv := invariant_of_reachable hreach
  exact
    { counts := fun ref href => length_leasesOf hinv.counted href
      nonneg := fun ref href => hinv.counted.exact.count_nonneg href
      bounded := hinv.bounded
      not_granted := by
        intro time id hended later hlater rawToken currentTime latestTime leaseId record after
          htime hcall
        exact consumeAttempt_not_ended (ended_of_startingAt hended hlater) htime hcall
      last := by
        intro rawToken transferId now hlast
        exact ((markConsumed_iff hinv.counted deps rawToken transferId now).mp hlast).2 }

/-! ## A download that completes -/

def lessonToken : Text := List.replicate 43 'A'

/-- The hash of the token, from which no other token is hashed here. -/
def lessonDeps : RefsRepoDeps where
  sha256Hex rawToken :=
    if rawToken = lessonToken then
      "0f007385b6f9d4b7eeb2748605afe1a984a0a3bfa3f014d09e2a784ce9e5cd1a".toList
    else []
  transferLeaseMs := 900000

def lessonConfig : WindowsOfflineInstallerConfig := defaultWindowsOfflineInstallerConfig

def lessonInput : MintInput where
  classroomId := "room".toList
  classroomName := "Room".toList
  createdBy := none
  artifactFileName := "OpenPath-Room.exe".toList
  artifactStorageFileName := none
  artifactSha256 := []
  artifactSize := 4096
  ttlMinutes := 10
  maxAttempts := 3

/-- Two transfers of one reference, one of which is recovered. -/
def lessonStatements : List (Nat × Statement) :=
  [(0, .mintReference lessonConfig 1 lessonToken 0 lessonInput),
   (1, .transact (.consumeAttempt lessonToken 60000 60000 2)),
   (2, .transact (.consumeAttempt lessonToken 60000 60000 3)),
   (1, .transact (.releaseAttempt lessonToken 2)),
   (3, .recoverExpiredTransferLeases 120000)]

theorem safe_lesson :
    ∃ state, Interleaved.run (move lessonDeps)
        { shared := noReferences, phase := fun _ => .waiting } lessonStatements = some state ∧
      Safe lessonDeps state := by
  have hrun : (Interleaved.run (move lessonDeps)
      { shared := noReferences, phase := fun _ => .waiting } lessonStatements).isSome = true := by
    decide
  obtain ⟨state, hstate⟩ := Option.isSome_iff_exists.mp hrun
  have hstart : (calls lessonDeps).Reachable
      { shared := noReferences, phase := fun _ => .waiting } := .start ⟨rfl, fun _ => rfl⟩
  exact ⟨state, hstate, safe_of_reachable (Interleaved.reachable_run hstart hstate)⟩

end OpenPath.Api.DownloadLeases
