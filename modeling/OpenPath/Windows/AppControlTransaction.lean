/-
# A transaction from its directory to its end

A transaction begins with everything at rest. Until `state.json` records the candidate,
its directory is of no use to the recovery; from then on the transaction is under way,
whatever fails, until it is committed or rolled back.
-/

import OpenPath.Windows.AppControlRollback

namespace OpenPath.Windows.AppControl

open Foundation Program

variable {Xml Hash Form : Type} {cmdlets : Cmdlets Xml Hash Form}
  {agrees : Prop} {initial : Xml} {fate : Call Xml Hash → Fate Unit} {machine : Machine Xml Hash}
  {id : Guid}

/-! ## The directory -/

/-- The machine with one more directory. -/
def Machine.add (machine : Machine Xml Hash) (last : Directory Xml Hash) : Machine Xml Hash :=
  { machine with journals := machine.journals ++ [last] }

variable {last : Directory Xml Hash}

theorem Machine.isLast_add (hnew : machine.directory last.id = none) :
    Last machine.journals last (machine.add last) := by
  refine ⟨rfl, fun found hfound => ?_⟩
  simpa using List.find?_eq_none.mp hnew found hfound

theorem Machine.edit_add (hnew : machine.directory last.id = none)
    (change : Directory Xml Hash → Directory Xml Hash) :
    (machine.add last).edit last.id change = machine.add (change last) :=
  (Machine.isLast_add hnew).edit change

variable [DecidableEq Hash]

theorem stuck_last {old : List (Directory Xml Hash)} (h : Last old last machine)
    (hstate : ∀ current, last.state = some current →
      current.state = .prepared ∧ current.candidateSha256 = none) :
    Stuck cmdlets last.id machine :=
  ⟨last, h.directory, fun current hread =>
    .inr (hstate current (last.written_of_readState cmdlets hread))⟩

/-- A call of which a faulty process leaves a stuck journal. -/
theorem leaves_cutShort {request : Call Xml Hash} {reached : Machine Xml Hash} {raised : Raised}
    {done : Unit → Machine Xml Hash → Prop} {throws : Raised → Machine Xml Hash → Prop}
    (hperform : perform cmdlets request machine = some reached)
    (hincidental : request.isIncidental = false)
    (hcuts : ∀ parts, request.cutsShort parts = true)
    (hbefore : Stuck cmdlets id machine) (hafter : Stuck cmdlets id reached)
    (hthrows : ∀ after, Stuck cmdlets id after → ¬ Harmless fate → throws raised after)
    (success : done () reached) :
    Leaves (stores cmdlets) fate (Program.perform request raised) machine done throws
      (Sound cmdlets agrees initial fate) := by
  apply leaves_perform hperform
  · exact fun _ => success
  · intro parts hfate
    have hharm := not_harmless_of_fails hfate hincidental
    split
    · exact hthrows _ hbefore hharm
    · exact hthrows _ hafter hharm
  · intro parts hfate
    have hharm := not_harmless_of_dies hfate (hcuts parts)
    split
    · exact hbefore.sound hharm
    · exact hafter.sound hharm

variable (cmdlets) in
/-- The directory of a transaction that is prepared, without its candidate. -/
def Directory.begun (id : Guid) (operation : Operation) (before effective : Xml)
    (metadata : ConfigurationMetadata) : Directory Xml Hash where
  id := id
  beforeLocal := some before
  beforeEffective := some effective
  candidate := none
  state := some (preparedState cmdlets id operation before effective metadata)

/-- A new transaction is prepared, or its directory is stuck after a fault. -/
theorem leaves_newTransaction {operation : Operation} {before effective : Xml}
    {metadata : ConfigurationMetadata} (h : Resolved cmdlets agrees initial machine)
    (hnew : machine.directory id = none) :
    Leaves (stores cmdlets) fate (newTransaction cmdlets id operation before effective metadata)
      machine
      (fun transaction after =>
        transaction = preparedState cmdlets id operation before effective metadata ∧
          after = machine.add (.begun cmdlets id operation before effective metadata))
      (fun _ => Sound cmdlets agrees initial fate) (Sound cmdlets agrees initial fate) := by
  let first : Directory Xml Hash := .empty id
  let second : Directory Xml Hash := first.addFile .beforeLocal before
  let third : Directory Xml Hash := second.addFile .beforeEffective effective
  have hstuck : ∀ last : Directory Xml Hash, last.id = id → last.state = none →
      Stuck cmdlets id (machine.add last) := by
    rintro last rfl hnone
    apply stuck_last (Machine.isLast_add hnew)
    intro current hcurrent
    rw [hnone] at hcurrent
    cases hcurrent
  have hbegun : Stuck cmdlets id
      (machine.add (.begun cmdlets id operation before effective metadata)) := by
    apply stuck_last (Machine.isLast_add hnew)
    rintro current hcurrent
    obtain rfl := Option.some_inj.mp hcurrent
    exact ⟨rfl, rfl⟩
  have hthrows : ∀ after, Stuck cmdlets id after → ¬ Harmless fate →
      Sound cmdlets agrees initial fate after := fun _ hafter hharm => hafter.sound hharm
  have hcreate : perform cmdlets (.createDirectory id) machine = some (machine.add first) := by
    rw [perform, hnew]
    rfl
  have hdirectory : ∀ last : Directory Xml Hash, last.id = id →
      (machine.add last).directory id = some last := by
    rintro last rfl
    exact (Machine.isLast_add hnew).directory
  have hfirst : perform cmdlets (.createFile { directory := id, name := .beforeLocal } before)
      (machine.add first) = some (machine.add second) := by
    rw [perform, hdirectory first rfl]
    exact congrArg some (Machine.edit_add hnew _)
  have hsecond : perform cmdlets
      (.createFile { directory := id, name := .beforeEffective } effective)
      (machine.add second) = some (machine.add third) := by
    rw [perform, hdirectory second rfl]
    exact congrArg some (Machine.edit_add hnew _)
  have hthird : perform cmdlets
      (.writeState id (preparedState cmdlets id operation before effective metadata))
      (machine.add third) =
        some (machine.add (.begun cmdlets id operation before effective metadata)) :=
    congrArg some (Machine.edit_add hnew _)
  rw [newTransaction]
  apply Leaves.bind
  apply leaves_step
  · intro _
    apply Leaves.bind
    apply leaves_perform hcreate
    · intro _
      apply Leaves.bind
      apply leaves_cutShort hfirst rfl (fun _ => rfl) (hstuck first rfl rfl) (hstuck second rfl rfl)
        hthrows
      apply Leaves.bind
      apply leaves_cutShort hsecond rfl (fun _ => rfl) (hstuck second rfl rfl)
        (hstuck third rfl rfl) hthrows
      apply Leaves.bind
      apply leaves_cutShort hthird rfl (fun _ => rfl) (hstuck third rfl rfl) hbegun hthrows
      exact .done ⟨rfl, rfl⟩
    · intro parts hfate
      have hharm := not_harmless_of_fails hfate rfl
      split
      · exact h.sound
      · exact (hstuck first rfl rfl).sound hharm
    · intro parts hfate
      split
      · exact h.sound
      · next hparts =>
        apply (hstuck first rfl rfl).sound
        apply not_harmless_of_dies hfate
        simpa [Call.cutsShort] using hparts
  · exact fun _ _ => h.sound
  · exact fun _ _ => h.sound

/-! ## The candidate -/

section Candidate

variable {operation : Operation} {before effective candidate : Xml}
  {metadata : ConfigurationMetadata} {throws : Raised → Machine Xml Hash → Prop}

variable (cmdlets) in
/-- The directory of a transaction whose candidate is recorded. -/
def Directory.recorded (id : Guid) (operation : Operation) (before effective candidate : Xml)
    (metadata : ConfigurationMetadata) : Directory Xml Hash :=
  { Directory.begun cmdlets id operation before effective metadata with
    candidate := some candidate
    state := some
      { preparedState cmdlets id operation before effective metadata with
        candidateSha256 := some (cmdlets.sha256 candidate) } }

theorem readState_begun :
    (Directory.begun cmdlets id operation before effective metadata).readState cmdlets =
      some (preparedState cmdlets id operation before effective metadata) := by
  simp [Directory.readState, Directory.begun, preparedState, hasHash, candidateFits,
    Option.filter_some]

/-- The transaction under way begins with its candidate recorded. -/
theorem interrupted_recorded (h : Resolved cmdlets agrees initial machine)
    (hnew : machine.directory id = none) (hbefore : machine.policy = before)
    (hmetadata : (normalizedMetadata operation metadata).requireConfigCommit = some true →
      machine.config.isSome ∧ ∃ security, metadata.before = some security ∧
        Vouches cmdlets agrees machine.journals security) :
    Interrupted cmdlets agrees initial machine.journals
      (.recorded cmdlets id operation before effective candidate metadata)
      { preparedState cmdlets id operation before effective metadata with
        candidateSha256 := some (cmdlets.sha256 candidate) } before candidate
      (machine.add (.recorded cmdlets id operation before effective candidate metadata)) where
  isLast := Machine.isLast_add hnew
  ids := h.1.ids
  settled := h.1.settled
  read := by
    simp [Directory.readState, Directory.recorded, Directory.begun, preparedState, hasHash,
      candidateFits, Option.filter_some]
  transactionId := rfl
  ongoing := .inl rfl
  beforeFile := rfl
  base := hbefore ▸ h.1.policy
  candidateFile := rfl
  recorded := rfl
  policy := by
    have hpolicy := h.1.policy.symm.left
    exact hbefore ▸ hpolicy
  metadata := hmetadata

/-- The candidate is recorded, and the transaction under way, or the journal is stuck. -/
theorem leaves_writeCandidate (hnew : machine.directory id = none)
    (hundoable : Undoable cmdlets agrees initial machine.journals id fate
      (machine.add (.recorded cmdlets id operation before effective candidate metadata)))
    (hthrowsReady : ∀ after, Undoable cmdlets agrees initial machine.journals id fate after →
      throws .unapplied after)
    (hthrowsStuck : ∀ after, Stuck cmdlets id after → ¬ Harmless fate → throws .unapplied after) :
    Leaves (stores cmdlets) fate (writeCandidate cmdlets id candidate)
      (machine.add (.begun cmdlets id operation before effective metadata))
      (fun _ after => after =
        machine.add (.recorded cmdlets id operation before effective candidate metadata))
      throws (Sound cmdlets agrees initial fate) := by
  let begun : Directory Xml Hash := .begun cmdlets id operation before effective metadata
  let written : Directory Xml Hash := begun.addFile .candidate candidate
  have hbegun : Stuck cmdlets id (machine.add begun) := by
    apply stuck_last (Machine.isLast_add hnew)
    intro current hcurrent
    obtain rfl := Option.some_inj.mp hcurrent
    exact ⟨rfl, rfl⟩
  have hwritten : Stuck cmdlets id (machine.add written) := by
    apply stuck_last (Machine.isLast_add hnew)
    intro current hcurrent
    obtain rfl := Option.some_inj.mp hcurrent
    exact ⟨rfl, rfl⟩
  have hdirectory : (machine.add begun).directory id = some begun :=
    (Machine.isLast_add hnew).directory
  have hread : (machine.add begun).readState cmdlets id =
      some (preparedState cmdlets id operation before effective metadata) := by
    rw [Machine.readState, hdirectory]
    exact readState_begun
  have hfile : perform cmdlets (.createFile { directory := id, name := .candidate } candidate)
      (machine.add begun) = some (machine.add written) := by
    rw [perform, hdirectory]
    exact congrArg some (Machine.edit_add hnew _)
  have hrecord : perform cmdlets (.writeState id
      { preparedState cmdlets id operation before effective metadata with
        candidateSha256 := some (cmdlets.sha256 candidate) }) (machine.add written) =
      some (machine.add
        (.recorded cmdlets id operation before effective candidate metadata)) :=
    congrArg some (Machine.edit_add hnew _)
  rw [writeCandidate]
  apply Leaves.bind
  apply leaves_readStateObject hread
  apply Leaves.bind
  apply leaves_check
  · intro _
    apply Leaves.bind
    apply leaves_cutShort hfile rfl (fun _ => rfl) hbegun hwritten hthrowsStuck
    apply leaves_perform hrecord
    · exact fun _ => rfl
    · intro parts hfate
      split
      · exact hthrowsStuck _ hwritten (not_harmless_of_fails hfate rfl)
      · exact hthrowsReady _ hundoable
    · intro parts hfate
      split
      · next hparts =>
        apply hwritten.sound
        apply not_harmless_of_dies hfate
        rw [hparts]
        rfl
      · exact .inl hundoable.1.good
  · intro hfailed
    cases hfailed

/-- A transaction under way whose journal the configuration does not record. -/
def Running (cmdlets : Cmdlets Xml Hash Form) (agrees : Prop) (initial : Xml)
    (old : List (Directory Xml Hash)) (id : Guid) (state : State)
    (metadata : ConfigurationMetadata) (candidate : Xml) (config : Option Config)
    (machine : Machine Xml Hash) : Prop :=
  ∃ last current before, last.id = id ∧
    Interrupted cmdlets agrees initial old last current before candidate machine ∧
      current.state = state ∧ current.configurationMetadata = metadata ∧
        machine.config = config ∧ Vouched cmdlets agrees old config

variable {old : List (Directory Xml Hash)} {state : State} {config : Option Config}

section

variable (h : Running cmdlets agrees initial old id state metadata candidate config machine)
include h

theorem Running.ready : Ready cmdlets agrees initial old id fate machine := by
  obtain ⟨last, current, before, hid, h, _, _, rfl, hvouched⟩ := h
  exact .inr ⟨last, current, before, candidate, hid, h, .inl hvouched⟩

theorem Running.undoable : Undoable cmdlets agrees initial old id fate machine := by
  have hready : Ready cmdlets agrees initial old id fate machine := h.ready
  obtain ⟨_, _, _, _, _, _, _, rfl, hvouched⟩ := h
  exact ⟨hready, hvouched⟩

theorem Running.good : Good cmdlets agrees initial machine := by
  obtain ⟨last, current, before, _, h, _, _, rfl, hvouched⟩ := h
  exact .inr ⟨old, last, current, before, candidate, h, .inl hvouched⟩

theorem leaves_move {target : State} {reasonCodes : List ReasonCode} {raised : Raised}
    (hallowed : testTransition state target = true) (hongoing : target.isInterrupted = true)
    (hfits : ∀ before, Fits cmdlets state before candidate machine.policy →
      Fits cmdlets target before candidate machine.policy)
    (hthrows : ∀ after, Undoable cmdlets agrees initial old id fate after → throws raised after) :
    Leaves (stores cmdlets) fate (setTransactionState cmdlets id target reasonCodes raised) machine
      (fun _ => Running cmdlets agrees initial old id target metadata candidate config)
      throws (Sound cmdlets agrees initial fate) := by
  have hundoable : Undoable cmdlets agrees initial old id fate machine := h.undoable
  obtain ⟨last, current, before, rfl, h, rfl, rfl, rfl, hvouched⟩ := h
  have hmoved : Running cmdlets agrees initial old last.id target current.configurationMetadata
      candidate
      machine.config
      (machine.edit last.id (Directory.write (current.move target reasonCodes))) :=
    ⟨last.write (current.move target reasonCodes), current.move target reasonCodes, before, rfl,
      h.write (current.continues_move target reasonCodes) (.inr hongoing)
        (hfits before h.policy), rfl, rfl, rfl, hvouched⟩
  apply leaves_setTransactionState h.readState (.inl hallowed)
  · exact fun _ => hmoved
  · intro parts _
    split
    · exact hthrows _ hundoable
    · exact hthrows _ hmoved.undoable
  · intro parts _
    split
    · exact .inl hundoable.1.good
    · exact .inl hmoved.good

end

theorem leaves_setCandidate (hworks : cmdlets.Works) {point : Point} {raised : Raised}
    (h : Running cmdlets agrees initial old id .applyAttempted metadata candidate config machine)
    (hthrows : ∀ after, Undoable cmdlets agrees initial old id fate after → throws raised after) :
    Leaves (stores cmdlets) fate (Program.perform (.setPolicy point candidate) raised) machine
      (fun _ after =>
        Running cmdlets agrees initial old id .applyAttempted metadata candidate config after ∧
          cmdlets.Same candidate after.policy)
      throws (Sound cmdlets agrees initial fate) := by
  have hundoable : Undoable cmdlets agrees initial old id fate machine := h.undoable
  cases hform : cmdlets.canonical candidate with
  | none =>
      apply leaves_perform_refused
      · rw [perform, hform]
        rfl
      · exact hthrows _ hundoable
      · exact .inl hundoable.1.good
  | some form =>
      have hstored := hworks.same_stored hform
      obtain ⟨last, current, before, hid, h, hstate, hmetadata, hconfig, hvouched⟩ := h
      have hset : Running cmdlets agrees initial old id .applyAttempted metadata candidate config
          { machine with policy := cmdlets.stored candidate } := by
        refine ⟨last, current, before, hid, h.setPolicy ?_, hstate, hmetadata, hconfig, hvouched⟩
        rw [hstate]
        exact .inr hstored
      apply leaves_setPolicy hform
      · exact fun _ => ⟨hset, hstored⟩
      · intro parts _
        split
        · exact hthrows _ hundoable
        · exact hthrows _ hset.undoable
      · intro parts _
        split
        · exact .inl hundoable.1.good
        · exact .inl hset.good

theorem leaves_applyCandidate (hworks : cmdlets.Works)
    (h : Running cmdlets agrees initial machine.journals id .prepared metadata candidate config
      (machine.add (.recorded cmdlets id operation before effective candidate metadata)))
    (hnew : machine.directory id = none)
    (hthrowsReady : ∀ raised after, Undoable cmdlets agrees initial machine.journals id fate after →
      throws raised after)
    (hthrowsStuck : ∀ raised after, Stuck cmdlets id after → ¬ Harmless fate →
      throws raised after) :
    Leaves (stores cmdlets) fate (applyCandidate cmdlets id candidate)
      (machine.add (.begun cmdlets id operation before effective metadata))
      (fun _ =>
        Running cmdlets agrees initial machine.journals id .applied metadata candidate config)
      throws (Sound cmdlets agrees initial fate) := by
  rw [applyCandidate]
  apply (leaves_writeCandidate hnew h.undoable (hthrowsReady _) (hthrowsStuck _)).followedBy
  rintro _ after rfl
  apply Leaves.bind
  have hprepared : ∀ found policy, Fits cmdlets .prepared found candidate policy →
      Fits cmdlets .applyAttempted found candidate policy := fun _ _ hfits => Or.inl hfits
  apply (leaves_move h rfl rfl (fun found => hprepared found _) (hthrowsReady _)).mono
  · intro _ after hattempted
    apply Leaves.bind
    apply leaves_step
    · intro _
      apply (leaves_setCandidate hworks hattempted (hthrowsReady _)).followedBy
      intro _ reached hset
      apply Leaves.bind
      have happlied : ∀ before, Fits cmdlets .applyAttempted before candidate reached.policy →
          Fits cmdlets .applied before candidate reached.policy := fun _ _ => hset.2
      apply (leaves_move hset.1 rfl rfl happlied (hthrowsReady _)).mono
      · exact fun _ _ happlied => .done happlied
      · exact fun _ _ hthrown => hthrown
      · exact fun _ hsound => hsound
    · exact fun _ _ => hthrowsReady _ _ hattempted.undoable
    · exact fun _ _ => .inl hattempted.good
  · exact fun _ _ hthrown => hthrown
  · exact fun _ hsound => hsound

end Candidate

end OpenPath.Windows.AppControl
