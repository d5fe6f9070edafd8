/-
# The commit of a transaction

The configuration records a transaction before its journal is committed. From that write
on, a rollback has to restore the configuration as well, so a commit that fails there is
in order only if the rollback that follows lives until it has done so.
-/

import OpenPath.Windows.AppControlTransaction

namespace OpenPath.Windows.AppControl

open Foundation Program

variable {Xml Hash Form : Type}

/-! ## Fates of a commit -/

section Fates

variable (fate : Call Xml Hash → Fate Unit) (id : Guid)

/-- The configuration is written, and that step or a later one of the commit fails. -/
structure CommitFails : Prop where
  written : ∃ config, acts (fate (.writeConfig .writeCommitConfig config)) = true
  fails : (∃ config parts, fate (.writeConfig .writeCommitConfig config) = .fails parts) ∨
    (∃ parts, fate (.step .verifyCommitConfig) = .fails parts) ∨
    (∃ content parts, content.configurationMetadata.commitVerified = some true ∧
      fate (.writeState id content) = .fails parts) ∨
    ∃ content, content.state = .committed ∧ fate (.writeState id content) = .fails []

/-- A rollback after a failed commit restores the configuration, once it has rolled the
journal back. -/
def UndoesCommit : Prop :=
  CommitFails fate id → RollsBack fate id → Restores fate id

end Fates

section Commit

variable [DecidableEq Hash] {cmdlets : Cmdlets Xml Hash Form} {agrees : Prop} {initial : Xml}
  {fate : Call Xml Hash → Fate Unit} {old : List (Directory Xml Hash)} {id : Guid}
  {metadata : ConfigurationMetadata} {candidate : Xml} {config : Option Config}
  {machine : Machine Xml Hash} {raised : Raised} {run : SetRun Xml}
  {throws : Raised → Machine Xml Hash → Prop}

variable (cmdlets agrees initial old) in
/-- A validated transaction that the configuration records. -/
def Recorded (id : Guid) (metadata : ConfigurationMetadata) (candidate : Xml)
    (machine : Machine Xml Hash) : Prop :=
  ∃ last current before, last.id = id ∧
    Interrupted cmdlets agrees initial old last current before candidate machine ∧
      current.state = .validated ∧ current.configurationMetadata = metadata ∧
        ∀ found, machine.config = some found → found.security.Records id

section

variable (h : Recorded cmdlets agrees initial old id metadata candidate machine)
  (hrequired : metadata.requireConfigCommit = some true)
include h hrequired

theorem Recorded.good : Good cmdlets agrees initial machine := by
  obtain ⟨last, current, before, rfl, h, hstate, rfl, hrecords⟩ := h
  exact .inr ⟨old, last, current, before, candidate, h, .inr ⟨.inl hstate, hrequired, hrecords⟩⟩

/-- It can be rolled back where the rollback of a failed commit restores the configuration. -/
theorem Recorded.ready (hundoes : agrees → UndoesCommit fate id) (hfails : CommitFails fate id) :
    Ready cmdlets agrees initial old id fate machine := by
  obtain ⟨last, current, before, rfl, h, hstate, rfl, hrecords⟩ := h
  refine .inr ⟨last, current, before, candidate, rfl, h, ?_⟩
  by_cases hagrees : agrees
  · exact .inr ⟨⟨.inl hstate, hrequired, hrecords⟩, hundoes hagrees hfails⟩
  · exact .inl fun _ _ himpossible => absurd himpossible hagrees

end

/-! ## The configuration -/

theorem SetRun.records_committedConfig {found written : Config}
    (h : run.committedConfig found = some written) :
    written.security.Records run.transactionId ∧ run.showsCommit (some written) = true := by
  rw [SetRun.committedConfig] at h
  split at h
  · obtain rfl := Option.some_inj.mp h
    exact ⟨⟨rfl, rfl⟩, by simp [SetRun.showsCommit]⟩
  · cases h

theorem leaves_setCommittedConfig
    (h : Running cmdlets agrees initial old run.transactionId .validated metadata candidate config
      machine)
    (hrequired : metadata.requireConfigCommit = some true)
    (hundoes : agrees → UndoesCommit fate run.transactionId)
    (hthrows : ∀ after, Ready cmdlets agrees initial old run.transactionId fate after →
      throws .policyApplied after) :
    Leaves (stores cmdlets) fate (setCommittedConfig run) machine
      (fun _ after =>
        Recorded cmdlets agrees initial old run.transactionId metadata candidate after ∧
          ∃ written, acts (fate (.writeConfig .writeCommitConfig written)) = true)
      throws (Sound cmdlets agrees initial fate) := by
  have hready := hthrows machine h.ready
  have hgood := h.good
  rw [setCommittedConfig]
  apply Leaves.bind
  apply leaves_step
  · intro _
    apply Leaves.observe
    cases hwritten : machine.config.bind run.committedConfig with
    | none => exact .throw hready
    | some written =>
        obtain ⟨found, _, hcommitted⟩ := Option.bind_eq_some_iff.mp hwritten
        obtain ⟨hrecords, hshows⟩ := run.records_committedConfig hcommitted
        have hrecorded : Recorded cmdlets agrees initial old run.transactionId metadata candidate
            { machine with config := some written } := by
          obtain ⟨last, current, before, hid, h, hstate, hmetadata, _⟩ := h
          refine ⟨last, current, before, hid, h.setConfig written, hstate, hmetadata, ?_⟩
          intro later hlater
          obtain rfl := Option.some_inj.mp hlater
          exact hrecords
        apply Leaves.bind
        apply Leaves.done
        apply Leaves.bind
        apply leaves_perform rfl
        · intro hfate
          have hacts : acts (fate (.writeConfig .writeCommitConfig written)) = true := by
            rw [hfate]
            rfl
          apply Leaves.bind
          apply leaves_step
          · intro _
            apply Leaves.observe
            rw [hshows]
            exact .done ⟨hrecorded, written, hacts⟩
          · exact fun parts hfails => hthrows _ (hrecorded.ready hrequired hundoes
              ⟨⟨written, hacts⟩, .inr (.inl ⟨parts, hfails⟩)⟩)
          · exact fun _ _ => .inl (hrecorded.good hrequired)
        · intro parts hfate
          split
          · exact hready
          · next hparts =>
            refine hthrows _ (hrecorded.ready hrequired hundoes
              ⟨⟨written, ?_⟩, .inl ⟨written, parts, hfate⟩⟩)
            rw [hfate, acts]
            simpa using hparts
        · intro parts _
          split
          · exact .inl hgood
          · exact .inl (hrecorded.good hrequired)
  · exact fun _ _ => hready
  · exact fun _ _ => .inl hgood

section

variable (h : Recorded cmdlets agrees initial old id metadata candidate machine)
  (hrequired : metadata.requireConfigCommit = some true)
include h hrequired

theorem leaves_confirmCommit (hnames : metadata.names = true)
    (hwritten : ∃ written, acts (fate (.writeConfig .writeCommitConfig written)) = true)
    (hundoes : agrees → UndoesCommit fate id)
    (hthrows : ∀ after, Ready cmdlets agrees initial old id fate after →
      throws .policyApplied after) :
    Leaves (stores cmdlets) fate (confirmCommit cmdlets id) machine
      (fun _ => Recorded cmdlets agrees initial old id
        { metadata with commitVerified := some true } candidate)
      throws (Sound cmdlets agrees initial fate) := by
  have hgood := h.good hrequired
  have hready : ∀ content parts, content.configurationMetadata.commitVerified = some true →
      fate (.writeState id content) = .fails parts →
      Ready cmdlets agrees initial old id fate machine := by
    intro content parts hverified hfate
    exact h.ready hrequired hundoes
      ⟨hwritten, .inr (.inr (.inl ⟨content, parts, hverified, hfate⟩))⟩
  obtain ⟨last, current, before, rfl, h, hstate, rfl, hrecords⟩ := h
  have hverified : Recorded cmdlets agrees initial old last.id
      { current.configurationMetadata with commitVerified := some true } candidate
      (machine.edit last.id (Directory.write current.verified)) := by
    refine ⟨last.write current.verified, current.verified, before, rfl,
      h.write current.continues_verified ?_ h.policy, hstate, rfl, hrecords⟩
    exact .inr (congrArg State.isInterrupted hstate)
  rw [confirmCommit]
  apply Leaves.bind
  apply leaves_readStateObject h.readState
  apply Leaves.bind
  apply leaves_check
  · intro _
    apply leaves_perform rfl
    · exact fun _ => hverified
    · intro parts hfate
      split
      · exact hthrows _ (hready current.verified parts rfl hfate)
      · exact hthrows _ (hverified.ready hrequired hundoes
          ⟨hwritten, .inr (.inr (.inl ⟨current.verified, parts, rfl, hfate⟩))⟩)
    · intro parts _
      split
      · exact .inl hgood
      · exact .inl (hverified.good hrequired)
  · intro hrefused
    rw [hrequired, hnames] at hrefused
    cases hrefused

/-! ## The journal -/

/-- A committed transaction is at rest, and the configuration records it. -/
theorem leaves_setCommitted (hcommitted : metadata.isCommitted = true)
    (hwritten : ∃ written, acts (fate (.writeConfig .writeCommitConfig written)) = true)
    (hundoes : agrees → UndoesCommit fate id)
    (hthrows : ∀ after, Ready cmdlets agrees initial old id fate after →
      throws .policyApplied after) :
    Leaves (stores cmdlets) fate (setTransactionState cmdlets id .committed [] .policyApplied)
      machine (fun _ => Ready cmdlets agrees initial old id fate) throws
      (Sound cmdlets agrees initial fate) := by
  have hgood := h.good hrequired
  have hready : ∀ content, content.state = .committed → fate (.writeState id content) = .fails [] →
      Ready cmdlets agrees initial old id fate machine := by
    intro content hstate hfate
    exact h.ready hrequired hundoes ⟨hwritten, .inr (.inr (.inr ⟨content, hstate, hfate⟩))⟩
  obtain ⟨last, current, before, rfl, h, hstate, rfl, hrecords⟩ := h
  let content := current.move .committed []
  have hcontinues := current.continues_move .committed []
  have hcandidate : cmdlets.Same candidate machine.policy := by
    have hfits := h.policy
    rw [hstate] at hfits
    exact hfits
  have hrests := h.committed hcontinues rfl hcommitted hcandidate
  have hvouched : Vouched cmdlets agrees (old ++ [last.write content]) machine.config := by
    intro found hfound _ other hother
    obtain rfl : last.id = other :=
      Option.some_inj.mp ((hrecords found hfound).2.symm.trans hother.2)
    exact ⟨last.write content, List.mem_append_right old (List.mem_singleton_self _), rfl,
      content, h.reread hcontinues, rfl⟩
  have hdone : Ready cmdlets agrees initial old last.id fate
      (machine.edit last.id (Directory.write content)) :=
    .inl ⟨last.write content, rfl, hrests, hvouched⟩
  apply leaves_setTransactionState h.readState (.inl (by rw [hstate]; rfl))
  · exact fun _ => hdone
  · intro parts hfate
    split
    · next hparts =>
      rw [hparts] at hfate
      exact hthrows _ (hready content rfl hfate)
    · exact hthrows _ hdone
  · intro parts _
    split
    · exact .inl hgood
    · exact .inl hdone.good

end

/-- What follows a successful validation. -/
theorem leaves_commit
    (h : Running cmdlets agrees initial old run.transactionId .applied metadata candidate config
      machine)
    (hrequired : metadata.requireConfigCommit = some true) (hnames : metadata.names = true)
    (hundoes : agrees → UndoesCommit fate run.transactionId)
    (hthrows : ∀ after, Ready cmdlets agrees initial old run.transactionId fate after →
      throws .policyApplied after) :
    Leaves (stores cmdlets) fate (commit cmdlets run) machine
      (fun _ => Sound cmdlets agrees initial fate) throws (Sound cmdlets agrees initial fate) := by
  have hcommitted : ConfigurationMetadata.isCommitted
      { metadata with commitVerified := some true } = true := by
    have hnamed :
        ConfigurationMetadata.names { metadata with commitVerified := some true } = true :=
      hnames
    rw [ConfigurationMetadata.isCommitted, hnamed]
    simp
  have happlied : ∀ before, Fits cmdlets .applied before candidate machine.policy →
      Fits cmdlets .validated before candidate machine.policy := fun _ hfits => hfits
  rw [commit]
  apply (leaves_move h rfl rfl happlied fun _ hundoable => hthrows _ hundoable.1).followedBy
  intro _ validated hvalidated
  apply (leaves_setCommittedConfig hvalidated hrequired hundoes hthrows).followedBy
  rintro _ recorded ⟨hrecorded, hwritten⟩
  apply (leaves_confirmCommit hrecorded hrequired hnames hwritten hundoes hthrows).followedBy
  intro _ verified hverified
  apply (leaves_setCommitted hverified hrequired hcommitted hwritten hundoes hthrows).followedBy
  intro _ after hready
  apply Leaves.bind
  apply leaves_step
  · exact fun _ => .done (.inl hready.good)
  · exact fun _ _ => hthrows _ hready
  · exact fun _ _ => .inl hready.good

/-- The transaction of a removal is committed, of which the configuration knows nothing. -/
theorem leaves_setCommittedRemoval
    (h : Running cmdlets agrees initial old id .validated metadata candidate config machine)
    (hcommitted : metadata.isCommitted = true)
    (hthrows : ∀ after, Undoable cmdlets agrees initial old id fate after →
      throws .policyApplied after) :
    Leaves (stores cmdlets) fate (setTransactionState cmdlets id .committed [] .policyApplied)
      machine
      (fun _ => Undoable cmdlets agrees initial old id fate) throws
      (Sound cmdlets agrees initial fate) := by
  have hready : Ready cmdlets agrees initial old id fate machine := h.ready
  obtain ⟨last, current, before, rfl, h, hstate, rfl, rfl, hvouched⟩ := h
  have hcandidate : cmdlets.Same candidate machine.policy := by
    have hfits := h.policy
    rw [hstate] at hfits
    exact hfits
  have hdone : Ready cmdlets agrees initial old last.id fate
      (machine.edit last.id (Directory.write (current.move .committed []))) :=
    .inl ⟨last.write (current.move .committed []), rfl,
      h.committed (current.continues_move .committed []) rfl hcommitted hcandidate, hvouched.mono _⟩
  apply leaves_setTransactionState h.readState (.inl (by rw [hstate]; rfl))
  · exact fun _ => ⟨hdone, hvouched⟩
  · intro parts _
    split
    · exact hthrows _ ⟨hready, hvouched⟩
    · exact hthrows _ ⟨hdone, hvouched⟩
  · intro parts _
    split
    · exact .inl hready.good
    · exact .inl hdone.good

end Commit

/-! ## The transactions -/

section Transactions

variable [DecidableEq Hash] [DecidableEq Form] {cmdlets : Cmdlets Xml Hash Form} {agrees : Prop}
  {initial : Xml} {fate : Call Xml Hash → Fate Unit} {machine : Machine Xml Hash}
  {throws : Raised → Machine Xml Hash → Prop} {before effective candidate : Xml}

/-- The transaction of a run that sets the policy, up to its catch block. -/
theorem leaves_applyTransaction (hworks : cmdlets.Works) {run : SetRun Xml} {config : Config}
    (h : Resolved cmdlets agrees initial machine)
    (hnew : machine.directory run.transactionId = none) (hconfig : machine.config = some config)
    (hbefore : machine.policy = before) (hundoes : agrees → UndoesCommit fate run.transactionId)
    (hthrowsReady : ∀ raised after,
      Ready cmdlets agrees initial machine.journals run.transactionId fate after →
        throws raised after)
    (hthrowsStuck : ∀ raised after, Stuck cmdlets run.transactionId after → ¬ Harmless fate →
      throws raised after)
    (hthrowsDiagnosed : ∀ after, Sound cmdlets agrees initial fate after →
      throws .diagnosed after) :
    Leaves (stores cmdlets) fate
      (applyTransaction cmdlets run
        (preparedState cmdlets run.transactionId .apply before effective (run.metadata config))
        candidate)
      (machine.add (.begun cmdlets run.transactionId .apply before effective (run.metadata config)))
      (fun _ => Sound cmdlets agrees initial fate) throws (Sound cmdlets agrees initial fate) := by
  let metadata := normalizedMetadata .apply (run.metadata config)
  have hvouches : Vouches cmdlets agrees machine.journals config.security :=
    h.2 config hconfig
  have hbegins : Running cmdlets agrees initial machine.journals run.transactionId .prepared
      metadata candidate (some config)
      (machine.add
        (.recorded cmdlets run.transactionId .apply before effective candidate
          (run.metadata config))) := by
    refine ⟨_, _, before, rfl, interrupted_recorded h hnew hbefore ?_, rfl, rfl, hconfig, ?_⟩
    · intro _
      rw [hconfig]
      exact ⟨rfl, config.security, rfl, hvouches⟩
    · rw [← hconfig]
      exact h.2
  rw [applyTransaction]
  apply (leaves_applyCandidate hworks hbegins hnew
    (fun raised after hundoable => hthrowsReady raised after hundoable.1) hthrowsStuck).followedBy
  intro _ after happlied
  apply Leaves.bind
  apply leaves_step
  · intro _
    apply Leaves.bind
    apply leaves_step
    · intro _
      split
      · exact leaves_commit happlied rfl rfl hundoes (hthrowsReady _)
      · apply (leaves_refuse hworks rfl rfl rfl hvouches happlied.ready).mono
        · exact fun _ _ hsound => hsound
        · rintro _ reached ⟨rfl, hsound⟩
          exact hthrowsDiagnosed reached hsound
        · exact fun _ hsound => hsound
    · exact fun _ _ => hthrowsReady _ _ happlied.ready
    · exact fun _ _ => .inl happlied.good
  · exact fun _ _ => hthrowsReady _ _ happlied.ready
  · exact fun _ _ => .inl happlied.good

/-- The transaction of a run that removes the rules, up to its catch block. -/
theorem leaves_removeTransaction (hworks : cmdlets.Works) {id : Guid}
    (h : Resolved cmdlets agrees initial machine) (hnew : machine.directory id = none)
    (hbefore : machine.policy = before)
    (hthrowsUndoable : ∀ raised after,
      Undoable cmdlets agrees initial machine.journals id fate after → throws raised after)
    (hthrowsStuck : ∀ raised after, Stuck cmdlets id after → ¬ Harmless fate →
      throws raised after) :
    Leaves (stores cmdlets) fate (removeTransaction cmdlets id candidate)
      (machine.add (.begun cmdlets id .remove before effective RemoveRun.metadata))
      (fun _ => Sound cmdlets agrees initial fate) throws (Sound cmdlets agrees initial fate) := by
  have hbegins : Running cmdlets agrees initial machine.journals id .prepared
      (normalizedMetadata .remove RemoveRun.metadata) candidate machine.config
      (machine.add
        (.recorded cmdlets id .remove before effective candidate RemoveRun.metadata)) := by
    refine ⟨_, _, before, rfl, interrupted_recorded h hnew hbefore ?_, rfl, rfl, rfl, h.2⟩
    intro hrequired
    cases hrequired
  rw [removeTransaction]
  apply (leaves_applyCandidate hworks hbegins hnew hthrowsUndoable hthrowsStuck).followedBy
  intro _ after happlied
  apply Leaves.bind
  apply leaves_step
  · intro _
    apply Leaves.observe
    apply Leaves.bind
    apply leaves_check
    · intro _
      apply Leaves.bind
      have hvalid : ∀ before, Fits cmdlets .applied before candidate after.policy →
          Fits cmdlets .validated before candidate after.policy := fun _ hfits => hfits
      apply (leaves_move happlied rfl rfl hvalid (hthrowsUndoable _)).mono
      · intro _ validated hvalidated
        apply (leaves_setCommittedRemoval hvalidated rfl (hthrowsUndoable _)).followedBy
        intro _ committed hcommitted
        apply Leaves.bind
        apply leaves_step
        · exact fun _ => .done (.inl hcommitted.1.good)
        · exact fun _ _ => hthrowsUndoable _ _ hcommitted
        · exact fun _ _ => .inl hcommitted.1.good
      · exact fun _ _ hthrown => hthrown
      · exact fun _ hsound => hsound
    · exact fun _ => hthrowsUndoable _ _ happlied.undoable
  · exact fun _ _ => hthrowsUndoable _ _ happlied.undoable
  · exact fun _ _ => .inl happlied.good

end Transactions

end OpenPath.Windows.AppControl
