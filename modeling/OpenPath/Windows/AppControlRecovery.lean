/-
# The recovery of an interrupted transaction

From a machine whose journals agree with the policy and the configuration, the recovery
leaves such a machine, whatever fails and wherever the process dies. What it reports as
resolved is at rest. Its rollback keeps the agreement if it restores the configuration or
the configuration does not record the transaction yet.
-/

import OpenPath.Windows.AppControlSound

namespace OpenPath.Windows.AppControl

open Foundation Program

variable {Xml Hash Form : Type}

/-! ## Rules for calls -/

section Rules

variable {cmdlets : Cmdlets Xml Hash Form} {fate : Call Xml Hash → Fate Unit}
  {machine : Machine Xml Hash} {raised : Raised} {id : Guid} {Result : Type}
  {returns : Result → Machine Xml Hash → Prop} {done : Unit → Machine Xml Hash → Prop}
  {throws : Raised → Machine Xml Hash → Prop} {dies : Machine Xml Hash → Prop}
  {request : Call Xml Hash}

/-- A call that is done, or fails or dies before or after its effect. -/
theorem leaves_perform {reached : Machine Xml Hash}
    (hperform : perform cmdlets request machine = some reached)
    (success : fate request = .succeeds → done () reached)
    (failure : ∀ parts, fate request = .fails parts →
      throws raised (if parts = [] then machine else reached))
    (death : ∀ parts, fate request = .dies parts → dies (if parts = [] then machine else reached)) :
    Leaves (stores cmdlets) fate (Program.perform request raised) machine done throws dies := by
  have hparts : ∀ parts, advanced (stores cmdlets) request parts machine =
      if parts = [] then machine else reached := by
    intro parts
    rw [advanced_stores, hperform]
    rfl
  apply Leaves.perform
  · intro after hfate hafter
    obtain rfl : reached = after := Option.some_inj.mp (hperform.symm.trans hafter)
    exact success hfate
  · intro _ hnone
    exact absurd (hperform.symm.trans hnone) (Option.some_ne_none _)
  · intro parts hfate
    rw [hparts]
    exact failure parts hfate
  · intro parts hfate
    rw [hparts]
    exact death parts hfate

theorem leaves_perform_refused (hperform : perform cmdlets request machine = none)
    (failure : throws raised machine) (death : dies machine) :
    Leaves (stores cmdlets) fate (Program.perform request raised) machine done throws dies := by
  have hparts : ∀ parts, advanced (stores cmdlets) request parts machine = machine := by
    intro parts
    rw [advanced_stores, hperform]
    exact ite_self machine
  apply Leaves.perform
  · intro after _ hafter
    exact absurd (hperform.symm.trans hafter) (Option.some_ne_none _).symm
  · exact fun _ _ => failure
  · intro parts _
    rw [hparts]
    exact failure
  · intro parts _
    rw [hparts]
    exact death

variable {point : Point}

theorem leaves_step (success : fate (.step point) = .succeeds → done () machine)
    (failure : ∀ parts, fate (.step point) = .fails parts → throws raised machine)
    (death : ∀ parts, fate (.step point) = .dies parts → dies machine) :
    Leaves (stores cmdlets) fate (Program.perform (.step point) raised) machine
      done throws dies := by
  apply leaves_perform rfl success
  · intro parts hfate
    rw [ite_self]
    exact failure parts hfate
  · intro parts hfate
    rw [ite_self]
    exact death parts hfate

theorem leaves_check {condition : Bool} (passed : condition = true → done () machine)
    (failed : condition = false → throws raised machine) :
    Leaves (stores cmdlets) fate (check condition raised) machine done throws dies := by
  cases condition with
  | true => exact .done (passed rfl)
  | false => exact .throw (failed rfl)

theorem leaves_setPolicy {policy : Xml} {form : Form}
    (hpolicy : cmdlets.canonical policy = some form)
    (success : fate (.setPolicy point policy) = .succeeds →
      done () { machine with policy := cmdlets.stored policy })
    (failure : ∀ parts, fate (.setPolicy point policy) = .fails parts →
      throws raised
        (if parts = [] then machine else { machine with policy := cmdlets.stored policy }))
    (death : ∀ parts, fate (.setPolicy point policy) = .dies parts →
      dies (if parts = [] then machine else { machine with policy := cmdlets.stored policy })) :
    Leaves (stores cmdlets) fate (Program.perform (.setPolicy point policy) raised) machine
      done throws dies :=
  leaves_perform (by rw [perform, hpolicy]; rfl) success failure death

variable [DecidableEq Hash] {current : StateFile Hash}
  {returns : StateFile Hash → Machine Xml Hash → Prop}

theorem leaves_readStateObject (hread : machine.readState cmdlets id = some current)
    (h : returns current machine) :
    Leaves (stores cmdlets) fate (readStateObject cmdlets id raised) machine
      returns throws dies := by
  apply Leaves.look
  rw [hread]
  exact .done h

variable {state : State} {reasonCodes : List ReasonCode}

theorem leaves_setTransactionState (hread : machine.readState cmdlets id = some current)
    (hallowed : testTransition current.state state = true ∨ current.state = state)
    (success : fate (.writeState id (current.move state reasonCodes)) = .succeeds →
      returns (current.move state reasonCodes)
        (machine.edit id (Directory.write (current.move state reasonCodes))))
    (failure : ∀ parts, fate (.writeState id (current.move state reasonCodes)) = .fails parts →
      throws raised (if parts = [] then machine else
        machine.edit id (Directory.write (current.move state reasonCodes))))
    (death : ∀ parts, fate (.writeState id (current.move state reasonCodes)) = .dies parts →
      dies (if parts = [] then machine else
        machine.edit id (Directory.write (current.move state reasonCodes)))) :
    Leaves (stores cmdlets) fate (setTransactionState cmdlets id state reasonCodes raised) machine
      returns throws dies := by
  apply Leaves.bind
  apply leaves_readStateObject hread
  apply Leaves.bind
  apply leaves_check
  · intro _
    apply Leaves.bind
    apply leaves_perform rfl
    · exact fun hfate => .done (success hfate)
    · exact failure
    · exact death
  · intro hrefused
    rw [Bool.or_eq_false_iff, decide_eq_false_iff_not] at hrefused
    rcases hallowed with hallowed | hsame
    · rw [hrefused.1] at hallowed
      cases hallowed
    · exact absurd hsame hrefused.2

/-- A transition that is not allowed, or a journal that is not accepted. -/
theorem leaves_setTransactionState_refused
    (hrefused : ∀ current, machine.readState cmdlets id = some current →
      testTransition current.state state = false ∧ current.state ≠ state)
    (h : throws raised machine) :
    Leaves (stores cmdlets) fate (setTransactionState cmdlets id state reasonCodes raised) machine
      returns throws dies := by
  apply Leaves.bind
  apply Leaves.look
  cases hread : machine.readState cmdlets id with
  | none => exact .throw h
  | some current =>
      obtain ⟨hforbidden, hne⟩ := hrefused current hread
      apply Leaves.done
      apply Leaves.bind
      apply leaves_check
      · intro hallowed
        simp [hforbidden, hne] at hallowed
      · exact fun _ => h

end Rules

/-! ## Resolving a journal -/

section Resolving

variable [DecidableEq Hash] {cmdlets : Cmdlets Xml Hash Form} {agrees : Prop} {initial : Xml}
  {fate : Call Xml Hash → Fate Unit} {old : List (Directory Xml Hash)} {last : Directory Xml Hash}
  {current : StateFile Hash} {before candidate : Xml} {machine : Machine Xml Hash}

variable (cmdlets agrees initial fate) in
/-- What an error leaves in the recovery: it is one of the faults that are not harmless. -/
def Broken (machine : Machine Xml Hash) : Prop :=
  (Good cmdlets agrees initial machine ∨ Lost cmdlets machine) ∧ ¬ Harmless fate

theorem Broken.sound (h : Broken cmdlets agrees initial fate machine) :
    Sound cmdlets agrees initial fate machine := by
  rcases h.1 with hgood | hlost
  · exact .inl hgood
  · exact .inr ⟨hlost, h.2⟩

theorem leaves_giveUp {id : Guid} {raised : Raised} :
    Leaves (stores cmdlets) fate (giveUp cmdlets id raised) machine
      (fun _ after => after = machine ∨ Lost cmdlets after) (fun _ _ => False)
      (fun after => after = machine ∨ Lost cmdlets after) := by
  apply Leaves.bind
  apply Leaves.attempt
  cases hread : machine.readState cmdlets id with
  | none =>
      apply leaves_setTransactionState_refused
      · intro current hcurrent
        rw [hread] at hcurrent
        cases hcurrent
      · exact .done (.inl rfl)
  | some current =>
      by_cases hallowed : testTransition current.state .recoveryRequired = true ∨
          current.state = .recoveryRequired
      · obtain ⟨found, hfound, _⟩ := Option.bind_eq_some_iff.mp hread
        have hlost : Lost cmdlets (machine.edit id
            (Directory.write (current.move .recoveryRequired [.appcontrolRecoveryRequired]))) :=
          ⟨id, stuck_of_recoveryRequired hfound rfl⟩
        apply leaves_setTransactionState hread hallowed
        · exact fun _ => .done (.inr hlost)
        · intro parts _
          split
          · exact .done (.inl rfl)
          · exact .done (.inr hlost)
        · intro parts _
          split
          · exact .inl rfl
          · exact .inr hlost
      · rw [not_or, Bool.not_eq_true] at hallowed
        apply leaves_setTransactionState_refused
        · intro found hfound
          obtain rfl : current = found := Option.some_inj.mp (hread.symm.trans hfound)
          exact hallowed
        · exact .done (.inl rfl)

theorem Broken.givenUp {after : Machine Xml Hash} (h : Broken cmdlets agrees initial fate machine)
    (hafter : after = machine ∨ Lost cmdlets after) : Sound cmdlets agrees initial fate after := by
  rcases hafter with rfl | hlost
  · exact h.sound
  · exact .inr ⟨hlost, h.2⟩

/-- The security fields from before the transaction are restored. -/
theorem vouched_restored {config : Config} {security : Security}
    (h : Vouches cmdlets agrees old security) :
    Vouched cmdlets agrees old (some (config.restored security)) := by
  intro found hfound
  obtain rfl := Option.some_inj.mp hfound
  exact h

variable {restores : Bool}

/-- Where the configuration is restored, it vouches for a committed transaction again. -/
theorem leaves_restoreConfiguration {item : StateFile Hash}
    (hitem : current.configurationMetadata = item.configurationMetadata)
    (h : Interrupted cmdlets agrees initial old last current before candidate machine)
    (hconfig : Vouched cmdlets agrees old machine.config ∨ Claimed last current machine.config)
    (hrestores : restores = true ∨ Vouched cmdlets agrees old machine.config) :
    Leaves (stores cmdlets) fate (restoreConfiguration restores item) machine
      (fun _ after => Interrupted cmdlets agrees initial old last current before candidate after ∧
        after.policy = machine.policy ∧ Vouched cmdlets agrees old after.config)
      (fun _ => Broken cmdlets agrees initial fate) (Sound cmdlets agrees initial fate) := by
  have hunderway : Good cmdlets agrees initial machine :=
    .inr ⟨old, last, current, before, candidate, h, hconfig⟩
  rw [restoreConfiguration]
  split
  · unfold restoreSecurityConfig
    rw [← hitem]
    split
    · next hrequired hbefore =>
      obtain ⟨hthere, security, hsecurity, hvouches⟩ := h.metadata hrequired
      obtain rfl := Option.some_inj.mp (hbefore.symm.trans hsecurity)
      obtain ⟨config, hconfigThere⟩ := Option.isSome_iff_exists.mp hthere
      apply Leaves.bind
      apply leaves_step
      · intro _
        apply Leaves.observe
        rw [hconfigThere]
        apply leaves_perform rfl
        · exact fun _ => ⟨h.setConfig _, rfl, vouched_restored hvouches⟩
        · intro parts hfate
          refine ⟨.inl ?_, not_harmless_of_fails hfate rfl⟩
          split
          · exact hunderway
          · exact .inr ⟨old, last, current, before, candidate, h.setConfig _,
              .inl (vouched_restored hvouches)⟩
        · intro parts _
          split
          · exact .inl hunderway
          · exact .inl (.inr ⟨old, last, current, before, candidate, h.setConfig _,
              .inl (vouched_restored hvouches)⟩)
      · exact fun parts hfate => ⟨.inl hunderway, not_harmless_of_fails hfate rfl⟩
      · exact fun parts _ => .inl hunderway
    · next hnot =>
      apply Leaves.done
      refine ⟨h, rfl, ?_⟩
      rcases hconfig with hvouched | hclaimed
      · exact hvouched
      · obtain ⟨_, security, hsecurity, _⟩ := h.metadata hclaimed.required
        exact absurd hsecurity (hnot security hclaimed.required)
  · next hnot =>
    apply Leaves.done
    rcases hrestores with hrestores | hvouched
    · exact absurd hrestores hnot
    · exact ⟨h, rfl, hvouched⟩

section

variable (h : Interrupted cmdlets agrees initial old last current before candidate machine)
include h

/-- The policy is the one before the transaction or its candidate. -/
theorem Interrupted.same :
    cmdlets.Same before machine.policy ∨ cmdlets.Same candidate machine.policy := by
  have hfits := h.policy
  unfold Fits at hfits
  split at hfits
  · exact .inl hfits
  · exact .inr hfits
  · exact .inr hfits
  · exact hfits

theorem leaves_readSnapshots (hgood : Good cmdlets agrees initial machine) :
    Leaves (stores cmdlets) fate (readSnapshots last.id) machine
      (fun snapshots after => snapshots = (before, candidate) ∧ after = machine)
      (fun _ => Broken cmdlets agrees initial fate) (Sound cmdlets agrees initial fate) := by
  rw [readSnapshots]
  apply Leaves.bind
  apply leaves_step
  · intro _
    apply Leaves.observe
    rw [h.isLast.directory, Option.bind_some, Option.bind_some, h.beforeFile, h.candidateFile]
    exact .done ⟨rfl, rfl⟩
  · exact fun parts hfate => ⟨.inl hgood, not_harmless_of_fails hfate rfl⟩
  · exact fun parts _ => .inl hgood

end

/-- The configuration does not record a journal that is under way. -/
def Unclaimed (cmdlets : Cmdlets Xml Hash Form) (machine : Machine Xml Hash) : Prop :=
  ∀ current, Item.journal current ∈ pendingRecovery cmdlets machine →
    ∀ config, machine.config = some config → ¬ config.security.Records current.transactionId

theorem Unclaimed.vouched (hunclaimed : agrees → Unclaimed cmdlets machine)
    (h : Interrupted cmdlets agrees initial old last current before candidate machine)
    (hconfig : Vouched cmdlets agrees old machine.config ∨ Claimed last current machine.config) :
    Vouched cmdlets agrees old machine.config := by
  rcases hconfig with hvouched | hclaimed
  · exact hvouched
  · intro config hfound hagrees
    have hmember : Item.journal current ∈ pendingRecovery cmdlets machine := by
      rw [h.pendingRecovery]
      exact List.mem_singleton_self _
    have hrecords := hclaimed.records config hfound
    rw [← h.transactionId] at hrecords
    exact absurd hrecords (hunclaimed hagrees current hmember config hfound)

variable [DecidableEq Form]

section

variable (hworks : cmdlets.Works)
  (h : Interrupted cmdlets agrees initial old last current before candidate machine)
  (hconfig : Vouched cmdlets agrees old machine.config ∨ Claimed last current machine.config)
include hworks h hconfig

/-- A journal that is resolved is rolled back, and everything is at rest. -/
theorem leaves_resolveItem (hinterrupted : current.state.isInterrupted = true)
    (hrestores : restores = true ∨ Vouched cmdlets agrees old machine.config) :
    Leaves (stores cmdlets) fate (resolveItem cmdlets restores current) machine
      (fun _ after => Resolved cmdlets agrees initial after ∧ cmdlets.Same before after.policy)
      (fun _ => Broken cmdlets agrees initial fate) (Sound cmdlets agrees initial fate) := by
  have hgood : Good cmdlets agrees initial machine :=
    .inr ⟨old, last, current, before, candidate, h, hconfig⟩
  have hsame := h.same
  obtain ⟨form, _, hform⟩ := h.base
  have hallowed : testTransition current.state .rollbackAttempted = true ∨
      current.state = .rollbackAttempted := by
    cases hstate : current.state <;> rw [hstate] at hinterrupted <;>
      first | exact absurd hinterrupted (by decide) | exact .inl rfl | exact .inr rfl
  -- The journal says that its rollback is attempted.
  let attempted := current.move .rollbackAttempted [.appcontrolRecoveryRequired]
  have hcontinues := current.continues_move .rollbackAttempted [.appcontrolRecoveryRequired]
  have hattempted := h.write hcontinues (.inr rfl) hsame
  have hattemptedConfig := hconfig.imp_right fun hclaimed => hclaimed.write hcontinues (.inr rfl)
  have hattemptedGood : Good cmdlets agrees initial
      (machine.edit last.id (Directory.write attempted)) :=
    .inr ⟨old, _, attempted, before, candidate, hattempted, hattemptedConfig⟩
  -- The policy is the one before the transaction.
  have hstored := hworks.same_stored hform
  have hrestored : Interrupted cmdlets agrees initial old (last.write attempted) attempted before
      candidate
      { machine.edit last.id (Directory.write attempted) with policy := cmdlets.stored before } :=
    hattempted.setPolicy (.inl hstored)
  have hrestoredGood : Good cmdlets agrees initial
      { machine.edit last.id (Directory.write attempted) with policy := cmdlets.stored before } :=
    .inr ⟨old, _, attempted, before, candidate, hrestored, hattemptedConfig⟩
  rw [resolveItem, h.transactionId]
  apply Leaves.bind
  apply leaves_step
  · intro _
    apply Leaves.observe
    apply (leaves_readSnapshots h hgood).followedBy
    rintro snapshots after ⟨rfl, rfl⟩
    apply Leaves.bind
    apply leaves_check
    · intro _
      apply Leaves.bind
      apply leaves_setTransactionState h.readState hallowed
      · intro _
        apply Leaves.bind
        apply leaves_setPolicy hform
        · intro _
          apply Leaves.bind
          apply leaves_step
          · intro _
            apply Leaves.observe
            apply Leaves.bind
            apply leaves_check
            · intro _
              apply (leaves_restoreConfiguration rfl hrestored hattemptedConfig hrestores).followedBy
              rintro _ after ⟨hafter, hpolicy, hvouched⟩
              have hsafe : cmdlets.Same before after.policy := hpolicy ▸ hstored
              have hafterGood : Good cmdlets agrees initial after :=
                .inr ⟨old, _, attempted, before, candidate, hafter, .inl hvouched⟩
              have hundone := (hafter.undone
                (attempted.continues_move .rolledBack [.appcontrolRecoveryRequired])
                (.inr rfl) hsafe).resolved (hvouched.mono _)
              apply Leaves.bind
              apply leaves_setTransactionState hafter.readState (.inl rfl)
              · exact fun _ => .done ⟨hundone, hsafe⟩
              · intro parts hfate
                refine ⟨.inl ?_, not_harmless_of_fails hfate rfl⟩
                split
                · exact hafterGood
                · exact .inl hundone
              · intro parts _
                split
                · exact .inl hafterGood
                · exact hundone.sound
            · intro hdiffers
              rw [cmdlets.compare_eq_true.mpr hstored] at hdiffers
              cases hdiffers
          · exact fun parts hfate => ⟨.inl hrestoredGood, not_harmless_of_fails hfate rfl⟩
          · exact fun parts _ => .inl hrestoredGood
        · intro parts hfate
          refine ⟨.inl ?_, not_harmless_of_fails hfate rfl⟩
          split
          · exact hattemptedGood
          · exact hrestoredGood
        · intro parts _
          split
          · exact .inl hattemptedGood
          · exact .inl hrestoredGood
      · intro parts hfate
        refine ⟨.inl ?_, not_harmless_of_fails hfate rfl⟩
        split
        · exact hgood
        · exact hattemptedGood
      · intro parts _
        split
        · exact .inl hgood
        · exact .inl hattemptedGood
    · intro hdrift
      rw [Bool.or_eq_false_iff] at hdrift
      rcases hsame with hbefore | hcandidate
      · rw [cmdlets.compare_eq_true.mpr hbefore] at hdrift
        cases hdrift.1
      · rw [cmdlets.compare_eq_true.mpr hcandidate] at hdrift
        cases hdrift.2
  · exact fun parts hfate => ⟨.inl hgood, not_harmless_of_fails hfate rfl⟩
  · exact fun parts _ => .inl hgood

theorem leaves_recoverItem
    (hrestores : restores = true ∨ Vouched cmdlets agrees old machine.config) :
    Leaves (stores cmdlets) fate (recoverItem cmdlets restores (.journal current)) machine
      (fun unresolved after => Sound cmdlets agrees initial fate after ∧
        (unresolved = none →
          Resolved cmdlets agrees initial after ∧ cmdlets.Same before after.policy) ∧
        (unresolved ≠ none → ¬ Harmless fate))
      (fun _ _ => False) (Sound cmdlets agrees initial fate) := by
  have hgood : Good cmdlets agrees initial machine :=
    .inr ⟨old, last, current, before, candidate, h, hconfig⟩
  rw [recoverItem]
  split
  · next hprepared =>
    have hsafe : cmdlets.Same before machine.policy := by
      have hfits := h.policy
      rw [hprepared] at hfits
      exact hfits
    have hvouched : Vouched cmdlets agrees old machine.config := by
      refine hconfig.resolve_right fun hclaimed => ?_
      rcases hclaimed.state with hstate | hstate <;> rw [hprepared] at hstate <;> cases hstate
    have haborted := (h.undone (current.continues_move .aborted []) (.inl rfl) hsafe).resolved
      (hvouched.mono _)
    rw [h.transactionId]
    apply Leaves.bind
    apply Leaves.attempt
    apply leaves_setTransactionState h.readState (.inl (by rw [hprepared]; rfl))
    · exact fun _ => .done ⟨haborted.sound, fun _ => ⟨haborted, hsafe⟩, fun hne => absurd rfl hne⟩
    · intro parts hfate
      have hharm := not_harmless_of_fails hfate rfl
      apply Leaves.done
      refine ⟨?_, fun hnone => absurd hnone (Option.some_ne_none _), fun _ => hharm⟩
      split
      · exact .inl hgood
      · exact haborted.sound
    · intro parts _
      split
      · exact .inl hgood
      · exact haborted.sound
  · next hprepared =>
    have hinterrupted := h.ongoing.resolve_left hprepared
    rw [if_pos hinterrupted]
    apply Leaves.catching
    apply Leaves.bind
    apply (leaves_resolveItem hworks h hconfig hinterrupted hrestores).mono
    · intro _ after hafter
      exact .done ⟨hafter.1.sound, fun _ => hafter, fun hne => absurd rfl hne⟩
    · intro error after hbroken
      apply Leaves.bind
      apply leaves_giveUp.mono
      · exact fun _ _ hgivenUp => .done ⟨hbroken.givenUp hgivenUp,
          fun hnone => absurd hnone (Option.some_ne_none _), fun _ => hbroken.2⟩
      · exact fun _ _ himpossible => himpossible
      · exact fun _ hgivenUp => hbroken.givenUp hgivenUp
    · exact fun _ hsound => hsound

end

/-- From a good machine, the recovery leaves a sound one, and one at rest if it resolves
everything. -/
theorem leaves_recovery (hworks : cmdlets.Works) (hgood : Good cmdlets agrees initial machine)
    (hrestores : restores = true ∨ (agrees → Unclaimed cmdlets machine)) :
    Leaves (stores cmdlets) fate (recovery cmdlets restores) machine
      (fun unresolved after => Sound cmdlets agrees initial fate after ∧
        (unresolved = [] → Resolved cmdlets agrees initial after) ∧
        (unresolved ≠ [] → ¬ Harmless fate))
      (fun _ _ => False) (Sound cmdlets agrees initial fate) := by
  apply Leaves.look
  rcases hgood with hresolved | ⟨old, last, current, before, candidate, h, hconfig⟩
  · rw [hresolved.1.pendingRecovery]
    exact .done ⟨hresolved.sound, fun _ => hresolved, fun hne => absurd rfl hne⟩
  · rw [h.pendingRecovery]
    have hvouched := hrestores.imp_right fun hunclaimed => Unclaimed.vouched hunclaimed h hconfig
    apply (leaves_recoverItem hworks h hconfig hvouched).followedBy
    intro unresolved after hafter
    apply Leaves.bind
    apply Leaves.done
    apply Leaves.done
    rw [List.append_nil]
    cases unresolved with
    | none => exact ⟨hafter.1, fun _ => (hafter.2.1 rfl).1, fun hne => absurd rfl hne⟩
    | some item =>
        exact ⟨hafter.1, fun hnil => absurd hnil (List.cons_ne_nil _ _),
          fun _ => hafter.2.2 (Option.some_ne_none _)⟩

end Resolving

end OpenPath.Windows.AppControl
