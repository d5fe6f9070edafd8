/-
# The rollback of a failed transaction

A run that fails after its transaction has begun rolls it back, and a run that sets the
policy restores the configuration after that. Between the two, a configuration that
already records the transaction disagrees with the journal, so the process must not die
there, and the configuration has to be restored.
-/

import OpenPath.Windows.AppControlRecovery

namespace OpenPath.Windows.AppControl

open Foundation Program

variable {Xml Hash Form : Type}

/-! ## Fates of a rollback -/

/-- The effect of a call takes place. -/
def acts : Fate Unit → Bool
  | .succeeds => true
  | .fails parts | .dies parts => !parts.isEmpty

section Fates

variable (fate : Call Xml Hash → Fate Unit) (id : Guid)

/-- The rollback gets as far as `rolled-back`. -/
structure RollsBack : Prop where
  attempted : ∃ content, content.state = .rollbackAttempted ∧
    fate (.writeState id content) = .succeeds
  read : fate (.step .readBefore) = .succeeds
  applied : ∃ policy, fate (.setPolicy .applyBefore policy) = .succeeds
  verified : fate (.step .verifyBefore) = .succeeds
  rolledBack : ∃ content, content.state = .rolledBack ∧
    acts (fate (.writeState id content)) = true

/-- From `rolled-back` on, the process lives until the configuration is restored. -/
structure Restores : Prop where
  lives : ∀ content parts, content.state = .rolledBack →
    fate (.writeState id content) = .dies parts →
    parts = [] ∧ content.internalRollbackSucceeded = false
  read : fate (.step .readRestoreConfig) = .succeeds
  written : ∀ config, acts (fate (.writeConfig .writeRestoreConfig config)) = true

end Fates

/-! ## The journals of a run -/

section Journals

variable [DecidableEq Hash] (cmdlets : Cmdlets Xml Hash Form) (agrees : Prop) (initial : Xml)
  (old : List (Directory Xml Hash)) (id : Guid)

/-- The journal of the run follows the given ones, under way or settled. -/
def Based (machine : Machine Xml Hash) : Prop :=
  (∃ last, last.id = id ∧ Rests cmdlets initial (old ++ [last]) machine) ∨
    ∃ last current before candidate, last.id = id ∧
      Interrupted cmdlets agrees initial old last current before candidate machine

variable (fate : Call Xml Hash → Fate Unit)

/-- A good machine whose transaction can be rolled back. -/
def Ready (machine : Machine Xml Hash) : Prop :=
  (∃ last, last.id = id ∧ Rests cmdlets initial (old ++ [last]) machine ∧
      Vouched cmdlets agrees (old ++ [last]) machine.config) ∨
    ∃ last current before candidate, last.id = id ∧
      Interrupted cmdlets agrees initial old last current before candidate machine ∧
        (Vouched cmdlets agrees old machine.config ∨
          (Claimed last current machine.config ∧ (RollsBack fate id → Restores fate id)))

/-- A transaction that can be rolled back and that the configuration does not record. -/
def Undoable (machine : Machine Xml Hash) : Prop :=
  Ready cmdlets agrees initial old id fate machine ∧ Vouched cmdlets agrees old machine.config

/-- What a rollback leaves. Where the configuration is not in order, it will be restored. -/
def RolledBack (config : Option Config) (machine : Machine Xml Hash) : Prop :=
  (Based cmdlets agrees initial old id machine ∧
      (Good cmdlets agrees initial machine ∨
        (Restores fate id ∧ ¬ Vouched cmdlets agrees old config))) ∨
    (Lost cmdlets machine ∧ ¬ Harmless fate)

variable {cmdlets agrees initial old id fate} {last : Directory Xml Hash} {current : StateFile Hash}
  {before candidate : Xml} {machine : Machine Xml Hash}

section

variable (h : Ready cmdlets agrees initial old id fate machine)
include h

theorem Ready.good : Good cmdlets agrees initial machine := by
  rcases h with ⟨last, _, hrests, hvouched⟩ | ⟨last, current, before, candidate, _, h, hconfig⟩
  · exact .inl (hrests.resolved hvouched)
  · exact .inr ⟨old, last, current, before, candidate, h, hconfig.imp_right And.left⟩

theorem Ready.based : Based cmdlets agrees initial old id machine := by
  rcases h with ⟨last, hid, hrests, _⟩ | ⟨last, current, before, candidate, hid, h, _⟩
  · exact .inl ⟨last, hid, hrests⟩
  · exact .inr ⟨last, current, before, candidate, hid, h⟩

theorem Ready.rolledBack (config : Option Config) :
    RolledBack cmdlets agrees initial old id fate config machine :=
  .inl ⟨h.based, .inl h.good⟩

end

theorem Rests.isLast (h : Rests cmdlets initial (old ++ [last]) machine) :
    Last old last machine where
  journals := h.listed
  fresh := fun found hfound =>
    (List.pairwise_append.mp h.ids).2.2 found hfound last (List.mem_singleton_self last)

/-- A settled journal makes no transition. -/
theorem Rests.refused {state : State} (h : Rests cmdlets initial (old ++ [last]) machine)
    (hstate : state.isTerminal = false) :
    ∀ current, machine.readState cmdlets last.id = some current →
      testTransition current.state state = false ∧ current.state ≠ state := by
  intro current hread
  rw [Machine.readState, h.isLast.directory, Option.bind_some] at hread
  obtain ⟨found, hfound, hterminal, _⟩ :=
    h.settled last (List.mem_append_right old (List.mem_singleton_self last))
  obtain rfl : current = found := Option.some_inj.mp (hread.symm.trans hfound)
  refine ⟨testTransition_of_terminal hterminal state, ?_⟩
  rintro rfl
  rw [hterminal] at hstate
  cases hstate

/-! ## Giving up -/

variable {raised : Raised} {config : Option Config}

theorem leaves_caught (h : Ready cmdlets agrees initial old id fate machine)
    (hharm : ¬ Harmless fate) :
    Leaves (stores cmdlets) fate
      ((giveUp cmdlets id raised).bind fun _ => (.done false : JournalProgram Xml Hash Bool))
      machine
      (fun _ => RolledBack cmdlets agrees initial old id fate config) (fun _ _ => False)
      (Sound cmdlets agrees initial fate) := by
  apply Leaves.bind
  apply leaves_giveUp.mono
  · intro _ after hafter
    apply Leaves.done
    rcases hafter with rfl | hlost
    · exact h.rolledBack config
    · exact .inr ⟨hlost, hharm⟩
  · exact fun _ _ himpossible => himpossible
  · intro after hafter
    rcases hafter with rfl | hlost
    · exact .inl h.good
    · exact .inr ⟨hlost, hharm⟩

section

variable (h : Rests cmdlets initial (old ++ [last]) machine)
include h

/-- A settled journal is not given up. -/
theorem leaves_caught_rests :
    Leaves (stores cmdlets) fate
      ((giveUp cmdlets last.id raised).bind fun _ => (.done false : JournalProgram Xml Hash Bool))
      machine (fun _ after => after = machine) (fun _ _ => False) (fun _ => False) := by
  apply Leaves.bind
  apply Leaves.bind
  apply Leaves.attempt
  exact leaves_setTransactionState_refused (h.refused rfl) (.done (.done rfl))

/-! ## The rollback -/

variable (hid : last.id = id) (hconfig : machine.config = config)
  (hsafe : Vouched cmdlets agrees old config ∨ Restores fate id)
include hid hconfig hsafe

/-- The state of a journal that a rollback has moved on, as long as the process lives. -/
theorem Rests.rolledBack : RolledBack cmdlets agrees initial old id fate config machine := by
  refine .inl ⟨.inl ⟨last, hid, h⟩, ?_⟩
  by_cases hvouched : Vouched cmdlets agrees old config
  · subst hconfig
    exact .inl (.inl (h.resolved (hvouched.mono _)))
  · exact .inr ⟨hsafe.resolve_left hvouched, hvouched⟩

theorem leaves_caught_rolledBack :
    Leaves (stores cmdlets) fate
      ((giveUp cmdlets id raised).bind fun _ => (.done false : JournalProgram Xml Hash Bool))
      machine
      (fun _ => RolledBack cmdlets agrees initial old id fate config) (fun _ _ => False)
      (Sound cmdlets agrees initial fate) := by
  subst hid
  apply (leaves_caught_rests h).mono
  · rintro _ after rfl
    exact h.rolledBack rfl hconfig hsafe
  · exact fun _ _ himpossible => himpossible
  · exact fun _ himpossible => himpossible.elim

end

/-- The end of a rollback whose policy is the one before the transaction. -/
theorem leaves_finishRollback
    (h : Interrupted cmdlets agrees initial old last current before candidate machine)
    (hstate : current.state = .rollbackAttempted) (hpolicy : cmdlets.Same before machine.policy)
    (hconfig : Vouched cmdlets agrees old machine.config ∨
      (Claimed last current machine.config ∧ (RollsBack fate last.id → Restores fate last.id)))
    (hrolls : ∀ content, content.state = .rolledBack →
      acts (fate (.writeState last.id content)) = true → RollsBack fate last.id) :
    Leaves (stores cmdlets) fate (finishRollback cmdlets last.id true raised) machine
      (fun _ => RolledBack cmdlets agrees initial old last.id fate machine.config)
      (fun _ after => Leaves (stores cmdlets) fate
        ((giveUp cmdlets last.id raised).bind fun _ => (.done false : JournalProgram Xml Hash Bool))
          after (fun _ => RolledBack cmdlets agrees initial old last.id fate machine.config)
          (fun _ _ => False) (Sound cmdlets agrees initial fate))
      (Sound cmdlets agrees initial fate) := by
  have hready : Ready cmdlets agrees initial old last.id fate machine :=
    .inr ⟨last, current, before, candidate, rfl, h, hconfig⟩
  let rolled := current.move .rolledBack []
  let flagged := { rolled with internalRollbackSucceeded := true }
  have hrolled : Rests cmdlets initial (old ++ [last.write rolled])
      (machine.edit last.id (Directory.write rolled)) :=
    h.undone (current.continues_move .rolledBack []) (.inr rfl) hpolicy
  have hflagged : Rests cmdlets initial (old ++ [last.write flagged])
      ((machine.edit last.id (Directory.write rolled)).edit last.id (Directory.write flagged)) := by
    rw [Machine.edit_write_write]
    exact h.undone ((current.continues_move .rolledBack []).trans rolled.continues_rolledBack)
      (.inr rfl) hpolicy
  -- Once the journal is rolled back, the configuration is in order or will be restored.
  have hsafe : acts (fate (.writeState last.id rolled)) = true →
      Vouched cmdlets agrees old machine.config ∨ Restores fate last.id :=
    fun hacts => hconfig.imp_right fun hclaimed => hclaimed.2 (hrolls rolled rfl hacts)
  rw [finishRollback, if_pos rfl]
  apply Leaves.bind
  apply leaves_setTransactionState h.readState (.inl (by rw [hstate]; rfl))
  · intro hfate
    have hacts : acts (fate (.writeState last.id rolled)) = true := by
      rw [hfate]
      rfl
    apply Leaves.bind
    apply leaves_perform rfl
    · exact fun _ => .done (hflagged.rolledBack rfl rfl (hsafe hacts))
    · intro parts _
      split
      · exact leaves_caught_rolledBack hrolled rfl rfl (hsafe hacts)
      · exact leaves_caught_rolledBack hflagged rfl rfl (hsafe hacts)
    · intro parts hdies
      rcases hsafe hacts with hvouched | hrestores
      · split
        · exact (hrolled.resolved (hvouched.mono _)).sound
        · exact (hflagged.resolved (hvouched.mono _)).sound
      · exact absurd (hrestores.lives flagged parts rfl hdies).2 Bool.noConfusion
  · intro parts hfate
    split
    · exact leaves_caught hready (not_harmless_of_fails hfate rfl)
    · next hparts =>
      have hacts : acts (fate (.writeState last.id rolled)) = true := by
        rw [hfate, acts]
        simpa using hparts
      exact leaves_caught_rolledBack hrolled rfl rfl (hsafe hacts)
  · intro parts hfate
    split
    · exact .inl hready.good
    · next hparts =>
      have hacts : acts (fate (.writeState last.id rolled)) = true := by
        rw [hfate, acts]
        simpa using hparts
      rcases hsafe hacts with hvouched | hrestores
      · exact (hrolled.resolved (hvouched.mono _)).sound
      · exact absurd (hrestores.lives rolled parts rfl hfate).1 hparts

/-- A journal that is under way past `prepared` can be rolled back. -/
theorem testTransition_rollback {source : State} (h : source.isInterrupted = true) :
    testTransition source .rollbackAttempted = true ∨ source = .rollbackAttempted := by
  cases source <;> first | exact .inl rfl | exact .inr rfl | exact absurd h (by decide)

/-! ## The configuration -/

theorem Based.good (h : Based cmdlets agrees initial old id machine)
    (hvouched : Vouched cmdlets agrees old machine.config) :
    Good cmdlets agrees initial machine := by
  rcases h with ⟨last, _, hrests⟩ | ⟨last, current, before, candidate, _, h⟩
  · exact .inl (hrests.resolved (hvouched.mono _))
  · exact .inr ⟨old, last, current, before, candidate, h, .inl hvouched⟩

theorem Based.setConfig (h : Based cmdlets agrees initial old id machine) (config : Config) :
    Based cmdlets agrees initial old id { machine with config := some config } := by
  rcases h with ⟨last, hid, hrests⟩ | ⟨last, current, before, candidate, hid, h⟩
  · exact .inl ⟨last, hid, ⟨hrests.listed, hrests.ids, hrests.settled, hrests.policy⟩⟩
  · exact .inr ⟨last, current, before, candidate, hid, h.setConfig config⟩

variable {security : Security} {metadata : ConfigurationMetadata}

section

variable (hrequired : metadata.requireConfigCommit = some true)
  (hbefore : metadata.before = some security) (hvouches : Vouches cmdlets agrees old security)
include hrequired hbefore hvouches

theorem leaves_restoreSecurityConfig (h : Based cmdlets agrees initial old id machine)
    (hsafe : Good cmdlets agrees initial machine ∨ Restores fate id) :
    Leaves (stores cmdlets) fate
      (restoreSecurityConfig metadata .readRestoreConfig .writeRestoreConfig raised) machine
      (fun _ => Sound cmdlets agrees initial fate) (fun _ => Sound cmdlets agrees initial fate)
      (Sound cmdlets agrees initial fate) := by
  have hread : fate (.step .readRestoreConfig) ≠ .succeeds → Good cmdlets agrees initial machine :=
    fun hfate => hsafe.resolve_right fun hrestores => hfate hrestores.read
  have hunwritten : ∀ config, acts (fate (.writeConfig .writeRestoreConfig config)) = false →
      Good cmdlets agrees initial machine := by
    intro config hacts
    refine hsafe.resolve_right fun hrestores => ?_
    rw [hrestores.written config] at hacts
    cases hacts
  rw [restoreSecurityConfig, hrequired, hbefore]
  apply Leaves.bind
  apply leaves_step
  · intro _
    apply Leaves.observe
    cases hconfig : machine.config with
    | none =>
        have hvouched : Vouched cmdlets agrees old machine.config := by
          intro found hfound
          rw [hconfig] at hfound
          cases hfound
        exact .throw (.inl (h.good hvouched))
    | some config =>
        have hwritten : Good cmdlets agrees initial
            { machine with config := some (config.restored security) } :=
          (h.setConfig _).good (vouched_restored hvouches)
        apply Leaves.bind
        apply Leaves.done
        apply leaves_perform rfl
        · exact fun _ => .inl hwritten
        · intro parts hfate
          split
          · next hparts =>
            refine .inl (hunwritten (config.restored security) ?_)
            rw [hfate, hparts]
            rfl
          · exact .inl hwritten
        · intro parts hfate
          split
          · next hparts =>
            refine .inl (hunwritten (config.restored security) ?_)
            rw [hfate, hparts]
            rfl
          · exact .inl hwritten
  · intro parts hfate
    refine .inl (hread ?_)
    rw [hfate]
    exact fun hsucceeds => by cases hsucceeds
  · intro parts hfate
    refine .inl (hread ?_)
    rw [hfate]
    exact fun hsucceeds => by cases hsucceeds

theorem leaves_restoreAfter (h : RolledBack cmdlets agrees initial old id fate config machine) :
    Leaves (stores cmdlets) fate
      (restoreSecurityConfig metadata .readRestoreConfig .writeRestoreConfig raised) machine
      (fun _ => Sound cmdlets agrees initial fate) (fun _ => Sound cmdlets agrees initial fate)
      (Sound cmdlets agrees initial fate) := by
  rcases h with ⟨hbased, hsafe⟩ | ⟨⟨stuck, hstuck⟩, hharm⟩
  · exact leaves_restoreSecurityConfig hrequired hbefore hvouches hbased (hsafe.imp_right And.left)
  · exact onlyMoves_restoreSecurityConfig.leaves_stuck hstuck hharm

end

/-! ## The journal of a caught error -/

section

variable (h : Ready cmdlets agrees initial old id fate machine)
include h

/-- What the catch block reads of its journal. -/
theorem leaves_getTransaction :
    Leaves (stores cmdlets) fate (getTransaction cmdlets id raised) machine
      (fun found after => after = machine ∧ found = machine.readState cmdlets id)
      (fun _ after => after = machine) (Sound cmdlets agrees initial fate) := by
  have hread : ∃ current, machine.written id = some current ∧
      machine.readState cmdlets id = some current := by
    rcases h.based with ⟨last, rfl, hrests⟩ | ⟨last, current, before, candidate, rfl, hlast⟩
    · obtain ⟨current, hcurrent, _⟩ :=
        hrests.settled last (List.mem_append_right old (List.mem_singleton_self last))
      have hread : machine.readState cmdlets last.id = some current := by
        rw [Machine.readState, hrests.isLast.directory]
        exact hcurrent
      exact ⟨current, machine.written_of_readState cmdlets hread, hread⟩
    · exact ⟨current, machine.written_of_readState cmdlets hlast.readState, hlast.readState⟩
  obtain ⟨current, hwritten, hread⟩ := hread
  rw [getTransaction]
  apply Leaves.bind
  apply leaves_step
  · intro _
    apply Leaves.observe
    have hthere : ((machine.directory id).bind Directory.state).isNone = false := by
      rw [Machine.written] at hwritten
      rw [hwritten]
      rfl
    rw [hthere]
    apply Leaves.bind
    apply leaves_readStateObject hread
    exact .done ⟨rfl, hread.symm⟩
  · exact fun _ _ => rfl
  · exact fun _ _ => .inl h.good

theorem leaves_abortPrepared :
    Leaves (stores cmdlets) fate
      (abortPrepared cmdlets id (machine.readState cmdlets id) raised) machine
      (fun _ after =>
        Ready cmdlets agrees initial old id fate after ∧ after.config = machine.config)
      (fun _ after =>
        Ready cmdlets agrees initial old id fate after ∧ after.config = machine.config)
      (Sound cmdlets agrees initial fate) := by
  rw [abortPrepared]
  split
  · next hprepared =>
    obtain ⟨current, hread, hstate⟩ := Option.map_eq_some_iff.mp hprepared
    have hgood := h.good
    have hready := h
    rcases h with ⟨last, rfl, hrests, _⟩ | ⟨last, found, before, candidate, rfl, h, hconfig⟩
    · have hprepared : State.prepared.isTerminal = false := rfl
      exact absurd hstate (hrests.refused hprepared current hread).2
    · obtain rfl : current = found := Option.some_inj.mp (hread.symm.trans h.readState)
      have hsafe : cmdlets.Same before machine.policy := by
        have hfits := h.policy
        rw [hstate] at hfits
        exact hfits
      have hvouched : Vouched cmdlets agrees old machine.config := by
        refine hconfig.resolve_right fun hclaimed => ?_
        rcases hclaimed.1.state with hvalid | hvalid <;> rw [hstate] at hvalid <;> cases hvalid
      let aborted := current.move .aborted []
      have haborted : Ready cmdlets agrees initial old last.id fate
          (machine.edit last.id (Directory.write aborted)) :=
        .inl ⟨last.write aborted, rfl,
          h.undone (current.continues_move .aborted []) (.inl rfl) hsafe, hvouched.mono _⟩
      apply Leaves.bind
      apply leaves_setTransactionState h.readState (.inl (by rw [hstate]; rfl))
      · exact fun _ => .done ⟨haborted, rfl⟩
      · intro parts _
        split
        · exact ⟨hready, rfl⟩
        · exact ⟨haborted, rfl⟩
      · intro parts _
        split
        · exact .inl hgood
        · exact .inl haborted.good
  · exact .done ⟨h, rfl⟩

theorem leaves_rollbackRequired :
    Leaves (stores cmdlets) fate (rollbackRequired cmdlets id raised) machine
      (fun _ => Ready cmdlets agrees initial old id fate) (fun _ _ => False)
      (Sound cmdlets agrees initial fate) := by
  apply Leaves.catching
  apply Leaves.bind
  apply (leaves_getTransaction h).mono
  · rintro found after ⟨rfl, rfl⟩
    apply Leaves.bind
    apply (leaves_abortPrepared h).mono
    · exact fun _ _ hafter => .done hafter.1
    · exact fun _ _ hafter => .done hafter.1
    · exact fun _ hsound => hsound
  · rintro _ after rfl
    exact .done h
  · exact fun _ hsound => hsound

end

/-! ## The catch blocks -/

variable [DecidableEq Form] {transaction : StateFile Hash}

section

variable (hworks : cmdlets.Works)
include hworks

/-- The try block of the rollback, with the policy of the snapshot set and read back. -/
theorem leaves_restoreBefore
    (h : Interrupted cmdlets agrees initial old last current before candidate machine)
    (hid : last.id = id) (hstate : current.state = .rollbackAttempted)
    (hconfig : Vouched cmdlets agrees old machine.config ∨
      (Claimed last current machine.config ∧ (RollsBack fate id → Restores fate id)))
    (hattempted : ∃ content, content.state = .rollbackAttempted ∧
      fate (.writeState id content) = .succeeds) :
    Leaves (stores cmdlets) fate
      ((restoreBefore cmdlets id raised).catching fun _ =>
        (giveUp cmdlets id raised).bind fun _ => .done false) machine
      (fun _ => RolledBack cmdlets agrees initial old id fate machine.config) (fun _ _ => False)
      (Sound cmdlets agrees initial fate) := by
  subst hid
  obtain ⟨form, _, hform⟩ := h.base
  have hstored := hworks.same_stored hform
  have hready : Ready cmdlets agrees initial old last.id fate machine :=
    .inr ⟨last, current, before, candidate, rfl, h, hconfig⟩
  have hfits : Fits cmdlets current.state before candidate (cmdlets.stored before) := by
    rw [hstate]
    exact .inl hstored
  have hrestored := h.setPolicy hfits
  have hrestoredReady : Ready cmdlets agrees initial old last.id fate
      { machine with policy := cmdlets.stored before } :=
    .inr ⟨last, current, before, candidate, rfl, hrestored, hconfig⟩
  apply Leaves.catching
  apply Leaves.bind
  rw [readBefore]
  apply Leaves.bind
  apply leaves_step
  · intro hread
    apply Leaves.observe
    rw [h.isLast.directory, Option.bind_some, h.beforeFile]
    apply Leaves.done
    apply Leaves.bind
    apply leaves_setPolicy hform
    · intro happlied
      apply Leaves.bind
      apply leaves_step
      · intro hverified
        apply Leaves.observe
        rw [cmdlets.compare_eq_true.mpr hstored]
        exact leaves_finishRollback hrestored hstate hstored hconfig fun content hcontent hacts =>
          ⟨hattempted, hread, ⟨before, happlied⟩, hverified, content, hcontent, hacts⟩
      · exact fun parts hfate => leaves_caught hrestoredReady (not_harmless_of_fails hfate rfl)
      · exact fun parts _ => .inl hrestoredReady.good
    · intro parts hfate
      have hharm := not_harmless_of_fails hfate rfl
      split
      · exact leaves_caught hready hharm
      · exact leaves_caught hrestoredReady hharm
    · intro parts _
      split
      · exact .inl hready.good
      · exact .inl hrestoredReady.good
  · exact fun parts hfate => leaves_caught hready (not_harmless_of_fails hfate rfl)
  · exact fun parts _ => .inl hready.good

/-- What a rollback leaves of a transaction, whatever fails. -/
theorem leaves_invokeRollback (h : Ready cmdlets agrees initial old id fate machine) :
    Leaves (stores cmdlets) fate (invokeRollback cmdlets id raised) machine
      (fun _ => RolledBack cmdlets agrees initial old id fate machine.config) (fun _ _ => False)
      (Sound cmdlets agrees initial fate) := by
  have hrefused : (∀ current, machine.readState cmdlets id = some current →
      testTransition current.state .rollbackAttempted = false ∧
        current.state ≠ .rollbackAttempted) →
      Leaves (stores cmdlets) fate (invokeRollback cmdlets id raised) machine
        (fun _ => RolledBack cmdlets agrees initial old id fate machine.config) (fun _ _ => False)
        (Sound cmdlets agrees initial fate) := by
    intro hrefused
    apply Leaves.bind
    apply Leaves.attempt
    exact leaves_setTransactionState_refused hrefused (.done (h.rolledBack _))
  have hgood := h.good
  have hleft := h.rolledBack machine.config
  rcases h with ⟨last, rfl, hrests, _⟩ | ⟨last, current, before, candidate, rfl, hlast, hconfig⟩
  · exact hrefused (hrests.refused rfl)
  · by_cases hprepared : current.state = .prepared
    · apply hrefused
      intro found hfound
      obtain rfl : current = found := Option.some_inj.mp (hlast.readState.symm.trans hfound)
      rw [hprepared]
      exact ⟨rfl, fun hstate => by cases hstate⟩
    · have hinterrupted := hlast.ongoing.resolve_left hprepared
      let attempted := current.move .rollbackAttempted []
      have hcontinues := current.continues_move .rollbackAttempted []
      have hattempted := hlast.write hcontinues (.inr rfl) hlast.same
      have hattemptedConfig := hconfig.imp_right fun hclaimed =>
        And.intro (hclaimed.1.write hcontinues (.inr rfl)) hclaimed.2
      have hready : Ready cmdlets agrees initial old last.id fate
          (machine.edit last.id (Directory.write attempted)) :=
        .inr ⟨last.write attempted, attempted, before, candidate, rfl, hattempted, hattemptedConfig⟩
      apply Leaves.bind
      apply Leaves.attempt
      apply leaves_setTransactionState hlast.readState (testTransition_rollback hinterrupted)
      · intro hfate
        exact leaves_restoreBefore hworks hattempted rfl rfl hattemptedConfig
          ⟨attempted, rfl, hfate⟩
      · intro parts _
        apply Leaves.done
        split
        · exact hleft
        · exact hready.rolledBack _
      · intro parts _
        split
        · exact .inl hgood
        · exact .inl hready.good

section

variable (hid : transaction.transactionId = id)
  (hrequired : transaction.configurationMetadata.requireConfigCommit = some true)
  (hbefore : transaction.configurationMetadata.before = some security)
  (hvouches : Vouches cmdlets agrees old security)
  (h : Ready cmdlets agrees initial old id fate machine)
include hid hrequired hbefore hvouches h

theorem leaves_recoverFailure :
    Leaves (stores cmdlets) fate (recoverFailure cmdlets transaction raised) machine
      (fun _ => Sound cmdlets agrees initial fate) (fun _ => Sound cmdlets agrees initial fate)
      (Sound cmdlets agrees initial fate) := by
  rw [recoverFailure]
  split
  · exact .done (.inl h.good)
  · rw [hid]
    apply (leaves_rollbackRequired h).thenRun
    intro required after hafter
    rw [rollBackTransaction]
    split
    · rw [hid]
      apply (leaves_invokeRollback hworks hafter).thenRun
      intro _ reached hrolledBack
      apply Leaves.bind
      apply Leaves.attempt
      apply (leaves_restoreAfter hrequired hbefore hvouches hrolledBack).mono
      · exact fun _ _ hsound => .done hsound
      · exact fun _ _ hsound => .done hsound
      · exact fun _ hsound => hsound
    · exact .done (.inl hafter.good)

theorem leaves_refuse :
    Leaves (stores cmdlets) fate (refuse cmdlets transaction) machine
      (fun _ => Sound cmdlets agrees initial fate)
      (fun raised after => raised = .diagnosed ∧ Sound cmdlets agrees initial fate after)
      (Sound cmdlets agrees initial fate) := by
  rw [refuse]
  apply Leaves.bind
  apply leaves_step
  · intro _
    rw [hid]
    apply Leaves.bind
    apply Leaves.attempt
    apply (leaves_invokeRollback hworks h).thenRun
    intro _ reached hrolledBack
    have hlast : ∀ after, Sound cmdlets agrees initial fate after →
        Leaves (stores cmdlets) fate (do
          Program.perform (.step .writeFinalDiagnostic) Raised.diagnosed
          return false) after (fun _ => Sound cmdlets agrees initial fate)
          (fun raised left => raised = .diagnosed ∧ Sound cmdlets agrees initial fate left)
          (Sound cmdlets agrees initial fate) := by
      intro after hsound
      apply Leaves.bind
      apply leaves_step
      · exact fun _ => .done hsound
      · exact fun _ _ => ⟨rfl, hsound⟩
      · exact fun _ _ => hsound
    apply (leaves_restoreAfter hrequired hbefore hvouches hrolledBack).mono
    · exact fun _ after hsound => hlast after hsound
    · exact fun _ after hsound => hlast after hsound
    · exact fun _ hsound => hsound
  · exact fun _ _ => ⟨rfl, .inl h.good⟩
  · exact fun _ _ => .inl h.good

end

/-- The catch block of a run that removes the rules, whose transaction the configuration
does not know. -/
theorem leaves_recoverRemoval (hundoable : Undoable cmdlets agrees initial old id fate machine) :
    Leaves (stores cmdlets) fate (recoverRemoval cmdlets id raised) machine
      (fun _ => Sound cmdlets agrees initial fate) (fun _ => Sound cmdlets agrees initial fate)
      (Sound cmdlets agrees initial fate) := by
  obtain ⟨h, hvouched⟩ := hundoable
  apply Leaves.catching
  apply Leaves.bind
  apply (leaves_getTransaction h).mono
  · rintro found after ⟨rfl, rfl⟩
    apply Leaves.bind
    rw [settleRemoval]
    split
    · apply (leaves_invokeRollback hworks h).thenRun
      intro _ reached hrolledBack
      apply Leaves.done
      apply Leaves.done
      rcases hrolledBack with ⟨_, hgood | ⟨_, hnot⟩⟩ | hlost
      · exact .inl hgood
      · exact absurd hvouched hnot
      · exact .inr hlost
    · apply (leaves_abortPrepared h).mono
      · exact fun _ _ hafter => .done (.inl hafter.1.good)
      · exact fun _ _ hafter => .done (.inl hafter.1.good)
      · exact fun _ hsound => hsound
  · rintro _ after rfl
    exact .done (.inl h.good)
  · exact fun _ hsound => hsound

end

end Journals

end OpenPath.Windows.AppControl
