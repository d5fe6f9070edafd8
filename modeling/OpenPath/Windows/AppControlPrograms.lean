/-
# What each program does to the journals

Every function of the module moves journals on, and besides that only works on the
directory that its run creates.
-/

import OpenPath.Windows.AppControlSteps

namespace OpenPath.Windows.AppControl

open Foundation
open Program (Wp Keeps)

variable {Xml Hash Form : Type}

/-! ## The programs -/

section Programs

variable [DecidableEq Hash] (cmdlets : Cmdlets Xml Hash Form) {Result Value : Type}

/-- All that a program does to the journals is to move them on. -/
abbrev OnlyMoves (program : JournalProgram Xml Hash Result) : Prop :=
  Program.Keeps (stores cmdlets) (Moves cmdlets) (fun _ => True) program

/-- A program may also work on the directory that its run creates. -/
abbrev OnlySteps (own : Guid) (program : JournalProgram Xml Hash Result) : Prop :=
  Program.Keeps (stores cmdlets) (Steps cmdlets own) (fun _ => True) program

variable {cmdlets} {id own : Guid} {state : State} {reasonCodes : List ReasonCode}
  {raised : Raised} {machine : Machine Xml Hash}

theorem OnlyMoves.steps {program : JournalProgram Xml Hash Result}
    (h : OnlyMoves cmdlets program) : OnlySteps cmdlets own program :=
  fun machine _ => (h machine trivial).weaken fun _ _ => .inl

/-- A call that leaves the journals alone. -/
theorem onlyMoves_perform {request : Call Xml Hash}
    (h : ∀ machine reached, perform cmdlets request machine = some reached →
      reached.journals = machine.journals) :
    OnlyMoves cmdlets (Program.perform request raised) :=
  fun machine _ => wp_call .refl
    (fun reached hreached => ⟨.same (h machine reached hreached), trivial, trivial⟩) trivial

variable {point : Point}

theorem onlyMoves_step : OnlyMoves cmdlets (Program.perform (.step point) raised) := by
  apply onlyMoves_perform
  intro machine reached hreached
  cases hreached
  rfl

theorem onlyMoves_setPolicy {policy : Xml} :
    OnlyMoves cmdlets (Program.perform (.setPolicy point policy) raised) := by
  apply onlyMoves_perform
  intro machine reached hreached
  obtain ⟨_, _, rfl⟩ := Option.map_eq_some_iff.mp hreached
  rfl

theorem onlyMoves_writeConfig {config : Config} :
    OnlyMoves cmdlets (Program.perform (.writeConfig point config) raised) := by
  apply onlyMoves_perform
  intro machine reached hreached
  cases hreached
  rfl

theorem onlyMoves_check {condition : Bool} :
    OnlyMoves cmdlets (check condition raised : JournalProgram Xml Hash Unit) := by
  rw [check]
  split
  · exact .done ()
  · exact .throw raised

theorem onlyMoves_ofOption {value : Option Value} :
    OnlyMoves cmdlets (ofOption raised value : JournalProgram Xml Hash Value) := by
  cases value with
  | none => exact .throw raised
  | some value => exact .done value

theorem onlyMoves_observe {read : Machine Xml Hash → Value} :
    OnlyMoves cmdlets (Program.observe read : JournalProgram Xml Hash Value) :=
  .look fun machine _ => .done (read machine)

variable {post : Except Raised (StateFile Hash) → Machine Xml Hash → Prop}

theorem wp_readStateObject {permitted : Machine Xml Hash → Machine Xml Hash → Prop}
    (read : ∀ current, machine.readState cmdlets id = some current → post (.ok current) machine)
    (unread : post (.error raised) machine) :
    (readStateObject cmdlets id raised).Wp (stores cmdlets) permitted machine post := by
  apply Wp.look
  cases hread : machine.readState cmdlets id with
  | none => exact unread
  | some current => exact read current hread

/-- A transition fails without an effect, or it moves the journal as allowed and then
still may fail. -/
theorem wp_setTransactionState (unchanged : post (.error raised) machine)
    (moved : ∀ current, machine.readState cmdlets id = some current →
      (testTransition current.state state = true ∨ state = current.state) →
      post (.ok (current.move state reasonCodes))
          (machine.edit id (Directory.write (current.move state reasonCodes))) ∧
        post (.error raised)
          (machine.edit id (Directory.write (current.move state reasonCodes)))) :
    (setTransactionState cmdlets id state reasonCodes raised).Wp (stores cmdlets) (Moves cmdlets)
      machine post := by
  apply Wp.bind
  apply wp_readStateObject
  · intro current hread
    apply Wp.bind
    apply wp_check
    · intro hallowed
      have hor : testTransition current.state state = true ∨ state = current.state := by
        rw [Bool.or_eq_true, decide_eq_true_eq] at hallowed
        exact hallowed.imp_right Eq.symm
      obtain ⟨hdone, hfailed⟩ := moved current hread hor
      apply Wp.bind
      apply wp_call .refl
      · intro reached hreached
        obtain rfl := Option.some_inj.mp hreached
        exact ⟨.write hread hor rfl, hdone, hfailed⟩
      · exact unchanged
    · exact unchanged
  · exact unchanged

theorem onlyMoves_setTransactionState :
    OnlyMoves cmdlets (setTransactionState cmdlets id state reasonCodes raised) :=
  fun _ _ => wp_setTransactionState trivial fun _ _ _ => ⟨trivial, trivial⟩

theorem onlyMoves_giveUp : OnlyMoves cmdlets (giveUp cmdlets id raised) :=
  .bind (.attempt onlyMoves_setTransactionState) fun _ => .done ()

theorem ne_prepared_of_rolledBack {source : State}
    (h : testTransition source .rolledBack = true ∨ State.rolledBack = source) :
    source ≠ .prepared := by
  rintro rfl
  rcases h with h | h <;> cases h

theorem onlyMoves_finishRollback {same : Bool} :
    OnlyMoves cmdlets (finishRollback cmdlets id same raised) := by
  rw [finishRollback]
  split
  · intro machine _
    apply Wp.bind
    apply wp_setTransactionState trivial
    intro current hread hallowed
    refine ⟨?_, trivial⟩
    obtain ⟨found, hfound, hfoundRead⟩ := Option.bind_eq_some_iff.mp hread
    have hrecorded :=
      found.recorded_of_readState cmdlets hfoundRead (ne_prepared_of_rolledBack hallowed)
    have hmoved := machine.readState_write cmdlets hread
      (current.continues_move .rolledBack []) hrecorded
    apply Wp.bind
    apply wp_call .refl
    · intro reached hreached
      obtain rfl := Option.some_inj.mp hreached
      exact ⟨.write hmoved (.inr rfl) rfl, trivial, trivial⟩
    · trivial
  · exact .bind onlyMoves_setTransactionState fun _ => .done false

theorem onlyMoves_readBefore :
    OnlyMoves cmdlets (readBefore id raised : JournalProgram Xml Hash Xml) :=
  .bind onlyMoves_step fun _ => .bind onlyMoves_observe fun _ => onlyMoves_ofOption

variable {metadata : ConfigurationMetadata}

theorem onlyMoves_restoreSecurityConfig {reading writing : Point} :
    OnlyMoves cmdlets
      (restoreSecurityConfig metadata reading writing raised : JournalProgram Xml Hash Unit) := by
  unfold restoreSecurityConfig
  split
  · exact .bind onlyMoves_step fun _ =>
      .bind onlyMoves_observe fun _ =>
        .bind onlyMoves_ofOption fun _ => onlyMoves_writeConfig
  · exact .done ()

theorem onlyMoves_readSnapshots :
    OnlyMoves cmdlets (readSnapshots id : JournalProgram Xml Hash (Xml × Xml)) :=
  .bind onlyMoves_step fun _ =>
    .bind onlyMoves_observe fun _ =>
      .bind onlyMoves_ofOption fun _ => .bind onlyMoves_ofOption fun _ => .done _

variable {restores : Bool} {item : StateFile Hash}

theorem onlyMoves_restoreConfiguration :
    OnlyMoves cmdlets (restoreConfiguration restores item : JournalProgram Xml Hash Unit) := by
  rw [restoreConfiguration]
  split
  · exact onlyMoves_restoreSecurityConfig
  · exact .done ()

theorem onlyMoves_getTransaction : OnlyMoves cmdlets (getTransaction cmdlets id raised) := by
  apply Keeps.bind onlyMoves_step
  intro _
  apply Keeps.bind onlyMoves_observe
  intro found
  split
  · exact .done none
  · apply Keeps.bind
    · exact fun machine _ => wp_readStateObject (fun _ _ => trivial) trivial
    · exact fun _ => .done _

theorem onlyMoves_abortPrepared {current : Option (StateFile Hash)} :
    OnlyMoves cmdlets (abortPrepared cmdlets id current raised) := by
  rw [abortPrepared]
  split
  · exact .bind onlyMoves_setTransactionState fun _ => .done ()
  · exact .done ()

theorem onlyMoves_confirmCommit : OnlyMoves cmdlets (confirmCommit cmdlets id) := by
  intro machine _
  apply Wp.bind
  apply wp_readStateObject
  · intro current hread
    apply Wp.bind
    apply wp_check
    · intro _
      apply wp_call .refl
      · intro reached hreached
        obtain rfl := Option.some_inj.mp hreached
        exact ⟨.write hread (.inr rfl) rfl, trivial, trivial⟩
      · trivial
    · trivial
  · trivial

variable {run : SetRun Xml}

theorem onlyMoves_setCommittedConfig : OnlyMoves cmdlets (setCommittedConfig run) :=
  .bind onlyMoves_step fun _ =>
    .bind onlyMoves_observe fun _ =>
      .bind onlyMoves_ofOption fun _ =>
        .bind onlyMoves_writeConfig fun _ =>
          .bind onlyMoves_step fun _ => .bind onlyMoves_observe fun _ => onlyMoves_check

theorem onlyMoves_rollbackRequired : OnlyMoves cmdlets (rollbackRequired cmdlets id raised) :=
  .catching
    (.bind onlyMoves_getTransaction fun _ => .bind onlyMoves_abortPrepared fun _ => .done _)
    fun _ => .done true

theorem onlyMoves_readIntent :
    OnlyMoves cmdlets (readIntent run : JournalProgram Xml Hash Config) :=
  .bind onlyMoves_step fun _ =>
    .bind onlyMoves_observe fun _ =>
      .bind onlyMoves_ofOption fun _ => .bind onlyMoves_check fun _ => .done _

variable {effective : Xml}

theorem onlyMoves_readEffectivePolicy {current : Xml} :
    OnlyMoves cmdlets (readEffectivePolicy effective current : JournalProgram Xml Hash Xml) :=
  fun machine _ => wp_call .refl
    (fun reached hreached => by
      cases hreached
      exact ⟨.refl machine, trivial, trivial⟩) trivial

theorem onlyMoves_commit : OnlyMoves cmdlets (commit cmdlets run) :=
  .bind onlyMoves_setTransactionState fun _ =>
    .bind onlyMoves_setCommittedConfig fun _ =>
      .bind onlyMoves_confirmCommit fun _ =>
        .bind onlyMoves_setTransactionState fun _ => .bind onlyMoves_step fun _ => .done true

variable {operation : Operation}

/-- A directory that is new has no `state.json` before the transaction writes it. -/
theorem onlySteps_newTransaction {before : Xml} {machine : Machine Xml Hash}
    (hnew : machine.written id = none) :
    (newTransaction cmdlets id operation before effective metadata).Wp (stores cmdlets)
      (Steps cmdlets id) machine fun _ _ => True := by
  have hrefl : ∀ now, Steps cmdlets id now now := fun now => .inl (.refl now)
  have hfile : ∀ (name : FileName) (content : Xml) (now : Machine Xml Hash),
      now.written id = none → ∀ reached,
        perform cmdlets (.createFile { directory := id, name := name } content) now = some reached →
        Steps cmdlets id now reached ∧ reached.written id = none := by
    intro name content now hnow reached hreached
    have hid : ∀ found : Directory Xml Hash, (found.addFile name content).id = found.id := by
      intro found
      cases name <;> rfl
    have hstate : ∀ found : Directory Xml Hash,
        (found.addFile name content).state = found.state := by
      intro found
      cases name <;> rfl
    simp only [perform] at hreached
    split at hreached
    · cases hreached
    · obtain rfl := Option.some_inj.mp hreached
      refine ⟨.inr (.change hid fun current hcurrent => ?_), ?_⟩
      · rw [hnow] at hcurrent
        cases hcurrent
      · rw [Machine.written, Machine.directory_edit now hid, if_pos rfl, Option.bind_map]
        rw [Machine.written] at hnow
        rw [← hnow]
        exact congrArg _ (funext hstate)
  have hcreate : ∀ reached, perform cmdlets (.createDirectory id) machine = some reached →
      Steps cmdlets id machine reached ∧ reached.written id = none := by
    intro reached hreached
    simp only [perform] at hreached
    split at hreached
    · obtain rfl := Option.some_inj.mp hreached
      exact ⟨hrefl _, hnew⟩
    · next habsent =>
      obtain rfl := Option.some_inj.mp hreached
      have hnone : machine.directory id = none := Option.not_isSome_iff_eq_none.mp habsent
      refine ⟨.inr (.create hnone), ?_⟩
      rw [Machine.directory] at hnone
      rw [Machine.written, Machine.directory, List.find?_append, hnone]
      simp [Directory.empty]
  apply Wp.bind
  apply wp_call hrefl
  · intro _ hreached
    cases hreached
    refine ⟨hrefl _, ?_, trivial⟩
    apply Wp.bind
    apply wp_call hrefl
    · intro created hcreated
      obtain ⟨hstep, hempty⟩ := hcreate created hcreated
      refine ⟨hstep, ?_, trivial⟩
      apply Wp.bind
      apply wp_call hrefl
      · intro first hfirst
        obtain ⟨hstep, hempty⟩ := hfile _ _ created hempty first hfirst
        refine ⟨hstep, ?_, trivial⟩
        apply Wp.bind
        apply wp_call hrefl
        · intro second hsecond
          obtain ⟨hstep, hempty⟩ := hfile _ _ first hempty second hsecond
          refine ⟨hstep, ?_, trivial⟩
          apply Wp.bind
          apply wp_call hrefl
          · intro written hwritten
            obtain rfl := Option.some_inj.mp hwritten
            refine ⟨.inr (.change (fun _ => rfl) fun current hcurrent => ?_), trivial, trivial⟩
            rw [hempty] at hcurrent
            cases hcurrent
          · trivial
        · trivial
      · trivial
    · trivial
  · trivial

variable {candidate : Xml}

theorem onlySteps_writeCandidate : OnlySteps cmdlets id (writeCandidate cmdlets id candidate) := by
  have hrefl : ∀ now, Steps cmdlets id now now := fun now => .inl (.refl now)
  intro machine _
  apply Wp.bind
  apply wp_readStateObject
  · intro current hread
    have hwritten := machine.written_of_readState cmdlets hread
    apply Wp.bind
    apply wp_check
    · intro hprepared
      have hunfinished : ∀ found, some current = some found → found.state.isTerminal = false := by
        intro found hfound
        obtain rfl := Option.some_inj.mp hfound
        rw [decide_eq_true_eq] at hprepared
        rw [hprepared]
        rfl
      apply Wp.bind
      apply wp_call hrefl
      · intro reached hreached
        simp only [perform] at hreached
        split at hreached
        · cases hreached
        · obtain rfl := Option.some_inj.mp hreached
          have hid : ∀ found : Directory Xml Hash,
              (found.addFile .candidate candidate).id = found.id := fun _ => rfl
          have hstill : (machine.edit id fun found =>
              found.addFile .candidate candidate).written id = some current := by
            rw [Machine.written, Machine.directory_edit machine hid, if_pos rfl]
            obtain ⟨found, hfound, hstate⟩ := Option.bind_eq_some_iff.mp hwritten
            rw [hfound]
            exact hstate
          refine ⟨.inr (.change hid ?_), ?_, trivial⟩
          · rw [hwritten]
            exact hunfinished
          · apply wp_call hrefl
            · intro later hlater
              obtain rfl := Option.some_inj.mp hlater
              refine ⟨.inr (.change (fun _ => rfl) ?_), trivial, trivial⟩
              rw [hstill]
              exact hunfinished
            · trivial
      · trivial
    · trivial
  · trivial

theorem onlySteps_applyCandidate : OnlySteps cmdlets id (applyCandidate cmdlets id candidate) :=
  .bind onlySteps_writeCandidate fun _ =>
    .bind onlyMoves_setTransactionState.steps fun _ =>
      .bind onlyMoves_step.steps fun _ =>
        .bind onlyMoves_setPolicy.steps fun _ =>
          .bind onlyMoves_setTransactionState.steps fun _ => .done ()

variable {before after : Machine Xml Hash}

theorem Moves.directory_eq_none (h : Moves cmdlets before after)
    (hnew : before.directory id = none) : after.directory id = none := by
  cases h with
  | same hsame =>
      rw [Machine.directory] at hnew ⊢
      rw [hsame]
      exact hnew
  | write read allowed recorded =>
      rw [Machine.directory_write]
      split
      · next hid =>
        rw [← hid, hnew]
        rfl
      · exact hnew

theorem Moves.written_eq_none (h : Moves cmdlets before after) (hnew : before.written own = none) :
    after.written own = none := by
  cases h with
  | same hsame =>
      rw [Machine.written, Machine.directory] at hnew ⊢
      rw [hsame]
      exact hnew
  | @write moved current content read allowed recorded =>
      by_cases hown : own = moved
      · subst hown
        rw [before.written_of_readState cmdlets read] at hnew
        cases hnew
      · rw [Machine.written, Machine.directory_write, if_neg hown]
        exact hnew

/-- What comes before the transaction leaves its directory uncreated. -/
theorem OnlyMoves.then_steps {first : JournalProgram Xml Hash Value}
    {rest : Value → JournalProgram Xml Hash Result} (h : OnlyMoves cmdlets first)
    (hnew : machine.written own = none)
    (hrest : ∀ value after, after.written own = none →
      (rest value).Wp (stores cmdlets) (Steps cmdlets own) after fun _ _ => True) :
    (first >>= rest).Wp (stores cmdlets) (Steps cmdlets own) machine fun _ _ => True := by
  have hkept := (h machine trivial).invariant
    (fun _ _ hbefore moves => moves.written_eq_none hbefore) hnew
  apply Wp.bind
  apply (hkept.weaken fun _ _ => Or.inl).mono
  rintro (error | value) after hafter
  · trivial
  · exact hrest value after hafter.2

/-- A transaction and its catch block, in the directory that was not there. -/
theorem steps_transaction {before : Xml} {body : StateFile Hash → JournalProgram Xml Hash Bool}
    {handler : StateFile Hash → Raised → JournalProgram Xml Hash Bool}
    (hbody : ∀ transaction, OnlySteps cmdlets own (body transaction))
    (hhandler : ∀ transaction raised, OnlyMoves cmdlets (handler transaction raised))
    (hnew : machine.written own = none) :
    (newTransaction cmdlets own operation before effective metadata >>= fun transaction =>
      (body transaction).catching (handler transaction)).Wp (stores cmdlets) (Steps cmdlets own)
        machine fun _ _ => True := by
  apply Wp.bind
  apply (onlySteps_newTransaction hnew).mono
  rintro (error | transaction) created _
  · trivial
  · exact Keeps.catching (hbody transaction)
      (fun raised => (hhandler transaction raised).steps) created trivial

variable [DecidableEq Form]

theorem onlyMoves_restoreBefore : OnlyMoves cmdlets (restoreBefore cmdlets id raised) :=
  .bind onlyMoves_readBefore fun _ =>
    .bind onlyMoves_setPolicy fun _ =>
      .bind onlyMoves_step fun _ => .bind onlyMoves_observe fun _ => onlyMoves_finishRollback

theorem onlyMoves_invokeRollback : OnlyMoves cmdlets (invokeRollback cmdlets id raised) := by
  apply Keeps.bind (.attempt onlyMoves_setTransactionState)
  intro attempted
  cases attempted with
  | error error => exact .done false
  | ok moved =>
      exact .catching onlyMoves_restoreBefore fun _ => .bind onlyMoves_giveUp fun _ => .done false

/-! ### Recovery -/

theorem onlyMoves_resolveItem : OnlyMoves cmdlets (resolveItem cmdlets restores item) :=
  .bind onlyMoves_step fun _ =>
    .bind onlyMoves_observe fun _ =>
      .bind onlyMoves_readSnapshots fun _ =>
        .bind onlyMoves_check fun _ =>
          .bind onlyMoves_setTransactionState fun _ =>
            .bind onlyMoves_setPolicy fun _ =>
              .bind onlyMoves_step fun _ =>
                .bind onlyMoves_observe fun _ =>
                  .bind onlyMoves_check fun _ =>
                    .bind onlyMoves_restoreConfiguration fun _ =>
                      .bind onlyMoves_setTransactionState fun _ => .done ()

theorem onlyMoves_recoverItem {item : Item Hash} :
    OnlyMoves cmdlets (recoverItem cmdlets restores item) := by
  cases item with
  | recoveryRequired id reasonCode => exact .done _
  | journal item =>
      rw [recoverItem]
      split
      · exact .bind (.attempt onlyMoves_setTransactionState) fun _ => .done _
      · split
        · exact .catching (.bind onlyMoves_resolveItem fun _ => .done none) fun _ =>
            .bind onlyMoves_giveUp fun _ => .done _
        · exact .done _

theorem onlyMoves_recoverItems {items : List (Item Hash)} :
    OnlyMoves cmdlets (recoverItems cmdlets restores items) := by
  induction items with
  | nil => exact .done []
  | cons item items ih => exact .bind onlyMoves_recoverItem fun _ => .bind ih fun _ => .done _

theorem onlyMoves_recovery : OnlyMoves cmdlets (recovery cmdlets restores) :=
  .look fun _ _ => onlyMoves_recoverItems

/-! ### The catch blocks -/

variable {transaction : StateFile Hash}

theorem onlyMoves_rollBackTransaction {required : Bool} :
    OnlyMoves cmdlets (rollBackTransaction cmdlets transaction required raised) := by
  rw [rollBackTransaction]
  split
  · exact .bind onlyMoves_invokeRollback fun _ =>
      .bind (.attempt onlyMoves_restoreSecurityConfig) fun _ => .done false
  · exact .done false

theorem onlyMoves_recoverFailure :
    OnlyMoves cmdlets (recoverFailure cmdlets transaction raised) := by
  rw [recoverFailure]
  split
  · exact .done false
  · exact .bind onlyMoves_rollbackRequired fun _ => onlyMoves_rollBackTransaction

theorem onlyMoves_recoverRemoval : OnlyMoves cmdlets (recoverRemoval cmdlets id raised) := by
  apply Keeps.catching
  · apply Keeps.bind onlyMoves_getTransaction
    intro current
    apply Keeps.bind
    · rw [settleRemoval]
      split
      · exact .bind onlyMoves_invokeRollback fun _ => .done ()
      · exact onlyMoves_abortPrepared
    · exact fun _ => .done false
  · exact fun _ => .done false

/-! ### The transactions -/

theorem onlyMoves_refuse : OnlyMoves cmdlets (refuse cmdlets transaction) :=
  .bind onlyMoves_step fun _ =>
    .bind (.attempt (.bind onlyMoves_invokeRollback fun _ => onlyMoves_restoreSecurityConfig))
      fun _ => .bind onlyMoves_step fun _ => .done false

theorem onlySteps_applyTransaction :
    OnlySteps cmdlets run.transactionId (applyTransaction cmdlets run transaction candidate) := by
  apply Keeps.bind onlySteps_applyCandidate
  intro _
  apply Keeps.bind onlyMoves_step.steps
  intro _
  apply Keeps.bind onlyMoves_step.steps
  intro _
  split
  · exact onlyMoves_commit.steps
  · exact onlyMoves_refuse.steps

theorem onlySteps_removeTransaction :
    OnlySteps cmdlets id (removeTransaction cmdlets id candidate) :=
  .bind onlySteps_applyCandidate fun _ =>
    .bind onlyMoves_step.steps fun _ =>
      .bind onlyMoves_observe.steps fun _ =>
        .bind onlyMoves_check.steps fun _ =>
          .bind onlyMoves_setTransactionState.steps fun _ =>
            .bind onlyMoves_setTransactionState.steps fun _ =>
              .bind onlyMoves_step.steps fun _ => .done true

/-! ### The runs -/

theorem onlyMoves_prepareSet : OnlyMoves cmdlets (prepareSet cmdlets run) :=
  .bind onlyMoves_step fun _ =>
    .bind onlyMoves_recovery fun _ =>
      .bind onlyMoves_check fun _ =>
        .bind onlyMoves_readIntent fun _ =>
          .bind onlyMoves_step fun _ =>
            .bind onlyMoves_step fun _ =>
              .bind onlyMoves_observe fun _ =>
                .bind onlyMoves_step fun _ =>
                  .bind onlyMoves_step fun _ =>
                    .bind onlyMoves_ofOption fun _ =>
                      .bind onlyMoves_readEffectivePolicy fun _ => .done _

theorem steps_setAppControl (hnew : machine.written run.transactionId = none) :
    (setAppControl cmdlets run).Wp (stores cmdlets) (Steps cmdlets run.transactionId) machine
      fun _ _ => True := by
  apply wp_caught
  apply onlyMoves_prepareSet.then_steps hnew
  intro prepared after hafter
  exact steps_transaction (fun _ => onlySteps_applyTransaction)
    (fun _ _ => onlyMoves_recoverFailure) hafter

variable {run : RemoveRun Xml}

theorem onlyMoves_prepareRemove : OnlyMoves cmdlets (prepareRemove cmdlets run) :=
  .bind onlyMoves_step fun _ =>
    .bind onlyMoves_recovery fun _ =>
      .bind onlyMoves_check fun _ =>
        .bind onlyMoves_step fun _ =>
          .bind onlyMoves_observe fun _ => .bind onlyMoves_readEffectivePolicy fun _ => .done _

theorem steps_removeAppControl (hnew : machine.written run.transactionId = none) :
    (removeAppControl cmdlets run).Wp (stores cmdlets) (Steps cmdlets run.transactionId) machine
      fun _ _ => True := by
  apply wp_caught
  apply onlyMoves_prepareRemove.then_steps hnew
  intro prepared after hafter
  exact steps_transaction (fun _ => onlySteps_removeTransaction)
    (fun _ _ => onlyMoves_recoverRemoval) hafter

end Programs

end OpenPath.Windows.AppControl
