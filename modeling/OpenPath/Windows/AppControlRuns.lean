/-
# Runs that set, remove or recover the policy

A history is a list of runs, each with the fates of its calls. Whatever fails, and
wherever a process dies, the machine is left good, or with a journal that is reported for
ever. So where nothing is pending, everything is at rest.

For the configuration this takes two things more: that a rollback after a failed commit
restores it, and that no journal which it records is rolled back by a run that does not
restore it.
-/

import OpenPath.Windows.AppControlCommit

namespace OpenPath.Windows.AppControl

open Foundation Program

variable {Xml Hash Form : Type}

/-! ## Histories -/

inductive Run (Xml : Type)
  | set (run : SetRun Xml)
  | remove (run : RemoveRun Xml)
  /-- `Invoke-OpenPathAppControlTransactionRecovery`, with `RestoreConfiguration` or without. -/
  | recover (restores : Bool)

/-- A run, with what becomes of its calls. -/
structure Attempt (Xml Hash : Type) where
  run : Run Xml
  fate : Call Xml Hash → Fate Unit

/-- The transaction of a run. -/
def Attempt.transactionId (attempt : Attempt Xml Hash) : Option Guid :=
  match attempt.run with
  | .set run => some run.transactionId
  | .remove run => some run.transactionId
  | .recover _ => none

/-- The GUIDs of the transactions are new ones. -/
def Fresh (history : List (Attempt Xml Hash)) : Prop :=
  (history.filterMap Attempt.transactionId).Nodup

instance (history : List (Attempt Xml Hash)) : Decidable (Fresh history) :=
  inferInstanceAs (Decidable (history.filterMap Attempt.transactionId).Nodup)

section Histories

variable [DecidableEq Hash] [DecidableEq Form] (cmdlets : Cmdlets Xml Hash Form)

def Attempt.leave (attempt : Attempt Xml Hash) (machine : Machine Xml Hash) : Machine Xml Hash :=
  match attempt.run with
  | .set run => ((setAppControl cmdlets run).execute (stores cmdlets) attempt.fate machine).1
  | .remove run => ((removeAppControl cmdlets run).execute (stores cmdlets) attempt.fate machine).1
  | .recover restores =>
      ((recovery cmdlets restores).execute (stores cmdlets) attempt.fate machine).1

/-- The machine after a history. -/
def leave (machine : Machine Xml Hash) (history : List (Attempt Xml Hash)) : Machine Xml Hash :=
  history.foldl (fun before attempt => attempt.leave cmdlets before) machine

/-- A run does not leave the configuration behind: it restores it after a failed commit,
and it does not roll back a journal that the configuration records without restoring it. -/
def Attempt.IsCareful (attempt : Attempt Xml Hash) (machine : Machine Xml Hash) : Prop :=
  match attempt.run with
  | .set run => UndoesCommit attempt.fate run.transactionId
  | .remove _ => Unclaimed cmdlets machine
  | .recover restores => restores = true ∨ Unclaimed cmdlets machine

def IsCareful : Machine Xml Hash → List (Attempt Xml Hash) → Prop
  | _, [] => True
  | machine, attempt :: history =>
      attempt.IsCareful cmdlets machine ∧ IsCareful (attempt.leave cmdlets machine) history

end Histories

/-! ## One run -/

section Before

variable {cmdlets : Cmdlets Xml Hash Form} {fate : Call Xml Hash → Fate Unit}
  {machine : Machine Xml Hash}

theorem leaves_readEffectivePolicy {effective current : Xml}
    {returns : Xml → Machine Xml Hash → Prop} {throws : Raised → Machine Xml Hash → Prop}
    {dies : Machine Xml Hash → Prop} (h : ∀ read, returns read machine) (hdies : dies machine) :
    Leaves (stores cmdlets) fate (readEffectivePolicy effective current) machine
      returns throws dies := by
  have hparts : ∀ parts, advanced (stores cmdlets) (.step .readEffectivePolicy) parts machine =
      machine := by
    intro parts
    rw [advanced_stores]
    exact ite_self machine
  apply Leaves.call
  · intro after _ hafter
    obtain rfl := Option.some_inj.mp hafter
    exact .done (h effective)
  · intro _ hnone
    cases hnone
  · intro parts _
    rw [hparts]
    exact .done (h current)
  · intro parts _
    rw [hparts]
    exact hdies

variable [DecidableEq Hash]

/-- What only moves journals on creates no directory. -/
theorem OnlyMoves.leaves_new {Result : Type} {program : JournalProgram Xml Hash Result} {id : Guid}
    (h : OnlyMoves cmdlets program) (hnew : machine.directory id = none) :
    Leaves (stores cmdlets) fate program machine
      (fun _ after => after.directory id = none) (fun _ after => after.directory id = none)
      fun after => after.directory id = none := by
  have hkept := (h machine trivial).execute
    (fun _ _ hbefore moves => moves.directory_eq_none hbefore) hnew fate
  exact Leaves.of_forall hkept

end Before

section Run

variable [DecidableEq Hash] [DecidableEq Form] {cmdlets : Cmdlets Xml Hash Form} {agrees : Prop}
  {initial : Xml} {fate : Call Xml Hash → Fate Unit} {machine : Machine Xml Hash}
  {attempt : Attempt Xml Hash}

section

variable (hworks : cmdlets.Works) (hgood : Good cmdlets agrees initial machine)
include hworks hgood

/-- What comes before the transaction of a run that sets the policy leaves all at rest. -/
theorem leaves_prepareSet {run : SetRun Xml} :
    Leaves (stores cmdlets) fate (prepareSet cmdlets run) machine
      (fun prepared after => Resolved cmdlets agrees initial after ∧
        after.config = some prepared.1 ∧ after.policy = prepared.2.1)
      (fun _ => Sound cmdlets agrees initial fate) (Sound cmdlets agrees initial fate) := by
  rw [prepareSet]
  apply Leaves.bind
  apply leaves_step
  · intro _
    apply (leaves_recovery hworks hgood (.inl rfl)).thenRun
    rintro unresolved after ⟨hsound, hresolved, _⟩
    apply Leaves.bind
    apply leaves_check
    · intro hempty
      have h := hresolved (List.isEmpty_iff.mp hempty)
      apply Leaves.bind
      rw [readIntent]
      apply Leaves.bind
      apply leaves_step
      · intro _
        apply Leaves.observe
        cases hconfig : after.config with
        | none => exact .throw h.sound
        | some config =>
            apply Leaves.bind
            apply Leaves.done
            apply Leaves.bind
            apply leaves_check
            · intro _
              apply Leaves.done
              apply Leaves.bind
              apply leaves_step
              · intro _
                apply Leaves.bind
                apply leaves_step
                · intro _
                  apply Leaves.observe
                  apply Leaves.bind
                  apply leaves_step
                  · intro _
                    apply Leaves.bind
                    apply leaves_step
                    · intro _
                      cases hgenerate : run.generate after.policy with
                      | none => exact .throw h.sound
                      | some candidate =>
                          apply Leaves.bind
                          apply Leaves.done
                          apply Leaves.bind
                          apply leaves_readEffectivePolicy
                          · exact fun _ => .done ⟨h, hconfig, rfl⟩
                          · exact h.sound
                    · exact fun _ _ => h.sound
                    · exact fun _ _ => h.sound
                  · exact fun _ _ => h.sound
                  · exact fun _ _ => h.sound
                · exact fun _ _ => h.sound
                · exact fun _ _ => h.sound
              · exact fun _ _ => h.sound
              · exact fun _ _ => h.sound
            · exact fun _ => h.sound
      · exact fun _ _ => h.sound
      · exact fun _ _ => h.sound
    · exact fun _ => hsound
  · exact fun _ _ => .inl hgood
  · exact fun _ _ => .inl hgood

/-- What comes before the transaction of a run that removes the rules leaves all at rest. -/
theorem leaves_prepareRemove {run : RemoveRun Xml}
    (hunclaimed : agrees → Unclaimed cmdlets machine) :
    Leaves (stores cmdlets) fate (prepareRemove cmdlets run) machine
      (fun prepared after => Resolved cmdlets agrees initial after ∧ after.policy = prepared.1)
      (fun _ => Sound cmdlets agrees initial fate) (Sound cmdlets agrees initial fate) := by
  rw [prepareRemove]
  apply Leaves.bind
  apply leaves_step
  · intro _
    apply (leaves_recovery hworks hgood (.inr hunclaimed)).thenRun
    rintro unresolved after ⟨hsound, hresolved, _⟩
    apply Leaves.bind
    apply leaves_check
    · intro hempty
      have h := hresolved (List.isEmpty_iff.mp hempty)
      apply Leaves.bind
      apply leaves_step
      · intro _
        apply Leaves.observe
        apply Leaves.bind
        apply leaves_readEffectivePolicy
        · exact fun _ => .done ⟨h, rfl⟩
        · exact h.sound
      · exact fun _ _ => h.sound
      · exact fun _ _ => h.sound
    · exact fun _ => hsound
  · exact fun _ _ => .inl hgood
  · exact fun _ _ => .inl hgood

theorem leaves_setAppControl {run : SetRun Xml}
    (hnew : machine.directory run.transactionId = none)
    (hundoes : agrees → UndoesCommit fate run.transactionId) :
    Leaves (stores cmdlets) fate (setAppControl cmdlets run) machine
      (fun _ => Sound cmdlets agrees initial fate) (fun _ => Sound cmdlets agrees initial fate)
      (Sound cmdlets agrees initial fate) := by
  apply Leaves.catching
  apply Leaves.bind
  apply ((leaves_prepareSet hworks hgood).and (onlyMoves_prepareSet.leaves_new hnew)).mono
  · rintro prepared after ⟨⟨h, hconfig, hpolicy⟩, hnone⟩
    apply Leaves.bind
    apply (leaves_newTransaction h hnone).mono
    · rintro transaction begun ⟨rfl, rfl⟩
      have hvouches := h.2 prepared.1 hconfig
      apply Leaves.catching
      apply leaves_applyTransaction hworks h hnone hconfig hpolicy hundoes
      · intro raised reached hready
        apply (leaves_recoverFailure hworks rfl rfl rfl hvouches hready).mono
        · exact fun _ _ hsound => hsound
        · exact fun _ _ hsound => .done hsound
        · exact fun _ hsound => hsound
      · intro raised reached hstuck hharm
        apply (onlyMoves_recoverFailure.leaves_stuck hstuck hharm).mono
        · exact fun _ _ hsound => hsound
        · exact fun _ _ hsound => .done hsound
        · exact fun _ hsound => hsound
      · exact fun reached hsound => .done hsound
    · exact fun _ _ hsound => .done hsound
    · exact fun _ hsound => hsound
  · exact fun _ _ hthrown => .done hthrown.1
  · exact fun _ hdied => hdied.1

theorem leaves_removeAppControl {run : RemoveRun Xml}
    (hnew : machine.directory run.transactionId = none)
    (hunclaimed : agrees → Unclaimed cmdlets machine) :
    Leaves (stores cmdlets) fate (removeAppControl cmdlets run) machine
      (fun _ => Sound cmdlets agrees initial fate) (fun _ => Sound cmdlets agrees initial fate)
      (Sound cmdlets agrees initial fate) := by
  apply Leaves.catching
  apply Leaves.bind
  apply ((leaves_prepareRemove hworks hgood hunclaimed).and
    (onlyMoves_prepareRemove.leaves_new hnew)).mono
  · rintro prepared after ⟨⟨h, hpolicy⟩, hnone⟩
    apply Leaves.bind
    apply (leaves_newTransaction h hnone).mono
    · rintro _ begun ⟨_, rfl⟩
      apply Leaves.catching
      apply leaves_removeTransaction hworks h hnone hpolicy
      · intro raised reached hundoable
        apply (leaves_recoverRemoval hworks hundoable).mono
        · exact fun _ _ hsound => hsound
        · exact fun _ _ hsound => .done hsound
        · exact fun _ hsound => hsound
      · intro raised reached hstuck hharm
        apply (onlyMoves_recoverRemoval.leaves_stuck hstuck hharm).mono
        · exact fun _ _ hsound => hsound
        · exact fun _ _ hsound => .done hsound
        · exact fun _ hsound => hsound
    · exact fun _ _ hsound => .done hsound
    · exact fun _ hsound => hsound
  · exact fun _ _ hthrown => .done hthrown.1
  · exact fun _ hdied => hdied.1

/-- A run leaves a good machine good, or a journal stuck after a fault. -/
theorem Attempt.sound (hnew : ∀ id, attempt.transactionId = some id → machine.directory id = none)
    (hcareful : agrees → attempt.IsCareful cmdlets machine) :
    Sound cmdlets agrees initial attempt.fate (attempt.leave cmdlets machine) := by
  obtain ⟨run, fate⟩ := attempt
  cases run with
  | set run => exact (leaves_setAppControl hworks hgood (hnew _ rfl) hcareful).left
  | remove run => exact (leaves_removeAppControl hworks hgood (hnew _ rfl) hcareful).left
  | recover restores =>
      have hrestores : restores = true ∨ (agrees → Unclaimed cmdlets machine) := by
        cases restores with
        | true => exact .inl rfl
        | false => exact .inr fun hagrees => (hcareful hagrees).resolve_left Bool.false_ne_true
      apply Leaves.left
      apply (leaves_recovery hworks hgood hrestores).mono
      · exact fun _ _ hreturned => hreturned.1
      · exact fun _ _ himpossible => himpossible.elim
      · exact fun _ hsound => hsound

end

theorem Attempt.keeps {inv : Machine Xml Hash → Prop}
    (moves : ∀ before after, Moves cmdlets before after → inv before → inv after)
    (creates : ∀ own before after, attempt.transactionId = some own →
      Creates own before after → inv before → inv after)
    (hnew : ∀ id, attempt.transactionId = some id → machine.directory id = none)
    (start : inv machine) : inv (attempt.leave cmdlets machine) := by
  have hunwritten : ∀ own, machine.directory own = none → machine.written own = none := by
    intro own hown
    rw [Machine.written, hown]
    rfl
  obtain ⟨run, fate⟩ := attempt
  cases run with
  | set run =>
      have hwritten := hunwritten run.transactionId (hnew _ rfl)
      have hsteps : (setAppControl cmdlets run).Wp (stores cmdlets)
          (Steps cmdlets run.transactionId) machine fun _ _ => True := steps_setAppControl hwritten
      apply hsteps.execute _ start
      rintro before after hinv (hmoves | hcreates)
      · exact moves before after hmoves hinv
      · exact creates _ before after rfl hcreates hinv
  | remove run =>
      have hwritten := hunwritten run.transactionId (hnew _ rfl)
      have hsteps : (removeAppControl cmdlets run).Wp (stores cmdlets)
          (Steps cmdlets run.transactionId) machine fun _ _ => True := steps_removeAppControl hwritten
      apply hsteps.execute _ start
      rintro before after hinv (hmoves | hcreates)
      · exact moves before after hmoves hinv
      · exact creates _ before after rfl hcreates hinv
  | recover restores =>
      apply (onlyMoves_recovery machine trivial).execute _ start
      exact fun before after hinv hmoves => moves before after hmoves hinv

/-- A journal that is in a terminal state stays in it. -/
theorem Attempt.terminal {id : Guid} {state : State} (hterminal : state.isTerminal = true)
    (hnew : ∀ own, attempt.transactionId = some own → machine.directory own = none)
    (hin : InState id state machine) : InState id state (attempt.leave cmdlets machine) :=
  attempt.keeps (fun _ _ moves hbefore => moves.terminal hterminal hbefore)
    (fun _ _ _ _ creates hbefore => creates.terminal hterminal hbefore) hnew hin

theorem Attempt.lost
    (hnew : ∀ own, attempt.transactionId = some own → machine.directory own = none)
    (hlost : Lost cmdlets machine) : Lost cmdlets (attempt.leave cmdlets machine) := by
  obtain ⟨id, hstuck⟩ := hlost
  have hne : ∀ own, attempt.transactionId = some own → id ≠ own := by
    rintro own hown rfl
    obtain ⟨found, hfound, _⟩ := hstuck
    rw [hnew id hown] at hfound
    cases hfound
  exact ⟨id, attempt.keeps (fun _ _ moves hbefore => moves.stuck hbefore)
    (fun own _ _ hown creates hbefore => creates.stuck (hne own hown) hbefore) hnew hstuck⟩

/-- A run creates the directory of its own transaction only. -/
theorem Attempt.directory_eq_none {id : Guid} (hid : attempt.transactionId ≠ some id)
    (hnew : ∀ own, attempt.transactionId = some own → machine.directory own = none)
    (hnone : machine.directory id = none) :
    (attempt.leave cmdlets machine).directory id = none := by
  have hne : ∀ own, attempt.transactionId = some own → id ≠ own := by
    rintro own hown rfl
    exact hid hown
  exact attempt.keeps (fun _ _ moves hbefore => moves.directory_eq_none hbefore)
    (fun own _ _ hown creates hbefore => creates.directory_eq_none (hne own hown) hbefore)
    hnew hnone

end Run

/-! ## Histories of runs -/

section Histories

variable {attempt : Attempt Xml Hash} {history : List (Attempt Xml Hash)}
  {machine : Machine Xml Hash}

/-- No run of the history has begun its transaction. -/
def Unbegun (machine : Machine Xml Hash) (history : List (Attempt Xml Hash)) : Prop :=
  ∀ attempt ∈ history, ∀ id, attempt.transactionId = some id → machine.directory id = none

theorem Fresh.tail (h : Fresh (attempt :: history)) : Fresh history := by
  rw [Fresh, List.filterMap_cons] at h
  split at h
  · exact h
  · exact h.of_cons

theorem Fresh.ne (h : Fresh (attempt :: history)) :
    ∀ later ∈ history, ∀ id, later.transactionId = some id →
      attempt.transactionId ≠ some id := by
  intro later hlater id hid hsame
  rw [Fresh, List.filterMap_cons_some hsame, List.nodup_cons] at h
  exact h.1 (List.mem_filterMap.mpr ⟨later, hlater, hid⟩)

variable {later : List (Attempt Xml Hash)}

theorem Fresh.left (h : Fresh (history ++ later)) : Fresh history := by
  rw [Fresh, List.filterMap_append] at h
  exact h.of_append_left

theorem Fresh.right (h : Fresh (history ++ later)) : Fresh later := by
  rw [Fresh, List.filterMap_append] at h
  exact h.of_append_right

theorem Unbegun.left (h : Unbegun machine (history ++ later)) : Unbegun machine history :=
  fun attempt hattempt => h attempt (List.mem_append_left later hattempt)

variable [DecidableEq Hash] [DecidableEq Form] {cmdlets : Cmdlets Xml Hash Form} {agrees : Prop}
  {initial : Xml}

theorem leave_append (earlier later : List (Attempt Xml Hash)) :
    leave cmdlets machine (earlier ++ later) =
      leave cmdlets (leave cmdlets machine earlier) later :=
  List.foldl_append

theorem Unbegun.tail (h : Unbegun machine (attempt :: history))
    (hfresh : Fresh (attempt :: history)) :
    Unbegun (attempt.leave cmdlets machine) history := by
  intro later hlater id hid
  exact attempt.directory_eq_none (hfresh.ne later hlater id hid) (h attempt List.mem_cons_self)
    (h later (List.mem_cons_of_mem attempt hlater) id hid)

theorem Unbegun.after (h : Unbegun machine (history ++ later)) (hfresh : Fresh (history ++ later)) :
    Unbegun (leave cmdlets machine history) later := by
  induction history generalizing machine with
  | nil => exact h
  | cons attempt history ih => exact ih (h.tail hfresh) hfresh.tail

/-- What every run keeps, a history keeps. -/
theorem leave_keeps {inv : Machine Xml Hash → Prop}
    (hstep : ∀ (attempt : Attempt Xml Hash) (before : Machine Xml Hash),
      (∀ id, attempt.transactionId = some id → before.directory id = none) →
      inv before → inv (attempt.leave cmdlets before))
    (hfresh : Fresh history) (hnew : Unbegun machine history) (start : inv machine) :
    inv (leave cmdlets machine history) := by
  induction history generalizing machine with
  | nil => exact start
  | cons attempt history ih =>
      exact ih hfresh.tail (hnew.tail hfresh)
        (hstep attempt machine (hnew attempt List.mem_cons_self) start)

/-- A history leaves a machine good, or with a stuck journal. -/
theorem leave_good (hworks : cmdlets.Works) (hfresh : Fresh history)
    (hnew : Unbegun machine history) (hcareful : agrees → IsCareful cmdlets machine history)
    (hgood : Good cmdlets agrees initial machine ∨ Lost cmdlets machine) :
    Good cmdlets agrees initial (leave cmdlets machine history) ∨
      Lost cmdlets (leave cmdlets machine history) := by
  induction history generalizing machine with
  | nil => exact hgood
  | cons attempt history ih =>
      apply ih hfresh.tail (hnew.tail hfresh) fun hagrees => (hcareful hagrees).2
      have hown := hnew attempt List.mem_cons_self
      rcases hgood with hgood | hlost
      · have hsound := attempt.sound hworks hgood hown fun hagrees => (hcareful hagrees).1
        exact hsound.imp_right And.left
      · exact .inr (attempt.lost hown hlost)

end Histories

/-! ## The agreement -/

section Agreement

/-- A machine on which no transaction has begun. -/
structure Untouched (cmdlets : Cmdlets Xml Hash Form) (machine : Machine Xml Hash) : Prop where
  policy : (cmdlets.canonical machine.policy).isSome
  journals : machine.journals = []
  config : ∀ config, machine.config = some config → ∀ id, ¬ config.security.Records id

variable {cmdlets : Cmdlets Xml Hash Form} {agrees : Prop} {initial : Xml}
  {machine : Machine Xml Hash}

theorem Untouched.unbegun (h : Untouched cmdlets machine) (history : List (Attempt Xml Hash)) :
    Unbegun machine history := by
  intro attempt _ id _
  rw [Machine.directory, h.journals]
  rfl

variable [DecidableEq Hash]

theorem Untouched.resolved (h : Untouched cmdlets machine) :
    Resolved cmdlets agrees machine.policy machine := by
  obtain ⟨form, hform⟩ := Option.isSome_iff_exists.mp h.policy
  refine ⟨⟨rfl, ?_, ?_, ?_⟩, ?_⟩
  · rw [h.journals]
    exact .nil
  · rw [h.journals]
    exact fun found hfound => (List.not_mem_nil hfound).elim
  · rw [h.journals]
    exact ⟨form, hform, hform⟩
  · exact fun config hconfig _ id hrecords => absurd hrecords (h.config config hconfig id)

/-- Where nothing is pending, a good machine is at rest. -/
theorem resolved_of_pendingRecovery
    (h : Good cmdlets agrees initial machine ∨ Lost cmdlets machine)
    (hpending : pendingRecovery cmdlets machine = []) :
    Resolved cmdlets agrees initial machine := by
  rcases h with (hresolved | ⟨old, last, current, before, candidate, h, _⟩) | hlost
  · exact hresolved
  · rw [h.pendingRecovery] at hpending
    cases hpending
  · exact absurd hpending hlost.pendingRecovery

theorem Rests.directory {journals : List (Directory Xml Hash)}
    (h : Rests cmdlets initial journals machine) {found : Directory Xml Hash}
    (hfound : found ∈ journals) : machine.directory found.id = some found := by
  obtain ⟨first, last, rfl⟩ := List.append_of_mem hfound
  have hids := (List.pairwise_append.mp h.ids).2.2
  rw [Machine.directory, h.listed, List.find?_append, List.find?_eq_none.mpr]
  · simp
  · intro other hother
    simpa using hids other hother found List.mem_cons_self

variable [DecidableEq Form]

/-- Where nothing is pending, the policy is that of the journals, and the configuration
records committed transactions only, as long as the runs are careful with it. A journal
never leaves a terminal state. -/
theorem leave_agrees (hworks : cmdlets.Works) (hstart : Untouched cmdlets machine)
    {earlier later : List (Attempt Xml Hash)} (hfresh : Fresh (earlier ++ later)) :
    (∀ id state, state.isTerminal = true → InState id state (leave cmdlets machine earlier) →
      InState id state (leave cmdlets machine (earlier ++ later))) ∧
    (pendingRecovery cmdlets (leave cmdlets machine earlier) = [] →
      cmdlets.Same (ruling machine.policy (leave cmdlets machine earlier).journals)
          (leave cmdlets machine earlier).policy ∧
        (IsCareful cmdlets machine earlier →
          ∀ config id, (leave cmdlets machine earlier).config = some config →
            config.security.Records id →
              InState id .committed (leave cmdlets machine earlier))) := by
  have hnew := hstart.unbegun (earlier ++ later)
  constructor
  · intro id state hterminal hin
    rw [leave_append]
    exact leave_keeps (fun attempt before hown => attempt.terminal hterminal hown) hfresh.right
      (hnew.after hfresh) hin
  · intro hpending
    have hpolicy : Resolved cmdlets False machine.policy (leave cmdlets machine earlier) :=
      resolved_of_pendingRecovery
        (leave_good hworks hfresh.left hnew.left False.elim (.inl (.inl hstart.resolved))) hpending
    refine ⟨hpolicy.1.policy, fun hcareful config id hconfig hrecords => ?_⟩
    have hagrees : Resolved cmdlets True machine.policy (leave cmdlets machine earlier) :=
      resolved_of_pendingRecovery
        (leave_good hworks hfresh.left hnew.left (fun _ => hcareful) (.inl (.inl hstart.resolved)))
        hpending
    obtain ⟨found, hfound, rfl, current, hread, hstate⟩ :=
      hagrees.2 config hconfig trivial id hrecords
    rw [InState, Machine.written, hagrees.1.directory hfound, Option.bind_some,
      found.written_of_readState cmdlets hread, Option.map_some, hstate]

/-! ### Policies with two kinds of rules -/

/-- A policy is a number: its last digit is the rules of the administrator, and the rest
those of OpenPath. -/
def digits : Cmdlets Nat Nat Nat where
  sha256 := id
  canonical := some
  stored := id
  withoutManaged := fun policy => policy % 10

def digitsMachine : Machine Nat Nat where
  policy := 5
  config := some
    { appControlProfile := .value .managedBrowserCompatibility
      nonAdminAppControlMode := .value .enforced
      security :=
        { appControlCommitState := none
          activeAppControlProfile := none
          appControlTransactionId := none } }
  journals := []

/-- A run that sets the policy, to new rules of OpenPath. -/
def digitsRun (id : Guid) : SetRun Nat where
  transactionId := id
  profile := .managedBrowserCompatibility
  mode := .enforced
  generate := fun policy => some (policy % 10 + 10 * id)
  effective := 0
  healthy := true

/-- The process dies before the journal says `committed`. -/
def diesBeforeCommitted (id : Guid) (request : Call Nat Nat) : Fate Unit :=
  match request with
  | .writeState written content =>
      if written = id ∧ content.state = .committed then .dies [] else .succeeds
  | _ => .succeeds

def digitsHistory : List (Attempt Nat Nat) :=
  [{ run := .set (digitsRun 1), fate := fun _ => .succeeds },
    { run := .set (digitsRun 2), fate := diesBeforeCommitted 2 },
    { run := .remove { transactionId := 3, effective := 0 }, fate := fun _ => .succeeds }]

theorem works_digits : digits.Works :=
  fun _ _ h => h

theorem untouched_digits : Untouched digits digitsMachine where
  policy := rfl
  journals := rfl
  config := by
    intro config hconfig id hrecords
    cases hconfig
    cases hrecords.1

theorem undoesCommit_succeeds (id : Guid) :
    UndoesCommit (fun _ : Call Nat Nat => Fate.succeeds) id := by
  rintro ⟨_, ⟨_, _, h⟩ | ⟨_, h⟩ | ⟨_, _, _, h⟩ | ⟨_, _, h⟩⟩ <;> cases h

theorem undoesCommit_dies (id : Guid) : UndoesCommit (diesBeforeCommitted id) id := by
  rintro ⟨_, ⟨_, _, h⟩ | ⟨_, h⟩ | ⟨_, _, _, h⟩ | ⟨_, _, h⟩⟩
  all_goals unfold diesBeforeCommitted at h
  all_goals grind

/-- The recovery restores the configuration of the transaction whose run has died. -/
def recoveredHistory : List (Attempt Nat Nat) :=
  digitsHistory.take 2 ++ [{ run := .recover true, fate := fun _ => .succeeds }]

theorem leave_agrees_digits :
    digits.Same (ruling 5 (leave digits digitsMachine recoveredHistory).journals)
        (leave digits digitsMachine recoveredHistory).policy ∧
      InState 1 .committed (leave digits digitsMachine recoveredHistory) := by
  have hfresh : Fresh (recoveredHistory ++ []) := by decide
  have hcareful : IsCareful digits digitsMachine recoveredHistory :=
    ⟨undoesCommit_succeeds 1, undoesCommit_dies 2, Or.inl rfl, trivial⟩
  obtain ⟨hpolicy, hconfig⟩ :=
    (leave_agrees works_digits untouched_digits hfresh).2 (by decide)
  refine ⟨hpolicy, ?_⟩
  cases hread : (leave digits digitsMachine recoveredHistory).config with
  | none =>
      have hsome : (leave digits digitsMachine recoveredHistory).config.isSome = true := by
        decide
      rw [hread] at hsome
      cases hsome
  | some config =>
      refine hconfig hcareful config 1 hread ?_
      have hrecords : ((leave digits digitsMachine recoveredHistory).config.any fun config =>
          decide (config.security.Records 1)) = true := by decide
      rw [hread] at hrecords
      exact of_decide_eq_true hrecords

/-- A removal rolls back the transaction that the configuration has recorded. -/
theorem leave_disagrees :
    (Untouched digits digitsMachine ∧ Fresh digitsHistory) ∧
      pendingRecovery digits (leave digits digitsMachine digitsHistory) = [] ∧
        ((leave digits digitsMachine digitsHistory).config.any fun config =>
          decide (config.security.Records 2)) = true ∧
          InState 2 .rolledBack (leave digits digitsMachine digitsHistory) :=
  ⟨⟨untouched_digits, by decide⟩, by decide⟩

end Agreement

end OpenPath.Windows.AppControl
