/-
# What the recovery can resolve

A process may die in any call of a run. The recovery of the next run resolves the journal
that is left, unless the process has died between the creation of the directory of the
transaction and the record of its candidate: such a directory is reported for ever.
-/

import OpenPath.Windows.AppControlRuns

namespace OpenPath.Windows.AppControl

open Foundation Program

variable {Xml Hash Form : Type}

/-- The fate of calls that all succeed. -/
def succeeding : Call Xml Hash → Fate Unit :=
  fun _ => .succeeds

theorem succeeding_ne_dies (request : Call Xml Hash) (parts : List Unit) :
    succeeding request ≠ .dies parts :=
  fun h => by cases h

theorem harmless_succeeding : Harmless (succeeding : Call Xml Hash → Fate Unit) where
  fails := fun _ _ h => by cases h
  dies := fun _ _ h => by cases h

section Completeness

variable [DecidableEq Hash] [DecidableEq Form] (cmdlets : Cmdlets Xml Hash Form)

/-- The policy before a pending transaction. -/
def Machine.before (machine : Machine Xml Hash) (current : StateFile Hash) : Option Xml :=
  (machine.directory current.transactionId).bind Directory.beforeLocal

/-- The recovery, of which nothing fails, resolves every pending journal in any order, and
ends with the policy before the transaction. -/
def Recovers (machine : Machine Xml Hash) : Prop :=
  ∀ restores items, items.Perm (pendingRecovery cmdlets machine) →
    ∃ after, (recoverItems cmdlets restores items).execute (stores cmdlets) succeeding machine =
        (after, some (.ok [])) ∧
      pendingRecovery cmdlets after = [] ∧
      ∀ current, Item.journal current ∈ items →
        ∃ before, machine.before current = some before ∧ cmdlets.Same before after.policy

variable {cmdlets} {initial : Xml} {machine : Machine Xml Hash}

/-- Where the machine is good, the recovery resolves everything. -/
theorem Good.recovers (hworks : cmdlets.Works) (h : Good cmdlets False initial machine) :
    Recovers cmdlets machine := by
  intro restores items hitems
  rcases h with hresolved | ⟨old, last, current, before, candidate, h, hconfig⟩
  · rw [hresolved.1.pendingRecovery] at hitems
    obtain rfl := hitems.eq_nil
    exact ⟨machine, rfl, hresolved.1.pendingRecovery,
      fun current hcurrent => (List.not_mem_nil hcurrent).elim⟩
  · rw [h.pendingRecovery] at hitems
    obtain rfl := List.perm_singleton.mp hitems
    have hvouched : Vouched cmdlets False old machine.config := fun _ _ hfalse => hfalse.elim
    have hleaves : Leaves (stores cmdlets) succeeding
        (recoverItems cmdlets restores [.journal current]) machine
        (fun unresolved after => unresolved = [] ∧ Resolved cmdlets False initial after ∧
          cmdlets.Same before after.policy)
        (fun _ _ => False) (Sound cmdlets False initial succeeding) := by
      apply (leaves_recoverItem hworks h hconfig (.inr hvouched)).followedBy
      rintro (_ | item) after ⟨_, hnone, hsome⟩
      · obtain ⟨hresolved, hsame⟩ := hnone rfl
        exact .bind (.done (.done ⟨rfl, hresolved, hsame⟩))
      · exact absurd harmless_succeeding (hsome (Option.some_ne_none item))
    obtain ⟨_, after, hexecute, rfl, hresolved, hsame⟩ := hleaves.exists_ok succeeding_ne_dies
    refine ⟨after, hexecute, hresolved.1.pendingRecovery, ?_⟩
    intro item hitem
    obtain rfl : item = current := Item.journal.inj (List.mem_singleton.mp hitem)
    refine ⟨before, ?_, hsame⟩
    rw [Machine.before, h.transactionId, h.isLast.directory, Option.bind_some, h.beforeFile]

/-- A history whose runs fail or die only where it does no harm leaves a good machine. -/
theorem good_leave (hworks : cmdlets.Works) {history : List (Attempt Xml Hash)}
    (hfresh : Fresh history) (hnew : Unbegun machine history)
    (hharmless : ∀ attempt ∈ history, Harmless attempt.fate)
    (hgood : Good cmdlets False initial machine) :
    Good cmdlets False initial (leave cmdlets machine history) := by
  induction history generalizing machine with
  | nil => exact hgood
  | cons attempt history ih =>
      have hown := hnew attempt List.mem_cons_self
      apply ih hfresh.tail (hnew.tail hfresh)
        fun later hlater => hharmless later (List.mem_cons_of_mem attempt hlater)
      rcases attempt.sound hworks hgood hown False.elim with hsound | ⟨_, hharm⟩
      · exact hsound
      · exact absurd (hharmless attempt List.mem_cons_self) hharm

/-- Whatever run a process has died in, and whatever has failed before, the recovery
resolves everything, unless it has died or a file could not be written before the
candidate was recorded, or a step of a rollback has failed. -/
theorem recovers_leave (hworks : cmdlets.Works) (hstart : Untouched cmdlets machine)
    {history : List (Attempt Xml Hash)} (hfresh : Fresh history)
    (hharmless : ∀ attempt ∈ history, Harmless attempt.fate) :
    Recovers cmdlets (leave cmdlets machine history) :=
  (good_leave hworks hfresh (hstart.unbegun history) hharmless (.inl hstart.resolved)).recovers
    hworks

/-! ### Two deaths -/

/-- The process dies once the directory is there. -/
def diesInDirectory (id : Guid) (request : Call Nat Nat) : Fate Unit :=
  if request = .createDirectory id then .dies [()] else .succeeds

/-- A history in whose second run the process dies, with the given fate. -/
def deadHistory (fate : Call Nat Nat → Fate Unit) : List (Attempt Nat Nat) :=
  [{ run := .set (digitsRun 1), fate := succeeding }, { run := .set (digitsRun 2), fate := fate }]

theorem harmless_diesBeforeCommitted (id : Guid) : Harmless (diesBeforeCommitted id) where
  fails := by
    intro request parts h
    unfold diesBeforeCommitted at h
    split at h
    · split at h <;> cases h
    · cases h
  dies := by
    intro request parts h
    unfold diesBeforeCommitted at h
    split at h
    · split at h
      · next hcommitted =>
        rw [Call.cutsShort, hcommitted.2]
        rfl
      · cases h
    · cases h

/-- A commit that is cut short is rolled back to the policy of the first run. -/
theorem recovers_leave_digits :
    Recovers digits (leave digits digitsMachine (deadHistory (diesBeforeCommitted 2))) := by
  apply recovers_leave works_digits untouched_digits
  · decide
  · intro attempt hattempt
    rcases List.mem_pair.mp hattempt with rfl | rfl
    · exact harmless_succeeding
    · exact harmless_diesBeforeCommitted 2

/-- A directory without its files is reported for ever. -/
theorem not_recovers_digits :
    ¬ Recovers digits (leave digits digitsMachine (deadHistory (diesInDirectory 2))) := by
  intro h
  obtain ⟨after, hexecute, _⟩ := h true _ (List.Perm.refl _)
  have hunresolved : ((recoverItems digits true (pendingRecovery digits
      (leave digits digitsMachine (deadHistory (diesInDirectory 2))))).execute (stores digits)
      succeeding (leave digits digitsMachine (deadHistory (diesInDirectory 2)))).2.any
        (fun result => result.toBool && !result.toOption.any List.isEmpty) = true := by
    decide
  rw [hexecute] at hunresolved
  cases hunresolved

end Completeness

end OpenPath.Windows.AppControl
