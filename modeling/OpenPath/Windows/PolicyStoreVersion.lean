/-
# Telling Group Policy

Group Policy applies `Registry.pol` again when the version in `gpt.ini` has been stepped. The
version is stepped after the file was replaced, and only then. An operation that finds the
file as it should be succeeds without a step, even when the step of an earlier replacement
is still missing.
-/

import OpenPath.Windows.PolicyStoreListRuns

namespace OpenPath.Windows.PolicyStore

open Foundation RegistryPol

variable {characters : Characters}

/-! ## Operations -/

inductive Operation
  | setValue (call : SetCall)
  | removeValue (call : RemoveCall)
  | syncList (call : SyncCall)
  | removeList (call : RemoveListCall)

/-- How far an operation gets, and whether it reports success by then: `Applied`, or a removal
without a failure code. -/
def Operation.run (characters : Characters) (operation : Operation)
    (outcomes : List (Outcome StoreEvent)) (store : Store) : Store × Bool :=
  match operation with
  | .setValue call =>
      (Program.run (machine characters.upper) outcomes
        (store, setManagedPolicyValue characters.upper call)).map id
          fun program => program.result?.any (·.applied)
  | .removeValue call =>
      (Program.run (machine characters.upper) outcomes
        (store, removeManagedPolicyValue characters.upper call)).map id
          fun program => program.result?.any (·.failureCode.isNone)
  | .syncList call =>
      (Program.run (machine characters.upper) outcomes
        (store, syncManagedPolicyList characters call)).map id
          fun program => program.result?.any (·.applied)
  | .removeList call =>
      (Program.run (machine characters.upper) outcomes
        (store, removeManagedPolicyList characters call)).map id
          fun program => program.result?.any (·.failureCode.isNone)

/-- An operation, as far as it gets, or another writer between two of them. -/
inductive StoreAction
  | operates (operation : Operation) (outcomes : List (Outcome StoreEvent))
  | otherWriter (pol : Option Bytes)

def StoreAction.leave (characters : Characters) (store : Store) : StoreAction → Store
  | .operates operation outcomes => (operation.run characters outcomes store).1
  | .otherWriter pol => { store with pol }

/-- The store has changed `Registry.pol`, and the version was not stepped since. -/
def Outstanding : List Trace → Prop
  | .replaced _ _ _ :: _ => True
  | .lost :: _ => True
  | _ => False

instance (trace : List Trace) : Decidable (Outstanding trace) :=
  match trace with
  | [] => inferInstanceAs (Decidable False)
  | .replaced _ _ _ :: _ => inferInstanceAs (Decidable True)
  | .lost :: _ => inferInstanceAs (Decidable True)
  | .stepped :: _ => inferInstanceAs (Decidable False)

theorem not_outstanding_of_announced {trace : List Trace} (h : Announced trace) :
    ¬ Outstanding trace := by
  cases trace with
  | nil => exact id
  | cons last earlier =>
      cases last with
      | replaced before ledger after => exact h.elim
      | lost => exact h.elim
      | stepped => exact id

/-! ## Success -/

/-- The entries are already those that the operation leaves, with the ledger that it reads. -/
def Operation.Asked (characters : Characters) (operation : Operation) (ledger : Ledger)
    (entries : List Entry) : Prop :=
  match operation with
  | .setValue call => call.Asked characters.upper entries
  | .removeValue call =>
      call.Asked characters.upper (call.restores characters.upper ledger) entries
  | .syncList call => call.Asked characters (ownedTexts characters ledger call.key) entries
  | .removeList call => call.Asked characters (ownedTexts characters ledger call.key) entries

section Success

variable {store : Store} {outcomes : List (Outcome StoreEvent)} {occurs : StoreEvent → Bool}

/-- What a program promises of a result holds of the one that a run ends with. -/
theorem result_of_run {Result : Type} {program : Work Result Result}
    {permitted : Store → Store → Prop} {post : Except (Option Result) Result → Store → Prop}
    (h : program.Wp (events characters.upper occurs) permitted store post)
    (hwithin : ∀ outcome ∈ outcomes, outcome.Within occurs) {check : Result → Bool}
    (hchecked : (Program.run (machine characters.upper) outcomes (store, program)).2.result?.any
      check = true) :
    ∃ result, check result = true ∧
      post (.ok result) (Program.run (machine characters.upper) outcomes (store, program)).1 := by
  have hrest := h.run_rest outcomes
  rw [Program.run_restrict hwithin] at hrest
  obtain ⟨result, hresult, hcheck⟩ := (Option.any_eq_true _ _).mp hchecked
  rw [Program.eq_done_of_result? hresult] at hrest
  exact ⟨result, hcheck, hrest⟩

/-- An operation that reports success has told Group Policy of what it changed. -/
theorem told_of_success {operation : Operation}
    (hwithin : ∀ outcome ∈ outcomes, outcome.Within occurs)
    (h : (operation.run characters outcomes store).2 = true) :
    ∃ readable, MayRead occurs store readable ∧
      Told occurs (operation.Asked characters (ledgerRead store readable)) store
        (operation.run characters outcomes store).1 := by
  cases operation with
  | setValue call =>
      obtain ⟨result, -, htold⟩ := result_of_run wp_setManagedPolicyValue hwithin h
      exact ⟨store.ledgerReadable, .inl rfl, htold⟩
  | removeValue call =>
      obtain ⟨result, hsuccess, readable, hreadable, hremoved⟩ :=
        result_of_run wp_removeManagedPolicyValue hwithin h
      exact ⟨readable, hreadable, hremoved.1 (Option.isNone_iff_eq_none.mp hsuccess)⟩
  | syncList call =>
      obtain ⟨result, -, readable, plan, union, hreadable, hends⟩ :=
        result_of_run wp_syncManagedPolicyList hwithin h
      exact ⟨readable, hreadable, hends.told⟩
  | removeList call =>
      obtain ⟨result, hsuccess, readable, hreadable, hremoved⟩ :=
        result_of_run wp_removeManagedPolicyList hwithin h
      exact ⟨readable, hreadable, hremoved.told (Option.isNone_iff_eq_none.mp hsuccess)⟩

end Success

/-! ## What there is to do -/

/-- What the file may hold when an operation reads it. -/
def MaySee (outcomes : List (Outcome StoreEvent)) (store : Store) (pol : Option Bytes) : Prop :=
  pol = store.pol ∨ .advances (.otherWriter pol) ∈ outcomes

/-- Whether the ledger can be read when an operation does so. -/
def MayFind (outcomes : List (Outcome StoreEvent)) (store : Store) (readable : Bool) : Prop :=
  readable = store.ledgerReadable ∨ .advances (.ledgerReads readable) ∈ outcomes

/-- Whatever the file and the ledger are when the operation reads them, it has to write. -/
def Operation.HasWork (characters : Characters) (operation : Operation)
    (outcomes : List (Outcome StoreEvent)) (store : Store) : Prop :=
  ∀ pol entries readable, MaySee outcomes store pol → MayFind outcomes store readable →
    readEntries pol = .ok entries →
      ¬ operation.Asked characters (ledgerRead store readable) entries

variable {operation : Operation} {outcomes : List (Outcome StoreEvent)} {store : Store}

/-- A success with nothing to do leaves the files alone; any other success tells last. -/
theorem read_of_success (h : (operation.run characters outcomes store).2 = true) :
    ∃ pol entries readable, MaySee outcomes store pol ∧ MayFind outcomes store readable ∧
      readEntries pol = .ok entries ∧
      (operation.Asked characters (ledgerRead store readable) entries ∧
          (operation.run characters outcomes store).1.trace = store.trace ∨
        ¬ operation.Asked characters (ledgerRead store readable) entries ∧
          Announced (operation.run characters outcomes store).1.trace) := by
  classical
  let occurs : StoreEvent → Bool := fun event => decide (.advances event ∈ outcomes)
  have hwithin : ∀ outcome ∈ outcomes, outcome.Within occurs := by
    intro outcome houtcome
    cases outcome with
    | advances event => exact decide_eq_true houtcome
    | succeeds => trivial
    | fails => trivial
  obtain ⟨readable, hreadable, pol, entries, hpol, hread, hends⟩ := told_of_success hwithin h
  exact ⟨pol, entries, readable, hpol.imp_right of_decide_eq_true,
    hreadable.imp_right of_decide_eq_true, hread, hends⟩

/-! ## Histories -/

/-- A success says that no replacement is left untold, whoever made it. -/
def Announces (characters : Characters) (before : Store) : StoreAction → Prop
  | .operates operation outcomes =>
      (operation.run characters outcomes before).2 = true →
        ¬ Outstanding (operation.run characters outcomes before).1.trace
  | .otherWriter _ => True

/-- Where a replacement is left untold, the operation has to write. -/
def Tells (characters : Characters) (before : Store) : StoreAction → Prop
  | .operates operation outcomes =>
      Outstanding before.trace → operation.HasWork characters outcomes before
  | .otherWriter _ => True

/-- Something holds of every action where it starts. -/
def Throughout (characters : Characters) (holds : Store → StoreAction → Prop) :
    List StoreAction → Store → Prop
  | [], _ => True
  | action :: history, store =>
      holds store action ∧ Throughout characters holds history (action.leave characters store)

theorem Throughout.imp {first second : Store → StoreAction → Prop}
    (himp : ∀ store action, first store action → second store action)
    {history : List StoreAction} {store : Store}
    (h : Throughout characters first history store) :
    Throughout characters second history store := by
  induction history generalizing store with
  | nil => trivial
  | cons action history ih => exact ⟨himp store action h.1, ih h.2⟩

/-- What was outstanding stays so only where the operation has nothing to do. -/
theorem announces_of_tells (store : Store) (action : StoreAction)
    (h : Tells characters store action) : Announces characters store action := by
  cases action with
  | otherWriter pol => trivial
  | operates operation outcomes =>
      intro hsuccess houtstanding
      obtain ⟨pol, entries, readable, hpol, hreadable, hread, ⟨hasked, htrace⟩ | ⟨-, htold⟩⟩ :=
        read_of_success hsuccess
      · rw [htrace] at houtstanding
        exact h houtstanding pol entries readable hpol hreadable hread hasked
      · exact not_outstanding_of_announced htold houtstanding

/-- While an operation runs, nobody else writes the file, and the ledger is as it was. -/
structure Alone (outcomes : List (Outcome StoreEvent)) : Prop where
  file : ∀ pol, .advances (.otherWriter pol) ∉ outcomes
  ledger : ∀ readable, .advances (.ledgerReads readable) ∉ outcomes

theorem outstanding_iff (halone : Alone outcomes)
    (hsuccess : (operation.run characters outcomes store).2 = true) :
    Outstanding (operation.run characters outcomes store).1.trace ↔
      Outstanding store.trace ∧ ¬ operation.HasWork characters outcomes store := by
  have hpolOf {pol : Option Bytes} (hpol : MaySee outcomes store pol) : pol = store.pol :=
    hpol.resolve_right (halone.file pol)
  have hreadableOf {readable : Bool} (hreadable : MayFind outcomes store readable) :
      readable = store.ledgerReadable := hreadable.resolve_right (halone.ledger readable)
  obtain ⟨pol, entries, readable, hpol, hreadable, hread, hends⟩ := read_of_success hsuccess
  obtain ⟨hasked, htrace⟩ | ⟨hchanged, htold⟩ := hends
  · rw [htrace]
    exact (and_iff_left fun hwork =>
      hwork pol entries readable hpol hreadable hread hasked).symm
  · refine iff_of_false (not_outstanding_of_announced htold) fun hidle => hidle.2 ?_
    intro other found readable' hother hfind hfound
    obtain rfl := (hpolOf hother).trans (hpolOf hpol).symm
    obtain rfl := (hreadableOf hfind).trans (hreadableOf hreadable).symm
    cases hread.symm.trans hfound
    exact hchanged

/-- Over any history, Group Policy is told by every success, as long as each operation that
starts while a replacement is untold has to write the file. An operation that runs alone and
succeeds leaves a replacement untold just when one was untold before and there was nothing
to write. -/
theorem successes_announce :
    (∀ (history : List StoreAction) (start : Store),
      Throughout characters (Tells characters) history start →
        Throughout characters (Announces characters) history start) ∧
    ∀ (operation : Operation) (outcomes : List (Outcome StoreEvent)) (store : Store),
      Alone outcomes → (operation.run characters outcomes store).2 = true →
        (Outstanding (operation.run characters outcomes store).1.trace ↔
          Outstanding store.trace ∧ ¬ operation.HasWork characters outcomes store) :=
  ⟨fun _ _ htells => htells.imp announces_of_tells,
    fun _ _ _ halone hsuccess => outstanding_iff halone hsuccess⟩

/-! ## A step that fails -/

/-- The value is set, but the version cannot be stepped. -/
def untoldSet : StoreAction := .operates (.setValue sampleSet) (smooth 6 ++ [.fails])

/-- Another writer puts a number back, which the next set has to change. -/
def mendedHistory : List StoreAction :=
  [untoldSet, .otherWriter (samplePol 2), .operates (.setValue sampleSet) (smooth 8),
    .operates (.removeValue sampleRemove) (smooth 7)]

theorem not_advances_smooth (calls : Nat) (event : StoreEvent) :
    .advances event ∉ smooth calls := by
  intro hmem
  cases List.eq_of_mem_replicate hmem

theorem alone_smooth (calls : Nat) : Alone (smooth calls) :=
  ⟨fun _ => not_advances_smooth calls _, fun _ => not_advances_smooth calls _⟩

theorem tells_mended :
    Throughout asciiCharacters (Tells asciiCharacters) mendedHistory sampleStore := by
  refine ⟨fun houtstanding => ?_, trivial, fun _ => ?_, fun houtstanding => ?_, trivial⟩
  · exact absurd houtstanding (by decide +kernel)
  · intro pol entries readable hpol _ hread
    obtain rfl : pol = samplePol 2 := hpol.resolve_right (not_advances_smooth 8 _)
    rw [read_samplePol (by decide)] at hread
    cases hread
    change ¬ setEntry _ _ _ _ = _
    decide
  · exact absurd houtstanding (by decide +kernel)

/-- After a step that failed, the second set and the removal announce what they report. -/
theorem successes_announce_mended :
    Throughout asciiCharacters (Announces asciiCharacters) mendedHistory sampleStore ∧
      ¬ Outstanding ((Operation.setValue sampleSet).run asciiCharacters (smooth 8)
        sampleStore).1.trace := by
  have hsuccess : ((Operation.setValue sampleSet).run asciiCharacters (smooth 8)
      sampleStore).2 = true := by decide +kernel
  have hiff := successes_announce.2 _ _ _ (alone_smooth 8) hsuccess
  have hstart : ¬ Outstanding sampleStore.trace := by decide
  exact ⟨successes_announce.1 _ _ tells_mended, mt hiff.mp fun hidle => hstart hidle.1⟩

/-- The value is set once more, where the step is still missing. -/
def repeatedHistory : List StoreAction :=
  [untoldSet, .operates (.setValue sampleSet) (smooth 4)]

/-- The second call finds the file as it should be, and succeeds. -/
theorem not_announces_repeated :
    ¬ Throughout asciiCharacters (Announces asciiCharacters) repeatedHistory sampleStore := by
  rintro ⟨-, hsecond, -⟩
  exact hsecond (by decide +kernel) (by decide +kernel)

end OpenPath.Windows.PolicyStore
