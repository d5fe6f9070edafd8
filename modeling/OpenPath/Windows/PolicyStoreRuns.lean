/-
# What removing a value restores

Over any sequence of calls that set a value, with failures at any step and with other writers
between the steps, the entries of other values stay as they are, and the original in the
ledger stays the one with which the store first replaced the file. Removing the value leaves
just that original. Whether it is what the file held at that moment depends on what happened
between the recording and the replacement.
-/

import OpenPath.Windows.PolicyStoreSteps

namespace OpenPath.Windows.PolicyStore

open Foundation RegistryPol

variable {upper : UInt16 → UInt16} {target other : Target} {data : PolicyData}
  {entries : List Entry}

/-! ## Entries -/

/-- Two spellings of one value. -/
def SameTarget (upper : UInt16 → UInt16) (first second : Target) : Prop :=
  testPolicyKeyEqual upper first.key second.key = true ∧
    testPolicyNameEqual upper first.valueName second.valueName = true

variable {first second : Utf16}

theorem testPolicyNameEqual_iff :
    testPolicyNameEqual upper first second = true ↔ fold upper first = fold upper second :=
  beq_iff_eq

theorem testPolicyNameEqual_congr {name : Utf16}
    (h : testPolicyNameEqual upper first second = true) :
    testPolicyNameEqual upper name first = testPolicyNameEqual upper name second := by
  rw [testPolicyNameEqual, testPolicyNameEqual, testPolicyNameEqual_iff.mp h]

theorem isEntry_congr (h : SameTarget upper target other) :
    target.isEntry upper = other.isEntry upper := by
  funext entry
  rw [Target.isEntry, Target.isEntry, testPolicyKeyEqual, testPolicyNameEqual_congr h.1,
    testPolicyNameEqual_congr h.2]
  rfl

theorem original_congr (h : SameTarget upper target other) (ledger : Ledger) :
    ledger.original upper target = ledger.original upper other := by
  have hkey : fold upper (trimKey target.key) = fold upper (trimKey other.key) :=
    testPolicyNameEqual_iff.mp h.1
  have hname : fold upper target.valueName = fold upper other.valueName :=
    testPolicyNameEqual_iff.mp h.2
  have hid : originalId upper target = originalId upper other := by
    simp only [originalId, fold, List.map_append] at hkey hname ⊢
    rw [hkey, hname]
  rw [Ledger.original, Ledger.original, hid]

theorem trimKey_trimKey (key : Utf16) : trimKey (trimKey key) = trimKey key := trim_trim _ _

@[simp]
theorem isEntry_entry : target.isEntry upper (target.entry data) = true := by
  simp [Target.isEntry, Target.entry, testPolicyKeyEqual, testPolicyNameEqual, trimKey_trimKey]

@[simp]
theorem isEntry_withData (entry : Entry) :
    target.isEntry upper (withData entry data) = target.isEntry upper entry := rfl

@[simp]
theorem policyData_withData (entry : Entry) : policyData (withData entry data) = data := rfl

@[simp]
theorem policyData_entry : policyData (target.entry data) = data := rfl

theorem otherEntries_setEntry :
    otherEntries upper target (setEntry upper target data entries) =
      otherEntries upper target entries := by
  induction entries with
  | nil => simp [setEntry, otherEntries]
  | cons entry entries ih =>
      rw [setEntry]
      by_cases hentry : target.isEntry upper entry = true
      · simp [otherEntries, hentry]
      · simp only [otherEntries] at ih
        simp [otherEntries, hentry, ih]

theorem otherEntries_otherEntries :
    otherEntries upper target (otherEntries upper target entries) =
      otherEntries upper target entries := by
  simp [otherEntries]

theorem valueEntries_otherEntries :
    valueEntries upper target (otherEntries upper target entries) = [] := by
  simp [valueEntries, otherEntries]

theorem otherEntries_restoreEntry :
    otherEntries upper target (restoreEntry upper target data entries) =
      otherEntries upper target entries := by
  induction entries with
  | nil => simp [restoreEntry, otherEntries]
  | cons entry entries ih =>
      rw [restoreEntry]
      by_cases hentry : target.isEntry upper entry = true
      · simp [otherEntries, hentry]
      · simp only [otherEntries] at ih
        simp [otherEntries, hentry, ih]

theorem valueEntries_restoreEntry :
    (valueEntries upper target (restoreEntry upper target data entries)).map policyData =
      [data] := by
  induction entries with
  | nil => simp [restoreEntry, valueEntries]
  | cons entry entries ih =>
      rw [restoreEntry]
      by_cases hentry : target.isEntry upper entry = true
      · simp [hentry, valueEntries, otherEntries]
      · simp only [valueEntries] at ih
        simp [valueEntries, hentry, ih]

theorem otherEntries_keptEntries (restored : Option PolicyData) :
    otherEntries upper target (keptEntries upper target restored entries) =
      otherEntries upper target entries := by
  cases restored with
  | none => exact otherEntries_otherEntries
  | some data => exact otherEntries_restoreEntry

theorem valueEntries_keptEntries (restored : Option PolicyData) :
    (valueEntries upper target (keptEntries upper target restored entries)).map policyData =
      restored.toList := by
  cases restored with
  | none =>
      rw [keptEntries, valueEntries_otherEntries]
      rfl
  | some data => exact valueEntries_restoreEntry

/-! ## Entries in files -/

/-- A value whose names are well-formed and hold no terminator. -/
def Target.Regular (target : Target) : Prop := (target.entry ⟨0, []⟩).Regular

theorem Target.Regular.entry (h : target.Regular) (data : PolicyData) :
    (target.entry data).Regular :=
  ⟨h.key, h.valueName, h.wellFormedKey, h.wellFormedValueName⟩

variable {entry : Entry}

theorem regular_withData (h : entry.Regular) : (withData entry data).Regular :=
  ⟨h.key, h.valueName, h.wellFormedKey, h.wellFormedValueName⟩

theorem regular_setEntry (htarget : target.Regular) (h : ∀ entry ∈ entries, entry.Regular) :
    ∀ entry ∈ setEntry upper target data entries, entry.Regular := by
  induction entries with
  | nil => simpa [setEntry] using htarget.entry data
  | cons entry entries ih =>
      obtain ⟨hentry, hentries⟩ := List.forall_mem_cons.mp h
      rw [setEntry]
      split
      · exact List.forall_mem_cons.mpr ⟨regular_withData hentry, hentries⟩
      · exact List.forall_mem_cons.mpr ⟨hentry, ih hentries⟩

theorem regular_otherEntries (h : ∀ entry ∈ entries, entry.Regular) :
    ∀ entry ∈ otherEntries upper target entries, entry.Regular :=
  fun entry hentry => h entry (List.mem_of_mem_filter hentry)

theorem regular_keptEntries (htarget : target.Regular) (h : ∀ entry ∈ entries, entry.Regular)
    (restored : Option PolicyData) :
    ∀ entry ∈ keptEntries upper target restored entries, entry.Regular := by
  cases restored with
  | none => exact regular_otherEntries h
  | some data =>
      rw [keptEntries]
      induction entries with
      | nil => simpa [restoreEntry] using htarget.entry data
      | cons entry entries ih =>
          obtain ⟨hentry, hentries⟩ := List.forall_mem_cons.mp h
          rw [restoreEntry]
          split
          · exact List.forall_mem_cons.mpr
              ⟨regular_withData hentry, regular_otherEntries hentries⟩
          · exact List.forall_mem_cons.mpr ⟨hentry, ih hentries⟩

theorem regular_of_isRecord {raw : Bytes} (h : IsRecord raw entry) : entry.Regular := by
  obtain ⟨key, valueName, hkey, hvalueName, -, hkeyed, hnamed, -⟩ := h
  constructor
  · exact hkeyed ▸ Utf16.zero_not_mem_repair hkey
  · exact hnamed ▸ Utf16.zero_not_mem_repair hvalueName
  · exact hkeyed ▸ Utf16.wellFormed_repair key
  · exact hnamed ▸ Utf16.wellFormed_repair valueName

theorem regular_of_readEntries {pol : Option Bytes} (h : readEntries pol = .ok entries) :
    ∀ entry ∈ entries, entry.Regular := by
  cases pol with
  | none =>
      cases h
      exact fun entry hentry => (List.not_mem_nil hentry).elim
  | some bytes =>
      rw [readEntries, convertFrom] at h
      split at h
      · obtain ⟨raws, -, hrecords⟩ := entryReader.readAll_eq_ok.mp h
        clear h
        induction hrecords with
        | nil => exact fun entry hentry => (List.not_mem_nil hentry).elim
        | cons hrecord _ ih => exact List.forall_mem_cons.mpr ⟨regular_of_isRecord hrecord, ih⟩
      · cases h

theorem readEntries_content (h : ∀ entry ∈ entries, entry.Regular)
    (hfits : (content entries).length ≤ streamLimit) :
    readEntries (some (content entries)) = .ok entries :=
  convertFrom_content_of_regular h hfits

/-! ## What the store has done -/

/-- A replacement keeps the entries of other values, in their order. -/
def Framed (upper : UInt16 → UInt16) (target : Target) : Trace → Prop
  | .replaced before _ after =>
      ∃ old new, readEntries before = .ok old ∧ readEntries (some after) = .ok new ∧
        otherEntries upper target new = otherEntries upper target old
  | .lost => False
  | .stepped => True

def replacementOf : Trace → Option (Option Bytes × Ledger)
  | .replaced before ledger _ => some (before, ledger)
  | _ => none

/-- The file and the ledger at the first replacement. -/
def firstReplacement : List Trace → Option (Option Bytes × Ledger)
  | [] => none
  | last :: earlier => (firstReplacement earlier).or (replacementOf last)

/-- The original is what a file holds for the value: the first of its entries, or none. -/
def OriginalIn (upper : UInt16 → UInt16) (target : Target) (pol : Option Bytes)
    (original : Original) : Prop :=
  ∃ entries, readEntries pol = .ok entries ∧
    original = originalOf (entries.find? (target.isEntry upper))

/-- The store as it is while nothing goes wrong with the ledger: the original is of the file
at the recording, and that of the first replacement is still there. -/
structure Kept (upper : UInt16 → UInt16) (target : Target) (store : Store) : Prop where
  readable : store.ledgerReadable = true
  noted : ∀ original, store.ledger.original upper target = some original →
    OriginalIn upper target store.recordedPol original
  recorded : ∀ before ledger, firstReplacement store.trace = some (before, ledger) →
    (ledger.original upper target).isSome = true ∧
      store.ledger.original upper target = ledger.original upper target

/-- The file is never lost. -/
def keepsFile : StoreEvent → Bool
  | .lost => false
  | _ => true

/-- The ledger can be read. -/
def readsLedger : StoreEvent → Bool
  | .ledgerReads readable => readable
  | _ => true

/-- Both. -/
def careful (event : StoreEvent) : Bool := keepsFile event && readsLedger event

variable {store : Store}

/-- A replacement by entries that agree on other values. -/
theorem framed_replace {old new : List Entry}
    (hframed : ∀ step ∈ store.trace, Framed upper target step)
    (hread : readEntries store.pol = .ok old) (hregular : ∀ entry ∈ new, entry.Regular)
    (hfits : (content new).length ≤ streamLimit)
    (hothers : otherEntries upper target new = otherEntries upper target old) :
    ∀ step ∈ (store.replace new).trace, Framed upper target step := by
  rw [Store.replace]
  split
  · exact hframed
  · rw [List.forall_mem_cons]
    exact ⟨⟨old, new, hread, readEntries_content hregular hfits, hothers⟩, hframed⟩

variable {before after : Store} {occurs : StoreEvent → Bool} {call : SetCall}

/-- Entries of other values are left alone by a set. -/
theorem framed_setStep (hlost : occurs .lost = false)
    (h : ∀ step ∈ before.trace, Framed upper target step)
    (hsame : SameTarget upper call.target target) (hregular : call.target.Regular)
    (hstep : SetStep upper occurs call before after) :
    ∀ step ∈ after.trace, Framed upper target step := by
  cases hstep with
  | lost _ habsurd =>
      rw [hlost] at habsurd
      cases habsurd
  | other _ htrace => exact htrace ▸ h
  | ledgerReads => exact h
  | forgo => exact h
  | record => exact h
  | replace entries hread hfits =>
      have hothers : otherEntries upper target
          (setEntry upper call.target (convertToData call.value) entries) =
          otherEntries upper target entries := by
        have hset : otherEntries upper call.target
            (setEntry upper call.target (convertToData call.value) entries) =
            otherEntries upper call.target entries := otherEntries_setEntry
        rwa [otherEntries, otherEntries, isEntry_congr hsame] at hset
      exact framed_replace h hread
        (regular_setEntry hregular (regular_of_readEntries hread)) hfits hothers
  | step => exact List.forall_mem_cons.mpr ⟨trivial, h⟩

/-- What one step of a set keeps, where the original is not given up. -/
theorem Kept.setStep (h : Kept upper target before) (hsame : SameTarget upper call.target target)
    (hreleases : call.releaseOriginal = false) (hstep : SetStep upper careful call before after) :
    Kept upper target after := by
  have hheld : ¬ Forgoes call before := by
    rw [Forgoes, hreleases, h.readable]
    decide
  cases hstep with
  | lost _ hlost => cases hlost
  | other _ htrace hledger hrecorded hreadable =>
      exact ⟨hreadable ▸ h.readable, hledger ▸ hrecorded ▸ h.noted, hledger ▸ htrace ▸ h.recorded⟩
  | ledgerReads readable hreads => exact ⟨hreads, h.noted, h.recorded⟩
  | forgo ledger hforgoes => exact absurd hforgoes hheld
  | record entries hread hmissing =>
      refine ⟨h.readable, fun original horiginal => ?_, fun first ledger hfirst => ?_⟩
      · refine ⟨entries, hread, ?_⟩
        change (before.ledger.setOriginal upper call.target _).original upper target = _ at horiginal
        rw [← original_congr hsame, original_setOriginal, isEntry_congr hsame] at horiginal
        exact (Option.some.inj horiginal).symm
      -- An original is only recorded while there is none, so before the first replacement.
      · obtain ⟨hsome, heq⟩ := h.recorded first ledger hfirst
        rw [original_congr hsame, heq] at hmissing
        rw [hmissing] at hsome
        cases hsome
  | replace entries hread hfits hrecorded =>
      rw [Store.replace]
      split
      · exact h
      · refine ⟨h.readable, h.noted, fun first ledger hfirst => ?_⟩
        rw [firstReplacement, Option.or_eq_some_iff] at hfirst
        obtain hearlier | ⟨-, hlast⟩ := hfirst
        · exact h.recorded first ledger hearlier
        · cases hlast
          have hsome := hrecorded.resolve_left hheld
          rw [original_congr hsame] at hsome
          exact ⟨hsome, rfl⟩
  | step =>
      refine ⟨h.readable, h.noted, fun first ledger hfirst => ?_⟩
      have hearlier : (firstReplacement before.trace).or none = some (first, ledger) := hfirst
      rw [Option.or_none] at hearlier
      exact h.recorded first ledger hearlier

variable {call : RemoveCall}

theorem framed_removeStep (hlost : occurs .lost = false)
    (h : ∀ step ∈ before.trace, Framed upper target step)
    (hsame : SameTarget upper call.target target) (hregular : call.target.Regular)
    (hstep : RemoveStep upper occurs call before after) :
    ∀ step ∈ after.trace, Framed upper target step := by
  cases hstep with
  | lost _ habsurd =>
      rw [hlost] at habsurd
      cases habsurd
  | other _ htrace => exact htrace ▸ h
  | replace restored entries hread hfits =>
      have hothers : otherEntries upper target
          (keptEntries upper call.target restored entries) = otherEntries upper target entries := by
        have hkept : otherEntries upper call.target
            (keptEntries upper call.target restored entries) =
            otherEntries upper call.target entries := otherEntries_keptEntries restored
        rwa [otherEntries, otherEntries, isEntry_congr hsame] at hkept
      exact framed_replace h hread
        (regular_keptEntries hregular (regular_of_readEntries hread) restored) hfits hothers
  | step => exact List.forall_mem_cons.mpr ⟨trivial, h⟩

/-! ## Histories -/

/-- A call that sets a value, with what happens to it, or another writer between two calls. -/
inductive HistoryEvent
  | set (call : SetCall) (outcomes : List (Outcome StoreEvent))
  | otherWriter (pol : Option Bytes)

/-- The store that an event leaves. A call may have been cut off anywhere. -/
def HistoryEvent.leave (upper : UInt16 → UInt16) (store : Store) : HistoryEvent → Store
  | .set call outcomes =>
      (Program.run (machine upper) outcomes (store, setManagedPolicyValue upper call)).1
  | .otherWriter pol => { store with pol }

def leave (upper : UInt16 → UInt16) (history : List HistoryEvent) (store : Store) : Store :=
  history.foldl (HistoryEvent.leave upper) store

/-- Sets of the value by which the file is not lost. -/
def HistoryEvent.Sets (upper : UInt16 → UInt16) (target : Target) : HistoryEvent → Prop
  | .set call outcomes =>
      SameTarget upper call.target target ∧ call.target.Regular ∧
        ∀ outcome ∈ outcomes, outcome.Within keepsFile
  | .otherWriter _ => True

/-- Sets that do not give up the original, while the ledger can be read. -/
def HistoryEvent.KeepsOriginal : HistoryEvent → Prop
  | .set call outcomes =>
      call.releaseOriginal = false ∧ ∀ outcome ∈ outcomes, outcome.Within readsLedger
  | .otherWriter _ => True

variable {outcomes : List (Outcome StoreEvent)}

theorem within_careful (hfile : ∀ outcome ∈ outcomes, outcome.Within keepsFile)
    (hledger : ∀ outcome ∈ outcomes, outcome.Within readsLedger) :
    ∀ outcome ∈ outcomes, outcome.Within careful := by
  intro outcome houtcome
  have hkeeps := hfile outcome houtcome
  have hreads := hledger outcome houtcome
  cases outcome with
  | advances event => exact Bool.and_eq_true_iff.mpr ⟨hkeeps, hreads⟩
  | succeeds => trivial
  | fails => trivial

variable {history : List HistoryEvent}

theorem framed_leave (h : ∀ step ∈ store.trace, Framed upper target step)
    (hsets : ∀ event ∈ history, event.Sets upper target) :
    ∀ step ∈ (leave upper history store).trace, Framed upper target step := by
  induction history generalizing store with
  | nil => exact h
  | cons event history ih =>
      obtain ⟨hevent, hhistory⟩ := List.forall_mem_cons.mp hsets
      apply ih _ hhistory
      cases event with
      | otherWriter pol => exact h
      | set call outcomes =>
          obtain ⟨hsame, hregular, hwithin⟩ := hevent
          rw [HistoryEvent.leave, ← Program.run_restrict hwithin]
          exact wp_setManagedPolicyValue.run
            (fun before after hframed hstep => framed_setStep rfl hframed hsame hregular hstep)
            h outcomes

theorem Kept.leave (h : Kept upper target store)
    (hsets : ∀ event ∈ history, event.Sets upper target)
    (hkeeps : ∀ event ∈ history, event.KeepsOriginal) :
    Kept upper target (leave upper history store) := by
  induction history generalizing store with
  | nil => exact h
  | cons event history ih =>
      obtain ⟨hevent, hhistory⟩ := List.forall_mem_cons.mp hsets
      obtain ⟨hkept, hlater⟩ := List.forall_mem_cons.mp hkeeps
      apply ih _ hhistory hlater
      cases event with
      | otherWriter pol => exact ⟨h.readable, h.noted, h.recorded⟩
      | set call outcomes =>
          obtain ⟨hsame, -, hfile⟩ := hevent
          obtain ⟨hreleases, hledger⟩ := hkept
          rw [HistoryEvent.leave, ← Program.run_restrict (within_careful hfile hledger)]
          exact wp_setManagedPolicyValue.run
            (fun before after hkept hstep => hkept.setStep hsame hreleases hstep) h outcomes

/-! ## Restoring -/

/-- An entry as the store compares it: without capitals and outer backslashes. -/
def foldEntry (upper : UInt16 → UInt16) (entry : Entry) : Entry :=
  { entry with key := foldKey upper entry.key, valueName := fold upper entry.valueName }

/-- The second file holds for the value what the first one does. -/
def Restores (upper : UInt16 → UInt16) (target : Target) (before after : Option Bytes) : Prop :=
  ∃ old new, readEntries before = .ok old ∧ readEntries after = .ok new ∧
    (valueEntries upper target new).map (foldEntry upper) =
      (valueEntries upper target old).map (foldEntry upper)

/-- What the file holds for the value at the first replacement is what it held when the
original was recorded, and is one entry or none: nobody has changed it between the two. -/
def Untouched (upper : UInt16 → UInt16) (target : Target) (recorded before : Option Bytes) :
    Prop :=
  ∃ noted old, readEntries recorded = .ok noted ∧ readEntries before = .ok old ∧
    (valueEntries upper target old).map policyData =
      ((valueEntries upper target noted).map policyData).take 1

theorem data_originalOf (entries : List Entry) :
    (originalOf (entries.find? (target.isEntry upper))).data.toList =
      ((valueEntries upper target entries).map policyData).take 1 := by
  rw [valueEntries, ← List.map_take, ← List.head?_filter]
  cases entries.filter (target.isEntry upper) with
  | nil => rfl
  | cons entry rest => rfl

/-- Entries of one value differ in their data only. -/
theorem foldEntry_of_isEntry (h : target.isEntry upper entry = true) :
    foldEntry upper entry = foldEntry upper (target.entry (policyData entry)) := by
  rw [Target.isEntry, Bool.and_eq_true, testPolicyKeyEqual, testPolicyNameEqual_iff,
    testPolicyNameEqual_iff] at h
  rw [foldEntry, foldEntry, foldKey, foldKey, h.1, h.2, Target.entry, trimKey_trimKey]
  rfl

theorem map_foldEntry_inj {first second : List Entry} :
    (valueEntries upper target first).map (foldEntry upper) =
        (valueEntries upper target second).map (foldEntry upper) ↔
      (valueEntries upper target first).map policyData =
        (valueEntries upper target second).map policyData := by
  have hfold : ∀ entries : List Entry, (valueEntries upper target entries).map (foldEntry upper) =
      ((valueEntries upper target entries).map policyData).map
        fun data => foldEntry upper (target.entry data) := by
    intro entries
    rw [List.map_map]
    exact List.map_congr_left fun entry hentry =>
      foldEntry_of_isEntry (List.of_mem_filter hentry)
  constructor
  · intro h
    have hdata := congrArg (List.map policyData) h
    rw [List.map_map, List.map_map] at hdata
    exact hdata
  · intro h
    rw [hfold, hfold, h]

/-- With a successful removal the file holds the original and nothing else for the value. -/
theorem value_of_left {restored : Option PolicyData} (hsame : SameTarget upper call.target target)
    (hregular : call.target.Regular) (h : Left upper call restored store) :
    ∃ new, readEntries store.pol = .ok new ∧
      (valueEntries upper target new).map policyData = restored.toList := by
  obtain ⟨pol, entries, hread, hleft⟩ := h
  have hvalue : (valueEntries upper target (keptEntries upper call.target restored entries)).map
      policyData = restored.toList := by
    have hkept : (valueEntries upper call.target (keptEntries upper call.target restored
        entries)).map policyData = restored.toList := valueEntries_keptEntries restored
    rwa [valueEntries, isEntry_congr hsame] at hkept
  obtain ⟨hunchanged, hpol⟩ | ⟨hpol, hfits⟩ := hleft
  · exact ⟨entries, hpol ▸ hread, hunchanged ▸ hvalue⟩
  · refine ⟨_, ?_, hvalue⟩
    rw [hpol]
    exact readEntries_content
      (regular_keptEntries hregular (regular_of_readEntries hread) restored) hfits

/-- A removal of the value by which the file is not lost. -/
structure RemoveCall.Removes (upper : UInt16 → UInt16) (target : Target) (call : RemoveCall)
    (outcomes : List (Outcome StoreEvent)) : Prop where
  same : SameTarget upper call.target target
  regular : call.target.Regular
  keepsFile : ∀ outcome ∈ outcomes, outcome.Within keepsFile

/-- A removal that puts the original back, while the ledger can be read. -/
structure RemoveCall.KeepsOriginal (call : RemoveCall) (outcomes : List (Outcome StoreEvent)) :
    Prop where
  restores : call.discardOriginal = false
  readsLedger : ∀ outcome ∈ outcomes, outcome.Within readsLedger

/-- A store that has done nothing yet for the value. -/
structure Fresh (upper : UInt16 → UInt16) (target : Target) (store : Store) : Prop where
  trace : store.trace = []
  original : store.ledger.original upper target = none
  readable : store.ledgerReadable = true

theorem Fresh.framed (h : Fresh upper target store) :
    ∀ step ∈ store.trace, Framed upper target step := by
  rw [h.trace]
  exact fun step hstep => (List.not_mem_nil hstep).elim

theorem Fresh.kept (h : Fresh upper target store) : Kept upper target store where
  readable := h.readable
  noted := by
    rw [h.original]
    intro original hnone
    cases hnone
  recorded := by
    rw [h.trace]
    intro before ledger hfirst
    cases hfirst

theorem value_of_removed {result : RemoveResult} (hkept : Kept upper target store)
    (hremoves : call.Removes upper target outcomes) (hkeeps : call.KeepsOriginal outcomes)
    (hrun : Program.run (machine upper) outcomes (store, removeManagedPolicyValue upper call) =
      (after, .done result)) {before : Option Bytes} {ledger : Ledger} {original : Original}
    (hfirst : firstReplacement store.trace = some (before, ledger))
    (horiginal : ledger.original upper target = some original) :
    ∃ new, readEntries after.pol = .ok new ∧
      (valueEntries upper target new).map policyData = original.data.toList := by
  rw [← Program.run_restrict (within_careful hremoves.keepsFile hkeeps.readsLedger)] at hrun
  have hwp : (removeManagedPolicyValue upper call).Wp (events upper careful)
      (RemoveStep upper careful call) store (RemovePost upper careful call store) :=
    wp_removeManagedPolicyValue
  have hpost := hwp.run_rest outcomes
  rw [hrun] at hpost
  obtain ⟨readable, hreadable, hremoved⟩ := hpost
  -- The ledger is read as it is, and its original is the one of the first replacement.
  have hrestored : call.restores upper (ledgerRead store readable) = original.data := by
    have htrue : readable = true := hreadable.elim (fun heq => heq.trans hkept.readable) id
    rw [RemoveCall.restores, hkeeps.restores, htrue]
    change (store.ledger.original upper call.target).bind Original.data = original.data
    rw [original_congr hremoves.same, (hkept.recorded before ledger hfirst).2, horiginal]
    rfl
  rw [← hrestored]
  exact value_of_left hremoves.same hremoves.regular hremoved.2

def asciiUpper (unit : UInt16) : UInt16 := if 97 ≤ unit ∧ unit ≤ 122 then unit - 32 else unit

/-- The value `A` below the key `S`. -/
def sampleTarget : Target := ⟨[83], [65]⟩

/-- A file that holds a number for the value. -/
def samplePol (number : UInt8) : Option Bytes :=
  some (content [{ dwordEntry 65 with data := [number, 0, 0, 0] }])

def sampleStore : Store where
  pol := samplePol 1
  version := some 1
  ledger := .empty
  recordedPol := none
  ledgerReadable := true
  registry _ := []
  trace := []

def sampleSet : SetCall where
  target := sampleTarget
  value := .dWord 7
  lookup := .found ⟨.localGpo, []⟩

def sampleRemove : RemoveCall where
  target := sampleTarget
  lookup := .found ⟨.localGpo, []⟩

/-- Every call succeeds. -/
def smooth (calls : Nat) : List (Outcome StoreEvent) := List.replicate calls .succeeds

/-- Another writer comes first, and the replacement of the first set fails behind the
recording. -/
def retriedHistory : List HistoryEvent :=
  [.otherWriter (samplePol 2), .set sampleSet (smooth 5 ++ [.fails]), .set sampleSet (smooth 7)]

/-- The original is recorded, and then an administrator puts another number into the file. -/
def disturbedHistory : List HistoryEvent :=
  [.set sampleSet (smooth 4 ++ .advances (.otherWriter (samplePol 2)) :: smooth 7)]

theorem fresh_sampleStore : Fresh asciiUpper sampleTarget sampleStore := ⟨rfl, rfl, rfl⟩

theorem sameTarget_sample : SameTarget asciiUpper sampleTarget sampleTarget := ⟨rfl, rfl⟩

theorem regular_sampleTarget : sampleTarget.Regular := by
  constructor
  · decide
  · decide
  · decide
  · decide

theorem within_smooth (occurs : StoreEvent → Bool) (calls : Nat) :
    ∀ outcome ∈ smooth calls, outcome.Within occurs := by
  intro outcome houtcome
  rw [List.eq_of_mem_replicate houtcome]
  trivial

theorem read_samplePol {number : UInt8}
    (hfits : (content [{ dwordEntry 65 with data := [number, 0, 0, 0] }]).length ≤ streamLimit) :
    readEntries (samplePol number) = .ok [{ dwordEntry 65 with data := [number, 0, 0, 0] }] := by
  apply convertFrom_content_of_regular _ hfits
  rw [List.forall_mem_singleton]
  have hregular := regular_dwordEntry.1
  exact ⟨hregular.key, hregular.valueName, hregular.wellFormedKey, hregular.wellFormedValueName⟩

end OpenPath.Windows.PolicyStore
