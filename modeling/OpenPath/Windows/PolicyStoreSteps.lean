/-
# What the operations of the policy store can do

Every change that setting or removing a value makes is one of a few steps. A set never
replaces `Registry.pol` without an original in the ledger, and never puts another one in the
place of an original that is there.

An operation that succeeds has either left the files alone, or its last step was the one
that tells Group Policy.
-/

import OpenPath.Windows.PolicyStoreValue

namespace OpenPath.Windows.PolicyStore

open Foundation RegistryPol Program

variable {upper : UInt16 → UInt16} {occurs : StoreEvent → Bool} {Result Value : Type}

/-- The machine on which only some events occur. -/
abbrev events (upper : UInt16 → UInt16) (occurs : StoreEvent → Bool) :
    Interface Store StoreCall StoreEvent :=
  (machine upper).restrict occurs

/-- The last thing that the store did to the files is telling Group Policy. -/
def Announced : List Trace → Prop
  | .stepped :: _ => True
  | _ => False

/-! ## Calls -/

/-- Calls during which nothing happens. -/
def StoreCall.isQuiet : StoreCall → Bool
  | .shouldProcess | .writeLedger _ | .setRegistryValue _ _ _ | .removeRegistryValue _ _ => true
  | _ => false

theorem advance_quiet {request : StoreCall} (h : request.isQuiet = true) (event : StoreEvent)
    (store : Store) : (events upper occurs).advance request event store = store := by
  change (if occurs event then (machine upper).advance request event store else store) = store
  split
  · cases request with
    | shouldProcess => cases event <;> rfl
    | writeLedger ledger => cases event <;> rfl
    | setRegistryValue key name value => cases event <;> rfl
    | removeRegistryValue key name => cases event <;> rfl
    | _ => cases h
  · rfl

/-- What `Registry.pol` can hold when it is read or checked. -/
def MayHold (occurs : StoreEvent → Bool) (store : Store) (pol : Option Bytes) : Prop :=
  pol = store.pol ∨ occurs (.otherWriter pol) = true

theorem MayHold.trans {start world : Store} {pol : Option Bytes}
    (h : MayHold occurs start world.pol) (hpol : MayHold occurs world pol) :
    MayHold occurs start pol := by
  obtain rfl | hoccurs := hpol
  · exact h
  · exact .inr hoccurs

/-- Some content was read. The files were left alone if it was as asked for, and otherwise
Group Policy was told last. -/
def Told (occurs : StoreEvent → Bool) (asked : List Entry → Prop) (before after : Store) : Prop :=
  ∃ pol entries, MayHold occurs before pol ∧ readEntries pol = .ok entries ∧
    (asked entries ∧ after.trace = before.trace ∨ ¬ asked entries ∧ Announced after.trace)

/-- Whether the ledger can be read when the lock is taken. -/
def MayRead (occurs : StoreEvent → Bool) (store : Store) (readable : Bool) : Prop :=
  readable = store.ledgerReadable ∨ occurs (.ledgerReads readable) = true

section Rules

variable {permitted : Store → Store → Prop} {store : Store}
  {post : Except (Option Result) Value → Store → Prop} {next failed : Work Result Value}
  {request : StoreCall}

theorem wp_quiet (hquiet : request.isQuiet = true) (stay : permitted store store)
    (success : ∀ after, (machine upper).perform request store = some after →
      permitted store after ∧ next.Wp (events upper occurs) permitted after post)
    (failure : failed.Wp (events upper occurs) permitted store post) :
    Wp (events upper occurs) permitted (.call request next failed) store post := by
  apply Wp.call (· = store) rfl
  · intro before event hbefore
    rw [advance_quiet hquiet, hbefore]
    exact ⟨stay, rfl⟩
  · intro before after hbefore hperform
    rw [hbefore] at hperform ⊢
    exact success after hperform
  · intro before hbefore
    rw [hbefore]
    exact failure

/-- While the file is read or checked, other writers may replace it. -/
theorem wp_reading (hrequest : request = .readPol ∨ request = .readBeforeReplace)
    (moved : ∀ first second, permitted { store with pol := first } { store with pol := second })
    (success : ∀ pol, MayHold occurs store pol →
      next.Wp (events upper occurs) permitted { store with pol } post)
    (failure : ∀ pol, failed.Wp (events upper occurs) permitted { store with pol } post) :
    Wp (events upper occurs) permitted (.call request next failed) store post := by
  apply Wp.call fun now => ∃ pol, MayHold occurs store pol ∧ now = { store with pol }
  · exact ⟨store.pol, .inl rfl, rfl⟩
  · rintro _ event ⟨pol, hpol, rfl⟩
    have hadvance : ∃ other, MayHold occurs store other ∧
        (events upper occurs).advance request event { store with pol } =
          { store with pol := other } := by
      change ∃ other, MayHold occurs store other ∧
        (if occurs event then (machine upper).advance request event { store with pol }
          else { store with pol }) = { store with pol := other }
      split
      · next hoccurs =>
          obtain rfl | rfl := hrequest
          · cases event with
            | otherWriter other => exact ⟨other, .inr hoccurs, rfl⟩
            | _ => exact ⟨pol, hpol, rfl⟩
          · cases event with
            | otherWriter other => exact ⟨other, .inr hoccurs, rfl⟩
            | _ => exact ⟨pol, hpol, rfl⟩
      · exact ⟨pol, hpol, rfl⟩
    obtain ⟨other, hother, hequal⟩ := hadvance
    rw [hequal]
    exact ⟨moved pol other, other, hother, rfl⟩
  · rintro _ after ⟨pol, hpol, rfl⟩ hperform
    have hafter : after = { store with pol } := by
      obtain rfl | rfl := hrequest
      · exact (Option.some.inj hperform).symm
      · exact (Option.some.inj hperform).symm
    rw [hafter]
    exact ⟨moved pol pol, success pol hpol⟩
  · rintro _ ⟨pol, -, rfl⟩
    exact failure pol

/-- Before the lock is taken, the ledger may become readable or unreadable. -/
theorem wp_enterLock
    (toggled : ∀ before readable, occurs (.ledgerReads readable) = true →
      permitted before { before with ledgerReadable := readable })
    (same : ∀ readable, permitted { store with ledgerReadable := readable }
      { store with ledgerReadable := readable })
    (success : ∀ readable, MayRead occurs store readable →
      next.Wp (events upper occurs) permitted { store with ledgerReadable := readable } post)
    (failure : ∀ readable, failed.Wp (events upper occurs) permitted
      { store with ledgerReadable := readable } post) :
    Wp (events upper occurs) permitted (.call .enterLock next failed) store post := by
  apply Wp.call fun now =>
    ∃ readable, MayRead occurs store readable ∧ now = { store with ledgerReadable := readable }
  · exact ⟨store.ledgerReadable, .inl rfl, rfl⟩
  · rintro _ event ⟨readable, hreadable, rfl⟩
    by_cases hoccurs : occurs event = true
    · have hadvance : (events upper occurs).advance .enterLock event
          { store with ledgerReadable := readable } =
          (machine upper).advance .enterLock event { store with ledgerReadable := readable } :=
        if_pos hoccurs
      rw [hadvance]
      cases event with
      | ledgerReads other => exact ⟨toggled _ other hoccurs, other, .inr hoccurs, rfl⟩
      | _ => exact ⟨same readable, readable, hreadable, rfl⟩
    · have hadvance : (events upper occurs).advance .enterLock event
          { store with ledgerReadable := readable } = { store with ledgerReadable := readable } :=
        if_neg hoccurs
      rw [hadvance]
      exact ⟨same readable, readable, hreadable, rfl⟩
  · rintro _ after ⟨readable, hreadable, rfl⟩ hperform
    cases hperform
    exact ⟨same readable, success readable hreadable⟩
  · rintro _ ⟨readable, -, rfl⟩
    exact failure readable

end Rules

/-! ## Saving -/

/-- What a relation permits to every operation: other files and texts, and telling Group
Policy. Where a file may be lost, it permits everything. -/
structure Permits (occurs : StoreEvent → Bool) (permitted : Store → Store → Prop) : Prop where
  refl : ∀ store, permitted store store
  pol : ∀ store pol, permitted store { store with pol }
  registry : ∀ store registry, permitted store { store with registry }
  step : ∀ store, permitted store store.step
  ledgerReads : ∀ store readable, occurs (.ledgerReads readable) = true →
    permitted store { store with ledgerReadable := readable }
  lost : occurs .lost = true → ∀ before after, permitted before after

section Saving

variable {permitted : Store → Store → Prop} {store : Store}

theorem Permits.moved (h : Permits occurs permitted) (first second : Option Bytes) :
    permitted { store with pol := first } { store with pol := second } :=
  h.pol { store with pol := first } second

/-- Only the files of the Group Policy differ. -/
structure Beside (before after : Store) : Prop where
  ledger : after.ledger = before.ledger
  ledgerReadable : after.ledgerReadable = before.ledgerReadable
  registry : after.registry = before.registry

theorem Beside.refl (store : Store) : Beside store store := ⟨rfl, rfl, rfl⟩

theorem Beside.trans {first second third : Store} (h : Beside first second)
    (hnext : Beside second third) : Beside first third :=
  ⟨hnext.ledger.trans h.ledger, hnext.ledgerReadable.trans h.ledgerReadable,
    hnext.registry.trans h.registry⟩

theorem beside_step (store : Store) : Beside store store.step := ⟨rfl, rfl, rfl⟩

theorem beside_replace (store : Store) (entries : List Entry) :
    Beside store (store.replace entries) := by
  rw [Store.replace]
  split
  · exact .refl store
  · exact ⟨rfl, rfl, rfl⟩

/-- What is left of the bump: the file as it was, and Group Policy told when it succeeds. -/
theorem wp_bumpVersion (h : Permits occurs permitted) :
    (bumpVersion : Work Result Saved).Wp (events upper occurs) permitted store
      fun outcome after => after.pol = store.pol ∧ Beside store after ∧
        ∃ code, outcome = .ok (.written code) ∧ (code = none → Announced after.trace) := by
  apply Wp.call fun now => now.pol = store.pol ∧ Beside store now
  · exact ⟨rfl, .refl store⟩
  · intro before event hbefore
    by_cases hoccurs : occurs event = true
    · have hadvance : (events upper occurs).advance .stepVersion event before =
          (machine upper).advance .stepVersion event before := if_pos hoccurs
      rw [hadvance]
      cases event with
      | stepped => exact ⟨h.step before, hbefore.1, hbefore.2.trans (beside_step before)⟩
      | _ => exact ⟨h.refl before, hbefore⟩
    · have hadvance : (events upper occurs).advance .stepVersion event before = before :=
        if_neg hoccurs
      rw [hadvance]
      exact ⟨h.refl before, hbefore⟩
  · intro before after hbefore hperform
    cases hperform
    exact ⟨h.step before, hbefore.1, hbefore.2.trans (beside_step before), none, rfl,
      fun _ => trivial⟩
  · exact fun before hbefore => ⟨hbefore.1, hbefore.2, _, rfl, fun hnone => by cases hnone⟩

theorem Store.replace_pol (store : Store) (entries : List Entry) :
    (store.replace entries).pol = some (content entries) := by
  rw [Store.replace]
  split
  · assumption
  · rfl

theorem Store.replace_replace (store : Store) (entries : List Entry) :
    (store.replace entries).replace entries = store.replace entries := by
  conv_lhs => rw [Store.replace, if_pos (store.replace_pol entries)]

/-- How saving ends. -/
def SavePost (occurs : StoreEvent → Bool) (store : Store) (base : Option Bytes)
    (entries : List Entry) : Except (Option Result) Saved → Store → Prop
  | .ok .conflict, after =>
      ∃ pol, MayHold occurs store pol ∧ pol ≠ base ∧ after = { store with pol }
  | .ok (.written code), after =>
      (after.pol = some (content entries) ∧ (content entries).length ≤ streamLimit) ∧
      Beside store after ∧ (code = none → Announced after.trace)
  | .ok (.failed _), _ => True
  | .error _, _ => False

/-- How far a replacement is: the old file, the new one, or, where a file may be lost, any. -/
structure Replacing (occurs : StoreEvent → Bool) (store : Store) (entries : List Entry)
    (now : Store) : Prop where
  beside : Beside store now
  file : now = store ∨
    (now = store.replace entries ∧ (content entries).length ≤ streamLimit) ∨ occurs .lost = true

variable {entries : List Entry}

theorem beside_advance (event : StoreEvent) (now : Store) :
    Beside now ((machine upper).advance (.replacePol entries) event now) := by
  cases event with
  | replaced =>
      by_cases hfits : (content entries).length ≤ streamLimit
      · have hevent : (machine upper).advance (.replacePol entries) .replaced now =
            now.replace entries := if_pos hfits
        rw [hevent]
        exact beside_replace now entries
      · have hevent : (machine upper).advance (.replacePol entries) .replaced now = now :=
          if_neg hfits
        rw [hevent]
        exact .refl now
  | lost => exact ⟨rfl, rfl, rfl⟩
  | _ => exact .refl now

variable {event : StoreEvent}

theorem Replacing.permits {now : Store} (h : Permits occurs permitted)
    (hreplace : (content entries).length ≤ streamLimit → permitted store (store.replace entries))
    (hnow : Replacing occurs store entries now) (hoccurs : occurs event = true) :
    permitted now ((machine upper).advance (.replacePol entries) event now) := by
  by_cases hlost : occurs .lost = true
  · exact h.lost hlost _ _
  cases event with
  | lost => exact absurd hoccurs hlost
  | replaced =>
      by_cases hfits : (content entries).length ≤ streamLimit
      · have hevent : (machine upper).advance (.replacePol entries) .replaced now =
            now.replace entries := if_pos hfits
        rw [hevent]
        obtain rfl | ⟨rfl, -⟩ | habsurd := hnow.file
        · exact hreplace hfits
        · rw [Store.replace_replace]
          exact h.refl _
        · exact absurd habsurd hlost
      · have hevent : (machine upper).advance (.replacePol entries) .replaced now = now :=
          if_neg hfits
        rw [hevent]
        exact h.refl now
  | _ => exact h.refl now

theorem Replacing.advance {now : Store} (h : Replacing occurs store entries now)
    (hoccurs : occurs event = true) :
    Replacing occurs store entries
      ((machine upper).advance (.replacePol entries) event now) := by
  refine ⟨h.beside.trans (beside_advance event now), ?_⟩
  cases event with
  | lost => exact .inr (.inr hoccurs)
  | replaced =>
      by_cases hfits : (content entries).length ≤ streamLimit
      · have hevent : (machine upper).advance (.replacePol entries) .replaced now =
            now.replace entries := if_pos hfits
        rw [hevent]
        obtain rfl | ⟨rfl, -⟩ | hlost := h.file
        · exact .inr (.inl ⟨rfl, hfits⟩)
        · rw [Store.replace_replace]
          exact .inr (.inl ⟨rfl, hfits⟩)
        · exact .inr (.inr hlost)
      · have hevent : (machine upper).advance (.replacePol entries) .replaced now = now :=
          if_neg hfits
        rw [hevent]
        exact h.file
  | _ => exact h.file

theorem wp_replacePol (base : Option Bytes) (h : Permits occurs permitted)
    (hreplace : (content entries).length ≤ streamLimit → permitted store (store.replace entries)) :
    (call (.replacePol entries) bumpVersion (.done (.failed .localGpoWriteFailed)) :
      Work Result Saved).Wp (events upper occurs) permitted store
        fun outcome after => ∃ saved, outcome = .ok saved ∧ saved ≠ .conflict ∧
          SavePost occurs store base entries (.ok saved : Except (Option Result) Saved) after := by
  -- From a file that was lost nothing is known, and everything is permitted.
  apply Wp.call (Replacing occurs store entries)
  · exact ⟨.refl store, .inl rfl⟩
  · intro before event hbefore
    by_cases hoccurs : occurs event = true
    · have hadvance : (events upper occurs).advance (.replacePol entries) event before =
          (machine upper).advance (.replacePol entries) event before := if_pos hoccurs
      rw [hadvance]
      exact ⟨hbefore.permits h hreplace hoccurs, hbefore.advance hoccurs⟩
    · have hadvance : (events upper occurs).advance (.replacePol entries) event before =
          before := if_neg hoccurs
      rw [hadvance]
      exact ⟨h.refl before, hbefore⟩
  · intro before after hbefore hperform
    have hfits : (content entries).length ≤ streamLimit := by
      by_contra hlong
      have hnone : (machine upper).perform (.replacePol entries) before = none := if_neg hlong
      have habsurd : none = some after := hnone.symm.trans hperform
      cases habsurd
    have hafter : after = before.replace entries := by
      have hsome : (machine upper).perform (.replacePol entries) before =
          some (before.replace entries) := if_pos hfits
      exact Option.some.inj (hperform.symm.trans hsome)
    constructor
    · obtain rfl | ⟨rfl, -⟩ | hlost := hbefore.file
      · exact hafter ▸ hreplace hfits
      · rw [hafter, Store.replace_replace]
        exact h.refl _
      · exact h.lost hlost _ _
    · apply (wp_bumpVersion h).mono
      rintro _ later ⟨hpol, hbeside, code, rfl, hannounced⟩
      have hconflict : Saved.written code ≠ .conflict := fun heq => by cases heq
      refine ⟨_, rfl, hconflict, ?_, ?_, hannounced⟩
      · rw [hpol, hafter, Store.replace_pol]
        exact ⟨rfl, hfits⟩
      · rw [hafter] at hbeside
        exact (hbefore.beside.trans (beside_replace before entries)).trans hbeside
  · have hconflict : Saved.failed .localGpoWriteFailed ≠ .conflict := fun heq => by cases heq
    exact fun before hbefore => ⟨_, rfl, hconflict, trivial⟩

variable {target : Target} {post : Except (Option Result) Unit → Store → Prop}

section

variable (h : Permits occurs permitted)
include h

/-- The rule for saving: the file is replaced only while it holds what was read. -/
theorem wp_saveEntries {base : Option Bytes}
    (hreplace : (content entries).length ≤ streamLimit →
      permitted { store with pol := base } ({ store with pol := base }.replace entries)) :
    (saveEntries entries base : Work Result Saved).Wp (events upper occurs) permitted store
      (SavePost occurs store base entries) := by
  apply wp_reading (.inr rfl) h.moved
  · intro pol hheld
    apply Wp.look
    split
    · next hbase =>
        have hpol : pol = base := hbase
        subst hpol
        apply (wp_replacePol pol h hreplace).mono
        rintro _ after ⟨saved, rfl, hconflict, hsaved⟩
        cases saved with
        | conflict => exact absurd rfl hconflict
        | failed code => trivial
        | written code =>
            obtain ⟨hpol, hbeside, hannounced⟩ := hsaved
            exact ⟨hpol, ⟨hbeside.ledger, hbeside.ledgerReadable, hbeside.registry⟩, hannounced⟩
    · next hbase => exact ⟨pol, hheld, hbase, rfl⟩
  · exact fun pol => trivial

/-- The rule for a snapshot: it is of a file that somebody may just have put there. -/
theorem wp_readSnapshot {unreadable : Result}
    {post : Except (Option Result) Snapshot → Store → Prop}
    (read : ∀ pol entries, MayHold occurs store pol → readEntries pol = .ok entries →
      post (.ok ⟨pol, entries⟩) { store with pol })
    (fails : ∀ pol, post (.error (some unreadable)) { store with pol }) :
    (readSnapshot unreadable : Work Result Snapshot).Wp (events upper occurs) permitted store
      post := by
  apply wp_reading (.inl rfl) h.moved
  · intro pol hheld
    apply Wp.look
    split
    · next entries hentries => exact read pol entries hheld hentries
    · exact fails pol
  · exact fails

theorem wp_setRegistryValue {value : Option RegistryValue} {failure : Result}
    (success : ∀ registry, post (.ok ()) { store with registry })
    (fails : post (.error (some failure)) store) :
    (setRegistryValue target value failure).Wp (events upper occurs) permitted store post := by
  cases value with
  | none => exact fails
  | some value =>
      apply wp_quiet rfl (h.refl store)
      · intro after hperform
        cases hperform
        exact ⟨h.registry store _, success _⟩
      · exact fails

theorem wp_forgetOriginal {ledger : Ledger}
    (hforget : ∀ ledger, permitted store (store.writeLedger ledger))
    (kept : post (.ok ()) store)
    (forgotten : ∀ ledger, post (.ok ()) (store.writeLedger ledger)) :
    (forgetOriginal upper target ledger : Work Result Unit).Wp (events upper occurs) permitted
      store post := by
  rw [forgetOriginal]
  split
  · apply wp_quiet rfl (h.refl store)
    · intro after hperform
      cases hperform
      exact ⟨hforget _, forgotten _⟩
    · exact kept
  · exact kept

end

end Saving

/-! ## Setting -/

/-- The ledger is given up, or what is in it was not read. -/
def Forgoes (call : SetCall) (store : Store) : Prop :=
  call.releaseOriginal = true ∨ store.ledgerReadable = false

/-- One change that setting a value makes. Where a file may be lost, nothing is said. -/
inductive SetStep (upper : UInt16 → UInt16) (occurs : StoreEvent → Bool) (call : SetCall) :
    Store → Store → Prop
  | lost (before after : Store) (h : occurs .lost = true) :
      SetStep upper occurs call before after
  | other (before after : Store) (htrace : after.trace = before.trace)
      (hledger : after.ledger = before.ledger)
      (hrecorded : after.recordedPol = before.recordedPol)
      (hreadable : after.ledgerReadable = before.ledgerReadable) :
      SetStep upper occurs call before after
  | ledgerReads (store : Store) (readable : Bool) (h : occurs (.ledgerReads readable) = true) :
      SetStep upper occurs call store { store with ledgerReadable := readable }
  | forgo (store : Store) (ledger : Ledger) (h : Forgoes call store) :
      SetStep upper occurs call store (store.writeLedger ledger)
  | record (store : Store) (entries : List Entry) (hread : readEntries store.pol = .ok entries)
      (h : store.ledger.original upper call.target = none) :
      SetStep upper occurs call store
        (store.writeLedger (store.ledger.setOriginal upper call.target
          (some (originalOf (entries.find? (call.target.isEntry upper))))))
  | replace (store : Store) (entries : List Entry) (hread : readEntries store.pol = .ok entries)
      (hfits : (content (setEntry upper call.target (convertToData call.value) entries)).length ≤
        streamLimit)
      (hrecorded : Forgoes call store ∨
        (store.ledger.original upper call.target).isSome = true) :
      SetStep upper occurs call store
        (store.replace (setEntry upper call.target (convertToData call.value) entries))
  | step (store : Store) : SetStep upper occurs call store store.step

variable {call : SetCall} {result : StoreResult} {store start : Store}

theorem permits_setStep : Permits occurs (SetStep upper occurs call) where
  refl store := .other store store rfl rfl rfl rfl
  pol store pol := .other store { store with pol } rfl rfl rfl rfl
  registry store registry := .other store { store with registry } rfl rfl rfl rfl
  step := .step
  ledgerReads := .ledgerReads
  lost h before after := .lost before after h

/-- What is in the ledger that the round holds. -/
def Holds (ledger : Ledger) (store : Store) : Prop :=
  ledger = store.ledger ∨ store.ledgerReadable = false

/-- Only the ledger has changed, and it has an original where one is asked for. -/
def RecordPost (upper : UInt16 → UInt16) (call : SetCall) (store : Store) :
    Except (Option StoreResult) Ledger → Store → Prop
  | .ok next, after => (∃ ledger recordedPol, after = { store with ledger, recordedPol }) ∧
      Holds next after ∧
      (Forgoes call store ∨ (after.ledger.original upper call.target).isSome = true)
  | .error _, _ => True

theorem original_setOriginal (ledger : Ledger) (target : Target) (original : Option Original) :
    (ledger.setOriginal upper target original).original upper target = original :=
  Function.update_self _ _ _

theorem wp_recordOriginal {ledger : Ledger} {entries : List Entry}
    (hread : readEntries store.pol = .ok entries) (h : Holds ledger store) :
    (recordOriginal upper call result ledger entries).Wp (events upper occurs)
      (SetStep upper occurs call) store (RecordPost upper call store) := by
  rw [recordOriginal]
  split
  · next hheld =>
      refine ⟨⟨store.ledger, store.recordedPol, rfl⟩, h, ?_⟩
      obtain hrelease | hsome := hheld
      · exact .inl (.inl hrelease)
      · obtain rfl | hunreadable := h
        · exact .inr hsome
        · exact .inl (.inr hunreadable)
  · next hmissing =>
      rw [not_or, Option.not_isSome_iff_eq_none] at hmissing
      apply wp_quiet rfl (permits_setStep.refl store)
      · intro after hperform
        cases hperform
        constructor
        · obtain rfl | hunreadable := h
          · exact .record store entries hread hmissing.2
          · exact .forgo store _ (.inr hunreadable)
        · refine ⟨⟨_, _, rfl⟩, .inl rfl, .inr ?_⟩
          change ((ledger.setOriginal upper call.target _).original upper call.target).isSome = true
          rw [original_setOriginal]
          rfl
      · trivial

/-- The entries are those that the call asks for. -/
def SetCall.Asked (upper : UInt16 → UInt16) (call : SetCall) (entries : List Entry) : Prop :=
  setEntry upper call.target (convertToData call.value) entries = entries

/-- What a round keeps. -/
def SetInv (occurs : StoreEvent → Bool) (start : Store) (state : SetState) (world : Store) :
    Prop :=
  world.trace = start.trace ∧ MayHold occurs start world.pol ∧ Holds state.ledger world

/-- What holds when the merge is over. -/
def MergePost (upper : UInt16 → UInt16) (occurs : StoreEvent → Bool) (call : SetCall)
    (start : Store) : Except (Option StoreResult) (Option Merged) → Store → Prop
  | .ok (some _), after => Told occurs (call.Asked upper) start after
  | _, _ => True

theorem wp_mergeValue {ledger : Ledger} {snapshot : Snapshot}
    (hread : readEntries snapshot.bytes = .ok snapshot.entries)
    (hinv : SetInv occurs start ⟨ledger, true⟩ store) (hpol : store.pol = snapshot.bytes) :
    (mergeValue upper call result ledger snapshot).Wp (events upper occurs)
      (SetStep upper occurs call) store
      (RoundPost (SetInv occurs start) (MergePost upper occurs call start)) := by
  obtain ⟨htrace, hheld, hledger⟩ := hinv
  have hmay : MayHold occurs start snapshot.bytes := hpol ▸ hheld
  rw [mergeValue]
  split
  · next hasked => exact ⟨snapshot.bytes, snapshot.entries, hmay, hread, .inl ⟨hasked, htrace⟩⟩
  · next hchanged =>
    apply Wp.bind
    apply (wp_recordOriginal (hpol ▸ hread) hledger).mono
    rintro (error | next) after hafter
    · trivial
    · obtain ⟨⟨recorded, recordedPol, rfl⟩, hholds, hrecorded⟩ := hafter
      apply Wp.bind
      refine (wp_saveEntries permits_setStep fun hfits => ?_).mono ?_
      · exact .replace _ _ hread hfits hrecorded
      · rintro (error | saved) later hlater
        · exact hlater.elim
        · cases saved with
          | conflict =>
              obtain ⟨pol, hmoved, -, rfl⟩ := hlater
              exact ⟨htrace, hheld.trans hmoved, hholds⟩
          | failed code => trivial
          | written code =>
              cases code with
              | some code => trivial
              | none =>
                  exact ⟨snapshot.bytes, snapshot.entries, hmay, hread,
                    .inr ⟨hchanged, hlater.2.2 rfl⟩⟩

theorem wp_setRound {state : SetState} (hinv : SetInv occurs start state store) :
    (setRound upper call result state).Wp (events upper occurs) (SetStep upper occurs call) store
      (RoundPost (SetInv occurs start) (MergePost upper occurs call start)) := by
  obtain ⟨htrace, hheld, hledger⟩ := hinv
  apply Wp.bind
  apply wp_readSnapshot permits_setStep
  · intro pol entries hmoved hread
    have hmay : MayHold occurs start ({ store with pol } : Store).pol := hheld.trans hmoved
    have hmerge : (mergeValue upper call result state.ledger ⟨pol, entries⟩).Wp
        (events upper occurs) (SetStep upper occurs call) { store with pol }
        (RoundPost (SetInv occurs start) (MergePost upper occurs call start)) :=
      wp_mergeValue hread ⟨htrace, hmay, hledger⟩ rfl
    apply Wp.bind
    rw [confirm]
    split
    · exact hmerge
    · apply wp_quiet rfl (permits_setStep.refl _)
      · intro after hperform
        cases hperform
        exact ⟨permits_setStep.refl _, hmerge⟩
      · trivial
  · exact fun pol => trivial

/-- Success says that Group Policy was told of every change. -/
def SetPost (upper : UInt16 → UInt16) (occurs : StoreEvent → Bool) (call : SetCall)
    (start : Store) : Except (Option StoreResult) StoreResult → Store → Prop
  | .ok _, after => Told occurs (call.Asked upper) start after
  | .error _, _ => True

theorem wp_finishSet {merged : Option Merged}
    (h : MergePost upper occurs call start (.ok merged) store) :
    (finishSet upper call result merged).Wp (events upper occurs) (SetStep upper occurs call)
      store (SetPost upper occurs call start) := by
  cases merged with
  | none => trivial
  | some merged =>
      apply Wp.bind
      apply wp_setRegistryValue permits_setStep
      · intro registry
        apply Wp.bind
        rw [releaseOriginal]
        split
        · next hrelease =>
            apply wp_forgetOriginal permits_setStep
            · exact fun ledger => .forgo _ _ (.inl hrelease)
            · exact h
            · exact fun ledger => h
        · exact h
      · trivial

theorem wp_setManagedPolicyValue :
    (setManagedPolicyValue upper call).Wp (events upper occurs) (SetStep upper occurs call) store
      (SetPost upper occurs call store) := by
  apply wp_enterLock permits_setStep.ledgerReads
    (fun readable => permits_setStep.refl _)
  · intro readable _
    split
    · trivial
    · next gate hgate =>
        rw [setBehindGate]
        split
        · trivial
        · apply Wp.observe
          apply Wp.bind
          have hheld : SetInv occurs store ⟨if readable then store.ledger else .empty, false⟩
              { store with ledgerReadable := readable } := by
            refine ⟨rfl, .inl rfl, ?_⟩
            cases readable with
            | true => exact .inl rfl
            | false => exact .inr rfl
          refine (Wp.retry (fun state world hinv => wp_setRound hinv)
            (fun state world hinv => trivial) maxWriteAttempts hheld).mono ?_
          rintro (error | merged) after hafter
          · trivial
          · exact wp_finishSet hafter
  · exact fun readable => trivial

/-! ## Removing -/

/-- One change that removing a value makes. -/
inductive RemoveStep (upper : UInt16 → UInt16) (occurs : StoreEvent → Bool) (call : RemoveCall) :
    Store → Store → Prop
  | lost (before after : Store) (h : occurs .lost = true) :
      RemoveStep upper occurs call before after
  | other (before after : Store) (htrace : after.trace = before.trace)  :
      RemoveStep upper occurs call before after
  | replace (store : Store) (restored : Option PolicyData) (entries : List Entry)
      (hread : readEntries store.pol = .ok entries)
      (hfits : (content (keptEntries upper call.target restored entries)).length ≤ streamLimit) :
      RemoveStep upper occurs call store
        (store.replace (keptEntries upper call.target restored entries))
  | step (store : Store) : RemoveStep upper occurs call store store.step

section Removing

variable {call : RemoveCall} {restored : Option PolicyData} {store start : Store}

theorem permits_removeStep : Permits occurs (RemoveStep upper occurs call) where
  refl store := .other store store rfl
  pol store pol := .other store { store with pol } rfl
  registry store registry := .other store { store with registry } rfl
  step := .step
  ledgerReads store readable _ := .other store { store with ledgerReadable := readable } rfl
  lost h before after := .lost before after h

/-- The file holds what is kept of some entries. -/
def Left (upper : UInt16 → UInt16) (call : RemoveCall) (restored : Option PolicyData)
    (store : Store) : Prop :=
  ∃ pol entries, readEntries pol = .ok entries ∧
    (keptEntries upper call.target restored entries = entries ∧ store.pol = pol ∨
      store.pol = some (content (keptEntries upper call.target restored entries)) ∧
        (content (keptEntries upper call.target restored entries)).length ≤ streamLimit)

/-- The entries are those that the removal leaves. -/
def RemoveCall.Asked (upper : UInt16 → UInt16) (call : RemoveCall) (restored : Option PolicyData)
    (entries : List Entry) : Prop :=
  keptEntries upper call.target restored entries = entries

/-- A result of the merge, or of the whole, and what was done. -/
def Removed (upper : UInt16 → UInt16) (occurs : StoreEvent → Bool) (call : RemoveCall)
    (restored : Option PolicyData) (start : Store) (result : RemoveResult) (after : Store) : Prop :=
  (result.failureCode = none → Told occurs (call.Asked upper restored) start after) ∧
    Left upper call restored after

/-- What a round of a removal starts from. -/
def RemoveInv (occurs : StoreEvent → Bool) (start world : Store) : Prop :=
  world.trace = start.trace ∧ MayHold occurs start world.pol

/-- What holds when the merge is over. -/
def RemovedPost (upper : UInt16 → UInt16) (occurs : StoreEvent → Bool) (call : RemoveCall)
    (restored : Option PolicyData) (start : Store) :
    Except (Option RemoveResult) (Option RemoveResult) → Store → Prop
  | .ok (some result), after => Removed upper occurs call restored start result after
  | _, _ => True

theorem wp_removeRound (hinv : RemoveInv occurs start store) :
    (removeRound upper call restored ()).Wp (events upper occurs) (RemoveStep upper occurs call)
      store (RoundPost (fun _ => RemoveInv occurs start)
        (RemovedPost upper occurs call restored start)) := by
  obtain ⟨htrace, hpol⟩ := hinv
  apply Wp.bind
  apply wp_readSnapshot permits_removeStep
  · intro pol entries hmoved hread
    have hmay : MayHold occurs start ({ store with pol } : Store).pol := hpol.trans hmoved
    change Wp _ _ (mergeRemoved upper call restored ⟨pol, entries⟩) _ _
    rw [mergeRemoved]
    split
    · next hsame =>
        exact ⟨fun _ => ⟨pol, entries, hmay, hread, .inl ⟨hsame, htrace⟩⟩,
          ⟨pol, entries, hread, .inl ⟨hsame, rfl⟩⟩⟩
    · next hchanged =>
      apply Wp.bind
      refine (wp_saveEntries permits_removeStep fun hfits => ?_).mono ?_
      · exact .replace _ restored entries hread hfits
      · rintro (error | saved) later hlater
        · exact hlater.elim
        · cases saved with
          | conflict =>
              obtain ⟨other, hother, -, rfl⟩ := hlater
              exact ⟨htrace, hmay.trans hother⟩
          | failed code => trivial
          | written code =>
              obtain ⟨hpol, -, htold⟩ := hlater
              exact ⟨fun hnone => ⟨pol, entries, hmay, hread, .inr ⟨hchanged, htold hnone⟩⟩,
                ⟨pol, entries, hread, .inr hpol⟩⟩
  · exact fun pol => trivial

/-- What is done to the registry leaves the files. -/
def MirrorPost (upper : UInt16 → UInt16) (occurs : StoreEvent → Bool) (call : RemoveCall)
    (restored : Option PolicyData) (start : Store) :
    Except (Option RemoveResult) RemoveResult → Store → Prop
  | .ok result, after => Removed upper occurs call restored start result after
  | .error _, _ => True

variable {result : RemoveResult}

theorem wp_clearMirror (h : Removed upper occurs call restored start result store) :
    (clearMirror upper call result).Wp (events upper occurs) (RemoveStep upper occurs call) store
      (MirrorPost upper occurs call restored start) := by
  rw [clearMirror]
  split
  · exact h
  · apply Wp.look
    split
    · apply wp_quiet rfl (permits_removeStep.refl store)
      · intro after hperform
        cases hperform
        exact ⟨permits_removeStep.registry store _, h⟩
      · trivial
    · exact h

theorem wp_mirrorRemoved (h : Removed upper occurs call restored start result store) :
    (mirrorRemoved upper call restored result).Wp (events upper occurs)
      (RemoveStep upper occurs call) store (MirrorPost upper occurs call restored start) := by
  cases restored with
  | none => exact wp_clearMirror h
  | some data =>
      rw [mirrorRemoved]
      split
      · trivial
      · split
        · apply Wp.bind
          apply wp_setRegistryValue permits_removeStep
          · exact fun registry => h
          · trivial
        · exact wp_clearMirror h

/-- The ledger that is read. -/
def ledgerRead (store : Store) (readable : Bool) : Ledger :=
  if readable then store.ledger else .empty

/-- With a result, the value is removed; it says whether Group Policy was told. -/
def RemovePost (upper : UInt16 → UInt16) (occurs : StoreEvent → Bool) (call : RemoveCall)
    (start : Store) : Except (Option RemoveResult) RemoveResult → Store → Prop
  | .ok result, after => ∃ readable, MayRead occurs start readable ∧
      Removed upper occurs call (call.restores upper (ledgerRead start readable)) start result after
  | .error _, _ => True

theorem wp_finishRemove {ledger : Ledger} {merged : Option RemoveResult}
    (h : RemovedPost upper occurs call restored start (.ok merged) store) :
    (finishRemove upper call ledger restored merged).Wp (events upper occurs)
      (RemoveStep upper occurs call) store (MirrorPost upper occurs call restored start) := by
  cases merged with
  | none => trivial
  | some result =>
      apply Wp.bind
      apply (wp_mirrorRemoved h).mono
      rintro (error | mirrored) after hafter
      · trivial
      · apply Wp.bind
        apply wp_forgetOriginal permits_removeStep
        · exact fun ledger => .other _ _ rfl
        · exact hafter
        · exact fun ledger => hafter

theorem wp_removeManagedPolicyValue :
    (removeManagedPolicyValue upper call).Wp (events upper occurs) (RemoveStep upper occurs call)
      store (RemovePost upper occurs call store) := by
  apply wp_enterLock permits_removeStep.ledgerReads
    (fun readable => permits_removeStep.refl _)
  · intro readable hreadable
    split
    · trivial
    · split
      · trivial
      · apply Wp.observe
        apply Wp.bind
        have hround : ∀ (state : Unit) (world : Store), RemoveInv occurs store world →
            (removeRound upper call (call.restores upper (ledgerRead store readable)) state).Wp
              (events upper occurs) (RemoveStep upper occurs call) world
              (RoundPost (fun _ => RemoveInv occurs store)
                (RemovedPost upper occurs call
                  (call.restores upper (ledgerRead store readable)) store)) :=
          fun _ _ hinv => wp_removeRound hinv
        have hstart : RemoveInv occurs store { store with ledgerReadable := readable } :=
          ⟨rfl, .inl rfl⟩
        apply (Wp.retry hround (fun _ _ _ => trivial) maxWriteAttempts hstart).mono
        rintro (error | merged) after hafter
        · trivial
        · apply (wp_finishRemove hafter).mono
          rintro (error | result) later hlater
          · trivial
          · exact ⟨readable, hreadable, hlater⟩
  · exact fun readable => trivial

end Removing

end OpenPath.Windows.PolicyStore
