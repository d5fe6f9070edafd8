/-
# What the operations on lists leave

A list that was synchronised is the plan for the entries that the last round has read. The
ledger lists, on the way there, old and new texts, and in the end the new ones, or still all
of them. The registry is what the differences make of it.
-/

import OpenPath.Windows.PolicyStoreList
import OpenPath.Windows.PolicyStoreSteps

namespace OpenPath.Windows.PolicyStore

open Foundation RegistryPol Program

variable {characters : Characters} {occurs : StoreEvent → Bool} {store start : Store}

/-! ## Texts -/

/-- Whether a list of texts has one, up to capitals. -/
def Has (characters : Characters) (set : List Utf16) (text : Utf16) : Prop :=
  testPolicyValueInSet characters.upper set (some text) = true

variable {set : List Utf16} {text : Utf16}

theorem has_iff : Has characters set text ↔
    ∃ item ∈ set, fold characters.upper item = fold characters.upper text := by
  simp [Has, testPolicyValueInSet, testPolicyNameEqual]

theorem has_append {first second : List Utf16} {text : Utf16} :
    Has characters (first ++ second) text ↔
      Has characters first text ∨ Has characters second text := by
  simp only [has_iff, List.mem_append, or_and_right, exists_or]

theorem has_singleton {item : Utf16} : Has characters [item] text ↔
    fold characters.upper item = fold characters.upper text := by
  rw [has_iff]
  constructor
  · rintro ⟨other, hother, heq⟩
    rwa [List.mem_singleton.mp hother] at heq
  · exact fun heq => ⟨item, List.mem_singleton_self item, heq⟩

theorem has_congr {other : Utf16} (h : fold characters.upper text = fold characters.upper other) :
    Has characters set text ↔ Has characters set other := by
  rw [has_iff, has_iff, h]

theorem has_of_mem (h : text ∈ set) : Has characters set text :=
  has_iff.mpr ⟨text, h, rfl⟩

theorem has_unionOwned {stored new : List Utf16} :
    Has characters (unionOwned characters stored new) text ↔
      Has characters stored text ∨ Has characters new text := by
  rw [unionOwned]
  induction new generalizing stored with
  | nil => simp [has_iff]
  | cons value new ih =>
      have hcons : Has characters (value :: new) text ↔
          Has characters [value] text ∨ Has characters new text :=
        @has_append characters [value] new text
      rw [List.foldl_cons, ih, hcons]
      split
      · next hheld =>
          constructor
          · exact fun h => h.imp id Or.inr
          · rintro (h | h | h)
            · exact .inl h
            · exact .inl ((has_congr (has_singleton.mp h)).mp hheld)
            · exact .inr h
      · rw [has_append, or_assoc]

theorem isPrefix_unionOwned (stored new : List Utf16) :
    stored <+: unionOwned characters stored new := by
  rw [unionOwned]
  induction new generalizing stored with
  | nil => exact List.prefix_refl stored
  | cons value new ih =>
      rw [List.foldl_cons]
      split
      · exact ih stored
      · exact (List.prefix_append stored [value]).trans (ih _)

/-- A union that has not grown is what was stored. -/
theorem unionOwned_eq_of_length {stored new : List Utf16}
    (h : (unionOwned characters stored new).length = stored.length) :
    unionOwned characters stored new = stored :=
  ((isPrefix_unionOwned stored new).eq_of_length h.symm).symm

/-! ## The loop -/

/-- Nobody else replaces the file. -/
def Quiet (occurs : StoreEvent → Bool) : Prop := ∀ pol, occurs (.otherWriter pol) = false

/-- The texts that the ledger lists while the list is synchronised: the old ones, and of the
requested ones those that a round was about to write. -/
structure Stored (characters : Characters) (owned requested stored : List Utf16) : Prop where
  old : ∀ text, Has characters owned text → Has characters stored text
  new : ∀ text, Has characters stored text →
    Has characters owned text ∨ Has characters requested text

theorem Stored.refl (owned requested : List Utf16) : Stored characters owned requested owned :=
  ⟨fun _ h => h, fun _ h => .inl h⟩

theorem newOwned_subset (foreign requested : List Utf16) :
    newOwned characters foreign requested ⊆ requested := by
  have hfold : ∀ values owned : List Utf16, values.foldl
      (fun owned value =>
        if testPolicyValueInSet characters.upper foreign (some value) then owned
        else if testPolicyValueInSet characters.upper owned (some value) then owned
        else owned ++ [value]) owned ⊆ owned ++ values := by
    intro values
    induction values with
    | nil => simp
    | cons value values ih =>
        intro owned text htext
        rw [List.foldl_cons] at htext
        have hmem := ih _ htext
        have hskip : text ∈ owned ++ values → text ∈ owned ++ value :: values := by
          simp only [List.mem_append, List.mem_cons]
          exact fun h => h.imp id Or.inr
        split at hmem
        · exact hskip hmem
        · split at hmem
          · exact hskip hmem
          · rwa [List.append_assoc, List.singleton_append] at hmem
  exact hfold requested []

/-- What the ledger that was read lists for a key. -/
def ownedTexts (characters : Characters) (ledger : Ledger) (key : Utf16) : List Utf16 :=
  (ledger.list characters.upper key).getD []

theorem ownedTexts_setList (ledger : Ledger) (key : Utf16) (values : Option (List Utf16)) :
    ownedTexts characters (ledger.setList characters.upper key values) key = values.getD [] :=
  congrArg (·.getD []) (Function.update_self (fold characters.upper key) values ledger.lists)

/-- What a round starts from. -/
structure SyncInv (characters : Characters) (occurs : StoreEvent → Bool) (call : SyncCall)
    (owned : List Utf16) (start : Store) (state : SyncState) (world : Store) : Prop where
  trace : world.trace = start.trace
  readable : world.ledgerReadable = start.ledgerReadable
  registry : world.registry = start.registry
  pol : MayHold occurs start world.pol
  ledger : Holds state.ledger world
  listed : world.ledgerReadable = true →
    ownedTexts characters world.ledger call.key = state.storedOwned
  stored : Stored characters owned call.values state.storedOwned
  quiet : Quiet occurs → state.storedOwned = owned

/-- The entries are those that the call asks for. -/
def SyncCall.Asked (characters : Characters) (call : SyncCall) (owned : List Utf16)
    (entries : List Entry) : Prop :=
  (listPlan characters call.key owned call.values entries).entries = entries

/-- What the loop leaves. -/
structure SyncedBy (characters : Characters) (occurs : StoreEvent → Bool) (call : SyncCall)
    (owned : List Utf16) (start : Store) (synced : Synced) (after : Store) : Prop where
  told : Told occurs (call.Asked characters owned) start after
  readable : after.ledgerReadable = start.ledgerReadable
  registry : after.registry = start.registry
  merge : ∃ pol entries, MayHold occurs start pol ∧ readEntries pol = .ok entries ∧
    synced.plan = listPlan characters call.key owned call.values entries ∧
    (synced.plan.entries = entries ∧ after.pol = pol ∨
      synced.plan.entries ≠ entries ∧ after.pol = some (content synced.plan.entries) ∧
        (content synced.plan.entries).length ≤ streamLimit)
  ledger : Holds synced.ledger after
  listed : after.ledgerReadable = true →
    ownedTexts characters after.ledger call.key = synced.storedOwned
  stored : Stored characters owned call.values synced.storedOwned
  new : ∀ text, Has characters synced.plan.owned text → Has characters synced.storedOwned text
  quiet : Quiet occurs → ∀ text, Has characters synced.storedOwned text →
    Has characters owned text ∨ Has characters synced.plan.owned text

/-- What holds when the loop is over. -/
def SyncedPost (characters : Characters) (occurs : StoreEvent → Bool) (call : SyncCall)
    (owned : List Utf16) (start : Store) :
    Except (Option StoreResult) (Option Synced) → Store → Prop
  | .ok (some synced), after => SyncedBy characters occurs call owned start synced after
  | _, _ => True

/-- The lists are asked what they leave, so every step is permitted. -/
theorem permits_true : Permits occurs fun _ _ => True :=
  ⟨fun _ => trivial, fun _ _ => trivial, fun _ _ => trivial, fun _ => trivial,
    fun _ _ _ => trivial, fun _ _ _ => trivial⟩

section Loop

variable {call : SyncCall} {owned : List Utf16} {result : StoreResult} {state : SyncState}

/-- What the ledger holds before the file may be written. -/
structure Recorded (characters : Characters) (occurs : StoreEvent → Bool) (call : SyncCall)
    (owned : List Utf16) (start before : Store) (plan : ListPlan) (state : SyncState)
    (after : Store) : Prop where
  file : after.pol = before.pol
  trace : after.trace = start.trace
  readable : after.ledgerReadable = start.ledgerReadable
  registry : after.registry = start.registry
  ledger : Holds state.ledger after
  listed : after.ledgerReadable = true →
    ownedTexts characters after.ledger call.key = state.storedOwned
  stored : Stored characters owned call.values state.storedOwned
  new : ∀ text, Has characters plan.owned text → Has characters state.storedOwned text
  quiet : Quiet occurs → ∀ text, Has characters state.storedOwned text →
    Has characters owned text ∨ Has characters plan.owned text

variable {plan : ListPlan}

section

variable (h : SyncInv characters occurs call owned start state store)
include h

theorem wp_storeUnion (hplan : plan.owned ⊆ call.values) :
    (storeUnion characters call result state plan).Wp (events characters.upper occurs)
      (fun _ _ => True) store fun outcome after =>
        match outcome with
        | .ok next => Recorded characters occurs call owned start store plan next after
        | .error _ => True := by
  have hunion : ∀ text, Has characters (unionOwned characters state.storedOwned plan.owned) text ↔
      Has characters state.storedOwned text ∨ Has characters plan.owned text :=
    fun text => has_unionOwned
  have hrequested : ∀ text, Has characters plan.owned text → Has characters call.values text := by
    intro text htext
    obtain ⟨item, hitem, heq⟩ := has_iff.mp htext
    exact has_iff.mpr ⟨item, hplan hitem, heq⟩
  have hstored : Stored characters owned call.values
      (unionOwned characters state.storedOwned plan.owned) := by
    constructor
    · exact fun text htext => (hunion text).mpr (.inl (h.stored.old text htext))
    · intro text htext
      obtain hold | hnew := (hunion text).mp htext
      · exact h.stored.new text hold
      · exact .inr (hrequested text hnew)
  have hquiet : Quiet occurs → ∀ text,
      Has characters (unionOwned characters state.storedOwned plan.owned) text →
        Has characters owned text ∨ Has characters plan.owned text := by
    intro hquiet text htext
    rw [hunion, h.quiet hquiet] at htext
    exact htext
  rw [storeUnion]
  split
  · next hlength =>
      have hsame := unionOwned_eq_of_length hlength
      rw [hsame] at hunion hquiet
      exact ⟨rfl, h.trace, h.readable, h.registry, h.ledger, h.listed, h.stored,
        fun text htext => (hunion text).mpr (.inr htext), hquiet⟩
  · apply wp_quiet rfl trivial
    · intro after hperform
      cases hperform
      refine ⟨trivial, rfl, h.trace, h.readable, h.registry, .inl rfl, fun _ => ?_, hstored,
        fun text htext => (hunion text).mpr (.inr htext), hquiet⟩
      exact ownedTexts_setList _ _ _
    · trivial

theorem wp_mergeList {snapshot : Snapshot} (hpol : store.pol = snapshot.bytes)
    (hread : readEntries snapshot.bytes = .ok snapshot.entries)
    (hplan : plan = listPlan characters call.key owned call.values snapshot.entries) :
    (mergeList characters call result state snapshot plan).Wp (events characters.upper occurs)
      (fun _ _ => True) store
      (RoundPost (SyncInv characters occurs call owned start)
        (SyncedPost characters occurs call owned start)) := by
  have hsubset : plan.owned ⊆ call.values := by
    rw [hplan]
    exact newOwned_subset _ _
  have hmerge : ∀ (next : SyncState) (world : Store),
      Recorded characters occurs call owned start store plan next world →
      (if plan.entries = snapshot.entries then
          (.done (.ends ⟨next.ledger, next.storedOwned, plan, false⟩) :
            Work StoreResult (Round SyncState Synced))
        else do
          let saved ← saveEntries plan.entries snapshot.bytes
          afterSync result next plan saved).Wp (events characters.upper occurs)
        (fun _ _ => True) world
        (RoundPost (SyncInv characters occurs call owned start)
          (SyncedPost characters occurs call owned start)) := by
    intro next world hworld
    have hheld : MayHold occurs start snapshot.bytes := hpol ▸ h.pol
    split
    · next hsame =>
        refine ⟨⟨snapshot.bytes, snapshot.entries, hheld, hread, .inl ⟨?_, hworld.trace⟩⟩,
          hworld.readable, hworld.registry, ?_, hworld.ledger,
          hworld.listed, hworld.stored, hworld.new, hworld.quiet⟩
        · rwa [SyncCall.Asked, ← hplan]
        exact ⟨snapshot.bytes, snapshot.entries, hheld, hread, hplan,
          .inl ⟨hsame, hworld.file.trans hpol⟩⟩
    · next hchanged =>
      apply Wp.bind
      apply (wp_saveEntries permits_true fun _ => trivial).mono
      rintro (error | saved) later hlater
      · exact hlater.elim
      · cases saved with
        | conflict =>
            obtain ⟨pol, hmay, hmoves, rfl⟩ := hlater
            have hmoved := (hworld.file ▸ h.pol : MayHold occurs start world.pol).trans hmay
            refine ⟨hworld.trace, hworld.readable, hworld.registry, hmoved, hworld.ledger,
              hworld.listed, hworld.stored, fun hquiet => ?_⟩
            -- Without another writer there is no conflict.
            obtain hsame | hoccurs := hmay
            · exact absurd (hsame.trans (hworld.file.trans hpol)) hmoves
            · rw [hquiet pol] at hoccurs
              cases hoccurs
        | failed code => trivial
        | written code =>
            obtain ⟨hfile, hbeside, htold⟩ := hlater
            cases code with
            | some code => trivial
            | none =>
                refine ⟨⟨snapshot.bytes, snapshot.entries, hheld, hread, .inr ⟨?_, htold rfl⟩⟩,
                  hbeside.ledgerReadable.trans hworld.readable,
                  hbeside.registry.trans hworld.registry, ?_, ?_, ?_, hworld.stored, hworld.new,
                  hworld.quiet⟩
                · rwa [SyncCall.Asked, ← hplan]
                · exact ⟨snapshot.bytes, snapshot.entries, hheld, hread, hplan,
                    .inr ⟨hchanged, hfile⟩⟩
                · rw [Holds, hbeside.ledger, hbeside.ledgerReadable]
                  exact hworld.ledger
                · rw [hbeside.ledger, hbeside.ledgerReadable]
                  exact hworld.listed
  have hrest : (do
      let next ← storeUnion characters call result state plan
      if plan.entries = snapshot.entries then
        (.done (.ends ⟨next.ledger, next.storedOwned, plan, false⟩) :
          Work StoreResult (Round SyncState Synced))
      else do
        let saved ← saveEntries plan.entries snapshot.bytes
        afterSync result next plan saved).Wp (events characters.upper occurs)
      (fun _ _ => True) store
      (RoundPost (SyncInv characters occurs call owned start)
        (SyncedPost characters occurs call owned start)) := by
    apply Wp.bind
    apply (wp_storeUnion h hsubset).mono
    rintro (error | next) after hafter
    · trivial
    · exact hmerge next after hafter
  apply Wp.bind
  rw [confirm]
  split
  · exact hrest
  · apply wp_quiet rfl trivial
    · intro after hperform
      cases hperform
      exact ⟨trivial, hrest⟩
    · trivial

theorem wp_syncRound :
    (syncRound characters call owned result state).Wp (events characters.upper occurs)
      (fun _ _ => True) store
      (RoundPost (SyncInv characters occurs call owned start)
        (SyncedPost characters occurs call owned start)) := by
  apply Wp.bind
  apply wp_readSnapshot permits_true
  · intro pol entries hheld hread
    change Wp _ _ (if _ then _ else _) _ _
    split
    · apply wp_mergeList _ rfl hread rfl
      exact ⟨h.trace, h.readable, h.registry, h.pol.trans hheld, h.ledger, h.listed, h.stored,
        h.quiet⟩
    · trivial
  · exact fun pol => trivial

end

end Loop

/-! ## The registry -/

def numberedProperties (characters : Characters) (properties : List Property) : List Property :=
  properties.filter fun property => isNumbered characters property.name

def withoutProperties (upper : UInt16 → UInt16) (properties surplus : List Property) :
    List Property :=
  surplus.foldl (fun properties property => removeProperty upper property.name properties)
    properties

def withProperties (upper : UInt16 → UInt16) (properties desired : List Property) :
    List Property :=
  desired.foldl
    (fun properties property => setProperty upper property.name property.value properties)
    properties

/-- The values of a key after the differences. -/
def mirrored (characters : Characters) (call : SyncCall) (union : List Utf16)
    (desired properties : List Property) : List Property :=
  withProperties characters.upper
    (withoutProperties characters.upper properties
      ((numberedProperties characters properties).filter
        (isSurplus characters call union desired)))
    (desired.filter fun property =>
      !isCurrent characters (numberedProperties characters properties) property)

section

variable (upper : UInt16 → UInt16) (key : Utf16)

theorem properties_setProperties (properties : List Property) :
    (store.setProperties upper key properties).properties upper key = properties :=
  Function.update_self _ _ _

theorem setProperties_setProperties (first second : List Property) :
    (store.setProperties upper key first).setProperties upper key second =
      store.setProperties upper key second := by
  rw [Store.setProperties, Store.setProperties, Store.setProperties]
  exact congrArg (fun registry => ({ store with registry } : Store)) (Function.update_idem _ _ _)

theorem setProperties_properties :
    store.setProperties upper key (store.properties upper key) = store := by
  have hsame : Function.update store.registry (foldKey upper key)
      (store.properties upper key) = store.registry := Function.update_eq_self _ _
  rw [Store.setProperties, hsame]

end

variable {key : Utf16}

/-- A loop of calls, each of which changes the values of one key. -/
theorem wp_forEach_properties {items : List Property} {body : Property → Work StoreResult Unit}
    (change_ : Property → List Property → List Property)
    (hbody : ∀ item world, (body item).Wp (events characters.upper occurs) (fun _ _ => True) world
      fun outcome after => outcome = .ok () → after = world.setProperties characters.upper key
        (change_ item (world.properties characters.upper key))) :
    (forEach items body).Wp (events characters.upper occurs) (fun _ _ => True) store
      fun outcome after => outcome = .ok () → after = store.setProperties characters.upper key
        (items.foldl (fun properties item => change_ item properties)
          (store.properties characters.upper key)) := by
  induction items generalizing store with
  | nil => exact fun _ => (setProperties_properties _ _).symm
  | cons item items ih =>
      apply Wp.bind
      apply (hbody item store).mono
      rintro (error | done) middle hmiddle
      · exact fun habsurd => by cases habsurd
      · apply ih.mono
        intro outcome after hafter hok
        rw [hafter hok, hmiddle rfl, properties_setProperties, setProperties_setProperties,
          List.foldl_cons]

variable {result : StoreResult}

theorem wp_removeSurplus (property : Property) (world : Store) :
    (removeSurplus key result property).Wp (events characters.upper occurs) (fun _ _ => True) world
      fun outcome after => outcome = .ok () → after = world.setProperties characters.upper key
        (removeProperty characters.upper property.name
          (world.properties characters.upper key)) := by
  apply wp_quiet rfl trivial
  · intro after hperform
    cases hperform
    exact ⟨trivial, fun _ => rfl⟩
  · exact fun habsurd => by cases habsurd

theorem wp_setDesired (property : Property) (world : Store) :
    (setDesired key result property).Wp (events characters.upper occurs) (fun _ _ => True) world
      fun outcome after => outcome = .ok () → after = world.setProperties characters.upper key
        (setProperty characters.upper property.name property.value
          (world.properties characters.upper key)) := by
  apply wp_quiet rfl trivial
  · intro after hperform
    cases hperform
    exact ⟨trivial, fun _ => rfl⟩
  · exact fun habsurd => by cases habsurd

variable {call : SyncCall} {synced : Synced}

theorem wp_mirrorList :
    (mirrorList characters call result synced).Wp (events characters.upper occurs)
      (fun _ _ => True) store fun outcome after => outcome = .ok () →
        ∃ desired, desiredProperties characters call.key synced.plan.entries = some desired ∧
          after = store.setProperties characters.upper call.key
            (mirrored characters call synced.storedOwned desired
              (store.properties characters.upper call.key)) := by
  rw [mirrorList]
  split
  · exact fun habsurd => by cases habsurd
  · next desired hdesired =>
      apply Wp.observe
      apply Wp.bind
      refine (wp_forEach_properties (fun property properties =>
        removeProperty characters.upper property.name properties) wp_removeSurplus).mono ?_
      rintro (error | done) middle hmiddle
      · exact fun habsurd => by cases habsurd
      · refine (wp_forEach_properties (fun property properties =>
          setProperty characters.upper property.name property.value properties) wp_setDesired).mono ?_
        intro outcome after hafter hok
        refine ⟨desired, hdesired, ?_⟩
        rw [hafter hok, hmiddle rfl, properties_setProperties, setProperties_setProperties]
        rfl

/-! ## The whole operation -/

/-- What a list that was synchronised leaves. -/
structure SyncEnds (characters : Characters) (occurs : StoreEvent → Bool) (call : SyncCall)
    (owned : List Utf16) (start : Store) (plan : ListPlan) (union : List Utf16) (after : Store) :
    Prop where
  told : Told occurs (call.Asked characters owned) start after
  readable : after.ledgerReadable = start.ledgerReadable
  merge : ∃ pol entries, MayHold occurs start pol ∧ readEntries pol = .ok entries ∧
    plan = listPlan characters call.key owned call.values entries ∧
    (plan.entries = entries ∧ after.pol = pol ∨
      plan.entries ≠ entries ∧ after.pol = some (content plan.entries) ∧
        (content plan.entries).length ≤ streamLimit)
  mirror : ∃ desired, desiredProperties characters call.key plan.entries = some desired ∧
    after.registry = (start.setProperties characters.upper call.key
      (mirrored characters call union desired
        (start.properties characters.upper call.key))).registry
  stored : Stored characters owned call.values union
  new : ∀ text, Has characters plan.owned text → Has characters union text
  quiet : Quiet occurs → ∀ text, Has characters union text →
    Has characters owned text ∨ Has characters plan.owned text
  listed : after.ledgerReadable = true →
    (∀ text, Has characters plan.owned text →
      Has characters (ownedTexts characters after.ledger call.key) text) ∧
    ∀ text, Has characters (ownedTexts characters after.ledger call.key) text →
      Has characters union text

/-- Success, and with which ledger. -/
def SyncPost (characters : Characters) (occurs : StoreEvent → Bool) (call : SyncCall)
    (start : Store) : Except (Option StoreResult) StoreResult → Store → Prop
  | .ok _, after => ∃ readable plan union, MayRead occurs start readable ∧
      SyncEnds characters occurs call
        (ownedTexts characters (ledgerRead start readable) call.key)
        { start with ledgerReadable := readable } plan union after
  | .error _, _ => True

/-- The same, when it is known which ledger is read. -/
def SyncEndsPost (characters : Characters) (occurs : StoreEvent → Bool) (call : SyncCall)
    (owned : List Utf16) (start : Store) :
    Except (Option StoreResult) StoreResult → Store → Prop
  | .ok _, after => ∃ plan union, SyncEnds characters occurs call owned start plan union after
  | .error _, _ => True

theorem wp_narrowLedger
    (hnew : ∀ text, Has characters synced.plan.owned text → Has characters synced.storedOwned text)
    (hlisted : store.ledgerReadable = true →
      ownedTexts characters store.ledger call.key = synced.storedOwned) :
    (narrowLedger characters call synced).Wp (events characters.upper occurs) (fun _ _ => True)
      store fun _ after => ∃ ledger recordedPol, after = { store with ledger, recordedPol } ∧
        (store.ledgerReadable = true →
          (∀ text, Has characters synced.plan.owned text →
            Has characters (ownedTexts characters ledger call.key) text) ∧
          ∀ text, Has characters (ownedTexts characters ledger call.key) text →
            Has characters synced.storedOwned text) := by
  have hkept : store.ledgerReadable = true →
      (∀ text, Has characters synced.plan.owned text →
        Has characters (ownedTexts characters store.ledger call.key) text) ∧
      ∀ text, Has characters (ownedTexts characters store.ledger call.key) text →
        Has characters synced.storedOwned text := by
    intro hreadable
    rw [hlisted hreadable]
    exact ⟨hnew, fun _ h => h⟩
  rw [narrowLedger]
  split
  · exact ⟨store.ledger, store.recordedPol, rfl, hkept⟩
  · apply wp_quiet rfl trivial
    · intro after hperform
      cases hperform
      refine ⟨trivial, _, _, rfl, fun _ => ?_⟩
      have howned : (if synced.plan.owned = [] then none else some synced.plan.owned).getD [] =
          synced.plan.owned := by
        split
        · next hnil => rw [hnil]; rfl
        · rfl
      rw [ownedTexts_setList, howned]
      exact ⟨fun _ h => h, hnew⟩
    · exact ⟨store.ledger, store.recordedPol, rfl, hkept⟩

theorem wp_finishSync {owned : List Utf16} {synced : Option Synced}
    (h : SyncedPost characters occurs call owned start (.ok synced) store) :
    (finishSync characters call result synced).Wp (events characters.upper occurs)
      (fun _ _ => True) store (SyncEndsPost characters occurs call owned start) := by
  cases synced with
  | none => trivial
  | some synced =>
      apply Wp.bind
      apply (wp_narrowLedger h.new h.listed).mono
      rintro (error | narrowed) middle hmiddle
      · trivial
      · obtain ⟨ledger, recordedPol, rfl, hlisted⟩ := hmiddle
        apply Wp.bind
        apply wp_mirrorList.mono
        rintro (error | done) after hafter
        · trivial
        · obtain ⟨desired, hdesired, rfl⟩ := hafter rfl
          refine ⟨synced.plan, synced.storedOwned, h.told, h.readable, h.merge,
            ⟨desired, hdesired, ?_⟩, h.stored, h.new, h.quiet, hlisted⟩
          simp only [Store.setProperties, Store.properties, h.registry]

theorem wp_syncManagedPolicyList :
    (syncManagedPolicyList characters call).Wp (events characters.upper occurs) (fun _ _ => True)
      store (SyncPost characters occurs call store) := by
  apply wp_enterLock permits_true.ledgerReads (fun _ => trivial)
  · intro readable hreadable
    split
    · trivial
    · rw [syncBehindGate]
      split
      · trivial
      · apply Wp.observe
        apply Wp.bind
        have hstart : SyncInv characters occurs call
            (ownedTexts characters (ledgerRead store readable) call.key)
            { store with ledgerReadable := readable }
            ⟨ledgerRead store readable,
              ownedTexts characters (ledgerRead store readable) call.key, false⟩
            { store with ledgerReadable := readable } := by
          refine ⟨rfl, rfl, rfl, .inl rfl, ?_, fun htrue => ?_, .refl _ _, fun _ => rfl⟩
          · cases readable with
            | true => exact .inl rfl
            | false => exact .inr rfl
          · have hreadable : readable = true := htrue
            rw [hreadable]
            rfl
        refine (Wp.retry (fun state world hinv => wp_syncRound hinv)
          (fun state world _ => trivial) maxWriteAttempts hstart).mono ?_
        rintro (error | synced) after hafter
        · trivial
        · apply (wp_finishSync hafter).mono
          rintro (error | result) later hlater
          · trivial
          · obtain ⟨plan, union, hends⟩ := hlater
            exact ⟨readable, plan, union, hreadable, hends⟩
  · exact fun readable => trivial

/-! ## Removing a list -/

section Removing

variable {call : RemoveListCall} {owned : List Utf16}

/-- The entries are those that the removal leaves. -/
def RemoveListCall.Asked (characters : Characters) (call : RemoveListCall) (owned : List Utf16)
    (entries : List Entry) : Prop :=
  foreignEntries characters call.key owned entries = entries

/-- A result of the merge, or of the whole, and what it leaves of the file. -/
structure ListRemoved (characters : Characters) (occurs : StoreEvent → Bool)
    (call : RemoveListCall) (owned : List Utf16) (start : Store) (result : RemoveResult)
    (after : Store) : Prop where
  told : result.failureCode = none → Told occurs (call.Asked characters owned) start after
  file : ∃ pol entries, MayHold occurs start pol ∧
    readEntries pol = .ok entries ∧
    (foreignEntries characters call.key owned entries = entries ∧ after.pol = pol ∨
      after.pol = some (content (foreignEntries characters call.key owned entries)) ∧
        (content (foreignEntries characters call.key owned entries)).length ≤ streamLimit)

def ListRemovedPost (characters : Characters) (occurs : StoreEvent → Bool)
    (call : RemoveListCall) (owned : List Utf16) (start : Store) :
    Except (Option RemoveResult) (Option RemoveResult) → Store → Prop
  | .ok (some result), after => ListRemoved characters occurs call owned start result after
  | _, _ => True

theorem foreignEntries_eq_of_length {key : Utf16} {entries : List Entry}
    (h : (foreignEntries characters key owned entries).length = entries.length) :
    foreignEntries characters key owned entries = entries :=
  List.filter_sublist.eq_of_length h

theorem wp_removeListRound (h : RemoveInv occurs start store) :
    (removeListRound characters call owned ()).Wp (events characters.upper occurs)
      (fun _ _ => True) store
      (RoundPost (fun _ world => RemoveInv occurs start world)
        (ListRemovedPost characters occurs call owned start)) := by
  obtain ⟨htrace, hpol⟩ := h
  apply Wp.bind
  apply wp_readSnapshot permits_true
  · intro pol entries hheld hread
    have hmay : MayHold occurs start pol := hpol.trans hheld
    change Wp _ _ (if _ then (if _ then _ else _) else _) _ _
    split
    · split
      · next hlength =>
          have hasked := foreignEntries_eq_of_length hlength
          exact ⟨fun _ => ⟨pol, entries, hmay, hread, .inl ⟨hasked, htrace⟩⟩,
            ⟨pol, entries, hmay, hread, .inl ⟨hasked, rfl⟩⟩⟩
      · next hlength =>
        have hchanged : ¬ call.Asked characters owned entries :=
          fun hasked => hlength (congrArg List.length hasked)
        apply Wp.bind
        apply (wp_saveEntries permits_true fun _ => trivial).mono
        rintro (error | saved) later hlater
        · exact hlater.elim
        · cases saved with
          | conflict =>
              obtain ⟨other, hother, -, rfl⟩ := hlater
              have hworld : MayHold occurs start ({ store with pol } : Store).pol := hmay
              exact ⟨htrace, hworld.trans hother⟩
          | failed code => trivial
          | written code =>
              obtain ⟨hfile, -, htold⟩ := hlater
              exact ⟨fun hnone => ⟨pol, entries, hmay, hread, .inr ⟨hchanged, htold hnone⟩⟩,
                ⟨pol, entries, hmay, hread, .inr hfile⟩⟩
    · trivial
  · exact fun pol => trivial

variable {result : RemoveResult}

theorem wp_removeProperties {key : Utf16} {properties : List Property} :
    (removeProperties key result properties).Wp (events characters.upper occurs)
      (fun _ _ => True) store fun outcome after => ∃ mirrored, outcome = .ok mirrored ∧
        after.pol = store.pol ∧ after.trace = store.trace ∧
        (mirrored.failureCode = none → result.failureCode = none) := by
  induction properties generalizing store result with
  | nil => exact ⟨result, rfl, rfl, rfl, id⟩
  | cons property properties ih =>
      apply wp_quiet rfl trivial
      · intro after hperform
        cases hperform
        exact ⟨trivial, ih⟩
      · exact ⟨_, rfl, rfl, rfl, fun habsurd => by cases habsurd⟩

theorem wp_clearList {ledger : Ledger} :
    (clearList characters call ledger result).Wp (events characters.upper occurs)
      (fun _ _ => True) store fun outcome after => ∃ cleared, outcome = .ok cleared ∧
        after.pol = store.pol ∧ after.trace = store.trace ∧
        (cleared.failureCode = none → result.failureCode = none) := by
  rw [clearList]
  split
  · apply wp_quiet rfl trivial
    · intro after hperform
      cases hperform
      exact ⟨trivial, result, rfl, rfl, rfl, id⟩
    · refine ⟨_, rfl, rfl, rfl, fun hnone => ?_⟩
      rw [Option.or_eq_none_iff] at hnone
      exact hnone.1
  · exact ⟨result, rfl, rfl, rfl, id⟩

theorem ListRemoved.of_same {before after : Store} {other : RemoveResult}
    (h : ListRemoved characters occurs call owned start result before)
    (hpol : after.pol = before.pol) (htrace : after.trace = before.trace)
    (hcode : other.failureCode = none → result.failureCode = none) :
    ListRemoved characters occurs call owned start other after where
  told hnone := by
    rw [Told, htrace]
    exact h.told (hcode hnone)
  file := by
    rw [hpol]
    exact h.file

def RemoveListPost (characters : Characters) (occurs : StoreEvent → Bool)
    (call : RemoveListCall) (start : Store) :
    Except (Option RemoveResult) RemoveResult → Store → Prop
  | .ok result, after => ∃ readable, MayRead occurs start readable ∧
      ListRemoved characters occurs call
        (ownedTexts characters (ledgerRead start readable) call.key) start result after
  | .error _, _ => True

theorem wp_finishRemoveList {ledger : Ledger} {merged : Option RemoveResult}
    (h : ListRemovedPost characters occurs call owned start (.ok merged) store) :
    (finishRemoveList characters call ledger owned merged).Wp (events characters.upper occurs)
      (fun _ _ => True) store fun outcome after =>
        match outcome with
        | .ok result => ListRemoved characters occurs call owned start result after
        | .error _ => True := by
  cases merged with
  | none => trivial
  | some result =>
      apply Wp.observe
      apply Wp.bind
      apply wp_removeProperties.mono
      rintro _ middle ⟨mirrored, rfl, hpol, htrace, hcode⟩
      apply wp_clearList.mono
      rintro _ after ⟨cleared, rfl, hafter, hafterTrace, hcleared⟩
      exact h.of_same (hafter.trans hpol) (hafterTrace.trans htrace) (hcode ∘ hcleared)

theorem wp_removeManagedPolicyList :
    (removeManagedPolicyList characters call).Wp (events characters.upper occurs)
      (fun _ _ => True) store (RemoveListPost characters occurs call store) := by
  apply wp_enterLock permits_true.ledgerReads (fun _ => trivial)
  · intro readable hreadable
    split
    · trivial
    · split
      · trivial
      · apply Wp.observe
        apply Wp.bind
        have hstart : RemoveInv occurs store { store with ledgerReadable := readable } :=
          ⟨rfl, .inl rfl⟩
        refine (Wp.retry (fun _ world hinv => wp_removeListRound hinv)
          (fun _ world _ => trivial) maxWriteAttempts hstart).mono ?_
        rintro (error | merged) after hafter
        · trivial
        · apply (wp_finishRemoveList hafter).mono
          rintro (error | result) later hlater
          · trivial
          · exact ⟨readable, hreadable, hlater⟩
  · exact fun readable => trivial

end Removing

end OpenPath.Windows.PolicyStore
