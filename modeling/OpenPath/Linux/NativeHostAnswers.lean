/-
# When the native host answers

An iteration of the loop answers its message exactly when nothing raises: the payload is
text that the JSON parser takes, the action can be looked up, and the files and values
that the action goes through have the shape that it expects without asking. A run
answers every message of its input when each of them is of that kind.

What the overlay says about other hosts does not matter for the decision about a host,
so an overlay that is malformed grants nothing.
-/

import OpenPath.Foundation.Except
import OpenPath.Linux.NativeHostLoop

namespace OpenPath.Linux.NativeHost

open Python Foundation

variable (library : Library) (environment : Environment)

/-! ## What must hold of the files -/

/-- The bytes of a file are a text, when there are any. -/
def decodes : File → Bool
  | .content bytes => (Utf8.decodeStrict bytes).isSome
  | _ => true

/-- A loop can go through the value. -/
def loops : Json → Bool
  | .array _ => true
  | .string _ => true
  | .object _ => true
  | _ => false

/-- The parser stays within its limits, and the member `entries` of an object can be gone
through. Everything else counts as an overlay without entries. -/
def overlayLoops : Run Json → Bool
  | .error .limit => false
  | .ok (.object parsed) => (parsed.lookup "entries".toList).all loops
  | _ => true

/-- The overlay as the runtime dependencies read it. -/
def overlayStateReadable : File → Bool
  | .content bytes => overlayLoops ((readText (.content bytes)).bind library.parse)
  | _ => true

/-- The overlay as the policy reads it. -/
def overlayPolicyReadable : File → Bool
  | .content bytes => overlayLoops ((decodeUtf8 bytes).bind library.parse)
  | _ => true

/-- The policy is not known, or everything that it is made of can be read. -/
def snapshotReadable : Bool :=
  match environment.whitelist.map WhitelistFile.file with
  | some (File.content _) =>
      overlayPolicyReadable library environment.overlay && decodes environment.whitelistUrl &&
        decodes environment.apiUrl && decodes environment.healthApiUrl
  | _ => true

/-! ## What must hold of a message -/

/-- A list, or a string. -/
def isSequence : Json → Bool
  | .array _ => true
  | .string _ => true
  | _ => false

/-- The domains of a message that may be checked. -/
def validDomains (domains : Json) : List Text :=
  match sliceOf maxDomains domains with
  | .ok elements => elements.filterMap (validDomain library)
  | .error _ => []

/-- The write to the queue does not fail, if it comes to one. -/
def queues (place : Nat) (entry : Json) : Bool :=
  !isValidEntry entry || !environment.queueDirectory || !environment.queueFails place

/-- The same where a dependency that is ready is not queued. -/
def enqueues (overlay : OverlayState) (place : Nat) (entry : Json) : Bool :=
  match validateRuntimeDependencyEntry entry with
  | .error _ => true
  | .ok dependency =>
      (entryState overlay dependency.pair).ready || !environment.queueDirectory ||
        !environment.queueFails place

/-- Every entry meets a condition at its place. -/
def allPlaces (meets : Nat → Json → Bool) : Nat → List Json → Bool
  | _, [] => true
  | place, entry :: rest => meets place entry && allPlaces meets (place + 1) rest

/-- The overlay, as far as it can be read. -/
def overlayOf (file : File) : OverlayState :=
  match readRuntimeDependencyOverlayState library file with
  | .ok overlay => overlay
  | .error _ => .empty

/-- Writing the entries and waiting for those that were queued. -/
def waits (entries : List Json) : Bool :=
  allPlaces (queues environment) 0 entries &&
    (!(environment.queueDirectory && entries.any isValidEntry) ||
      overlayStateReadable library environment.overlay)

/-- Writing the entries without a wait. -/
def writes (entries : List Json) : Bool :=
  !entries.any isValidEntry ||
    overlayStateReadable library environment.overlay &&
      allPlaces (enqueues environment (overlayOf library environment.overlay)) 0 entries

/-- The pairs that a question for the readiness of dependencies is about. -/
def checkedPairs (message : JsonObject) : List Pair :=
  match (message.lookup "entries".toList).bind batchEntries with
  | some entries => (entries.take runtimeDependencyBatchLimit).filterMap checkPair
  | none =>
      (entryPair (message.lookup "anchorHost".toList)
        (message.lookup "dependencyHost".toList)).toList

/-- Nothing that the action does raises. -/
def safeAction (message : JsonObject) : Action → Bool
  | .check =>
      let domains := (message.lookup "domains".toList).getD (.array [])
      !truthy domains ||
        isSequence domains &&
          ((validDomains library domains).isEmpty || snapshotReadable library environment)
  | .updateWhitelist => isSequence ((message.lookup "domains".toList).getD (.array []))
  | .getMachineToken => decodes environment.whitelistUrl
  | .getConfig => decodes environment.apiUrl && decodes environment.whitelistUrl
  | .getPolicyVersion => snapshotReadable library environment
  | .allowLocalRuntimeDependency =>
      match modeOf message with
      | .unsupported => true
      | .enqueue => writes library environment [.object message]
      | .blocking => waits library environment [.object message]
  | .checkLocalRuntimeDependency =>
      (checkedPairs message).isEmpty || overlayStateReadable library environment.overlay
  | .allowLocalRuntimeDependencyBatch =>
      let entries :=
        ((batchEntries ((message.lookup "entries".toList).getD (.array []))).getD []).take
          runtimeDependencyBatchLimit
      match modeOf message with
      | .unsupported => true
      | .enqueue => writes library environment entries
      | .blocking => waits library environment entries
  | _ => true

/-- Nothing raises on the way to a response. -/
def safeMessage : Json → Bool
  | .object message =>
      hashable (actionMember message) &&
        (actionOf (actionMember message)).all (safeAction library environment message)
  | _ => true

/-! ## The files -/

section Ok

variable {ε : Type} {α β : Type}

theorem isOk_iff {result : Except ε α} : result.isOk = true ↔ ∃ value, result = .ok value := by
  cases result with
  | ok value => exact ⟨fun _ => ⟨value, rfl⟩, fun _ => rfl⟩
  | error fault =>
      refine ⟨fun h => ?_, fun ⟨value, h⟩ => ?_⟩
      · cases h
      · cases h

theorem isOk_map (change : α → β) (result : Except ε α) : (result.map change).isOk = result.isOk := by
  cases result <;> rfl

theorem isOk_bind {first : Except ε α} {rest : α → Except ε β} {safe : Bool}
    (hrest : ∀ value, first = .ok value → (rest value).isOk = safe) :
    (first >>= rest).isOk = (first.isOk && safe) := by
  cases first with
  | ok value => exact (hrest value rfl).trans (Bool.true_and safe).symm
  | error fault => rfl

end Ok

theorem isOk_decodeUtf8 (bytes : Bytes) :
    (decodeUtf8 bytes).isOk = (Utf8.decodeStrict bytes).isSome := by
  rw [decodeUtf8]
  split
  · next hsome => simp [hsome, Except.isOk, Except.toBool]
  · next hnone => simp [hnone, Except.isOk, Except.toBool]

theorem isOk_readOptionalText (file : File) : (readOptionalText file).isOk = decodes file := by
  cases file with
  | absent => rfl
  | unreadable => rfl
  | content bytes => rw [readOptionalText, isOk_map, readText, isOk_map, isOk_decodeUtf8, decodes]

theorem isOk_iterate (value : Json) : (iterate value).isOk = loops value := by
  cases value <;> rfl

theorem isOk_overlayEntries (parsed : JsonObject) :
    (overlayEntries parsed).isOk = (parsed.lookup "entries".toList).all loops := by
  rw [overlayEntries]
  cases parsed.lookup "entries".toList with
  | none => rfl
  | some value => rw [isOk_map, isOk_iterate, Option.all_some]

theorem isOk_withEntries {α : Type} (parsed : Run Json) (empty : α)
    (use : JsonObject → List JsonObject → α) :
    (withEntries parsed empty use).isOk = overlayLoops parsed := by
  rcases parsed with fault | value
  · cases fault <;> rfl
  · cases value with
    | object overlay =>
        rw [withEntries, isOk_map, isOk_overlayEntries]
        rfl
    | null | bool | int | real | string | array => rfl

theorem isOk_readRuntimeDependencyOverlayState (file : File) :
    (readRuntimeDependencyOverlayState library file).isOk = overlayStateReadable library file := by
  cases file with
  | absent => rfl
  | unreadable => rfl
  | content bytes => exact isOk_withEntries _ _ _

theorem isOk_readOverlayPolicy (file : File) :
    (readOverlayPolicy library file).isOk = overlayPolicyReadable library file := by
  cases file with
  | absent => rfl
  | unreadable => rfl
  | content bytes => exact isOk_withEntries _ _ _

theorem isOk_getOptionalConfigHost (file : File) :
    (getOptionalConfigHost file).isOk = decodes file := by
  rw [getOptionalConfigHost, isOk_map, isOk_readOptionalText]

theorem isOk_readRuntimePolicyInputs :
    (readRuntimePolicyInputs library environment).isOk =
      (overlayPolicyReadable library environment.overlay && (decodes environment.whitelistUrl &&
        (decodes environment.apiUrl && decodes environment.healthApiUrl))) := by
  rw [readRuntimePolicyInputs, isOk_bind, isOk_readOverlayPolicy]
  intro overlay _
  rw [isOk_bind, isOk_getOptionalConfigHost]
  intro whitelistHost _
  rw [isOk_bind, isOk_getOptionalConfigHost]
  intro apiHost _
  rw [isOk_bind, isOk_getOptionalConfigHost, Bool.and_true]
  intro healthApiHost _
  rfl

theorem isOk_readPolicySnapshot :
    (readPolicySnapshot library environment).isOk = snapshotReadable library environment := by
  rw [readPolicySnapshot, snapshotReadable]
  cases environment.whitelist with
  | none => rfl
  | some whitelist =>
      obtain ⟨path, file, mtime⟩ := whitelist
      cases file with
      | absent => rfl
      | unreadable => rfl
      | content raw =>
          dsimp only [Option.map_some]
          rw [isOk_map, isOk_readRuntimePolicyInputs, Bool.and_assoc, Bool.and_assoc]

/-! ## The actions -/

theorem isOk_checkDomains (domains : List Text) :
    (checkDomains library environment domains).isOk =
      (domains.isEmpty || snapshotReadable library environment) := by
  induction domains with
  | nil => rfl
  | cons domain rest ih =>
      have hrest : ∀ result, checkDomain library environment domain = .ok result →
          (do
            let results ← checkDomains library environment rest
            return result :: results : Run (List JsonObject)).isOk =
              (rest.isEmpty || snapshotReadable library environment) := by
        intro result _
        rw [isOk_bind, ih, Bool.and_true]
        intro results _
        rfl
      rw [checkDomains, isOk_bind hrest, checkDomain, isOk_map, isOk_readPolicySnapshot]
      cases snapshotReadable library environment <;> simp

theorem isOk_sliceOf (count : Nat) (value : Json) : (sliceOf count value).isOk = isSequence value := by
  cases value <;> rfl

theorem isOk_getValidDomains (domains : Json) :
    (getValidDomains library domains).isOk = isSequence domains := by
  rw [getValidDomains, isOk_map, isOk_sliceOf]

theorem getValidDomains_eq {domains : Json} {valid : List Text}
    (hvalid : getValidDomains library domains = .ok valid) :
    valid = validDomains library domains := by
  rw [getValidDomains] at hvalid
  obtain ⟨elements, helements, rfl⟩ := map_eq_ok.mp hvalid
  rw [validDomains, helements]

theorem isOk_check (message : JsonObject) :
    (check library environment message).isOk = safeAction library environment message .check := by
  rw [check, safeAction]
  split
  · next htruthy =>
    rw [htruthy, isOk_bind, isOk_getValidDomains]
    · rfl
    · intro valid hvalid
      rw [isOk_bind, isOk_checkDomains, getValidDomains_eq library hvalid, Bool.and_true]
      intro results _
      rfl
  · next hfalsy =>
    rw [Bool.not_eq_true] at hfalsy
    rw [hfalsy]
    rfl

theorem isOk_getMachineToken :
    (getMachineToken environment).isOk = decodes environment.whitelistUrl := by
  rw [getMachineToken]
  cases environment.whitelistUrl with
  | absent => rfl
  | unreadable => rfl
  | content bytes =>
      dsimp only [osErrorText]
      rw [isOk_map, readText, isOk_map, isOk_decodeUtf8, decodes]

theorem isOk_getNativeConfig :
    (getNativeConfig environment).isOk =
      (decodes environment.apiUrl && decodes environment.whitelistUrl) := by
  rw [getNativeConfig, isOk_bind, isOk_readOptionalText]
  intro apiUrl _
  rw [isOk_bind, isOk_readOptionalText, Bool.and_true]
  intro whitelistUrl _
  split <;> rfl

/-! ### Runtime dependencies -/

theorem isOk_writeRuntimeDependencyRequest (place : Nat) (entry : Json) :
    (writeRuntimeDependencyRequest environment place entry).isOk =
      queues environment place entry := by
  rw [writeRuntimeDependencyRequest, queues, isValidEntry]
  cases validateRuntimeDependencyEntry entry with
  | error response => rfl
  | ok dependency =>
      cases environment.queueDirectory
      · rfl
      · cases environment.queueFails place <;> rfl

theorem isOk_enqueueEntry (overlay : OverlayState) (place : Nat) (entry : Json) :
    (enqueueEntry environment overlay place entry).isOk =
      enqueues environment overlay place entry := by
  have hwrite := isOk_writeRuntimeDependencyRequest environment place entry
  rw [queues, isValidEntry] at hwrite
  rw [enqueueEntry, enqueues]
  cases hvalid : validateRuntimeDependencyEntry entry with
  | error response => rfl
  | ok dependency =>
      dsimp only
      rw [hvalid] at hwrite
      split
      · next hready => rw [hready]; rfl
      · next hpending =>
        rw [Bool.not_eq_true] at hpending
        rw [isOk_map, hwrite, hpending]
        rfl

theorem isOk_eachEntry {respond : Nat → Json → Run JsonObject} {meets : Nat → Json → Bool}
    (hmeets : ∀ place entry, (respond place entry).isOk = meets place entry) (place : Nat)
    (entries : List Json) : (eachEntry respond place entries).isOk = allPlaces meets place entries := by
  induction entries generalizing place with
  | nil => rfl
  | cons entry rest ih =>
      have hrest : ∀ response, respond place entry = .ok response →
          (do
            let responses ← eachEntry respond (place + 1) rest
            return response :: responses : Run (List JsonObject)).isOk =
              allPlaces meets (place + 1) rest := by
        intro response _
        rw [isOk_bind, ih, Bool.and_true]
        intro responses _
        rfl
      rw [eachEntry, isOk_bind hrest, hmeets, allPlaces]

theorem readRuntimeDependencyOverlayState_eq {file : File} {overlay : OverlayState}
    (hread : readRuntimeDependencyOverlayState library file = .ok overlay) :
    overlay = overlayOf library file := by
  rw [overlayOf, hread]

theorem lookup_fields (name : String) (members : List (String × Json)) :
    (fields members).lookup name.toList = members.lookup name := by
  induction members with
  | nil => rfl
  | cons member rest ih =>
      rw [fields, List.map_cons, List.lookup_cons, List.lookup_cons]
      have hsame : (name.toList == member.1.toList) = (name == member.1) := by
        rw [Bool.eq_iff_iff, beq_iff_eq, beq_iff_eq, String.toList_inj]
      rw [hsame]
      cases name == member.1
      · exact ih
      · rfl

theorem succeeded_fields (success : Bool) (members : List (String × Json)) :
    succeeded (fields (("success", .bool success) :: members)) = success := by
  rw [succeeded, lookup_fields]
  rfl

variable {response : JsonObject}

theorem queuedPair_of_failed (hfailed : succeeded response = false) :
    queuedPair response = none := by
  rw [queuedPair]
  split
  · exact if_neg (by simp [hfailed])
  · rfl

variable {entry : Json}

theorem failed_of_validate (hinvalid : validateRuntimeDependencyEntry entry = .error response) :
    succeeded response = false := by
  cases entry with
  | object members =>
      rw [validateRuntimeDependencyEntry] at hinvalid
      split at hinvalid
      · cases hinvalid
        exact succeeded_fields false _
      · split at hinvalid
        · cases hinvalid
          exact succeeded_fields false _
        · cases hinvalid
  | null | bool | int | real | string | array =>
      cases hinvalid
      exact succeeded_fields false _

theorem hosts_of_validate {dependency : RuntimeDependency}
    (hvalid : validateRuntimeDependencyEntry entry = .ok dependency) :
    dependency.anchorHost ≠ [] ∧ dependency.dependencyHost ≠ [] := by
  cases entry with
  | object members =>
      rw [validateRuntimeDependencyEntry] at hvalid
      split at hvalid
      · cases hvalid
      · next hnonempty =>
        split at hvalid
        · cases hvalid
        · cases hvalid
          exact ⟨fun h => hnonempty (.inl h), fun h => hnonempty (.inr (.inl h))⟩
  | null | bool | int | real | string | array => cases hvalid

/-- What a write comes to: the pair is queued when the entry is valid and there is a
queue. -/
theorem isSome_queuedPair {place : Nat}
    (hwrite : writeRuntimeDependencyRequest environment place entry = .ok response) :
    (queuedPair response).isSome = (environment.queueDirectory && isValidEntry entry) := by
  rw [writeRuntimeDependencyRequest] at hwrite
  rw [isValidEntry]
  cases hvalid : validateRuntimeDependencyEntry entry with
  | error invalid =>
      rw [hvalid] at hwrite
      obtain rfl := Except.ok.inj hwrite
      rw [queuedPair_of_failed (failed_of_validate hvalid)]
      exact (Bool.and_false _).symm
  | ok dependency =>
      obtain ⟨hanchor, hdependency⟩ := hosts_of_validate hvalid
      rw [hvalid] at hwrite
      dsimp only at hwrite
      cases hqueue : environment.queueDirectory with
      | false =>
          rw [hqueue] at hwrite
          obtain rfl := Except.ok.inj hwrite
          have hfailed : succeeded (fields
              ([("success", .bool false), ("action", text "allow-local-runtime-dependency")] ++
                dependency.members ++ [("error", text "Queue directory not configured")])) =
              false := succeeded_fields false _
          rw [queuedPair_of_failed hfailed]
          rfl
      | true =>
          rw [hqueue] at hwrite
          cases hfails : environment.queueFails place with
          | true =>
              rw [hfails] at hwrite
              cases hwrite
          | false =>
              rw [hfails] at hwrite
              obtain rfl := Except.ok.inj hwrite
              rw [queuedPair, lookup_fields, lookup_fields]
              simp [List.lookup_cons, RuntimeDependency.members, succeeded_fields, hanchor, hdependency,
                Except.toBool]

variable {entries : List Json}

theorem any_queuedPair {responses : List JsonObject} (place : Nat)
    (hwritten : eachEntry (writeRuntimeDependencyRequest environment) place entries = .ok responses) :
    (responses.any fun response => (queuedPair response).isSome) =
      (environment.queueDirectory && entries.any isValidEntry) := by
  induction entries generalizing place responses with
  | nil =>
      obtain rfl := Except.ok.inj hwritten
      exact (Bool.and_false _).symm
  | cons entry rest ih =>
      rw [eachEntry] at hwritten
      obtain ⟨response, hresponse, hrest⟩ := bind_eq_ok.mp hwritten
      obtain ⟨following, hfollowing, hpure⟩ := bind_eq_ok.mp hrest
      obtain rfl := pure_eq_ok.mp hpure
      rw [List.any_cons, List.any_cons, ih (place + 1) hfollowing,
        isSome_queuedPair environment hresponse, Bool.and_or_distrib_left]

theorem isOk_waitForResponses (responses : List JsonObject) :
    (waitForResponses library environment responses).isOk =
      (!(responses.any fun response => (queuedPair response).isSome) ||
        overlayStateReadable library environment.overlay) := by
  rw [waitForResponses]
  split
  · next hqueued =>
    rw [hqueued, isOk_bind, isOk_readRuntimeDependencyOverlayState, Bool.and_true]
    · rfl
    · intro overlay _
      rfl
  · next hnone =>
    rw [Bool.not_eq_true] at hnone
    rw [hnone]
    rfl

theorem isOk_waits {α : Type} (entries : List Json) (finish : List JsonObject → Run α)
    (hfinish : ∀ responses, (finish responses).isOk = true) :
    (do
      let written ← eachEntry (writeRuntimeDependencyRequest environment) 0 entries
      let responses ← waitForResponses library environment written
      finish responses : Run α).isOk = waits library environment entries := by
  rw [waits, isOk_bind, isOk_eachEntry (isOk_writeRuntimeDependencyRequest environment)]
  intro written hwritten
  rw [isOk_bind fun responses _ => hfinish responses, isOk_waitForResponses, Bool.and_true,
    any_queuedPair environment 0 hwritten]

theorem allPlaces_of_invalid (overlay : OverlayState)
    (hinvalid : entries.any isValidEntry = false) (place : Nat) :
    allPlaces (enqueues environment overlay) place entries = true := by
  induction entries generalizing place with
  | nil => rfl
  | cons entry rest ih =>
      rw [List.any_cons, Bool.or_eq_false_iff, isValidEntry] at hinvalid
      rw [allPlaces, ih hinvalid.2, enqueues, Bool.and_true]
      cases hvalid : validateRuntimeDependencyEntry entry with
      | error response => rfl
      | ok dependency =>
          rw [hvalid] at hinvalid
          cases hinvalid.1

theorem isOk_writes {α : Type} (entries : List Json) (finish : List JsonObject → Run α)
    (hfinish : ∀ responses, (finish responses).isOk = true) :
    (do
      let overlay ←
        if entries.any isValidEntry then
          readRuntimeDependencyOverlayState library environment.overlay
        else Except.ok OverlayState.empty
      let responses ← eachEntry (enqueueEntry environment overlay) 0 entries
      finish responses : Run α).isOk = writes library environment entries := by
  have heach : ∀ overlay, (do
      let responses ← eachEntry (enqueueEntry environment overlay) 0 entries
      finish responses : Run α).isOk = allPlaces (enqueues environment overlay) 0 entries := by
    intro overlay
    rw [isOk_bind fun responses _ => hfinish responses,
      isOk_eachEntry (isOk_enqueueEntry environment overlay), Bool.and_true]
  rw [writes]
  cases hvalid : entries.any isValidEntry with
  | false => exact (heach .empty).trans (allPlaces_of_invalid environment .empty hvalid 0)
  | true =>
      rw [if_pos rfl, isOk_bind, isOk_readRuntimeDependencyOverlayState]
      · rfl
      · intro overlay hoverlay
        rw [heach, readRuntimeDependencyOverlayState_eq library hoverlay]

theorem isOk_enqueueRuntimeDependencyRequest (entry : Json) :
    (enqueueRuntimeDependencyRequest library environment entry).isOk =
      writes library environment [entry] := by
  rw [enqueueRuntimeDependencyRequest, writes, List.any_cons, List.any_nil, Bool.or_false,
    isValidEntry]
  cases validateRuntimeDependencyEntry entry with
  | error response => rfl
  | ok dependency =>
      dsimp only
      rw [isOk_bind, isOk_readRuntimeDependencyOverlayState]
      · rfl
      · intro overlay hoverlay
        rw [isOk_enqueueEntry, readRuntimeDependencyOverlayState_eq library hoverlay, allPlaces,
          allPlaces, Bool.and_true]

theorem isOk_enqueueRuntimeDependencyBatch (entries : Json) :
    (enqueueRuntimeDependencyBatch library environment entries).isOk =
      writes library environment
        (((batchEntries entries).getD []).take runtimeDependencyBatchLimit) := by
  rw [enqueueRuntimeDependencyBatch]
  cases batchEntries entries with
  | none => rfl
  | some entries => exact isOk_writes library environment _ _ fun _ => rfl

theorem waits_nil : waits library environment [] = true := by
  rw [waits, allPlaces, List.any_nil, Bool.and_false]
  rfl

theorem isOk_waits_singleton {α : Type} (entry : Json)
    (finish : JsonObject → List JsonObject → Run α)
    (hfinish : ∀ response responses, (finish response responses).isOk = true) :
    (do
      let response ← writeRuntimeDependencyRequest environment 0 entry
      let responses ← waitForResponses library environment [response]
      finish response responses : Run α).isOk = waits library environment [entry] := by
  rw [waits, allPlaces, allPlaces, Bool.and_true, isOk_bind, isOk_writeRuntimeDependencyRequest]
  intro response hwritten
  rw [isOk_bind fun responses _ => hfinish response responses, isOk_waitForResponses,
    Bool.and_true, List.any_cons, List.any_nil, Bool.or_false,
    isSome_queuedPair environment hwritten, List.any_cons, List.any_nil, Bool.or_false]

theorem isOk_allowLocalRuntimeDependency (message : JsonObject) :
    (allowLocalRuntimeDependency library environment message).isOk =
      safeAction library environment message .allowLocalRuntimeDependency := by
  rw [allowLocalRuntimeDependency, safeAction]
  cases modeOf message with
  | unsupported => rfl
  | enqueue => exact isOk_enqueueRuntimeDependencyRequest library environment (.object message)
  | blocking => exact isOk_waits_singleton library environment (.object message) _ fun _ _ => rfl

theorem isOk_allowLocalRuntimeDependencyBatch (message : JsonObject) :
    (allowLocalRuntimeDependencyBatch library environment message).isOk =
      safeAction library environment message .allowLocalRuntimeDependencyBatch := by
  rw [allowLocalRuntimeDependencyBatch, safeAction]
  cases modeOf message with
  | unsupported => rfl
  | enqueue => exact isOk_enqueueRuntimeDependencyBatch library environment _
  | blocking =>
      dsimp only
      cases batchEntries ((message.lookup "entries".toList).getD (.array [])) with
      | none =>
          rw [Option.getD_none, List.take_nil, waits_nil]
          rfl
      | some entries => exact isOk_waits library environment _ _ fun _ => rfl

theorem isOk_checkLocalRuntimeDependency (message : JsonObject) :
    (checkLocalRuntimeDependency library environment message).isOk =
      safeAction library environment message .checkLocalRuntimeDependency := by
  rw [checkLocalRuntimeDependency, safeAction, checkedPairs]
  cases (message.lookup "entries".toList).bind batchEntries with
  | some entries =>
      dsimp only
      split
      · next hnone =>
        rw [hnone]
        rfl
      · next hsome =>
        rw [Bool.not_eq_true] at hsome
        rw [hsome, isOk_bind, isOk_readRuntimeDependencyOverlayState, Bool.and_true]
        · rfl
        · intro overlay _
          rfl
  | none =>
      dsimp only
      cases entryPair (message.lookup "anchorHost".toList)
          (message.lookup "dependencyHost".toList) with
      | none => rfl
      | some pair =>
          dsimp only
          rw [isOk_bind, isOk_readRuntimeDependencyOverlayState, Bool.and_true]
          · rfl
          · intro overlay _
            rfl

/-! ## The loop -/

theorem isOk_serveAction (state : HostState) (message : JsonObject) (action : Action) :
    (serveAction library environment state message action).isOk =
      safeAction library environment message action := by
  cases action with
  | check => exact isOk_check library environment message
  | updateWhitelist =>
      rw [serveAction, updateWhitelist, isOk_map, isOk_getValidDomains]
      rfl
  | getMachineToken => exact isOk_getMachineToken environment
  | getConfig => exact isOk_getNativeConfig environment
  | getPolicyVersion =>
      rw [serveAction, getPolicyVersion, isOk_map, isOk_readPolicySnapshot]
      rfl
  | allowLocalRuntimeDependency => exact isOk_allowLocalRuntimeDependency library environment message
  | checkLocalRuntimeDependency => exact isOk_checkLocalRuntimeDependency library environment message
  | allowLocalRuntimeDependencyBatch =>
      exact isOk_allowLocalRuntimeDependencyBatch library environment message
  | list | status | ping | getHostname | getBlockedPaths | getAllowedPaths | getBlockedSubdomains |
    reportExtensionDiagnostics => rfl

theorem isOk_dispatchMessage (state : HostState) (message : JsonObject) :
    (dispatchMessage library environment state (.object message)).isOk =
      (actionOf (actionMember message)).all (safeAction library environment message) := by
  rw [dispatchMessage]
  cases actionOf (actionMember message) with
  | none => rfl
  | some action => exact isOk_serveAction library environment state message action

theorem isOk_lookUpAction (state : HostState) (message : Json) :
    (lookUpAction message >>= fun _ => handleMessage library environment state message).isOk =
      safeMessage library environment message := by
  cases message with
  | object members =>
      rw [safeMessage, lookUpAction]
      cases hashable (actionMember members) with
      | false => rfl
      | true =>
          rw [if_pos rfl, Bool.true_and, ← isOk_dispatchMessage library environment state members]
          exact isOk_map _ _
  | null | bool | int | real | string | array => rfl

end OpenPath.Linux.NativeHost
