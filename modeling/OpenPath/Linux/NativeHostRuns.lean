/-
# Runs of the native host

A framed message is answered with one framed response, which carries the id of the
message, exactly when its payload is a message of at most a mebibyte and nothing raises
on the way. A run answers all of its messages exactly when each of them is of that kind
in the state that the earlier ones leave behind.

A host that no entry of the overlay names is decided as if there were no overlay. The
reader takes the host of any object in the list of an overlay, so an entry without an
anchor or an expiry still decides about a host that the rest of the policy leaves open.
-/

import OpenPath.Linux.NativeHostAnswers

namespace OpenPath.Linux.NativeHost

open Python Foundation

variable (library : Library)

/-! ## Messages and responses -/

/-- The length of a payload, and the payload. -/
def framed (payload : Bytes) : Bytes := littleEndian 4 payload.length ++ payload

/-- The message that a payload holds. -/
def messageOf (payload : Bytes) : Option Json :=
  ((Utf8.decodeStrict payload).bind fun content => (library.loads content).toOption).filter
    isMessage

/-- The bytes of a response. -/
def written (response : JsonObject) : Bytes := framed (library.dumps (.object response))

/-- The response carries the id of the message, when there is one. -/
def Echoes (payload : Bytes) (response : JsonObject) : Prop :=
  ∀ message value, messageOf library payload = some message → messageId message = some value →
    response.lookup "id".toList = some value

/-- The length of the response can be written. -/
def answerFits (environment : Environment) (state : HostState) (message : Json) : Bool :=
  match handleMessage library environment state message with
  | .ok response => (library.dumps (.object response)).length < 256 ^ 4
  | .error _ => true

/-- The payload is a message that can be answered. -/
def serves (environment : Environment) (state : HostState) (payload : Bytes) : Bool :=
  payload.length ≤ maxMessageLength &&
    (messageOf library payload).any fun message =>
      safeMessage library environment message && answerFits library environment state message

/-- What a payload leaves behind. -/
def stateAfter (environment : Environment) (state : HostState) (payload : Bytes) : HostState :=
  match messageOf library payload with
  | some message => nextState environment state message
  | none => state

/-- Every message of a run can be answered, each in its own environment. -/
def servesAll : HostState → List (Environment × Bytes) → Bool
  | _, [] => true
  | state, (environment, payload) :: rest =>
      serves library environment state payload &&
        servesAll (stateAfter library environment state payload) rest

/-! ## One iteration -/

theorem lookup_map_update (members : JsonObject) (name : Text) (value : Json) :
    (members.map fun member => if member.1 = name then (member.1, value) else member).lookup name =
      (members.lookup name).map fun _ => value := by
  induction members with
  | nil => rfl
  | cons member rest ih =>
      rw [List.map_cons]
      by_cases hname : member.1 = name
      · rw [if_pos hname, List.lookup_cons, List.lookup_cons, hname, beq_self_eq_true]
        rfl
      · have hother : (name == member.1) = false := beq_eq_false_iff_ne.mpr (Ne.symm hname)
        rw [if_neg hname, List.lookup_cons, List.lookup_cons, hother]
        exact ih

theorem lookup_updateMember (members : JsonObject) (name : String) (value : Json) :
    (updateMember members name value).lookup name.toList = some value := by
  rw [updateMember]
  split
  · next hsome =>
    obtain ⟨old, hold⟩ := Option.isSome_iff_exists.mp hsome
    rw [lookup_map_update, hold, Option.map_some]
  · next hnone =>
    rw [Option.not_isSome_iff_eq_none] at hnone
    rw [List.lookup_append, hnone, Option.none_or, List.lookup_cons, beq_self_eq_true]

variable (environment : Environment) (state : HostState) {message : Json}

theorem lookup_handleMessage {value : Json} {response : JsonObject}
    (hhandle : handleMessage library environment state message = .ok response)
    (hid : messageId message = some value) : response.lookup "id".toList = some value := by
  rw [handleMessage, hid] at hhandle
  obtain ⟨dispatched, _, rfl⟩ := map_eq_ok.mp hhandle
  exact lookup_updateMember dispatched "id" value

variable {payload : Bytes}

theorem decodeUtf8_eq_ok {bytes : Bytes} {content : Text} :
    decodeUtf8 bytes = .ok content ↔ Utf8.decodeStrict bytes = some content := by
  rw [decodeUtf8]
  cases Utf8.decodeStrict bytes with
  | none => exact iff_of_false (fun hraised => by cases hraised) fun hnone => by cases hnone
  | some decoded => rw [Except.ok.injEq, Option.some.injEq]

theorem messageOf_eq_some :
    messageOf library payload = some message ↔
      ∃ content, decodeUtf8 payload = .ok content ∧ library.parse content = .ok message ∧
        isMessage message = true := by
  rw [messageOf, decodeUtf8, Option.filter_eq_some_iff]
  cases Utf8.decodeStrict payload with
  | none =>
      constructor
      · rintro ⟨hnone, _⟩
        cases hnone
      · rintro ⟨_, hraised, _⟩
        cases hraised
  | some content =>
      dsimp only [Option.bind_some, Library.parse]
      constructor
      · rintro ⟨hloads, hsome⟩
        cases hparsed : library.loads content with
        | error fault =>
            rw [hparsed] at hloads
            cases hloads
        | ok value =>
            rw [hparsed] at hloads
            cases hloads
            exact ⟨content, rfl, by rw [hparsed]; rfl, hsome⟩
      · rintro ⟨_, hcontent, hparse, hsome⟩
        cases hcontent
        rw [mapError_eq_ok.mp hparse]
        exact ⟨rfl, hsome⟩

variable {left rest : Bytes}

/-- What is read from a framed payload is the message that it holds. -/
theorem readMessage_framed_iff (hlength : payload.length < 256 ^ 4) :
    readMessage library (framed payload ++ rest) = .ok (.message message left) ↔
      payload.length ≤ maxMessageLength ∧ messageOf library payload = some message ∧
        left = rest := by
  have htake : (framed payload ++ rest).take 4 = littleEndian 4 payload.length := by
    rw [framed, List.append_assoc, List.take_left' (length_littleEndian _ _)]
  have hdrop : (framed payload ++ rest).drop 4 = payload ++ rest := by
    rw [framed, List.append_assoc, List.drop_left' (length_littleEndian _ _)]
  have hnonempty : littleEndian 4 payload.length ≠ [] := by
    intro hempty
    have hzero := congrArg List.length hempty
    rw [length_littleEndian] at hzero
    cases hzero
  rw [readMessage, htake, hdrop, if_neg hnonempty, length_littleEndian, if_neg (lt_irrefl 4),
    ofLittleEndian_littleEndian hlength]
  dsimp only
  rw [List.take_left, List.drop_left]
  split
  · next hlong =>
    constructor
    · intro hnothing
      cases hnothing
    · intro hshort
      exact absurd hshort.1 (not_le.mpr hlong)
  · next hshort =>
    rw [messageOf_eq_some]
    constructor
    · intro hread
      obtain ⟨content, hcontent, hparse⟩ := bind_eq_ok.mp hread
      obtain ⟨value, hvalue, hmessage⟩ := bind_eq_ok.mp hparse
      have hreceived := pure_eq_ok.mp hmessage
      split at hreceived
      · next hsome =>
        cases hreceived
        exact ⟨not_lt.mp hshort, ⟨content, hcontent, hvalue, hsome⟩, rfl⟩
      · cases hreceived
    · rintro ⟨_, ⟨content, hcontent, hvalue, hsome⟩, rfl⟩
      exact bind_eq_ok.mpr
        ⟨content, hcontent, bind_eq_ok.mpr ⟨message, hvalue, by rw [if_pos hsome]; rfl⟩⟩

variable {output : Bytes}

theorem answerMessage_eq_ok :
    answerMessage library environment state message = .ok output ↔
      safeMessage library environment message = true ∧
        answerFits library environment state message = true ∧
          ∃ response, handleMessage library environment state message = .ok response ∧
            output = written library response := by
  have hsafe := isOk_lookUpAction library environment state message
  rw [answerMessage, answerFits, ← hsafe]
  cases lookUpAction message with
  | error fault =>
      constructor
      · intro hraised
        cases hraised
      · intro hanswer
        cases hanswer.1
  | ok found =>
      cases handleMessage library environment state message with
      | error fault =>
          constructor
          · intro hraised
            cases hraised
          · intro hanswer
            cases hanswer.1
      | ok response =>
          dsimp only [bind, Except.bind]
          rw [sendMessage]
          split
          · next hfits =>
            constructor
            · intro hsent
              cases hsent
              exact ⟨rfl, decide_eq_true hfits, response, rfl, rfl⟩
            · rintro ⟨_, _, _, hresponse, rfl⟩
              cases hresponse
              rfl
          · next hlong =>
            constructor
            · intro hraised
              cases hraised
            · intro hanswer
              exact absurd (of_decide_eq_true hanswer.2.1) hlong

variable {input : Bytes} {next : HostState}

theorem iterateMain_eq_answered :
    iterateMain library environment state input = (next, .answered output left) ↔
      ∃ message, readMessage library input = .ok (.message message left) ∧
        answerMessage library environment state message = .ok output ∧
          next = nextState environment state message := by
  rw [iterateMain]
  constructor
  · intro hanswered
    split at hanswered
    · cases hanswered
    · cases hanswered
    · next message rest hread =>
      split at hanswered
      · cases hanswered
      · next output hanswer =>
        cases hanswered
        exact ⟨message, hread, hanswer, rfl⟩
  · rintro ⟨message, hread, hanswer, rfl⟩
    rw [hread]
    dsimp only
    rw [hanswer]

/-- An iteration answers a framed payload exactly when the payload can be served. -/
theorem iterateMain_framed_iff (hlength : payload.length < 256 ^ 4) :
    iterateMain library environment state (framed payload ++ rest) =
        (next, .answered output left) ↔
      serves library environment state payload = true ∧ left = rest ∧
        next = stateAfter library environment state payload ∧
          ∃ message response, messageOf library payload = some message ∧
            handleMessage library environment state message = .ok response ∧
              output = written library response := by
  rw [iterateMain_eq_answered]
  constructor
  · rintro ⟨message, hread, hanswer, rfl⟩
    obtain ⟨hshort, hmessage, rfl⟩ := (readMessage_framed_iff library hlength).mp hread
    obtain ⟨hsafe, hfits, response, hresponse, rfl⟩ :=
      (answerMessage_eq_ok library environment state).mp hanswer
    refine ⟨?_, rfl, ?_, message, response, hmessage, hresponse, rfl⟩
    · rw [serves, hmessage, Option.any_some, hsafe, hfits, decide_eq_true hshort]
      rfl
    · rw [stateAfter, hmessage]
  · rintro ⟨hserves, rfl, rfl, message, response, hmessage, hresponse, rfl⟩
    rw [serves, hmessage, Option.any_some, Bool.and_eq_true, Bool.and_eq_true] at hserves
    obtain ⟨hshort, hsafe, hfits⟩ := hserves
    refine ⟨message, ?_, ?_, ?_⟩
    · exact (readMessage_framed_iff library hlength).mpr ⟨of_decide_eq_true hshort, hmessage, rfl⟩
    · exact (answerMessage_eq_ok library environment state).mpr
        ⟨hsafe, hfits, response, hresponse, rfl⟩
    · rw [stateAfter, hmessage]

theorem exists_response (hserves : serves library environment state payload = true) :
    ∃ message response, messageOf library payload = some message ∧
      handleMessage library environment state message = .ok response := by
  rw [serves, Bool.and_eq_true, Option.any_eq_true] at hserves
  obtain ⟨_, message, hmessage, hanswer⟩ := hserves
  have hsafe := (Bool.and_eq_true _ _ ▸ hanswer).1
  rw [← isOk_lookUpAction library environment state message] at hsafe
  obtain ⟨response, hresponse⟩ := isOk_iff.mp hsafe
  obtain ⟨_, _, hhandle⟩ := bind_eq_ok.mp hresponse
  exact ⟨message, response, hmessage, hhandle⟩

/-! ## The run -/

theorem mainLoop_cons_eq {environments : List Environment} :
    mainLoop library (environment :: environments) state input = (output, true) ↔
      ∃ next first left following,
        iterateMain library environment state input = (next, .answered first left) ∧
          mainLoop library environments next left = (following, true) ∧
            output = first ++ following := by
  rw [mainLoop]
  constructor
  · intro hrun
    split at hrun
    · cases hrun
    · cases hrun
    · next next first left hiterate =>
      obtain ⟨rfl, hrunning⟩ := Prod.mk.inj hrun
      exact ⟨next, first, left, _, hiterate, Prod.ext rfl hrunning, rfl⟩
  · rintro ⟨next, first, left, following, hiterate, hfollowing, rfl⟩
    rw [hiterate]
    dsimp only
    rw [hfollowing]

/-- The input with the messages of a run. -/
def inputOf (run : List (Environment × Bytes)) : Bytes := run.flatMap fun message => framed message.2

/-- The loop answers each message of a run in its turn, with one response that carries its
id, and nothing else. -/
def AnswersAll (state : HostState) (run : List (Environment × Bytes)) : Prop :=
  ∃ responses : List JsonObject,
    List.Forall₂ (fun message response => Echoes library message.2 response) run responses ∧
      mainLoop library (run.map Prod.fst) state (inputOf run) =
        (responses.flatMap (written library), true)

variable {run : List (Environment × Bytes)}

theorem servesAll_of_running (hframed : ∀ message ∈ run, message.2.length < 256 ^ 4)
    (hrunning : mainLoop library (run.map Prod.fst) state (inputOf run) = (output, true)) :
    servesAll library state run = true := by
  induction run generalizing state output with
  | nil => rfl
  | cons message rest ih =>
      obtain ⟨environment, payload⟩ := message
      obtain ⟨hlength, hrest⟩ := List.forall_mem_cons.mp hframed
      obtain ⟨next, first, left, following, hiterate, hfollowing, _⟩ :=
        (mainLoop_cons_eq library environment state).mp hrunning
      obtain ⟨hserves, rfl, rfl, _⟩ :=
        (iterateMain_framed_iff library environment state hlength).mp hiterate
      rw [servesAll, hserves, ih _ hrest hfollowing]
      rfl

theorem answers_of_servesAll (hframed : ∀ message ∈ run, message.2.length < 256 ^ 4)
    (hserves : servesAll library state run = true) : AnswersAll library state run := by
  induction run generalizing state with
  | nil => exact ⟨[], .nil, rfl⟩
  | cons message rest ih =>
      obtain ⟨environment, payload⟩ := message
      obtain ⟨hlength, hrest⟩ := List.forall_mem_cons.mp hframed
      rw [servesAll, Bool.and_eq_true] at hserves
      obtain ⟨responses, hechoes, hfollowing⟩ := ih _ hrest hserves.2
      obtain ⟨message, response, hmessage, hresponse⟩ :=
        exists_response library environment state hserves.1
      refine ⟨response :: responses, .cons ?_ hechoes, ?_⟩
      · intro read value hread hid
        obtain rfl := Option.some.inj (hmessage.symm.trans hread)
        exact lookup_handleMessage library environment state hresponse hid
      · exact (mainLoop_cons_eq library environment state).mpr
          ⟨_, _, _, _,
            (iterateMain_framed_iff library environment state hlength).mpr
              ⟨hserves.1, rfl, rfl, message, response, hmessage, hresponse, rfl⟩,
            hfollowing, rfl⟩

/-! ## What the overlay grants -/

/-- An entry as the agent keeps it: for an anchor, and until a time. -/
structure WellFormed (entry : JsonObject) : Prop where
  anchor : normalizeRuntimeDependencyHost (entry.lookup "anchorHost".toList) ≠ []
  expiry : ∃ time, entry.lookup "expiresAt".toList = some (.string time)

/-- An entry of the kind, in an overlay that can be read, names the host as a dependency. -/
def NamedByOverlay (file : File) (kind : JsonObject → Prop) (host : Text) : Prop :=
  host ≠ [] ∧
    ∃ bytes content members items entry, file = .content bytes ∧
      Utf8.decodeStrict bytes = some content ∧ library.loads content = .ok (.object members) ∧
        members.lookup "entries".toList = some (.array items) ∧ Json.object entry ∈ items ∧
          kind entry ∧ normalizeRuntimeDependencyHost (entry.lookup "dependencyHost".toList) = host

/-- The environment without its overlay. -/
def withoutOverlay (environment : Environment) : Environment := { environment with overlay := .absent }

/-- Only the overlay can allow the host: the policy is in force, and the host is neither
protected, blocked nor listed, and no host of the portal. -/
def LeftToOverlay (environment : Environment) (host : Text) : Prop :=
  ∃ whitelist raw inputs, environment.whitelist = some whitelist ∧ whitelist.file = .content raw ∧
    readRuntimePolicyInputs library (withoutOverlay environment) = .ok inputs ∧
      environment.systemDisabled = false ∧
        (policyLines library (Utf8.decodeIgnore raw)).markerDisabled = false ∧
          ∀ hosts ∈ [inputs.protectedHosts,
              (policyLines library (Utf8.decodeIgnore raw)).blockedSubdomains,
              (policyLines library (Utf8.decodeIgnore raw)).whitelist, inputs.captiveHosts],
            policyCoversHost host hosts = false

theorem mem_objects {values : List Json} {members : JsonObject} :
    members ∈ objects values ↔ .object members ∈ values := by
  rw [objects, List.mem_filterMap]
  constructor
  · rintro ⟨value, hvalue, hmembers⟩
    cases value with
    | object found =>
        cases hmembers
        exact hvalue
    | null | bool | int | real | string | array => cases hmembers
  · intro hvalue
    exact ⟨.object members, hvalue, rfl⟩

theorem objects_strings {α : Type} (name : α → Text) (values : List α) :
    objects (values.map fun value => .string (name value)) = [] := by
  rw [objects, List.filterMap_map]
  exact List.filterMap_eq_nil_iff.mpr fun value _ => rfl

theorem mem_overlayEntries {overlay entry : JsonObject} {entries : List JsonObject}
    (hentries : overlayEntries overlay = .ok entries) (hentry : entry ∈ entries) :
    ∃ items, overlay.lookup "entries".toList = some (.array items) ∧ .object entry ∈ items := by
  rw [overlayEntries] at hentries
  cases hlookup : overlay.lookup "entries".toList with
  | none =>
      rw [hlookup] at hentries
      cases hentries
      cases hentry
  | some value =>
      rw [hlookup] at hentries
      obtain ⟨items, hitems, rfl⟩ := map_eq_ok.mp hentries
      cases value with
      | array values =>
          cases hitems
          exact ⟨items, rfl, mem_objects.mp hentry⟩
      | string value =>
          cases hitems
          rw [objects_strings] at hentry
          cases hentry
      | object members =>
          cases hitems
          rw [objects_strings] at hentry
          cases hentry
      | null | bool | int | real => cases hitems

theorem withEntries_eq_ok {α : Type} {parsed : Run Json} {empty result : α}
    {use : JsonObject → List JsonObject → α} (hread : withEntries parsed empty use = .ok result) :
    result = empty ∨
      ∃ members entries, parsed = .ok (.object members) ∧ overlayEntries members = .ok entries ∧
        result = use members entries := by
  rcases parsed with fault | value
  · cases fault with
    | limit => cases hread
    | structError | unicodeDecode | jsonDecode | type | os =>
        cases hread
        exact .inl rfl
  · cases value with
    | object members =>
        obtain ⟨entries, hentries, rfl⟩ := map_eq_ok.mp hread
        exact .inr ⟨members, entries, rfl, hentries, rfl⟩
    | null | bool | int | real | string | array =>
        cases hread
        exact .inl rfl

/-- Where no entry of one kind names a host, it is a dependency exactly when an entry of
another kind does. -/
theorem mem_dependencies_iff {file : File} {policy : OverlayPolicy} {kind : JsonObject → Prop}
    {host : Text} (hread : readOverlayPolicy library file = .ok policy)
    (hunnamed : ¬NamedByOverlay library file kind host) :
    host ∈ policy.dependencies ↔ NamedByOverlay library file (fun entry => ¬kind entry) host := by
  constructor
  · intro hhost
    cases file with
    | absent =>
        cases hread
        cases hhost
    | unreadable errno error =>
        cases hread
        cases hhost
    | content bytes =>
        obtain rfl | ⟨members, entries, hparsed, hentries, rfl⟩ := withEntries_eq_ok hread
        · cases hhost
        · obtain ⟨hnamed, hnonempty⟩ := List.mem_filter.mp hhost
          obtain ⟨entry, hentry, rfl⟩ := List.mem_map.mp hnamed
          obtain ⟨items, hitems, hmem⟩ := mem_overlayEntries hentries hentry
          obtain ⟨content, hcontent, hparse⟩ := bind_eq_ok.mp hparsed
          have hdecoded := decodeUtf8_eq_ok.mp hcontent
          have hloads := mapError_eq_ok.mp hparse
          have hsome := of_decide_eq_true hnonempty
          refine ⟨hsome, bytes, content, members, items, entry, rfl, hdecoded, hloads, hitems, hmem,
            fun hkind => hunnamed ?_, rfl⟩
          exact ⟨hsome, bytes, content, members, items, entry, rfl, hdecoded, hloads, hitems, hmem,
            hkind, rfl⟩
  · rintro ⟨hsome, bytes, content, members, items, entry, rfl, hdecoded, hloads, hitems, hmem, _,
      rfl⟩
    have hparsed : (decodeUtf8 bytes).bind library.parse = .ok (.object members) :=
      bind_eq_ok.mpr ⟨content, decodeUtf8_eq_ok.mpr hdecoded, mapError_eq_ok.mpr hloads⟩
    have hentries : overlayEntries members = .ok (objects items) := by
      rw [overlayEntries, hitems]
      rfl
    rw [readOverlayPolicy, hparsed, withEntries, hentries] at hread
    cases hread
    exact List.mem_filter.mpr
      ⟨List.mem_map.mpr ⟨entry, mem_objects.mpr hmem, rfl⟩, decide_eq_true hsome⟩

/-- Without the overlay the inputs are the same, but for the dependencies. -/
theorem readRuntimePolicyInputs_withoutOverlay {inputs : RuntimePolicyInputs}
    (hread : readRuntimePolicyInputs library environment = .ok inputs) :
    ∃ alone, readRuntimePolicyInputs library (withoutOverlay environment) = .ok alone ∧
      alone.protectedHosts = inputs.protectedHosts ∧ alone.captiveHosts = inputs.captiveHosts ∧
        alone.runtimeDependencies = [] ∧
          ∀ kind host, ¬NamedByOverlay library environment.overlay kind host →
            (host ∈ inputs.runtimeDependencies ↔
              NamedByOverlay library environment.overlay (fun entry => ¬kind entry) host) := by
  rw [readRuntimePolicyInputs] at hread
  obtain ⟨overlay, hoverlay, hread⟩ := bind_eq_ok.mp hread
  obtain ⟨whitelistHost, hwhitelist, hread⟩ := bind_eq_ok.mp hread
  obtain ⟨apiHost, hapi, hread⟩ := bind_eq_ok.mp hread
  obtain ⟨healthApiHost, hhealth, hread⟩ := bind_eq_ok.mp hread
  obtain rfl := pure_eq_ok.mp hread
  refine ⟨runtimePolicyInputs (withoutOverlay environment) .empty
    [whitelistHost, apiHost, healthApiHost], ?_, rfl, rfl, rfl,
    fun kind host hunnamed => mem_dependencies_iff library hoverlay hunnamed⟩
  dsimp only [readRuntimePolicyInputs, withoutOverlay, readOverlayPolicy]
  rw [hwhitelist, hapi, hhealth]
  rfl

/-- What a decision says is allowed. -/
def Decision.verdict (decision : Decision) : Bool × Text := (decision.inWhitelist, decision.decision)

/-- A decision without the dependencies differs exactly where they alone decide. -/
theorem verdict_decideHost_iff {snapshot alone : Snapshot} {host : Text}
    (hactive : alone.active = snapshot.active)
    (hwhitelist : alone.whitelist = snapshot.whitelist)
    (hblocked : alone.blockedSubdomains = snapshot.blockedSubdomains)
    (hprotected : alone.inputs.protectedHosts = snapshot.inputs.protectedHosts)
    (hcaptive : alone.inputs.captiveHosts = snapshot.inputs.captiveHosts)
    (hempty : alone.inputs.runtimeDependencies = []) :
    (decideHost snapshot host).verdict = (decideHost alone host).verdict ↔
      ¬(host ∈ snapshot.inputs.runtimeDependencies ∧ snapshot.active = true ∧
        ∀ hosts ∈ [snapshot.inputs.protectedHosts, snapshot.blockedSubdomains, snapshot.whitelist,
          snapshot.inputs.captiveHosts], policyCoversHost host hosts = false) := by
  rw [← List.contains_iff_mem]
  simp only [List.forall_mem_cons]
  unfold decideHost
  rw [hactive, hwhitelist, hblocked, hprotected, hcaptive, hempty]
  -- every branch but that of the dependencies is the same on both sides
  cases snapshot.active with
  | false => exact iff_of_true rfl fun hopen => Bool.false_ne_true hopen.2.1
  | true =>
  cases policyCoversHost host snapshot.inputs.protectedHosts with
  | true => exact iff_of_true rfl fun hopen => Bool.false_ne_true hopen.2.2.1.symm
  | false =>
  cases policyCoversHost host snapshot.blockedSubdomains with
  | true => exact iff_of_true rfl fun hopen => Bool.false_ne_true hopen.2.2.2.1.symm
  | false =>
  cases policyCoversHost host snapshot.whitelist with
  | true => exact iff_of_true rfl fun hopen => Bool.false_ne_true hopen.2.2.2.2.1.symm
  | false =>
  cases snapshot.inputs.runtimeDependencies.contains host with
  | false => exact iff_of_true rfl fun hopen => Bool.false_ne_true hopen.1
  | true =>
  cases policyCoversHost host snapshot.inputs.captiveHosts with
  | true => exact iff_of_true rfl fun hopen => Bool.false_ne_true hopen.2.2.2.2.2.1.symm
  | false =>
      refine iff_of_false (fun hsame => ?_) fun hopen =>
        hopen ⟨rfl, rfl, rfl, rfl, rfl, rfl, List.forall_mem_nil _⟩
      exact Bool.false_ne_true (congrArg Prod.fst hsame).symm

/-- Where no well formed entry names a host, the decision needs the overlay exactly when
a malformed one names it and the rest of the policy leaves it open. -/
theorem readPolicySnapshot_withoutOverlay {snapshot : SnapshotResult}
    (hread : readPolicySnapshot library environment = .ok snapshot) :
    ∃ alone, readPolicySnapshot library (withoutOverlay environment) = .ok alone ∧
      ∀ kind host, ¬NamedByOverlay library environment.overlay kind host →
        ((decisionOf snapshot host).verdict = (decisionOf alone host).verdict ↔
          ¬(NamedByOverlay library environment.overlay (fun entry => ¬kind entry) host ∧
            LeftToOverlay library environment host)) := by
  rw [readPolicySnapshot] at hread
  have hunread (hnone : ∀ whitelist raw, environment.whitelist = some whitelist →
      whitelist.file ≠ .content raw) (host : Text) : ¬LeftToOverlay library environment host := by
    rintro ⟨whitelist, raw, _, hwhitelist, hfile, _⟩
    exact hnone whitelist raw hwhitelist hfile
  cases hwhitelist : environment.whitelist with
  | none =>
      rw [hwhitelist] at hread hunread
      cases hread
      refine ⟨_, by rw [readPolicySnapshot, withoutOverlay, hwhitelist], fun kind host _ =>
        iff_of_true rfl fun hleft => hunread (fun _ _ hnone => by cases hnone) host hleft.2⟩
  | some whitelist =>
      rw [hwhitelist] at hread hunread
      dsimp only at hread
      cases hfile : whitelist.file
      case absent | unreadable =>
          rw [hfile] at hread
          cases hread
          refine ⟨_, by rw [readPolicySnapshot, withoutOverlay, hwhitelist]; dsimp only; rw [hfile],
            fun kind host _ => iff_of_true rfl fun hleft => hunread ?_ host hleft.2⟩
          rintro _ raw hsome hcontent
          cases hsome
          cases hfile.symm.trans hcontent
      case content raw =>
          rw [hfile] at hread
          obtain ⟨inputs, hinputs, rfl⟩ := map_eq_ok.mp hread
          obtain ⟨alone, halone, hprotected, hcaptive, hempty, hnamed⟩ :=
            readRuntimePolicyInputs_withoutOverlay library environment hinputs
          refine ⟨_, by
            rw [readPolicySnapshot, withoutOverlay, hwhitelist]
            dsimp only
            rw [hfile]
            exact map_eq_ok.mpr ⟨alone, halone, rfl⟩, fun kind host hunnamed => ?_⟩
          dsimp only [decisionOf]
          refine Iff.trans (verdict_decideHost_iff rfl rfl rfl hprotected hcaptive hempty) ?_
          rw [not_iff_not, hnamed kind host hunnamed, LeftToOverlay]
          refine and_congr_right fun _ => ?_
          rw [← hprotected, ← hcaptive]
          constructor
          · rintro ⟨hactive, hopen⟩
            rw [Bool.not_eq_true', Bool.or_eq_false_iff] at hactive
            exact ⟨whitelist, raw, alone, hwhitelist, hfile, halone, hactive.1, hactive.2, hopen⟩
          · rintro ⟨_, _, _, hsome, hcontent, hinputs, henabled, hmarker, hopen⟩
            obtain rfl := Option.some.inj (hwhitelist.symm.trans hsome)
            cases hfile.symm.trans hcontent
            cases halone.symm.trans hinputs
            exact ⟨by rw [henabled, hmarker]; rfl, hopen⟩

/-- The members of a result that say what is allowed. -/
def granted (result : JsonObject) : Option Json × Option Json :=
  (result.lookup "in_whitelist".toList, result.lookup "policy_decision".toList)

theorem granted_eq_iff {left right : Decision} :
    (some (Json.bool left.inWhitelist), some (Json.string left.decision)) =
        (some (Json.bool right.inWhitelist), some (Json.string right.decision)) ↔
      left.verdict = right.verdict := by
  simp [Decision.verdict]

theorem checkDomain_withoutOverlay {kind : JsonObject → Prop} {domain : Text} {result : JsonObject}
    (hcheck : checkDomain library environment domain = .ok result)
    (hunnamed : ¬NamedByOverlay library environment.overlay kind
      (lower (stripDots (strip domain)))) :
    (∃ alone, checkDomain library (withoutOverlay environment) domain = .ok alone ∧
      granted result = granted alone) ↔
        ¬(NamedByOverlay library environment.overlay (fun entry => ¬kind entry)
            (lower (stripDots (strip domain))) ∧
          LeftToOverlay library environment (lower (stripDots (strip domain)))) := by
  obtain ⟨snapshot, hsnapshot, rfl⟩ := map_eq_ok.mp hcheck
  obtain ⟨alone, halone, hsame⟩ :=
    readPolicySnapshot_withoutOverlay library environment hsnapshot
  rw [← hsame kind _ hunnamed, checkDomain, halone, ← granted_eq_iff]
  simp only [Except.map, Except.ok.injEq, exists_eq_left', granted, lookup_fields, List.lookup_cons]
  rfl

def sampleMessage : Text := "\x7b\"action\": \"hello\", \"id\": \"m1\"\x7d".toList

def versionMessage : Text := "\x7b\"action\": \"get-policy-version\"\x7d".toList

def nullEntries : Text := "\x7b\"entries\": null\x7d".toList

/-- An entry without an anchor. -/
def anchorless : JsonObject := fields [("dependencyHost", text "games.example")]

def anchorlessEntries : Text :=
  "\x7b\"entries\": [\x7b\"dependencyHost\": \"games.example\"\x7d]\x7d".toList

/-- The library, as far as the samples need it. -/
def sampleLibrary : Library where
  loads content :=
    if content = sampleMessage then
      .ok (.object (fields [("action", text "hello"), ("id", text "m1")]))
    else if content = versionMessage then
      .ok (.object (fields [("action", text "get-policy-version")]))
    else if content = nullEntries then .ok (.object (fields [("entries", .null)]))
    else if content = anchorlessEntries then
      .ok (.object (fields [("entries", .array [.object anchorless])]))
    else .error .decode
  dumps _ :=
    Utf8.encode
      "\x7b\"success\": false, \"error\": \"Unknown action: hello\", \"id\": \"m1\"\x7d".toList
  isAlnum c := Ascii.isLetter c || Ascii.isDigit c
  upper content := content.map Char.toUpper
  sha256 _ := "57ffbf3884d5baddc4fa8b6a76b4e4b8fcd1a84f30862ab935faf1552566eba2".toList

/-- A machine with a whitelist and the given overlay. -/
def sampleEnvironment (overlay : File) : Environment where
  whitelist :=
    some
      { path := "/var/lib/openpath/whitelist.txt".toList
        file := .content (Utf8.encode "school.example".toList), mtime := 0 }
  systemDisabled := false
  overlay := overlay
  whitelistUrl := .absent
  apiUrl := .absent
  healthApiUrl := .absent
  transportConf := .absent
  diagnosticsConf := .absent
  captivePortalHosts := []
  hostname := "lab-1".toList
  command := none
  resolution _ := (false, none)
  update := .notFound
  queueDirectory := false
  queueFails _ := false
  now := 0

def sampleState : HostState where
  windowStart := 0
  windowMessages := 0

/-- The overlay is no text. -/
def brokenOverlay : File := .content [0xff]

theorem not_namedByOverlay_broken (kind : JsonObject → Prop) (host : Text) :
    ¬NamedByOverlay sampleLibrary brokenOverlay kind host := by
  rintro ⟨_, bytes, content, members, items, entry, hbytes, hdecoded, _⟩
  cases hbytes
  cases hdecoded

theorem not_namedByOverlay_anchorless (host : Text) :
    ¬NamedByOverlay sampleLibrary (.content (Utf8.encode anchorlessEntries)) WellFormed host := by
  rintro ⟨_, bytes, content, members, items, entry, hbytes, hdecoded, hloads, hitems, hentry,
    hwellFormed, _⟩
  cases hbytes
  obtain rfl : anchorlessEntries = content := Option.some.inj (Eq.trans (by decide) hdecoded)
  cases hloads
  cases hitems
  obtain rfl := Json.object.inj (List.mem_singleton.mp hentry)
  exact hwellFormed.anchor (by decide)

/-- The result allows the host. -/
def allows (result : JsonObject) : Bool :=
  match (granted result).1 with
  | some (.bool value) => value
  | _ => false

end OpenPath.Linux.NativeHost
