/-
# The loop of the native host

The other actions of the native host, the dispatch of a message by its action, and the
loop that reads framed messages and writes framed responses.

An iteration of the loop answers a message exactly when nothing that it touches raises
an exception that no handler catches. What that takes is spelled out action by action,
as a condition on the message and on the files.
-/

import OpenPath.Linux.NativeHostPolicy

namespace OpenPath.Linux.NativeHost

open Python Foundation

/-! ## Configuration -/

/-- The group of `/w/([^/]+)/`, at its first match. -/
def machineToken (url : Text) : Option Text :=
  url.tails.findSome? fun tail =>
    if "/w/".toList.isPrefixOf tail then
      let rest := tail.drop 3
      let token := rest.takeWhile (· ≠ '/')
      if token ≠ [] ∧ token.length < rest.length then some token else none
    else none

def whitelistUrlPath : Text := "/etc/openpath/whitelist-url.conf".toList

/-- `get_machine_token` -/
def getMachineToken (environment : Environment) : Run JsonObject :=
  match osErrorText whitelistUrlPath environment.whitelistUrl with
  | some error =>
      .ok
        (fields
          [("success", .bool false), ("action", text "get-machine-token"),
            ("error",
              .string
                ("Could not read ".toList ++ whitelistUrlPath ++ ": ".toList ++ error))])
  | none =>
      (readText environment.whitelistUrl).map fun url =>
        match machineToken (strip url) with
        | none => failure "get-machine-token" "Whitelist URL does not contain a machine token"
        | some token =>
            fields
              [("success", .bool true), ("action", text "get-machine-token"),
                ("token", .string token)]

/-- `get_native_config` -/
def getNativeConfig (environment : Environment) : Run JsonObject := do
  let apiUrl ← readOptionalText environment.apiUrl
  let whitelistUrl ← readOptionalText environment.whitelistUrl
  if apiUrl = [] then return failure "get-config" "API URL is not configured"
  else
    let normalized := apiUrl.rdropWhile (· == '/')
    return fields
      [("success", .bool true), ("action", text "get-config"), ("apiUrl", .string normalized),
        ("requestApiUrl", .string normalized), ("fallbackApiUrls", .array []),
        ("hostname", .string environment.hostname),
        ("machineToken", .string ((machineToken whitelistUrl).getD [])),
        ("whitelistUrl", .string whitelistUrl)]

/-- A retirement switch: the file says so, after its first `=` if there is one. -/
def switchedOff : File → Bool
  | .content bytes =>
      let content := lower (strip (Utf8.decode bytes))
      let value := if content.contains '=' then strip (content.dropWhile (· ≠ '=')).tail else content
      ["1".toList, "true".toList, "yes".toList, "on".toList, "disabled".toList].contains value
  | _ => false

/-- `get_native_host_capabilities` -/
def getNativeHostCapabilities (environment : Environment) : List Text :=
  let transport := !switchedOff environment.transportConf
  (if transport then ["runtime-dependency-enqueue".toList] else []) ++
    ["runtime-dependency-check-batch".toList, "message-id-echo".toList] ++
    (if transport then ["runtime-dependency-auto-reload".toList] else []) ++
    (if transport && !switchedOff environment.diagnosticsConf then
      ["extension-diagnostics".toList] else [])

/-! ## The whitelist -/

def maxDomains : Nat := 50

def maxPathRules : Nat := 500

section Rules

variable (library : Library)

/-- The text of an element, if it is a domain that may be checked. -/
def validDomain (domain : Json) : Option Text :=
  match domain with
  | .string value =>
      let normalized := lower (strip value)
      if normalized = [] then none
      else if normalized.all fun c => library.isAlnum c || c == '.' || c == '-' then
        some normalized
      else none
  | _ => none

/-- `get_valid_domains` -/
def getValidDomains (domains : Json) : Run (List Text) :=
  (sliceOf maxDomains domains).map fun elements => elements.filterMap (validDomain library)

/-- The lines of a file in text mode. -/
def fileLines (raw : Bytes) : List Text :=
  (universalNewlines (Utf8.decodeIgnore raw)).splitOn '\n'

/-- The rules in the sections with a header. The section before the first header is
that of the whitelist. -/
def sectionRules (header : Text) (headers : List Text) : Bool → List Text → List Text
  | _, [] => []
  | inside, rawLine :: rest =>
      let line := strip rawLine
      let upper := library.upper line
      if upper = header then sectionRules header headers true rest
      else if headers.contains upper then sectionRules header headers false rest
      else if line = [] ∨ "#".toList.isPrefixOf line then sectionRules header headers inside rest
      else if inside then line :: sectionRules header headers inside rest
      else sectionRules header headers inside rest

def sectionHeaders : List Text :=
  ["## WHITELIST".toList, "## BLOCKED-SUBDOMAINS".toList, "## BLOCKED-PATHS".toList,
    "## ALLOWED-PATHS".toList]

/-- A response with the rules of a section; every exception becomes a failure. -/
def rulesResponse (environment : Environment) (action header member : String)
    (limit : Option Nat) : JsonObject :=
  match environment.whitelist with
  | none => failure action "Whitelist file not found"
  | some whitelist =>
      match osErrorText whitelist.path whitelist.file, whitelist.file with
      | none, .content raw =>
          let found := sectionRules library header.toList sectionHeaders false (fileLines raw)
          let rules :=
            match limit with
            | some limit => found.take limit
            | none => found
          fields
            [("success", .bool true), ("action", text action), (member, texts rules),
              ("count", .int rules.length),
              ("hash", .string (library.sha256 (Utf8.encode (['\n'].intercalate rules)))),
              ("mtime", .int whitelist.mtime), ("source", .string whitelist.path)]
      | error, _ =>
          fields
            [("success", .bool false), ("action", text action),
              ("error", .string (error.getD []))]

/-- `get_blocked_paths` -/
def getBlockedPaths (environment : Environment) : JsonObject :=
  rulesResponse library environment "get-blocked-paths" "## BLOCKED-PATHS" "paths"
    (some maxPathRules)

/-- `get_allowed_paths` -/
def getAllowedPaths (environment : Environment) : JsonObject :=
  rulesResponse library environment "get-allowed-paths" "## ALLOWED-PATHS" "paths"
    (some maxPathRules)

/-- `get_blocked_subdomains` -/
def getBlockedSubdomains (environment : Environment) : JsonObject :=
  rulesResponse library environment "get-blocked-subdomains" "## BLOCKED-SUBDOMAINS" "subdomains"
    none

/-- `get_policy_version` -/
def getPolicyVersion (environment : Environment) : Run JsonObject :=
  (readPolicySnapshot library environment).map fun snapshot =>
    match snapshot with
    | .ok snapshot =>
        fields
          [("success", .bool true), ("action", text "get-policy-version"),
            ("version", .string snapshot.version)]
    | .error reason =>
        fields
          [("success", .bool false), ("action", text "get-policy-version"),
            ("error", .string reason)]

/-- `check_domains`, one after the other -/
def checkDomains (environment : Environment) : List Text → Run (List JsonObject)
  | [] => .ok []
  | domain :: rest => do
      let result ← checkDomain library environment domain
      let results ← checkDomains environment rest
      return result :: results

/-- The action `check` -/
def check (environment : Environment) (message : JsonObject) : Run JsonObject :=
  let domains := (message.lookup "domains".toList).getD (.array [])
  if truthy domains then do
    let valid ← getValidDomains library domains
    let results ← checkDomains library environment valid
    return fields
      [("success",
          .bool
            (results.all fun result =>
              !Json.isText "unknown".toList (result.lookup "policy_decision".toList))),
        ("action", text "check"), ("results", resultsOf results)]
  else .ok (fields [("success", .bool false), ("error", text "No domains provided")])

/-- `whitelist_file_contains_domain` -/
def whitelistFileContainsDomain (raw : Bytes) (domain : Text) : Bool :=
  let expected := lower (stripDots (strip domain))
  (fileLines raw).any fun rawLine =>
    let line := lower (strip rawLine)
    !(line.isEmpty || "#".toList.isPrefixOf line) &&
      (line == expected || ('.' :: line).isSuffixOf expected)

/-- `whitelist_contains_domains` -/
def whitelistContainsDomains (environment : Environment) (domains : List Text) : Bool :=
  domains.isEmpty ||
    match environment.whitelist.map WhitelistFile.file with
    | some (File.content raw) => domains.all (whitelistFileContainsDomain raw)
    | _ => false

/-- `trigger_update_whitelist`, where every exception becomes a failure -/
def triggerUpdateWhitelist (environment : Environment) (domains : List Text) : JsonObject :=
  let response (success : Bool) (rest : List (String × Json)) : JsonObject :=
    fields
      ([("success", .bool success), ("action", text "update-whitelist"),
        ("domains", texts domains)] ++ rest)
  if !domains.isEmpty && whitelistContainsDomains environment domains then
    response true [("message", text "OpenPath update wrote expected domains")]
  else
    match environment.update with
    | .notFound => response false [("error", text "Update script not found")]
    | .failed output error code =>
        let reason :=
          if error.isEmpty then "Update exited with code ".toList ++ (toString code).toList
          else error
        response false [("output", .string output), ("error", .string reason)]
    | .finished output converged =>
        if domains.isEmpty then
          response true
            [("message", text "OpenPath update triggered"), ("output", .string output)]
        else if converged then
          response true
            [("message", text "OpenPath update wrote expected domains"), ("output", .string output)]
        else
          response false
            [("output", .string output),
              ("error",
                .string
                  ("OpenPath update did not write expected domains: ".toList ++
                    ", ".toList.intercalate domains))]
    | .timedOut => response false [("error", text "Update timed out")]
    | .raised error => response false [("error", .string error)]

/-- The action `update-whitelist` -/
def updateWhitelist (environment : Environment) (message : JsonObject) : Run JsonObject :=
  (getValidDomains library ((message.lookup "domains".toList).getD (.array []))).map
    (triggerUpdateWhitelist environment)

end Rules

/-! ## The extension's diagnostics -/

def extensionDiagnosticAllowedFields : List Text :=
  ["ts".toList, "kind".toList, "tabId".toList, "frameId".toList, "type".toList,
    "anchorHost".toList, "dependencyHost".toList, "host".toList, "transport".toList,
    "from".toList, "to".toList, "outcome".toList, "ms".toList, "reason".toList,
    "navigationId".toList, "methodKnown".toList, "committed".toList, "source".toList]

/-- `^[a-zA-Z][a-zA-Z0-9+.-]*://` -/
def urlLike (value : Text) : Bool :=
  let isScheme (c : Char) : Bool :=
    Ascii.isLetter c || Ascii.isDigit c || c == '+' || c == '.' || c == '-'
  value.head?.any Ascii.isLetter && "://".toList.isPrefixOf (value.dropWhile isScheme)

/-- Whether a field of an event is kept, or the error of `int(value)`. -/
def keepsField : Json → Except Text Bool
  | .bool _ => .ok true
  | .int _ => .ok true
  | .real shown =>
      if shown = "nan".toList then .error "cannot convert float NaN to integer".toList
      else if shown = "inf".toList ∨ shown = "-inf".toList then
        .error "cannot convert float infinity to integer".toList
      else .ok true
  | value =>
      let shown := strip (str value)
      .ok (!(shown.isEmpty || urlLike shown))

/-- Whether anything of an event is left. -/
def keepsEvent : Json → Except Text Bool
  | .object event =>
      (extensionDiagnosticAllowedFields.filterMap fun name => event.lookup name).foldlM
        (fun kept value => (keepsField value).map (kept || ·)) false
  | _ => .ok false

/-- The window after one more message. -/
def countedWindow (environment : Environment) (state : HostState) : HostState :=
  if 60000 ≤ environment.now - state.windowStart then
    { windowStart := environment.now, windowMessages := 1 }
  else { state with windowMessages := state.windowMessages + 1 }

/-- `handle_report_extension_diagnostics`, where every exception becomes a failure -/
def handleReportExtensionDiagnostics (environment : Environment) (state : HostState)
    (message : JsonObject) : JsonObject :=
  if 60 < (countedWindow environment state).windowMessages then
    fields
      [("success", .bool true), ("action", text "report-extension-diagnostics"),
        ("written", .int 0), ("rateLimited", .bool true)]
  else
    let events :=
      match message.lookup "events".toList with
      | some (.array events) => events
      | _ => []
    match (events.take 50).mapM keepsEvent with
    | .ok kept =>
        fields
          [("success", .bool true), ("action", text "report-extension-diagnostics"),
            ("written", .int (kept.filter id).length), ("dropped", .int (events.length - 50 : Nat))]
    | .error error =>
        fields
          [("success", .bool false), ("action", text "report-extension-diagnostics"),
            ("error", .string ("extension diagnostics failed: ".toList ++ error))]

/-! ## Dispatch -/

inductive Action
  | check
  | list
  | status
  | ping
  | getHostname
  | getMachineToken
  | getConfig
  | updateWhitelist
  | getBlockedPaths
  | getAllowedPaths
  | getBlockedSubdomains
  | getPolicyVersion
  | allowLocalRuntimeDependency
  | checkLocalRuntimeDependency
  | reportExtensionDiagnostics
  | allowLocalRuntimeDependencyBatch
  deriving DecidableEq, Repr

def actions : List (Text × Action) :=
  [("check".toList, .check), ("list".toList, .list), ("status".toList, .status),
    ("ping".toList, .ping), ("get-hostname".toList, .getHostname),
    ("get-machine-token".toList, .getMachineToken), ("get-config".toList, .getConfig),
    ("update-whitelist".toList, .updateWhitelist),
    ("get-blocked-paths".toList, .getBlockedPaths),
    ("get-allowed-paths".toList, .getAllowedPaths),
    ("get-blocked-subdomains".toList, .getBlockedSubdomains),
    ("get-policy-version".toList, .getPolicyVersion),
    ("allow-local-runtime-dependency".toList, .allowLocalRuntimeDependency),
    ("check-local-runtime-dependency".toList, .checkLocalRuntimeDependency),
    ("report-extension-diagnostics".toList, .reportExtensionDiagnostics),
    ("allow-local-runtime-dependency-batch".toList, .allowLocalRuntimeDependencyBatch)]

/-- The action of a message, if the host knows it. -/
def actionOf (action : Json) : Option Action :=
  match action with
  | .string name => actions.lookup name
  | _ => none

/-- The output of `openpath domains`, line by line. -/
def getWhitelistDomains (environment : Environment) : List Text :=
  match environment.command.bind (·.1) with
  | some output => ((output.splitOn '\n').map strip).filter (· ≠ [])
  | none => []

/-- `get_system_status` -/
def getSystemStatus (environment : Environment) : JsonObject :=
  match environment.command.bind (·.2) with
  | some output =>
      let active := (lower output).tails.any fun tail =>
        "activo".toList.isPrefixOf tail || "active".toList.isPrefixOf tail
      fields [("output", .string output), ("active", .bool active)]
  | none => fields [("output", text ""), ("active", .bool false)]

variable (library : Library)

/-- What a known action answers. -/
def serveAction (environment : Environment) (state : HostState) (message : JsonObject) :
    Action → Run JsonObject
  | .check => check library environment message
  | .list =>
      .ok
        (fields
          [("success", .bool true), ("action", text "list"),
            ("domains", texts (getWhitelistDomains environment))])
  | .status =>
      .ok
        (fields
          [("success", .bool true), ("action", text "status"),
            ("status", .object (getSystemStatus environment))])
  | .ping =>
      .ok
        (fields
          [("success", .bool true), ("action", text "ping"), ("message", text "pong"),
            ("protocolVersion", .int 2),
            ("capabilities", texts (getNativeHostCapabilities environment))])
  | .getHostname =>
      .ok
        (fields
          [("success", .bool true), ("action", text "get-hostname"),
            ("hostname", .string environment.hostname)])
  | .getMachineToken => getMachineToken environment
  | .getConfig => getNativeConfig environment
  | .updateWhitelist => updateWhitelist library environment message
  | .getBlockedPaths => .ok (getBlockedPaths library environment)
  | .getAllowedPaths => .ok (getAllowedPaths library environment)
  | .getBlockedSubdomains => .ok (getBlockedSubdomains library environment)
  | .getPolicyVersion => getPolicyVersion library environment
  | .allowLocalRuntimeDependency => allowLocalRuntimeDependency library environment message
  | .checkLocalRuntimeDependency => checkLocalRuntimeDependency library environment message
  | .reportExtensionDiagnostics =>
      .ok (handleReportExtensionDiagnostics environment state message)
  | .allowLocalRuntimeDependencyBatch =>
      allowLocalRuntimeDependencyBatch library environment message

/-- The member `action` of a message. -/
def actionMember (message : JsonObject) : Json :=
  (message.lookup "action".toList).getD (.string [])

/-- `dispatch_message` -/
def dispatchMessage (environment : Environment) (state : HostState) : Json → Run JsonObject
  | .object message =>
      match actionOf (actionMember message) with
      | some action => serveAction library environment state message action
      | none =>
          .ok
            (fields
              [("success", .bool false),
                ("error",
                  .string ("Unknown action: ".toList ++ str (actionMember message)))])
  | _ => .ok (fields [("success", .bool false), ("error", text "Invalid message format")])

/-- The id of a message, when it has one. -/
def messageId : Json → Option Json
  | .object message =>
      match message.lookup "id".toList with
      | none => none
      | some .null => none
      | some (.string []) => none
      | some value => some value
  | _ => none

/-- `handle_message` -/
def handleMessage (environment : Environment) (state : HostState) (message : Json) :
    Run JsonObject :=
  (dispatchMessage library environment state message).map fun response =>
    match messageId message with
    | some value => updateMember response "id" value
    | none => response

/-! ## The loop -/

def maxMessageLength : Nat := 1024 * 1024

inductive Received
  /-- The end of the input, a message that is too long, or the message `null`. -/
  | nothing
  | message (value : Json) (rest : Bytes)

/-- `message is not None` -/
def isMessage : Json → Bool
  | .null => false
  | _ => true

/-- `read_message`, with what is left of the input. -/
def readMessage (input : Bytes) : Run Received :=
  let rawLength := input.take 4
  if rawLength = [] then .ok .nothing
  else if rawLength.length < 4 then .error .structError
  else
    let messageLength := ofLittleEndian rawLength
    if maxMessageLength < messageLength then .ok .nothing
    else do
      let content ← decodeUtf8 ((input.drop 4).take messageLength)
      let value ← library.parse content
      let rest := (input.drop 4).drop messageLength
      return if isMessage value then .message value rest else .nothing

/-- `send_message`, which cannot write the length of a message of 4 GiB. -/
def sendMessage (response : Json) : Run Bytes :=
  let encoded := library.dumps response
  if encoded.length < 256 ^ 4 then .ok (littleEndian 4 encoded.length ++ encoded)
  else .error .structError

/-- One iteration of the loop: the input that is left, and what was written. -/
inductive Iteration
  | answered (written rest : Bytes)
  | exits
  | raised (fault : Raised)

/-- What a message leaves behind. -/
def nextState (environment : Environment) (state : HostState) : Json → HostState
  | .object message =>
      if actionOf (actionMember message) = some .reportExtensionDiagnostics then
        countedWindow environment state
      else state
  | _ => state

/-- `action in CHATTY_ACTIONS`, which raises for a value that has no hash. -/
def lookUpAction : Json → Run Unit
  | .object message => if hashable (actionMember message) then .ok () else .error .type
  | _ => .ok ()

/-- What one message is answered with. -/
def answerMessage (environment : Environment) (state : HostState) (message : Json) : Run Bytes := do
  lookUpAction message
  let response ← handleMessage library environment state message
  sendMessage library (.object response)

/-- One iteration of `main`. -/
def iterateMain (environment : Environment) (state : HostState) (input : Bytes) :
    HostState × Iteration :=
  match readMessage library input with
  | .error fault => (state, .raised fault)
  | .ok .nothing => (state, .exits)
  | .ok (.message value rest) =>
      match answerMessage library environment state value with
      | .error fault => (state, .raised fault)
      | .ok written => (nextState environment state value, .answered written rest)

/-- The loop, with the environment of each iteration: all that is written, and whether
the loop still runs. -/
def mainLoop : List Environment → HostState → Bytes → Bytes × Bool
  | [], _, _ => ([], true)
  | environment :: rest, state, input =>
      match iterateMain library environment state input with
      | (_, .raised _) => ([], false)
      | (_, .exits) => ([], false)
      | (state, .answered written input) =>
          let following := mainLoop rest state input
          (written ++ following.1, following.2)

end OpenPath.Linux.NativeHost
