/-
# Sending tabs to the blocked screen

Three flows of the extension send a tab to the blocked screen: the preflight of a
navigation, the handler of a navigation error, and the reconciliation of the open tabs
after the policy changed. They run at the same time, wait for the native host and the
browser in between, and share the navigation generations of the tabs.

A call is one flow in progress. Its phase is the `await` it is suspended at, and a move
takes it to the next one; the answer it resumes with comes from the label, except for
the URL of a tab, which is the one the tab shows. The history is what an observer sees:
it steers nothing.
-/

import OpenPath.Extension.NavigationState
import OpenPath.Extension.PolicyDecision
import OpenPath.Foundation.Concurrency

namespace OpenPath.Extension

open Foundation JavaScript

/-- What `new URL` finds in a URL. -/
structure ParsedUrl where
  protocol : Text
  origin : Text
  hostname : Text
  pathname : Text
  searchParams : List (Text × Text)

/-- What the observer sees. -/
inductive Happening
  /-- A navigation generation began. -/
  | began (identity : NavigationIdentity)
  /-- The navigation of a tab was disposed of. -/
  | disposed (tabId : Int)
  /-- The tab shows another page, or was closed. -/
  | visited (tabId : Int)
  /-- The native host confirmed to a flow for the navigation that the host is blocked. -/
  | confirmed (identity : NavigationIdentity) (hostname : Text)
  /-- `redirectToBlockedScreen` is called. -/
  | redirect (identity : NavigationIdentity) (tabId : Int) (hostname : Text)
  /-- The call for the navigation succeeded. -/
  | redirected (identity : NavigationIdentity)
  /-- The call for the navigation failed. -/
  | refused (identity : NavigationIdentity)
  deriving DecidableEq

namespace BlockedScreen

/-! ## What the flows remember -/

structure ConfirmBlockedScreenContext where
  tabId : Int
  hostname : Text
  error : Text
  origin : Option Text
  url : Text

/-- A call of `redirectToBlockedScreenOnce`. -/
structure Flow where
  context : ConfirmBlockedScreenContext
  identity : NavigationIdentity
  recordBlockedDomain : Bool
  requireNativeConfirmation : Bool

structure VerifyResult where
  domain : Text
  verdict : PolicyDecisionInput

structure TabHost where
  tabId : Int
  host : Text
  identity : NavigationIdentity

/-- A reconciliation that waits for `checkDomains`. -/
structure Query where
  policyVersion : Text
  tabHosts : List TabHost
  /-- The open tabs and their URLs when the reconciliation listed them. -/
  openTabs : List (Int × Option Text)
  /-- The history at that time. -/
  past : List Happening

/-- A reconciliation that goes through the tabs. -/
structure Reconciliation extends Query where
  results : List VerifyResult
  /-- The navigations whose tab gave no URL, or could not be redirected. -/
  failed : List NavigationIdentity
  /-- The navigations that were reserved, or shown already. -/
  occupied : List NavigationIdentity

inductive Phase
  | idle
  /-- In `tabAlreadyShowsBlockedScreen`. -/
  | showing (flow : Flow)
  /-- In `confirmBlockedScreenNavigation`. -/
  | confirming (flow : Flow)
  /-- In `recoverCaptivePortalNavigation`. -/
  | recovering (flow : Flow) (blocked : Bool)
  /-- In `redirectToBlockedScreen`. -/
  | redirecting (flow : Flow)
  /-- In `getPolicyVersion`. -/
  | versioning (force : Bool)
  /-- In `queryTabs`. -/
  | querying (policyVersion : Text)
  /-- In `checkDomains`. -/
  | checking (query : Query)
  /-- In `getCurrentTabUrl`, for the first of the tabs that are left. -/
  | asking (run : Reconciliation) (entry : TabHost) (rest : List TabHost)
  /-- In `redirectToBlockedScreen`, for the first of the tabs that are left. -/
  | moving (run : Reconciliation) (entry : TabHost) (rest : List TabHost)
  /-- `reconcileOpenTabs` returned true. -/
  | reconciled (run : Reconciliation)
  | ended

/-- What the flows share, the browser, and what the observer keeps. -/
structure Shared where
  navigation : NavigationState
  /-- `state.version` of the reconciliation. -/
  version : Text
  /-- The open tabs. -/
  tabs : List Int
  urls : Int → Option Text
  /-- Most recent first. -/
  history : List Happening
  /-- The reconciliations that recorded their version. -/
  recorded : List Reconciliation

namespace Shared

variable (shared : Shared)

def note (happening : Happening) : Shared := { shared with history := happening :: shared.history }

def noteAll (happenings : List Happening) : Shared :=
  { shared with history := happenings ++ shared.history }

def begin_ (tabId : Int) (url : Text) (source : NavigationSource) : Shared :=
  { shared with
    navigation := shared.navigation.beginNavigation tabId url source
    history := .began (shared.navigation.beginIdentity tabId url source) :: shared.history }

def dispose (tabId : Int) : Shared :=
  { shared with
    navigation := shared.navigation.dispose tabId
    history := .disposed tabId :: shared.history }

def release (identity : NavigationIdentity) : Shared :=
  { shared with navigation := shared.navigation.releaseRedirect identity }

def shown (identity : NavigationIdentity) : Shared :=
  { shared with navigation := shared.navigation.markShown identity }

/-- The tab shows a page. -/
def visit (tabId : Int) (url : Option Text) : Shared :=
  { shared with
    tabs := if tabId ∈ shared.tabs then shared.tabs else tabId :: shared.tabs
    urls := Function.update shared.urls tabId url
    history := .visited tabId :: shared.history }

/-- The tab is closed. -/
def close (tabId : Int) : Shared :=
  { shared with
    tabs := shared.tabs.filter (· ≠ tabId)
    history := .visited tabId :: shared.history }

/-- `browser.tabs.get(tabId).url`, which fails for a tab that is closed, and may fail
for another. -/
def tabUrl (answered : Bool) (tabId : Int) : Option (Option Text) :=
  if answered = true ∧ tabId ∈ shared.tabs then some (shared.urls tabId) else none

end Shared

/-! ## The parts of a URL -/

variable (parseUrl : Text → Option ParsedUrl)

def extractHostname (url : Text) : Option Text := (parseUrl url).map (·.hostname)

/-- `extractHttpHost` of the reconciliation -/
def extractHttpHost (rawUrl : Option Text) : Option Text :=
  match rawUrl with
  | none => none
  | some url =>
      if url.isEmpty then none
      else
        match parseUrl url with
        | none => none
        | some parsed =>
            if parsed.protocol = "http:".toList ∨ parsed.protocol = "https:".toList then
              let host := toLowerCase parsed.hostname
              if host.isEmpty then none else some host
            else none

def isExtensionUrl (url : Text) : Bool :=
  startsWith url "moz-extension://".toList || startsWith url "chrome-extension://".toList

/-! ## The blocked-screen flow -/

def blockingErrors : List Text :=
  ["NS_ERROR_UNKNOWN_HOST".toList, "NS_ERROR_CONNECTION_REFUSED".toList,
    "NS_ERROR_NET_TIMEOUT".toList, "NS_ERROR_PROXY_CONNECTION_REFUSED".toList]

def ignoredErrors : List Text := ["NS_BINDING_ABORTED".toList, "NS_ERROR_ABORT".toList]

def nativeConfirmedBlockedScreenErrors : List Text :=
  ["NS_ERROR_UNKNOWN_HOST".toList, "NS_ERROR_CONNECTION_REFUSED".toList,
    "NS_ERROR_NET_TIMEOUT".toList, "NS_ERROR_PROXY_CONNECTION_REFUSED".toList]

def nativePolicyBlockedError : Text := "OPENPATH_NATIVE_POLICY_BLOCKED".toList

def captivePortalRecoveryErrors : List Text :=
  ["NS_ERROR_UNKNOWN_HOST".toList, "NS_ERROR_CONNECTION_REFUSED".toList,
    "NS_ERROR_NET_TIMEOUT".toList, nativePolicyBlockedError]

structure NavigationDetails where
  documentUrl : Option Text
  error : Text
  frameId : Option Int
  originUrl : Option Text
  tabId : Int
  type : Option Text
  url : Text

structure PreflightDetails where
  frameId : Int
  tabId : Int
  url : Text

structure NativeBlockedScreenConfirmation where
  blocked : Bool
  portalRecoveryEligible : Option Bool

/-- `NativeBlockedScreenConfirmationResult | undefined` -/
inductive ConfirmationResult
  | flag (blocked : Bool)
  | confirmation (value : NativeBlockedScreenConfirmation)
  | undefined

def normalizeNativeBlockedScreenConfirmation : ConfirmationResult → NativeBlockedScreenConfirmation
  | .flag blocked => { blocked := blocked, portalRecoveryEligible := none }
  | .confirmation value => value
  | .undefined => { blocked := false, portalRecoveryEligible := none }

def isTopFrameNavigation (details : NavigationDetails) : Bool :=
  match details.type with
  | some type => type == "main_frame".toList
  | none => details.frameId == some 0

def shouldConfirmBlockedScreenNavigation (details : NavigationDetails) : Bool :=
  isTopFrameNavigation details && nativeConfirmedBlockedScreenErrors.contains details.error &&
    !isExtensionUrl details.url

def buildBlockedScreenContext (details : NavigationDetails) :
    Option ConfirmBlockedScreenContext :=
  match extractHostname parseUrl details.url with
  | none => none
  | some hostname =>
      if hostname.isEmpty ∨ details.tabId < 0 then none
      else
        some
          { tabId := details.tabId
            hostname := hostname
            error := details.error
            origin := extractHostname parseUrl ((details.originUrl.or details.documentUrl).getD [])
            url := details.url }

def isSameBlockedScreenUrl (currentUrl blockedScreenUrl hostname : Text) : Bool :=
  match parseUrl currentUrl, parseUrl blockedScreenUrl with
  | some current, some blockedScreen =>
      current.origin == blockedScreen.origin && current.pathname == blockedScreen.pathname &&
        current.searchParams.lookup "domain".toList == some hostname
  | _, _ => false

/-- The start of `redirectToBlockedScreenOnce`. -/
def redirectToBlockedScreenOnce (flow : Flow) (shared : Shared) : Shared × Phase :=
  match shared.navigation.reserveRedirect flow.identity with
  | none => (shared, .ended)
  | some navigation => ({ shared with navigation := navigation }, .showing flow)

/-- The flow ends, through its `finally`. -/
def endFlow (flow : Flow) (shared : Shared) : Shared × Phase :=
  (shared.release flow.identity, .ended)

/-- The last part: the navigation is still the newest, and the tab is redirected. -/
def showBlockedScreen (flow : Flow) (shared : Shared) : Shared × Phase :=
  if shared.navigation.isCurrent flow.identity then
    (shared.note (.redirect flow.identity flow.context.tabId flow.context.hostname),
      .redirecting flow)
  else endFlow flow shared

/-- Where a captive portal is tried first; `recovers` says that there is a handler. -/
def recoverOr (recovers : Bool) (flow : Flow) (blocked : Bool)
    (otherwise : Shared → Shared × Phase) (shared : Shared) : Shared × Phase :=
  if recovers && captivePortalRecoveryErrors.contains flow.context.error then
    (shared, .recovering flow blocked)
  else otherwise shared

/-- After the URL of the tab is known, or could not be read. -/
def afterTabUrl (recovers : Bool) (blockedScreenUrl : Text) (flow : Flow)
    (answer : Option (Option Text)) (shared : Shared) : Shared × Phase :=
  match answer with
  | some (some url) =>
      if isSameBlockedScreenUrl parseUrl url blockedScreenUrl flow.context.hostname then
        endFlow flow shared
      else askOrRecover shared
  | _ => askOrRecover shared
where
  askOrRecover (shared : Shared) : Shared × Phase :=
    if flow.requireNativeConfirmation then (shared, .confirming flow)
    else if shared.navigation.isCurrent flow.identity then
      recoverOr recovers flow true (showBlockedScreen flow) shared
    else showBlockedScreen flow shared

def afterConfirmation (recovers : Bool) (flow : Flow) (result : ConfirmationResult)
    (shared : Shared) : Shared × Phase :=
  let confirmation := normalizeNativeBlockedScreenConfirmation result
  if confirmation.blocked then
    let known := shared.note (.confirmed flow.identity flow.context.hostname)
    if confirmation.portalRecoveryEligible = some true ∧ known.navigation.isCurrent flow.identity
    then recoverOr recovers flow true (showBlockedScreen flow) known
    else showBlockedScreen flow known
  else if shared.navigation.isCurrent flow.identity then
    recoverOr recovers flow false (endFlow flow) shared
  else endFlow flow shared

def afterRecovery (flow : Flow) (blocked recovered : Bool) (shared : Shared) : Shared × Phase :=
  if blocked && !recovered then showBlockedScreen flow shared else endFlow flow shared

def afterRedirect (flow : Flow) (succeeded : Bool) (shared : Shared) : Shared × Phase :=
  if succeeded then
    endFlow flow ((shared.note (.redirected flow.identity)).shown flow.identity)
  else endFlow flow (shared.note (.refused flow.identity))

def handleNativePolicyNavigationPreflight (details : PreflightDetails) (shared : Shared) :
    Shared × Phase :=
  if details.frameId ≠ 0 then (shared, .ended)
  else if isExtensionUrl details.url then (shared.dispose details.tabId, .ended)
  else
    match buildBlockedScreenContext parseUrl
        { documentUrl := none, error := nativePolicyBlockedError, frameId := none,
          originUrl := none, tabId := details.tabId, type := none, url := details.url } with
    | none => (shared, .ended)
    | some context =>
        redirectToBlockedScreenOnce
          { context := context
            identity := shared.navigation.beginIdentity context.tabId context.url .preflight
            recordBlockedDomain := true
            requireNativeConfirmation := true }
          (shared.begin_ context.tabId context.url .preflight)

def handleBlockedScreenNavigationError (details : NavigationDetails) (recordBlockedDomain : Bool)
    (shared : Shared) : Shared × Phase :=
  if ignoredErrors.contains details.error || !blockingErrors.contains details.error then
    (shared, .ended)
  else
    match buildBlockedScreenContext parseUrl details with
    | none => (shared, .ended)
    | some context =>
        if shouldConfirmBlockedScreenNavigation details then
          let start (identity : NavigationIdentity) : Flow :=
            { context := context
              identity := identity
              recordBlockedDomain := recordBlockedDomain
              requireNativeConfirmation := true }
          match shared.navigation.get context.tabId with
          | some existing =>
              if existing.source = .preflight ∧ existing.url ≠ context.url then (shared, .ended)
              else if existing.url = context.url then
                redirectToBlockedScreenOnce (start existing) shared
              else
                redirectToBlockedScreenOnce
                  (start (shared.navigation.beginIdentity context.tabId context.url .error))
                  (shared.begin_ context.tabId context.url .error)
          | none =>
              redirectToBlockedScreenOnce
                (start (shared.navigation.beginIdentity context.tabId context.url .error))
                (shared.begin_ context.tabId context.url .error)
        else (shared, .ended)

/-! ## The reconciliation -/

structure NativePolicyVersionResponse where
  success : Bool
  version : Option Text

structure VerifyResponse where
  success : Bool
  results : List VerifyResult

def afterVersion (force : Bool) (response : NativePolicyVersionResponse) (shared : Shared) :
    Shared × Phase :=
  if response.success then
    let version := response.version.getD []
    if !force && version == shared.version then (shared, .ended) else (shared, .querying version)
  else (shared, .ended)

/-- The tabs with a host, each with the navigation it is in, which begins here when it is
not known. -/
def listTabs : List (Int × Option Text) → Shared → Shared × List TabHost
  | [], shared => (shared, [])
  | (tabId, url) :: rest, shared =>
      match url, extractHttpHost parseUrl url with
      | some text, some host =>
          match shared.navigation.matchUrl tabId text with
          | some identity =>
              let listed := listTabs rest shared
              (listed.1, { tabId := tabId, host := host, identity := identity } :: listed.2)
          | none =>
              let identity := shared.navigation.beginIdentity tabId text .reconciliation
              let listed := listTabs rest (shared.begin_ tabId text .reconciliation)
              (listed.1, { tabId := tabId, host := host, identity := identity } :: listed.2)
      | _, _ => listTabs rest shared

/-- `browser.tabs.query({})` -/
def Shared.queryTabs (shared : Shared) : List (Int × Option Text) :=
  shared.tabs.map fun tabId => (tabId, shared.urls tabId)

def afterQuery (policyVersion : Text) (shared : Shared) : Shared × Phase :=
  let listed := listTabs parseUrl shared.queryTabs shared
  let query : Query :=
    { policyVersion := policyVersion
      tabHosts := listed.2
      openTabs := shared.queryTabs
      past := shared.history }
  if listed.2.isEmpty then
    (listed.1, .reconciled { query with results := [], failed := [], occupied := [] })
  else (listed.1, .checking query)

/-- `resultByHost.get(host)`: a later result for a host replaces an earlier one. -/
def resultByHost (results : List VerifyResult) (host : Text) : Option VerifyResult :=
  results.reverse.find? fun result => toLowerCase result.domain = host

/-- The host is blocked by the version, as far as the check says. -/
def Reconciliation.blocks (run : Reconciliation) (host : Text) : Bool :=
  match resultByHost run.results host with
  | some result =>
      permitsPolicyRedirect (normalizePolicyDecision result.verdict) (some run.policyVersion)
  | none => false

/-- The loop over the tabs, up to its next `await`. -/
def reconcileFrom (run : Reconciliation) : List TabHost → Shared → Shared × Phase
  | [], shared => (shared, .reconciled run)
  | entry :: rest, shared =>
      if run.blocks entry.host && shared.navigation.isCurrent entry.identity then
        (shared, .asking run entry rest)
      else reconcileFrom run rest shared

/-- What the check confirmed, tab by tab. -/
def Reconciliation.confirmations (run : Reconciliation) : List Happening :=
  (run.tabHosts.filter fun entry => run.blocks entry.host).map fun entry =>
    .confirmed entry.identity entry.host

def afterCheck (query : Query) (response : VerifyResponse) (shared : Shared) : Shared × Phase :=
  if response.success then
    let run : Reconciliation :=
      { query with results := response.results, failed := [], occupied := [] }
    reconcileFrom run query.tabHosts (shared.noteAll run.confirmations)
  else (shared, .ended)

/-- The `catch` around one tab. -/
def skipTab (run : Reconciliation) (entry : TabHost) (rest : List TabHost) (shared : Shared) :
    Shared × Phase :=
  reconcileFrom { run with failed := entry.identity :: run.failed } rest
    (shared.release entry.identity)

def afterCurrentTabUrl (run : Reconciliation) (entry : TabHost) (rest : List TabHost)
    (answer : Option (Option Text)) (shared : Shared) : Shared × Phase :=
  match answer with
  | none => skipTab run entry rest shared
  | some currentUrl =>
      if currentUrl ≠ some entry.identity.url ∨ !shared.navigation.isCurrent entry.identity then
        reconcileFrom run rest shared
      else
        match shared.navigation.reserveRedirect entry.identity with
        | none =>
            reconcileFrom { run with occupied := entry.identity :: run.occupied } rest shared
        | some navigation =>
            (Shared.note { shared with navigation := navigation }
                (.redirect entry.identity entry.tabId entry.host),
              .moving run entry rest)

def afterMove (run : Reconciliation) (entry : TabHost) (rest : List TabHost) (succeeded : Bool)
    (shared : Shared) : Shared × Phase :=
  if succeeded then
    reconcileFrom run rest ((shared.note (.redirected entry.identity)).shown entry.identity)
  else skipTab run entry rest (shared.note (.refused entry.identity))

/-- `state = { version }` -/
def record (run : Reconciliation) (shared : Shared) : Shared × Phase :=
  ({ shared with version := run.policyVersion, recorded := run :: shared.recorded }, .ended)

/-! ## The flows together -/

/-- What happens, or how an awaited call ends: `none` is a rejection. -/
inductive Label
  | visit (tabId : Int) (url : Option Text)
  | close (tabId : Int)
  /-- `tabs.onRemoved` -/
  | removed (tabId : Int)
  | preflight (details : PreflightDetails)
  | navigationError (details : NavigationDetails) (recordBlockedDomain : Bool)
  | refresh (force : Bool)
  | tabUrl (answered : Bool)
  | confirmation (result : Option ConfirmationResult)
  | recovery (recovered : Option Bool)
  | redirected (succeeded : Bool)
  | policyVersion (response : Option NativePolicyVersionResponse)
  | tabs (answered : Bool)
  | check (response : Option VerifyResponse)
  | record

/-- One move of a call. `recovers` and `blockedScreenUrl` are how the controller is set
up. -/
def move (recovers : Bool) (blockedScreenUrl : Text) :
    Label → Shared × Phase → Option (Shared × Phase)
  | .visit tabId url, (shared, .idle) => some (shared.visit tabId url, .ended)
  | .close tabId, (shared, .idle) => some (shared.close tabId, .ended)
  | .removed tabId, (shared, .idle) => some (shared.dispose tabId, .ended)
  | .preflight details, (shared, .idle) =>
      some (handleNativePolicyNavigationPreflight parseUrl details shared)
  | .navigationError details recordBlockedDomain, (shared, .idle) =>
      some (handleBlockedScreenNavigationError parseUrl details recordBlockedDomain shared)
  | .refresh force, (shared, .idle) => some (shared, .versioning force)
  | .tabUrl answered, (shared, .showing flow) =>
      some
        (afterTabUrl parseUrl recovers blockedScreenUrl flow
          (shared.tabUrl answered flow.context.tabId) shared)
  | .confirmation (some result), (shared, .confirming flow) =>
      some (afterConfirmation recovers flow result shared)
  | .confirmation none, (shared, .confirming flow) => some (endFlow flow shared)
  | .recovery (some recovered), (shared, .recovering flow blocked) =>
      some (afterRecovery flow blocked recovered shared)
  | .recovery none, (shared, .recovering flow _) => some (endFlow flow shared)
  | .redirected succeeded, (shared, .redirecting flow) =>
      some (afterRedirect flow succeeded shared)
  | .policyVersion (some response), (shared, .versioning force) =>
      some (afterVersion force response shared)
  | .policyVersion none, (shared, .versioning _) => some (shared, .ended)
  | .tabs true, (shared, .querying policyVersion) =>
      some (afterQuery parseUrl policyVersion shared)
  | .tabs false, (shared, .querying _) => some (shared, .ended)
  | .check (some response), (shared, .checking query) => some (afterCheck query response shared)
  | .check none, (shared, .checking _) => some (shared, .ended)
  | .tabUrl answered, (shared, .asking run entry rest) =>
      some (afterCurrentTabUrl run entry rest (shared.tabUrl answered entry.tabId) shared)
  | .redirected succeeded, (shared, .moving run entry rest) =>
      some (afterMove run entry rest succeeded shared)
  | .record, (shared, .reconciled run) => some (record run shared)
  | _, _ => none

/-- Before any flow started. -/
def Initial (shared : Shared) : Prop :=
  shared.navigation = createNavigationState ∧ shared.version = [] ∧ shared.history = [] ∧
    shared.recorded = []

/-- The flows of the extension, in any order. -/
def system (recovers : Bool) (blockedScreenUrl : Text) :
    TransitionSystem (Interleaved Shared Phase) (Nat × Label) :=
  Interleaved.system Initial .idle (Interleaved.movesOf (move parseUrl recovers blockedScreenUrl))

end BlockedScreen

end OpenPath.Extension
