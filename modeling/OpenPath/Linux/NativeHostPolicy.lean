/-
# The policy of the native host

The native host answers from a snapshot of the policy: the whitelist file, the runtime
dependencies of the overlay, the hosts of the configuration that are always allowed,
and the hosts of a captive portal. Every check of a domain and every question for the
version of the policy reads it anew.

A host that no entry of the overlay names gets the same decision as without the
overlay.
-/

import OpenPath.Linux.NativeHost

namespace OpenPath.Linux.NativeHost

open Python Foundation

variable (library : Library)

/-! ## Reading the policy -/

def protectedPolicyHosts : List Text :=
  ["raw.githubusercontent.com".toList, "github.com".toList, "githubusercontent.com".toList,
    "api.github.com".toList, "release-assets.githubusercontent.com".toList,
    "objects.githubusercontent.com".toList, "sourceforge.net".toList,
    "downloads.sourceforge.net".toList, "detectportal.firefox.com".toList,
    "connectivity-check.ubuntu.com".toList, "captive.apple.com".toList,
    "www.msftconnecttest.com".toList, "clients3.google.com".toList, "ntp.ubuntu.com".toList,
    "time.google.com".toList, "pool.ntp.org".toList, "security.ubuntu.com".toList,
    "archive.ubuntu.com".toList, "changelogs.ubuntu.com".toList, "aus5.mozilla.org".toList,
    "firefox.settings.services.mozilla.com".toList,
    "firefox-settings-attachments.cdn.mozilla.net".toList,
    "content-signature-2.cdn.mozilla.net".toList, "download.mozilla.org".toList,
    "download.cdn.mozilla.net".toList, "archive.mozilla.org".toList, "ftp.mozilla.org".toList,
    "safebrowsing.googleapis.com".toList, "addons.mozilla.org".toList,
    "versioncheck.addons.mozilla.org".toList, "services.addons.mozilla.org".toList,
    "ciscobinary.openh264.org".toList, "redirector.gvt1.com".toList,
    "clients2.googleusercontent.com".toList]

/-- `value.split(separator, 1)[0]` -/
def before (separator : Char) (value : Text) : Text := value.takeWhile (· ≠ separator)

/-- `value.split("://", 1)[-1]` -/
def afterScheme (value : Text) : Text :=
  match value.tails.find? fun tail => "://".toList.isPrefixOf tail with
  | some tail => tail.drop 3
  | none => value

/-- `get_optional_config_host` -/
def getOptionalConfigHost (file : File) : Run Text :=
  (readOptionalText file).map fun value =>
    if value = [] then []
    else
      normalizeRuntimeDependencyHost
        (some (.string (before ':' (before '/' (afterScheme value)))))

/-- The bytes of the overlay and the hosts that its entries allow. -/
structure OverlayPolicy where
  raw : Bytes
  dependencies : List Text

def OverlayPolicy.empty : OverlayPolicy where
  raw := []
  dependencies := []

/-- The dependency hosts of the entries, without what is no host. -/
def dependencyHosts (entries : List JsonObject) : List Text :=
  (entries.map fun entry =>
    normalizeRuntimeDependencyHost (entry.lookup "dependencyHost".toList)).filter (· ≠ [])

/-- The part of `read_runtime_policy_inputs` that reads the overlay. -/
def readOverlayPolicy : File → Run OverlayPolicy
  | .content bytes =>
      withEntries ((decodeUtf8 bytes).bind library.parse) .empty fun _ entries =>
        { raw := bytes, dependencies := dependencyHosts entries }
  | _ => .ok .empty

structure RuntimePolicyInputs where
  runtimeDependencies : List Text
  protectedHosts : List Text
  captiveHosts : List Text
  versionMaterial : Bytes

def captiveHosts (environment : Environment) : List Text :=
  ((environment.captivePortalHosts.splitOn ',').map fun raw =>
    normalizeRuntimeDependencyHost (some (.string raw))).filter (· ≠ [])

/-- The inputs, from the overlay and the hosts of the configuration. -/
def runtimePolicyInputs (environment : Environment) (overlay : OverlayPolicy)
    (configured : List Text) : RuntimePolicyInputs :=
  let protectedHosts := protectedPolicyHosts ++ configured.filter (· ≠ [])
  let captive := captiveHosts environment
  { runtimeDependencies := overlay.dependencies
    protectedHosts := sortedSet protectedHosts
    captiveHosts := sortedSet captive
    versionMaterial :=
      overlay.raw ++ 0 :: Utf8.encode (['\n'].intercalate (sortedSet (protectedHosts ++ captive))) }

/-- `read_runtime_policy_inputs` -/
def readRuntimePolicyInputs (environment : Environment) : Run RuntimePolicyInputs := do
  let overlay ← readOverlayPolicy library environment.overlay
  let whitelistHost ← getOptionalConfigHost environment.whitelistUrl
  let apiHost ← getOptionalConfigHost environment.apiUrl
  let healthApiHost ← getOptionalConfigHost environment.healthApiUrl
  return runtimePolicyInputs environment overlay [whitelistHost, apiHost, healthApiHost]

inductive Section
  | whitelist
  | blockedSubdomains
  | other
  deriving DecidableEq

/-- What the pass over the lines of the whitelist file has collected. -/
structure PolicyLines where
  current : Section
  whitelist : List Text
  blockedSubdomains : List Text
  markerDisabled : Bool

def PolicyLines.start : PolicyLines where
  current := .whitelist
  whitelist := []
  blockedSubdomains := []
  markerDisabled := false

/-- `"DESACTIVADO" in value` -/
def mentionsDisabled (value : Text) : Bool := value.tails.any "DESACTIVADO".toList.isPrefixOf

def policyLine (lines : PolicyLines) (rawLine : Text) : PolicyLines :=
  let line := strip rawLine
  let upper := library.upper line
  if "#".toList.isPrefixOf upper && mentionsDisabled upper then
    { lines with markerDisabled := true }
  else if upper = "## WHITELIST".toList then { lines with current := .whitelist }
  else if upper = "## BLOCKED-SUBDOMAINS".toList then { lines with current := .blockedSubdomains }
  else if "## ".toList.isPrefixOf upper then { lines with current := .other }
  else if line = [] ∨ "#".toList.isPrefixOf line then lines
  else
    let normalized := lower (stripDots (strip line))
    match lines.current with
    | .whitelist => { lines with whitelist := lines.whitelist ++ [normalized] }
    | .blockedSubdomains =>
        { lines with blockedSubdomains := lines.blockedSubdomains ++ [normalized] }
    | .other => lines

/-- The characters at which `str.splitlines` breaks a line. -/
def isLineBreak (c : Char) : Bool :=
  (0xa ≤ c.toNat && c.toNat ≤ 0xd) || (0x1c ≤ c.toNat && c.toNat ≤ 0x1e) ||
    c.toNat == 0x85 || c.toNat == 0x2028 || c.toNat == 0x2029

/-- The lines of the whitelist file. A line break of two characters leaves an empty line
behind, which the pass skips. -/
def policyLines (text : Text) : PolicyLines :=
  (text.splitOnP isLineBreak).foldl (policyLine library) .start

structure Snapshot where
  active : Bool
  whitelist : List Text
  blockedSubdomains : List Text
  inputs : RuntimePolicyInputs
  version : Text

/-- What the snapshot is when the policy is not known: the reason. -/
abbrev SnapshotResult := Except Text Snapshot

/-- `read_policy_snapshot` -/
def readPolicySnapshot (environment : Environment) : Run SnapshotResult :=
  match environment.whitelist with
  | none => .ok (.error "policy-file-unavailable".toList)
  | some whitelist =>
      match whitelist.file with
      | .absent => .ok (.error "policy-read-failed:2".toList)
      | .unreadable errno _ => .ok (.error ("policy-read-failed:".toList ++ (toString errno).toList))
      | .content raw =>
          (readRuntimePolicyInputs library environment).map fun inputs =>
            let lines := policyLines library (Utf8.decodeIgnore raw)
            let marker := if environment.systemDisabled then "disabled" else "active"
            .ok
              { active := !(environment.systemDisabled || lines.markerDisabled)
                whitelist := lines.whitelist
                blockedSubdomains := lines.blockedSubdomains
                inputs := inputs
                version :=
                  library.sha256
                    (raw ++ 0 :: Utf8.encode marker.toList ++ inputs.versionMaterial) }

/-! ## The decision about a host -/

/-- `policy_covers_host`, and `policy_blocks_subdomain` -/
def policyCoversHost (host : Text) (entries : List Text) : Bool :=
  entries.any fun entry => host == entry || ('.' :: entry).isSuffixOf host

structure Decision where
  inWhitelist : Bool
  decision : Text
  reason : Text
  deriving DecidableEq

def decideHost (snapshot : Snapshot) (host : Text) : Decision :=
  if !snapshot.active then ⟨true, "allowed".toList, "policy-inactive".toList⟩
  else if policyCoversHost host snapshot.inputs.protectedHosts then
    ⟨true, "allowed".toList, "protected-infrastructure".toList⟩
  else if policyCoversHost host snapshot.blockedSubdomains then
    ⟨false, "blocked".toList, "blocked-subdomain".toList⟩
  else if policyCoversHost host snapshot.whitelist then
    ⟨true, "allowed".toList, "whitelist-domain".toList⟩
  else if snapshot.inputs.runtimeDependencies.contains host then
    ⟨true, "allowed".toList, "runtime-dependency-exact".toList⟩
  else if policyCoversHost host snapshot.inputs.captiveHosts then
    ⟨true, "allowed".toList, "captive-portal-domain".toList⟩
  else ⟨false, "blocked".toList, "default-deny".toList⟩

def unknownDecision (reason : Text) : Decision := ⟨false, "unknown".toList, reason⟩

/-- The decision of `check_domain` about a normalized host. -/
def decisionOf (snapshot : SnapshotResult) (host : Text) : Decision :=
  match snapshot with
  | .ok snapshot => decideHost snapshot host
  | .error reason => unknownDecision reason

def optionalText : Option Text → Json
  | some value => .string value
  | none => .null

/-- `check_domain` -/
def checkDomain (environment : Environment) (domain : Text) : Run JsonObject :=
  let host := lower (stripDots (strip domain))
  (readPolicySnapshot library environment).map fun snapshot =>
    let verdict := decisionOf snapshot host
    fields
      [("domain", .string host), ("in_whitelist", .bool verdict.inWhitelist),
        ("policy_active",
          match snapshot with
          | .ok snapshot => .bool snapshot.active
          | .error _ => .null),
        ("policy_decision", .string verdict.decision), ("policy_reason", .string verdict.reason),
        ("policy_version",
          match snapshot with
          | .ok snapshot => .string snapshot.version
          | .error _ => .string []),
        ("resolves", .bool (environment.resolution host).1),
        ("resolved_ip", optionalText (environment.resolution host).2)]

end OpenPath.Linux.NativeHost
