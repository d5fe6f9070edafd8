/-
# The decision of the native host

The compiled native host of the browser extension decides for a host name by the
whitelist mirror and the native state. It asks in turn whether the policy is known and
enabled, whether the host is protected, blocked, whitelisted, a runtime dependency or
under a domain of a captive portal. The names of the lists are normalized first; a name
that is no host is passed over.
-/

import OpenPath.Windows.DependencyPolicy
import OpenPath.Windows.WhitelistSections

namespace OpenPath.Windows.NativeHost

open DotNet RuntimeDependency RulesValidation Overlay
open Foundation (Re)
open OpenPath.Policy (Sections)

/-- `NormalizeHost` -/
def normalizeHost (value : Text) : Text :=
  checkedHost isLowerAlphanumeric (toLowerInvariant (trimDots (trim value)))

/-- `BuildWhitelistSet` and `BuildBlockedSubdomainSet` -/
def hostSet (entries : List Text) : List Text := (entries.map normalizeHost).filter (· ≠ [])

/-- What the host reads of the policy: the sections of the mirror, and a version where
there is one. -/
structure PolicySnapshot where
  sections : Sections
  isDisabled : Bool
  policyKnown : Bool
  policyVersion : Text

/-- What the host reads of the native state: the hosts of its three addresses, and its lists
of domains. -/
structure NativeState where
  urlHosts : List Text
  runtimeDependencyDomains : List Text
  captivePortalDomains : List Text

inductive Decision
  | unknown
  | allowed
  | blocked
  deriving DecidableEq

inductive Reason
  | policyUnavailable
  | policyInactive
  | protectedInfrastructure
  | blockedSubdomain
  | whitelistDomain
  | runtimeDependencyExact
  | captivePortalDomain
  | defaultDeny
  deriving DecidableEq

structure PolicyDecision where
  decision : Decision
  reason : Reason
  /-- There is none where the policy is unknown. -/
  active : Option Bool
  inWhitelist : Bool
  version : Text
  deriving DecidableEq

/-- `BuildProtectedHosts` -/
def protectedHosts (state : NativeState) : List Text :=
  hostSet (captivePortalProbeDomains ++ timeDomains ++ microsoftSystemDomains ++
    firefoxSystemDomains ++ state.urlHosts)

/-- A host is the name of a portal or lies under it. -/
def matchesPortal (domain item : Text) : Bool :=
  let portal := normalizeHost item
  portal ≠ [] && (domain == portal || endsWithIgnoreCase domain ('.' :: portal))

/-- A decision on an enabled policy. -/
def activeDecision (version : Text) (decision : Decision) (reason : Reason) : PolicyDecision where
  decision := decision
  reason := reason
  active := some true
  inWhitelist := decision = .allowed
  version := version

/-- `GetPolicyDecision` -/
def getPolicyDecision (domain : Text) (snapshot : PolicySnapshot) (state : NativeState) :
    PolicyDecision :=
  let version := snapshot.policyVersion
  if !snapshot.policyKnown || version = [] then
    { decision := .unknown, reason := .policyUnavailable, active := none, inWhitelist := false,
      version := [] }
  else if snapshot.isDisabled then
    { decision := .allowed, reason := .policyInactive, active := some false, inWhitelist := true,
      version }
  else if coversHost (protectedHosts state) domain then
    activeDecision version .allowed .protectedInfrastructure
  else if coversHost (hostSet snapshot.sections.blockedSubdomains) domain then
    activeDecision version .blocked .blockedSubdomain
  else if coversHost (hostSet snapshot.sections.whitelist) domain then
    activeDecision version .allowed .whitelistDomain
  else if state.runtimeDependencyDomains.any fun item => domain == normalizeHost item then
    activeDecision version .allowed .runtimeDependencyExact
  else if state.captivePortalDomains.any (matchesPortal domain) then
    activeDecision version .allowed .captivePortalDomain
  else activeDecision version .blocked .defaultDeny

/-! ## Allowed hosts -/

section Allowed

variable {domain : Text} {snapshot : PolicySnapshot} {state : NativeState}

/-- The host is in one of the lists that allow it. -/
def Listed (domain : Text) (snapshot : PolicySnapshot) (state : NativeState) : Prop :=
  coversHost (hostSet snapshot.sections.whitelist) domain = true ∨
    (∃ item ∈ state.runtimeDependencyDomains, domain = normalizeHost item) ∨
    ∃ item ∈ state.captivePortalDomains, matchesPortal domain item = true

/-- On a known and enabled policy, a host is allowed if it is protected, or listed and not
blocked. -/
theorem allowed_iff (hknown : snapshot.policyKnown = true) (hversion : snapshot.policyVersion ≠ [])
    (henabled : snapshot.isDisabled = false) :
    (getPolicyDecision domain snapshot state).decision = .allowed ↔
      coversHost (protectedHosts state) domain = true ∨
        coversHost (hostSet snapshot.sections.blockedSubdomains) domain = false ∧
          Listed domain snapshot state := by
  have hdependency : (state.runtimeDependencyDomains.any fun item =>
      domain == normalizeHost item) = true ↔
        ∃ item ∈ state.runtimeDependencyDomains, domain = normalizeHost item := by
    simp
  rw [Listed, ← hdependency, ← List.any_eq_true]
  simp only [getPolicyDecision, hknown, hversion, henabled, Bool.not_true, Bool.false_or,
    decide_false, Bool.false_eq_true, if_false]
  cases coversHost (protectedHosts state) domain
  · cases coversHost (hostSet snapshot.sections.blockedSubdomains) domain
    · cases coversHost (hostSet snapshot.sections.whitelist) domain
      · cases state.runtimeDependencyDomains.any fun item => domain == normalizeHost item
        · cases state.captivePortalDomains.any (matchesPortal domain)
          · simp [activeDecision]
          · simp [activeDecision]
        · simp [activeDecision]
      · simp [activeDecision]
    · simp [activeDecision]
  · simp [activeDecision]

end Allowed

end OpenPath.Windows.NativeHost
