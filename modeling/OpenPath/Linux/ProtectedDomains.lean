/-
# Protected domains

The domains that stay reachable under every policy: the control plane, the
probes of captive portals, system services and the browser's own services, and
the hosts that the configuration of the agent names. `protectControlPlaneRules`
adds them to the whitelist of a policy and removes the rules that block them.
-/

import OpenPath.Linux.DomainValidation
import OpenPath.Policy.Sections

namespace OpenPath.Linux

open Foundation Ascii Policy

/-! ## Hosts -/

/-- `${value#*marker}`: everything up to the first occurrence is removed. -/
def removeUpTo (marker value : Text) : Text :=
  match value.tails.find? marker.isPrefixOf with
  | some tail => tail.drop marker.length
  | none => value

/-- `${value##*@}` -/
def removeUserInfo (value : Text) : Text := value.rtakeWhile (· ≠ '@')

def getUrlHost (url : Text) : Text :=
  let withoutScheme := removeUpTo "://".toList url
  let hostPort := removeUserInfo (withoutScheme.takeWhile (· ≠ '/'))
  hostPort.takeWhile (· ≠ ':')

/-- Lower case, without white space and without dots at either end. -/
def normalizeOpenpathDomain (domain : Text) : Text :=
  Foundation.trim (· == '.') ((domain.map Char.toLower).filter fun c => !isSpace c)

/-- The host of a blocked path, if it is a domain. -/
def getBlockedPathHost (rule : Text) : Option Text :=
  let candidate := removeUpTo "://".toList rule
  let candidate := (candidate.dropWhile (· == '*')).dropWhile (· == '.')
  if candidate = [] ∨ candidate.head? = some '/' then none
  else
    let host := candidate.takeWhile (· ≠ '/')
    let host := host.takeWhile (· ≠ '?')
    let host := host.takeWhile (· ≠ '#')
    let host := normalizeOpenpathDomain (host.takeWhile (· ≠ ':'))
    if validateDomain host then some host else none

/-! ## The list -/

def controlPlaneDomains : List Text :=
  ["raw.githubusercontent.com".toList, "github.com".toList, "githubusercontent.com".toList,
   "api.github.com".toList, "release-assets.githubusercontent.com".toList,
   "objects.githubusercontent.com".toList, "sourceforge.net".toList,
   "downloads.sourceforge.net".toList]

def captivePortalProbeDomains : List Text :=
  ["detectportal.firefox.com".toList, "connectivity-check.ubuntu.com".toList,
   "captive.apple.com".toList, "www.msftconnecttest.com".toList, "clients3.google.com".toList]

def osSystemDomains : List Text :=
  ["ntp.ubuntu.com".toList, "time.google.com".toList, "pool.ntp.org".toList,
   "security.ubuntu.com".toList, "archive.ubuntu.com".toList, "changelogs.ubuntu.com".toList]

def firefoxSystemDomains : List Text :=
  ["aus5.mozilla.org".toList, "firefox.settings.services.mozilla.com".toList,
   "firefox-settings-attachments.cdn.mozilla.net".toList,
   "content-signature-2.cdn.mozilla.net".toList, "download.mozilla.org".toList,
   "download.cdn.mozilla.net".toList, "archive.mozilla.org".toList, "ftp.mozilla.org".toList,
   "safebrowsing.googleapis.com".toList, "addons.mozilla.org".toList,
   "versioncheck.addons.mozilla.org".toList, "services.addons.mozilla.org".toList,
   "ciscobinary.openh264.org".toList, "redirector.gvt1.com".toList,
   "clients2.googleusercontent.com".toList]

/-- The configured addresses: the contents of the configuration files, where
they exist, and the two variables that stand in for the first. -/
structure ControlPlaneConfig where
  whitelistUrlConf : Option Text
  whitelistUrl : Text
  defaultWhitelistUrl : Text
  apiUrlConf : Option Text
  healthApiUrlConf : Option Text

/-- `tr -d '\r\n'` of a file, or nothing. -/
def readAddress (file : Option Text) : Text :=
  (file.getD []).filter fun c => c ≠ '\r' ∧ c ≠ '\n'

def ControlPlaneConfig.effectiveWhitelistUrl (config : ControlPlaneConfig) : Text :=
  match config.whitelistUrlConf with
  | some file => readAddress (some file)
  | none => if config.whitelistUrl ≠ [] then config.whitelistUrl else config.defaultWhitelistUrl

def appendUniqueOpenpathDomain (domains : List Text) (domain : Text) : List Text :=
  let normalized := normalizeOpenpathDomain domain
  if domain = [] ∨ validateDomain normalized = false ∨ normalized ∈ domains then domains
  else domains ++ [normalized]

/-- The domains that are offered to the list, in order. -/
def offeredDomains (config : ControlPlaneConfig) : List Text :=
  controlPlaneDomains ++ captivePortalProbeDomains ++ osSystemDomains ++ firefoxSystemDomains ++
    [getUrlHost config.effectiveWhitelistUrl, getUrlHost (readAddress config.apiUrlConf),
     getUrlHost (readAddress config.healthApiUrlConf)]

def refreshOpenpathProtectedDomains (config : ControlPlaneConfig) : List Text :=
  (offeredDomains config).foldl appendUniqueOpenpathDomain []

/-! ## Protection -/

/-- A protected domain joins the whitelist where it is missing. -/
def addProtectedDomain (whitelist : List Text) (domain : Text) : List Text :=
  if domain = [] ∨ domain ∈ whitelist then whitelist else whitelist ++ [domain]

def protectControlPlaneRules (protectedDomains : List Text) (sections : Sections) : Sections where
  whitelist := protectedDomains.foldl addProtectedDomain sections.whitelist
  blockedSubdomains := sections.blockedSubdomains.filter (· ∉ protectedDomains)
  blockedPaths := sections.blockedPaths.filter fun rule =>
    match getBlockedPathHost rule with
    | some host => host ∉ protectedDomains
    | none => true
  allowedPaths := sections.allowedPaths

variable {domains : List Text} {domain other : Text}

theorem mem_appendUnique (hmem : other ∈ domains) :
    other ∈ appendUniqueOpenpathDomain domains domain := by
  unfold appendUniqueOpenpathDomain
  dsimp only
  split
  · exact hmem
  · exact List.mem_append_left _ hmem

theorem mem_foldl_appendUnique (hmem : other ∈ domains) (offered : List Text) :
    other ∈ offered.foldl appendUniqueOpenpathDomain domains := by
  induction offered generalizing domains with
  | nil => exact hmem
  | cons domain rest ih => exact ih (mem_appendUnique hmem)

/-- A domain that is offered joins the list if it has the format of one. -/
theorem mem_of_offered {offered : List Text} (hoffered : domain ∈ offered)
    (hnonempty : domain ≠ []) (hvalid : validateDomain (normalizeOpenpathDomain domain) = true) :
    normalizeOpenpathDomain domain ∈ offered.foldl appendUniqueOpenpathDomain domains := by
  induction offered generalizing domains with
  | nil => cases hoffered
  | cons first rest ih =>
      rcases List.mem_cons.mp hoffered with rfl | hrest
      · rw [List.foldl_cons]
        apply mem_foldl_appendUnique
        unfold appendUniqueOpenpathDomain
        by_cases hmem : normalizeOpenpathDomain domain ∈ domains
        · simp [hmem]
        · simp [hnonempty, hvalid, hmem]
      · exact ih hrest

/-- The list holds nothing but normalized domains that were offered. -/
theorem exists_offered_of_mem_refresh {config : ControlPlaneConfig}
    (hmem : domain ∈ refreshOpenpathProtectedDomains config) :
    ∃ offered ∈ offeredDomains config, domain = normalizeOpenpathDomain offered := by
  have hfold : ∀ offered domains : List Text,
      domain ∈ offered.foldl appendUniqueOpenpathDomain domains →
        domain ∈ domains ∨ ∃ source ∈ offered, domain = normalizeOpenpathDomain source := by
    intro offered
    induction offered with
    | nil => exact fun domains hmem => Or.inl hmem
    | cons first rest ih =>
        intro domains hmem
        rcases ih _ hmem with hstep | ⟨source, hsource, hdomain⟩
        · unfold appendUniqueOpenpathDomain at hstep
          dsimp only at hstep
          split at hstep
          · exact Or.inl hstep
          · rcases List.mem_append.mp hstep with hold | hnew
            · exact Or.inl hold
            · exact Or.inr ⟨first, List.mem_cons_self, List.mem_singleton.mp hnew⟩
        · exact Or.inr ⟨source, List.mem_cons_of_mem first hsource, hdomain⟩
  rcases hfold _ [] hmem with hnil | hoffered
  · cases hnil
  · exact hoffered

/-- Every configuration protects the first host of the control plane. -/
theorem raw_mem_protectedDomains (config : ControlPlaneConfig) :
    "raw.githubusercontent.com".toList ∈ refreshOpenpathProtectedDomains config := by
  have hnormalized : normalizeOpenpathDomain "raw.githubusercontent.com".toList =
      "raw.githubusercontent.com".toList := by
    decide
  have hvalid : validateDomain "raw.githubusercontent.com".toList = true := by decide
  have hoffered : "raw.githubusercontent.com".toList ∈ offeredDomains config := by
    simp [offeredDomains, controlPlaneDomains]
  have hmem : normalizeOpenpathDomain "raw.githubusercontent.com".toList ∈
      refreshOpenpathProtectedDomains config :=
    mem_of_offered hoffered (by decide) (by rw [hnormalized, hvalid])
  rwa [hnormalized] at hmem

/-- The protected domains are distinct and have the format of domains. -/
structure ProtectedList (domains : List Text) : Prop where
  distinct : domains.Nodup
  valid : ∀ domain ∈ domains, validateDomain domain = true

theorem ProtectedList.nil_not_mem (hlist : ProtectedList domains) : [] ∉ domains := by
  intro hnil
  have hvalid := hlist.valid [] hnil
  revert hvalid
  decide

theorem ProtectedList.appendUnique (hlist : ProtectedList domains) (domain : Text) :
    ProtectedList (appendUniqueOpenpathDomain domains domain) := by
  unfold appendUniqueOpenpathDomain
  dsimp only
  split
  · exact hlist
  · rename_i hnew
    obtain ⟨-, hvalid, hfresh⟩ : domain ≠ [] ∧
        validateDomain (normalizeOpenpathDomain domain) = true ∧
          normalizeOpenpathDomain domain ∉ domains := by
      simpa using hnew
    refine ⟨List.nodup_append.mpr ⟨hlist.distinct, List.nodup_singleton _, ?_⟩, ?_⟩
    · intro first hfirst second hsecond hsame
      rw [List.mem_singleton.mp hsecond] at hsame
      exact hfresh (hsame ▸ hfirst)
    intro other hother
    rcases List.mem_append.mp hother with hold | hnew
    · exact hlist.valid other hold
    · exact List.mem_singleton.mp hnew ▸ hvalid

theorem protectedList_refresh (config : ControlPlaneConfig) :
    ProtectedList (refreshOpenpathProtectedDomains config) := by
  have hfold : ∀ offered domains : List Text, ProtectedList domains →
      ProtectedList (offered.foldl appendUniqueOpenpathDomain domains) := by
    intro offered
    induction offered with
    | nil => exact fun domains hlist => hlist
    | cons domain rest ih => exact fun domains hlist => ih _ (hlist.appendUnique domain)
  exact hfold _ [] ⟨List.nodup_nil, by simp⟩

variable {protectedDomains : List Text}

/-- The whitelist after the protection: what it was, and then the protected
domains that were missing. -/
theorem foldl_addProtectedDomain (hdistinct : protectedDomains.Nodup)
    (hnonempty : [] ∉ protectedDomains) (whitelist : List Text) :
    protectedDomains.foldl addProtectedDomain whitelist =
      whitelist ++ protectedDomains.filter (· ∉ whitelist) := by
  induction protectedDomains generalizing whitelist with
  | nil => simp
  | cons domain rest ih =>
      obtain ⟨hfresh, hrest⟩ := List.nodup_cons.mp hdistinct
      have hdomain : domain ≠ [] := fun h => hnonempty (h ▸ List.mem_cons_self)
      have hstep := fun list => ih hrest (fun h => hnonempty (List.mem_cons_of_mem _ h)) list
      rw [List.foldl_cons, hstep]
      by_cases hmem : domain ∈ whitelist
      · simp [addProtectedDomain, hmem]
      · have hfilter : rest.filter (· ∉ whitelist ++ [domain]) = rest.filter (· ∉ whitelist) := by
          apply List.filter_congr
          intro other hother
          have hne : other ≠ domain := fun h => hfresh (h ▸ hother)
          simp [hne]
        rw [addProtectedDomain, if_neg (by simp [hdomain, hmem]), hfilter,
          List.filter_cons_of_pos (by simpa using hmem), List.append_assoc, List.singleton_append]

theorem protectControlPlaneRules_whitelist (hlist : ProtectedList protectedDomains)
    (sections : Sections) :
    (protectControlPlaneRules protectedDomains sections).whitelist =
      sections.whitelist ++ protectedDomains.filter (· ∉ sections.whitelist) :=
  foldl_addProtectedDomain hlist.distinct hlist.nil_not_mem sections.whitelist

end OpenPath.Linux
