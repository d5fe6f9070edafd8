/-
# The policy that the DNS proxy is given

`Update-AcrylicHost` builds the policy of the DNS proxy from the domains of the
whitelist and the blocked subdomains: the sections of its hosts file, and the masks of
its configuration that say which names go to which resolver. The runtime dependencies and
the domains of captive portals come from the machine.

The hosts file shows what it was built from: two policies of which one has no blocked
subdomains are equal only where the other has none either, and where they forward the
same domains and dependencies.
-/

import OpenPath.Windows.DependencyBlocks
import OpenPath.Windows.WhitelistFile

namespace OpenPath.Windows.Acrylic

open DotNet Overlay RuntimeDependency
open Foundation (stripPrefix)

/-- What the machine adds to a whitelist: its configuration, its network and its overlay of
runtime dependencies. -/
structure Machine where
  /-- The hosts of the configured addresses. -/
  configHosts : List Text
  captivePortalDomains : List Text
  maxDomains : Nat
  /-- `Get-OpenPathSplitDnsPortalUpstreams` -/
  splitDnsPortalUpstreams : List Text
  /-- `Get-OpenPathRuntimeDependencyProtectedHosts` -/
  runtimeDependencyProtectedHosts : List Text
  overlay : Option OverlayDocument
  now : Int

/-! ## Sections -/

structure HostsSection where
  title : Text
  description : Text
  lines : List Text
  deriving DecidableEq

/-- `[string]::IsNullOrWhiteSpace` -/
def isBlank (line : Text) : Bool := line.all isWhiteSpace

/-- `New-AcrylicHostsSection` -/
def newAcrylicHostsSection (title : Text) (description : String) (lines : List Text) :
    HostsSection where
  title := title
  description := description.toList
  lines := lines.filter (!isBlank ·)

/-- The number in the title of a section. -/
def counted (title : String) (count : Nat) : Text :=
  title.toList ++ " (".toList ++ Nat.toDigits 10 count ++ [')']

/-- `Get-OpenPathAlwaysAllowedDomainGroups` -/
def alwaysAllowedDomainGroups (configHosts : List Text) : List (String × List Text) :=
  [("# Control plane and bootstrap/download", getProtectedDomains configHosts),
   ("# Captive portal detection", captivePortalProbeDomains),
   ("# Microsoft system and component updates", microsoftSystemDomains),
   ("# Firefox system and component updates", firefoxSystemDomains),
   ("# NTP", timeDomains)]

def forwardLines (domains blockedSubdomains : List Text) : List Text :=
  domains.flatMap fun domain =>
    (getAcrylicForwardRules domain blockedSubdomains).map HostsLine.render

/-- One group of essential domains, after the lines and the domains of the groups before. -/
def addGroup (state : List Text × List Text) (group : String × List Text) :
    List Text × List Text :=
  let seen := group.2.foldl (addNormalized normalizeAlwaysAllowedDomain) state.2
  let groupLines := forwardLines (seen.drop state.2.length) []
  if groupLines = [] then (state.1, seen)
  else
    (state.1 ++ (if state.1 = [] then [] else [[]]) ++ group.1.toList :: groupLines, seen)

def essentialLines (configHosts : List Text) : List Text :=
  ((alwaysAllowedDomainGroups configHosts).foldl addGroup ([], [])).1

def blockedLines (blockedSubdomains : List Text) : List Text :=
  ((blockedSubdomains.map trim).filter (· ≠ [])).map ("NX >".toList ++ ·)

/-- `Get-AcrylicExactForwardRule`, for the domains of which something is left. -/
def exactLines (domains : List Text) : List Text :=
  ((domains.map trim).filter (· ≠ [])).map ("FW ".toList ++ ·)

/-- `$effectiveCaptivePortalDomains` -/
def captivePortalNames (domains : List Text) : List Text :=
  ((domains.map fun domain => toLowerInvariant ((trim domain).rdropWhile (· == '.'))).filter
    (· ≠ [])).eraseDups

section Definition

variable (machine : Machine)

/-- The runtime dependencies that are listed and not blocked. -/
def runtimeDependencies (domains blockedSubdomains : List Text) : List Text :=
  let context := policyContext domains machine.runtimeDependencyProtectedHosts blockedSubdomains
  allowedDomains context (getDomains context machine.now machine.overlay)

/-- The sections behind the one of the whitelist. -/
def extraSections (dependencies blockedSubdomains : List Text) : List HostsSection :=
  let dependencyLines := exactLines dependencies
  let portalLines := forwardLines (captivePortalNames machine.captivePortalDomains) blockedSubdomains
  (if dependencyLines = [] then []
    else [newAcrylicHostsSection (counted "LOCAL RUNTIME DEPENDENCIES" dependencyLines.length) ""
      dependencyLines]) ++
    (if portalLines = [] then []
    else [newAcrylicHostsSection "Captive portal infrastructure (configured)".toList
      "Configured captive portal access (domain and subdomains)" portalLines])

/-- The sections of `New-AcrylicHostsDefinition`. -/
def hostsSections (domains dependencies blockedSubdomains : List Text) : List HostsSection :=
  [newAcrylicHostsSection "ESSENTIAL DOMAINS (always allowed)".toList
      "Required for system operation" (essentialLines machine.configHosts)] ++
    (if blockedLines blockedSubdomains = [] then []
    else [newAcrylicHostsSection
      (counted "BLOCKED SUBDOMAINS" (blockedLines blockedSubdomains).length) ""
      (blockedLines blockedSubdomains)]) ++
    [newAcrylicHostsSection (counted "WHITELISTED DOMAINS" domains.length) ""
      (forwardLines domains blockedSubdomains)] ++
    extraSections machine dependencies blockedSubdomains

/-! ## Masks -/

/-- A domain in a mask, without its wildcard. -/
def affinityName (domain : Text) : Text :=
  stripPrefix "*.".toList ((trim domain).rdropWhile (· == '.'))

/-- Some blocked subdomain lies under the domain. -/
def hasBlockedDescendant (name : Text) (blockedSubdomains : List Text) : Bool :=
  blockedSubdomains.any fun subdomain =>
    let blocked := (trim subdomain).rdropWhile (· == '.')
    blocked ≠ [] && name.length + 1 < blocked.length &&
      endsWithIgnoreCase blocked ('.' :: name)

/-- `Get-AcrylicAffinityMaskEntries` -/
def getAcrylicAffinityMaskEntries (domains blockedSubdomains : List Text) : List Text :=
  (((domains.map affinityName).filter (· ≠ [])).flatMap fun name =>
    if hasBlockedDescendant name blockedSubdomains then [name]
    else [name, "*.".toList ++ name]).foldl addDistinct []

/-- `Get-AcrylicExactAffinityMaskEntries` -/
def getAcrylicExactAffinityMaskEntries (domains : List Text) : List Text :=
  ((domains.map affinityName).filter (· ≠ [])).foldl addDistinct []

/-- The entries of `Set-AcrylicConfiguration`, which filters the dependencies once more, to no
effect. -/
def maskEntries (domains dependencies blockedSubdomains : List Text) : List Text :=
  (getAcrylicAffinityMaskEntries
      ((alwaysAllowedDomainGroups machine.configHosts).flatMap Prod.snd) [] ++
    getAcrylicAffinityMaskEntries domains blockedSubdomains ++
    getAcrylicExactAffinityMaskEntries dependencies ++
    getAcrylicExactAffinityMaskEntries
      (captivePortalNames machine.captivePortalDomains)).eraseDups

/-- The resolvers of the network, where there is a portal that they are needed for. -/
def portalUpstreams : List Text :=
  if captivePortalNames machine.captivePortalDomains = [] then []
  else machine.splitDnsPortalUpstreams

/-- `$portalExclusionEntries` -/
def portalExclusionEntries : List Text :=
  (captivePortalNames machine.captivePortalDomains).flatMap fun domain =>
    ["^".toList ++ domain, "^*.".toList ++ domain]

def configuredUpstreamMask (domains dependencies blockedSubdomains : List Text) : List Text :=
  let entries := maskEntries machine domains dependencies blockedSubdomains
  let portalNames := captivePortalNames machine.captivePortalDomains
  if portalUpstreams machine = [] then entries
  else
    portalExclusionEntries machine ++ entries.filter fun entry =>
      !containsIgnoreCase (getAcrylicExactAffinityMaskEntries portalNames) entry

def portalUpstreamMask (blockedSubdomains : List Text) : List Text :=
  if portalUpstreams machine = [] then []
  else
    (getAcrylicAffinityMaskEntries (captivePortalNames machine.captivePortalDomains)
      blockedSubdomains).eraseDups

/-- What the proxy reads: the sections of `AcrylicHosts.txt`, and the masks of
`AcrylicConfiguration.ini`. -/
structure Policy where
  sections : List HostsSection
  configuredUpstreamMask : List Text
  portalUpstreamMask : List Text
  deriving DecidableEq

/-- The policy that `Update-AcrylicHost` builds. -/
def buildPolicy (domains blockedSubdomains : List Text) : Policy :=
  let effective := domains.take machine.maxDomains
  let dependencies := runtimeDependencies machine domains blockedSubdomains
  { sections := hostsSections machine effective dependencies blockedSubdomains
    configuredUpstreamMask :=
      configuredUpstreamMask machine effective dependencies blockedSubdomains
    portalUpstreamMask := portalUpstreamMask machine blockedSubdomains }

end Definition

/-! ## Lines that show their domains -/

/-- A domain as it stands in a parsed whitelist. -/
structure Listed (domain : Text) : Prop where
  nonempty : domain ≠ []
  trimmed : trim domain = domain

variable {domain : Text}

theorem Listed.exists_not_space (h : Listed domain) : ∃ c ∈ domain, isWhiteSpace c = false := by
  obtain ⟨c, rest, rfl⟩ := List.exists_cons_of_ne_nil h.nonempty
  exact ⟨c, List.mem_cons_self, (trim_eq_self_iff.mp h.trimmed).1 c rfl⟩

/-- A line that shows a domain is no blank one. -/
theorem Listed.isBlank_append (h : Listed domain) (start : Text) :
    isBlank (start ++ domain) = false := by
  obtain ⟨c, hc, hspace⟩ := h.exists_not_space
  rw [isBlank, List.all_eq_false]
  exact ⟨c, List.mem_append_right _ hc, by simp [hspace]⟩

/-- The two lines of a domain under which nothing is blocked. -/
theorem Listed.forwardRules_eq (h : Listed domain) :
    ∃ first second : Text, (getAcrylicForwardRules domain []).map HostsLine.render =
        [first ++ domain, second ++ '>' :: domain] ∧
      (second = "FW ".toList ∨ second = "# FW ".toList) := by
  have hblocked : blockedDescendants domain [] = [] := rfl
  simp only [getAcrylicForwardRules, h.trimmed, h.nonempty, hblocked, if_true, if_false]
  generalize resolveSslipIpv4Address domain = address
  cases address with
  | none => exact ⟨"FW ".toList, "FW ".toList, rfl, Or.inl rfl⟩
  | some ip =>
      have hfirst : (ip ++ [' ']) ++ domain = ip ++ ' ' :: domain := List.append_assoc ip [' '] domain
      refine ⟨ip ++ [' '], "# FW ".toList, ?_, Or.inr rfl⟩
      rw [hfirst]
      rfl

theorem append_cons_inj {first second : Text} {other : Text}
    (hfirst : first = "FW ".toList ∨ first = "# FW ".toList)
    (hsecond : second = "FW ".toList ∨ second = "# FW ".toList)
    (h : first ++ '>' :: domain = second ++ '>' :: other) : domain = other := by
  rcases hfirst with rfl | rfl
  · rcases hsecond with rfl | rfl
    · simpa using h
    · simp at h
  · rcases hsecond with rfl | rfl
    · simp at h
    · simpa using h

theorem forwardLines_cons (domain : Text) (domains blocked : List Text) :
    forwardLines (domain :: domains) blocked =
      (getAcrylicForwardRules domain blocked).map HostsLine.render ++
        forwardLines domains blocked := List.flatMap_cons

variable {domains others : List Text}

/-- Where nothing is blocked, the lines show the domains. -/
theorem forwardLines_inj (hdomains : ∀ domain ∈ domains, Listed domain)
    (hothers : ∀ domain ∈ others, Listed domain)
    (h : forwardLines domains [] = forwardLines others []) : domains = others := by
  induction domains generalizing others with
  | nil =>
      cases others with
      | nil => rfl
      | cons other others =>
          obtain ⟨first, second, hrules, -⟩ := (hothers other List.mem_cons_self).forwardRules_eq
          rw [forwardLines_cons, hrules] at h
          cases h
  | cons domain domains ih =>
      obtain ⟨first, second, hrules, hsecond⟩ :=
        (hdomains domain List.mem_cons_self).forwardRules_eq
      rw [forwardLines_cons, hrules] at h
      cases others with
      | nil => cases h
      | cons other others =>
          obtain ⟨first', second', hrules', hsecond'⟩ :=
            (hothers other List.mem_cons_self).forwardRules_eq
          rw [forwardLines_cons, hrules'] at h
          simp only [List.cons_append, List.nil_append, List.cons.injEq] at h
          obtain ⟨-, hline, hrest⟩ := h
          rw [append_cons_inj hsecond hsecond' hline,
            ih (fun d hd => hdomains d (List.mem_cons_of_mem _ hd))
              (fun d hd => hothers d (List.mem_cons_of_mem _ hd)) hrest]

theorem isBlank_forwardLines (hdomains : ∀ domain ∈ domains, Listed domain) :
    ∀ line ∈ forwardLines domains [], isBlank line = false := by
  intro line hline
  obtain ⟨domain, hdomain, hline⟩ := List.mem_flatMap.mp hline
  have hlisted := hdomains domain hdomain
  obtain ⟨first, second, hrules, -⟩ := hlisted.forwardRules_eq
  rw [hrules] at hline
  rcases List.mem_cons.mp hline with rfl | hline
  · exact hlisted.isBlank_append first
  · rw [List.mem_singleton.mp hline]
    have hsplit : second ++ '>' :: domain = (second ++ ['>']) ++ domain := by simp
    rw [hsplit]
    exact hlisted.isBlank_append _

theorem lines_newAcrylicHostsSection {title : Text} {description : String} {lines : List Text}
    (h : ∀ line ∈ lines, isBlank line = false) :
    (newAcrylicHostsSection title description lines).lines = lines :=
  List.filter_eq_self.mpr fun line hline => by rw [h line hline]; rfl

/-! ## Policies that show what they were built from -/

variable {blocked : List Text}

theorem blockedLines_eq_nil_iff (hblocked : ∀ entry ∈ blocked, Listed entry) :
    blockedLines blocked = [] ↔ blocked = [] := by
  constructor
  · intro h
    cases blocked with
    | nil => rfl
    | cons entry blocked =>
        have hentry := hblocked entry List.mem_cons_self
        simp [blockedLines, hentry.trimmed, hentry.nonempty] at h
  · rintro rfl
    rfl

theorem listed_runtimeDependencies (machine : Machine) (domains blocked : List Text) :
    ∀ domain ∈ runtimeDependencies machine domains blocked, Listed domain := by
  intro domain hdomain
  obtain ⟨host, hhost, -, -, rfl⟩ := (mem_allowedDomains_iff _ _ _).mp hdomain
  obtain ⟨entry, hentry, rfl⟩ := List.mem_map.mp hhost
  have hne := dependency_of_listsEntry (List.mem_filter.mp hentry).2
  obtain ⟨⟨first, hfirst, hfirstClass⟩, last, hlast, hlastClass⟩ :=
    ends_of_mem_hostPattern (readHost_normalizeHost hne).word
  refine ⟨?_, trim_of_ends hfirst hlast (isHostAlphanumeric_plain hfirstClass).1
    (isHostAlphanumeric_plain hlastClass).1⟩
  rintro hnil
  rw [normalizeText] at hnil
  rw [hnil] at hfirst
  cases hfirst

theorem exactLines_eq (hdomains : ∀ domain ∈ domains, Listed domain) :
    exactLines domains = domains.map ("FW ".toList ++ ·) := by
  have htrim : domains.map trim = domains :=
    (List.map_congr_left fun domain hdomain => (hdomains domain hdomain).trimmed).trans
      (List.map_id _)
  have hfilter : domains.filter (· ≠ []) = domains :=
    List.filter_eq_self.mpr fun domain hdomain => decide_eq_true (hdomains domain hdomain).nonempty
  rw [exactLines, htrim, hfilter]

/-- The section of the dependencies shows the dependencies. -/
theorem extraSections_inj (machine : Machine) {dependencies : List Text}
    (hdependencies : ∀ domain ∈ dependencies, Listed domain)
    (hothers : ∀ domain ∈ others, Listed domain)
    (h : extraSections machine dependencies [] = extraSections machine others []) :
    dependencies = others := by
  have hsection := List.append_cancel_right h
  have hlines : exactLines dependencies = exactLines others := by
    by_cases hnone : exactLines dependencies = []
    · by_cases hother : exactLines others = []
      · rw [hnone, hother]
      · rw [if_pos hnone, if_neg hother] at hsection
        cases hsection
    · by_cases hother : exactLines others = []
      · rw [if_neg hnone, if_pos hother] at hsection
        cases hsection
      · rw [if_neg hnone, if_neg hother, List.cons.injEq] at hsection
        have hsame := congrArg HostsSection.lines hsection.1
        have hblank : ∀ {domains : List Text}, (∀ domain ∈ domains, Listed domain) →
            ∀ line ∈ exactLines domains, isBlank line = false := by
          intro domains hlisted line hline
          rw [exactLines_eq hlisted] at hline
          obtain ⟨domain, hdomain, rfl⟩ := List.mem_map.mp hline
          exact (hlisted domain hdomain).isBlank_append _
        rwa [lines_newAcrylicHostsSection (hblank hdependencies),
          lines_newAcrylicHostsSection (hblank hothers)] at hsame
  rw [exactLines_eq hdependencies, exactLines_eq hothers] at hlines
  exact List.map_injective_iff.mpr (List.append_right_injective _) hlines

/-- The sections behind the essential ones, where nothing is blocked. -/
theorem hostsSections_nil (machine : Machine) (domains dependencies : List Text) :
    hostsSections machine domains dependencies [] =
      newAcrylicHostsSection "ESSENTIAL DOMAINS (always allowed)".toList
          "Required for system operation" (essentialLines machine.configHosts) ::
        newAcrylicHostsSection (counted "WHITELISTED DOMAINS" domains.length) ""
          (forwardLines domains []) :: extraSections machine dependencies [] := rfl

theorem title_counted_ne (first second : Nat) :
    counted "WHITELISTED DOMAINS" first ≠ counted "BLOCKED SUBDOMAINS" second := by
  intro h
  have hhead := congrArg List.head? h
  simp [counted] at hhead

theorem buildPolicy_eq_iff (machine : Machine) (hdomains : ∀ domain ∈ domains, Listed domain)
    (hothers : ∀ domain ∈ others, Listed domain) (hblocked : ∀ entry ∈ blocked, Listed entry) :
    buildPolicy machine domains [] = buildPolicy machine others blocked ↔
      blocked = [] ∧ domains.take machine.maxDomains = others.take machine.maxDomains ∧
        runtimeDependencies machine domains [] = runtimeDependencies machine others blocked := by
  constructor
  · intro h
    have hsections := congrArg Policy.sections h
    simp only [buildPolicy, hostsSections_nil] at hsections
    have hnone : blocked = [] := by
      by_contra hsome
      rw [hostsSections, if_neg (mt (blockedLines_eq_nil_iff hblocked).mp hsome)] at hsections
      simp only [List.cons_append, List.nil_append, List.cons.injEq] at hsections
      exact title_counted_ne _ _ (congrArg HostsSection.title hsections.2.1)
    subst hnone
    rw [hostsSections_nil, List.cons.injEq, List.cons.injEq] at hsections
    obtain ⟨-, hwhitelist, hextra⟩ := hsections
    have htake : ∀ {list : List Text}, (∀ domain ∈ list, Listed domain) →
        ∀ domain ∈ list.take machine.maxDomains, Listed domain :=
      fun hlist domain hdomain => hlist domain (List.mem_of_mem_take hdomain)
    have hlines := congrArg HostsSection.lines hwhitelist
    rw [lines_newAcrylicHostsSection (isBlank_forwardLines (htake hdomains)),
      lines_newAcrylicHostsSection (isBlank_forwardLines (htake hothers))] at hlines
    exact ⟨rfl, forwardLines_inj (htake hdomains) (htake hothers) hlines,
      extraSections_inj machine (listed_runtimeDependencies machine domains [])
        (listed_runtimeDependencies machine others []) hextra⟩
  · rintro ⟨rfl, htake, hdependencies⟩
    simp only [buildPolicy, htake, hdependencies]

end OpenPath.Windows.Acrylic
