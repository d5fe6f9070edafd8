/-
# The native host beside the DNS proxy

The native host answers the browser by the whitelist mirror and the native state, and the
DNS proxy by the hosts file that is rendered from the same policy. A name that the host
allows should be one that the proxy forwards.

They differ on five kinds of names: protected names under a blocked subdomain, names that
are refused by a rule the host cannot read, blocked names that are not refused, names that
are allowed by an entry that is not rendered (past the limit of the whitelist, with an
address, or a dependency that the proxy does not list), and names of portals that the
host does not read. Where a name is of none of these kinds, the two agree.
-/

import OpenPath.Windows.ControlPlane
import OpenPath.Windows.NativeHostDecision

namespace OpenPath.Windows.NativeHost

open Acrylic ControlPlane DotNet Overlay RuntimeDependency RulesValidation
open OpenPath.Policy (Sections)

/-- The names that a message may ask for: `^[a-z0-9.-]+$`. -/
def IsHostName (host : Text) : Prop :=
  ∀ c ∈ host, isLowerAlphanumeric c = true ∨ c = '-' ∨ c = '.'

instance (host : Text) : Decidable (IsHostName host) :=
  List.decidableBAll (fun c => isLowerAlphanumeric c = true ∨ c = '-' ∨ c = '.') host

/-- `$runtimeDependencyDomains` of `Sync-OpenPathFirefoxNativeHostState` -/
def stateDependencies (overlay : Option OverlayDocument) : List Text :=
  (((readDocument overlay).entries.map fun entry =>
    toLowerInvariant ((trim entry.dependencyHost).rdropWhile (· == '.'))).filter
      (· ≠ [])).eraseDups

/-- The native state that is written for a machine. The address for requests may have a
host of its own. -/
def nativeState (machine : Machine) (requestHosts : List Text) : NativeState where
  urlHosts := machine.configHosts ++ requestHosts
  runtimeDependencyDomains := stateDependencies machine.overlay
  captivePortalDomains := captivePortalNames machine.captivePortalDomains

/-- The mirror of a policy. -/
def snapshotOf (policy : WhitelistSections) (version : Text) : PolicySnapshot where
  sections := policy.sections
  isDisabled := policy.isDisabled
  policyKnown := true
  policyVersion := version

/-- The hosts file forwards the name. A refusal wins over the forward rules. -/
def Resolves (machine : Machine) (policy : Sections) (host : Text) : Prop :=
  Forwards (hostsLines (policyRules machine policy)) host ∧
    ¬ Refuses (policyRules machine policy) host

/-! ## Names of lists -/

theorem isLowerAlphanumeric_basic {c : Char} (hc : isLowerAlphanumeric c = true) :
    c.toNat < 0x10000 :=
  (toNat_lt_of_isLowerAlphanumeric hc).trans (by decide)

variable {domain : Text}

theorem readHost_of_valid (hvalid : testDomainFormat domain = true) :
    ReadHost isLowerAlphanumeric ((trim domain).map Unicode.simpleLower) := by
  have hword := mem_domainRegex_of_testDomainFormat hvalid
  have hascii : ∀ c ∈ trim domain, c.toNat < 0x80 := fun c hc =>
    toNat_lt_of_isDomainChar (isDomainChar_of_mem_domainRegex hword c hc)
  simp only [testDomainFormat, Bool.and_eq_true, decide_eq_true_eq, Bool.not_eq_true',
    JavaScript.length_of_ascii hascii] at hvalid
  obtain ⟨⟨⟨⟨-, hlong⟩, hshort⟩, hlocal⟩, -⟩ := hvalid
  refine readHost_of_word isLowerAlphanumeric_newline
    (map_mem_hostPattern (mem_hostPattern_of_domainRegex hword)
      (fun c hc => isLowerAlphanumeric_simpleLower hc) (by decide) (by decide))
    (by simpa using hlong) (by simpa using hshort) ?_
  intro hsuffix
  have hupper := hsuffix.map Char.toUpper
  rw [map_toUpper_simpleLower hascii] at hupper
  rw [← Bool.not_eq_true, List.isSuffixOf_iff_suffix] at hlocal
  exact hlocal hupper

theorem normalizeHost_of_valid (hvalid : testDomainFormat domain = true) :
    normalizeHost domain ≠ [] ∧
      (normalizeHost domain).map Char.toUpper = (trim domain).map Char.toUpper := by
  have hascii : ∀ c ∈ trim domain, c.toNat < 0x80 := fun c hc => toNat_lt_of_isDomainChar
    (isDomainChar_of_mem_domainRegex (mem_domainRegex_of_testDomainFormat hvalid) c hc)
  have hlower : toLowerInvariant (trimDots (trim domain)) =
      (trim domain).map Unicode.simpleLower := by
    have htrim : trimDots (trim domain) = trim domain := normalizeEntry_of_valid hvalid
    rw [htrim, toLowerInvariant_of_ascii hascii, toLowerCase_of_ascii hascii]
  have hne : normalizeHost domain ≠ [] := by
    rw [normalizeHost, checkedHost_ne_nil_iff isLowerAlphanumeric_newline
      (fun _ => isLowerAlphanumeric_basic) (noCapital_toLowerInvariant _), hlower]
    exact readHost_of_valid hvalid
  refine ⟨hne, ?_⟩
  rw [normalizeHost, checkedHost_eq hne, hlower, map_toUpper_simpleLower hascii]

/-- A list reads the names under its valid domains. -/
theorem coversHost_of_valid {entries : List Text} {host : Text} (hdomain : domain ∈ entries)
    (hvalid : testDomainFormat domain = true) (hunder : Under (trim domain) host) :
    coversHost (hostSet entries) host = true := by
  obtain ⟨hne, hupper⟩ := normalizeHost_of_valid hvalid
  refine coversHost_iff_under.mpr ⟨normalizeHost domain, ?_, ?_⟩
  · exact List.mem_filter.mpr ⟨List.mem_map_of_mem hdomain, by simpa using hne⟩
  · simpa only [Under, List.map_cons, hupper] using hunder

/-! ## What the proxy forwards -/

section Forwarding

variable {machine : Machine} {policy : Sections} {host : Text}

/-- The rules of a domain forward the name: it spells no address, and the name lies under
it and under no blocked name that is left out. -/
def ForwardedUnder (domain : Text) (blockedSubdomains : List Text) (host : Text) : Prop :=
  trim domain ≠ [] ∧ resolveSslipIpv4Address (trim domain) = none ∧ Under (trim domain) host ∧
    ¬ ∃ name ∈ blockedDescendants (trim domain) blockedSubdomains, Under name host

theorem forwards_iff_forwardedUnder {domain : Text} {blockedSubdomains : List Text}
    (hline : '\n' ∉ host) :
    Forwards (getAcrylicForwardRules domain blockedSubdomains) host ↔
      ForwardedUnder domain blockedSubdomains host := by
  by_cases hdomain : trim domain = []
  · simp [Forwards, getAcrylicForwardRules, ForwardedUnder, hdomain]
  · cases haddress : resolveSslipIpv4Address (trim domain) with
    | some ip => simp [ForwardedUnder, haddress, not_forwards_of_address haddress]
    | none =>
        rw [forwards_of_no_address hdomain haddress hline]
        simp [ForwardedUnder, hdomain, haddress]

/-- The name is forwarded as an essential one, under a rendered domain, or as a dependency. -/
def Rendered (machine : Machine) (policy : Sections) (host : Text) : Prop :=
  (∃ domain ∈ getAlwaysAllowedDomains machine.configHosts, ForwardedUnder domain [] host) ∨
    (∃ domain ∈ renderedDomains machine policy.whitelist,
      ForwardedUnder domain policy.blockedSubdomains host) ∨
    ∃ domain ∈ runtimeDependencies machine policy.whitelist policy.blockedSubdomains,
      trim domain ≠ [] ∧ host.map Char.toUpper = (trim domain).map Char.toUpper

theorem forward_mem_policyRules {rule : ForwardRule} :
    .hosts (.forward rule) ∈ policyRules machine policy ↔
      (∃ domain ∈ getAlwaysAllowedDomains machine.configHosts,
        .forward rule ∈ getAcrylicForwardRules domain []) ∨
      (∃ domain ∈ renderedDomains machine policy.whitelist,
        .forward rule ∈ getAcrylicForwardRules domain policy.blockedSubdomains) ∨
      ∃ domain ∈ runtimeDependencies machine policy.whitelist policy.blockedSubdomains,
        trim domain ≠ [] ∧ rule = .host (trim domain) := by
  have hessential := (rulesOf_essentialRules machine.configHosts).hosts (.forward rule)
  have hrefusal : .hosts (.forward rule) ∉ refusals policy.blockedSubdomains := by
    simp [refusals]
  have hexact : .hosts (.forward rule) ∈ exactRules (runtimeDependencies machine
      policy.whitelist policy.blockedSubdomains) ↔
        ∃ domain ∈ runtimeDependencies machine policy.whitelist policy.blockedSubdomains,
          trim domain ≠ [] ∧ rule = .host (trim domain) := by
    simp only [exactRules, List.mem_map, List.mem_filter, decide_eq_true_eq,
      DefinitionRule.hosts.injEq, HostsLine.forward.injEq]
    grind
  rw [policyRules, definitionRules]
  simp only [List.mem_append, hessential, hrefusal, or_false, hexact, hosts_mem_forwardRules,
    renderedDomains, or_and_right, exists_or]
  grind

theorem forwards_policyRules_iff (hline : '\n' ∉ host) :
    Forwards (hostsLines (policyRules machine policy)) host ↔ Rendered machine policy host := by
  simp only [Rendered, ← forwards_iff_forwardedUnder hline]
  simp only [Forwards, mem_hostsLines, forward_mem_policyRules]
  constructor
  · rintro ⟨rule, ⟨domain, hdomain, hrule⟩ | ⟨domain, hdomain, hrule⟩ |
      ⟨domain, hdomain, hne, rfl⟩, hmatches⟩
    · exact Or.inl ⟨domain, hdomain, rule, hrule, hmatches⟩
    · exact Or.inr (Or.inl ⟨domain, hdomain, rule, hrule, hmatches⟩)
    · exact Or.inr (Or.inr ⟨domain, hdomain, hne, hmatches⟩)
  · rintro (⟨domain, hdomain, rule, hrule, hmatches⟩ | ⟨domain, hdomain, rule, hrule, hmatches⟩ |
      ⟨domain, hdomain, hne, hmatches⟩)
    · exact ⟨rule, Or.inl ⟨domain, hdomain, hrule⟩, hmatches⟩
    · exact ⟨rule, Or.inr (Or.inl ⟨domain, hdomain, hrule⟩), hmatches⟩
    · exact ⟨.host (trim domain), Or.inr (Or.inr ⟨domain, hdomain, hne, rfl⟩), hmatches⟩

end Forwarding

/-! ## What the host allows -/

section Listing

variable {machine : Machine} {requestHosts : List Text} {host domain : Text}

theorem under_congr {other : Text} (hsame : domain.map Char.toUpper = other.map Char.toUpper)
    (hunder : Under domain host) :
    Under other host := by
  simpa only [Under, List.map_cons, hsame] using hunder

/-- The constants of the catalog are written as they are normalized. -/
theorem alwaysAllowedName_mem_catalog {entry : Text}
    (hentry : entry ∈ captivePortalProbeDomains ++ microsoftSystemDomains ++
      firefoxSystemDomains ++ timeDomains) :
    alwaysAllowedName entry ∈ captivePortalProbeDomains ++ microsoftSystemDomains ++
      firefoxSystemDomains ++ timeDomains := by
  have hall : (captivePortalProbeDomains ++ microsoftSystemDomains ++ firefoxSystemDomains ++
      timeDomains).all (fun entry => (captivePortalProbeDomains ++ microsoftSystemDomains ++
        firefoxSystemDomains ++ timeDomains).contains (alwaysAllowedName entry)) = true := by
    simp only [captivePortalProbeDomains, microsoftSystemDomains, firefoxSystemDomains,
      timeDomains]
    repeat rewrite [String.toList_ofList]
    decide
  exact List.contains_iff_mem.mp (List.all_eq_true.mp hall entry hentry)

variable {whitelist : List Text}

theorem valid_of_mem_effectiveWhitelist {configHosts : List Text}
    (hdomain : domain ∈ effectiveWhitelist configHosts whitelist) :
    testDomainFormat domain = true := by
  rcases mem_foldl_addNormalized hdomain with hnone | ⟨entry, -, hnormal⟩
  · cases hnone
  · exact (normalizeDomain_eq_some hnormal).2

/-- The host allows what the essential rules forward: by its catalog, or by the whitelist
that the filter adds the control plane to. -/
theorem covered_of_alwaysAllowed {whitelist : List Text} {domain : Text}
    (hdomain : domain ∈ getAlwaysAllowedDomains machine.configHosts) (hunder : Under domain host) :
    coversHost (protectedHosts (nativeState machine requestHosts)) host = true ∨
      coversHost (hostSet (effectiveWhitelist machine.configHosts whitelist)) host = true := by
  obtain ⟨hvalid, htrim⟩ := valid_of_mem_alwaysAllowed hdomain
  have hsources : ∃ entry, (entry ∈ getProtectedDomains machine.configHosts ∨
      entry ∈ captivePortalProbeDomains ++ microsoftSystemDomains ++ firefoxSystemDomains ++
        timeDomains) ∧ normalizeAlwaysAllowedDomain entry = some domain := by
    rcases mem_foldl_addNormalized hdomain with hnone | ⟨entry, hentry, hnormal⟩
    · cases hnone
    · simp only [List.append_assoc] at hentry ⊢
      exact ⟨entry, List.mem_append.mp hentry, hnormal⟩
  obtain ⟨entry, hprotected | hcatalog, hnormal⟩ := hsources
  · right
    have hentry := testDomainFormat_of_mem_protected hprotected
    rw [normalizeAlwaysAllowedDomain_of_valid hentry, Option.some.injEq] at hnormal
    have hdomainCase := beq_iff_eq.mp (equalsIgnoreCase_toLower (trim entry))
    rw [hnormal] at hdomainCase
    have hname := normalizeEntry_of_valid hentry
    obtain ⟨kept, hkept, hcase⟩ := exists_mem_foldl_addNormalized
      (List.mem_append_right whitelist hprotected)
      (normalizeDomain_of_valid (by rwa [hname, testDomainFormat_trim])) []
    rw [hname] at hcase
    have hkeptTrim := trim_eq_self_of_equalsIgnoreCase hcase (trim_trim entry)
    refine coversHost_of_valid hkept (valid_of_mem_effectiveWhitelist hkept) ?_
    rw [hkeptTrim]
    exact under_congr (hdomainCase.trans (beq_iff_eq.mp hcase)) hunder
  · left
    have hname := alwaysAllowedName_mem_catalog hcatalog
    rw [alwaysAllowedName, ← (normalizeAlwaysAllowedDomain_eq_some hnormal).1] at hname
    have hlisted : domain ∈ captivePortalProbeDomains ++ timeDomains ++ microsoftSystemDomains ++
        firefoxSystemDomains ++ (nativeState machine requestHosts).urlHosts := by
      simp only [List.mem_append] at hname ⊢
      rcases hname with ((hprobe | hmicrosoft) | hfirefox) | htime
      · exact Or.inl (Or.inl (Or.inl (Or.inl hprobe)))
      · exact Or.inl (Or.inl (Or.inr hmicrosoft))
      · exact Or.inl (Or.inr hfirefox)
      · exact Or.inl (Or.inl (Or.inl (Or.inr htime)))
    rw [protectedHosts]
    exact coversHost_of_valid hlisted hvalid (by rwa [htrim])

section

variable (hhost : IsHostName host)
include hhost

theorem IsHostName.noCapital : NoCapital host := by
  intro c hc
  rcases hhost c hc with halnum | rfl | rfl
  · have hrange := toNat_lt_of_isLowerAlphanumeric halnum
    have hall : ∀ n < 128, isLowerAlphanumeric (Char.ofNat n) = true →
        Ascii.isUpper (Char.ofNat n) = false := by decide
    have hupper := hall c.toNat hrange
    rw [Char.ofNat_toNat] at hupper
    exact hupper halnum
  · decide
  · decide

theorem IsHostName.toLowerInvariant_eq : toLowerInvariant host = host := by
  refine toLowerInvariant_eq_self fun c hc => Or.inl ?_
  rcases hhost c hc with halnum | rfl | rfl
  · have hlower := (lower_ascii c.toNat (toNat_lt_of_isLowerAlphanumeric halnum)).2
    rw [Char.ofNat_toNat] at hlower
    exact hlower halnum
  · decide
  · decide

/-- A dependency is read from the state as it is read from the overlay. -/
theorem lowerForm_stateDependency {value : Text}
    (hword : host ∈ (hostPattern isHostAlphanumeric).lang)
    (hwhole : lowerForm value = host ∨ lowerForm value = host ++ ['\n']) :
    lowerForm (toLowerInvariant ((trim value).rdropWhile (· == '.'))) = host := by
  obtain ⟨⟨first, hfirst, hfirstClass⟩, last, hlast, hlastClass⟩ := ends_of_mem_hostPattern hword
  obtain ⟨hfirstSpace, hfirstDot⟩ := isHostAlphanumeric_plain hfirstClass
  obtain ⟨hlastSpace, hlastDot⟩ := isHostAlphanumeric_plain hlastClass
  have hne : host ≠ [] := by
    rintro rfl
    cases hfirst
  -- What is left at the front are dots, and behind the host at most a line break.
  obtain ⟨dots, hdots, hvalue⟩ : ∃ dots : Text, (∀ c ∈ dots, c = '.') ∧
      toLowerInvariant ((trim value).rdropWhile (· == '.')) = dots ++ lowerForm value := by
    have hdots : ∀ c ∈ (trim value).takeWhile (· == '.'), c = '.' := fun c hc => by
      simpa using List.mem_takeWhile_imp hc
    have hrest : ((trim value).dropWhile (· == '.')).rdropWhile (· == '.') ≠ [] := by
      intro hnil
      have hform : lowerForm value = [] := congrArg toLowerInvariant hnil
      rw [hform] at hwhole
      rcases hwhole with hwhole | hwhole
      · exact hne hwhole.symm
      · simp at hwhole
    have hlower : toLowerInvariant ((trim value).takeWhile (· == '.')) =
        (trim value).takeWhile (· == '.') := toLowerInvariant_eq_self fun c hc => by
      rw [hdots c hc]
      exact Or.inl (by decide)
    refine ⟨(trim value).takeWhile (· == '.'), hdots, ?_⟩
    have hsplit := Foundation.rdropWhile_append_of_ne_nil
      (s := (trim value).takeWhile (· == '.')) hrest
    rw [List.takeWhile_append_dropWhile] at hsplit
    rw [hsplit]
    exact List.map_append.trans (congrArg (· ++ lowerForm value) hlower)
  have hfront : Foundation.Trimmed isWhiteSpace (dots ++ host) := by
    refine ⟨fun c hc => ?_, fun c hc => ?_⟩
    · cases dots with
      | nil =>
          rw [List.nil_append, Option.mem_def.mp hfirst, Option.mem_some_iff] at hc
          rwa [← hc]
      | cons d dots =>
          rw [List.cons_append, List.head?_cons, Option.mem_some_iff] at hc
          rw [← hc, hdots d List.mem_cons_self]
          decide
    · rw [List.getLast?_append_of_ne_nil _ hne, Option.mem_def.mp hlast, Option.mem_some_iff] at hc
      rwa [← hc]
  have htrim : trim (dots ++ lowerForm value) = dots ++ host := by
    rcases hwhole with hwhole | hwhole
    · rw [hwhole]
      exact Foundation.trim_eq_self_iff.mpr hfront
    · rw [hwhole, ← List.append_assoc]
      exact Foundation.trim_append hfront (by simp [hne])
        (List.forall_mem_singleton.mpr (by decide))
  have hdrop : trimDots (dots ++ host) = host := by
    have hself : Foundation.trim (· == '.') host = host :=
      trim_of_ends hfirst hlast (by simpa using hfirstDot) (by simpa using hlastDot)
    rw [trimDots, Foundation.trim, List.dropWhile_append_of_pos (by simpa using hdots)]
    exact hself
  rw [hvalue, lowerForm, htrim, hdrop, hhost.toLowerInvariant_eq]

theorem listed_of_dependency {blocked : List Text}
    (hdomain : domain ∈ runtimeDependencies machine whitelist blocked)
    (hequal : host.map Char.toUpper = (trim domain).map Char.toUpper) :
    ∃ item ∈ stateDependencies machine.overlay, host = normalizeHost item := by
  obtain ⟨value, hvalue, -, -, rfl⟩ := (mem_allowedDomains_iff _ _ _).mp hdomain
  obtain ⟨entry, hentry, rfl⟩ := List.mem_map.mp hvalue
  obtain ⟨hentry, hlisted⟩ := List.mem_filter.mp hentry
  have hne := dependency_of_listsEntry hlisted
  have hread := readHost_normalizeHost hne
  have hvalid : testDomainFormat (normalizeText entry.dependencyHost) = true := by
    simp only [listsEntry, Bool.not_or, Bool.and_eq_true, Bool.not_not] at hlisted
    exact hlisted.2
  obtain ⟨⟨first, hfirst, hfirstClass⟩, last, hlast, hlastClass⟩ :=
    ends_of_mem_hostPattern hread.word
  have htrim : trim (hostName (normalizeText entry.dependencyHost)) =
      hostName (normalizeText entry.dependencyHost) :=
    trim_of_ends hfirst hlast (isHostAlphanumeric_plain hfirstClass).1
      (isHostAlphanumeric_plain hlastClass).1
  have hsame : host = hostName (normalizeText entry.dependencyHost) := by
    rw [htrim] at hequal
    exact eq_of_map_toUpper_eq hhost.noCapital (noCapital_hostName _) hequal
  have hform : normalizeText entry.dependencyHost = lowerForm entry.dependencyHost :=
    normalizeHost_eq hne
  have hwhole := hread.whole
  have hword := hread.word
  rw [← normalizeText, ← hsame] at hwhole hword
  rw [hform] at hwhole
  have hitem := lowerForm_stateDependency hhost hword hwhole
  have hhostValid : testDomainFormat host = true := by
    have hname : trim (normalizeText entry.dependencyHost) = host :=
      ((normalizeEntry_of_valid hvalid).symm.trans (lowerForm_normalizeHost hne).1).trans hsame.symm
    rw [← hname, testDomainFormat_trim]
    exact hvalid
  have hchecked : normalizeHost (toLowerInvariant
      ((trim entry.dependencyHost).rdropWhile (· == '.'))) = host := by
    have hself : lowerForm host = host := by
      have hdots : trimDots host = host := by
        rw [hsame]
        exact trim_of_ends hfirst hlast (by simpa using (isHostAlphanumeric_plain hfirstClass).2)
          (by simpa using (isHostAlphanumeric_plain hlastClass).2)
      rw [← hsame] at htrim
      rw [lowerForm, htrim, hdots, hhost.toLowerInvariant_eq]
    have hread := (normalizeHost_of_valid hhostValid).1
    rw [normalizeHost, ← lowerForm, hself] at hread
    rw [normalizeHost, ← lowerForm, hitem, checkedHost_eq hread]
  refine ⟨toLowerInvariant ((trim entry.dependencyHost).rdropWhile (· == '.')), ?_, hchecked.symm⟩
  rw [stateDependencies, List.mem_eraseDups, List.mem_filter]
  refine ⟨List.mem_map.mpr ⟨entry, hentry, rfl⟩, decide_eq_true fun hnil => ?_⟩
  rw [hnil] at hitem
  rw [← hitem] at hhostValid
  cases hhostValid

end

end Listing

/-! ## The PowerShell host -/

/-- A portal of the list, as the PowerShell host compares it. -/
def matchesPortalIgnoringCase (domain item : Text) : Bool :=
  let portal := normalizeText item
  portal ≠ [] && (equalsIgnoreCase domain portal || endsWithIgnoreCase domain ('.' :: portal))

/-- `Get-NativeHostPolicyDecision`. The host loads the catalog of domains alone. -/
def getNativeHostPolicyDecision (domain : Text) (snapshot : PolicySnapshot)
    (state : NativeState) : PolicyDecision :=
  let version := snapshot.policyVersion
  if !snapshot.policyKnown || version = [] then
    { decision := .unknown, reason := .policyUnavailable, active := none, inWhitelist := false,
      version := [] }
  else if snapshot.isDisabled then
    { decision := .allowed, reason := .policyInactive, active := some false, inWhitelist := true,
      version }
  else if coversHost (Overlay.hostSet (captivePortalProbeDomains ++ timeDomains ++
      microsoftSystemDomains ++ firefoxSystemDomains ++ state.urlHosts)) domain then
    activeDecision version .allowed .protectedInfrastructure
  else if coversHost (Overlay.hostSet snapshot.sections.blockedSubdomains) domain then
    activeDecision version .blocked .blockedSubdomain
  else if coversHost (Overlay.hostSet snapshot.sections.whitelist) domain then
    activeDecision version .allowed .whitelistDomain
  else if state.runtimeDependencyDomains.any fun item =>
      equalsIgnoreCase domain (normalizeText item) then
    activeDecision version .allowed .runtimeDependencyExact
  else if state.captivePortalDomains.any (matchesPortalIgnoringCase domain) then
    activeDecision version .allowed .captivePortalDomain
  else activeDecision version .blocked .defaultDeny

/-- The two normal forms of an entry differ only where the pattern without regard to case
admits a capital I with a dot above. -/
theorem normalizeText_cases (value : Text) :
    normalizeText value = normalizeHost value ∨
      Unicode.capitalDottedI ∈ normalizeText value ∧ normalizeHost value = [] := by
  have hread := checkedHost_ne_nil_iff isLowerAlphanumeric_newline
    (fun _ => isLowerAlphanumeric_basic) (noCapital_toLowerInvariant (trimDots (trim value)))
  have hread' := normalizeHost_ne_nil_iff (some (.string value))
  by_cases hdotted : Unicode.capitalDottedI ∈ lowerForm value
  · have hnone : normalizeHost value = [] := by
      by_contra hne
      have hhost := hread.mp hne
      have hclass := char_of_hostName hhost.word hhost.whole _ hdotted
      revert hclass
      decide
    by_cases hempty : normalizeText value = []
    · exact Or.inl (hempty.trans hnone.symm)
    · refine Or.inr ⟨?_, hnone⟩
      rwa [normalizeText, normalizeHost_eq hempty]
  · left
    have hsame : normalizeText value ≠ [] ↔ normalizeHost value ≠ [] := by
      refine hread'.trans (Iff.trans ⟨fun hhost => ?_, fun hhost => ?_⟩ hread.symm)
      · refine hhost.mono fun c hc hclass => isLowerAlphanumeric_of_isHostAlphanumeric hclass
          (noCapital_toLowerInvariant _ c hc) ?_
        rintro rfl
        exact hdotted hc
      · exact hhost.mono fun _ _ => isHostAlphanumeric_of_isLowerAlphanumeric
    by_cases hempty : normalizeText value = []
    · rw [hempty, not_ne_iff.mp (mt hsame.mpr (not_ne_iff.mpr hempty))]
    · rw [normalizeText, normalizeHost_eq hempty, normalizeHost, checkedHost_eq (hsame.mp hempty)]
      rfl

section PowerShell

variable {host : Text} (hhost : IsHostName host)
include hhost

theorem IsHostName.not_under_dotted {name : Text} (hname : Unicode.capitalDottedI ∈ name) :
    ¬ Under name host := by
  intro hunder
  have hmem : Unicode.capitalDottedI ∈ host.map Char.toUpper := by
    have hupper := List.mem_map_of_mem (f := Char.toUpper) hname
    rcases hunder with hequal | hsuffix
    · rwa [hequal]
    · exact hsuffix.mem (List.mem_cons_of_mem _ hupper)
  obtain ⟨c, hc, hupper⟩ := List.mem_map.mp hmem
  rw [Ascii.toUpper_eq_iff (by decide)] at hupper
  rcases hhost c hc with hclass | rfl | rfl
  · rw [hupper] at hclass
    revert hclass
    decide
  · cases hupper
  · cases hupper

theorem IsHostName.coversHost_eq (entries : List Text) :
    coversHost (Overlay.hostSet entries) host = coversHost (hostSet entries) host := by
  rw [Bool.eq_iff_iff, coversHost_iff_under, coversHost_iff_under]
  simp only [Overlay.hostSet, hostSet, List.mem_filter, List.mem_map, decide_eq_true_eq]
  constructor
  · rintro ⟨name, ⟨⟨entry, hentry, rfl⟩, hne⟩, hunder⟩
    rcases normalizeText_cases entry with hsame | ⟨hdotted, -⟩
    · exact ⟨_, ⟨⟨entry, hentry, hsame.symm⟩, hne⟩, hunder⟩
    · exact absurd hunder (hhost.not_under_dotted hdotted)
  · rintro ⟨name, ⟨⟨entry, hentry, rfl⟩, hne⟩, hunder⟩
    rcases normalizeText_cases entry with hsame | ⟨-, hnone⟩
    · exact ⟨_, ⟨⟨entry, hentry, hsame⟩, hne⟩, hunder⟩
    · exact absurd hnone hne

variable (hne : host ≠ [])
include hne

theorem IsHostName.equals_eq (item : Text) :
    equalsIgnoreCase host (normalizeText item) = (host == normalizeHost item) := by
  rw [Bool.eq_iff_iff, beq_iff_eq, equalsIgnoreCase, beq_iff_eq]
  rcases normalizeText_cases item with hsame | ⟨hdotted, hnone⟩
  · rw [← hsame]
    exact ⟨eq_of_map_toUpper_eq hhost.noCapital (noCapital_normalizeHost _), congrArg _⟩
  · have hunder : ¬ Under (normalizeText item) host := hhost.not_under_dotted hdotted
    rw [hnone]
    exact ⟨fun hequal => absurd (Or.inl hequal) hunder, fun hnil => absurd hnil hne⟩

theorem IsHostName.matchesPortal_eq (item : Text) :
    matchesPortalIgnoringCase host item = matchesPortal host item := by
  rw [matchesPortalIgnoringCase, matchesPortal, hhost.equals_eq hne]
  rcases normalizeText_cases item with hsame | ⟨hdotted, hnone⟩
  · rw [hsame]
  · have hends : endsWithIgnoreCase host ('.' :: normalizeText item) = false := by
      rw [← Bool.not_eq_true, endsWithIgnoreCase, List.isSuffixOf_iff_suffix]
      exact mt Or.inr (hhost.not_under_dotted hdotted)
    simp [hends, hnone, hne]

/-- Both hosts decide alike. -/
theorem getNativeHostPolicyDecision_eq (snapshot : PolicySnapshot) (state : NativeState) :
    getNativeHostPolicyDecision host snapshot state = getPolicyDecision host snapshot state := by
  have hportal : matchesPortalIgnoringCase host = matchesPortal host :=
    funext (hhost.matchesPortal_eq hne)
  rw [getNativeHostPolicyDecision, getPolicyDecision, protectedHosts, hportal]
  simp only [hhost.coversHost_eq, hhost.equals_eq hne]

end PowerShell

/-! ## Agreement -/

/-- Some line refuses the name, by a blocked subdomain as it is rendered. -/
def Refused (policy : Sections) (host : Text) : Prop :=
  ∃ entry ∈ policy.blockedSubdomains, trim entry ≠ [] ∧ host ∈ (refusedPattern (trim entry)).lang

/-- The name is under a blocked subdomain as the host reads it. -/
def ReadsBlocked (policy : Sections) (host : Text) : Prop :=
  coversHost (hostSet policy.blockedSubdomains) host = true

section Agreement

variable (machine : Machine) (requestHosts : List Text)

def Protected (host : Text) : Prop :=
  coversHost (protectedHosts (nativeState machine requestHosts)) host = true

/-- The lists that the host reads allow the name. -/
def ReadsListed (policy : Sections) (host : Text) : Prop :=
  coversHost (hostSet policy.whitelist) host = true ∨
    (∃ item ∈ stateDependencies machine.overlay, host = normalizeHost item) ∨
    ∃ item ∈ captivePortalNames machine.captivePortalDomains, matchesPortal host item = true

/-- The kinds of names on which the host and the proxy differ. -/
inductive Differs (policy : Sections) (host : Text) : Prop
  /-- A blocked subdomain over or under a protected host. -/
  | overProtected (hrefused : Refused policy host) (hprotected : Protected machine requestHosts host)
  /-- A blocked subdomain that is no host name, such as one with a wildcard. -/
  | unreadRule (hrefused : Refused policy host) (hread : ¬ ReadsBlocked policy host)
      (hlisted : ReadsListed machine policy host)
  /-- A blocked subdomain that is read with less white space or fewer dots than it is
  rendered with. -/
  | unrefused (hrefused : ¬ Refused policy host) (hread : ReadsBlocked policy host)
      (hprotected : ¬ Protected machine requestHosts host) (hrendered : Rendered machine policy host)
  /-- Nothing that is rendered is over the name: what allows it is past the limit, spells
  an address, is not listed as a dependency, or is an address for requests. -/
  | unrendered (hrefused : ¬ Refused policy host) (hrendered : ¬ Rendered machine policy host)
      (hallowed : Protected machine requestHosts host ∨
        ¬ ReadsBlocked policy host ∧ ReadsListed machine policy host)
  /-- The name of a portal that is no host name. -/
  | unreadPortal (hrefused : ¬ Refused policy host) (hread : ¬ ReadsBlocked policy host)
      (hprotected : ¬ Protected machine requestHosts host)
      (hlisted : ¬ ReadsListed machine policy host)
      (hportal : ∃ domain ∈ captivePortalNames machine.captivePortalDomains,
        ForwardedUnder domain policy.blockedSubdomains host)

variable {machine requestHosts} {host : Text} {policy : Sections}

theorem refuses_policyRules_iff :
    Refuses (policyRules machine policy) host ↔ Refused policy host := by
  simp only [Refuses, Refused, refuse_mem_policyRules]
  constructor
  · rintro ⟨name, ⟨hne, entry, hentry, rfl⟩, hmatch⟩
    exact ⟨entry, hentry, hne, hmatch⟩
  · rintro ⟨entry, hentry, hne, hmatch⟩
    exact ⟨trim entry, ⟨hne, entry, hentry, rfl⟩, hmatch⟩

/-- The host allows what a filtered policy forwards, but for the names of portals. -/
theorem covered_of_rendered {policy : Sections} {whitelist : List Text} (hhost : IsHostName host)
    (hpolicy : policy.whitelist = effectiveWhitelist machine.configHosts whitelist)
    (hrendered : Rendered machine policy host) :
    Protected machine requestHosts host ∨ ReadsListed machine policy host ∨
      ∃ domain ∈ captivePortalNames machine.captivePortalDomains,
        ForwardedUnder domain policy.blockedSubdomains host := by
  rcases hrendered with ⟨domain, hdomain, hforwarded⟩ | ⟨domain, hdomain, hforwarded⟩ |
    ⟨domain, hdomain, -, hequal⟩
  · have hunder := hforwarded.2.2.1
    rw [(valid_of_mem_alwaysAllowed hdomain).2] at hunder
    have hcovered := @covered_of_alwaysAllowed machine requestHosts host whitelist domain hdomain
      hunder
    rw [← hpolicy] at hcovered
    exact hcovered.imp id fun hlisted => Or.inl (Or.inl hlisted)
  · rcases List.mem_append.mp hdomain with hwhitelist | hportal
    · have hmem := List.mem_of_mem_take hwhitelist
      refine Or.inr (Or.inl (Or.inl (coversHost_of_valid hmem ?_ hforwarded.2.2.1)))
      rw [hpolicy] at hmem
      exact valid_of_mem_effectiveWhitelist hmem
    · exact Or.inr (Or.inr ⟨domain, hportal, hforwarded⟩)
  · exact Or.inr (Or.inl (Or.inr (Or.inl (listed_of_dependency hhost hdomain hequal))))

/-- On an enabled policy the host allows what the proxy forwards, unless the name is of one
of the kinds. -/
theorem allowed_iff_resolves_iff {snapshot : PolicySnapshot} {whitelist : List Text}
    (hhost : IsHostName host) (hknown : snapshot.policyKnown = true)
    (hversion : snapshot.policyVersion ≠ []) (henabled : snapshot.isDisabled = false)
    (hsections : snapshot.sections = policy)
    (hpolicy : policy.whitelist = effectiveWhitelist machine.configHosts whitelist) :
    ((getPolicyDecision host snapshot (nativeState machine requestHosts)).decision = .allowed ↔
      Resolves machine policy host) ↔ ¬ Differs machine requestHosts policy host := by
  have hline : '\n' ∉ host := by
    intro hmem
    rcases hhost '\n' hmem with halnum | hhyphen | hdot
    · rw [isLowerAlphanumeric_newline] at halnum
      cases halnum
    · cases hhyphen
    · cases hdot
  have hallowed : (getPolicyDecision host snapshot (nativeState machine requestHosts)).decision =
      .allowed ↔ Protected machine requestHosts host ∨
        ¬ ReadsBlocked policy host ∧ ReadsListed machine policy host := by
    rw [allowed_iff hknown hversion henabled, Listed, hsections, ReadsBlocked, Bool.not_eq_true]
    exact Iff.rfl
  have hresolves : Resolves machine policy host ↔
      Rendered machine policy host ∧ ¬ Refused policy host := by
    rw [Resolves, forwards_policyRules_iff hline, refuses_policyRules_iff]
  have hcovered := @covered_of_rendered machine requestHosts host policy whitelist hhost hpolicy
  rw [hallowed, hresolves]
  constructor
  · intro hagree hdiffers
    cases hdiffers with
    | overProtected hrefused hprotected => exact (hagree.mp (Or.inl hprotected)).2 hrefused
    | unreadRule hrefused hread hlisted => exact (hagree.mp (Or.inr ⟨hread, hlisted⟩)).2 hrefused
    | unrefused hrefused hread hprotected hrendered =>
        rcases hagree.mpr ⟨hrendered, hrefused⟩ with hallow | hallow
        · exact hprotected hallow
        · exact hallow.1 hread
    | unrendered hrefused hrendered hallow => exact hrendered (hagree.mp hallow).1
    | unreadPortal hrefused hread hprotected hlisted hportal =>
        obtain ⟨domain, hdomain, hforwarded⟩ := hportal
        have hrendered : Rendered machine policy host :=
          Or.inr (Or.inl ⟨domain, List.mem_append_right _ hdomain, hforwarded⟩)
        rcases hagree.mpr ⟨hrendered, hrefused⟩ with hallow | hallow
        · exact hprotected hallow
        · exact hlisted hallow.2
  · intro hdiffers
    constructor
    · intro hallow
      have hrefused : ¬ Refused policy host := by
        intro hrefused
        rcases hallow with hprotected | ⟨hread, hlisted⟩
        · exact hdiffers (.overProtected hrefused hprotected)
        · exact hdiffers (.unreadRule hrefused hread hlisted)
      refine ⟨?_, hrefused⟩
      by_contra hrendered
      exact hdiffers (.unrendered hrefused hrendered hallow)
    · rintro ⟨hrendered, hrefused⟩
      by_cases hprotected : Protected machine requestHosts host
      · exact Or.inl hprotected
      · have hread : ¬ ReadsBlocked policy host := fun hread =>
          hdiffers (.unrefused hrefused hread hprotected hrendered)
        refine Or.inr ⟨hread, ?_⟩
        by_contra hlisted
        rcases hcovered hrendered with hcover | hcover | hportal
        · exact hprotected hcover
        · exact hlisted hcover
        · exact hdiffers (.unreadPortal hrefused hread hprotected hlisted hportal)

end Agreement

/-- The native host and the DNS proxy agree on the names of no kind above. -/
theorem decision_agrees_iff (isWordChar : Char → Bool) (machine : Machine)
    (requestHosts : List Text) (content : Text) (policy : WhitelistSections) (version host : Text)
    (haccept : acceptContent isWordChar machine.configHosts content = .ok policy)
    (hversion : version ≠ []) (hhost : IsHostName host) :
    ((getPolicyDecision host (snapshotOf policy version)
        (nativeState machine requestHosts)).decision = .allowed ↔
      policy.isDisabled = true ∨ Resolves machine policy.sections host) ↔
      policy.isDisabled = true ∨ ¬ Differs machine requestHosts policy.sections host := by
  cases hdisabled : policy.isDisabled with
  | true =>
      have hallowed : (getPolicyDecision host (snapshotOf policy version)
          (nativeState machine requestHosts)).decision = .allowed := by
        simp [getPolicyDecision, snapshotOf, hversion, hdisabled]
      simp [hallowed]
  | false =>
      have hsections : policy.sections.whitelist = effectiveWhitelist machine.configHosts
          (getWhitelistSectionsFromLines isWordChar (content.splitOn '\n')).sections.whitelist := by
        cases hdocument : (getWhitelistSectionsFromLines isWordChar
            (content.splitOn '\n')).isDisabled with
        | true =>
            rw [acceptContent] at haccept
            simp only [hdocument, if_true] at haccept
            rw [← Except.ok.inj haccept, hdocument] at hdisabled
            cases hdisabled
        | false =>
            obtain ⟨accepted, hsame, -, hfiltered⟩ :=
              exists_acceptContent machine.configHosts hdocument
            obtain rfl := Except.ok.inj (haccept.symm.trans hsame)
            rw [hfiltered, whitelist_filterSections]
      simp only [Bool.false_eq_true, false_or]
      exact allowed_iff_resolves_iff hhost rfl hversion hdisabled rfl hsections

/-- A blocked subdomain with a wildcard. -/
def adsDocument : Text :=
  "## WHITELIST\nexample.com\n## BLOCKED-SUBDOMAINS\n*.ads.example.com\n".toList

theorem adsDocument_accepted :
    ∃ policy, acceptContent Ascii.isWordChar schoolMachine.configHosts adsDocument = .ok policy ∧
      policy.isDisabled = false ∧
      policy.sections.blockedSubdomains = ["*.ads.example.com".toList] ∧
      coversHost (hostSet policy.sections.whitelist) "x.ads.example.com".toList = true := by
  have henabled : (getWhitelistSectionsFromLines Ascii.isWordChar
      (adsDocument.splitOn '\n')).isDisabled = false := by
    unfold adsDocument
    rewrite [String.toList_ofList]
    decide
  obtain ⟨policy, haccept, hpolicy, hsections⟩ :=
    exists_acceptContent schoolMachine.configHosts henabled
  refine ⟨policy, haccept, hpolicy, ?_, ?_⟩
  · have hblocked : ((getWhitelistSectionsFromLines Ascii.isWordChar
        (adsDocument.splitOn '\n')).sections.blockedSubdomains.map normalizeEntry) =
          ["*.ads.example.com".toList] := by
      unfold adsDocument
      repeat rewrite [String.toList_ofList]
      decide
    have hfree : containsIgnoreCase (getAlwaysAllowedDomains schoolMachine.configHosts)
        "*.ads.example.com".toList = false := by
      rw [← Bool.not_eq_true, ← isProtected_iff]
      intro hprotected
      have hstar : '*' ∉ "*.ads.example.com".toList := hprotected.not_mem (by decide)
      exact hstar (by decide)
    rw [hsections, filterSections_eq]
    dsimp only
    rw [hblocked, List.filter_cons_of_pos (by rw [hfree]; decide), List.filter_nil]
  · have hlisted : "example.com".toList ∈ (getWhitelistSectionsFromLines Ascii.isWordChar
        (adsDocument.splitOn '\n')).sections.whitelist := by
      unfold adsDocument
      repeat rewrite [String.toList_ofList]
      decide
    obtain ⟨kept, hkept, hcase⟩ := exists_mem_foldl_addNormalized
      (List.mem_append_left (getProtectedDomains schoolMachine.configHosts) hlisted)
      (normalizeDomain_of_valid (by decide)) []
    have hname : trim (normalizeEntry "example.com".toList) =
        normalizeEntry "example.com".toList := by
      decide
    have hunder : Under (normalizeEntry "example.com".toList) "x.ads.example.com".toList :=
      Or.inr ⟨"X.ADS".toList, by decide⟩
    rw [hsections, whitelist_filterSections]
    refine coversHost_of_valid hkept (valid_of_mem_effectiveWhitelist hkept) ?_
    rw [trim_eq_self_of_equalsIgnoreCase hcase hname]
    exact under_congr (beq_iff_eq.mp hcase) hunder

theorem decision_agrees_lesson :
    ∃ policy, acceptContent Ascii.isWordChar schoolMachine.configHosts adsDocument = .ok policy ∧
      (((getPolicyDecision "www.example.com".toList (snapshotOf policy ['1'])
          (nativeState schoolMachine [])).decision = .allowed ↔
        policy.isDisabled = true ∨ Resolves schoolMachine policy.sections "www.example.com".toList) ↔
        policy.isDisabled = true ∨
          ¬ Differs schoolMachine [] policy.sections "www.example.com".toList) := by
  obtain ⟨policy, haccept, -⟩ := adsDocument_accepted
  exact ⟨policy, haccept, decision_agrees_iff Ascii.isWordChar schoolMachine [] adsDocument policy
    ['1'] "www.example.com".toList haccept (List.cons_ne_nil _ _) (by decide)⟩

/-- The host allows what the rule with the wildcard refuses. -/
theorem decision_disagrees_ads :
    ∃ policy, acceptContent Ascii.isWordChar schoolMachine.configHosts adsDocument = .ok policy ∧
      policy.isDisabled = false ∧
      (getPolicyDecision "x.ads.example.com".toList (snapshotOf policy ['1'])
        (nativeState schoolMachine [])).decision = .allowed ∧
      ¬ Resolves schoolMachine policy.sections "x.ads.example.com".toList := by
  obtain ⟨policy, haccept, henabled, hblocked, hlisted⟩ := adsDocument_accepted
  have hrefused : Refused policy.sections "x.ads.example.com".toList := by
    rw [Refused, hblocked]
    refine ⟨"*.ads.example.com".toList, List.mem_singleton_self _, by decide, ?_⟩
    repeat rewrite [String.toList_ofList]
    decide
  have hread : coversHost (hostSet policy.sections.blockedSubdomains)
      "x.ads.example.com".toList = false := by
    rw [hblocked]
    repeat rewrite [String.toList_ofList]
    decide
  refine ⟨policy, haccept, henabled, ?_, ?_⟩
  · exact (allowed_iff rfl (List.cons_ne_nil _ _) henabled).mpr (Or.inr ⟨hread, Or.inl hlisted⟩)
  · exact fun hresolves => hresolves.2 (refuses_policyRules_iff.mpr hrefused)

end OpenPath.Windows.NativeHost
