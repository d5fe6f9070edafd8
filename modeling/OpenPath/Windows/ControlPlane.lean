/-
# The hosts that a policy must not cut off

`Get-OpenPathFromUrl` filters a downloaded policy by texts: it takes out the blocked
subdomains that are always-allowed domains, and the path rules whose host is one. The
definition for the DNS proxy then makes of each blocked subdomain that is left a line for
the name with everything under it.

The two fit where no rule that is left covers an always-allowed domain. A blocked
subdomain above one, or a pattern that matches one, passes the filter, and the
definition refuses the domain that it also forwards. A path rule for a host above one
passes it too, and governs what lies under that host.
-/

import OpenPath.Windows.AcrylicRules
import OpenPath.Windows.WhitelistDownload

namespace OpenPath.Windows.ControlPlane

open Acrylic DotNet RulesValidation
open OpenPath.Policy (Sections)

/-- A domain of the control plane or an always-allowed one, in either case. -/
def IsProtected (configHosts : List Text) (host : Text) : Prop :=
  ∃ domain ∈ getProtectedDomains configHosts ++ getAlwaysAllowedDomains configHosts,
    equalsIgnoreCase (trim domain) host = true

/-- The part of a path rule that names a host, whatever its format. -/
def pathRuleHost (rule : Text) : Text :=
  let candidate := stripScheme (Foundation.stripPrefix "*://".toList (trim rule))
  let candidate := (candidate.dropWhile (· == '*')).dropWhile (· == '.')
  let host := candidate.takeWhile fun c => c != '/' && c != '?' && c != '#'
  trimDots (Foundation.trim (· == '*') (trim (host.takeWhile (· != ':'))))

/-- A path rule governs the host that it names and what lies under it, in either case. -/
def TargetsHost (rule host : Text) : Prop :=
  Policy.Governs ((pathRuleHost rule).map Char.toUpper) (host.map Char.toUpper)

/-- A forward rule matches the name, or it is a name with an address. -/
def Serves (rules : List DefinitionRule) (host : Text) : Prop :=
  Forwards (hostsLines rules) host ∨
    ∃ ip domain, .hosts (.address ip domain) ∈ rules ∧
      resolveSslipIpv4Address domain = some ip ∧ equalsIgnoreCase domain host = true

/-- The rules that the definition has for a policy. -/
def policyRules (machine : Machine) (policy : Sections) : List DefinitionRule :=
  definitionRules machine (policy.whitelist.take machine.maxDomains)
    (runtimeDependencies machine policy.whitelist policy.blockedSubdomains)
    policy.blockedSubdomains

/-- Nothing in the rendered policy takes a protected host away. -/
structure ControlPlaneSafe (machine : Machine) (policy : Sections) : Prop where
  not_refused : ∀ host, IsProtected machine.configHosts host →
    ¬ Refuses (policyRules machine policy) host
  not_excluded : ∀ host, IsProtected machine.configHosts host → ∀ blocked domain,
    .hosts (.forward (.treeWithout blocked domain)) ∈ policyRules machine policy →
      host ∉ (blockedPattern blocked).lang
  serves : ∀ host, IsProtected machine.configHosts host →
    Serves (policyRules machine policy) host
  not_targeted : ∀ host, IsProtected machine.configHosts host →
    ∀ rule ∈ policy.blockedPaths, ¬ TargetsHost rule host

/-! ## Protected hosts -/

section Protected

variable {configHosts : List Text} {host : Text}

theorem equalsIgnoreCase_toLower (value : Text) :
    equalsIgnoreCase (value.map Char.toLower) value = true := by
  rw [equalsIgnoreCase, List.map_map, beq_iff_eq]
  exact List.map_congr_left fun c _ => Ascii.toUpper_toLower c

variable {domain : Text}

/-- A protected domain is always allowed in lower case. -/
theorem normalizeAlwaysAllowedDomain_of_valid (hvalid : testDomainFormat domain = true) :
    normalizeAlwaysAllowedDomain domain = some ((trim domain).map Char.toLower) := by
  have hstar : '*' ∉ (trim domain).map Char.toLower := by
    intro hmem
    obtain ⟨c, hc, hlower⟩ := List.mem_map.mp hmem
    have hstar : c = '*' := by
      have hupper := Ascii.toUpper_toLower c
      rw [hlower] at hupper
      exact (Ascii.toUpper_eq_iff (by decide)).mp hupper.symm
    exact not_mem_trim_of_testDomainFormat hvalid (by decide) (hstar ▸ hc)
  have hwild : ¬ "*.".toList <+: (trim domain).map Char.toLower := by
    rintro ⟨rest, hrest⟩
    exact hstar (hrest ▸ List.mem_cons_self)
  have hnonempty : domain ≠ [] := by
    rintro rfl
    cases hvalid
  have hlower : testDomainFormat ((trim domain).map Char.toLower) = true := by
    rw [testDomainFormat_congr (equalsIgnoreCase_toLower (trim domain)), testDomainFormat_trim]
    exact hvalid
  have hlowerNonempty : (trim domain).map Char.toLower ≠ [] := by
    intro hnil
    rw [hnil] at hlower
    cases hlower
  rw [normalizeAlwaysAllowedDomain, normalizeEntry_of_valid hvalid,
    Foundation.stripPrefix_of_not_prefix hwild]
  simp only [if_neg hnonempty, if_pos (And.intro hlowerNonempty hlower)]

/-- What an entry of the catalog names. -/
def alwaysAllowedName (entry : Text) : Text :=
  Foundation.stripPrefix "*.".toList ((normalizeEntry entry).map Char.toLower)

/-- Always-allowed domains are valid and have no white space around them. -/
theorem valid_of_mem_alwaysAllowed (hdomain : domain ∈ getAlwaysAllowedDomains configHosts) :
    testDomainFormat domain = true ∧ trim domain = domain := by
  have hconstants : (captivePortalProbeDomains ++ microsoftSystemDomains ++
      firefoxSystemDomains ++ timeDomains).all (fun domain =>
        trim (alwaysAllowedName domain) == alwaysAllowedName domain) = true := by
    simp only [captivePortalProbeDomains, microsoftSystemDomains, firefoxSystemDomains,
      timeDomains]
    repeat rewrite [String.toList_ofList]
    decide
  rcases mem_foldl_addNormalized hdomain with hnone | ⟨entry, hentry, hnormal⟩
  · cases hnone
  · obtain ⟨hname, hvalid⟩ := normalizeAlwaysAllowedDomain_eq_some hnormal
    refine ⟨hvalid, ?_⟩
    simp only [List.append_assoc] at hentry hconstants
    rcases List.mem_append.mp hentry with hprotected | hconstant
    · rw [normalizeAlwaysAllowedDomain_of_valid (testDomainFormat_of_mem_protected hprotected),
        Option.some.injEq] at hnormal
      have hcase := equalsIgnoreCase_toLower (trim entry)
      rw [hnormal, equalsIgnoreCase_comm] at hcase
      exact trim_eq_self_of_equalsIgnoreCase hcase (trim_trim entry)
    · rw [hname]
      exact beq_iff_eq.mp (List.all_eq_true.mp hconstants entry hconstant)

/-- The protected hosts are the always-allowed domains, in either case. -/
theorem isProtected_iff :
    IsProtected configHosts host ↔
      containsIgnoreCase (getAlwaysAllowedDomains configHosts) host = true := by
  simp only [IsProtected, containsIgnoreCase, List.any_eq_true, List.mem_append]
  constructor
  · rintro ⟨domain, hprotected | halways, hequal⟩
    · have hvalid := testDomainFormat_of_mem_protected hprotected
      have hlisted : domain ∈ getProtectedDomains configHosts ++ captivePortalProbeDomains ++
          microsoftSystemDomains ++ firefoxSystemDomains ++ timeDomains := by
        simp only [List.append_assoc]
        exact List.mem_append_left _ hprotected
      obtain ⟨kept, hkept, hcase⟩ := exists_mem_foldl_addNormalized hlisted
        (normalizeAlwaysAllowedDomain_of_valid hvalid) []
      refine ⟨kept, hkept, ?_⟩
      rw [equalsIgnoreCase_comm] at hcase
      rw [equalsIgnoreCase_comm, equalsIgnoreCase_congr hcase,
        equalsIgnoreCase_congr (equalsIgnoreCase_toLower (trim domain))]
      exact hequal
    · rw [(valid_of_mem_alwaysAllowed halways).2, equalsIgnoreCase_comm] at hequal
      exact ⟨domain, halways, hequal⟩
  · rintro ⟨domain, halways, hequal⟩
    refine ⟨domain, Or.inr halways, ?_⟩
    rwa [(valid_of_mem_alwaysAllowed halways).2, equalsIgnoreCase_comm]

/-- A protected host is named by the catalog or by a configured address. -/
theorem exists_catalog_of_isProtected (hhost : IsProtected configHosts host) :
    ∃ entry ∈ getProtectedDomains configHosts ++ captivePortalProbeDomains ++
        microsoftSystemDomains ++ firefoxSystemDomains ++ timeDomains,
      equalsIgnoreCase host (alwaysAllowedName entry) = true := by
  obtain ⟨domain, hdomain, hequal⟩ := List.any_eq_true.mp (isProtected_iff.mp hhost)
  rcases mem_foldl_addNormalized hdomain with hnone | ⟨entry, hentry, hnormal⟩
  · cases hnone
  · refine ⟨entry, hentry, ?_⟩
    rwa [alwaysAllowedName, ← (normalizeAlwaysAllowedDomain_eq_some hnormal).1]

/-- A protected host is made of the characters of a domain. -/
theorem IsProtected.not_mem (hhost : IsProtected configHosts host) {c : Char}
    (hc : isDomainChar c = false) : c ∉ host := by
  obtain ⟨domain, hdomain, hequal⟩ := List.any_eq_true.mp (isProtected_iff.mp hhost)
  obtain ⟨hvalid, htrim⟩ := valid_of_mem_alwaysAllowed hdomain
  have hhostTrim := trim_eq_self_of_equalsIgnoreCase (by rwa [equalsIgnoreCase_comm]) htrim
  rw [← hhostTrim]
  exact not_mem_trim_of_testDomainFormat ((testDomainFormat_congr hequal).trans hvalid) hc

end Protected

/-! ## The rules of a policy -/

section Rules

variable {machine : Machine} {policy : Sections} {host : Text}

/-- The domains that the definition renders with their exclusions. -/
def renderedDomains (machine : Machine) (whitelist : List Text) : List Text :=
  whitelist.take machine.maxDomains ++ captivePortalNames machine.captivePortalDomains

theorem refuse_mem_policyRules {name : Text} :
    .refuse name ∈ policyRules machine policy ↔
      name ≠ [] ∧ ∃ entry ∈ policy.blockedSubdomains, trim entry = name := by
  have hessential := (rulesOf_essentialRules machine.configHosts).not_refuse name
  simp only [policyRules, definitionRules, List.mem_append, hessential, false_or,
    refuse_not_mem_forwardRules, or_false, refusals, exactRules, List.mem_map, List.mem_filter,
    decide_eq_true_eq, DefinitionRule.refuse.injEq, exists_eq_right, reduceCtorEq, and_false,
    exists_false]
  rw [and_comm]

variable {blocked : List Text} {domain : Text}

/-- The forward rule with an exclusion is that of a domain with blocked subdomains under
it. -/
theorem treeWithout_mem_getAcrylicForwardRules {rendered : Text} {blockedSubdomains : List Text} :
    .forward (.treeWithout blocked domain) ∈
        getAcrylicForwardRules rendered blockedSubdomains ↔
      trim rendered ≠ [] ∧ resolveSslipIpv4Address (trim rendered) = none ∧ blocked ≠ [] ∧
        blocked = blockedDescendants (trim rendered) blockedSubdomains ∧
        domain = trim rendered := by
  unfold getAcrylicForwardRules
  by_cases hnil : trim rendered = []
  · simp [hnil]
  · cases haddress : resolveSslipIpv4Address (trim rendered) with
    | some ip =>
        by_cases hblocked : blockedDescendants (trim rendered) blockedSubdomains = []
        · simp [hnil, haddress, hblocked]
        · simp [hnil, haddress, hblocked]
    | none =>
        by_cases hblocked : blockedDescendants (trim rendered) blockedSubdomains = []
        · simp +contextual [hnil, haddress, hblocked]
        · simp only [hnil, haddress, hblocked, if_false, List.mem_cons, HostsLine.forward.injEq,
            reduceCtorEq, ForwardRule.treeWithout.injEq, List.not_mem_nil, or_false, false_or,
            ne_eq, not_false_eq_true, true_and]
          constructor
          · rintro ⟨rfl, rfl⟩
            exact ⟨hblocked, rfl, rfl⟩
          · exact fun h => h.2

/-- The exclusions are those of the rendered domains. -/
theorem treeWithout_mem_policyRules :
    .hosts (.forward (.treeWithout blocked domain)) ∈ policyRules machine policy ↔
      ∃ rendered ∈ renderedDomains machine policy.whitelist,
        .forward (.treeWithout blocked domain) ∈
          getAcrylicForwardRules rendered policy.blockedSubdomains := by
  have hessential : .hosts (.forward (.treeWithout blocked domain)) ∉
      essentialRules machine.configHosts := by
    rw [(rulesOf_essentialRules machine.configHosts).hosts]
    rintro ⟨rendered, -, hrule⟩
    obtain ⟨-, -, hblocked, hnone, -⟩ := treeWithout_mem_getAcrylicForwardRules.mp hrule
    exact hblocked hnone
  rw [policyRules, definitionRules]
  generalize essentialRules machine.configHosts = essential at hessential ⊢
  simp only [List.mem_append, hessential, false_or, refusals, exactRules, List.mem_map,
    reduceCtorEq, and_false, exists_false, hosts_mem_forwardRules, DefinitionRule.hosts.injEq,
    HostsLine.forward.injEq, or_false, renderedDomains, or_and_right, exists_or]

theorem serves_of_isProtected (hhost : IsProtected machine.configHosts host) :
    Serves (policyRules machine policy) host := by
  obtain ⟨domain, hdomain, hequal⟩ := List.any_eq_true.mp (isProtected_iff.mp hhost)
  obtain ⟨hvalid, htrim⟩ := valid_of_mem_alwaysAllowed hdomain
  have hrules : ∀ line ∈ getAcrylicForwardRules domain [],
      .hosts line ∈ policyRules machine policy := by
    intro line hline
    have hessential := ((rulesOf_essentialRules machine.configHosts).hosts line).mpr
      ⟨domain, hdomain, hline⟩
    simp only [policyRules, definitionRules, List.mem_append]
    exact Or.inl (Or.inl (Or.inl (Or.inl hessential)))
  have hnonempty : domain ≠ [] := by
    rintro rfl
    cases hvalid
  have hblocked : blockedDescendants domain [] = [] := rfl
  cases haddress : resolveSslipIpv4Address domain with
  | none =>
      have hline : .forward (.host domain) ∈ getAcrylicForwardRules domain [] := by
        simp [getAcrylicForwardRules, htrim, hnonempty, haddress, hblocked]
      exact Or.inl ⟨_, mem_hostsLines.mpr (hrules _ hline), beq_iff_eq.mp hequal⟩
  | some ip =>
      have hline : .address ip domain ∈ getAcrylicForwardRules domain [] := by
        simp [getAcrylicForwardRules, htrim, hnonempty, haddress, hblocked]
      rw [equalsIgnoreCase_comm] at hequal
      exact Or.inr ⟨ip, domain, hrules _ hline, haddress, hequal⟩

/-- What a rendered blocked subdomain takes away: what its name refuses, and, since an
exclusion is cut off at its dots once more, what lies under that name where a rendered
domain lies above it. -/
def Covers (rendered : List Text) (subdomain host : Text) : Prop :=
  trim subdomain ≠ [] ∧ host ∈ (refusedPattern (trim subdomain)).lang ∨
    Under (normalizeEntry subdomain) host ∧
      ∃ domain ∈ rendered, resolveSslipIpv4Address (trim domain) = none ∧
        StrictlyUnder (trim domain) (normalizeEntry subdomain)

theorem Covers.ne_nil {rendered : List Text} {subdomain : Text}
    (hcovers : Covers rendered subdomain host) : subdomain ≠ [] := by
  rintro rfl
  rcases hcovers with ⟨hnonempty, -⟩ | ⟨-, domain, -, -, hlength, -⟩
  · exact hnonempty rfl
  · exact Nat.not_lt_zero _ hlength

/-- An entry without dots at its ends lies under no empty name. -/
theorem ne_nil_of_strictlyUnder {entry : Text}
    (hstrict : StrictlyUnder domain (normalizeEntry entry)) : domain ≠ [] := by
  rintro rfl
  obtain ⟨front, hfront⟩ := hstrict.2
  have hlast := congrArg List.getLast? hfront
  rw [List.map_singleton, List.getLast?_concat, List.getLast?_map, eq_comm,
    Option.map_eq_some_iff] at hlast
  obtain ⟨c, hc, hdot⟩ := hlast
  have htrimmed := (Foundation.trimmed_trim (· == '.') (trim entry)).2 c hc
  rw [(Ascii.toUpper_eq_dot_iff c).mp hdot] at htrimmed
  cases htrimmed

/-- The refusals and exclusions of a policy are those of its blocked subdomains. -/
theorem not_taken_iff (hline : '\n' ∉ host) :
    (¬ Refuses (policyRules machine policy) host ∧
      ∀ blocked domain,
        .hosts (.forward (.treeWithout blocked domain)) ∈ policyRules machine policy →
          host ∉ (blockedPattern blocked).lang) ↔
      ∀ subdomain ∈ policy.blockedSubdomains,
        ¬ Covers (renderedDomains machine policy.whitelist) subdomain host := by
  constructor
  · rintro ⟨hrefused, hexcluded⟩ subdomain hsubdomain hcovers
    rcases hcovers with ⟨hnonempty, hmatch⟩ | ⟨hunder, rendered, hrendered, haddress, hstrict⟩
    · exact hrefused ⟨_, refuse_mem_policyRules.mpr ⟨hnonempty, subdomain, hsubdomain, rfl⟩, hmatch⟩
    · have hmem := (mem_blockedDescendants (normalizeEntry subdomain)).mpr
        ⟨hstrict, subdomain, hsubdomain, rfl⟩
      have hrule : .forward (.treeWithout (blockedDescendants (trim rendered)
          policy.blockedSubdomains) (trim rendered)) ∈
            getAcrylicForwardRules rendered policy.blockedSubdomains :=
        treeWithout_mem_getAcrylicForwardRules.mpr
          ⟨ne_nil_of_strictlyUnder hstrict, haddress, List.ne_nil_of_mem hmem, rfl, rfl⟩
      exact hexcluded _ _ (treeWithout_mem_policyRules.mpr ⟨rendered, hrendered, hrule⟩)
        ((mem_blockedPattern hline).mpr ⟨_, hmem, hunder⟩)
  · intro hcovers
    refine ⟨?_, ?_⟩
    · rintro ⟨name, hname, hmatch⟩
      obtain ⟨hnonempty, subdomain, hsubdomain, rfl⟩ := refuse_mem_policyRules.mp hname
      exact hcovers subdomain hsubdomain (Or.inl ⟨hnonempty, hmatch⟩)
    · intro blocked domain hrule hmatch
      obtain ⟨rendered, hrendered, hforward⟩ := treeWithout_mem_policyRules.mp hrule
      obtain ⟨-, haddress, -, rfl, -⟩ := treeWithout_mem_getAcrylicForwardRules.mp hforward
      obtain ⟨name, hname, hunder⟩ := (mem_blockedPattern hline).mp hmatch
      obtain ⟨hstrict, subdomain, hsubdomain, rfl⟩ := (mem_blockedDescendants name).mp hname
      exact hcovers subdomain hsubdomain
        (Or.inr ⟨hunder, rendered, hrendered, haddress, hstrict⟩)

end Rules

/-! ## The filter -/

/-- `$effectiveWhitelist` -/
def effectiveWhitelist (configHosts whitelist : List Text) : List Text :=
  (whitelist ++ getProtectedDomains configHosts).foldl (addNormalized normalizeDomain) []

section Filter

variable {configHosts : List Text} {document : Sections} {host : Text}

theorem whitelist_filterSections :
    (filterSections configHosts document).whitelist =
      effectiveWhitelist configHosts document.whitelist := by
  rw [filterSections_eq, effectiveWhitelist]

theorem mem_blockedSubdomains_filterSections {subdomain : Text} :
    subdomain ∈ (filterSections configHosts document).blockedSubdomains ↔
      (∃ entry ∈ document.blockedSubdomains, normalizeEntry entry = subdomain) ∧
        subdomain ≠ [] ∧ ¬ IsProtected configHosts subdomain := by
  rw [filterSections_eq]
  simp [isProtected_iff]

variable {rule : Text}

/-- The host of a path rule is the part that names one, where its format is valid. -/
theorem getHostFromBlockedPathRule_of_valid (hvalid : testDomainFormat (pathRuleHost rule) = true) :
    getHostFromBlockedPathRule rule = some (pathRuleHost rule) := by
  have hnonempty : pathRuleHost rule ≠ [] := by
    intro hnil
    rw [hnil] at hvalid
    cases hvalid
  have hcandidate : ∀ candidate : Text, candidate = [] ∨ candidate.head? = some '/' →
      trimDots (Foundation.trim (· == '*') (trim
        ((candidate.takeWhile fun c => c != '/' && c != '?' && c != '#').takeWhile
          (· != ':')))) = [] := by
    rintro candidate (rfl | hslash)
    · rfl
    · obtain ⟨rest, rfl⟩ := List.head?_eq_some_iff.mp hslash
      rfl
  rw [getHostFromBlockedPathRule]
  exact (if_neg fun hnone => hnonempty (hcandidate _ hnone)).trans
    ((if_neg hnonempty).trans (if_pos hvalid))

theorem eq_pathRuleHost (hread : getHostFromBlockedPathRule rule = some host) :
    host = pathRuleHost rule := by
  unfold getHostFromBlockedPathRule at hread
  dsimp only at hread
  split at hread
  · cases hread
  split at hread
  · cases hread
  split at hread
  · exact (Option.some.inj hread).symm
  · cases hread

/-- The path rules that the filter leaves are those that name no protected host. -/
theorem mem_blockedPaths_filterSections :
    rule ∈ (filterSections configHosts document).blockedPaths ↔
      rule ∈ document.blockedPaths ∧ ¬ IsProtected configHosts (pathRuleHost rule) := by
  rw [filterSections_eq, List.mem_filter]
  refine and_congr_right fun _ => ?_
  rw [Bool.not_eq_true', ← Bool.not_eq_true]
  apply not_congr
  rw [blocksProtected, isProtected_iff]
  constructor
  · cases hread : getHostFromBlockedPathRule rule with
    | none => exact nofun
    | some host =>
        rw [eq_pathRuleHost hread]
        exact id
  · intro hprotected
    obtain ⟨domain, hdomain, hsame⟩ := List.any_eq_true.mp hprotected
    rw [getHostFromBlockedPathRule_of_valid
      ((testDomainFormat_congr hsame).trans (valid_of_mem_alwaysAllowed hdomain).1)]
    exact hprotected

/-- An enabled document is filtered. -/
theorem exists_acceptContent {isWordChar : Char → Bool} (configHosts : List Text) {content : Text}
    (henabled : (getWhitelistSectionsFromLines isWordChar (content.splitOn '\n')).isDisabled =
      false) :
    ∃ policy, acceptContent isWordChar configHosts content = .ok policy ∧
      policy.isDisabled = false ∧
      policy.sections = filterSections configHosts
        (getWhitelistSectionsFromLines isWordChar (content.splitOn '\n')).sections :=
  ⟨_, acceptContent_eq configHosts henabled, rfl, rfl⟩

end Filter

/-! ## Control-plane protection -/

/-- The rules of a document that name no protected host cover none either. -/
structure NothingCovered (machine : Machine) (document : Sections) : Prop where
  subdomains : ∀ entry ∈ document.blockedSubdomains,
    ¬ IsProtected machine.configHosts (normalizeEntry entry) →
      ∀ host, IsProtected machine.configHosts host →
        ¬ Covers (renderedDomains machine
            (effectiveWhitelist machine.configHosts document.whitelist))
          (normalizeEntry entry) host
  paths : ∀ rule ∈ document.blockedPaths,
    ¬ IsProtected machine.configHosts (pathRuleHost rule) →
      ∀ host, IsProtected machine.configHosts host → ¬ TargetsHost rule host

/-- A filtered policy leaves the protected hosts alone if and only if no rule of its
document that names none of them covers one. -/
theorem controlPlaneSafe_iff (isWordChar : Char → Bool) (machine : Machine) (content : Text)
    (document : WhitelistSections)
    (hdocument : document = getWhitelistSectionsFromLines isWordChar (content.splitOn '\n'))
    (henabled : document.isDisabled = false) :
    ∃ policy, acceptContent isWordChar machine.configHosts content = .ok policy ∧
      policy.isDisabled = false ∧
      (ControlPlaneSafe machine policy.sections ↔ NothingCovered machine document.sections) := by
  rw [hdocument] at henabled
  obtain ⟨policy, haccept, hpolicy, hsections⟩ := exists_acceptContent machine.configHosts henabled
  refine ⟨policy, haccept, hpolicy, ?_⟩
  rw [hsections, ← hdocument]
  have hline : ∀ host, IsProtected machine.configHosts host → '\n' ∉ host :=
    fun host hhost => hhost.not_mem (by decide)
  constructor
  · intro hsafe
    refine ⟨?_, fun rule hrule hfree host hhost => hsafe.not_targeted host hhost rule
      (mem_blockedPaths_filterSections.mpr ⟨hrule, hfree⟩)⟩
    intro entry hentry hfree host hhost hcovers
    have htaken := (not_taken_iff (hline host hhost)).mp
      ⟨hsafe.not_refused host hhost, hsafe.not_excluded host hhost⟩
    exact htaken _ (mem_blockedSubdomains_filterSections.mpr
      ⟨⟨entry, hentry, rfl⟩, hcovers.ne_nil, hfree⟩) (by rwa [whitelist_filterSections])
  · rintro ⟨hcovers, hpaths⟩
    have htaken : ∀ host, IsProtected machine.configHosts host →
        ∀ subdomain ∈ (filterSections machine.configHosts document.sections).blockedSubdomains,
          ¬ Covers (renderedDomains machine
              (filterSections machine.configHosts document.sections).whitelist)
            subdomain host := by
      intro host hhost subdomain hsubdomain
      obtain ⟨⟨entry, hentry, rfl⟩, -, hfree⟩ :=
        mem_blockedSubdomains_filterSections.mp hsubdomain
      rw [whitelist_filterSections]
      exact hcovers entry hentry hfree host hhost
    exact
      { not_refused := fun host hhost =>
          ((not_taken_iff (hline host hhost)).mpr (htaken host hhost)).1
        not_excluded := fun host hhost =>
          ((not_taken_iff (hline host hhost)).mpr (htaken host hhost)).2
        serves := fun _ hhost => serves_of_isProtected hhost
        not_targeted := fun host hhost rule hrule =>
          have hkept := mem_blockedPaths_filterSections.mp hrule
          hpaths rule hkept.1 hkept.2 host hhost }

/-- A machine that renders one domain of its whitelist. -/
def schoolMachine : Machine where
  configHosts := ["whitelist.example.net".toList]
  captivePortalDomains := []
  maxDomains := 1
  splitDnsPortalUpstreams := []
  runtimeDependencyProtectedHosts := []
  overlay := none
  now := 0

/-- A blocked domain and a path rule above one that detects captive portals. -/
def searchDocument : Text :=
  ("## WHITELIST\nexample.com\n## BLOCKED-SUBDOMAINS\nads.example.com\ngoogle.com\n" ++
    "## BLOCKED-PATHS\nexample.com/games\ngoogle.com/generate_204\n").toList

theorem searchDocument_enabled :
    (getWhitelistSectionsFromLines Ascii.isWordChar (searchDocument.splitOn '\n')).isDisabled =
      false := by
  unfold searchDocument
  rewrite [String.toList_append, String.toList_ofList, String.toList_ofList]
  decide

theorem controlPlaneSafe_lesson :
    ∃ policy, acceptContent Ascii.isWordChar schoolMachine.configHosts searchDocument =
        .ok policy ∧ policy.isDisabled = false ∧
      (ControlPlaneSafe schoolMachine policy.sections ↔
        NothingCovered schoolMachine (getWhitelistSectionsFromLines Ascii.isWordChar
          (searchDocument.splitOn '\n')).sections) :=
  controlPlaneSafe_iff Ascii.isWordChar schoolMachine searchDocument _ rfl searchDocument_enabled

theorem search_not_protected : ¬ IsProtected schoolMachine.configHosts "google.com".toList := by
  have hcatalog : (getProtectedDomains schoolMachine.configHosts ++ captivePortalProbeDomains ++
      microsoftSystemDomains ++ firefoxSystemDomains ++ timeDomains).all (fun entry =>
        !equalsIgnoreCase "google.com".toList (alwaysAllowedName entry)) = true := by
    simp only [captivePortalProbeDomains, microsoftSystemDomains, firefoxSystemDomains,
      timeDomains, schoolMachine]
    repeat rewrite [String.toList_ofList]
    decide
  intro hprotected
  obtain ⟨entry, hentry, hequal⟩ := exists_catalog_of_isProtected hprotected
  have hnot := List.all_eq_true.mp hcatalog entry hentry
  rw [hequal] at hnot
  cases hnot

theorem portalCheck_isProtected :
    IsProtected schoolMachine.configHosts "clients3.google.com".toList := by
  have hcatalog : "clients3.google.com".toList ∈
      getProtectedDomains schoolMachine.configHosts ++ captivePortalProbeDomains ++
        microsoftSystemDomains ++ firefoxSystemDomains ++ timeDomains := by
    simp [captivePortalProbeDomains]
  obtain ⟨kept, hkept, hequal⟩ := exists_mem_foldl_addNormalized hcatalog
    (normalizeAlwaysAllowedDomain_of_valid (by decide)) []
  exact isProtected_iff.mpr (List.any_eq_true.mpr ⟨kept, hkept, hequal⟩)

/-- The portal check is refused with the domain above it. -/
theorem not_controlPlaneSafe_search :
    ∃ policy, acceptContent Ascii.isWordChar schoolMachine.configHosts searchDocument =
        .ok policy ∧ policy.isDisabled = false ∧
      IsProtected schoolMachine.configHosts "clients3.google.com".toList ∧
      Refuses (policyRules schoolMachine policy.sections) "clients3.google.com".toList ∧
      ¬ ControlPlaneSafe schoolMachine policy.sections := by
  have hentry : "google.com".toList ∈ (getWhitelistSectionsFromLines Ascii.isWordChar
      (searchDocument.splitOn '\n')).sections.blockedSubdomains := by
    unfold searchDocument
    rewrite [String.toList_append]
    repeat rewrite [String.toList_ofList]
    decide
  obtain ⟨policy, haccept, hpolicy, hsections⟩ :=
    exists_acceptContent schoolMachine.configHosts searchDocument_enabled
  have hunder : Under "google.com".toList "clients3.google.com".toList :=
    Or.inr ⟨"CLIENTS3".toList, by decide⟩
  have htrim : trim "google.com".toList = "google.com".toList := by decide
  have hkept : "google.com".toList ∈ policy.sections.blockedSubdomains := by
    rw [hsections]
    exact mem_blockedSubdomains_filterSections.mpr
      ⟨⟨"google.com".toList, hentry, by decide⟩, by decide, search_not_protected⟩
  have hrefused : Refuses (policyRules schoolMachine policy.sections)
      "clients3.google.com".toList :=
    ⟨"google.com".toList, refuse_mem_policyRules.mpr ⟨by decide, _, hkept, htrim⟩,
      (mem_refusedPattern (by decide) (by decide)).mpr hunder⟩
  exact ⟨policy, haccept, hpolicy, portalCheck_isProtected, hrefused,
    fun hsafe => hsafe.not_refused _ portalCheck_isProtected hrefused⟩

end OpenPath.Windows.ControlPlane
