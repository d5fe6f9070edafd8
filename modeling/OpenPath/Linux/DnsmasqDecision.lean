/-
# The decision of the DNS configuration

A line of the policy that passes the validation stands for a rule: its domain, with
or without a wildcard, is a suffix that is allowed or blocked. The domains of the
system and the runtime dependencies are rules that allow. A host is resolved
upstream if and only if the rules with the longest suffix of it allow it.
-/

import OpenPath.Linux.DnsmasqConfig

namespace OpenPath.Linux.Dnsmasq

open Foundation Ascii Policy

/-! ## Rules -/

/-- A suffix that is allowed or blocked. -/
structure DnsRule where
  name : List Text
  allows : Bool
  deriving DecidableEq

/-- The rules that lines of a policy stand for, without regard to a wildcard. -/
def lineRules (allows : Bool) (domains : List Text) : List DnsRule :=
  (domains.filter validateDomain).map fun domain => { name := labels (checkedDomain domain), allows }

def dnsRules (config : ControlPlaneConfig) (runtimeDependencyDomains : List Text)
    (policy : Sections) : List DnsRule :=
  (systemDomains config).map (fun domain => { name := labels domain, allows := true }) ++
    lineRules true policy.whitelist ++ lineRules true runtimeDependencyDomains ++
    lineRules false policy.blockedSubdomains

/-- All rules with the longest suffix of the host allow it, and there is one. -/
def LongestRulesAllow (rules : List DnsRule) (host : Text) : Prop :=
  SurelyPermits DnsRule.name (fun rule => rule.allows = true) rules (labels host)

/-- Some rule with the longest suffix of the host allows it. -/
def SomeLongestRuleAllows (rules : List DnsRule) (host : Text) : Prop :=
  ∃ rule, LongestMatch DnsRule.name rules (labels host) rule ∧ rule.allows = true

/-! ## Directives and rules -/

section Decision

variable (settings : DnsmasqSettings)

/-- The directives that answer for names other than by default. -/
def ruleDirectives (config : ControlPlaneConfig) (runtimeDependencyDomains : List Text)
    (policy : Sections) : List Directive :=
  (systemDomains config).map (fun domain =>
      { setting := .server, domain, value := settings.upstreamDns }) ++
    (policy.whitelist.filter validateDomain).map (fun domain =>
      { setting := .server, domain := sanitizeDomain domain, value := settings.upstreamDns }) ++
    (runtimeDependencyDomains.filter validateDomain).map (fun domain =>
      { setting := .server, domain := sanitizeDomain domain, value := settings.upstreamDns }) ++
    (policy.blockedSubdomains.filter validateDomain).map (fun domain =>
      { setting := .address, domain := sanitizeDomain domain, value := [] })

theorem answering_flatMap_allowDirectives (domains : List Text) :
    answering (domains.flatMap (allowDirectives settings)) =
      domains.map fun domain => { setting := .server, domain, value := settings.upstreamDns } := by
  induction domains with
  | nil => rfl
  | cons domain rest ih =>
      rw [List.flatMap_cons, answering, List.filter_append, ← answering, ← answering, ih]
      cases hegress : settings.allowSetEgressEnabled <;> simp [allowDirectives, answering, hegress]

/-- The lines that are no domains play no part. -/
theorem lineDirectives_eq (emit : Text → List Directive) (domains : List Text) :
    lineDirectives emit domains =
      ((domains.filter validateDomain).map sanitizeDomain).flatMap emit := by
  induction domains with
  | nil => rfl
  | cons domain rest ih =>
      have hstep : lineDirectives emit (domain :: rest) =
          (if validateDomain domain then emit (sanitizeDomain domain) else []) ++
            lineDirectives emit rest := rfl
      rw [hstep, ih]
      cases hvalid : validateDomain domain <;> simp [hvalid]

theorem answering_configDirectives (config : ControlPlaneConfig)
    (runtimeDependencyDomains : List Text) (policy : Sections) :
    answering (configDirectives settings config runtimeDependencyDomains policy) =
      sinkholeDirectives settings ++
        ruleDirectives settings config runtimeDependencyDomains policy := by
  have happend : ∀ first second : List Directive,
      answering (first ++ second) = answering first ++ answering second :=
    fun first second => by simp [answering]
  have hsinkhole : answering (sinkholeDirectives settings) = sinkholeDirectives settings := by
    cases hemit : settings.emitBlockedAaaaSinkhole <;> simp [sinkholeDirectives, answering, hemit]
  have hblocked : ∀ domains : List Text, answering (domains.flatMap blockDirectives) =
      domains.map fun domain => { setting := .address, domain, value := [] } := by
    intro domains
    induction domains with
    | nil => rfl
    | cons domain rest ih =>
        rw [List.flatMap_cons, happend, ih]
        simp [blockDirectives, answering]
  simp only [configDirectives, lineDirectives_eq, happend, hsinkhole, hblocked,
    answering_flatMap_allowDirectives, ruleDirectives, List.map_map, List.append_assoc,
    Function.comp_def]

/-- The rule that a directive stands for. -/
def Directive.rule (directive : Directive) : DnsRule where
  name := directive.name
  allows := decide (directive.setting = .server)

variable {domain : Text}

theorem name_systemDomain (config : ControlPlaneConfig) (hdomain : domain ∈ systemDomains config)
    (setting : Setting) (value : Text) :
    Directive.name { setting, domain, value } = labels domain := by
  have hfixed : ∀ domains : List Text,
      (domains.all fun d => d.head?.any fun c => c != '.' && c != '#') = true → domain ∈ domains →
        ∃ c rest, domain = c :: rest ∧ c ≠ '.' ∧ c ≠ '#' := by
    intro domains hall hmem
    have hfirst := List.all_eq_true.mp hall domain hmem
    cases domain with
    | nil => cases hfirst
    | cons c rest => exact ⟨c, rest, rfl, by simpa using hfirst⟩
  have hhead : ∃ c rest, domain = c :: rest ∧ c ≠ '.' ∧ c ≠ '#' := by
    rcases List.mem_append.mp hdomain with hdomain | hdomain
    · rcases List.mem_append.mp hdomain with hdomain | hdomain
      · obtain ⟨c, rest, hchecked, hc⟩ := (validLine_of_validateDomain
          (newline_not_mem_refresh config domain hdomain)
          ((protectedList_refresh config).valid domain hdomain)).head
        by_cases hwild : "*.".toList.isPrefixOf domain = true
        · obtain ⟨tail, rfl⟩ := List.isPrefixOf_iff_prefix.mp hwild
          exact ⟨'*', '.' :: tail, rfl, by decide, by decide⟩
        · rw [checkedDomain, if_neg hwild] at hchecked
          exact ⟨c, rest, hchecked, alphanumeric_ne hc (by decide), alphanumeric_ne hc (by decide)⟩
      · exact hfixed captivePortalProbeDomains (by decide) hdomain
    · exact hfixed ntpDomains (by decide) hdomain
  obtain ⟨c, rest, rfl, hdot, hsharp⟩ := hhead
  rw [Directive.name, if_neg (by simp [hsharp]), List.dropWhile_cons_of_neg (by simpa using hdot)]

variable {runtimeDependencyDomains : List Text} {policy : Sections}

section

variable (config : ControlPlaneConfig)
  (hlines : ∀ line ∈ policy.whitelist ++ runtimeDependencyDomains ++ policy.blockedSubdomains, '\n' ∉ line)
include hlines

/-- The rules of the configuration are those of the policy. -/
theorem map_rule_ruleDirectives :
    (ruleDirectives settings config runtimeDependencyDomains policy).map Directive.rule =
      dnsRules config runtimeDependencyDomains policy := by
  have hline : ∀ (setting : Setting) (value : Text) (domains : List Text),
      (∀ line ∈ domains, '\n' ∉ line) →
      (((domains.filter validateDomain).map fun domain =>
          ({ setting, domain := sanitizeDomain domain, value } : Directive)).map Directive.rule) =
        lineRules (decide (setting = .server)) domains := by
    intro setting value domains hdomains
    rw [List.map_map, lineRules]
    apply List.map_congr_left
    intro domain hdomain
    obtain ⟨hmem, hvalid⟩ := List.mem_filter.mp hdomain
    have hname := name_sanitizeDomain (validLine_of_validateDomain (hdomains domain hmem) hvalid)
      setting value
    rw [Function.comp_apply, Directive.rule, hname]
  have hsystem : ((systemDomains config).map fun domain =>
        ({ setting := .server, domain, value := settings.upstreamDns } : Directive)).map
          Directive.rule =
      (systemDomains config).map fun domain => { name := labels domain, allows := true } := by
    rw [List.map_map]
    apply List.map_congr_left
    intro domain hdomain
    rw [Function.comp_apply, Directive.rule, name_systemDomain config hdomain]
    rfl
  rw [ruleDirectives, List.map_append, List.map_append, List.map_append, hsystem,
    hline .server _ _ fun line hmem => hlines line (by simp [hmem]),
    hline .server _ _ fun line hmem => hlines line (by simp [hmem]),
    hline .address _ _ fun line hmem => hlines line (by simp [hmem])]
  rfl

theorem ruleDirectives_name_ne_nil :
    ∀ directive ∈ ruleDirectives settings config runtimeDependencyDomains policy,
      directive.name ≠ [] := by
  intro directive hdirective
  have hrule : directive.rule ∈ dnsRules config runtimeDependencyDomains policy := by
    rw [← map_rule_ruleDirectives settings config hlines]
    exact List.mem_map_of_mem hdirective
  have hname : ∀ rule ∈ dnsRules config runtimeDependencyDomains policy, rule.name ≠ [] := by
    intro rule hrule
    simp only [dnsRules, lineRules, List.mem_append, List.mem_map] at hrule
    rcases hrule with ((⟨domain, -, rfl⟩ | ⟨domain, -, rfl⟩) | ⟨domain, -, rfl⟩) | ⟨domain, -, rfl⟩
    all_goals exact labels_ne_nil _
  exact hname _ hrule

end

theorem sinkholeDirectives_default :
    sinkholeDirectives settings ≠ [] ∧
      ∀ directive ∈ sinkholeDirectives settings, directive.name = [] ∧ ¬ directive.Upstream := by
  refine ⟨List.cons_ne_nil _ _, fun directive hdirective => ?_⟩
  have hshape : directive.domain = ['#'] ∧ directive.setting = .address := by
    unfold sinkholeDirectives at hdirective
    rcases List.mem_cons.mp hdirective with rfl | hdirective
    · exact ⟨rfl, rfl⟩
    · split at hdirective
      · rw [List.mem_singleton.mp hdirective]
        exact ⟨rfl, rfl⟩
      · cases hdirective
  refine ⟨if_pos hshape.1, ?_⟩
  rw [Directive.Upstream, hshape.2]
  decide

/-- Where the rules with the longest suffix agree, they decide; where they do not,
dnsmasq may answer either way. -/
theorem resolves_iff (config : ControlPlaneConfig)
    (hlines : ∀ line ∈ policy.whitelist ++ runtimeDependencyDomains ++ policy.blockedSubdomains,
      '\n' ∉ line) (host : Text) :
    (Resolves (generateDnsmasqConfig settings config runtimeDependencyDomains policy) host ↔
        LongestRulesAllow (dnsRules config runtimeDependencyDomains policy) host) ∧
      (MayResolve (generateDnsmasqConfig settings config runtimeDependencyDomains policy) host ↔
        SomeLongestRuleAllows (dnsRules config runtimeDependencyDomains policy) host) := by
  obtain ⟨hsinkhole, hdefault⟩ := sinkholeDirectives_default settings
  have hname := ruleDirectives_name_ne_nil settings config hlines
  have hupstream : ∀ directive : Directive,
      (directive.rule).allows = true ↔ directive.Upstream := fun _ => decide_eq_true_iff
  have hrules : SurelyPermits DnsRule.name (fun rule => rule.allows = true)
        ((ruleDirectives settings config runtimeDependencyDomains policy).map Directive.rule)
        (labels host) ↔
      SurelyPermits Directive.name Directive.Upstream
        (ruleDirectives settings config runtimeDependencyDomains policy) (labels host) :=
    surelyPermits_map (fun _ _ => rfl) fun directive _ => hupstream directive
  have hsome : (∃ rule, LongestMatch DnsRule.name
        ((ruleDirectives settings config runtimeDependencyDomains policy).map Directive.rule)
        (labels host) rule ∧ rule.allows = true) ↔
      ∃ directive, LongestMatch Directive.name
        (ruleDirectives settings config runtimeDependencyDomains policy) (labels host) directive ∧
          directive.Upstream :=
    exists_permitted_map (fun _ _ => rfl) fun directive _ => hupstream directive
  rw [Resolves, MayResolve, LongestRulesAllow, SomeLongestRuleAllows,
    ← map_rule_ruleDirectives settings config hlines]
  simp only [Answers]
  rw [readDirectives_generateDnsmasqConfig, answering_configDirectives]
  refine ⟨?_, ?_⟩
  · rw [surelyPermits_defaults hsinkhole (fun d hd => (hdefault d hd).1)
      (fun d hd => (hdefault d hd).2) hname]
    exact hrules.symm
  · rw [exists_permitted_defaults (fun d hd => (hdefault d hd).1) (fun d hd => (hdefault d hd).2)
      hname]
    exact hsome.symm

variable {directive : Directive}

/-- A directive that comes from a line of a list comes from one that passed the
validation, and has its domain. -/
theorem exists_line_of_mem_lineDirectives {emit : Text → List Directive} {domains : List Text}
    (hemit : ∀ domain, ∀ directive ∈ emit domain, directive.domain = domain)
    (hdirective : directive ∈ lineDirectives emit domains) :
    ∃ line ∈ domains, validateDomain line = true ∧ directive.domain = sanitizeDomain line := by
  obtain ⟨line, hline, hmem⟩ := List.mem_flatMap.mp hdirective
  split at hmem
  · exact ⟨line, hline, ‹_›, hemit _ _ hmem⟩
  · cases hmem

theorem domain_of_mem_allowDirectives (hdirective : directive ∈ allowDirectives settings domain) :
    directive.domain = domain := by
  unfold allowDirectives at hdirective
  rcases List.mem_cons.mp hdirective with rfl | hdirective
  · rfl
  · split at hdirective
    · rw [List.mem_singleton.mp hdirective]
    · cases hdirective

/-- For every policy and host: the host is resolved upstream, whichever of equally
specific directives dnsmasq takes, if and only if there is a rule for it and all
rules with the longest suffix allow it; it may be resolved upstream if and only if
one of them does. The directives are those of the sinkhole and the system and those
of the valid lines, each with the domain that its own line names. -/
theorem decision_of_generated_config (config : ControlPlaneConfig)
    {runtimeDependencyDomains : List Text} {policy : Sections}
    (hlines : ∀ line ∈ policy.whitelist ++ runtimeDependencyDomains ++ policy.blockedSubdomains,
      '\n' ∉ line) :
    (∀ host,
      (Resolves (generateDnsmasqConfig settings config runtimeDependencyDomains policy) host ↔
          LongestRulesAllow (dnsRules config runtimeDependencyDomains policy) host) ∧
        (MayResolve (generateDnsmasqConfig settings config runtimeDependencyDomains policy) host ↔
          SomeLongestRuleAllows (dnsRules config runtimeDependencyDomains policy) host)) ∧
      readDirectives (generateDnsmasqConfig settings config runtimeDependencyDomains policy) =
        configDirectives settings config runtimeDependencyDomains policy ∧
      ∀ directive ∈
          readDirectives (generateDnsmasqConfig settings config runtimeDependencyDomains policy),
        directive ∈ sinkholeDirectives settings ∨
          (∃ domain ∈ systemDomains config, directive ∈ allowDirectives settings domain) ∨
          ∃ line ∈ policy.whitelist ++ runtimeDependencyDomains ++ policy.blockedSubdomains,
            validateDomain line = true ∧ directive.domain = sanitizeDomain line := by
  have hread := readDirectives_generateDnsmasqConfig settings config runtimeDependencyDomains policy
  have hallow : ∀ domain, ∀ directive ∈ allowDirectives settings domain,
      directive.domain = domain :=
    fun _ _ => domain_of_mem_allowDirectives settings
  refine ⟨resolves_iff settings config hlines, hread, ?_⟩
  intro directive hdirective
  rw [hread] at hdirective
  simp only [configDirectives, List.mem_append, List.mem_flatMap] at hdirective
  simp only [List.mem_append]
  rcases hdirective with (((hsinkhole | hsystem) | hwhitelist) | hruntime) | hblocked
  · exact Or.inl hsinkhole
  · exact Or.inr (Or.inl hsystem)
  · obtain ⟨line, hline, hvalid⟩ := exists_line_of_mem_lineDirectives hallow hwhitelist
    exact Or.inr (Or.inr ⟨line, Or.inl (Or.inl hline), hvalid⟩)
  · obtain ⟨line, hline, hvalid⟩ := exists_line_of_mem_lineDirectives hallow hruntime
    exact Or.inr (Or.inr ⟨line, Or.inl (Or.inr hline), hvalid⟩)
  · obtain ⟨line, hline, hvalid⟩ := exists_line_of_mem_lineDirectives
      (fun domain directive hmem => by rw [List.mem_singleton.mp hmem]) hblocked
    exact Or.inr (Or.inr ⟨line, Or.inr hline, hvalid⟩)

end Decision

/-! ## Runtime dependencies are rules too -/

def exampleSettings : DnsmasqSettings where
  version := "1.0".toList
  sinkholeIpv4 := "192.0.2.1".toList
  sinkholeIpv6 := "100::".toList
  emitBlockedAaaaSinkhole := false
  allowSetEgressEnabled := true
  ipv6FirewallEnabled := true
  allowDstIpset := "openpath-allow-dst".toList
  allowDstIpset6 := "openpath-allow-dst6".toList
  primaryDns := "192.168.1.1".toList
  fallbackDnsPrimary := "8.8.8.8".toList
  version_line := by decide
  plain := by
    have hplain : ["192.0.2.1".toList, "100::".toList, "openpath-allow-dst".toList,
        "openpath-allow-dst6".toList].all
          (fun value => !value.contains '\n' && !value.contains '/') = true := by decide
    intro value hvalue
    simpa using List.all_eq_true.mp hplain value hvalue

def noAddresses : ControlPlaneConfig where
  whitelistUrlConf := none
  whitelistUrl := []
  defaultWhitelistUrl := []
  apiUrlConf := none
  healthApiUrlConf := none

/-- A site with a blocked part. -/
def examplePolicy : Sections where
  whitelist := ["example.com".toList]
  blockedSubdomains := ["*.ads.example.com".toList]
  blockedPaths := []
  allowedPaths := []

theorem singleLine_examplePolicy (runtimeDependencyDomains : List Text)
    (hruntime : ∀ line ∈ runtimeDependencyDomains, '\n' ∉ line) :
    ∀ line ∈ examplePolicy.whitelist ++ runtimeDependencyDomains ++
      examplePolicy.blockedSubdomains, '\n' ∉ line := by
  intro line hline
  simp only [examplePolicy, List.mem_append, List.mem_singleton] at hline
  rcases hline with (rfl | hline) | rfl
  · decide
  · exact hruntime line hline
  · decide

theorem decision_of_examplePolicy :
    (∀ host,
      (Resolves (generateDnsmasqConfig exampleSettings noAddresses [] examplePolicy) host ↔
          LongestRulesAllow (dnsRules noAddresses [] examplePolicy) host) ∧
        (MayResolve (generateDnsmasqConfig exampleSettings noAddresses [] examplePolicy) host ↔
          SomeLongestRuleAllows (dnsRules noAddresses [] examplePolicy) host)) ∧
      readDirectives (generateDnsmasqConfig exampleSettings noAddresses [] examplePolicy) =
        configDirectives exampleSettings noAddresses [] examplePolicy ∧
      ∀ directive ∈ readDirectives
          (generateDnsmasqConfig exampleSettings noAddresses [] examplePolicy),
        directive ∈ sinkholeDirectives exampleSettings ∨
          (∃ domain ∈ systemDomains noAddresses,
            directive ∈ allowDirectives exampleSettings domain) ∨
          ∃ line ∈ examplePolicy.whitelist ++ [] ++ examplePolicy.blockedSubdomains,
            validateDomain line = true ∧ directive.domain = sanitizeDomain line :=
  decision_of_generated_config exampleSettings noAddresses
    (singleLine_examplePolicy [] (by simp))

theorem system_not_suffix_of_dependency :
    ∀ domain ∈ systemDomains noAddresses, ¬ labels domain <:+ labels "cdn.example.net".toList := by
  have hchecked : ((offeredDomains noAddresses).map normalizeOpenpathDomain ++
      captivePortalProbeDomains ++ ntpDomains).all (fun domain =>
        !(labels domain).isSuffixOf (labels "cdn.example.net".toList)) = true := by
    simp only [offeredDomains, controlPlaneDomains, captivePortalProbeDomains, osSystemDomains,
      firefoxSystemDomains, ntpDomains]
    repeat rewrite [String.toList_ofList]
    decide
  intro domain hdomain hsuffix
  have hlisted : domain ∈ (offeredDomains noAddresses).map normalizeOpenpathDomain ++
      captivePortalProbeDomains ++ ntpDomains := by
    simp only [systemDomains, List.mem_append] at hdomain ⊢
    rcases hdomain with (hprotected | hprobe) | htime
    · obtain ⟨offered, hoffered, rfl⟩ := exists_offered_of_mem_refresh hprotected
      exact Or.inl (Or.inl (List.mem_map_of_mem hoffered))
    · exact Or.inl (Or.inr hprobe)
    · exact Or.inr htime
  have hrefused := List.all_eq_true.mp hchecked domain hlisted
  rw [List.isSuffixOf_iff_suffix.mpr hsuffix] at hrefused
  cases hrefused

/-- A runtime dependency is resolved upstream, though no domain of the whitelist or
the system is a suffix of it. -/
theorem runtime_dependency_resolves :
    Resolves (generateDnsmasqConfig exampleSettings noAddresses ["cdn.example.net".toList]
        examplePolicy) "cdn.example.net".toList ∧
      ¬ SomeLongestRuleAllows (dnsRules noAddresses [] examplePolicy)
        "cdn.example.net".toList := by
  have hpolicy : (lineRules true examplePolicy.whitelist ++
      lineRules false examplePolicy.blockedSubdomains).all (fun rule =>
        !rule.name.isSuffixOf (labels "cdn.example.net".toList)) = true := by
    simp only [examplePolicy]
    repeat rewrite [String.toList_ofList]
    decide
  have hcovers : ∀ rule ∈ dnsRules noAddresses [] examplePolicy,
      ¬ rule.name <:+ labels "cdn.example.net".toList := by
    intro rule hrule hsuffix
    simp only [dnsRules, List.mem_append, List.mem_map] at hrule
    rcases hrule with ((⟨domain, hdomain, rfl⟩ | hrule) | hrule) | hrule
    · exact system_not_suffix_of_dependency domain hdomain hsuffix
    · have hrefused := List.all_eq_true.mp hpolicy rule (List.mem_append_left _ hrule)
      rw [List.isSuffixOf_iff_suffix.mpr hsuffix] at hrefused
      cases hrefused
    · simp [lineRules] at hrule
    · have hrefused := List.all_eq_true.mp hpolicy rule (List.mem_append_right _ hrule)
      rw [List.isSuffixOf_iff_suffix.mpr hsuffix] at hrefused
      cases hrefused
  have hdependency : lineRules true ["cdn.example.net".toList] =
      [{ name := labels "cdn.example.net".toList, allows := true }] := by
    rewrite [String.toList_ofList]
    decide
  have hrules : ∀ rule, rule ∈ dnsRules noAddresses ["cdn.example.net".toList] examplePolicy ↔
      rule ∈ dnsRules noAddresses [] examplePolicy ∨
        rule = { name := labels "cdn.example.net".toList, allows := true } := by
    intro rule
    have hnone : lineRules true [] = [] := rfl
    simp only [dnsRules, hdependency, hnone, List.mem_append, List.mem_singleton]
    refine ⟨?_, ?_⟩
    · rintro ((hrule | rfl) | hrule)
      · exact Or.inl (Or.inl (Or.inl hrule))
      · exact Or.inr rfl
      · exact Or.inl (Or.inr hrule)
    · rintro (((hrule | hrule) | hrule) | rfl)
      · exact Or.inl (Or.inl hrule)
      · cases hrule
      · exact Or.inr hrule
      · exact Or.inl (Or.inr rfl)
  refine ⟨?_, fun ⟨rule, hlongest, _⟩ => hcovers rule hlongest.mem hlongest.covers⟩
  have hlines := singleLine_examplePolicy ["cdn.example.net".toList] (by simp)
  rw [(resolves_iff exampleSettings noAddresses hlines "cdn.example.net".toList).1]
  refine surelyPermits_of_forall ⟨_, (hrules _).mpr (Or.inr rfl), List.suffix_rfl⟩ ?_
  intro rule hrule hsuffix
  rcases (hrules rule).mp hrule with hother | rfl
  · exact absurd hsuffix (hcovers rule hother)
  · rfl

end OpenPath.Linux.Dnsmasq
