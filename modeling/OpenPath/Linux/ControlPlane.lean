/-
# Protection of the control plane

What the protection of a policy is for: each protected domain is resolved upstream
by the DNS configuration of the protected policy, no blocked path is left that
targets one, and every other rule stays where it was.

The protection finds a blocked subdomain by its text and a blocked path by the host
behind the first `://` of its text. It therefore does what it is for if and only if
no rule names a protected domain in another way.
-/

import OpenPath.Linux.DnsmasqDecision

namespace OpenPath.Linux

open Foundation Policy Dnsmasq

/-! ## What a rule is about -/

/-- Two lines stand for the same domain, with or without a wildcard and in either
case. -/
def SameDomain (first second : Text) : Prop :=
  labels (checkedDomain first) = labels (checkedDomain second)

instance (first second : Text) : Decidable (SameDomain first second) :=
  inferInstanceAs (Decidable (_ = _))

/-- What may stand behind the host of a path rule. -/
def endsHost (c : Char) : Bool := ":/?#".toList.contains c

/-- The text after the scheme that a path rule starts with, if any. -/
def withoutScheme (rule : Text) : Text :=
  let rest := rule.dropWhile fun c => !endsHost c
  if "://".toList.isPrefixOf rest then rest.drop 3 else rule

/-- A `://` that is not that of a scheme at the start. -/
def LateSeparator (rule : Text) : Prop :=
  ¬ "://".toList <+: rule.dropWhile (fun c => !endsHost c) ∧ "://".toList <:+: rule

/-- The host that a text starts with. A port and a wildcard before the host do not
count. -/
def leadingHost (text : Text) : Text :=
  normalizeOpenpathDomain ((text.takeWhile fun c => !endsHost c).dropWhile (· == '*'))

/-- The host that a path rule names, which is empty where the rule is for all hosts.
The lines of a parsed policy have no white space around them. -/
def pathRuleHost (rule : Text) : Text := leadingHost (withoutScheme rule)

/-- A path rule governs the host that it names and what lies under it. -/
def TargetsHost (rule domain : Text) : Prop := Governs (pathRuleHost rule) domain

instance (rule domain : Text) : Decidable (TargetsHost rule domain) :=
  inferInstanceAs (Decidable (Governs _ _))

/-- A blocked subdomain that stands for none of the domains. -/
def blocksNone (domains : List Text) (line : Text) : Bool :=
  domains.all fun domain => !decide (SameDomain line domain)

/-- A blocked path that targets none of the domains. -/
def targetsNone (domains : List Text) (rule : Text) : Bool :=
  domains.all fun domain => !decide (TargetsHost rule domain)

/-! ## What the protection is for -/

/-- The policy is protected, and the rules that are not about a protected domain are
still there, in their order. -/
structure ControlPlaneProtected (settings : DnsmasqSettings) (config : ControlPlaneConfig)
    (runtimeDependencyDomains protectedDomains : List Text) (before after : Sections) : Prop where
  whitelisted : ∀ domain ∈ protectedDomains, domain ∈ after.whitelist
  resolves : ∀ domain ∈ protectedDomains,
    Resolves (generateDnsmasqConfig settings config runtimeDependencyDomains after)
      (checkedDomain domain)
  paths : ∀ rule ∈ after.blockedPaths, targetsNone protectedDomains rule = true
  whitelist_order : before.whitelist <+: after.whitelist
  whitelist_added : ∀ domain ∈ after.whitelist,
    domain ∈ before.whitelist ∨ domain ∈ protectedDomains
  subdomains_kept :
    (before.blockedSubdomains.filter (blocksNone protectedDomains)).Sublist after.blockedSubdomains
  subdomains_order : after.blockedSubdomains.Sublist before.blockedSubdomains
  paths_kept :
    (before.blockedPaths.filter (targetsNone protectedDomains)).Sublist after.blockedPaths
  paths_order : after.blockedPaths.Sublist before.blockedPaths
  allowedPaths : after.allowedPaths = before.allowedPaths

/-- A blocked subdomain that stands for a protected domain has its text. A blocked
path that governs a protected domain names one itself and not a parent only, and where
a `://` follows later in its text, the text behind that starts with a protected domain
exactly if the rule governs one. -/
structure WellSpelled (protectedDomains : List Text) (policy : Sections) : Prop where
  subdomains : ∀ line ∈ policy.blockedSubdomains, validateDomain line = true →
    (∃ domain ∈ protectedDomains, SameDomain line domain) → line ∈ protectedDomains
  parents : ∀ rule ∈ policy.blockedPaths, ¬ LateSeparator rule →
    (∃ domain ∈ protectedDomains, TargetsHost rule domain) →
      pathRuleHost rule ∈ protectedDomains
  separators : ∀ rule ∈ policy.blockedPaths, LateSeparator rule →
    ((∃ domain ∈ protectedDomains, TargetsHost rule domain) ↔
      leadingHost (removeUpTo "://".toList rule) ∈ protectedDomains)

/-! ## The host that is read -/

section Reading

variable {rule host : Text}

/-- Dots before a domain do not count. -/
theorem normalizeOpenpathDomain_dropWhile (domain : Text) :
    normalizeOpenpathDomain (domain.dropWhile (· == '.')) = normalizeOpenpathDomain domain := by
  induction domain with
  | nil => rfl
  | cons c domain ih =>
      by_cases hdot : c = '.'
      · rw [hdot, List.dropWhile_cons_of_pos (by decide), ih]
        rfl
      · rw [List.dropWhile_cons_of_neg (by simpa using hdot)]

theorem takeWhile_dropWhile_comm {p q : Char → Bool} (hle : ∀ c, q c = true → p c = true)
    (text : Text) : (text.dropWhile q).takeWhile p = (text.takeWhile p).dropWhile q := by
  induction text with
  | nil => rfl
  | cons c text ih =>
      cases hq : q c with
      | true =>
          rw [List.dropWhile_cons_of_pos hq, List.takeWhile_cons_of_pos (hle c hq),
            List.dropWhile_cons_of_pos hq, ih]
      | false =>
          rw [List.dropWhile_cons_of_neg (by simp [hq])]
          cases hp : p c with
          | true => rw [List.takeWhile_cons_of_pos hp, List.dropWhile_cons_of_neg (by simp [hq])]
          | false => rw [List.takeWhile_cons_of_neg (by simp [hp]), List.dropWhile_nil]

/-- The host that is read is the one behind the first `://`. -/
theorem getBlockedPathHost_eq_some_iff (hvalid : validateDomain host = true) :
    getBlockedPathHost rule = some host ↔ leadingHost (removeUpTo "://".toList rule) = host := by
  unfold getBlockedPathHost
  dsimp only
  generalize removeUpTo "://".toList rule = text
  have hhost : leadingHost text = normalizeOpenpathDomain
      (((text.dropWhile (· == '*')).dropWhile (· == '.')).takeWhile fun c => !endsHost c) := by
    rw [takeWhile_dropWhile_comm, normalizeOpenpathDomain_dropWhile, takeWhile_dropWhile_comm,
      leadingHost]
    · simp +contextual [endsHost]
    · simp +contextual [endsHost]
  generalize (text.dropWhile (· == '*')).dropWhile (· == '.') = candidate at hhost ⊢
  have hends : ((((candidate.takeWhile (· ≠ '/')).takeWhile (· ≠ '?')).takeWhile
      (· ≠ '#')).takeWhile (· ≠ ':')) = candidate.takeWhile fun c => !endsHost c := by
    simp only [List.takeWhile_takeWhile]
    congr 1
    funext c
    simp [endsHost, Bool.and_comm, Bool.and_left_comm]
  rw [hends, ← hhost]
  split
  · rename_i hnone
    have hempty : leadingHost text = [] := by
      rcases hnone with hnil | hslash
      · rw [hhost, hnil]
        rfl
      · obtain ⟨rest, hrest⟩ := List.head?_eq_some_iff.mp hslash
        rw [hhost, hrest]
        rfl
    refine iff_of_false nofun ?_
    rw [hempty]
    rintro rfl
    cases hvalid
  · split
    · simp
    · rename_i hinvalid
      refine iff_of_false nofun ?_
      rintro rfl
      exact hinvalid hvalid

/-- The separator of a scheme is the first one. -/
theorem find?_tails_of_scheme
    (hscheme : "://".toList.isPrefixOf (rule.dropWhile fun c => !endsHost c) = true) :
    rule.tails.find? "://".toList.isPrefixOf = some (rule.dropWhile fun c => !endsHost c) := by
  induction rule with
  | nil => cases hscheme
  | cons c rule ih =>
      cases hends : endsHost c with
      | true =>
          rw [List.dropWhile_cons_of_neg (by simp [hends])] at hscheme ⊢
          rw [List.tails, List.find?_cons_of_pos hscheme]
      | false =>
          rw [List.dropWhile_cons_of_pos (by simp [hends])] at hscheme ⊢
          have hother : ¬ "://".toList.isPrefixOf (c :: rule) = true := by
            intro hprefix
            obtain ⟨rest, hrest⟩ := List.isPrefixOf_iff_prefix.mp hprefix
            rw [← (List.cons.inj hrest).1] at hends
            cases hends
          rw [List.tails, List.find?_cons_of_neg hother, ih hscheme]

/-- Without a later `://` the host is read where the rule names it. -/
theorem removeUpTo_eq_withoutScheme (hlate : ¬ LateSeparator rule) :
    removeUpTo "://".toList rule = withoutScheme rule := by
  unfold withoutScheme
  dsimp only
  split
  · rename_i hscheme
    rw [removeUpTo, find?_tails_of_scheme hscheme]
    rfl
  · rename_i hscheme
    have hnone : rule.tails.find? "://".toList.isPrefixOf = none := by
      rw [List.find?_eq_none]
      intro tail htail hprefix
      rw [List.isPrefixOf_iff_prefix] at hscheme hprefix
      exact hlate ⟨hscheme, hprefix.isInfix.trans ((List.mem_tails _ _).mp htail).isInfix⟩
    rw [removeUpTo, hnone]

end Reading

section Protection

variable {protectedDomains : List Text} {policy : Sections}

theorem blocksNone_iff (line : Text) :
    blocksNone protectedDomains line = true ↔
      ¬ ∃ domain ∈ protectedDomains, SameDomain line domain := by
  simp [blocksNone]

theorem targetsNone_iff (rule : Text) :
    targetsNone protectedDomains rule = true ↔
      ¬ ∃ domain ∈ protectedDomains, TargetsHost rule domain := by
  simp [targetsNone]

/-- The blocked paths that stay are those whose host is read as none of the
protected domains. -/
theorem mem_protected_blockedPaths (rule : Text) :
    rule ∈ (protectControlPlaneRules protectedDomains policy).blockedPaths ↔
      rule ∈ policy.blockedPaths ∧
        ¬ ∃ host ∈ protectedDomains, getBlockedPathHost rule = some host := by
  rw [protectControlPlaneRules, List.mem_filter]
  refine and_congr_right fun _ => ?_
  cases getBlockedPathHost rule with
  | none => simp
  | some host => simp

theorem exists_read_iff (hlist : ProtectedList protectedDomains) (rule : Text) :
    (∃ host ∈ protectedDomains, getBlockedPathHost rule = some host) ↔
      leadingHost (removeUpTo "://".toList rule) ∈ protectedDomains := by
  constructor
  · rintro ⟨host, hhost, hread⟩
    rwa [(getBlockedPathHost_eq_some_iff (hlist.valid host hhost)).mp hread]
  · intro hmem
    exact ⟨_, hmem, (getBlockedPathHost_eq_some_iff (hlist.valid _ hmem)).mpr rfl⟩

theorem mem_protected_blockedSubdomains (line : Text) :
    line ∈ (protectControlPlaneRules protectedDomains policy).blockedSubdomains ↔
      line ∈ policy.blockedSubdomains ∧ line ∉ protectedDomains := by
  simp [protectControlPlaneRules]

theorem mem_protected_whitelist (hlist : ProtectedList protectedDomains) (line : Text) :
    line ∈ (protectControlPlaneRules protectedDomains policy).whitelist ↔
      line ∈ policy.whitelist ∨ line ∈ protectedDomains := by
  rw [protectControlPlaneRules_whitelist hlist, List.mem_append, List.mem_filter]
  by_cases hmem : line ∈ policy.whitelist
  · simp [hmem]
  · simp [hmem]

theorem exists_mem_lineRules {allows : Bool} {lines : List Text} {rule : DnsRule} :
    rule ∈ lineRules allows lines ↔
      ∃ line ∈ lines, validateDomain line = true ∧
        { name := labels (checkedDomain line), allows := allows } = rule := by
  simp [lineRules, and_assoc]

/-- A protected domain is resolved if and only if no blocked subdomain is left that
stands for it: its own entry of the whitelist is the longest rule that matches. -/
theorem resolves_protected_iff (settings : DnsmasqSettings) (config : ControlPlaneConfig)
    {runtimeDependencyDomains : List Text} (hlist : ProtectedList protectedDomains)
    (hsingle : ∀ domain ∈ protectedDomains, '\n' ∉ domain)
    (hlines : ∀ line ∈ policy.whitelist ++ runtimeDependencyDomains ++ policy.blockedSubdomains,
      '\n' ∉ line)
    {domain : Text} (hdomain : domain ∈ protectedDomains) :
    Resolves (generateDnsmasqConfig settings config runtimeDependencyDomains
        (protectControlPlaneRules protectedDomains policy)) (checkedDomain domain) ↔
      ∀ line ∈ policy.blockedSubdomains, line ∉ protectedDomains → validateDomain line = true →
        ¬ SameDomain line domain := by
  set after := protectControlPlaneRules protectedDomains policy with hafter
  have hafterLines : ∀ line ∈ after.whitelist ++ runtimeDependencyDomains ++
      after.blockedSubdomains, '\n' ∉ line := by
    intro line hline
    simp only [hafter, List.mem_append, mem_protected_whitelist hlist,
      mem_protected_blockedSubdomains] at hline
    simp only [List.mem_append] at hlines
    rcases hline with ((hline | hline) | hline) | hline
    · exact hlines line (Or.inl (Or.inl hline))
    · exact hsingle line hline
    · exact hlines line (Or.inl (Or.inr hline))
    · exact hlines line (Or.inr hline.1)
  have hown : ∃ rule ∈ dnsRules config runtimeDependencyDomains after,
      rule.name = labels (checkedDomain domain) := by
    refine ⟨{ name := labels (checkedDomain domain), allows := true }, ?_, rfl⟩
    simp only [dnsRules, List.mem_append]
    exact Or.inl (Or.inl (Or.inr (exists_mem_lineRules.mpr
      ⟨domain, (mem_protected_whitelist hlist domain).mpr (Or.inr hdomain),
        hlist.valid domain hdomain, rfl⟩)))
  rw [(resolves_iff settings config hafterLines _).1, LongestRulesAllow,
    surelyPermits_of_exact hown]
  constructor
  · intro hall line hline hother hvalid hsame
    have hrule : { name := labels (checkedDomain line), allows := false } ∈
        dnsRules config runtimeDependencyDomains after := by
      simp only [dnsRules, List.mem_append]
      exact Or.inr (exists_mem_lineRules.mpr
        ⟨line, (mem_protected_blockedSubdomains line).mpr ⟨hline, hother⟩, hvalid, rfl⟩)
    exact absurd (hall _ hrule hsame) (by simp)
  · intro hnone rule hrule hname
    simp only [dnsRules, List.mem_append, List.mem_map, exists_mem_lineRules] at hrule
    rcases hrule with ((⟨_, -, rfl⟩ | ⟨_, -, -, rfl⟩) | ⟨_, -, -, rfl⟩) | ⟨line, hline, hvalid, rfl⟩
    · rfl
    · rfl
    · rfl
    · obtain ⟨hmem, hother⟩ := (mem_protected_blockedSubdomains line).mp hline
      exact absurd hname (hnone line hmem hother hvalid)

/-- The lines that the protection removes stand for protected domains. -/
theorem subdomains_kept :
    (policy.blockedSubdomains.filter (blocksNone protectedDomains)).Sublist
      (protectControlPlaneRules protectedDomains policy).blockedSubdomains := by
  refine List.monotone_filter_right _ fun line hnone => ?_
  have hother : line ∉ protectedDomains := fun hmem =>
    (blocksNone_iff line).mp hnone ⟨line, hmem, rfl⟩
  simpa using hother

/-- The protection finds the rules that govern a protected domain. -/
theorem WellSpelled.paths (hlist : ProtectedList protectedDomains)
    (hspelled : WellSpelled protectedDomains policy) :
    ∀ rule ∈ policy.blockedPaths,
      (∃ domain ∈ protectedDomains, TargetsHost rule domain) ↔
        ∃ host ∈ protectedDomains, getBlockedPathHost rule = some host := by
  intro rule hrule
  rw [exists_read_iff hlist]
  by_cases hlate : LateSeparator rule
  · exact hspelled.separators rule hrule hlate
  · rw [removeUpTo_eq_withoutScheme hlate]
    refine ⟨hspelled.parents rule hrule hlate, ?_⟩
    intro hmem
    exact ⟨_, hmem, fun hnil => hlist.nil_not_mem (hnil ▸ hmem), Or.inl rfl⟩

theorem wellSpelled_of_paths (hlist : ProtectedList protectedDomains)
    (hsubdomains : ∀ line ∈ policy.blockedSubdomains, validateDomain line = true →
      (∃ domain ∈ protectedDomains, SameDomain line domain) → line ∈ protectedDomains)
    (hpaths : ∀ rule ∈ policy.blockedPaths,
      (∃ domain ∈ protectedDomains, TargetsHost rule domain) ↔
        ∃ host ∈ protectedDomains, getBlockedPathHost rule = some host) :
    WellSpelled protectedDomains policy := by
  refine ⟨hsubdomains, ?_, ?_⟩
  · intro rule hrule hlate htargets
    have hread := (hpaths rule hrule).mp htargets
    rwa [exists_read_iff hlist, removeUpTo_eq_withoutScheme hlate] at hread
  · intro rule hrule _
    rw [hpaths rule hrule, exists_read_iff hlist]

theorem blockedPaths_eq_filter
    (hpaths : ∀ rule ∈ policy.blockedPaths,
      (∃ domain ∈ protectedDomains, TargetsHost rule domain) ↔
        ∃ host ∈ protectedDomains, getBlockedPathHost rule = some host) :
    (protectControlPlaneRules protectedDomains policy).blockedPaths =
      policy.blockedPaths.filter (targetsNone protectedDomains) := by
  refine List.filter_congr fun rule hrule => ?_
  rw [Bool.eq_iff_iff, targetsNone_iff, hpaths rule hrule]
  cases getBlockedPathHost rule with
  | none => simp
  | some host => simp

/-- The protection does what it is for if and only if the rules of the policy name
the protected domains in the way in which it looks for them. -/
theorem controlPlaneProtected_iff (settings : DnsmasqSettings) (config : ControlPlaneConfig)
    {runtimeDependencyDomains : List Text} (hlist : ProtectedList protectedDomains)
    (hsingle : ∀ domain ∈ protectedDomains, '\n' ∉ domain)
    (hlines : ∀ line ∈ policy.whitelist ++ runtimeDependencyDomains ++ policy.blockedSubdomains,
      '\n' ∉ line) :
    ControlPlaneProtected settings config runtimeDependencyDomains protectedDomains policy
        (protectControlPlaneRules protectedDomains policy) ↔
      WellSpelled protectedDomains policy := by
  have hresolves := fun domain (hdomain : domain ∈ protectedDomains) =>
    resolves_protected_iff settings config hlist hsingle hlines hdomain
  constructor
  · intro hprotected
    refine wellSpelled_of_paths hlist ?_ ?_
    · rintro line hline hvalid ⟨domain, hdomain, hsame⟩
      by_contra hother
      exact (hresolves domain hdomain).mp (hprotected.resolves domain hdomain) line hline hother
        hvalid hsame
    · intro rule hrule
      constructor
      · intro htargets
        by_contra hread
        have hstays := (mem_protected_blockedPaths rule).mpr ⟨hrule, hread⟩
        exact (targetsNone_iff rule).mp (hprotected.paths rule hstays) htargets
      · intro hread
        by_contra htargets
        have hkept := hprotected.paths_kept.subset
          (List.mem_filter.mpr ⟨hrule, (targetsNone_iff rule).mpr htargets⟩)
        exact ((mem_protected_blockedPaths rule).mp hkept).2 hread
  · intro hspelled
    have hpaths := blockedPaths_eq_filter (hspelled.paths hlist)
    exact {
      whitelisted := fun domain hdomain =>
        (mem_protected_whitelist hlist domain).mpr (Or.inr hdomain)
      resolves := fun domain hdomain => (hresolves domain hdomain).mpr
        fun line hline hother hvalid hsame =>
          hother (hspelled.subdomains line hline hvalid ⟨domain, hdomain, hsame⟩)
      paths := fun rule hrule => by
        rw [hpaths] at hrule
        exact (List.mem_filter.mp hrule).2
      whitelist_order := by
        rw [protectControlPlaneRules_whitelist hlist]
        exact List.prefix_append _ _
      whitelist_added := fun domain => (mem_protected_whitelist hlist domain).mp
      subdomains_kept := subdomains_kept
      subdomains_order := List.filter_sublist
      paths_kept := hpaths ▸ List.Sublist.refl _
      paths_order := List.filter_sublist
      allowedPaths := rfl }

end Protection

/-! ## A wildcard that stays -/

/-- A policy that blocks everything under a host of the control plane. -/
def wildcardPolicy : Sections where
  whitelist := []
  blockedSubdomains := ["*.raw.githubusercontent.com".toList]
  blockedPaths := []
  allowedPaths := []

theorem singleLine_wildcardPolicy :
    ∀ line ∈ wildcardPolicy.whitelist ++ [] ++ wildcardPolicy.blockedSubdomains,
      '\n' ∉ line :=
  List.forall_mem_singleton.mpr (by decide)

/-- The protected list has no name with a wildcard of its own. -/
theorem wildcard_not_mem_protectedDomains :
    "*.raw.githubusercontent.com".toList ∉ refreshOpenpathProtectedDomains noAddresses := by
  have hoffered : ((offeredDomains noAddresses).map normalizeOpenpathDomain).contains
      "*.raw.githubusercontent.com".toList = false := by
    simp only [offeredDomains, controlPlaneDomains, captivePortalProbeDomains, osSystemDomains,
      firefoxSystemDomains]
    repeat rewrite [String.toList_ofList]
    decide
  intro hmem
  obtain ⟨offered, hmem, hnormalized⟩ := exists_offered_of_mem_refresh hmem
  have hlisted : "*.raw.githubusercontent.com".toList ∈
      (offeredDomains noAddresses).map normalizeOpenpathDomain :=
    hnormalized ▸ List.mem_map_of_mem hmem
  rw [← List.contains_iff_mem, hoffered] at hlisted
  cases hlisted

theorem wildcard_stays :
    ¬ ControlPlaneProtected exampleSettings noAddresses []
      (refreshOpenpathProtectedDomains noAddresses) wildcardPolicy
      (protectControlPlaneRules (refreshOpenpathProtectedDomains noAddresses) wildcardPolicy) := by
  intro hprotected
  have hdomain := raw_mem_protectedDomains noAddresses
  have hresolves := (resolves_protected_iff exampleSettings noAddresses
    (protectedList_refresh noAddresses) (newline_not_mem_refresh noAddresses)
    singleLine_wildcardPolicy hdomain).mp (hprotected.resolves _ hdomain)
  exact hresolves _ List.mem_cons_self wildcard_not_mem_protectedDomains (by decide)
    (by decide)

/-- The same policy with path rules: for a host of the control plane, for a parent of
one, and with an address in the query of another host. -/
def pathPolicy : Sections :=
  { wildcardPolicy with
    blockedPaths := ["*.github.com/login".toList, "ubuntu.com/".toList,
      "example.org/open?url=https://github.com/".toList] }

theorem wildcardPolicy_protected_iff :
    ControlPlaneProtected exampleSettings noAddresses []
        (refreshOpenpathProtectedDomains noAddresses) pathPolicy
        (protectControlPlaneRules (refreshOpenpathProtectedDomains noAddresses) pathPolicy) ↔
      WellSpelled (refreshOpenpathProtectedDomains noAddresses) pathPolicy :=
  controlPlaneProtected_iff exampleSettings noAddresses (protectedList_refresh noAddresses)
    (newline_not_mem_refresh noAddresses) singleLine_wildcardPolicy

end OpenPath.Linux
