/-
# The DNS configuration of the agent

`generate_dnsmasq_config` answers every name with the sinkhole and then forwards,
one after another, the domains of the system, those of the whitelist and the
runtime dependencies, and answers the blocked subdomains itself. A line of the
policy that is not a domain is skipped, and what is left of the others names one
domain: the directives that dnsmasq reads are those of the valid lines, one by one.
-/

import OpenPath.Linux.Dnsmasq
import OpenPath.Linux.ProtectedDomains

namespace OpenPath.Linux.Dnsmasq

open Foundation Ascii Policy

/-! ## The upstream resolver -/

/-- `^[0-9]{1,3}\.[0-9]{1,3}\.[0-9]{1,3}\.[0-9]{1,3}$` -/
def ipPattern : Re Char :=
  .sequence
    [(Re.sat isDigit).between 1 3, .lit '.', (Re.sat isDigit).between 1 3, .lit '.',
     (Re.sat isDigit).between 1 3, .lit '.', (Re.sat isDigit).between 1 3]

def validateIp (ip : Text) : Bool := ipPattern.accepts ip

/-- Loopback, link-local, multicast and reserved addresses are no resolvers. -/
def isUsableUpstreamDns (dns : Text) : Bool :=
  validateIp dns &&
    !(["0.", "127.", "169.254.", "224.", "225.", "226.", "227.", "228.", "229.", "230.", "231.",
        "232.", "233.", "234.", "235.", "236.", "237.", "238.", "239.", "240.", "241.", "242.",
        "243.", "244.", "245.", "246.", "247.", "248.", "249.", "250.", "251.", "252.", "253.",
        "254.", "255."].any fun start => start.toList.isPrefixOf dns)

def selectUsableUpstreamDns (dns fallback : Text) : Text :=
  if isUsableUpstreamDns dns then dns
  else if isUsableUpstreamDns fallback then fallback
  else "8.8.8.8".toList

/-! ## The configuration -/

/-- What the agent's own configuration says. None of it comes from a policy. -/
structure DnsmasqSettings where
  version : Text
  sinkholeIpv4 : Text
  sinkholeIpv6 : Text
  /-- `_dns_emit_blocked_aaaa_sinkhole` -/
  emitBlockedAaaaSinkhole : Bool
  allowSetEgressEnabled : Bool
  ipv6FirewallEnabled : Bool
  allowDstIpset : Text
  allowDstIpset6 : Text
  primaryDns : Text
  fallbackDnsPrimary : Text
  version_line : '\n' ∉ version
  plain : ∀ value ∈ [sinkholeIpv4, sinkholeIpv6, allowDstIpset, allowDstIpset6],
    '\n' ∉ value ∧ '/' ∉ value

namespace DnsmasqSettings

variable (settings : DnsmasqSettings)

def upstreamDns : Text := selectUsableUpstreamDns settings.primaryDns settings.fallbackDnsPrimary

def allowSets : Text :=
  if settings.ipv6FirewallEnabled then settings.allowDstIpset ++ ',' :: settings.allowDstIpset6
  else settings.allowDstIpset

def emitDnsmasqAllowDomain (domain : Text) : List Text :=
  ("server=/".toList ++ domain ++ '/' :: settings.upstreamDns) ::
    if settings.allowSetEgressEnabled then ["ipset=/".toList ++ domain ++ '/' :: settings.allowSets]
    else []

def dnsmasqDefaultSinkholeRules : List Text :=
  ("address=/".toList ++ ['#'] ++ '/' :: settings.sinkholeIpv4) ::
    if settings.emitBlockedAaaaSinkhole then
      ["address=/".toList ++ ['#'] ++ '/' :: settings.sinkholeIpv6]
    else []

def baseLines : List Text :=
  ["# =============================================".toList,
   "# OpenPath - dnsmasq DNS Sinkhole v".toList ++ settings.version,
   "# =============================================".toList,
   [],
   "# Base configuration".toList,
   "no-resolv".toList,
   "resolv-file=/run/dnsmasq/resolv.conf".toList,
   "listen-address=127.0.0.1".toList,
   "bind-interfaces".toList,
   "cache-size=1000".toList,
   "max-cache-ttl=300".toList,
   "neg-ttl=60".toList,
   [],
   "# =============================================".toList,
   "# DEFAULT BLOCK (MUST BE FIRST)".toList,
   "# Everything not explicitly listed returns a non-local sinkhole address.".toList,
   "# =============================================".toList]

end DnsmasqSettings

def essentialLines : List Text :=
  ["# =============================================".toList,
   "# ESSENTIAL DOMAINS (always allowed)".toList,
   "# Required for system operation".toList,
   "# =============================================".toList,
   [],
   "# Control plane, browser updates, and bootstrap/download".toList]

def captivePortalLines : List Text := [[], "# Captive portal detection".toList]

def ntpLines : List Text := [[], "# NTP (time synchronization)".toList]

def ntpDomains : List Text := ["ntp.ubuntu.com".toList, "time.google.com".toList]

/-- `${#array[@]}` in a comment. -/
def countText (count : Nat) : Text := Nat.toDigits 10 count

def whitelistLines (count : Nat) : List Text :=
  [[],
   "# =============================================".toList,
   "# WHITELIST DOMAINS (".toList ++ countText count ++ " domains)".toList,
   "# =============================================".toList]

/-- The lines of a list of domains: what is no domain is skipped. -/
def validLines (emit : Text → List Text) (domains : List Text) : List Text :=
  domains.flatMap fun domain =>
    if validateDomain domain then emit (sanitizeDomain domain) else []

/-- A section that is left out for an empty list. -/
def optionalSection (domains : List Text) (title : Text) (lines : List Text) : List Text :=
  if domains = [] then [] else title :: lines ++ [[]]

def configLines (settings : DnsmasqSettings) (protectedDomains runtimeDependencyDomains : List Text)
    (policy : Sections) : List Text :=
  settings.baseLines ++ settings.dnsmasqDefaultSinkholeRules ++ essentialLines ++
    (protectedDomains.filter (· ≠ [])).flatMap settings.emitDnsmasqAllowDomain ++
    captivePortalLines ++ captivePortalProbeDomains.flatMap settings.emitDnsmasqAllowDomain ++
    ntpLines ++ ntpDomains.flatMap settings.emitDnsmasqAllowDomain ++
    whitelistLines policy.whitelist.length ++
    validLines settings.emitDnsmasqAllowDomain policy.whitelist ++ [[]] ++
    optionalSection runtimeDependencyDomains
      ("# Runtime dependency domains (".toList ++ countText runtimeDependencyDomains.length ++
        " domains)".toList)
      (validLines settings.emitDnsmasqAllowDomain runtimeDependencyDomains) ++
    optionalSection policy.blockedSubdomains "# Blocked subdomains (NXDOMAIN)".toList
      (validLines (fun domain => ["address=/".toList ++ domain ++ ['/']]) policy.blockedSubdomains)

/-- The generated file. `runtimeDependencyDomains` are the lines that the overlay
prints. -/
def generateDnsmasqConfig (settings : DnsmasqSettings) (config : ControlPlaneConfig)
    (runtimeDependencyDomains : List Text) (policy : Sections) : Text :=
  unlines '\n'
    (configLines settings (refreshOpenpathProtectedDomains config) runtimeDependencyDomains policy)

/-! ## The directives of the configuration -/

/-- The domains that the agent forwards under every policy. -/
def systemDomains (config : ControlPlaneConfig) : List Text :=
  refreshOpenpathProtectedDomains config ++ captivePortalProbeDomains ++ ntpDomains

section Directives

variable (settings : DnsmasqSettings)

def sinkholeDirectives : List Directive :=
  { setting := .address, domain := ['#'], value := settings.sinkholeIpv4 } ::
    if settings.emitBlockedAaaaSinkhole then
      [{ setting := .address, domain := ['#'], value := settings.sinkholeIpv6 }]
    else []

def allowDirectives (domain : Text) : List Directive :=
  { setting := .server, domain, value := settings.upstreamDns } ::
    if settings.allowSetEgressEnabled then
      [{ setting := .ipset, domain, value := settings.allowSets }]
    else []

def blockDirectives (domain : Text) : List Directive :=
  [{ setting := .address, domain, value := [] }]

/-- The directives that lines of a policy stand for. -/
def lineDirectives (emit : Text → List Directive) (domains : List Text) : List Directive :=
  domains.flatMap fun domain => if validateDomain domain then emit (sanitizeDomain domain) else []

def configDirectives (config : ControlPlaneConfig) (runtimeDependencyDomains : List Text)
    (policy : Sections) : List Directive :=
  sinkholeDirectives settings ++ (systemDomains config).flatMap (allowDirectives settings) ++
    lineDirectives (allowDirectives settings) policy.whitelist ++
    lineDirectives (allowDirectives settings) runtimeDependencyDomains ++
    lineDirectives blockDirectives policy.blockedSubdomains

/-! ### Characters -/

theorem validateIp_chars {ip : Text} (hvalid : validateIp ip = true) :
    ∀ c ∈ ip, isDigit c = true ∨ c = '.' := by
  have digits : ((Re.sat isDigit).between 1 3).Over fun c => isDigit c = true ∨ c = '.' :=
    Re.Over.between (r := .sat isDigit) (fun _ => Or.inl) 1 3
  have dot : (Re.lit '.').Over fun c => isDigit c = true ∨ c = '.' := by
    intro c hc
    exact Or.inr (by simpa using hc)
  have hpattern : ipPattern.Over fun c => isDigit c = true ∨ c = '.' := by
    apply Re.Over.sequence
    intro part hpart
    simp only [List.mem_cons, List.not_mem_nil, or_false] at hpart
    rcases hpart with rfl | rfl | rfl | rfl | rfl | rfl | rfl
    all_goals first | exact digits | exact dot
  exact Re.forall_mem_of_over hpattern ((Re.accepts_iff _ _).mp hvalid)

theorem upstreamDns_plain : '\n' ∉ settings.upstreamDns ∧ '/' ∉ settings.upstreamDns := by
  have husable : ∀ dns, isUsableUpstreamDns dns = true → '\n' ∉ dns ∧ '/' ∉ dns := by
    intro dns hdns
    have hchars := validateIp_chars (Bool.and_eq_true_iff.mp hdns).1
    refine ⟨fun h => ?_, fun h => ?_⟩
    · exact absurd (hchars _ h) (by decide)
    · exact absurd (hchars _ h) (by decide)
  unfold DnsmasqSettings.upstreamDns selectUsableUpstreamDns
  split
  · exact husable _ ‹_›
  split
  · exact husable _ ‹_›
  · exact ⟨by decide, by decide⟩

theorem allowSets_plain : '\n' ∉ settings.allowSets ∧ '/' ∉ settings.allowSets := by
  have hset := settings.plain settings.allowDstIpset (by simp)
  have hset6 := settings.plain settings.allowDstIpset6 (by simp)
  unfold DnsmasqSettings.allowSets
  split
  · simp [hset, hset6]
  · exact hset

/-- A domain that the agent writes into its configuration. -/
structure PlainDomain (domain : Text) : Prop where
  no_newline : '\n' ∉ domain
  no_slash : '/' ∉ domain

variable {domain : Text}

theorem plainDomain_of_validLine (hline : '\n' ∉ domain) (hvalid : ValidLine domain) :
    PlainDomain domain := by
  refine ⟨hline, fun hslash => ?_⟩
  have hchecked : '/' ∈ checkedDomain domain := by
    unfold checkedDomain
    split
    · rename_i hwild
      obtain ⟨tail, rfl⟩ := List.isPrefixOf_iff_prefix.mp hwild
      simpa using hslash
    · exact hslash
  exact absurd (hvalid.chars '/' hchecked) (by decide)

theorem plainDomain_sanitizeDomain (domain : Text) : PlainDomain (sanitizeDomain domain) :=
  ⟨not_mem_sanitizeDomain domain (by decide), not_mem_sanitizeDomain domain (by decide)⟩

theorem newline_not_mem_refresh (config : ControlPlaneConfig) :
    ∀ domain ∈ refreshOpenpathProtectedDomains config, '\n' ∉ domain := by
  have hfold : ∀ offered domains : List Text, (∀ domain ∈ domains, '\n' ∉ domain) →
      ∀ domain ∈ offered.foldl appendUniqueOpenpathDomain domains, '\n' ∉ domain := by
    intro offered
    induction offered with
    | nil => exact fun domains hdomains => hdomains
    | cons first rest ih =>
        intro domains hdomains
        refine ih _ fun domain hdomain => ?_
        unfold appendUniqueOpenpathDomain at hdomain
        dsimp only at hdomain
        split at hdomain
        · exact hdomains domain hdomain
        · rcases List.mem_append.mp hdomain with hold | hnew
          · exact hdomains domain hold
          · rw [List.mem_singleton.mp hnew]
            intro hmem
            have hspace := (List.mem_filter.mp (mem_of_mem_trim hmem)).2
            revert hspace
            decide
  exact hfold _ [] (by simp)

theorem plainDomain_systemDomains (config : ControlPlaneConfig) :
    ∀ domain ∈ systemDomains config, PlainDomain domain := by
  intro domain hdomain
  rcases List.mem_append.mp hdomain with hdomain | hdomain
  · rcases List.mem_append.mp hdomain with hdomain | hdomain
    · have hline := newline_not_mem_refresh config domain hdomain
      exact plainDomain_of_validLine hline
        (validLine_of_validateDomain hline ((protectedList_refresh config).valid domain hdomain))
    · have hall : captivePortalProbeDomains.all (fun d => !d.contains '\n' && !d.contains '/') := by
        unfold captivePortalProbeDomains
        repeat rewrite [String.toList_ofList]
        decide
      have hboth := List.all_eq_true.mp hall domain hdomain
      exact ⟨by simp_all, by simp_all⟩
  · have hall : ntpDomains.all (fun d => !d.contains '\n' && !d.contains '/') := by
      unfold ntpDomains
      repeat rewrite [String.toList_ofList]
      decide
    have hboth := List.all_eq_true.mp hall domain hdomain
    exact ⟨by simp_all, by simp_all⟩

/-! ### Lines -/

/-- Lines that end where they are written and hold these directives. -/
structure Reads (lines : List Text) (directives : List Directive) : Prop where
  single : ∀ line ∈ lines, '\n' ∉ line
  read : lines.flatMap readLine = directives

theorem Reads.append {first second : List Text} {directives others : List Directive}
    (hfirst : Reads first directives) (hsecond : Reads second others) :
    Reads (first ++ second) (directives ++ others) where
  single := by
    intro line hline
    rcases List.mem_append.mp hline with h | h
    · exact hfirst.single line h
    · exact hsecond.single line h
  read := by rw [List.flatMap_append, hfirst.read, hsecond.read]

theorem Reads.cons {line : Text} {lines : List Text} {directive : Directive}
    {directives : List Directive} (hline : '\n' ∉ line) (hread : readLine line = [directive])
    (hlines : Reads lines directives) : Reads (line :: lines) (directive :: directives) where
  single := by
    intro other hother
    rcases List.mem_cons.mp hother with rfl | h
    · exact hline
    · exact hlines.single other h
  read := by rw [List.flatMap_cons, hread, hlines.read, List.singleton_append]

theorem Reads.nil : Reads [] [] := ⟨by simp, rfl⟩

variable {lines : List Text}

/-- Lines of which every one is a comment, blank or a setting without domains. -/
theorem Reads.silent (hsingle : ∀ line ∈ lines, '\n' ∉ line)
    (hhead : ∀ line ∈ lines, ∀ setting : Setting, line.head? ≠ some setting.initial) :
    Reads lines [] where
  single := hsingle
  read := List.flatMap_eq_nil_iff.mpr fun line hline => readLine_eq_nil (hhead line hline)

variable {emit : Text → List Text} {directives : Text → List Directive}

theorem Reads.flatMap {domains : List Text}
    (hemit : ∀ domain ∈ domains, Reads (emit domain) (directives domain)) :
    Reads (domains.flatMap emit) (domains.flatMap directives) := by
  induction domains with
  | nil => exact .nil
  | cons domain rest ih =>
      exact (hemit domain List.mem_cons_self).append
        (ih fun other hother => hemit other (List.mem_cons_of_mem domain hother))

theorem Reads.single_directive (setting : Setting) {value : Text} (hdomain : PlainDomain domain)
    (hvalue : '\n' ∉ value ∧ '/' ∉ value) {directives : List Directive}
    (hlines : Reads lines directives) :
    Reads ((setting.marker ++ domain ++ '/' :: value) :: lines)
      ({ setting, domain, value } :: directives) := by
  refine .cons ?_ (readLine_single setting hdomain.no_slash hvalue.2) hlines
  have hmarker : '\n' ∉ setting.marker := by cases setting <;> decide
  simp [hmarker, hdomain.no_newline, hvalue.1]

theorem reads_emitDnsmasqAllowDomain (hdomain : PlainDomain domain) :
    Reads (settings.emitDnsmasqAllowDomain domain) (allowDirectives settings domain) := by
  refine .single_directive .server hdomain (upstreamDns_plain settings) ?_
  split
  · exact .single_directive .ipset hdomain (allowSets_plain settings) .nil
  · exact .nil

theorem reads_dnsmasqDefaultSinkholeRules :
    Reads settings.dnsmasqDefaultSinkholeRules (sinkholeDirectives settings) := by
  have hroot : PlainDomain ['#'] := ⟨by decide, by decide⟩
  refine .single_directive .address hroot (settings.plain _ (by simp)) ?_
  split
  · exact .single_directive .address hroot (settings.plain _ (by simp)) .nil
  · exact .nil

theorem reads_validLines
    (hemit : ∀ domain, PlainDomain domain → Reads (emit domain) (directives domain))
    (domains : List Text) :
    Reads (validLines emit domains) (lineDirectives directives domains) := by
  refine .flatMap fun domain _ => ?_
  split
  · exact hemit _ (plainDomain_sanitizeDomain domain)
  · exact .nil

theorem Reads.optionalSection {domains : List Text} {title : Text} (htitle : '\n' ∉ title)
    (hhead : title.head? = some '#')
    (hemit : ∀ domain, PlainDomain domain → Reads (emit domain) (directives domain)) :
    Reads (optionalSection domains title (validLines emit domains))
      (lineDirectives directives domains) := by
  unfold Dnsmasq.optionalSection
  split
  · rename_i hempty
    rw [hempty]
    exact .nil
  · have hcomment : Reads [title] [] := by
      refine .silent (by simp [htitle]) fun line hline setting => ?_
      rw [List.mem_singleton.mp hline, hhead]
      cases setting <;> decide
    have hblank : Reads [[]] [] := .silent (by simp) (by simp)
    have hall := (hcomment.append (reads_validLines hemit domains)).append hblank
    simpa using hall

theorem newline_not_mem_countText (count : Nat) : '\n' ∉ countText count := by
  intro hmem
  have hdigit := Nat.isDigit_of_mem_toDigits (by decide) (by decide) hmem
  revert hdigit
  decide

theorem Reads.fixed
    (hlines : lines.all (fun line => !line.contains '\n' &&
      [Setting.server, .address, .ipset].all fun setting => line.head? != some setting.initial)) :
    Reads lines [] := by
  have hline := List.all_eq_true.mp hlines
  refine .silent (fun line hmem => ?_) fun line hmem setting => ?_
  · have hboth := hline line hmem
    simp_all
  · have hboth := (Bool.and_eq_true_iff.mp (hline line hmem)).2
    have hsetting := List.all_eq_true.mp hboth setting (by cases setting <;> simp)
    simpa using hsetting

theorem Reads.comment {text : Text} (hline : '\n' ∉ text) (hhead : text.head? = some '#') :
    Reads [text] [] := by
  refine .silent (by simp [hline]) fun line hmem setting => ?_
  rw [List.mem_singleton.mp hmem, hhead]
  cases setting <;> decide

theorem reads_baseLines : Reads settings.baseLines [] := by
  have rule : Reads ["# =============================================".toList] [] := by
    refine .fixed ?_
    rewrite [String.toList_ofList]
    decide
  have version : Reads ["# OpenPath - dnsmasq DNS Sinkhole v".toList ++ settings.version] [] :=
    .comment (by simp [settings.version_line]) rfl
  refine rule.append (version.append (.fixed ?_))
  repeat rewrite [String.toList_ofList]
  decide

theorem reads_whitelistLines (count : Nat) : Reads (whitelistLines count) [] := by
  have before : Reads [[], "# =============================================".toList] [] := by
    refine .fixed ?_
    rewrite [String.toList_ofList]
    decide
  have title : Reads ["# WHITELIST DOMAINS (".toList ++ countText count ++ " domains)".toList] [] :=
    .comment (by simp [newline_not_mem_countText]) rfl
  refine before.append (title.append (.fixed ?_))
  rewrite [String.toList_ofList]
  decide

section

variable (config : ControlPlaneConfig) (runtimeDependencyDomains : List Text) (policy : Sections)

/-- The lines of the configuration hold its directives and no others. -/
theorem reads_configLines :
    Reads
      (configLines settings (refreshOpenpathProtectedDomains config) runtimeDependencyDomains policy)
      (configDirectives settings config runtimeDependencyDomains policy) := by
  have hsystem := plainDomain_systemDomains config
  have protectedLines : Reads
      (((refreshOpenpathProtectedDomains config).filter (· ≠ [])).flatMap
        settings.emitDnsmasqAllowDomain)
      ((refreshOpenpathProtectedDomains config).flatMap (allowDirectives settings)) := by
    have hfilter : (refreshOpenpathProtectedDomains config).filter (· ≠ []) =
        refreshOpenpathProtectedDomains config := by
      refine List.filter_eq_self.mpr fun domain hdomain => ?_
      have hnil := (protectedList_refresh config).nil_not_mem
      simpa using fun h : domain = [] => hnil (h ▸ hdomain)
    rw [hfilter]
    exact .flatMap fun domain hdomain => reads_emitDnsmasqAllowDomain settings
      (hsystem domain (List.mem_append_left _ (List.mem_append_left _ hdomain)))
  have probeLines : Reads (captivePortalProbeDomains.flatMap settings.emitDnsmasqAllowDomain)
      (captivePortalProbeDomains.flatMap (allowDirectives settings)) :=
    .flatMap fun domain hdomain => reads_emitDnsmasqAllowDomain settings
      (hsystem domain (List.mem_append_left _ (List.mem_append_right _ hdomain)))
  have timeLines : Reads (ntpDomains.flatMap settings.emitDnsmasqAllowDomain)
      (ntpDomains.flatMap (allowDirectives settings)) :=
    .flatMap fun domain hdomain => reads_emitDnsmasqAllowDomain settings
      (hsystem domain (List.mem_append_right _ hdomain))
  have essential : Reads essentialLines [] := by
    refine .fixed ?_
    unfold essentialLines
    repeat rewrite [String.toList_ofList]
    decide
  have captive : Reads captivePortalLines [] := by
    refine .fixed ?_
    unfold captivePortalLines
    repeat rewrite [String.toList_ofList]
    decide
  have ntp : Reads ntpLines [] := by
    refine .fixed ?_
    unfold ntpLines
    repeat rewrite [String.toList_ofList]
    decide
  have blank : Reads [[]] [] := .fixed (by decide)
  have runtime : Reads
      (optionalSection runtimeDependencyDomains
        ("# Runtime dependency domains (".toList ++ countText runtimeDependencyDomains.length ++
          " domains)".toList)
        (validLines settings.emitDnsmasqAllowDomain runtimeDependencyDomains))
      (lineDirectives (allowDirectives settings) runtimeDependencyDomains) :=
    .optionalSection (by simp [newline_not_mem_countText]) rfl
      fun _ => reads_emitDnsmasqAllowDomain settings
  have blocked : Reads
      (optionalSection policy.blockedSubdomains "# Blocked subdomains (NXDOMAIN)".toList
        (validLines (fun domain => ["address=/".toList ++ domain ++ ['/']])
          policy.blockedSubdomains))
      (lineDirectives blockDirectives policy.blockedSubdomains) :=
    .optionalSection (by decide) rfl
      fun _ hdomain => .single_directive .address hdomain (by decide) .nil
  have all := (((((((((((((reads_baseLines settings).append
    (reads_dnsmasqDefaultSinkholeRules settings)).append essential).append protectedLines).append
    captive).append probeLines).append ntp).append timeLines).append
    (reads_whitelistLines policy.whitelist.length)).append
    (reads_validLines (fun _ => reads_emitDnsmasqAllowDomain settings) policy.whitelist)).append
    blank).append runtime).append blocked)
  simpa [configLines, configDirectives, systemDomains] using all

/-- Every directive of the configuration belongs to the sinkhole, to a domain of the
system or to one validated line. -/
theorem readDirectives_generateDnsmasqConfig :
    readDirectives (generateDnsmasqConfig settings config runtimeDependencyDomains policy) =
      configDirectives settings config runtimeDependencyDomains policy := by
  have hreads := reads_configLines settings config runtimeDependencyDomains policy
  rw [generateDnsmasqConfig, readDirectives_unlines hreads.single, hreads.read]

end

end Directives

end OpenPath.Linux.Dnsmasq
