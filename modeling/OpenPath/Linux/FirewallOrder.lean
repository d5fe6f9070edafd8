/-
# The order of the firewall rules

A packet meets the rules of a chain in their order, and the first one that decides
counts. A rule against a way around the policy works as far as no earlier rule accepts
the packet. The rules of the agent are in that order, but for what it has to let
through first: the loopback interface, connections that stand already, and the queries
of the resolver itself.
-/

import OpenPath.Linux.FirewallRules
import Mathlib.Data.List.Pairwise

namespace OpenPath.Linux.Firewall

open Foundation

/-! ## Precedence -/

/-- A rule that drops DNS, DoH, VPN or Tor traffic: every one that drops something, but
not everything. -/
def Rule.blocksBypass (rule : Rule) : Bool := rule.target = .drop && rule ≠ defaultDeny

/-- No packet meets both rules. -/
def Apart (first second : Rule) : Prop :=
  ∀ packet, ¬ (first.appliesTo packet = true ∧ second.appliesTo packet = true)

/-- An accepting rule comes before a blocking one only as an exception, or where no packet
meets both. -/
def Ordered (exempt : Rule → Rule → Prop) (earlier later : Rule) : Prop :=
  later.blocksBypass = true → earlier.target = .accept → exempt earlier later ∨ Apart earlier later

/-- Every blocking rule comes before every accepting rule that could match the same
packet, but for the exceptions. -/
def DropsFirst (exempt : Rule → Rule → Prop) (rules : List Rule) : Prop :=
  rules.Pairwise (Ordered exempt)

/-- What is accepted before anything is blocked but the interfaces of a VPN. -/
inductive Exempt (settings : FirewallSettings) : Rule → Rule → Prop
  | loopback (later : Rule) : Exempt settings loopback later
  | established (later : Rule) (hinterface : later.outInterface = none) :
      Exempt settings establishedAccept later
  | localhostDns (protocol : Protocol) (later : Rule) (hinterface : later.outInterface = none) :
      Exempt settings (localhostDns protocol) later
  | upstreamDns (uid : Option Text) (protocol : Protocol) (later : Rule)
      (hinterface : later.outInterface = none) :
      Exempt settings (upstreamDns settings.upstream uid protocol) later

/-- The same for IPv6, where no resolver listens. -/
inductive ExemptIpv6 : Rule → Rule → Prop
  | loopback (later : Rule) : ExemptIpv6 loopback later
  | established (later : Rule) : ExemptIpv6 establishedAccept later

section Order

variable {exempt : Rule → Rule → Prop} {earlier later : Rule}

theorem Ordered.of_not_accept (h : earlier.target ≠ .accept) : Ordered exempt earlier later :=
  fun _ haccept => absurd haccept h

theorem Ordered.of_not_blocks (h : later.blocksBypass = false) : Ordered exempt earlier later :=
  fun hblocks _ => absurd (h.symm.trans hblocks) Bool.false_ne_true

theorem Ordered.of_exempt (h : exempt earlier later) : Ordered exempt earlier later :=
  fun _ _ => Or.inl h

/-- A list of which the first part may come before everything, and the second part after
everything. -/
theorem DropsFirst.append {first second : List Rule}
    (hfirst : ∀ rule ∈ first, ∀ later, Ordered exempt rule later)
    (hsecond : DropsFirst exempt second) : DropsFirst exempt (first ++ second) := by
  refine List.pairwise_append.mpr ⟨?_, hsecond, fun rule hrule later _ => hfirst rule hrule later⟩
  exact List.pairwise_of_forall_mem_list fun rule hrule later _ => hfirst rule hrule later

theorem DropsFirst.of_not_blocks {rules : List Rule}
    (h : ∀ rule ∈ rules, rule.blocksBypass = false) : DropsFirst exempt rules :=
  List.pairwise_of_forall_mem_list fun _ _ later hlater => .of_not_blocks (h later hlater)

end Order

/-! ## The groups of rules -/

section Groups

variable (settings : FirewallSettings) (works : Rule → Bool)

theorem target_vpnInterfaceBlockRules :
    ∀ command ∈ vpnInterfaceBlockRules settings, command.rule.target = .drop := by
  rw [vpnInterfaceBlockRules]
  split
  · intro command hcommand
    obtain ⟨interface, -, rfl⟩ := List.mem_map.mp hcommand
    rfl
  · simp

/-- A rule that accepts nothing and holds for every interface. -/
def Rule.refuses (rule : Rule) : Prop := rule.target ≠ .accept ∧ rule.outInterface = none

theorem refuses_dropPort (protocol : Protocol) (port : Text) : (dropPort protocol port).refuses :=
  ⟨Target.noConfusion, rfl⟩

theorem refuses_dnsBlockRules : ∀ command ∈ dnsBlockRules, command.rule.refuses := by
  intro command hcommand
  simp only [dnsBlockRules, List.mem_cons, List.not_mem_nil, or_false] at hcommand
  rcases hcommand with rfl | rfl | rfl | rfl
  · exact ⟨Target.noConfusion, rfl⟩
  all_goals exact refuses_dropPort _ _

theorem refuses_dohBlockRules : ∀ command ∈ dohBlockRules settings, command.rule.refuses := by
  rw [dohBlockRules]
  split
  · split
    · intro command hcommand
      obtain ⟨protocol, -, rfl⟩ := List.mem_map.mp hcommand
      exact ⟨Target.noConfusion, rfl⟩
    · intro command hcommand
      obtain ⟨resolver, -, hcommand⟩ := List.mem_flatMap.mp hcommand
      obtain ⟨protocol, -, rfl⟩ := List.mem_map.mp hcommand
      exact ⟨Target.noConfusion, rfl⟩
  · simp

theorem refuses_vpnPortBlockRules :
    ∀ command ∈ vpnPortBlockRules settings, command.rule.refuses := by
  rw [vpnPortBlockRules]
  split
  · intro command hcommand
    obtain ⟨rule, -, rfl⟩ := List.mem_map.mp hcommand
    exact refuses_dropPort _ _
  · simp

theorem refuses_torBlockRules : ∀ command ∈ torBlockRules settings, command.rule.refuses := by
  rw [torBlockRules]
  split
  · intro command hcommand
    obtain ⟨port, -, rfl⟩ := List.mem_map.mp hcommand
    exact refuses_dropPort _ _
  · simp

/-- What stands against the ways around the policy. -/
def blockCommands : List Command :=
  dnsBlockRules ++ dohBlockRules settings ++ vpnPortBlockRules settings ++ torBlockRules settings

theorem refuses_blockCommands : ∀ command ∈ blockCommands settings, command.rule.refuses := by
  simp only [blockCommands, List.forall_mem_append]
  exact ⟨⟨⟨refuses_dnsBlockRules, refuses_dohBlockRules settings⟩,
    refuses_vpnPortBlockRules settings⟩, refuses_torBlockRules settings⟩

theorem target_icmpEgressRules :
    ∀ command ∈ icmpEgressRules settings, command.rule.target ≠ .drop := by
  rw [icmpEgressRules]
  split
  · simp [optional, toSet, acceptIcmp]
  · simp [optional]

theorem target_httpEgressRules :
    ∀ command ∈ httpEgressRules settings, command.rule.target ≠ .drop := by
  rw [httpEgressRules]
  split
  · simp [important, toSet, acceptPort]
  · simp [optional, acceptPort]

theorem target_ntpEgressRules :
    ∀ command ∈ ntpEgressRules settings, command.rule.target ≠ .drop := by
  rw [ntpEgressRules]
  split
  · simp [important, toSet, acceptPort]
  · simp [optional, acceptPort]

theorem target_rfc1918EgressRules :
    ∀ command ∈ rfc1918EgressRules settings, command.rule.target ≠ .drop := by
  intro command hcommand
  obtain ⟨range, -, hcommand⟩ := List.mem_flatMap.mp hcommand
  split at hcommand
  · obtain ⟨port, -, hcommand⟩ := List.mem_flatMap.mp hcommand
    obtain ⟨protocol, -, rfl⟩ := List.mem_map.mp hcommand
    exact Target.noConfusion
  · rw [List.mem_singleton.mp hcommand]
    exact Target.noConfusion

theorem target_sinkholeRules (sinkhole : Text) (udpReject : String) :
    ∀ command ∈ sinkholeRules sinkhole udpReject, command.rule.target ≠ .drop := by
  simp [sinkholeRules, optional]

theorem target_sinkholeFastFailRules :
    ∀ command ∈ sinkholeFastFailRules settings, command.rule.target ≠ .drop := by
  rw [sinkholeFastFailRules]
  split
  · exact target_sinkholeRules _ _
  · simp

/-- What is let through after that, and what happens to the rest. -/
def egressCommands : List Command :=
  icmpEgressRules settings ++ [optional (acceptPort .udp "67:68")] ++ httpEgressRules settings ++
    ntpEgressRules settings ++ rfc1918EgressRules settings ++ sinkholeFastFailRules settings ++
    [optional (logDropped "OPENPATH-EGRESS-DROP "), critical defaultDeny]

theorem blocksBypass_eq_false {rule : Rule} (h : rule.target ≠ .drop) :
    rule.blocksBypass = false := by
  simp [Rule.blocksBypass, h]

theorem blocksBypass_defaultDeny : defaultDeny.blocksBypass = false := by
  simp [Rule.blocksBypass]

theorem permits_egressCommands :
    ∀ command ∈ egressCommands settings, command.rule.blocksBypass = false := by
  have dhcp : ∀ command ∈ [optional (acceptPort .udp "67:68")], command.rule.target ≠ .drop := by
    simp [optional, acceptPort]
  have rest : ∀ command ∈ [optional (logDropped "OPENPATH-EGRESS-DROP "), critical defaultDeny],
      command.rule.blocksBypass = false := by
    intro command hcommand
    rcases List.mem_cons.mp hcommand with rfl | hcommand
    · rfl
    · rw [List.mem_singleton.mp hcommand]
      exact blocksBypass_defaultDeny
  have permits : ∀ {commands : List Command},
      (∀ command ∈ commands, command.rule.target ≠ .drop) →
        ∀ command ∈ commands, command.rule.blocksBypass = false :=
    fun h command hcommand => blocksBypass_eq_false (h command hcommand)
  simp only [egressCommands, List.forall_mem_append]
  exact ⟨⟨⟨⟨⟨⟨permits (target_icmpEgressRules settings), permits dhcp⟩,
    permits (target_httpEgressRules settings)⟩, permits (target_ntpEgressRules settings)⟩,
    permits (target_rfc1918EgressRules settings)⟩,
    permits (target_sinkholeFastFailRules settings)⟩, rest⟩

/-- What has to come first. -/
def exemptCommands : List Command :=
  [critical establishedAccept, critical (localhostDns .udp), critical (localhostDns .tcp)] ++
    upstreamDnsRules settings works

theorem exempt_exemptCommands {command : Command} (hcommand : command ∈ exemptCommands settings works) :
    command.rule.target = .accept ∧
      ∀ later : Rule, later.outInterface = none → Exempt settings command.rule later := by
  rcases List.mem_append.mp hcommand with hfixed | hupstream
  · simp only [List.mem_cons, List.not_mem_nil, or_false] at hfixed
    rcases hfixed with rfl | rfl | rfl
    · exact ⟨rfl, .established⟩
    · exact ⟨rfl, .localhostDns .udp⟩
    · exact ⟨rfl, .localhostDns .tcp⟩
  · rw [upstreamDnsRules] at hupstream
    split at hupstream
    all_goals
      simp only [List.mem_cons, List.not_mem_nil, or_false] at hupstream
      rcases hupstream with rfl | rfl
      · exact ⟨rfl, .upstreamDns _ .udp⟩
      · exact ⟨rfl, .upstreamDns _ .tcp⟩

theorem outputCommands_eq :
    outputCommands settings works =
      (critical loopback :: vpnInterfaceBlockRules settings) ++
        (exemptCommands settings works ++ (blockCommands settings ++ egressCommands settings)) := by
  simp [outputCommands, exemptCommands, blockCommands, egressCommands]

/-- Four groups of commands: the first may come before everything, the second before the
blocks, the third accepts nothing, and the last blocks nothing. -/
theorem dropsFirst_groups {exempt : Rule → Rule → Prop} {first accepts blocks last : List Command}
    (hfirst : ∀ command ∈ first, ∀ later, Ordered exempt command.rule later)
    (haccepts : ∀ command ∈ accepts, command.rule.target = .accept ∧
      ∀ block ∈ blocks, Ordered exempt command.rule block.rule)
    (hblocks : ∀ command ∈ blocks, command.rule.target ≠ .accept)
    (hlast : ∀ command ∈ last, command.rule.blocksBypass = false) :
    DropsFirst exempt ((first ++ (accepts ++ (blocks ++ last))).map Command.rule) := by
  have hend : DropsFirst exempt ((blocks ++ last).map Command.rule) := by
    rw [List.map_append]
    refine .append ?_ (.of_not_blocks ?_)
    · intro rule hrule later
      obtain ⟨command, hcommand, rfl⟩ := List.mem_map.mp hrule
      exact .of_not_accept (hblocks command hcommand)
    · intro rule hrule
      obtain ⟨command, hcommand, rfl⟩ := List.mem_map.mp hrule
      exact hlast command hcommand
  rw [List.map_append, List.map_append]
  refine .append ?_ (List.pairwise_append.mpr ⟨DropsFirst.of_not_blocks ?_, hend, ?_⟩)
  · intro rule hrule later
    obtain ⟨command, hcommand, rfl⟩ := List.mem_map.mp hrule
    exact hfirst command hcommand later
  · intro rule hrule
    obtain ⟨command, hcommand, rfl⟩ := List.mem_map.mp hrule
    refine blocksBypass_eq_false ?_
    rw [(haccepts command hcommand).1]
    exact Target.noConfusion
  · intro earlier hearlier later hlater
    obtain ⟨command, hcommand, rfl⟩ := List.mem_map.mp hearlier
    obtain ⟨other, hother, rfl⟩ := List.mem_map.mp hlater
    rcases List.mem_append.mp hother with hblock | hpermit
    · exact (haccepts command hcommand).2 other hblock
    · exact .of_not_blocks (hlast other hpermit)

theorem dropsFirst_outputCommands :
    DropsFirst (Exempt settings) ((outputCommands settings works).map Command.rule) := by
  have hblock := refuses_blockCommands settings
  rw [outputCommands_eq]
  refine dropsFirst_groups ?_ ?_ (fun command hcommand => (hblock command hcommand).1)
    (permits_egressCommands settings)
  · intro command hcommand later
    rcases List.mem_cons.mp hcommand with rfl | hcommand
    · exact .of_exempt (.loopback later)
    · refine .of_not_accept ?_
      rw [target_vpnInterfaceBlockRules settings command hcommand]
      exact Target.noConfusion
  · intro command hcommand
    obtain ⟨haccept, hexempt⟩ := exempt_exemptCommands settings works hcommand
    exact ⟨haccept, fun block hmem => .of_exempt (hexempt _ (hblock block hmem).2)⟩

end Groups

/-! ## IPv6 -/

section Ipv6

variable (settings : FirewallSettings) {rule : Rule} {packet : Packet}

theorem protocol_of_appliesTo {protocol : Protocol} (happlies : rule.appliesTo packet = true)
    (hprotocol : rule.protocol = some protocol) :
    protocol = packet.protocol := by
  simp only [Rule.appliesTo, hprotocol, Option.all_some, Bool.and_eq_true,
    decide_eq_true_eq] at happlies
  exact happlies.1.1.1.1.1.2

theorem destPort_of_appliesTo {port : Text} (happlies : rule.appliesTo packet = true)
    (hport : rule.destPort = some port) :
    portMatches packet.destPort port = true := by
  simp only [Rule.appliesTo, hport, Option.all_some, Bool.and_eq_true] at happlies
  exact happlies.1.1.1.1.2

theorem apart_of_protocol {first second : Rule} {one other : Protocol}
    (hfirst : first.protocol = some one) (hsecond : second.protocol = some other)
    (hne : one ≠ other) : Apart first second := by
  intro packet hboth
  have hone := protocol_of_appliesTo hboth.1 hfirst
  have hother := protocol_of_appliesTo hboth.2 hsecond
  exact hne (hone.trans hother.symm)

theorem apart_dhcp_dns : Apart (acceptPort .udp "546:547") (dropPort .udp "53".toList) := by
  intro packet hboth
  have hdhcp := destPort_of_appliesTo hboth.1 rfl
  have hdns := destPort_of_appliesTo hboth.2 rfl
  have hrange : portMatches packet.destPort "546:547".toList =
      (decide (546 ≤ packet.destPort) && decide (packet.destPort ≤ 547)) := rfl
  have hsingle : portMatches packet.destPort "53".toList = decide (packet.destPort = 53) := rfl
  rw [hrange, Bool.and_eq_true, decide_eq_true_eq] at hdhcp
  rw [hsingle, decide_eq_true_eq] at hdns
  omega

def dnsBlockRulesIpv6 : List Command :=
  [important (dropPort .udp "53".toList), important (dropPort .tcp "53".toList),
   important (dropPort .tcp "853".toList)]

/-- What comes before the queries are dropped: control messages, and DHCP. -/
def controlCommandsIpv6 : List Command :=
  icmpv6Types.map (fun icmpType => optional (acceptIcmp .ipv6Icmp icmpType)) ++
    echoRulesIpv6 settings ++ [optional (acceptPort .udp "546:547")]

variable {command : Command}

theorem echoRulesIpv6_icmp (hcommand : command ∈ echoRulesIpv6 settings) :
    command.rule.protocol = some .ipv6Icmp ∧ command.rule.target = .accept := by
  rw [echoRulesIpv6] at hcommand
  split at hcommand
  · rcases List.mem_cons.mp hcommand with rfl | hcommand
    · exact ⟨rfl, rfl⟩
    · rw [List.mem_singleton.mp hcommand]
      exact ⟨rfl, rfl⟩
  · rw [List.mem_singleton.mp hcommand]
    exact ⟨rfl, rfl⟩

theorem apart_controlCommandsIpv6 (hcommand : command ∈ controlCommandsIpv6 settings) :
    command.rule.target = .accept ∧
      ∀ block ∈ dnsBlockRulesIpv6, Apart command.rule block.rule := by
  have hicmp : command.rule.protocol = some .ipv6Icmp →
      ∀ block ∈ dnsBlockRulesIpv6, Apart command.rule block.rule := by
    intro hprotocol block hblock
    simp only [dnsBlockRulesIpv6, List.mem_cons, List.not_mem_nil, or_false] at hblock
    rcases hblock with rfl | rfl | rfl
    all_goals exact apart_of_protocol hprotocol rfl Protocol.noConfusion
  rcases List.mem_append.mp hcommand with hcommand | hdhcp
  · rcases List.mem_append.mp hcommand with htype | hecho
    · obtain ⟨icmpType, -, rfl⟩ := List.mem_map.mp htype
      exact ⟨rfl, hicmp rfl⟩
    · obtain ⟨hprotocol, htarget⟩ := echoRulesIpv6_icmp settings hecho
      exact ⟨htarget, hicmp hprotocol⟩
  · rw [List.mem_singleton.mp hdhcp]
    refine ⟨rfl, fun block hblock => ?_⟩
    simp only [dnsBlockRulesIpv6, List.mem_cons, List.not_mem_nil, or_false] at hblock
    rcases hblock with rfl | rfl | rfl
    · exact apart_dhcp_dns
    all_goals exact apart_of_protocol rfl rfl Protocol.noConfusion

/-- What is let through after that, and what happens to the rest. -/
def egressCommandsIpv6 : List Command :=
  webRulesIpv6 settings ++
    (if settings.sinkholeFastFailEnabled then
      sinkholeRules settings.sinkholeIpv6 "icmp6-port-unreachable"
    else []) ++
    [optional (logDropped "OPENPATH-EGRESS6-DROP "), critical defaultDeny]

theorem permits_egressCommandsIpv6 :
    ∀ command ∈ egressCommandsIpv6 settings, command.rule.blocksBypass = false := by
  have web : ∀ command ∈ webRulesIpv6 settings, command.rule.target ≠ .drop := by
    rw [webRulesIpv6]
    split
    · simp [important, toSet, acceptPort]
    · simp [optional, acceptPort]
  have sinkhole : ∀ command ∈ (if settings.sinkholeFastFailEnabled then
      sinkholeRules settings.sinkholeIpv6 "icmp6-port-unreachable" else []),
      command.rule.target ≠ .drop := by
    split
    · exact target_sinkholeRules _ _
    · simp
  intro command hcommand
  rcases List.mem_append.mp hcommand with hcommand | hlast
  · rcases List.mem_append.mp hcommand with hweb | hsinkhole
    · exact blocksBypass_eq_false (web command hweb)
    · exact blocksBypass_eq_false (sinkhole command hsinkhole)
  · rcases List.mem_cons.mp hlast with rfl | hlast
    · rfl
    · rw [List.mem_singleton.mp hlast]
      exact blocksBypass_defaultDeny

theorem dropsFirst_outputCommandsIpv6 :
    DropsFirst ExemptIpv6 ((outputCommandsIpv6 settings).map Command.rule) := by
  rw [outputCommandsIpv6]
  split
  · have hparts : [critical loopback, critical establishedAccept] ++
        icmpv6Types.map (fun icmpType => optional (acceptIcmp .ipv6Icmp icmpType)) ++
        echoRulesIpv6 settings ++ [optional (acceptPort .udp "546:547")] ++
        [important (dropPort .udp "53".toList), important (dropPort .tcp "53".toList),
         important (dropPort .tcp "853".toList)] ++
        webRulesIpv6 settings ++
        (if settings.sinkholeFastFailEnabled then
          sinkholeRules settings.sinkholeIpv6 "icmp6-port-unreachable"
        else []) ++
        [optional (logDropped "OPENPATH-EGRESS6-DROP "), critical defaultDeny] =
        [critical loopback, critical establishedAccept] ++
          (controlCommandsIpv6 settings ++ (dnsBlockRulesIpv6 ++ egressCommandsIpv6 settings)) := by
      simp only [controlCommandsIpv6, dnsBlockRulesIpv6, egressCommandsIpv6, List.append_assoc]
    rw [hparts]
    refine dropsFirst_groups ?_ ?_ ?_ (permits_egressCommandsIpv6 settings)
    · intro command hcommand later
      simp only [List.mem_cons, List.not_mem_nil, or_false] at hcommand
      rcases hcommand with rfl | rfl
      · exact .of_exempt (.loopback later)
      · exact .of_exempt (.established later)
    · intro command hcommand
      obtain ⟨haccept, hapart⟩ := apart_controlCommandsIpv6 settings hcommand
      exact ⟨haccept, fun block hblock _ _ => Or.inr (hapart block hblock)⟩
    · intro command hcommand
      simp only [dnsBlockRulesIpv6, List.mem_cons, List.not_mem_nil, or_false] at hcommand
      rcases hcommand with rfl | rfl | rfl
      all_goals exact Target.noConfusion
  · exact List.Pairwise.nil

end Ipv6

/-! ## Verification -/

/-- The rules that the verification looks for are enough for it. -/
theorem verifyFirewallRules_listing (policy : Text) {chain : List Rule}
    (hloopback : loopback ∈ chain) (hlocalhost : localhostDns .udp ∈ chain)
    (hdrops : List.Sublist [dropPort .udp "53".toList, dropPort .tcp "53".toList] chain)
    (hdeny : defaultDeny ∈ chain) : verifyFirewallRules (listing policy chain) = true := by
  have hlisted : ∀ rule ∈ chain, rule.listed ∈ listing policy chain :=
    fun rule hrule => List.mem_cons_of_mem _ (List.mem_map_of_mem hrule)
  have hone : (listing policy chain).any loopbackPattern.accepts = true :=
    List.any_eq_true.mpr ⟨_, hlisted _ hloopback, by decide⟩
  have htwo : (listing policy chain).any localhostDnsPattern.accepts = true :=
    List.any_eq_true.mpr ⟨_, hlisted _ hlocalhost, by decide +kernel⟩
  have hcount : 2 ≤ (listing policy chain).countP dnsDropPattern.accepts := by
    have hsub := ((hdrops.map Rule.listed).trans
      (List.sublist_cons_self ("-P OUTPUT ".toList ++ policy) _)).countP_le
        (p := dnsDropPattern.accepts)
    refine le_trans (le_of_eq ?_) hsub
    decide
  have hlast : (listing policy chain).contains "-A OUTPUT -j DROP".toList = true := by
    rw [List.contains_iff_mem]
    exact hlisted _ hdeny
  simp only [verifyFirewallRules, hone, htwo, hlast, hcount, Bool.and_true, decide_true]

/-- What an activation brings about. -/
structure Enforced (settings : FirewallSettings) (policy : Text) (activation : Activation) :
    Prop where
  order : DropsFirst (Exempt settings) activation.emitted
  orderIpv6 : DropsFirst ExemptIpv6 activation.emittedIpv6
  last : activation.succeeded = true → activation.chain.getLast? = some defaultDeny
  verified : activation.succeeded = true →
    verifyFirewallRules (listing policy activation.chain) = true

/-! ## Activation -/

section Activation

variable {settings : FirewallSettings} {works works6 : Rule → Bool} {policy : Text}
  {before : List Rule} {commands : List Command}

/-- Whatever iptables refuses, the rest is still in order. -/
theorem DropsFirst.appended {exempt : Rule → Rule → Prop}
    (h : DropsFirst exempt (commands.map Command.rule)) :
    DropsFirst exempt (Firewall.appended works commands) :=
  h.filter works

theorem appended_eq_map (h : ∀ command ∈ commands, works command.rule = true) :
    appended works commands = commands.map Command.rule := by
  refine List.filter_eq_self.mpr fun rule hrule => ?_
  obtain ⟨command, hcommand, rfl⟩ := List.mem_map.mp hrule
  exact h command hcommand

variable (settings works) in
/-- The rule that drops everything comes last. -/
theorem outputCommands_eq_concat :
    ∃ commands, outputCommands settings works = commands ++ [critical defaultDeny] := by
  refine ⟨[critical loopback] ++ vpnInterfaceBlockRules settings ++
    [critical establishedAccept, critical (localhostDns .udp), critical (localhostDns .tcp)] ++
    upstreamDnsRules settings works ++ dnsBlockRules ++ dohBlockRules settings ++
    vpnPortBlockRules settings ++ torBlockRules settings ++ icmpEgressRules settings ++
    [optional (acceptPort .udp "67:68")] ++ httpEgressRules settings ++
    ntpEgressRules settings ++ rfc1918EgressRules settings ++ sinkholeFastFailRules settings ++
    [optional (logDropped "OPENPATH-EGRESS-DROP ")], ?_⟩
  simp only [outputCommands, List.append_assoc, List.cons_append, List.nil_append]

theorem succeeded_activateFirewall :
    (activateFirewall settings works works6 policy before).succeeded = true ↔
      (∀ command ∈ outputCommands settings works,
        command.severity = .critical → works command.rule = true) ∧
      verifyFirewallRules
        (listing policy (activateFirewall settings works works6 policy before).chain) = true := by
  simp only [activateFirewall, Bool.and_eq_true, List.all_eq_true, Bool.or_eq_true,
    decide_eq_true_eq, ne_eq, ← imp_iff_not_or]

theorem getLast_chain
    (h : ∀ command ∈ outputCommands settings works,
      command.severity = .critical → works command.rule = true) :
    (activateFirewall settings works works6 policy before).chain.getLast? = some defaultDeny := by
  obtain ⟨commands, hcommands⟩ := outputCommands_eq_concat settings works
  have hdeny : works defaultDeny = true := by
    refine h (critical defaultDeny) ?_ rfl
    rw [hcommands]
    exact List.mem_append_right _ (List.mem_singleton_self _)
  have hchain : (activateFirewall settings works works6 policy before).chain =
      (before ++ (commands.map Command.rule).filter works) ++ [defaultDeny] := by
    rw [activateFirewall, appended, hcommands, List.map_append, List.filter_append,
      List.append_assoc]
    simp only [List.map_cons, List.map_nil, critical, List.filter_cons_of_pos hdeny,
      List.filter_nil]
  rw [hchain, List.getLast?_concat]

theorem mem_outputCommands_first :
    critical loopback ∈ outputCommands settings works ∧
      critical (localhostDns .udp) ∈ outputCommands settings works := by
  simp [outputCommands]

/-- The rules for DNS are offered together. -/
theorem sublist_outputCommands :
    List.Sublist [dropPort .udp "53".toList, dropPort .tcp "53".toList]
      ((outputCommands settings works).map Command.rule) := by
  have hblock : List.Sublist [dropPort .udp "53".toList, dropPort .tcp "53".toList]
      (dnsBlockRules.map Command.rule) := by
    decide
  have hpart : List.Sublist dnsBlockRules (outputCommands settings works) := by
    rw [outputCommands_eq, blockCommands]
    refine List.Sublist.trans ?_ (List.sublist_append_right _ _)
    refine List.Sublist.trans ?_ (List.sublist_append_right _ _)
    simp only [List.append_assoc]
    exact List.sublist_append_left _ _
  exact hblock.trans (hpart.map Command.rule)

theorem verifyFirewallRules_chain
    (h : ∀ command ∈ outputCommands settings works, works command.rule = true) :
    verifyFirewallRules
      (listing policy (activateFirewall settings works works6 policy before).chain) = true := by
  have hall : (activateFirewall settings works works6 policy before).chain =
      before ++ (outputCommands settings works).map Command.rule := by
    rw [activateFirewall, appended_eq_map h]
  obtain ⟨commands, hcommands⟩ := outputCommands_eq_concat settings works
  have hmem : ∀ command ∈ outputCommands settings works,
      command.rule ∈ before ++ (outputCommands settings works).map Command.rule :=
    fun command hcommand => List.mem_append_right _ (List.mem_map_of_mem hcommand)
  rw [hall]
  refine verifyFirewallRules_listing policy (hmem _ mem_outputCommands_first.1)
    (hmem _ mem_outputCommands_first.2)
    (sublist_outputCommands.trans (List.sublist_append_right _ _)) (hmem (critical defaultDeny) ?_)
  rw [hcommands]
  exact List.mem_append_right _ (List.mem_singleton_self _)

/-- Whatever is configured and whatever iptables refuses, a blocking rule comes after an
accepting one only as an exception or where no packet meets both; and an activation that
succeeds ends with the rule that drops all and passes the verification. It succeeds
whenever iptables takes all of the rules. -/
theorem activateFirewall_enforced (settings : FirewallSettings) (works works6 : Rule → Bool)
    (policy : Text) (before : List Rule) :
    Enforced settings policy (activateFirewall settings works works6 policy before) ∧
      ((∀ command ∈ outputCommands settings works, works command.rule = true) →
        (activateFirewall settings works works6 policy before).succeeded = true) := by
  constructor
  · constructor
    case order => exact (dropsFirst_outputCommands settings works).appended
    case orderIpv6 => exact (dropsFirst_outputCommandsIpv6 settings).appended
    case last =>
      intro hsucceeded
      exact getLast_chain (succeeded_activateFirewall.mp hsucceeded).1
    case verified =>
      intro hsucceeded
      exact (succeeded_activateFirewall.mp hsucceeded).2
  · intro h
    exact succeeded_activateFirewall.mpr
      ⟨fun command hcommand _ => h command hcommand, verifyFirewallRules_chain h⟩

/-- With the settings of an installation, and an iptables that takes all. -/
theorem activateFirewall_enforced_default :
    (activateFirewall { primaryDns := "192.168.1.1".toList } (fun _ => true) (fun _ => true)
      "ACCEPT".toList []).succeeded = true :=
  (activateFirewall_enforced _ _ _ _ _).2 fun _ _ => rfl

end Activation

/-! ## The exceptions -/

/-- A query of a program of the machine to its own resolver. -/
def localQuery : Packet where
  destination address := address = "127.0.0.1".toList
  outInterface := "lo".toList
  protocol := .udp
  destPort := 53
  icmpType := []
  established := false
  sets _ := false
  uid _ := false

/-- With the settings of an installation: the query to the resolver is accepted, and the rule
that drops all queries comes after that. -/
theorem localhostDns_before_drop :
    ¬ DropsFirst (fun _ _ => False)
      (activateFirewall { primaryDns := "192.168.1.1".toList } (fun _ => true) (fun _ => true)
        "ACCEPT".toList []).emitted := by
  intro h
  have hsub : List.Sublist [localhostDns .udp, dropPort .udp "53".toList]
      (activateFirewall { primaryDns := "192.168.1.1".toList } (fun _ => true) (fun _ => true)
        "ACCEPT".toList []).emitted := by
    decide
  have hpair := List.rel_of_pairwise_cons (h.sublist hsub) (List.mem_singleton_self _)
  rcases hpair (by decide) rfl with hfalse | hapart
  · exact hfalse
  · exact hapart localQuery (by decide)

end OpenPath.Linux.Firewall
