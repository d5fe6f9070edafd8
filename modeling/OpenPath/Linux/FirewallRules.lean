/-
# The firewall rules of the agent

`activate_firewall` fills the OUTPUT chain rule by rule: some rules are fixed, others
come from catalogues that an administrator may replace, and some groups of them are
switched off by a flag or take another form where `ipset` or the owner match is
missing. A rule that iptables refuses is passed over; only for a critical rule the
activation fails in the end. `verify_firewall_rules` then reads the chain back, line by
line as `iptables -S` prints it.

What only goes to the log, the other chains and the sets are left out.
-/

import OpenPath.Linux.DnsmasqConfig

namespace OpenPath.Linux.Firewall

open Foundation Ascii

/-! ## Rules -/

inductive Protocol
  | tcp
  | udp
  | icmp
  | ipv6Icmp
  deriving DecidableEq

inductive Target
  | accept
  | drop
  | log (logPrefix : Text)
  | reject (rejectWith : Text)
  deriving DecidableEq

/-- A rule of an OUTPUT chain, with the matches that the agent uses. -/
structure Rule where
  destination : Option Text := none
  outInterface : Option Text := none
  protocol : Option Protocol := none
  destPort : Option Text := none
  icmpType : Option Text := none
  /-- `-m state --state ESTABLISHED,RELATED` -/
  established : Bool := false
  matchSet : Option Text := none
  uidOwner : Option Text := none
  /-- `-m limit --limit 5/min` -/
  limited : Bool := false
  target : Target
  deriving DecidableEq

/-! ## Packets -/

/-- What the matches see of a packet. -/
structure Packet where
  /-- The addresses and ranges that its destination is in. -/
  destination : Text → Bool
  outInterface : Text
  protocol : Protocol
  destPort : Nat
  icmpType : Text
  established : Bool
  /-- The sets that its destination is in. -/
  sets : Text → Bool
  uid : Text → Bool

/-- A port as iptables reads it: a leading zero makes it octal. -/
def portNumber (digits : Text) : Nat :=
  Nat.ofDigitChars (if digits.head? = some '0' then 8 else 10) digits 0

def portMatches (port : Nat) (pattern : Text) : Bool :=
  match pattern.splitOn ':' with
  | [single] => port = portNumber single
  | [first, last] => portNumber first ≤ port && port ≤ portNumber last
  | _ => false

/-- A pattern that ends in `+` stands for all interfaces with its beginning. -/
def interfaceMatches (name pattern : Text) : Bool :=
  if pattern.getLast? = some '+' then pattern.dropLast.isPrefixOf name else name = pattern

/-- A rule with a limit matches a packet as long as the limit is not used up. -/
def Rule.appliesTo (rule : Rule) (packet : Packet) : Bool :=
  rule.destination.all packet.destination &&
    rule.outInterface.all (interfaceMatches packet.outInterface) &&
    rule.protocol.all (· = packet.protocol) &&
    rule.destPort.all (portMatches packet.destPort) &&
    rule.icmpType.all (· = packet.icmpType) &&
    (!rule.established || packet.established) &&
    rule.matchSet.all packet.sets &&
    rule.uidOwner.all packet.uid

/-! ## Listings -/

def Protocol.listed : Protocol → Text
  | .tcp => "tcp".toList
  | .udp => "udp".toList
  | .icmp => "icmp".toList
  | .ipv6Icmp => "ipv6-icmp".toList

def quote : Char := Char.ofNat 34

def Target.listed : Target → Text
  | .accept => "ACCEPT".toList
  | .drop => "DROP".toList
  | .log logPrefix => "LOG --log-prefix ".toList ++ quote :: logPrefix ++ [quote]
  | .reject rejectWith => "REJECT --reject-with ".toList ++ rejectWith

/-- An address without a length is printed with one. -/
def listedDestination (destination : Text) : Text :=
  if '/' ∈ destination then destination else destination ++ "/32".toList

def listedOption (name : String) (value : Option Text) : Text :=
  match value with
  | none => []
  | some value => name.toList ++ value

def Rule.listedPort (rule : Rule) : Text :=
  match rule.protocol, rule.destPort with
  | some protocol, some port =>
      " -m ".toList ++ protocol.listed ++ " --dport ".toList ++ port
  | _, _ => []

/-- A line of `iptables -S OUTPUT`. -/
def Rule.listed (rule : Rule) : Text :=
  "-A OUTPUT".toList ++ listedOption " -d " (rule.destination.map listedDestination) ++
    listedOption " -o " rule.outInterface ++
    listedOption " -p " (rule.protocol.map Protocol.listed) ++ rule.listedPort ++
    listedOption " -m icmp --icmp-type " rule.icmpType ++
    (if rule.established then " -m state --state RELATED,ESTABLISHED".toList else []) ++
    (match rule.matchSet with
      | none => []
      | some set => " -m set --match-set ".toList ++ set ++ " dst".toList) ++
    listedOption " -m owner --uid-owner " rule.uidOwner ++
    (if rule.limited then " -m limit --limit 5/min".toList else []) ++
    " -j ".toList ++ rule.target.listed

/-! ## Settings -/

/-- `openpath_flag_enabled "${FLAG:-1}"` -/
def openpathFlagEnabled (flag : Text) : Bool :=
  !(["0".toList, "false".toList, "no".toList, "off".toList, "disabled".toList].contains
    (flag.map Char.toLower))

structure FirewallSettings where
  primaryDns : Text
  fallbackDnsPrimary : Text := []
  dohBlockEnabled : Text := []
  dohResolvers : Text := []
  vpnBlockEnabled : Text := []
  vpnBlockRules : Text := []
  vpnBlockInterfaces : Text := []
  torBlockEnabled : Text := []
  torBlockPorts : Text := []
  allowSetEgressEnabled : Text := []
  rfc1918Allow : Text := []
  rfc1918EgressMode : Text := []
  rfc1918AllowPorts : Text := []
  sinkholeFastFail : Text := []
  ipv6FirewallEnabled : Text := []
  sinkholeIpv4 : Text := "192.0.2.1".toList
  sinkholeIpv6 : Text := "100::".toList
  dohBlockIpset : Text := "openpath-doh-block".toList
  allowDstIpset : Text := "openpath-allow-dst".toList
  allowDstIpset6 : Text := "openpath-allow-dst6".toList
  /-- What `resolve_dnsmasq_uid` prints. -/
  dnsmasqUid : Text := []
  ipsetAvailable : Bool := true
  ip6tablesAvailable : Bool := true

/-- `${VARIABLE:-default}` -/
def orDefault (value : Text) (default : String) : Text :=
  if value = [] then default.toList else value

/-- `IFS=',' read -r -a items <<< "$raw"`, and each item without its blanks; what is empty is
skipped. -/
def catalogItems (raw : Text) : List Text :=
  ((raw.takeWhile (· ≠ '\n')).splitOn ',').map (·.filter fun c => !isSpace c) |>.filter (· ≠ [])

/-- Digits, and not outside of the ports where the shell can compare them. -/
def validPort (port : Text) : Bool :=
  port ≠ [] && port.all isDigit &&
    (2 ^ 63 ≤ Nat.ofDigitChars 10 port 0 ||
      (1 ≤ Nat.ofDigitChars 10 port 0 && Nat.ofDigitChars 10 port 0 ≤ 65535))

namespace FirewallSettings

variable (settings : FirewallSettings)

/-- `${FLAG:-1}` -/
def enabled (flag : Text) : Bool := openpathFlagEnabled (orDefault flag "1")

/-- `PRIMARY_DNS`, or its fallback where it is no address. -/
def upstream : Text :=
  if Dnsmasq.validateIp settings.primaryDns then settings.primaryDns
  else orDefault settings.fallbackDnsPrimary "8.8.8.8"

def allowSetEgressActive : Bool :=
  enabled settings.allowSetEgressEnabled && settings.ipsetAvailable

def ipv6FirewallActive : Bool :=
  enabled settings.ipv6FirewallEnabled && settings.ip6tablesAvailable

def ipv6AllowSetActive : Bool := settings.ipv6FirewallActive && settings.allowSetEgressActive

def sinkholeFastFailEnabled : Bool := enabled settings.sinkholeFastFail

end FirewallSettings

/-! ## Emission -/

inductive Severity
  | critical
  | important
  | optional
  deriving DecidableEq

/-- A rule that is offered to iptables. -/
structure Command where
  severity : Severity
  rule : Rule
  deriving DecidableEq

def critical (rule : Rule) : Command := ⟨.critical, rule⟩

def important (rule : Rule) : Command := ⟨.important, rule⟩

def optional (rule : Rule) : Command := ⟨.optional, rule⟩

def loopback : Rule := { outInterface := some "lo".toList, target := .accept }

def establishedAccept : Rule := { established := true, target := .accept }

def localhostDns (protocol : Protocol) : Rule :=
  { protocol := some protocol, destination := some "127.0.0.1".toList,
    destPort := some "53".toList, target := .accept }

def upstreamDns (upstream : Text) (uid : Option Text) (protocol : Protocol) : Rule :=
  { protocol := some protocol, destination := some upstream, destPort := some "53".toList,
    uidOwner := uid, target := .accept }

def dropPort (protocol : Protocol) (port : Text) : Rule :=
  { protocol := some protocol, destPort := some port, target := .drop }

def acceptPort (protocol : Protocol) (port : String) : Rule :=
  { protocol := some protocol, destPort := some port.toList, target := .accept }

def logDropped (logPrefix : String) : Rule :=
  { limited := true, target := .log logPrefix.toList }

def defaultDeny : Rule := { target := .drop }

section Emission

variable (settings : FirewallSettings)

/-- `^[A-Za-z0-9._-]{1,15}\+?$` -/
def interfacePattern : Re Char :=
  .cat ((Re.sat fun c => isAlphanumeric c || c = '.' || c = '_' || c = '-').between 1 15)
    (.opt (.lit '+'))

/-- `apply_vpn_interface_block_rules` -/
def vpnInterfaceBlockRules : List Command :=
  if FirewallSettings.enabled settings.vpnBlockEnabled then
    ((catalogItems (orDefault settings.vpnBlockInterfaces "tun+,tap+")).filter
      interfacePattern.accepts).map fun interface =>
        important { outInterface := some interface, target := .drop }
  else []

/-- `apply_upstream_dns_owner_rule`, and the rules without an owner where it fails. -/
def upstreamDnsRules (works : Rule → Bool) : List Command :=
  if settings.dnsmasqUid ≠ [] ∧
      works (upstreamDns settings.upstream (some settings.dnsmasqUid) .udp) then
    [important (upstreamDns settings.upstream (some settings.dnsmasqUid) .udp),
     important (upstreamDns settings.upstream (some settings.dnsmasqUid) .tcp)]
  else
    [critical (upstreamDns settings.upstream none .udp),
     critical (upstreamDns settings.upstream none .tcp)]

def dnsBlockRules : List Command :=
  [important
     { protocol := some .udp, destPort := some "53".toList, limited := true,
       target := .log "OPENPATH-DNS-DROP ".toList },
   important (dropPort .udp "53".toList),
   important (dropPort .tcp "53".toList),
   important (dropPort .tcp "853".toList)]

def defaultDohResolvers : String :=
  "8.8.8.8,8.8.4.4,1.1.1.1,1.0.0.1,9.9.9.9,149.112.112.112,208.67.222.222,208.67.220.220," ++
    "45.90.28.0,45.90.30.0,194.242.2.2,194.242.2.3,94.140.14.14,94.140.15.15,76.76.2.0,76.76.10.0"

/-- `apply_doh_block_rules` -/
def dohBlockRules : List Command :=
  if FirewallSettings.enabled settings.dohBlockEnabled then
    if settings.ipsetAvailable then
      [.tcp, .udp].map fun protocol =>
        important
          { dropPort protocol "443".toList with matchSet := some settings.dohBlockIpset }
    else
      ((catalogItems (orDefault settings.dohResolvers defaultDohResolvers)).filter
        Dnsmasq.validateIp).flatMap fun resolver =>
          [.tcp, .udp].map fun protocol =>
            important { dropPort protocol "443".toList with destination := some resolver }
  else []

def defaultVpnBlockRules : String :=
  "udp:1194:OpenVPN,tcp:1194:OpenVPN-TCP,udp:51820:WireGuard,tcp:1723:PPTP,udp:500:IKE," ++
    "udp:4500:IPSec-NAT"

/-- The protocol and the port of `protocol:port:name`. -/
def vpnRule? (entry : Text) : Option (Protocol × Text) :=
  let protocol := (entry.takeWhile (· ≠ ':')).map Char.toLower
  let port := ((entry.dropWhile (· ≠ ':')).drop 1).takeWhile (· ≠ ':')
  if validPort port then
    if protocol = "tcp".toList then some (.tcp, port)
    else if protocol = "udp".toList then some (.udp, port)
    else none
  else none

/-- `apply_vpn_port_block_rules` -/
def vpnPortBlockRules : List Command :=
  if FirewallSettings.enabled settings.vpnBlockEnabled then
    ((catalogItems (orDefault settings.vpnBlockRules defaultVpnBlockRules)).filterMap
      vpnRule?).map fun rule => important (dropPort rule.1 rule.2)
  else []

/-- `apply_tor_block_rules` -/
def torBlockRules : List Command :=
  if FirewallSettings.enabled settings.torBlockEnabled then
    ((catalogItems (orDefault settings.torBlockPorts "9001,9030,9050,9051,9150")).filter
      validPort).map fun port => important (dropPort .tcp port)
  else []

/-- A rule that is scoped to the set of the addresses that were resolved. -/
def toSet (set : Text) (rule : Rule) : Rule := { rule with matchSet := some set }

def acceptIcmp (protocol : Protocol) (icmpType : String) : Rule :=
  { protocol := some protocol, icmpType := some icmpType.toList, target := .accept }

/-- `apply_icmp_egress_rules` -/
def icmpEgressRules : List Command :=
  if settings.allowSetEgressActive then
    [optional (toSet settings.allowDstIpset (acceptIcmp .icmp "echo-request")),
     optional (acceptIcmp .icmp "destination-unreachable"),
     optional (acceptIcmp .icmp "time-exceeded"),
     optional (acceptIcmp .icmp "echo-reply")]
  else [optional { protocol := some .icmp, target := .accept }]

/-- `apply_http_egress_rules` -/
def httpEgressRules : List Command :=
  if settings.allowSetEgressActive then
    [important (toSet settings.allowDstIpset (acceptPort .tcp "80")),
     important (toSet settings.allowDstIpset (acceptPort .tcp "443"))]
  else [optional (acceptPort .tcp "80"), optional (acceptPort .tcp "443")]

/-- `apply_ntp_egress_rules` -/
def ntpEgressRules : List Command :=
  if settings.allowSetEgressActive then
    [important (toSet settings.allowDstIpset (acceptPort .udp "123"))]
  else [optional (acceptPort .udp "123")]

def acceptIntranet (range : Text) : Rule := { destination := some range, target := .accept }

/-- `apply_rfc1918_egress_rules` -/
def rfc1918EgressRules : List Command :=
  (catalogItems
      (orDefault settings.rfc1918Allow "10.0.0.0/8,172.16.0.0/12,192.168.0.0/16")).flatMap
    fun range =>
      if (orDefault settings.rfc1918EgressMode "all").map Char.toLower = "restricted".toList then
        ((catalogItems (orDefault settings.rfc1918AllowPorts "53,80,443")).filter
          validPort).flatMap fun port =>
            [.tcp, .udp].map fun protocol =>
              optional
                { acceptIntranet range with protocol := some protocol, destPort := some port }
      else [optional (acceptIntranet range)]

/-- A connection to the sinkhole is refused at once. -/
def sinkholeRules (sinkhole : Text) (udpReject : String) : List Command :=
  [optional
     { destination := some sinkhole, protocol := some .tcp, target := .reject "tcp-reset".toList },
   optional
     { destination := some sinkhole, protocol := some .udp, target := .reject udpReject.toList }]

/-- `apply_sinkhole_fast_fail_rules` -/
def sinkholeFastFailRules : List Command :=
  if settings.sinkholeFastFailEnabled then
    sinkholeRules settings.sinkholeIpv4 "icmp-port-unreachable"
  else []

/-- The rules that `activate_firewall` offers to the OUTPUT chain. -/
def outputCommands (works : Rule → Bool) : List Command :=
  [critical loopback] ++ vpnInterfaceBlockRules settings ++
    [critical establishedAccept, critical (localhostDns .udp), critical (localhostDns .tcp)] ++
    upstreamDnsRules settings works ++ dnsBlockRules ++ dohBlockRules settings ++
    vpnPortBlockRules settings ++ torBlockRules settings ++ icmpEgressRules settings ++
    [optional (acceptPort .udp "67:68")] ++ httpEgressRules settings ++
    ntpEgressRules settings ++ rfc1918EgressRules settings ++ sinkholeFastFailRules settings ++
    [optional (logDropped "OPENPATH-EGRESS-DROP "), critical defaultDeny]

/-! ## IPv6 -/

def icmpv6Types : List String :=
  ["destination-unreachable", "packet-too-big", "time-exceeded", "parameter-problem",
   "router-solicitation", "router-advertisement", "neighbour-solicitation",
   "neighbour-advertisement", "redirect"]

def echoRulesIpv6 : List Command :=
  if settings.ipv6AllowSetActive then
    [optional (toSet settings.allowDstIpset6 (acceptIcmp .ipv6Icmp "echo-request")),
     optional (acceptIcmp .ipv6Icmp "echo-reply")]
  else [optional (acceptIcmp .ipv6Icmp "echo-request")]

def webRulesIpv6 : List Command :=
  if settings.ipv6AllowSetActive then
    [important (toSet settings.allowDstIpset6 (acceptPort .tcp "80")),
     important (toSet settings.allowDstIpset6 (acceptPort .tcp "443")),
     important (toSet settings.allowDstIpset6 (acceptPort .udp "123"))]
  else [optional (acceptPort .tcp "80"), optional (acceptPort .tcp "443")]

/-- The rules that `apply_ipv6_firewall` offers to the OUTPUT chain of `ip6tables`. -/
def outputCommandsIpv6 : List Command :=
  if settings.ipv6FirewallActive then
    [critical loopback, critical establishedAccept] ++
      icmpv6Types.map (fun icmpType => optional (acceptIcmp .ipv6Icmp icmpType)) ++
      echoRulesIpv6 settings ++ [optional (acceptPort .udp "546:547")] ++
      [important (dropPort .udp "53".toList), important (dropPort .tcp "53".toList),
       important (dropPort .tcp "853".toList)] ++
      webRulesIpv6 settings ++
      (if settings.sinkholeFastFailEnabled then
        sinkholeRules settings.sinkholeIpv6 "icmp6-port-unreachable"
      else []) ++
      [optional (logDropped "OPENPATH-EGRESS6-DROP "), critical defaultDeny]
  else []

end Emission

/-! ## Verification -/

/-- `([[:space:]].*)?[[:space:]]` before a word of a rule. -/
def before (word : String) : Re Char :=
  .cat (.opt (.cat (.sat isSpace) .anything)) (.cat (.sat isSpace) (.word word.toList))

/-- `^-A OUTPUT` and the words, each after the others, up to the end of the line. -/
def linePattern (words : List (Re Char)) : Re Char :=
  .cat (.word "-A OUTPUT".toList) (.sequence words)

def loopbackPattern : Re Char := linePattern [before "-o lo", before "-j ACCEPT"]

def localhostDnsPattern : Re Char :=
  linePattern
    [before "-d 127.0.0.1", .opt (.word "/32".toList), before "--dport 53", before "-j ACCEPT"]

def dnsDropPattern : Re Char := linePattern [before "--dport 53", before "-j DROP"]

/-- `verify_firewall_rules` -/
def verifyFirewallRules (lines : List Text) : Bool :=
  lines.any loopbackPattern.accepts && lines.any localhostDnsPattern.accepts &&
    2 ≤ lines.countP dnsDropPattern.accepts && lines.contains "-A OUTPUT -j DROP".toList

/-! ## Activation -/

structure Activation where
  /-- The rules that this activation has appended to the OUTPUT chain. -/
  emitted : List Rule
  /-- The whole OUTPUT chain. -/
  chain : List Rule
  emittedIpv6 : List Rule
  succeeded : Bool

/-- `iptables -S OUTPUT` -/
def listing (policy : Text) (chain : List Rule) : List Text :=
  ("-P OUTPUT ".toList ++ policy) :: chain.map Rule.listed

def appended (works : Rule → Bool) (commands : List Command) : List Rule :=
  (commands.map Command.rule).filter works

/-- `activate_firewall`: `before` is what the flush has left of the chain. -/
def activateFirewall (settings : FirewallSettings) (works works6 : Rule → Bool) (policy : Text)
    (before : List Rule) : Activation where
  emitted := appended works (outputCommands settings works)
  chain := before ++ appended works (outputCommands settings works)
  emittedIpv6 := appended works6 (outputCommandsIpv6 settings)
  succeeded :=
    (outputCommands settings works).all
        (fun command => command.severity ≠ .critical || works command.rule) &&
      verifyFirewallRules
        (listing policy (before ++ appended works (outputCommands settings works)))

end OpenPath.Linux.Firewall
