/-
# The captive portal mode

While a network wants its users to log in, the agent forwards every DNS query and
opens the firewall. `enter_portal_mode_locked` saves the DNS configuration, replaces
it with one that forwards everything and leaves a marker with a deadline;
`exit_portal_mode_locked` puts the saved configuration back and closes the firewall.

Both run under the lock of the agent, as a sequence of steps on files, on the service
and on the firewall. Most steps are followed by `|| true`: a step that fails is passed
over. What comes of a step is in its environment, with the readings of the clocks.
-/

import OpenPath.Linux.DnsmasqConfig

namespace OpenPath.Linux.CaptivePortal

open Foundation Dnsmasq

/-! ## Configurations -/

def portalHeader : Text := "# OPENPATH PORTAL MODE".toList

/-- `write_dnsmasq_passthrough_config` -/
def passthroughConfig (upstreamDns : Text) : Text :=
  unlines '\n'
    [portalHeader ++ " - DNS passthrough (temporary)".toList,
     "no-resolv".toList,
     "resolv-file=/run/dnsmasq/resolv.conf".toList,
     "listen-address=127.0.0.1".toList,
     "bind-interfaces".toList,
     "cache-size=1000".toList,
     "server=".toList ++ upstreamDns]

/-- `grep -q "^# OPENPATH PORTAL MODE"` -/
def isPortalConfig (content : Text) : Bool :=
  (lines '\n' content).any fun line => portalHeader.isPrefixOf line

/-- The file is there and is that of the portal mode. -/
def holdsPortalConfig (file : Option Text) : Bool := file.any isPortalConfig

/-! ## The machine -/

inductive FirewallMode
  | restrictive
  | permissive
  /-- A part of the rules is missing. -/
  | incomplete
  deriving DecidableEq

inductive Resolver
  | down
  /-- dnsmasq runs with the file as it was when it started. -/
  | serving (config : Option Text)
  deriving DecidableEq

/-- `captive-portal-active.state`, as far as its lines were written. -/
structure Marker where
  start : Option Nat := none
  expires : Option Nat := none
  monoStart : Option Nat := none
  deriving DecidableEq

/-- `captive-portal-observation.state` -/
structure Observation where
  portalCount : Nat
  authenticatedCount : Nat
  deriving DecidableEq

structure Host where
  /-- `$DNSMASQ_CONF` -/
  config : Option Text
  /-- `$CAPTIVE_DNSMASQ_BACKUP_FILE` -/
  backup : Option Text
  /-- `$DNSMASQ_CONF_HASH` -/
  configHash : Option Text
  running : Resolver
  firewall : FirewallMode
  /-- `$CAPTIVE_PORTAL_STATE_FILE` -/
  marker : Option Marker
  /-- `$CAPTIVE_PORTAL_OBSERVATION_FILE` -/
  observation : Observation
  deriving DecidableEq

/-- `date +%s` and `read_monotonic_seconds`, which may have nothing to read. -/
structure Clock where
  wall : Nat
  uptime : Option Nat
  deriving DecidableEq

structure Settings where
  /-- `CAPTIVE_PORTAL_TTL_SECONDS`, where it is a number. -/
  ttlSetting : Option Nat := none
  /-- `CAPTIVE_PORTAL_MAX_LIFETIME_SECONDS`, where it is a number. -/
  maxLifetimeSetting : Option Nat := none
  /-- `captive_portal_scoped_passthrough_enabled` -/
  scopedPassthrough : Bool := false

/-- A number of seconds that is at least one. -/
def positiveOr (fallback : Nat) : Option Nat → Nat
  | some seconds => if seconds < 1 then fallback else seconds
  | none => fallback

def Settings.ttl (settings : Settings) : Nat := positiveOr 120 settings.ttlSetting

def Settings.maxLifetime (settings : Settings) : Nat :=
  positiveOr 1800 settings.maxLifetimeSetting

/-! ## Steps -/

/-- What comes of a step. -/
inductive Chance
  | done
  /-- Nothing happens, and the command fails. -/
  | refused
  /-- A file is cut short; of other things, a part happens. -/
  | cut (length : Nat)
  /-- The service stops and does not come back. -/
  | down
  /-- The service is up again after the command has given up. -/
  | late
  deriving DecidableEq

/-- A file after `cp` or a redirection, which empties it first. -/
def Chance.written (chance : Chance) (file : Option Text) (content : Text) : Option Text :=
  match chance with
  | .refused => file
  | .cut length => some (content.take length)
  | _ => some content

/-- A file after `rm -f`. -/
def Chance.removed {File : Type} (chance : Chance) (file : Option File) : Option File :=
  if chance = .done then none else file

def activateFirewall (chance : Chance) (firewall : FirewallMode) : FirewallMode :=
  match chance with
  | .done => .restrictive
  | .refused => firewall
  | _ => .incomplete

def deactivateFirewall (chance : Chance) (firewall : FirewallMode) : FirewallMode :=
  match chance with
  | .done => .permissive
  | .refused => firewall
  | _ => .incomplete

/-- dnsmasq has read its file. -/
def Chance.loads : Chance → Bool
  | .done | .late => true
  | _ => false

def Host.restartDnsmasq (host : Host) (chance : Chance) : Host :=
  match chance with
  | .done | .late => { host with running := .serving host.config }
  | .refused => host
  | _ => { host with running := .down }

/-- The lines of the marker, of which the first ones are written. -/
def Marker.cut (marker : Marker) : Nat → Marker
  | 0 => {}
  | 1 => { start := marker.start }
  | 2 => { start := marker.start, expires := marker.expires }
  | _ => marker

/-- What `write_portal_mode_marker` writes. -/
def newMarker (settings : Settings) (clock : Clock) (startTs : Nat) (monoStart : Option Nat) :
    Marker where
  start := some startTs
  expires := some (min (clock.wall + settings.ttl) (startTs + settings.maxLifetime))
  monoStart := monoStart.or clock.uptime

def writePortalModeMarker (settings : Settings) (chance : Chance) (clock : Clock)
    (marker : Option Marker) (startTs : Nat) (monoStart : Option Nat) : Option Marker :=
  match chance with
  | .refused => marker
  | .cut length => some ((newMarker settings clock startTs monoStart).cut length)
  | _ => some (newMarker settings clock startTs monoStart)

/-- What a step finds: the upstream that `detect_primary_dns` and the check for a split
DNS have found, the clocks, and what comes of it. -/
structure Env where
  chance : Chance := .done
  clock : Clock := { wall := 0, uptime := none }
  upstream : Text := []

inductive EnterStep
  | backUp
  | writePassthrough
  | restart
  | restore
  | restartRestored
  | relax
  | mark
  deriving DecidableEq

/-- A step of `enter_portal_mode_locked`, with what comes after it. -/
def EnterStep.run (settings : Settings) (env : Env) (host : Host) :
    EnterStep → Host × Option EnterStep
  | .backUp =>
      match host.config with
      | none => (host, some .writePassthrough)
      | some content =>
          ({ host with backup := env.chance.written host.backup content }, some .writePassthrough)
  | .writePassthrough =>
      if env.upstream = [] then (host, some .restart)
      else
        ({ host with config := env.chance.written host.config (passthroughConfig env.upstream) },
          some .restart)
  | .restart =>
      if env.chance = .done then (host.restartDnsmasq env.chance, some .relax)
      else if host.backup.isSome then (host.restartDnsmasq env.chance, some .restore)
      else (host.restartDnsmasq env.chance, some .relax)
  | .restore =>
      match host.backup with
      | none => (host, some .restartRestored)
      | some content =>
          ({ host with config := env.chance.written host.config content }, some .restartRestored)
  | .restartRestored => (host.restartDnsmasq env.chance, some .relax)
  | .relax =>
      if settings.scopedPassthrough then
        ({ host with firewall := activateFirewall env.chance host.firewall }, some .mark)
      else ({ host with firewall := deactivateFirewall env.chance host.firewall }, some .mark)
  | .mark =>
      ({ host with
          marker := writePortalModeMarker settings env.chance env.clock host.marker env.clock.wall
            none }, none)

inductive ExitStep
  | restore
  | restart
  | dropBackup
  | dropMarker
  | resetObservation
  | activate
  deriving DecidableEq

/-- A step of `exit_portal_mode_locked`, with what comes after it. -/
def ExitStep.run (env : Env) (host : Host) : ExitStep → Host × Option ExitStep
  | .restore =>
      match host.backup with
      | none => (host, some .dropBackup)
      | some content =>
          if holdsPortalConfig host.config then
            ({ host with config := env.chance.written host.config content }, some .restart)
          else (host, some .dropBackup)
  | .restart => (host.restartDnsmasq env.chance, some .dropBackup)
  | .dropBackup => ({ host with backup := env.chance.removed host.backup }, some .dropMarker)
  | .dropMarker => ({ host with marker := env.chance.removed host.marker }, some .resetObservation)
  | .resetObservation =>
      if env.chance = .refused then (host, some .activate)
      else ({ host with observation := ⟨0, 0⟩ }, some .activate)
  | .activate => ({ host with firewall := activateFirewall env.chance host.firewall }, none)

/-! ## The header -/

theorem isPortalConfig_passthroughConfig (upstreamDns : Text) :
    isPortalConfig (passthroughConfig upstreamDns) = true := by
  rw [isPortalConfig, passthroughConfig, unlines_cons,
    lines_append (by decide : '\n' ∉ portalHeader ++ " - DNS passthrough (temporary)".toList),
    List.any_cons]
  have hheader : portalHeader.isPrefixOf
      (portalHeader ++ " - DNS passthrough (temporary)".toList) = true :=
    List.isPrefixOf_iff_prefix.mpr (List.prefix_append _ _)
  rw [hheader, Bool.true_or]

/-- What is left of a configuration that was cut short has the header only if the
whole has it. -/
theorem isPortalConfig_take {content : Text} (hcontent : isPortalConfig content = false)
    (length : Nat) : isPortalConfig (content.take length) = false := by
  rw [isPortalConfig, List.any_eq_false] at hcontent ⊢
  intro line hline hheader
  obtain ⟨whole, hwhole, hcut⟩ := exists_line_of_prefix (List.take_prefix length content) hline
  have hprefix := (List.isPrefixOf_iff_prefix.mp hheader).trans hcut
  exact hcontent whole hwhole (List.isPrefixOf_iff_prefix.mpr hprefix)

/-- Lines of which none is the header. -/
def Unmarked (lines : List Text) : Prop :=
  ∀ line ∈ lines, portalHeader.isPrefixOf line = false

namespace Unmarked

theorem append {first second : List Text} (hfirst : Unmarked first) (hsecond : Unmarked second) :
    Unmarked (first ++ second) := by
  intro line hline
  rcases List.mem_append.mp hline with h | h
  · exact hfirst line h
  · exact hsecond line h

theorem flatMap {emit : Text → List Text} (hemit : ∀ domain, Unmarked (emit domain))
    (domains : List Text) : Unmarked (domains.flatMap emit) := by
  intro line hline
  obtain ⟨domain, -, hline⟩ := List.mem_flatMap.mp hline
  exact hemit domain line hline

theorem fixed {lines : List Text}
    (hlines : lines.all (fun line => !portalHeader.isPrefixOf line) = true) : Unmarked lines := by
  intro line hline
  simpa using List.all_eq_true.mp hlines line hline

theorem start {line rest : Text} (hlength : 4 ≤ line.length)
    (hdiffers : line.take 4 ≠ portalHeader.take 4) : Unmarked [line ++ rest] := by
  intro other hother
  rw [List.mem_singleton.mp hother, Bool.eq_false_iff]
  intro hheader
  obtain ⟨others, hothers⟩ := List.isPrefixOf_iff_prefix.mp hheader
  apply hdiffers
  rw [← List.take_append_of_le_length hlength, ← hothers,
    List.take_append_of_le_length (by decide)]

theorem setting {line : Text} (hhead : line.head? ≠ some '#') : Unmarked [line] := by
  intro other hother
  rw [List.mem_singleton.mp hother, Bool.eq_false_iff]
  intro hheader
  obtain ⟨rest, rfl⟩ := List.isPrefixOf_iff_prefix.mp hheader
  exact hhead rfl

end Unmarked

theorem unmarked_emitDnsmasqAllowDomain (settings : DnsmasqSettings) (domain : Text) :
    Unmarked (settings.emitDnsmasqAllowDomain domain) := by
  have hserver : Unmarked ["server=/".toList ++ domain ++ '/' :: settings.upstreamDns] :=
    .setting (by simp)
  have hipset : Unmarked ["ipset=/".toList ++ domain ++ '/' :: settings.allowSets] :=
    .setting (by simp)
  rw [DnsmasqSettings.emitDnsmasqAllowDomain]
  split
  · exact hserver.append hipset
  · exact hserver

theorem unmarked_validLines {emit : Text → List Text} (hemit : ∀ domain, Unmarked (emit domain))
    (domains : List Text) : Unmarked (validLines emit domains) := by
  refine .flatMap (fun domain => ?_) domains
  split
  · exact hemit _
  · exact .fixed rfl

theorem unmarked_optionalSection {title : Text} {lines : List Text} (htitle : Unmarked [title])
    (hlines : Unmarked lines) (domains : List Text) :
    Unmarked (optionalSection domains title lines) := by
  rw [optionalSection]
  split
  · exact .fixed rfl
  · exact htitle.append (hlines.append (.fixed (by decide)))

theorem unmarked_configLines (settings : DnsmasqSettings)
    (protectedDomains runtimeDependencyDomains : List Text) (policy : Policy.Sections) :
    Unmarked (configLines settings protectedDomains runtimeDependencyDomains policy) := by
  have allow := unmarked_emitDnsmasqAllowDomain settings
  have rule : Unmarked ["# =============================================".toList] := by
    refine .fixed ?_
    rewrite [String.toList_ofList]
    decide
  have version : Unmarked ["# OpenPath - dnsmasq DNS Sinkhole v".toList ++ settings.version] :=
    .start (by decide) (by decide)
  have base : Unmarked settings.baseLines := by
    refine rule.append (version.append (.fixed ?_))
    repeat rewrite [String.toList_ofList]
    decide
  have sinkhole : Unmarked settings.dnsmasqDefaultSinkholeRules := by
    have hsinkhole : ∀ value : Text, Unmarked ["address=/".toList ++ ['#'] ++ '/' :: value] :=
      fun value => .setting (by simp)
    rw [DnsmasqSettings.dnsmasqDefaultSinkholeRules]
    split
    · exact (hsinkhole _).append (hsinkhole _)
    · exact hsinkhole _
  have counted : ∀ count, Unmarked (whitelistLines count) := by
    intro count
    have title : Unmarked ["# WHITELIST DOMAINS (".toList ++ countText count ++ " domains)".toList] := by
      rw [List.append_assoc]
      exact .start (by decide) (by decide)
    have before : Unmarked [[], "# =============================================".toList] := by
      refine .fixed ?_
      rewrite [String.toList_ofList]
      decide
    exact before.append (title.append rule)
  have runtime : Unmarked
      (optionalSection runtimeDependencyDomains
        ("# Runtime dependency domains (".toList ++ countText runtimeDependencyDomains.length ++
          " domains)".toList)
        (validLines settings.emitDnsmasqAllowDomain runtimeDependencyDomains)) := by
    refine unmarked_optionalSection ?_ (unmarked_validLines allow _) _
    rw [List.append_assoc]
    exact .start (by decide) (by decide)
  have blocked : Unmarked
      (optionalSection policy.blockedSubdomains "# Blocked subdomains (NXDOMAIN)".toList
        (validLines (fun domain => ["address=/".toList ++ domain ++ ['/']])
          policy.blockedSubdomains)) := by
    refine unmarked_optionalSection (.fixed (by decide)) (unmarked_validLines ?_ _) _
    exact fun domain => .setting (by simp)
  have essential : Unmarked essentialLines := by
    refine .fixed ?_
    unfold essentialLines
    repeat rewrite [String.toList_ofList]
    decide
  have captive : Unmarked captivePortalLines := by
    refine .fixed ?_
    unfold captivePortalLines
    repeat rewrite [String.toList_ofList]
    decide
  have ntp : Unmarked ntpLines := by
    refine .fixed ?_
    unfold ntpLines
    repeat rewrite [String.toList_ofList]
    decide
  have blank : Unmarked [[]] := .fixed (by decide)
  exact (((((((((((base.append sinkhole).append essential).append (.flatMap allow _)).append
    captive).append (.flatMap allow _)).append ntp).append (.flatMap allow _)).append
    (counted _)).append (unmarked_validLines allow _)).append blank).append runtime).append blocked

/-- A generated configuration is not that of the portal mode. -/
theorem isPortalConfig_generateDnsmasqConfig (settings : DnsmasqSettings)
    (config : ControlPlaneConfig) (runtimeDependencyDomains : List Text)
    (policy : Policy.Sections) :
    isPortalConfig (generateDnsmasqConfig settings config runtimeDependencyDomains policy) =
      false := by
  have hreads := reads_configLines settings config runtimeDependencyDomains policy
  have hunmarked := unmarked_configLines settings (refreshOpenpathProtectedDomains config)
    runtimeDependencyDomains policy
  rw [isPortalConfig, generateDnsmasqConfig, lines_unlines hreads.single, List.any_eq_false]
  intro line hline
  rw [hunmarked line hline]
  exact Bool.false_ne_true

end OpenPath.Linux.CaptivePortal
