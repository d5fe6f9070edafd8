/-
# What the recovery queue opens

A recovery request of the queue names hosts, and those that the allow-list lets through
are rendered in limited mode. They stay in the marker, from which later passes of the
queue and later cycles of the watchdog take them again.

The allow-list matches a host under any of its names, also under a host by which a portal
is detected. As long as no request names such a host, a name that a run opens in limited
mode is permitted by the configuration, and the other names that are open do not depend
on the queue.
-/

import OpenPath.Foundation.Transition
import OpenPath.Windows.CaptivePortalHosts

namespace OpenPath.Windows.CaptivePortal

open Acrylic DotNet
open Foundation (stripPrefix)
open OpenPath.Foundation (TransitionSystem)

/-! ## Names that a recovery host opens -/

/-- The recovery host stands for the name. -/
def Opened (entries : List Text) (host name : Text) : Prop :=
  name.map Char.toUpper = host.map Char.toUpper ∨ isInclusive entries host = true ∧ Under host name

section Opened

variable {entries history hosts : List Text} {host name domain : Text}

theorem mem_of_mem_foldl_addDistinct {found domains : List Text}
    (hdomain : domain ∈ domains.foldl addDistinct found) : domain ∈ found ∨ domain ∈ domains := by
  induction domains generalizing found with
  | nil => exact Or.inl hdomain
  | cons first rest ih =>
      rcases ih hdomain with hfound | hrest
      · rw [addDistinct] at hfound
        split at hfound
        · exact Or.inl hfound
        · rcases List.mem_append.mp hfound with hfound | hfirst
          · exact Or.inl hfound
          · exact Or.inr (List.mem_singleton.mp hfirst ▸ List.mem_cons_self)
      · exact Or.inr (List.mem_cons_of_mem _ hrest)

section

variable (hhost : IsClean host)
include hhost

/-- Nothing is cut from a clean host at its end. -/
theorem IsClean.rdrop_eq : (trim host).rdropWhile (· == '.') = host := by
  rw [hhost.trim_eq]
  refine Foundation.rdropWhile_eq_self_of_getLast fun c hc => ?_
  rw [beq_eq_false_iff_ne]
  rintro rfl
  exact (getLast_of_isAllowedForm hhost.2).2 hc

theorem IsClean.head_ne : host.head? ≠ some '*' := by
  intro hhead
  have hstar := hhost.chars '*' (List.mem_of_mem_head? hhead)
  exact absurd hstar (by decide)

theorem IsClean.affinityName_eq : affinityName host = host := by
  rw [affinityName, hhost.rdrop_eq]
  refine Foundation.stripPrefix_of_not_prefix fun hstar => hhost.head_ne ?_
  exact Foundation.head?_of_isPrefix hstar '*' rfl

theorem IsClean.noCapital : NoCapital host := by
  rw [← hhost.1]
  exact noCapital_cleanHost host

/-- A recovery host that stands for the names under it is configured. -/
theorem mem_configuredNames_of_isInclusive (hinclusive : isInclusive entries host = true) :
    host ∈ configuredNames entries := by
  rw [isInclusive, hhost.rdrop_eq, containsIgnoreCase, List.any_eq_true] at hinclusive
  obtain ⟨_, hmem, hequal⟩ := hinclusive
  rw [inclusiveDomains, List.mem_filter, List.mem_map] at hmem
  obtain ⟨⟨domain, hdomain, rfl⟩, -⟩ := hmem
  have hcapital : NoCapital ((trim domain).rdropWhile (· == '.')) := by
    intro c hc
    obtain ⟨⟨entry, -, hlower⟩, -⟩ := mem_getConfiguredDomains.mp hdomain
    have hmem : c ∈ domain := mem_of_mem_trim ((List.rdropWhile_prefix _ _).mem hc)
    rw [← hlower.2] at hmem
    exact noCapital_toLowerInvariant _ c hmem
  have hsame := (equalsIgnoreCase_iff hhost.noCapital hcapital).mp hequal
  have hclean : cleanHost domain = host := by
    rw [cleanHost, ← hsame, ← hhost.1, toLowerInvariant_cleanHost]
  exact mem_configuredNames.mpr (mem_getAllowedHosts.mpr ⟨⟨domain, hdomain, hclean⟩, hhost.2⟩)

end

theorem IsPermitted.congr (hpermitted : IsPermitted history host)
    (hname : name.map Char.toUpper = host.map Char.toUpper) : IsPermitted history name := by
  simpa only [IsPermitted, Under, hname] using hpermitted

theorem isPermitted_of_opened (hsubset : entries ⊆ history) (hhost : IsClean host)
    (hpermitted : IsPermitted history host) (hname : Opened entries host name) :
    IsPermitted history name := by
  rcases hname with hname | ⟨hinclusive, hunder⟩
  · exact hpermitted.congr hname
  · exact Or.inl ⟨host, configuredNames_subset hsubset
      (mem_configuredNames_of_isInclusive hhost hinclusive), hunder⟩

variable {line : HostsLine}

/-- The rules of a domain without blocked subdomains name the domain. -/
theorem mem_getAcrylicForwardRules_nil (hline : line ∈ getAcrylicForwardRules domain []) :
    line = .forward (.host (trim domain)) ∨ line = .forward (.tree (trim domain)) ∨
      line = .comment (.tree (trim domain)) ∨ ∃ ip, line = .address ip (trim domain) := by
  have hblocked : blockedDescendants (trim domain) [] = [] := rfl
  unfold getAcrylicForwardRules at hline
  by_cases hdomain : trim domain = []
  · simp [hdomain] at hline
  · cases haddress : resolveSslipIpv4Address (trim domain) with
    | none =>
        simp only [hdomain, haddress, hblocked, if_true, if_false, List.mem_cons,
          List.not_mem_nil, or_false] at hline
        exact hline.imp_right Or.inl
    | some ip =>
        simp only [hdomain, haddress, hblocked, if_true, if_false, List.mem_cons,
          List.not_mem_nil, or_false] at hline
        rcases hline with rfl | rfl
        · exact Or.inr (Or.inr (Or.inr ⟨ip, rfl⟩))
        · exact Or.inr (Or.inr (Or.inl rfl))

section

variable (hhost : IsClean host)
include hhost

theorem mem_recoveryRules (hline : .hosts line ∈ recoveryRules entries host) :
    line = .forward (.host host) ∨
      isInclusive entries host = true ∧ (line = .forward (.tree host) ∨
        line = .comment (.tree host) ∨ ∃ ip, line = .address ip host) := by
  rw [recoveryRules] at hline
  split at hline
  · rename_i hinclusive
    obtain ⟨domain, hdomain, hline⟩ := hosts_mem_forwardRules.mp hline
    rw [List.mem_singleton.mp hdomain] at hline
    have hrule := mem_getAcrylicForwardRules_nil hline
    rw [hhost.trim_eq] at hrule
    exact hrule.imp_right fun hrest => ⟨hinclusive, hrest⟩
  · left
    rw [exactRules, List.mem_map] at hline
    obtain ⟨domain, hdomain, hrule⟩ := hline
    rw [List.mem_filter, List.map_singleton, List.mem_singleton, hhost.trim_eq] at hdomain
    rw [← DefinitionRule.hosts.inj hrule, hdomain.1]

theorem opened_of_forward {rule : ForwardRule}
    (hrule : .hosts (.forward rule) ∈ recoveryRules entries host) (hmatches : rule.Matches name) :
    Opened entries host name := by
  rcases mem_recoveryRules hhost hrule with hline | ⟨hinclusive, hline | hline | ⟨ip, hline⟩⟩
  · rw [HostsLine.forward.inj hline] at hmatches
    exact Or.inl hmatches
  · rw [HostsLine.forward.inj hline] at hmatches
    exact Or.inr ⟨hinclusive, hmatches⟩
  · cases hline
  · cases hline

theorem opened_of_address {ip : Text}
    (hrule : .hosts (.address ip domain) ∈ recoveryRules entries host)
    (hname : name.map Char.toUpper = domain.map Char.toUpper) : Opened entries host name := by
  rcases mem_recoveryRules hhost hrule with hline | ⟨-, hline | hline | ⟨_, hline⟩⟩
  · cases hline
  · cases hline
  · cases hline
  · rw [(HostsLine.address.inj hline).2] at hname
    exact Or.inl hname

theorem IsClean.mask_iff :
    MaskMatches host name ↔ name.map Char.toUpper = host.map Char.toUpper := by
  unfold MaskMatches
  split
  · exact absurd rfl hhost.head_ne
  · exact Iff.rfl

end

theorem opened_of_mask {entry : Text} (hclean : ∀ host ∈ hosts, IsClean host)
    (hentry : entry ∈ getAcrylicExactAffinityMaskEntries (hosts.filter (!isInclusive entries ·)) ++
      getAcrylicAffinityMaskEntries (hosts.filter (isInclusive entries ·)) [])
    (hmatches : MaskMatches entry name) : ∃ host ∈ hosts, Opened entries host name := by
  rcases List.mem_append.mp hentry with hentry | hentry
  · obtain ⟨hmap, -⟩ := List.mem_filter.mp
      ((mem_of_mem_foldl_addDistinct hentry).resolve_left List.not_mem_nil)
    obtain ⟨host, hhost, rfl⟩ := List.mem_map.mp hmap
    have hmem := List.mem_of_mem_filter hhost
    rw [(hclean host hmem).affinityName_eq, (hclean host hmem).mask_iff] at hmatches
    exact ⟨host, hmem, Or.inl hmatches⟩
  · obtain ⟨_, hmap, hentry⟩ := List.mem_flatMap.mp
      ((mem_of_mem_foldl_addDistinct hentry).resolve_left List.not_mem_nil)
    obtain ⟨host, hhost, rfl⟩ := List.mem_map.mp (List.mem_of_mem_filter hmap)
    obtain ⟨hmem, hinclusive⟩ := List.mem_filter.mp hhost
    rw [(hclean host hmem).affinityName_eq] at hentry
    refine ⟨host, hmem, ?_⟩
    rcases List.mem_cons.mp hentry with rfl | hstar
    · exact Or.inl ((hclean _ hmem).mask_iff.mp hmatches)
    · rw [List.mem_singleton.mp hstar] at hmatches
      exact Or.inr ⟨hinclusive, Or.inr hmatches⟩

/-- Outside the allow-list, limited mode opens what it opens without recovery hosts. -/
theorem opensLimited_iff (configHosts : List Text) (hsubset : entries ⊆ history)
    (hclean : ∀ host ∈ hosts, IsClean host) (hpermitted : ∀ host ∈ hosts, IsPermitted history host)
    (hname : ¬ IsPermitted history name) :
    OpensLimited configHosts entries hosts name ↔ OpensLimited configHosts [] [] name := by
  have hclosed : ¬ ∃ host ∈ hosts, Opened entries host name := by
    rintro ⟨host, hhost, hopened⟩
    exact hname (isPermitted_of_opened hsubset (hclean host hhost) (hpermitted host hhost) hopened)
  have haddressed : Addressed (limitedRules configHosts entries hosts) name ↔
      Addressed (limitedRules configHosts [] []) name := by
    simp only [Addressed, limitedRules, List.flatMap_nil, List.append_nil, List.mem_append]
    refine ⟨?_, fun ⟨ip, domain, hrule, hequal⟩ => ⟨ip, domain, Or.inl hrule, hequal⟩⟩
    rintro ⟨ip, domain, hrule | hrule, hequal⟩
    · exact ⟨ip, domain, hrule, hequal⟩
    · obtain ⟨host, hhost, hrule⟩ := List.mem_flatMap.mp hrule
      exact absurd ⟨host, hhost, opened_of_address (hclean host hhost) hrule hequal⟩ hclosed
  have hforwards : Forwards (hostsLines (limitedRules configHosts entries hosts)) name ↔
      Forwards (hostsLines (limitedRules configHosts [] [])) name := by
    simp only [Forwards, mem_hostsLines, limitedRules, List.flatMap_nil, List.append_nil,
      List.mem_append]
    refine ⟨?_, fun ⟨rule, hrule, hmatches⟩ => ⟨rule, Or.inl hrule, hmatches⟩⟩
    rintro ⟨rule, hrule | hrule, hmatches⟩
    · exact ⟨rule, hrule, hmatches⟩
    · obtain ⟨host, hhost, hrule⟩ := List.mem_flatMap.mp hrule
      exact absurd ⟨host, hhost, opened_of_forward (hclean host hhost) hrule hmatches⟩ hclosed
  have hmask : (∃ entry ∈ limitedMask entries hosts, MaskMatches entry name) ↔
      ∃ entry ∈ limitedMask [] [], MaskMatches entry name := by
    have hempty : limitedMask [] [] =
        (getAcrylicExactAffinityMaskEntries captivePortalProbeDomains).eraseDups := rfl
    rw [hempty, limitedMask]
    simp only [List.mem_eraseDups]
    constructor
    · rintro ⟨entry, hentry, hmatches⟩
      rcases List.mem_append.mp hentry with hentry | hentry
      · exact absurd (opened_of_mask hclean hentry hmatches) hclosed
      · exact ⟨entry, hentry, hmatches⟩
    · rintro ⟨entry, hentry, hmatches⟩
      exact ⟨entry, List.mem_append_right _ hentry, hmatches⟩
  rw [OpensLimited, OpensLimited, haddressed, hforwards, hmask]

end Opened

/-! ## Runs -/

/-- What enabling reads of the configuration. -/
structure Config where
  /-- The hosts of the configured addresses. -/
  configHosts : List Text
  /-- The entries of `captivePortalDomains`. -/
  entries : List Text
  deriving DecidableEq

/-- A definition of the limited mode that was written. -/
structure Limited where
  config : Config
  hosts : List Text

def Limited.Opens (limited : Limited) (name : Text) : Prop :=
  OpensLimited limited.config.configHosts limited.config.entries limited.hosts name

/-- The configuration, the hosts in the marker, and what has been seen of both: every entry
that was configured and every definition that was written. -/
structure Portal where
  config : Config
  markerHosts : List Text
  configured : List Text
  written : List Limited

/-- How far enabling gets. -/
inductive Extent
  /-- Nothing is written. -/
  | refused
  /-- Only a marker without hosts is written, that of the passthrough mode. -/
  | passthrough
  /-- The definition is written, and the marker is not. -/
  | unmarked
  /-- The definition and the marker are written, also where the mode is not ready and the
  definition is taken back. -/
  | marked
  deriving DecidableEq

/-- What a request or a cycle does when it enables the mode: whether it reads the marker, and
how far it gets. -/
structure Attempt where
  readsMarker : Bool
  extent : Extent
  deriving DecidableEq

/-- The hosts that `Enable-OpenPathCaptivePortalMode` is left with. -/
def enabledHosts (entries existing requested : List Text) : List Text :=
  getAllowedHosts (existing ++ getAllowedHosts (requested ++ getConfiguredDomains entries) ++
    getConfiguredDomains entries)

/-- The hosts of the marker, where it is read. -/
def Portal.existingHosts (portal : Portal) (attempt : Attempt) : List Text :=
  if attempt.readsMarker then portal.markerHosts else []

def Portal.write (portal : Portal) (hosts : List Text) : Portal :=
  { portal with written := portal.written ++ [{ config := portal.config, hosts }] }

/-- `Enable-OpenPathCaptivePortalMode` -/
def Portal.enable (portal : Portal) (requested : List Text) (attempt : Attempt) : Portal :=
  let entries := portal.config.entries
  let hosts := enabledHosts entries (portal.existingHosts attempt) requested
  if getAllowedHosts (requested ++ getConfiguredDomains entries) = [] ∨ hosts = [] then
    -- Without recovery hosts only the passthrough mode is left, unless a marker keeps its hosts.
    if attempt.extent = .refused then portal else { portal with markerHosts := [] }
  else
    match attempt.extent with
    | .refused => portal
    | .passthrough => { portal with markerHosts := [] }
    | .unmarked => portal.write hosts
    | .marked => { portal.write hosts with markerHosts := hosts }

/-- The hosts of a request, as texts. -/
structure Request where
  triggerHost : Text
  portalRecoveryHosts : List Text

/-- `$portalRecoveryHostCandidates` -/
def Request.candidates (request : Request) : List Text :=
  request.triggerHost :: request.portalRecoveryHosts

/-- A request of the queue that finds a portal. -/
def Portal.recover (portal : Portal) (request : Request) (attempt : Attempt) : Portal :=
  portal.enable
    (selectAllowedRecoveryHosts request.candidates (recoveryHostAllowlist portal.config.entries))
    attempt

inductive Event
  /-- The configuration is changed. -/
  | configure (config : Config)
  /-- A pass over the queue. A request that finds no portal, that is stale or that is answered
  from an earlier result has no attempt. -/
  | pass (requests : List (Request × Option Attempt))
  /-- A cycle of the watchdog that enables the mode, with the hosts of the marker or without. -/
  | cycle (keepsHosts : Bool) (attempt : Attempt)
  /-- The mode is disabled, and the marker removed. -/
  | disable

def Portal.answer (portal : Portal) (asked : Request × Option Attempt) : Portal :=
  match asked.2 with
  | none => portal
  | some attempt => portal.recover asked.1 attempt

def Portal.step (portal : Portal) : Event → Portal
  | .configure config =>
      { portal with config, configured := portal.configured ++ config.entries }
  | .pass requests => requests.foldl Portal.answer portal
  | .cycle keepsHosts attempt =>
      portal.enable (if keepsHosts then portal.markerHosts else []) attempt
  | .disable => { portal with markerHosts := [] }

/-- Before there was a portal. -/
def Portal.Initial (portal : Portal) : Prop :=
  portal.markerHosts = [] ∧ portal.written = [] ∧ portal.configured = portal.config.entries

def portalRuns : TransitionSystem Portal Event :=
  .ofFunction Portal.Initial Portal.step

/-! ## What a run opens -/

/-- The request names no host under a host of the detection that is not permitted itself. -/
def Request.Harmless (entries : List Text) (request : Request) : Prop :=
  ∀ host ∈ getAllowedHosts request.candidates,
    (∃ detection ∈ detectionHosts, Under detection host) → IsPermitted entries host

/-- So it is with the requests of the event that enable the mode. -/
def Event.Harmless (portal : Portal) : Event → Prop
  | .pass requests => ∀ asked ∈ requests, asked.2 ≠ none →
      asked.1.Harmless portal.config.entries
  | _ => True

/-- A host that may be rendered, whenever it was configured. -/
def Safe (configured : List Text) (host : Text) : Prop :=
  IsClean host ∧ IsPermitted configured host

/-- Every host in the marker and in a written definition is safe. -/
structure Portal.Sound (portal : Portal) : Prop where
  current : portal.config.entries ⊆ portal.configured
  marker : ∀ host ∈ portal.markerHosts, Safe portal.configured host
  entries : ∀ limited ∈ portal.written, limited.config.entries ⊆ portal.configured
  written : ∀ limited ∈ portal.written, ∀ host ∈ limited.hosts, Safe portal.configured host

section Steps

variable {entries configured hosts : List Text} {host : Text} {portal : Portal}

theorem safe_of_configured (hsubset : entries ⊆ configured)
    (hhost : host ∈ getAllowedHosts (getConfiguredDomains entries)) : Safe configured host := by
  have hclean := isClean_of_configured hhost
  refine ⟨hclean, Or.inl ⟨host, ?_, Or.inl rfl⟩⟩
  exact configuredNames_subset hsubset (mem_configuredNames.mpr hhost)

theorem safe_getAllowedHosts (hsafe : ∀ host ∈ hosts, Safe configured host) :
    ∀ host ∈ getAllowedHosts hosts, Safe configured host := fun host hhost =>
  hsafe host ((mem_getAllowedHosts_of_clean fun host hmem => (hsafe host hmem).1).mp hhost)

variable {requested : List Text}

/-- Enabling adds the configured domains to hosts that are safe. -/
theorem safe_enabledHosts {existing : List Text} (hsubset : entries ⊆ configured)
    (hexisting : ∀ host ∈ existing, Safe configured host)
    (hrequested : ∀ host ∈ requested, Safe configured host) :
    ∀ host ∈ enabledHosts entries existing requested, Safe configured host := by
  intro host hhost
  have hallowed : ∀ host ∈ getAllowedHosts (requested ++ getConfiguredDomains entries),
      Safe configured host := by
    intro host hhost
    rcases mem_getAllowedHosts_append.mp hhost with hhost | hhost
    · exact safe_getAllowedHosts hrequested host hhost
    · exact safe_of_configured hsubset hhost
  rcases mem_getAllowedHosts_append.mp hhost with hhost | hhost
  · rcases mem_getAllowedHosts_append.mp hhost with hhost | hhost
    · exact safe_getAllowedHosts hexisting host hhost
    · exact safe_getAllowedHosts hallowed host hhost
  · exact safe_of_configured hsubset hhost

variable {request : Request}

/-- The selection passes only permitted hosts, if and only if the request is harmless. -/
theorem isPermitted_selected_iff :
    (∀ host ∈ selectAllowedRecoveryHosts request.candidates (recoveryHostAllowlist entries),
      IsPermitted entries host) ↔ request.Harmless entries := by
  simp only [mem_selectAllowedRecoveryHosts]
  constructor
  · rintro hall host hhost ⟨detection, hdetection, hunder⟩
    exact hall host ⟨hhost, detection, List.mem_append_right _ hdetection, hunder⟩
  · rintro hharmless host ⟨hhost, name, hname, hunder⟩
    rcases List.mem_append.mp hname with hname | hname
    · exact Or.inl ⟨name, hname, hunder⟩
    · exact hharmless host hhost ⟨name, hname, hunder⟩

theorem isClean_selected
    (hhost : host ∈ selectAllowedRecoveryHosts request.candidates (recoveryHostAllowlist entries)) :
    IsClean host := by
  obtain ⟨hhost, name, hname, hunder⟩ := mem_selectAllowedRecoveryHosts.mp hhost
  rcases List.mem_append.mp hname with hname | hname
  · exact (isClean_configuredNames hname).of_under hhost hunder
  · exact (isClean_detectionHosts name hname).of_under hhost hunder

theorem Portal.Sound.forget (hsound : portal.Sound) :
    Portal.Sound { portal with markerHosts := [] } :=
  { hsound with marker := fun _ hhost => absurd hhost List.not_mem_nil }

/-- Another definition is written, and perhaps the marker. -/
theorem Portal.Sound.write (hsound : portal.Sound)
    (hhosts : ∀ host ∈ hosts, Safe portal.configured host) :
    (portal.write hosts).Sound where
  current := hsound.current
  marker := hsound.marker
  entries := by
    intro limited hlimited
    rcases List.mem_append.mp hlimited with hlimited | hlimited
    · exact hsound.entries limited hlimited
    · rw [List.mem_singleton.mp hlimited]
      exact hsound.current
  written := by
    intro limited hlimited
    rcases List.mem_append.mp hlimited with hlimited | hlimited
    · exact hsound.written limited hlimited
    · rw [List.mem_singleton.mp hlimited]
      exact hhosts

theorem Portal.Sound.enable (hsound : portal.Sound)
    (hrequested : ∀ host ∈ requested, Safe portal.configured host) (attempt : Attempt) :
    (portal.enable requested attempt).Sound := by
  have hexisting : ∀ host ∈ portal.existingHosts attempt, Safe portal.configured host := by
    intro host hhost
    rw [Portal.existingHosts] at hhost
    split at hhost
    · exact hsound.marker host hhost
    · cases hhost
  have hhosts := safe_enabledHosts hsound.current hexisting hrequested
  unfold Portal.enable
  dsimp only
  split
  · split
    · exact hsound
    · exact hsound.forget
  · cases attempt.extent with
    | refused => exact hsound
    | passthrough => exact hsound.forget
    | unmarked => exact hsound.write hhosts
    | marked => exact { hsound.write hhosts with marker := hhosts }

/-- Enabling changes nothing of the configuration. -/
theorem Portal.enable_keeps (portal : Portal) (requested : List Text) (attempt : Attempt) :
    (portal.enable requested attempt).config = portal.config ∧
      (portal.enable requested attempt).configured = portal.configured := by
  unfold Portal.enable
  dsimp only
  split
  · split
    · exact ⟨rfl, rfl⟩
    · exact ⟨rfl, rfl⟩
  · cases attempt.extent with
    | refused => exact ⟨rfl, rfl⟩
    | passthrough => exact ⟨rfl, rfl⟩
    | unmarked => exact ⟨rfl, rfl⟩
    | marked => exact ⟨rfl, rfl⟩

theorem Portal.config_answer (portal : Portal) (asked : Request × Option Attempt) :
    (portal.answer asked).config = portal.config := by
  unfold Portal.answer
  split
  · rfl
  · exact (Portal.enable_keeps _ _ _).1

theorem Portal.Sound.answer {asked : Request × Option Attempt} (hsound : portal.Sound)
    (hharmless : asked.2 ≠ none → asked.1.Harmless portal.config.entries) :
    (portal.answer asked).Sound := by
  unfold Portal.answer
  cases hasked : asked.2 with
  | none => exact hsound
  | some attempt =>
      refine hsound.enable (fun host hhost => ⟨isClean_selected hhost, ?_⟩) attempt
      exact (isPermitted_selected_iff.mpr (hharmless (by simp [hasked])) host hhost).mono
        hsound.current

/-- A pass over the queue, whatever it holds. -/
theorem Portal.Sound.pass {requests : List (Request × Option Attempt)} (hsound : portal.Sound)
    (hharmless : ∀ asked ∈ requests, asked.2 ≠ none → asked.1.Harmless portal.config.entries) :
    (requests.foldl Portal.answer portal).Sound := by
  induction requests generalizing portal with
  | nil => exact hsound
  | cons asked requests ih =>
      obtain ⟨hfirst, hrest⟩ := List.forall_mem_cons.mp hharmless
      refine ih (hsound.answer hfirst) ?_
      rw [Portal.config_answer]
      exact hrest

/-- What is permitted stays permitted when the configuration changes. -/
theorem Portal.Sound.configure (hsound : portal.Sound) (config : Config) :
    Portal.Sound { portal with config, configured := portal.configured ++ config.entries } where
  current := List.subset_append_right _ _
  marker := fun host hhost =>
    (hsound.marker host hhost).imp_right (·.mono (List.subset_append_left _ _))
  entries := fun limited hlimited =>
    List.subset_append_of_subset_left _ (hsound.entries limited hlimited)
  written := fun limited hlimited host hhost =>
    (hsound.written limited hlimited host hhost).imp_right (·.mono (List.subset_append_left _ _))

theorem Portal.Sound.step {event : Event} (hsound : portal.Sound)
    (hharmless : event.Harmless portal) : (portal.step event).Sound := by
  cases event with
  | configure config => exact hsound.configure config
  | pass requests => exact hsound.pass hharmless
  | cycle keepsHosts attempt =>
      refine hsound.enable (fun host hhost => ?_) attempt
      split at hhost
      · exact hsound.marker host hhost
      · cases hhost
  | disable => exact hsound.forget

theorem sound_of_reachable
    (hrun : portalRuns.ReachableBy (fun portal event => event.Harmless portal) portal) :
    portal.Sound := by
  refine hrun.invariant ?_ ?_
  · rintro start ⟨hmarker, hwritten, hconfigured⟩
    refine ⟨?_, ?_, ?_, ?_⟩
    · rw [hconfigured]
      exact List.Subset.refl _
    · simp [hmarker]
    · simp [hwritten]
    · simp [hwritten]
  · rintro source event target hsound hharmless rfl
    exact hsound.step hharmless

end Steps

/-- In runs without a request for a host under a host of the detection, what is rendered in
limited mode is permitted, and two of them open the same names beside. -/
theorem limited_mode_opens_permitted {first second : Portal}
    (hfirst : portalRuns.ReachableBy (fun portal event => event.Harmless portal) first)
    (hsecond : portalRuns.ReachableBy (fun portal event => event.Harmless portal) second) :
    (∀ limited ∈ first.written, ∀ host ∈ limited.hosts, IsPermitted first.configured host) ∧
      ∀ limited ∈ first.written, ∀ other ∈ second.written,
        limited.config.configHosts = other.config.configHosts →
        ∀ name, ¬ IsPermitted first.configured name → ¬ IsPermitted second.configured name →
          (limited.Opens name ↔ other.Opens name) := by
  have hopens : ∀ {portal : Portal}, portal.Sound → ∀ limited ∈ portal.written,
      ∀ name, ¬ IsPermitted portal.configured name →
        (limited.Opens name ↔ OpensLimited limited.config.configHosts [] [] name) :=
    fun hsound limited hlimited name hname =>
      opensLimited_iff _ (hsound.entries limited hlimited)
        (fun host hhost => (hsound.written limited hlimited host hhost).1)
        (fun host hhost => (hsound.written limited hlimited host hhost).2) hname
  have hsound := sound_of_reachable hfirst
  have hother := sound_of_reachable hsecond
  refine ⟨fun limited hlimited host hhost => (hsound.written limited hlimited host hhost).2, ?_⟩
  intro limited hlimited other hmem hsame name hname hname'
  rw [hopens hsound limited hlimited name hname, hopens hother other hmem name hname', hsame]

/-- A machine before it has been in limited mode. -/
def freshPortal (entries : List Text) : Portal where
  config := { configHosts := ["api.example.net".toList], entries }
  markerHosts := []
  configured := entries
  written := []

/-- A pass with one request that enables the mode. -/
def passFor (triggerHost : String) : Event :=
  .pass [({ triggerHost := triggerHost.toList, portalRecoveryHosts := [] },
    some { readsMarker := true, extent := .marked })]

theorem step_passFor (portal : Portal) (triggerHost : String) :
    portal.step (passFor triggerHost) =
      portal.enable (selectAllowedRecoveryHosts [triggerHost.toList]
        (recoveryHostAllowlist portal.config.entries))
        { readsMarker := true, extent := .marked } := by
  simp only [passFor, Portal.step, List.foldl_cons, List.foldl_nil, Portal.answer,
    Portal.recover, Request.candidates]

theorem freshPortal_initial (entries : List Text) : portalRuns.init (freshPortal entries) :=
  ⟨rfl, rfl, rfl⟩

/-- A requested host is rendered where enabling gets to its end. -/
theorem rendered_of_requested {portal : Portal} {requested : List Text} {attempt : Attempt}
    {host : Text} (hhost : host ∈ requested) (hclean : IsClean host)
    (hextent : attempt.extent = .marked) :
    ∃ limited ∈ (portal.enable requested attempt).written,
      limited.config = portal.config ∧ host ∈ limited.hosts := by
  have hread : ∀ {hosts : List Text}, host ∈ hosts → host ∈ getAllowedHosts hosts := fun hmem =>
    mem_getAllowedHosts.mpr ⟨⟨host, hmem, hclean.1⟩, hclean.2⟩
  have hallowed := hread (List.mem_append_left (getConfiguredDomains portal.config.entries) hhost)
  have hmem : host ∈ enabledHosts portal.config.entries (portal.existingHosts attempt) requested :=
    hread (List.mem_append_left _ (List.mem_append_right _ hallowed))
  refine ⟨⟨portal.config, enabledHosts portal.config.entries (portal.existingHosts attempt)
    requested⟩, ?_, rfl, hmem⟩
  unfold Portal.enable
  rw [if_neg (not_or.mpr ⟨List.ne_nil_of_mem hallowed, List.ne_nil_of_mem hmem⟩), hextent]
  exact List.mem_append_right _ List.mem_cons_self

/-- A host under a name of the allow-list is rendered by the pass for it. -/
theorem rendered_passFor {entries : List Text} {triggerHost : String} {name : Text}
    (hclean : IsClean triggerHost.toList) (hname : name ∈ configuredNames entries ++ detectionHosts)
    (hunder : Under name triggerHost.toList) :
    ∃ limited ∈ ((freshPortal entries).step (passFor triggerHost)).written,
      limited.config = (freshPortal entries).config ∧ triggerHost.toList ∈ limited.hosts := by
  rw [step_passFor]
  refine rendered_of_requested (mem_selectAllowedRecoveryHosts.mpr ⟨?_, name, hname, hunder⟩)
    hclean rfl
  exact mem_getAllowedHosts.mpr ⟨⟨_, List.mem_cons_self, hclean.1⟩, hclean.2⟩

theorem reachableBy_passFor (entries : List Text) {triggerHost : String}
    (hread : getAllowedHosts [triggerHost.toList] = [triggerHost.toList])
    (hnone : ¬ ∃ detection ∈ detectionHosts, Under detection triggerHost.toList) :
    portalRuns.ReachableBy (fun portal event => event.Harmless portal)
      ((freshPortal entries).step (passFor triggerHost)) := by
  have hharmless : (passFor triggerHost).Harmless (freshPortal entries) := by
    rintro asked hasked -
    rw [List.mem_singleton.mp hasked]
    intro host hhost hdetection
    rw [Request.candidates, hread, List.mem_singleton] at hhost
    rw [hhost] at hdetection
    exact absurd hdetection hnone
  exact .step (.start (freshPortal_initial entries)) hharmless rfl

/-- Requests for names under the configured portals of two machines. -/
theorem limited_mode_opens_login :
    ∃ limited ∈ ((freshPortal ["portal.example.org".toList]).step
        (passFor "login.portal.example.org")).written,
      ∃ other ∈ ((freshPortal ["hotel.example.com".toList]).step
        (passFor "wifi.hotel.example.com")).written,
      "login.portal.example.org".toList ∈ limited.hosts ∧
        "wifi.hotel.example.com".toList ∈ other.hosts ∧
        (∀ host ∈ limited.hosts, IsPermitted ((freshPortal ["portal.example.org".toList]).step
          (passFor "login.portal.example.org")).configured host) ∧
        ∀ name,
          ¬ IsPermitted ((freshPortal ["portal.example.org".toList]).step
            (passFor "login.portal.example.org")).configured name →
          ¬ IsPermitted ((freshPortal ["hotel.example.com".toList]).step
            (passFor "wifi.hotel.example.com")).configured name →
          (limited.Opens name ↔ other.Opens name) := by
  obtain ⟨limited, hlimited, hconfig, hhost⟩ := @rendered_passFor ["portal.example.org".toList]
    "login.portal.example.org" "portal.example.org".toList (by decide +kernel)
    (List.mem_append_left _ (by decide +kernel)) (by decide)
  obtain ⟨other, hother, hconfig', hhost'⟩ := @rendered_passFor ["hotel.example.com".toList]
    "wifi.hotel.example.com" "hotel.example.com".toList (by decide +kernel)
    (List.mem_append_left _ (by decide +kernel)) (by decide)
  obtain ⟨hpermitted, hopens⟩ := limited_mode_opens_permitted
    (@reachableBy_passFor ["portal.example.org".toList] "login.portal.example.org" (by decide)
      (by rw [detectionHosts_eq]; decide))
    (@reachableBy_passFor ["hotel.example.com".toList] "wifi.hotel.example.com" (by decide)
      (by rw [detectionHosts_eq]; decide))
  refine ⟨limited, hlimited, other, hother, hhost, hhost', hpermitted limited hlimited, ?_⟩
  exact hopens limited hlimited other hother (by rw [hconfig, hconfig']; rfl)

/-- A request for a name under a host of the detection. -/
theorem limited_mode_opens_detection_subdomain :
    ¬ ∀ portal : Portal, portalRuns.Reachable portal →
      ∀ limited ∈ portal.written, ∀ host ∈ limited.hosts, IsPermitted portal.configured host := by
  intro hall
  have hreachable : portalRuns.Reachable
      ((freshPortal []).step (passFor "evil.detectportal.firefox.com")) :=
    .step (.start (freshPortal_initial [])) trivial rfl
  obtain ⟨limited, hlimited, -, hhost⟩ := @rendered_passFor [] "evil.detectportal.firefox.com"
    "detectportal.firefox.com".toList (by decide +kernel)
    (by rw [detectionHosts_eq]; decide) (by decide)
  have hpermitted := hall _ hreachable limited hlimited _ hhost
  rw [step_passFor, (Portal.enable_keeps _ _ _).2] at hpermitted
  rcases hpermitted with ⟨domain, hdomain, -⟩ | hdetection
  · rw [mem_configuredNames] at hdomain
    exact absurd hdomain List.not_mem_nil
  · rw [detectionHosts_eq] at hdetection
    exact absurd hdetection (by decide)

end OpenPath.Windows.CaptivePortal
