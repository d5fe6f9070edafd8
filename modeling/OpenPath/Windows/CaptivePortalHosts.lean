/-
# The hosts of the limited portal mode

In limited mode the DNS proxy forwards the essential domains and a list of recovery
hosts. A recovery host that the administrator configured stands for the names under it,
any other one for itself; the masks of the proxy say which names go to the resolver of
the network, and a name is open where a line forwards it and a mask matches it.

Recovery hosts also come from a queue that every user may write. They are compared with
the configured domains and with the hosts by which a portal is detected.
-/

import OpenPath.Windows.AcrylicRules

namespace OpenPath.Windows.CaptivePortal

open Acrylic DotNet
open Foundation (Re)
open Overlay (coversHost isHostAlphanumeric)
open RuntimeDependency (hostPattern matchLine)

/-! ## Lists of hosts -/

/-- `[a-z0-9.-]` without regard to case. -/
def isHostCharacter (c : Char) : Bool := isHostAlphanumeric c || c == '.' || c == '-'

/-- A host as `Get-OpenPathCaptivePortalAllowedHosts` reads it. -/
def cleanHost (host : Text) : Text := toLowerInvariant ((trim host).rdropWhile (· == '.'))

/-- The tests of `Get-OpenPathCaptivePortalAllowedHosts`. -/
def isAllowedForm (host : Text) : Bool :=
  host ≠ [] && matchLine (Re.sat isHostCharacter).plus host &&
    !(host.head? == some '.' || host.getLast? == some '.' || decide ("..".toList <:+: host))

/-- `Get-OpenPathCaptivePortalAllowedHosts` -/
def getAllowedHosts (hosts : List Text) : List Text :=
  ((hosts.map cleanHost).filter isAllowedForm).eraseDups

/-- `^\d{1,3}(?:\.\d{1,3}){3}$` -/
def addressPattern : Re Char :=
  .cat ((Re.sat Ascii.isDigit).between 1 3)
    (.times (.cat (.lit '.') ((Re.sat Ascii.isDigit).between 1 3)) 3)

/-- `Reject-OpenPathCaptivePortalDynamicHost`, without protected hosts. An address in
brackets has no form of a host. -/
def rejectDynamicHost (host : Text) : Bool :=
  host = [] || "*.".toList.isPrefixOf host || host.head? == some '.' ||
    matchLine addressPattern host || endsWithIgnoreCase host ".local".toList ||
    !host.contains '.' || JavaScript.length host < 4 || JavaScript.length host > 253 ||
    !matchLine (hostPattern isHostAlphanumeric) host

/-- `Get-OpenPathConfiguredCaptivePortalDomains`, for the entries of the configuration. What
has a scheme has a slash. -/
def getConfiguredDomains (entries : List Text) : List Text :=
  (((entries.map trim).filter fun raw => raw ≠ [] ∧ raw.all (· ∉ "/?#@".toList)).map
    fun raw => toLowerInvariant (raw.rdropWhile (· == '.'))).filter (!rejectDynamicHost ·)
    |>.eraseDups

/-- `Get-OpenPathCaptivePortalDetectionHosts` -/
def detectionHosts : List Text :=
  getAllowedHosts ["www.msftconnecttest.com".toList, "msftconnecttest.com".toList,
    "detectportal.firefox.com".toList, "clients3.google.com".toList]

/-- `Get-OpenPathCaptivePortalRecoveryHostAllowlist` -/
def recoveryHostAllowlist (entries : List Text) : List Text :=
  getAllowedHosts (getConfiguredDomains entries ++ detectionHosts)

/-- `Select-OpenPathCaptivePortalAllowedRecoveryHosts` -/
def selectAllowedRecoveryHosts (requested allowlist : List Text) : List Text :=
  ((getAllowedHosts requested).filter (coversHost (getAllowedHosts allowlist))).eraseDups

/-! ## The definition of the limited mode -/

/-- The configured domains with the names under them. -/
def inclusiveDomains (entries : List Text) : List Text :=
  ((getConfiguredDomains entries).map fun domain =>
    (trim domain).rdropWhile (· == '.')).filter (· ≠ [])

/-- Whether a recovery host stands for the names under it. -/
def isInclusive (entries : List Text) (host : Text) : Bool :=
  containsIgnoreCase (inclusiveDomains entries) ((trim host).rdropWhile (· == '.'))

/-- The rules of a recovery host. -/
def recoveryRules (entries : List Text) (host : Text) : List DefinitionRule :=
  if isInclusive entries host then forwardRules [host] [] else exactRules [host]

/-- `New-OpenPathLimitedCaptivePortalHostsDefinition` -/
def limitedRules (configHosts entries recoveryHosts : List Text) : List DefinitionRule :=
  essentialRules configHosts ++ recoveryHosts.flatMap (recoveryRules entries)

/-- The masks that `Set-OpenPathLimitedCaptivePortalAcrylicConfiguration` writes. -/
def limitedMask (entries recoveryHosts : List Text) : List Text :=
  (getAcrylicExactAffinityMaskEntries (recoveryHosts.filter (!isInclusive entries ·)) ++
    getAcrylicAffinityMaskEntries (recoveryHosts.filter (isInclusive entries ·)) [] ++
    getAcrylicExactAffinityMaskEntries captivePortalProbeDomains).eraseDups

/-- A mask with a wildcard matches what ends like it, and another one its own name. -/
def MaskMatches (entry host : Text) : Prop :=
  match entry with
  | '*' :: suffix => suffix.map Char.toUpper <:+ host.map Char.toUpper
  | _ => host.map Char.toUpper = entry.map Char.toUpper

/-- A line gives the name an address. -/
def Addressed (rules : List DefinitionRule) (name : Text) : Prop :=
  ∃ ip domain, .hosts (.address ip domain) ∈ rules ∧
    name.map Char.toUpper = domain.map Char.toUpper

/-- A name is open in limited mode. -/
def OpensLimited (configHosts entries recoveryHosts : List Text) (name : Text) : Prop :=
  Addressed (limitedRules configHosts entries recoveryHosts) name ∨
    Forwards (hostsLines (limitedRules configHosts entries recoveryHosts)) name ∧
      ∃ entry ∈ limitedMask entries recoveryHosts, MaskMatches entry name

/-! ## Hosts that are read again -/

/-- Reading the host again changes nothing. -/
def IsClean (host : Text) : Prop := cleanHost host = host ∧ isAllowedForm host = true

instance (host : Text) : Decidable (IsClean host) := inferInstanceAs (Decidable (_ ∧ _))

section Clean

variable {host : Text} {hosts : List Text}

theorem mem_getAllowedHosts :
    host ∈ getAllowedHosts hosts ↔
      (∃ raw ∈ hosts, cleanHost raw = host) ∧ isAllowedForm host = true := by
  rw [getAllowedHosts, List.mem_eraseDups, List.mem_filter, List.mem_map]

theorem mem_getAllowedHosts_append {more : List Text} :
    host ∈ getAllowedHosts (hosts ++ more) ↔
      host ∈ getAllowedHosts hosts ∨ host ∈ getAllowedHosts more := by
  simp only [mem_getAllowedHosts, List.mem_append, or_and_right, exists_or]

theorem mem_getAllowedHosts_of_clean (hclean : ∀ host ∈ hosts, IsClean host) :
    host ∈ getAllowedHosts hosts ↔ host ∈ hosts := by
  rw [mem_getAllowedHosts]
  constructor
  · rintro ⟨⟨raw, hraw, rfl⟩, -⟩
    rwa [(hclean raw hraw).1]
  · exact fun hmem => ⟨⟨host, hmem, (hclean host hmem).1⟩, (hclean host hmem).2⟩

theorem toLowerInvariant_cleanHost (host : Text) :
    toLowerInvariant (cleanHost host) = cleanHost host :=
  toLowerInvariant_eq_self fun _ hc => isLower_of_mem_toLowerInvariant hc

theorem noCapital_cleanHost (host : Text) : NoCapital (cleanHost host) :=
  noCapital_toLowerInvariant _

theorem isWhiteSpace_of_isHostCharacter {c : Char} (hc : isHostCharacter c = true) :
    isWhiteSpace c = false := by
  simp only [isHostCharacter, Bool.or_eq_true, beq_iff_eq] at hc
  rcases hc with (hc | rfl) | rfl
  · exact (Overlay.isHostAlphanumeric_plain hc).1
  · decide
  · decide

section

variable (hform : isAllowedForm host = true)
include hform

/-- The characters of a host, after which one line break may stand. -/
theorem chars_of_isAllowedForm :
    (∀ c ∈ host, isHostCharacter c = true) ∨ host.getLast? = some '\n' := by
  simp only [isAllowedForm, Bool.and_eq_true, matchLine, Bool.or_eq_true, Re.accepts_iff,
    Re.mem_lang_plus, Re.mem_lang_sat, Re.mem_lang_star_sat, beq_iff_eq] at hform
  obtain ⟨⟨-, ⟨first, ⟨c, rfl, hc⟩, rest, hrest, rfl⟩ | ⟨hlast, -⟩⟩, -⟩ := hform
  · exact Or.inl (List.forall_mem_cons.mpr ⟨hc, hrest⟩)
  · exact Or.inr hlast

theorem getLast_of_isAllowedForm : host ≠ [] ∧ host.getLast? ≠ some '.' := by
  simp only [isAllowedForm, Bool.and_eq_true, Bool.not_eq_true', Bool.or_eq_false_iff,
    beq_eq_false_iff_ne, decide_eq_true_eq] at hform
  exact ⟨hform.1.1, hform.2.1.2⟩

/-- A host in lower case without a line break is clean. -/
theorem isClean_of_chars (hlower : toLowerInvariant host = host)
    (hchars : ∀ c ∈ host, isHostCharacter c = true) :
    IsClean host := by
  have htrim : trim host = host :=
    Foundation.trim_eq_self_of_forall fun c hc => isWhiteSpace_of_isHostCharacter (hchars c hc)
  have hdots : host.rdropWhile (· == '.') = host := by
    refine Foundation.rdropWhile_eq_self_of_getLast fun c hc => ?_
    rw [beq_eq_false_iff_ne]
    rintro rfl
    exact (getLast_of_isAllowedForm hform).2 hc
  refine ⟨?_, hform⟩
  rw [cleanHost, htrim, hdots, hlower]

end

theorem IsClean.trim_eq (hhost : IsClean host) : trim host = host := by
  have hwhole : host.length ≤ (trim host).length := by
    calc host.length = (cleanHost host).length := by rw [hhost.1]
      _ = ((trim host).rdropWhile (· == '.')).length := List.length_map _
      _ ≤ (trim host).length := (List.rdropWhile_prefix _ _).length_le
  have hinfix := Foundation.trim_isInfix isWhiteSpace host
  exact hinfix.eq_of_length (Nat.le_antisymm hinfix.length_le hwhole)

theorem IsClean.chars (hhost : IsClean host) : ∀ c ∈ host, isHostCharacter c = true := by
  refine (chars_of_isAllowedForm hhost.2).resolve_right fun hbreak => ?_
  exact absurd ((trim_eq_self_iff.mp hhost.trim_eq).2 _ hbreak) (by decide)

theorem suffix_of_under {name : Text} (hunder : Under name host) :
    name.map Char.toUpper <:+ host.map Char.toUpper := by
  rcases hunder with hequal | hsuffix
  · rw [hequal]
  · exact (List.suffix_cons _ _).trans hsuffix

theorem IsClean.of_under {name : Text} (hname : IsClean name) (hhost : host ∈ getAllowedHosts hosts)
    (hunder : Under name host) : IsClean host := by
  obtain ⟨⟨raw, -, rfl⟩, hform⟩ := mem_getAllowedHosts.mp hhost
  refine isClean_of_chars hform (toLowerInvariant_cleanHost raw) ?_
  refine (chars_of_isAllowedForm hform).resolve_right fun hbreak => ?_
  obtain ⟨front, hfront⟩ := suffix_of_under hunder
  obtain ⟨start, c, rfl⟩ :=
    List.eq_nil_or_concat name |>.resolve_left (getLast_of_isAllowedForm hname.2).1
  have hlast := congrArg List.getLast? hfront
  rw [List.concat_eq_append, List.map_append, List.map_singleton, ← List.append_assoc,
    List.getLast?_concat, List.getLast?_map, hbreak] at hlast
  have hc := isWhiteSpace_of_isHostCharacter (hname.chars c (by simp))
  rw [← isWhiteSpace_toUpper, Option.some.inj hlast] at hc
  exact absurd hc (by decide)

end Clean

/-! ## Permitted hosts -/

/-- The configured domains as the allow-list has them. -/
def configuredNames (entries : List Text) : List Text :=
  getAllowedHosts (getAllowedHosts (getConfiguredDomains entries))

/-- The host is a configured domain or lies under one, or it is one of the hosts by which a
portal is detected. -/
def IsPermitted (entries : List Text) (host : Text) : Prop :=
  (∃ domain ∈ configuredNames entries, Under domain host) ∨
    ∃ detection ∈ detectionHosts, host.map Char.toUpper = detection.map Char.toUpper

section Permitted

variable {entries history requested : List Text} {host : Text}

theorem detectionHosts_eq : detectionHosts =
    ["www.msftconnecttest.com".toList, "msftconnecttest.com".toList,
      "detectportal.firefox.com".toList, "clients3.google.com".toList] := by
  decide +kernel

theorem isClean_detectionHosts : ∀ host ∈ detectionHosts, IsClean host := by
  have hall : ∀ host ∈ ["www.msftconnecttest.com".toList, "msftconnecttest.com".toList,
      "detectportal.firefox.com".toList, "clients3.google.com".toList],
      cleanHost host = host ∧ isAllowedForm host = true := by
    decide +kernel
  rw [detectionHosts_eq]
  exact hall

theorem mem_getConfiguredDomains :
    host ∈ getConfiguredDomains entries ↔
      (∃ entry ∈ entries, (trim entry ≠ [] ∧ (trim entry).all (· ∉ "/?#@".toList) = true) ∧
        toLowerInvariant ((trim entry).rdropWhile (· == '.')) = host) ∧
        rejectDynamicHost host = false := by
  simp only [getConfiguredDomains, List.mem_eraseDups, List.mem_filter, List.mem_map,
    Bool.not_eq_true', decide_eq_true_eq]
  constructor
  · rintro ⟨⟨-, ⟨⟨entry, hentry, rfl⟩, hplain⟩, rfl⟩, hform⟩
    exact ⟨⟨entry, hentry, hplain, rfl⟩, hform⟩
  · rintro ⟨⟨entry, hentry, hplain, rfl⟩, hform⟩
    exact ⟨⟨trim entry, ⟨⟨entry, hentry, rfl⟩, hplain⟩, rfl⟩, hform⟩

theorem getConfiguredDomains_subset (hsubset : entries ⊆ history) :
    getConfiguredDomains entries ⊆ getConfiguredDomains history := by
  intro domain hdomain
  obtain ⟨⟨entry, hentry, hread⟩, hform⟩ := mem_getConfiguredDomains.mp hdomain
  exact mem_getConfiguredDomains.mpr ⟨⟨entry, hsubset hentry, hread⟩, hform⟩

theorem getAllowedHosts_subset {hosts more : List Text} (hsubset : hosts ⊆ more) :
    getAllowedHosts hosts ⊆ getAllowedHosts more := by
  intro host hhost
  obtain ⟨⟨raw, hraw, hclean⟩, hform⟩ := mem_getAllowedHosts.mp hhost
  exact mem_getAllowedHosts.mpr ⟨⟨raw, hsubset hraw, hclean⟩, hform⟩

theorem configuredNames_subset (hsubset : entries ⊆ history) :
    configuredNames entries ⊆ configuredNames history :=
  getAllowedHosts_subset (getAllowedHosts_subset (getConfiguredDomains_subset hsubset))

theorem IsPermitted.mono (hsubset : entries ⊆ history) (hhost : IsPermitted entries host) :
    IsPermitted history host := by
  refine hhost.imp_left ?_
  rintro ⟨domain, hdomain, hunder⟩
  exact ⟨domain, configuredNames_subset hsubset hdomain, hunder⟩

theorem isClean_of_configured (hhost : host ∈ getAllowedHosts (getConfiguredDomains entries)) :
    IsClean host := by
  obtain ⟨⟨domain, hdomain, rfl⟩, hform⟩ := mem_getAllowedHosts.mp hhost
  obtain ⟨⟨entry, -, -, hlower⟩, hreject⟩ := mem_getConfiguredDomains.mp hdomain
  have hmatch : matchLine (hostPattern isHostAlphanumeric) domain = true := by
    simp only [rejectDynamicHost, Bool.or_eq_false_iff, Bool.not_eq_false'] at hreject
    exact hreject.2
  obtain ⟨hword, hwhole⟩ :=
    (RuntimeDependency.matchLine_iff Overlay.isHostAlphanumeric_newline domain).mp hmatch
  have hchars : ∀ c ∈ cleanHost domain, isHostCharacter c = true := by
    have hsubset : ∀ c ∈ (trim domain).rdropWhile (· == '.'), c ∈ RuntimeDependency.hostName domain :=
      fun c hc => Overlay.trim_of_word hword hwhole ▸ (List.rdropWhile_prefix _ _).mem hc
    rw [cleanHost, toLowerInvariant_eq_self fun c hc => ?_]
    · intro c hc
      have hclass := RuntimeDependency.char_of_mem_hostPattern hword c (hsubset c hc)
      simpa [isHostCharacter, or_assoc, or_comm] using hclass
    · have hmem := RuntimeDependency.mem_of_mem_hostName (hsubset c hc)
      rw [← hlower] at hmem
      exact isLower_of_mem_toLowerInvariant hmem
  exact isClean_of_chars hform (toLowerInvariant_cleanHost domain) hchars

/-- Reading the allow-list once more changes nothing. -/
theorem mem_configuredNames :
    host ∈ configuredNames entries ↔ host ∈ getAllowedHosts (getConfiguredDomains entries) :=
  mem_getAllowedHosts_of_clean fun _ hmem => isClean_of_configured hmem

theorem isClean_configuredNames (hhost : host ∈ configuredNames entries) : IsClean host :=
  isClean_of_configured (mem_configuredNames.mp hhost)

theorem mem_selectAllowedRecoveryHosts :
    host ∈ selectAllowedRecoveryHosts requested (recoveryHostAllowlist entries) ↔
      host ∈ getAllowedHosts requested ∧
        ∃ name ∈ configuredNames entries ++ detectionHosts, Under name host := by
  have hallowlist : ∀ name, name ∈ getAllowedHosts (recoveryHostAllowlist entries) ↔
      name ∈ configuredNames entries ++ detectionHosts := by
    intro name
    have hclean : ∀ name ∈ recoveryHostAllowlist entries, IsClean name := by
      intro name hname
      obtain ⟨⟨raw, hraw, rfl⟩, hform⟩ := mem_getAllowedHosts.mp hname
      rcases List.mem_append.mp hraw with hraw | hraw
      · exact isClean_of_configured (mem_getAllowedHosts.mpr ⟨⟨raw, hraw, rfl⟩, hform⟩)
      · rw [(isClean_detectionHosts raw hraw).1]
        exact isClean_detectionHosts raw hraw
    rw [mem_getAllowedHosts_of_clean hclean, recoveryHostAllowlist, mem_getAllowedHosts_append,
      List.mem_append, mem_configuredNames,
      mem_getAllowedHosts_of_clean isClean_detectionHosts]
  simp only [selectAllowedRecoveryHosts, List.mem_eraseDups, List.mem_filter,
    coversHost_iff_under, hallowlist]

end Permitted

end OpenPath.Windows.CaptivePortal
