/-
# Protected domains of the Windows agent

The domains that must stay reachable: the control plane with the hosts of the
configured addresses, and the catalog of always-allowed domains. The format of a
domain is the one that the server checks.
-/

import OpenPath.Shared.RulesValidation
import OpenPath.Text.DotNet

namespace OpenPath.Windows

open DotNet RulesValidation
open Foundation (Re stripPrefix)

/-- `Test-OpenPathDomainFormat` -/
def testDomainFormat (domain : Text) : Bool :=
  let trimmed := trim domain
  domain != [] && JavaScript.length trimmed ≥ 4 && JavaScript.length trimmed ≤ 253 &&
    !".LOCAL".toList.isSuffixOf (toUpperInvariant trimmed) && domainRegex.accepts trimmed

/-- `HashSet.Contains` with the comparison of `OrdinalIgnoreCase`. -/
def containsIgnoreCase (set : List Text) (value : Text) : Bool :=
  set.any (equalsIgnoreCase value)

/-! ## The catalog -/

/-- The constants of `Get-OpenPathProtectedDomains`. -/
def controlPlaneDomains : List Text :=
  ["raw.githubusercontent.com".toList, "github.com".toList, "githubusercontent.com".toList,
   "api.github.com".toList, "release-assets.githubusercontent.com".toList,
   "objects.githubusercontent.com".toList, "sourceforge.net".toList,
   "downloads.sourceforge.net".toList]

/-- `Get-OpenPathCaptivePortalProbeDomains` -/
def captivePortalProbeDomains : List Text :=
  ["detectportal.firefox.com".toList, "connectivity-check.ubuntu.com".toList,
   "captive.apple.com".toList, "www.msftconnecttest.com".toList, "msftconnecttest.com".toList,
   "clients3.google.com".toList]

/-- `Get-OpenPathMicrosoftSystemDomains` -/
def microsoftSystemDomains : List Text :=
  ["*.windowsupdate.com".toList, "windowsupdate.com".toList,
   "windowsupdate.microsoft.com".toList, "update.microsoft.com".toList,
   "delivery.mp.microsoft.com".toList, "do.dsp.mp.microsoft.com".toList,
   "api.cdp.microsoft.com".toList, "definitionupdates.microsoft.com".toList,
   "download.microsoft.com".toList, "download.windowsupdate.com".toList,
   "go.microsoft.com".toList, "adl.windows.com".toList,
   "tsfe.trafficshaping.dsp.mp.microsoft.com".toList, "wdcp.microsoft.com".toList,
   "wdcpalt.microsoft.com".toList, "wd.microsoft.com".toList,
   "smartscreen-prod.microsoft.com".toList, "crl.microsoft.com".toList,
   "www.microsoft.com".toList, "msftconnecttest.com".toList, "www.msftconnecttest.com".toList,
   "wns.windows.com".toList, "displaycatalog.mp.microsoft.com".toList,
   "storequality.microsoft.com".toList, "dsx.mp.microsoft.com".toList,
   "edge.microsoft.com".toList, "config.edge.skype.com".toList,
   "iecvlist.microsoft.com".toList, "manage.microsoft.com".toList, "dm.microsoft.com".toList,
   "graph.microsoft.com".toList, "login.microsoft.com".toList, "login.live.com".toList,
   "login.microsoftonline.com".toList, "aadcdn.msauth.net".toList,
   "aadcdn.msftauth.net".toList, "azureedge.net".toList, "blob.core.windows.net".toList]

/-- `Get-OpenPathFirefoxSystemDomains` -/
def firefoxSystemDomains : List Text :=
  ["aus5.mozilla.org".toList, "firefox.settings.services.mozilla.com".toList,
   "firefox-settings-attachments.cdn.mozilla.net".toList,
   "content-signature-2.cdn.mozilla.net".toList, "download.mozilla.org".toList,
   "download.cdn.mozilla.net".toList, "archive.mozilla.org".toList, "ftp.mozilla.org".toList,
   "safebrowsing.googleapis.com".toList, "addons.mozilla.org".toList,
   "versioncheck.addons.mozilla.org".toList, "services.addons.mozilla.org".toList,
   "ciscobinary.openh264.org".toList, "redirector.gvt1.com".toList,
   "clients2.googleusercontent.com".toList]

def timeDomains : List Text := ["time.windows.com".toList, "time.google.com".toList]

/-! ## The lists -/

/-- A domain joins the list unless it is there in either case. -/
def addDistinct (domains : List Text) (domain : Text) : List Text :=
  if containsIgnoreCase domains domain then domains else domains ++ [domain]

/-- Only a domain that can be normalized joins the list. -/
def addNormalized (normalize : Text → Option Text) (domains : List Text) (domain : Text) :
    List Text :=
  match normalize domain with
  | some normalizedDomain => addDistinct domains normalizedDomain
  | none => domains

/-- `([string]$domain).Trim().Trim('.')` -/
def normalizeEntry (entry : Text) : Text := trimDots (trim entry)

/-- The normal form of a domain whose format is valid. -/
def normalizeDomain (domain : Text) : Option Text :=
  let normalizedDomain := normalizeEntry domain
  if normalizedDomain ≠ [] ∧ testDomainFormat normalizedDomain then some normalizedDomain
  else none

def normalizeHost (host : Text) : Option Text := if host = [] then none else normalizeDomain host

/-- `Get-OpenPathProtectedDomains`, for the hosts of the configured addresses. -/
def getProtectedDomains (configHosts : List Text) : List Text :=
  configHosts.foldl (addNormalized normalizeHost) (controlPlaneDomains.foldl addDistinct [])

/-- `Normalize-OpenPathAlwaysAllowedDomain` -/
def normalizeAlwaysAllowedDomain (domain : Text) : Option Text :=
  let normalized := (normalizeEntry domain).map Char.toLower
  let normalized := stripPrefix "*.".toList normalized
  if domain = [] then none
  else if normalized ≠ [] ∧ testDomainFormat normalized then some normalized
  else none

/-- `Get-OpenPathAlwaysAllowedDomains` -/
def getAlwaysAllowedDomains (configHosts : List Text) : List Text :=
  (getProtectedDomains configHosts ++ captivePortalProbeDomains ++ microsoftSystemDomains ++
    firefoxSystemDomains ++ timeDomains).foldl (addNormalized normalizeAlwaysAllowedDomain) []

/-! ## Lists without repetition -/

theorem subset_addDistinct (domains : List Text) (domain : Text) :
    domains ⊆ addDistinct domains domain := by
  unfold addDistinct
  split
  · exact List.Subset.refl domains
  · exact List.subset_append_left domains [domain]

theorem exists_mem_addDistinct (domains : List Text) (domain : Text) :
    ∃ kept ∈ addDistinct domains domain, equalsIgnoreCase domain kept = true := by
  unfold addDistinct
  split
  · rename_i hcontains
    exact List.any_eq_true.mp hcontains
  · exact ⟨domain, by simp, equalsIgnoreCase_self domain⟩

variable {domain : Text} {domains : List Text} {kept : Text}

theorem mem_addDistinct (hkept : kept ∈ addDistinct domains domain) :
    kept ∈ domains ∨ kept = domain := by
  unfold addDistinct at hkept
  split at hkept
  · exact Or.inl hkept
  · simpa using hkept

variable {normalize : Text → Option Text}

theorem subset_foldl_addNormalized (added domains : List Text) :
    domains ⊆ added.foldl (addNormalized normalize) domains := by
  induction added generalizing domains with
  | nil => exact List.Subset.refl domains
  | cons domain added ih =>
      apply List.Subset.trans _ (ih (addNormalized normalize domains domain))
      unfold addNormalized
      split
      · exact subset_addDistinct domains _
      · exact List.Subset.refl domains

variable {normalized : Text} {added : List Text}

/-- Everything that can be normalized is kept, in one case or the other. -/
theorem exists_mem_foldl_addNormalized (hdomain : domain ∈ added)
    (hnormal : normalize domain = some normalized) (domains : List Text) :
    ∃ kept ∈ added.foldl (addNormalized normalize) domains,
      equalsIgnoreCase normalized kept = true := by
  induction added generalizing domains with
  | nil => cases hdomain
  | cons first added ih =>
      rcases List.mem_cons.mp hdomain with rfl | hrest
      · obtain ⟨kept, hkept, hequal⟩ := exists_mem_addDistinct domains normalized
        refine ⟨kept, subset_foldl_addNormalized added _ ?_, hequal⟩
        rwa [addNormalized, hnormal]
      · exact ih hrest (addNormalized normalize domains first)

/-- Everything that is kept is a normal form. -/
theorem mem_foldl_addNormalized (hkept : kept ∈ added.foldl (addNormalized normalize) domains) :
    kept ∈ domains ∨ ∃ domain ∈ added, normalize domain = some kept := by
  induction added generalizing domains with
  | nil => exact Or.inl hkept
  | cons first added ih =>
      rcases ih hkept with hstep | ⟨domain, hdomain, hnormal⟩
      · unfold addNormalized at hstep
        split at hstep
        · rename_i normalized hnormal
          rcases mem_addDistinct hstep with hold | rfl
          · exact Or.inl hold
          · exact Or.inr ⟨first, List.mem_cons_self, hnormal⟩
        · exact Or.inl hstep
      · exact Or.inr ⟨domain, List.mem_cons_of_mem first hdomain, hnormal⟩

theorem getAlwaysAllowedDomains_ne_nil (configHosts : List Text) :
    getAlwaysAllowedDomains configHosts ≠ [] := by
  have hmem : "time.windows.com".toList ∈ getProtectedDomains configHosts ++
      captivePortalProbeDomains ++ microsoftSystemDomains ++ firefoxSystemDomains ++
        timeDomains := by
    apply List.mem_append_right
    simp [timeDomains]
  have hnormal : normalizeAlwaysAllowedDomain "time.windows.com".toList =
      some "time.windows.com".toList := by
    decide
  obtain ⟨kept, hkept, -⟩ := exists_mem_foldl_addNormalized hmem hnormal []
  exact List.ne_nil_of_mem hkept

theorem github_mem_getProtectedDomains (configHosts : List Text) :
    "github.com".toList ∈ getProtectedDomains configHosts := by
  apply subset_foldl_addNormalized configHosts
  decide

/-! ## Valid domains -/

theorem normalizeDomain_eq_some (hnormal : normalizeDomain domain = some normalized) :
    normalized = normalizeEntry domain ∧ testDomainFormat normalized = true := by
  unfold normalizeDomain at hnormal
  dsimp only at hnormal
  split at hnormal
  · rename_i hvalid
    obtain rfl := Option.some.inj hnormal
    exact ⟨rfl, hvalid.2⟩
  · cases hnormal

theorem normalizeDomain_of_valid (hvalid : testDomainFormat (normalizeEntry domain) = true) :
    normalizeDomain domain = some (normalizeEntry domain) := by
  have hnonempty : normalizeEntry domain ≠ [] := by
    intro hnil
    rw [hnil] at hvalid
    cases hvalid
  rw [normalizeDomain, if_pos ⟨hnonempty, hvalid⟩]

theorem normalizeAlwaysAllowedDomain_eq_some
    (hnormal : normalizeAlwaysAllowedDomain domain = some normalized) :
    normalized = stripPrefix "*.".toList ((normalizeEntry domain).map Char.toLower) ∧
      testDomainFormat normalized = true := by
  unfold normalizeAlwaysAllowedDomain at hnormal
  dsimp only at hnormal
  split at hnormal
  · cases hnormal
  · split at hnormal
    · rename_i hvalid
      obtain rfl := Option.some.inj hnormal
      exact ⟨rfl, hvalid.2⟩
    · cases hnormal

theorem mem_domainRegex_of_testDomainFormat (hvalid : testDomainFormat domain = true) :
    trim domain ∈ domainRegex.lang := by
  simp only [testDomainFormat, Bool.and_eq_true] at hvalid
  exact (Re.accepts_iff _ _).mp hvalid.2

theorem testDomainFormat_trim (domain : Text) :
    testDomainFormat (trim domain) = testDomainFormat domain := by
  by_cases hnil : trim domain = []
  · rw [testDomainFormat, testDomainFormat, trim_trim, hnil]
    simp [JavaScript.length]
  · have hne : domain ≠ [] := by
      rintro rfl
      exact hnil rfl
    have htrimmed : (trim domain != []) = true := bne_iff_ne.mpr hnil
    have hdomain : (domain != []) = true := bne_iff_ne.mpr hne
    simp only [testDomainFormat, trim_trim, htrimmed, hdomain]

theorem not_mem_trim_of_testDomainFormat (hvalid : testDomainFormat domain = true) {c : Char}
    (hc : isDomainChar c = false) : c ∉ trim domain := by
  intro hmem
  have hchar := isDomainChar_of_mem_domainRegex (mem_domainRegex_of_testDomainFormat hvalid) c hmem
  rw [hc] at hchar
  cases hchar

/-! ## The case of letters -/

theorem domainRegex_respects : domainRegex.Respects Char.toUpper := by
  have hletter : (Re.sat Ascii.isLetter).Respects Char.toUpper := by
    intro c d hcd
    rw [← Ascii.isLetter_toUpper, hcd, Ascii.isLetter_toUpper]
  have halphanumeric : alphanumeric.Respects Char.toUpper := by
    intro c d hcd
    rw [← Ascii.isAlphanumeric_toUpper, hcd, Ascii.isAlphanumeric_toUpper]
  have hlit : ∀ {e : Char}, Ascii.isLetter e = false → ∀ c d : Char, c.toUpper = d.toUpper →
      (c == e) = (d == e) := by
    intro e he c d hcd
    rw [Bool.eq_iff_iff, beq_iff_eq, beq_iff_eq, ← Ascii.toUpper_eq_iff he, hcd,
      Ascii.toUpper_eq_iff he]
  have hhyphen : alphanumericHyphen.Respects Char.toUpper := by
    intro c d hcd
    have hsame := halphanumeric c d hcd
    simp only at hsame ⊢
    rw [hsame, hlit (by decide) c d hcd]
  have hdot : (Re.lit '.').Respects Char.toUpper := hlit (by decide)
  have hlabel : dottedLabel.Respects Char.toUpper :=
    ⟨⟨halphanumeric, trivial, hhyphen.between 0 61, halphanumeric⟩, hdot⟩
  exact ⟨⟨hlabel, hlabel⟩, hletter.between 2 63⟩

/-- Domains that are equal up to case are valid alike. -/
theorem testDomainFormat_congr {first second : Text}
    (h : equalsIgnoreCase first second = true) :
    testDomainFormat first = testDomainFormat second := by
  have hupper : first.map Char.toUpper = second.map Char.toUpper := beq_iff_eq.mp h
  have htrim : (trim first).map Char.toUpper = (trim second).map Char.toUpper := by
    rw [trim, trim, ← Foundation.trim_map isWhiteSpace_toUpper, hupper,
      Foundation.trim_map isWhiteSpace_toUpper]
  have hlength : JavaScript.length (trim first) = JavaScript.length (trim second) := by
    rw [← JavaScript.length_map_toUpper, htrim, JavaScript.length_map_toUpper]
  have hnil : first = [] ↔ second = [] := by
    rw [← @List.map_eq_nil_iff _ _ Char.toUpper first, hupper, List.map_eq_nil_iff]
  have hne : (first != []) = (second != []) := by
    rw [Bool.eq_iff_iff, bne_iff_ne, bne_iff_ne, ne_eq, ne_eq, hnil]
  simp only [testDomainFormat, toUpperInvariant, hlength, htrim, hne,
    domainRegex_respects.accepts_eq htrim]

end OpenPath.Windows
