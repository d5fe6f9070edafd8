/-
# The downloaded policy of the Windows agent

`Get-OpenPathFromUrl` parses a downloaded document and filters an enabled one:
the domains of the control plane are added to the whitelist, and what blocks an
always-allowed domain is left out. `Handle-OpenPathWhitelistApply` writes the
filtered policy to the whitelist file.
-/

import OpenPath.Windows.ProtectedDomains
import OpenPath.Windows.WhitelistFile

namespace OpenPath.Windows

open DotNet Policy RulesValidation
open Foundation (stripPrefix)

/-! ## The host of a path rule -/

/-- `-replace '^[a-zA-Z][a-zA-Z0-9+.-]*://', ''` -/
def stripScheme (value : Text) : Text :=
  match value with
  | c :: rest =>
      let after := rest.dropWhile fun c =>
        Ascii.isAlphanumeric c || c == '+' || c == '.' || c == '-'
      if Ascii.isLetter c ∧ "://".toList <+: after then after.drop 3 else value
  | [] => value

/-- `Get-OpenPathHostFromBlockedPathRule` -/
def getHostFromBlockedPathRule (rule : Text) : Option Text :=
  let candidate := stripScheme (stripPrefix "*://".toList (trim rule))
  let candidate := (candidate.dropWhile (· == '*')).dropWhile (· == '.')
  if candidate = [] ∨ candidate.head? = some '/' then none
  else
    let host := candidate.takeWhile fun c => c != '/' && c != '?' && c != '#'
    let host := host.takeWhile (· != ':')
    let host := trimDots (Foundation.trim (· == '*') (trim host))
    if host = [] then none
    else if testDomainFormat host then some host
    else none

/-! ## The filter -/

/-- Whether a path rule blocks an always-allowed domain. -/
def blocksProtected (protectedDomainSet : List Text) (rule : Text) : Bool :=
  match getHostFromBlockedPathRule rule with
  | some host => containsIgnoreCase protectedDomainSet host
  | none => false

/-- The protected-domain filter of `Get-OpenPathFromUrl`. -/
def filterSections (configHosts : List Text) (sections : Sections) : Sections :=
  let protectedDomains := getProtectedDomains configHosts
  let protectedDomainSet := getAlwaysAllowedDomains configHosts
  if protectedDomainSet.length > 0 then
    { whitelist := (sections.whitelist ++ protectedDomains).foldl (addNormalized normalizeDomain) []
      blockedSubdomains := (sections.blockedSubdomains.map normalizeEntry).filter fun subdomain =>
        subdomain ≠ [] && !containsIgnoreCase protectedDomainSet subdomain
      blockedPaths := sections.blockedPaths.filter fun rule =>
        !blocksProtected protectedDomainSet rule
      allowedPaths := sections.allowedPaths }
  else sections

def minRequiredDomains : Nat := 1

/-- What `Get-OpenPathFromUrl` makes of the content of a response. -/
def acceptContent (isWordChar : Char → Bool) (configHosts : List Text) (content : Text) :
    Except String WhitelistSections :=
  let document := getWhitelistSectionsFromLines isWordChar (content.splitOn '\n')
  if document.isDisabled then .ok document
  else
    let result := filterSections configHosts document.sections
    let validDomains := (result.whitelist.filter testDomainFormat).length
    if validDomains < minRequiredDomains then
      .error s!"Invalid whitelist content: insufficient valid domains ({validDomains}/{minRequiredDomains})"
    else .ok { sections := result, isDisabled := false }

/-! ## The file -/

/-- The file that `Handle-OpenPathWhitelistApply` writes. It passes neither the
allowed paths nor the disabled flag. -/
def whitelistFile (policy : WhitelistSections) : Text :=
  setContent (convertToWhitelistFileContent { policy.sections with allowedPaths := [] } false)

/-- `Get-OpenPathWhitelistSectionsFromFile` -/
def getWhitelistSectionsFromFile (isWordChar : Char → Bool) (file : Text) : WhitelistSections :=
  getWhitelistSectionsFromLines isWordChar (getContent file)

/-! ## The filtered sections -/

theorem filterSections_eq (configHosts : List Text) (sections : Sections) :
    filterSections configHosts sections =
      { whitelist := (sections.whitelist ++ getProtectedDomains configHosts).foldl
          (addNormalized normalizeDomain) []
        blockedSubdomains := (sections.blockedSubdomains.map normalizeEntry).filter
          fun subdomain => subdomain ≠ [] &&
            !containsIgnoreCase (getAlwaysAllowedDomains configHosts) subdomain
        blockedPaths := sections.blockedPaths.filter fun rule =>
          !blocksProtected (getAlwaysAllowedDomains configHosts) rule
        allowedPaths := sections.allowedPaths } := by
  have hset : (getAlwaysAllowedDomains configHosts).length > 0 :=
    List.length_pos_of_ne_nil (getAlwaysAllowedDomains_ne_nil configHosts)
  rw [filterSections, if_pos hset]

theorem mem_of_mem_normalizeEntry {entry : Text} {c : Char} (hc : c ∈ normalizeEntry entry) :
    c ∈ entry :=
  mem_of_mem_trim (Foundation.mem_of_mem_trim hc)

variable {domain : Text}

/-- Nothing is trimmed of a valid domain but the white space around it. -/
theorem normalizeEntry_of_valid (hvalid : testDomainFormat domain = true) :
    normalizeEntry domain = trim domain := by
  have hmem := mem_domainRegex_of_testDomainFormat hvalid
  obtain ⟨first, middle, tld, hshape, hfirst, -, -⟩ := mem_domainRegex_shape hmem
  obtain ⟨last, hlast, hletter⟩ := getLast_of_mem_domainRegex hmem
  apply Foundation.trim_eq_self_iff.mpr
  refine ⟨?_, ?_⟩
  · intro c hc
    rw [hshape, List.head?_cons, Option.mem_some_iff] at hc
    subst hc
    apply beq_eq_false_iff_ne.mpr
    rintro rfl
    exact absurd hfirst (by decide)
  · intro c hc
    rw [hlast, Option.mem_some_iff] at hc
    subst hc
    apply beq_eq_false_iff_ne.mpr
    rintro rfl
    exact absurd hletter (by decide)

variable {configHosts : List Text}

theorem testDomainFormat_of_mem_protected (hdomain : domain ∈ getProtectedDomains configHosts) :
    testDomainFormat domain = true := by
  rcases mem_foldl_addNormalized hdomain with hconstant | ⟨host, -, hnormal⟩
  · have hall : (controlPlaneDomains.foldl addDistinct []).all testDomainFormat = true := by
      decide
    exact List.all_eq_true.mp hall domain hconstant
  · unfold normalizeHost at hnormal
    split at hnormal
    · cases hnormal
    · exact (normalizeDomain_eq_some hnormal).2

theorem isEntry_of_valid (hvalid : testDomainFormat domain = true) (htrim : trim domain = domain) :
    IsEntry domain ∧ '\r' ∉ domain ∧ '\n' ∉ domain := by
  have hnot : ∀ c, isDomainChar c = false → c ∉ domain := by
    intro c hc
    rw [← htrim]
    exact not_mem_trim_of_testDomainFormat hvalid hc
  refine ⟨⟨?_, ?_, htrim⟩, hnot '\r' (by decide), hnot '\n' (by decide)⟩
  · rintro rfl
    cases hvalid
  · intro hhead
    exact hnot '#' (by decide) (List.mem_of_mem_head? hhead)

/-- The entries of a document that stay as they are when the filtered policy is
written and read. -/
structure Persistable (configHosts : List Text) (document : Sections) : Prop where
  whitelist : ∀ domain ∈ document.whitelist, testDomainFormat (normalizeEntry domain) = true →
    trim (normalizeEntry domain) = normalizeEntry domain
  blockedSubdomains : ∀ subdomain ∈ document.blockedSubdomains, normalizeEntry subdomain ≠ [] →
    containsIgnoreCase (getAlwaysAllowedDomains configHosts) (normalizeEntry subdomain) = false →
      trim (normalizeEntry subdomain) = normalizeEntry subdomain ∧
        (normalizeEntry subdomain).head? ≠ some '#' ∧ '\r' ∉ normalizeEntry subdomain
  blockedPaths : ∀ rule ∈ document.blockedPaths,
    blocksProtected (getAlwaysAllowedDomains configHosts) rule = false → '\r' ∉ rule
  allowedPaths : document.allowedPaths = []

section Filtered

variable {configHosts : List Text} {document : Sections}

theorem whitelist_persistable_iff :
    (∀ entry ∈ (filterSections configHosts document).whitelist,
        IsEntry entry ∧ '\r' ∉ entry ∧ '\n' ∉ entry) ↔
      ∀ domain ∈ document.whitelist, testDomainFormat (normalizeEntry domain) = true →
        trim (normalizeEntry domain) = normalizeEntry domain := by
  rw [filterSections_eq]
  refine ⟨?_, ?_⟩
  · intro hentries domain hdomain hvalid
    obtain ⟨kept, hkept, hequal⟩ := exists_mem_foldl_addNormalized
      (List.mem_append_left (getProtectedDomains configHosts) hdomain)
      (normalizeDomain_of_valid hvalid) []
    have hsymm : equalsIgnoreCase kept (normalizeEntry domain) = true := by
      rw [equalsIgnoreCase, beq_iff_eq] at hequal ⊢
      exact hequal.symm
    exact trim_eq_self_of_equalsIgnoreCase hsymm (hentries kept hkept).1.trimmed
  · intro hdomains entry hentry
    rcases mem_foldl_addNormalized hentry with hnone | ⟨domain, hdomain, hnormal⟩
    · cases hnone
    · obtain ⟨rfl, hvalid⟩ := normalizeDomain_eq_some hnormal
      apply isEntry_of_valid hvalid
      rcases List.mem_append.mp hdomain with hlisted | hprotected
      · exact hdomains domain hlisted hvalid
      · rw [normalizeEntry_of_valid (testDomainFormat_of_mem_protected hprotected), trim_trim]

theorem blockedSubdomains_persistable_iff
    (hfeed : ∀ subdomain ∈ document.blockedSubdomains, '\n' ∉ subdomain) :
    (∀ entry ∈ (filterSections configHosts document).blockedSubdomains,
        IsEntry entry ∧ '\r' ∉ entry ∧ '\n' ∉ entry) ↔
      ∀ subdomain ∈ document.blockedSubdomains, normalizeEntry subdomain ≠ [] →
        containsIgnoreCase (getAlwaysAllowedDomains configHosts) (normalizeEntry subdomain) =
            false →
          trim (normalizeEntry subdomain) = normalizeEntry subdomain ∧
            (normalizeEntry subdomain).head? ≠ some '#' ∧ '\r' ∉ normalizeEntry subdomain := by
  rw [filterSections_eq]
  refine ⟨?_, ?_⟩
  · intro hentries subdomain hsubdomain hnonempty hfree
    have hkept := hentries (normalizeEntry subdomain) (List.mem_filter.mpr
      ⟨List.mem_map_of_mem hsubdomain, by simp [hnonempty, hfree]⟩)
    exact ⟨hkept.1.trimmed, hkept.1.no_hash, hkept.2.1⟩
  · intro hsubdomains entry hentry
    obtain ⟨hmem, hkept⟩ := List.mem_filter.mp hentry
    obtain ⟨subdomain, hsubdomain, rfl⟩ := List.mem_map.mp hmem
    simp only [ne_eq, decide_not, Bool.and_eq_true, Bool.not_eq_true', decide_eq_false_iff_not]
      at hkept
    obtain ⟨htrim, hhash, hreturn⟩ := hsubdomains subdomain hsubdomain hkept.1 hkept.2
    exact ⟨⟨hkept.1, hhash, htrim⟩, hreturn,
      fun hc => hfeed subdomain hsubdomain (mem_of_mem_normalizeEntry hc)⟩

theorem blockedPaths_persistable_iff
    (hentry : ∀ rule ∈ document.blockedPaths, IsEntry rule ∧ '\n' ∉ rule) :
    (∀ entry ∈ (filterSections configHosts document).blockedPaths,
        IsEntry entry ∧ '\r' ∉ entry ∧ '\n' ∉ entry) ↔
      ∀ rule ∈ document.blockedPaths,
        blocksProtected (getAlwaysAllowedDomains configHosts) rule = false → '\r' ∉ rule := by
  rw [filterSections_eq]
  refine ⟨?_, ?_⟩
  · intro hentries rule hrule hfree
    exact (hentries rule (List.mem_filter.mpr ⟨hrule, by simp [hfree]⟩)).2.1
  · intro hrules rule hkept
    obtain ⟨hrule, hfree⟩ := List.mem_filter.mp hkept
    rw [Bool.not_eq_true'] at hfree
    exact ⟨(hentry rule hrule).1, hrules rule hrule hfree, (hentry rule hrule).2⟩

end Filtered

/-! ## Persistence -/

variable {isWordChar : Char → Bool}

/-- A policy that is read back as it was has no allowed paths and only entries that
can be written. -/
theorem readBack_sections_iff (policy : WhitelistSections) :
    (getWhitelistSectionsFromFile isWordChar (whitelistFile policy)).sections = policy.sections ↔
      policy.sections.allowedPaths = [] ∧
        ∀ type, ∀ entry ∈ policy.sections.get type,
          IsEntry entry ∧ '\r' ∉ entry ∧ '\n' ∉ entry := by
  have hwritten := @getContent_readBack_iff isWordChar
    { policy.sections with allowedPaths := [] } false
  refine ⟨?_, ?_⟩
  · intro hequal
    have hentries : ∀ type, ∀ entry ∈ policy.sections.get type,
        IsEntry entry ∧ '\r' ∉ entry ∧ '\n' ∉ entry := by
      intro type entry hentry
      rw [← hequal] at hentry
      exact ⟨isEntry_of_mem hentry,
        not_mem_of_mem_sections (fun line hline => (no_break_of_mem_getContent hline).1) hentry,
        not_mem_of_mem_sections (fun line hline => (no_break_of_mem_getContent hline).2) hentry⟩
    have hread := hwritten.mpr fun type entry hentry => by
      cases type with
      | whitelist => exact hentries .whitelist entry hentry
      | blockedSubdomain => exact hentries .blockedSubdomain entry hentry
      | blockedPath => exact hentries .blockedPath entry hentry
      | allowedPath => cases hentry
    refine ⟨?_, hentries⟩
    rw [← hequal, getWhitelistSectionsFromFile, whitelistFile, hread]
  · rintro ⟨hallowed, hentries⟩
    have hsections : { policy.sections with allowedPaths := [] } = policy.sections := by
      rw [← hallowed]
    rw [hsections] at hwritten
    rw [getWhitelistSectionsFromFile, whitelistFile, hsections, hwritten.mpr hentries]

/-- An enabled document is always accepted, since the domains of the control plane
are valid. -/
theorem acceptContent_eq (configHosts : List Text) {content : Text}
    (henabled : (getWhitelistSectionsFromLines isWordChar (content.splitOn '\n')).isDisabled =
      false) :
    acceptContent isWordChar configHosts content =
      .ok { sections := filterSections configHosts
              (getWhitelistSectionsFromLines isWordChar (content.splitOn '\n')).sections
            isDisabled := false } := by
  let document := (getWhitelistSectionsFromLines isWordChar (content.splitOn '\n')).sections
  have hvalid : ¬ ((filterSections configHosts document).whitelist.filter
      testDomainFormat).length < minRequiredDomains := by
    have hnormal : normalizeDomain "github.com".toList = some "github.com".toList := by
      decide
    obtain ⟨kept, hkept, -⟩ := exists_mem_foldl_addNormalized
      (List.mem_append_right document.whitelist (github_mem_getProtectedDomains configHosts))
      hnormal []
    have hformat : testDomainFormat kept = true := by
      rcases mem_foldl_addNormalized hkept with hnone | ⟨domain, -, hdomain⟩
      · cases hnone
      · exact (normalizeDomain_eq_some hdomain).2
    have hmem : kept ∈ (filterSections configHosts document).whitelist.filter
        testDomainFormat := by
      rw [filterSections_eq]
      exact List.mem_filter.mpr ⟨hkept, hformat⟩
    exact Nat.not_lt.mpr (List.length_pos_of_mem hmem)
  rw [acceptContent]
  dsimp only
  rw [henabled, if_neg Bool.false_ne_true, if_neg hvalid]

/-- Exactly the persistable documents have a filtered policy that can be written
without loss. -/
theorem persistable_iff {lines : List Text} (hlines : ∀ line ∈ lines, '\n' ∉ line)
    {document : Sections}
    (hdocument : document = (getWhitelistSectionsFromLines isWordChar lines).sections) :
    ((filterSections configHosts document).allowedPaths = [] ∧
      ∀ type, ∀ entry ∈ (filterSections configHosts document).get type,
        IsEntry entry ∧ '\r' ∉ entry ∧ '\n' ∉ entry) ↔
      Persistable configHosts document := by
  have hfeed : ∀ type, ∀ entry ∈ document.get type, '\n' ∉ entry := by
    rw [hdocument]
    exact fun type entry hentry => not_mem_of_mem_sections hlines hentry
  have hpath : ∀ rule ∈ document.blockedPaths, IsEntry rule ∧ '\n' ∉ rule := by
    refine fun rule hrule => ⟨?_, hfeed .blockedPath rule hrule⟩
    rw [hdocument] at hrule
    exact @isEntry_of_mem isWordChar lines rule .blockedPath hrule
  have hallowed : (filterSections configHosts document).allowedPaths = document.allowedPaths := by
    rw [filterSections_eq]
  refine ⟨?_, ?_⟩
  · rintro ⟨hempty, hentries⟩
    exact
      { whitelist := whitelist_persistable_iff.mp (hentries .whitelist)
        blockedSubdomains := (blockedSubdomains_persistable_iff (hfeed .blockedSubdomain)).mp
          (hentries .blockedSubdomain)
        blockedPaths := (blockedPaths_persistable_iff hpath).mp (hentries .blockedPath)
        allowedPaths := hallowed ▸ hempty }
  · intro hpersistable
    have hempty := hallowed.trans hpersistable.allowedPaths
    refine ⟨hempty, ?_⟩
    intro type
    cases type with
    | whitelist => exact whitelist_persistable_iff.mpr hpersistable.whitelist
    | blockedSubdomain =>
        exact (blockedSubdomains_persistable_iff (hfeed .blockedSubdomain)).mpr
          hpersistable.blockedSubdomains
    | blockedPath => exact (blockedPaths_persistable_iff hpath).mpr hpersistable.blockedPaths
    | allowedPath =>
        intro entry hentry
        rw [Sections.get, hempty] at hentry
        cases hentry

/-- What is kept of a downloaded document by the whitelist file, and of a parsed
document by rendering it. -/
theorem whitelistFile_preserves_iff (isWordChar : Char → Bool) (configHosts : List Text) :
    (∀ content document,
      document = getWhitelistSectionsFromLines isWordChar (content.splitOn '\n') →
        document.isDisabled = false →
          ∃ policy, acceptContent isWordChar configHosts content = .ok policy ∧
            policy.sections = filterSections configHosts document.sections ∧
            ((getWhitelistSectionsFromFile isWordChar (whitelistFile policy)).sections =
                policy.sections ↔
              Persistable configHosts document.sections)) ∧
      (∀ lines policy, policy = getWhitelistSectionsFromLines isWordChar lines →
        (getWhitelistSectionsFromFile isWordChar
            (setContent (convertToWhitelistFileContent policy.sections policy.isDisabled)) =
              policy ↔
          ∀ type, ∀ entry ∈ policy.sections.get type, '\r' ∉ entry ∧ '\n' ∉ entry) ∧
        (getWhitelistSectionsFromLines isWordChar
            (splitLines (convertToWhitelistFileContent policy.sections policy.isDisabled)) =
              policy ↔
          ∀ type, ∀ entry ∈ policy.sections.get type, '\n' ∉ entry)) := by
  refine ⟨?_, ?_⟩
  · intro content document hdocument henabled
    rw [hdocument] at henabled
    refine ⟨_, acceptContent_eq configHosts henabled, by rw [hdocument], ?_⟩
    rw [readBack_sections_iff, hdocument]
    exact persistable_iff (fun line hline => Foundation.not_mem_of_mem_splitOn hline) rfl
  · intro lines policy hpolicy
    have hentry : ∀ type, ∀ entry ∈ policy.sections.get type, IsEntry entry := by
      rw [hpolicy]
      exact fun type entry hentry => isEntry_of_mem hentry
    refine ⟨?_, ?_⟩
    · rw [getWhitelistSectionsFromFile, getContent_readBack_iff]
      exact ⟨fun hall type entry hmem => (hall type entry hmem).2,
        fun hall type entry hmem => ⟨hentry type entry hmem, hall type entry hmem⟩⟩
    · rw [splitLines_readBack_iff]
      exact ⟨fun hall type entry hmem => (hall type entry hmem).2,
        fun hall type entry hmem => ⟨hentry type entry hmem, hall type entry hmem⟩⟩

/-- A document with a path allowed under a domain. -/
def lessonDocument : Text :=
  "## WHITELIST\nexample.com\n## ALLOWED-PATHS\nexample.com/lesson\n".toList

theorem lessonDocument_enabled :
    (getWhitelistSectionsFromLines Ascii.isWordChar (lessonDocument.splitOn '\n')).isDisabled =
      false := by
  decide

theorem lessonDocument_kept_iff :
    ∃ policy, acceptContent Ascii.isWordChar [] lessonDocument = .ok policy ∧
      policy.sections = filterSections [] (getWhitelistSectionsFromLines Ascii.isWordChar
        (lessonDocument.splitOn '\n')).sections ∧
      ((getWhitelistSectionsFromFile Ascii.isWordChar (whitelistFile policy)).sections =
          policy.sections ↔
        Persistable [] (getWhitelistSectionsFromLines Ascii.isWordChar
          (lessonDocument.splitOn '\n')).sections) :=
  (whitelistFile_preserves_iff Ascii.isWordChar []).1 lessonDocument _ rfl lessonDocument_enabled

/-- The file has lost the allowed path that was downloaded. -/
theorem lessonDocument_loses_allowedPath :
    ∃ policy, acceptContent Ascii.isWordChar [] lessonDocument = .ok policy ∧
      policy.isDisabled = false ∧
      policy.sections.allowedPaths = ["example.com/lesson".toList] ∧
      (getWhitelistSectionsFromFile Ascii.isWordChar (whitelistFile policy)).sections.allowedPaths
        = [] := by
  refine ⟨_, acceptContent_eq [] lessonDocument_enabled, rfl, ?_, ?_⟩
  · rw [filterSections_eq]
    decide
  · rw [filterSections_eq]
    decide

end OpenPath.Windows
