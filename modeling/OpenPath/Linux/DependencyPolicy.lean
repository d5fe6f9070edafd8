/-
# Runtime dependencies of the Linux agent: policy

`runtime-dependency-overlay.py` admits a dependency of a page by its two hosts. A host
is trimmed, lower-cased and matched with a pattern; it is compared with the domains of
the policy, which are read in the same way, so that a domain behind a wildcard is not
read at all.

The pattern ends in `$`, which in Python also stands before a line break at the end: a
host such as `example.com`, a line break and a dot is read with its line break.
-/

import OpenPath.Shared.DependencyHosts

namespace OpenPath.Linux.Overlay

open Python RuntimeDependency
open Foundation (Re)

/-- `HOST_PATTERN` -/
def hostRegex : Re Char := hostPattern isLowerAlphanumeric

/-- `SENSITIVE_FIELDS` -/
def sensitiveFields : List Text :=
  ["url".toList, "resourceUrl".toList, "target_url".toList, "targetUrl".toList,
   "originUrl".toList, "documentUrl".toList, "pageUrl".toList, "headers".toList,
   "header".toList, "body".toList, "path".toList, "query".toList, "dom".toList,
   "title".toList, "referrer".toList, "token".toList, "authorization".toList,
   "cookie".toList, "cookies".toList]

/-- `normalize_host`. What is no string is read like an empty one. -/
def normalizeHost (value : Option Json) : Text :=
  let normalized := lower (stripDots (strip (Json.text value)))
  if ".local".toList.isSuffixOf normalized then []
  else if normalized.length < 4 ∨ 253 < normalized.length then []
  else if !matchLine hostRegex normalized then []
  else normalized

/-- `normalize_host` of a string. -/
def normalizeText (value : Text) : Text := normalizeHost (some (.string value))

/-- `split_hosts` -/
def splitHosts (value : Text) : List Text :=
  ((split value).map normalizeText).filter (· ≠ [])

/-- `host_matches` -/
def hostMatches (host : Text) (domains : List Text) : Bool :=
  domains.any fun domain => host == domain || ('.' :: domain).isSuffixOf host

structure Candidate where
  anchorHost : Text
  dependencyHost : Text
  requestType : Text
  deriving DecidableEq

/-- `validate_candidate` -/
def validateCandidate (entry : JsonObject) (whitelist protectedHosts blockedSubdomains : List Text) :
    Option Candidate :=
  if sensitiveFields.any fun field => (entry.lookup field).isSome then none
  else
    let anchorHost := normalizeHost (entry.lookup "anchorHost".toList)
    let dependencyHost := normalizeHost (entry.lookup "dependencyHost".toList)
    let requestType :=
      lower (strip (str ((entry.lookup "requestType".toList).getD (.string []))))
    if anchorHost = [] ∨ dependencyHost = [] ∨ requestType = [] then none
    else if requestType = "main_frame".toList then none
    else if anchorHost = dependencyHost then none
    else if !hostMatches anchorHost whitelist then none
    else if hostMatches anchorHost protectedHosts || hostMatches dependencyHost protectedHosts then
      none
    else if hostMatches dependencyHost blockedSubdomains then none
    else some { anchorHost, dependencyHost, requestType }

/-! ## Candidates -/

/-- The blocked subdomains are looked at last. -/
theorem validateCandidate_filter (entry : JsonObject)
    (whitelist protectedHosts blockedSubdomains : List Text) :
    validateCandidate entry whitelist protectedHosts blockedSubdomains =
      (validateCandidate entry whitelist protectedHosts []).filter
        fun c => !hostMatches c.dependencyHost blockedSubdomains := by
  have hnone : ∀ host : Text, hostMatches host [] = false := fun _ => rfl
  unfold validateCandidate
  dsimp only
  split
  · rfl
  split
  · rfl
  split
  · rfl
  split
  · rfl
  split
  · rfl
  split
  · rfl
  · rw [hnone, if_neg Bool.false_ne_true, Option.filter_some]
    cases hostMatches (normalizeHost (entry.lookup "dependencyHost".toList)) blockedSubdomains with
    | true => rfl
    | false => rfl

theorem hosts_of_validateCandidate {entry : JsonObject}
    {whitelist protectedHosts blockedSubdomains : List Text} {c : Candidate}
    (hvalid : validateCandidate entry whitelist protectedHosts blockedSubdomains = some c) :
    c.anchorHost = normalizeHost (entry.lookup "anchorHost".toList) ∧
      c.dependencyHost = normalizeHost (entry.lookup "dependencyHost".toList) ∧
      c.anchorHost ≠ [] ∧ c.dependencyHost ≠ [] := by
  unfold validateCandidate at hvalid
  dsimp only at hvalid
  split at hvalid
  · cases hvalid
  split at hvalid
  · cases hvalid
  rename_i hnonempty
  split at hvalid
  · cases hvalid
  split at hvalid
  · cases hvalid
  split at hvalid
  · cases hvalid
  split at hvalid
  · cases hvalid
  split at hvalid
  · cases hvalid
  · rw [not_or, not_or] at hnonempty
    rw [← Option.some.inj hvalid]
    dsimp only
    exact ⟨rfl, rfl, hnonempty.1, hnonempty.2.1⟩

/-! ## Normal forms -/

theorem hostMatches_iff (host : Text) (domains : List Text) :
    hostMatches host domains = true ↔ ∃ domain ∈ domains, Covers domain host := by
  simp [hostMatches, Covers]

/-- Nothing is cut from what is read. -/
theorem normalizeHost_eq {value : Option Json} (hvalue : normalizeHost value ≠ []) :
    normalizeHost value = lower (stripDots (strip (Json.text value))) := by
  unfold normalizeHost at hvalue ⊢
  dsimp only at hvalue ⊢
  split at hvalue
  · exact absurd rfl hvalue
  split at hvalue
  · exact absurd rfl hvalue
  split at hvalue
  · exact absurd rfl hvalue
  rename_i hlocal hlength hmatch
  rw [if_neg hlocal, if_neg hlength, if_neg hmatch]

theorem readHost_normalizeHost {value : Option Json} (hvalue : normalizeHost value ≠ []) :
    ReadHost isLowerAlphanumeric (normalizeHost value) := by
  unfold normalizeHost at hvalue ⊢
  dsimp only at hvalue ⊢
  split at hvalue
  · exact absurd rfl hvalue
  split at hvalue
  · exact absurd rfl hvalue
  split at hvalue
  · exact absurd rfl hvalue
  rename_i hlocal hlength hmatch
  rw [if_neg hlocal, if_neg hlength, if_neg hmatch]
  rw [Bool.not_eq_true', Bool.not_eq_false, hostRegex,
    matchLine_iff isLowerAlphanumeric_newline] at hmatch
  exact ⟨hmatch.1, hmatch.2, by omega, by omega, by
    rwa [List.isSuffixOf_iff_suffix] at hlocal⟩

/-- A value is read if and only if its lower case has the form of a host. -/
theorem normalizeHost_ne_nil_iff (value : Option Json) :
    normalizeHost value ≠ [] ↔
      ReadHost isLowerAlphanumeric (lower (stripDots (strip (Json.text value)))) := by
  constructor
  · intro hvalue
    rw [← normalizeHost_eq hvalue]
    exact readHost_normalizeHost hvalue
  · intro hread
    have hmatch : matchLine hostRegex (lower (stripDots (strip (Json.text value)))) = true :=
      (matchLine_iff isLowerAlphanumeric_newline _).mpr ⟨hread.word, hread.whole⟩
    have hlocal : ".local".toList.isSuffixOf
        (lower (stripDots (strip (Json.text value)))) ≠ true := fun hsuffix =>
      hread.not_local (List.isSuffixOf_iff_suffix.mp hsuffix)
    have hlong := hread.long_enough
    have hshort := hread.short_enough
    have hne : lower (stripDots (strip (Json.text value))) ≠ [] :=
      List.ne_nil_of_length_pos (by omega)
    rw [normalizeHost, if_neg hlocal, if_neg (by omega), hmatch]
    exact hne

/-- The characters of a host are neither white space nor changed by `lower`. -/
theorem plain_of_lowerAlphanumeric : ∀ n < 128,
    isLowerAlphanumeric (Char.ofNat n) = true →
      isSpace (Char.ofNat n) = false ∧ Char.ofNat n ≠ '.' := by
  decide

variable {c : Char}

theorem isSpace_of_isLowerAlphanumeric (hc : isLowerAlphanumeric c = true) :
    isSpace c = false ∧ c ≠ '.' := by
  have hplain := plain_of_lowerAlphanumeric c.toNat (toNat_lt_of_isLowerAlphanumeric hc)
  rw [Char.ofNat_toNat] at hplain
  exact hplain hc

variable {host : Text}

theorem isLower_of_word (hhost : host ∈ hostRegex.lang) :
    ∀ c ∈ host, Unicode.isLower c = true := by
  intro c hc
  rcases char_of_mem_hostPattern hhost c hc with hclass | rfl | rfl
  · have hlower := (lower_ascii c.toNat (toNat_lt_of_isLowerAlphanumeric hclass)).2
    rw [Char.ofNat_toNat] at hlower
    exact hlower hclass
  · decide
  · decide

theorem normalized_of_word (hhost : host ∈ hostRegex.lang) :
    lower (stripDots (strip host)) = host := by
  obtain ⟨⟨first, hfirst, hfirstClass⟩, last, hlast, hlastClass⟩ := ends_of_mem_hostPattern hhost
  obtain ⟨hfirstSpace, hfirstDot⟩ := isSpace_of_isLowerAlphanumeric hfirstClass
  obtain ⟨hlastSpace, hlastDot⟩ := isSpace_of_isLowerAlphanumeric hlastClass
  have hstrip : strip host = host := trim_of_ends hfirst hlast hfirstSpace hlastSpace
  have hdots : stripDots host = host :=
    trim_of_ends hfirst hlast (by simpa using hfirstDot) (by simpa using hlastDot)
  rw [hstrip, hdots]
  exact Unicode.toLowerCase_of_isLower (isLower_of_word hhost)

/-- A host that was read without a line break is read as it stands. -/
theorem normalizeText_of_readHost (hhost : ReadHost isLowerAlphanumeric host)
    (hline : '\n' ∉ host) : normalizeText host = host := by
  have hword : host ∈ hostRegex.lang := hostName_of_not_newline hline ▸ hhost.word
  have hlower := normalized_of_word hword
  have hvalue : normalizeText host ≠ [] :=
    (normalizeHost_ne_nil_iff _).mpr (by rwa [Json.text_string, hlower])
  rw [normalizeText, normalizeHost_eq hvalue, Json.text_string, hlower]

/-! ## Rules as they are read -/

theorem no_space_of_isDomainChar (hc : RulesValidation.isDomainChar c = true) :
    isSpace c = false := by
  have hrange := RulesValidation.toNat_of_isDomainChar hc
  simp only [isSpace, DotNet.isWhiteSpace, Bool.or_eq_false_iff, Bool.and_eq_false_iff,
    decide_eq_false_iff_not, beq_eq_false_iff_ne]
  omega

theorem split_of_no_space {value : Text} (hne : value ≠ [])
    (hspace : ∀ c ∈ value, isSpace c = false) : split value = [value] := by
  have hwhole : value.splitOnP isSpace = [value] := by
    rw [List.splitOnP_eq_singleton]
    intro c hc
    simp [hspace c hc]
  rw [split, hwhole, List.filter_cons_of_pos (by simpa using hne), List.filter_nil]

variable {rule : Text}

theorem split_of_admitted (hrule : Admitted rule) : split rule = [rule] := by
  have hdomainSpace : ∀ domain : Text, domain ∈ RulesValidation.domainRegex.lang →
      ∀ c ∈ domain, isSpace c = false := fun domain hdomain c hc =>
    no_space_of_isDomainChar (RulesValidation.isDomainChar_of_mem_domainRegex hdomain c hc)
  have hlong := ((RulesValidation.subdomainCheck.valid_validate_iff rule).mp hrule).long_enough
  have hne : rule ≠ [] := by
    rintro rfl
    revert hlong
    decide
  refine split_of_no_space hne fun c hc => ?_
  rcases domain_of_admitted hrule with hdomain | ⟨domain, hdomain, rfl⟩
  · exact hdomainSpace rule hdomain c hc
  · rcases List.mem_append.mp hc with hc | hc
    · have hstar : ("*.".toList.all fun c => !isSpace c) = true := by decide
      simpa using List.all_eq_true.mp hstar c hc
    · exact hdomainSpace domain hdomain c hc

theorem isSpace_of_isAlphanumeric (hc : Ascii.isAlphanumeric c = true) :
    isSpace c = false ∧ c ≠ '.' := by
  refine ⟨no_space_of_isDomainChar (by simp [RulesValidation.isDomainChar, hc]), ?_⟩
  rintro rfl
  revert hc
  decide

/-- A rule without a wildcard is read as its domain, unless that ends in `.local`. -/
theorem splitHosts_of_plain (hrule : Admitted rule) (hplain : ¬ "*.".toList <+: rule)
    (hlocal : ¬ ".local".toList <:+ ruleDomain rule) : splitHosts rule = [ruleDomain rule] := by
  obtain ⟨hword, hlong, hshort⟩ := lower_mem_hostPattern hrule hplain
  have hdomain : ruleDomain rule = lower rule := by
    rw [ruleDomain, Foundation.stripPrefix_of_not_prefix hplain]
    rfl
  have hformat := domain_of_plain hrule hplain
  obtain ⟨⟨first, hfirst, hfirstClass⟩, last, hlast, hlastClass⟩ :=
    ends_of_mem_hostPattern (mem_hostPattern_of_domainRegex hformat)
  obtain ⟨hfirstSpace, hfirstDot⟩ := isSpace_of_isAlphanumeric hfirstClass
  obtain ⟨hlastSpace, hlastDot⟩ := isSpace_of_isAlphanumeric hlastClass
  have hstrip : strip rule = rule := trim_of_ends hfirst hlast hfirstSpace hlastSpace
  have hdots : stripDots rule = rule :=
    trim_of_ends hfirst hlast (by simpa using hfirstDot) (by simpa using hlastDot)
  have hread : ReadHost isLowerAlphanumeric (lower (stripDots (strip rule))) := by
    rw [hstrip, hdots]
    exact readHost_of_word isLowerAlphanumeric_newline hword hlong hshort (hdomain ▸ hlocal)
  have hvalue : normalizeText rule ≠ [] := (normalizeHost_ne_nil_iff _).mpr hread
  have hnormal : normalizeText rule = ruleDomain rule := by
    rw [normalizeText, normalizeHost_eq hvalue, Json.text_string, hstrip, hdots, hdomain]
  rw [splitHosts, split_of_admitted hrule, List.map_singleton,
    List.filter_cons_of_pos (by simpa using hvalue), List.filter_nil, hnormal]

/-- A rule with a wildcard is not read at all. -/
theorem splitHosts_of_wildcard (hrule : Admitted rule) (hwild : "*.".toList <+: rule) :
    splitHosts rule = [] := by
  obtain ⟨domain, rfl⟩ := hwild
  have hformat := domain_of_wildcard hrule
  obtain ⟨-, last, hlast, hlastClass⟩ :=
    ends_of_mem_hostPattern (mem_hostPattern_of_domainRegex hformat)
  obtain ⟨hlastSpace, hlastDot⟩ := isSpace_of_isAlphanumeric hlastClass
  have hgetLast : ("*.".toList ++ domain).getLast? = some last := by
    rw [List.getLast?_append_of_ne_nil _ (by rintro rfl; cases hlast)]
    exact hlast
  have hstrip : strip ("*.".toList ++ domain) = "*.".toList ++ domain :=
    trim_of_ends rfl hgetLast (by decide) hlastSpace
  have hdots : stripDots ("*.".toList ++ domain) = "*.".toList ++ domain :=
    trim_of_ends rfl hgetLast (by decide) (by simpa using hlastDot)
  have hempty : normalizeText ("*.".toList ++ domain) = [] := by
    by_contra hne
    obtain ⟨first, hfirst, hfirstClass⟩ := (readHost_normalizeHost hne).head
    have hhead : (normalizeHost (some (.string ("*.".toList ++ domain)))).head? = some '*' := by
      rw [normalizeHost_eq hne, Json.text_string, hstrip, hdots]
      rfl
    have hsame : first = '*' := Option.some.inj (hfirst.symm.trans hhead)
    rw [hsame] at hfirstClass
    exact absurd hfirstClass (by decide)
  rw [splitHosts, split_of_admitted hrule, List.map_singleton, hempty]
  rfl

end OpenPath.Linux.Overlay
