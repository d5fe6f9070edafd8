/-
# Runtime dependencies of the Windows agent: policy

`RuntimeDependency.Policy.ps1` admits a dependency of a page by its two hosts, as the
Linux agent does: it reads a host by trimming, lower-casing and matching it, and
compares it with the domains of the policy, read in the same way. Its pattern is
matched without regard to case, by which a capital I with a dot above counts as an i,
and its `$` also stands before a line break at the end.

A request that is refused says whether that counts as a success.
-/

import OpenPath.Shared.DependencyHosts
import OpenPath.Windows.ProtectedDomains

namespace OpenPath.Windows.Overlay

open DotNet RuntimeDependency
open Foundation (Re)

/-- `[a-z0-9]` without regard to case. -/
def isHostAlphanumeric (c : Char) : Bool :=
  Ascii.isAlphanumeric c || c == Unicode.capitalDottedI

def hostRegex : Re Char := hostPattern isHostAlphanumeric

/-- `Normalize-OpenPathRuntimeDependencyHost`. What is no string is read like an empty
one. -/
def normalizeHost (value : Option Json) : Text :=
  let normalized := toLowerInvariant (trimDots (trim (Json.text value)))
  if normalized = [] then []
  else if endsWithIgnoreCase normalized ".local".toList then []
  else if JavaScript.length normalized < 4 ∨ 253 < JavaScript.length normalized then []
  else if !matchLine hostRegex normalized then []
  else normalized

def normalizeText (value : Text) : Text := normalizeHost (some (.string value))

/-- `New-OpenPathRuntimeDependencyWhitelistSet` and
`New-OpenPathRuntimeDependencyBlockedSubdomainSet` -/
def hostSet (domains : List Text) : List Text := (domains.map normalizeText).filter (· ≠ [])

/-- The tests of `Test-OpenPathWhitelistCoversHost`,
`Test-OpenPathProtectedRuntimeDependencyHost` and `Test-OpenPathBlockedSubdomainMatch`:
the host is in the set or under a member of it. -/
def coversHost (set : List Text) (host : Text) : Bool :=
  containsIgnoreCase set host || set.any fun domain => endsWithIgnoreCase host ('.' :: domain)

/-- The fields of `Test-OpenPathRuntimeDependencySensitiveField` -/
def sensitiveFields : List Text :=
  ["url".toList, "resourceUrl".toList, "target_url".toList, "targetUrl".toList,
   "originUrl".toList, "documentUrl".toList, "pageUrl".toList, "headers".toList,
   "body".toList, "path".toList, "query".toList, "dom".toList, "title".toList,
   "resources".toList, "token".toList, "authorization".toList, "cookie".toList,
   "cookies".toList]

/-- `$Message.PSObject.Properties[$field]`: the names of properties are compared
without regard to case. -/
def property (message : JsonObject) (field : Text) : Option Json :=
  (message.find? fun member => equalsIgnoreCase member.1 field).map Prod.snd

structure Candidate where
  anchorHost : Text
  dependencyHost : Text
  requestType : Text
  deriving DecidableEq

/-- The result of a request that is not admitted: an error, or the reason for which
there is nothing to do. -/
inductive Refusal
  | error (text : Text)
  | skipped (reason : Text)
  deriving DecidableEq

/-- The sets that the checks of a batch share. -/
structure PolicyContext where
  whitelistSet : List Text
  protectedHosts : List Text
  blockedSubdomainSet : List Text

/-- `$Message.requestType` where it is a string. -/
def requestTypeOf (message : JsonObject) : Text :=
  toLowerInvariant (trim (Json.text (property message "requestType".toList)))

/-- `Test-OpenPathRuntimeDependencyCandidate` with `-SkipOverlayCheck` -/
def testCandidate (message : JsonObject) (context : PolicyContext) : Except Refusal Candidate :=
  if sensitiveFields.any fun field => (property message field).isSome then
    .error (.error "Sensitive fields are not accepted".toList)
  else
    let anchorHost := normalizeHost (property message "anchorHost".toList)
    let dependencyHost := normalizeHost (property message "dependencyHost".toList)
    let requestType := requestTypeOf message
    if anchorHost = [] ∨ dependencyHost = [] ∨ requestType = [] then
      .error (.error "Invalid runtime dependency payload".toList)
    else if equalsIgnoreCase requestType "main_frame".toList then
      .error (.error "main_frame dependencies are not supported".toList)
    else if equalsIgnoreCase anchorHost dependencyHost then
      .error (.skipped "same-host".toList)
    else if !coversHost context.whitelistSet anchorHost then
      .error (.error "Anchor host is not locally whitelisted".toList)
    else if coversHost context.protectedHosts anchorHost ||
        coversHost context.protectedHosts dependencyHost then
      .error (.error "Protected hosts are not accepted as runtime dependencies".toList)
    else if coversHost context.blockedSubdomainSet dependencyHost then
      .error (.error "Blocked hosts are not accepted as runtime dependencies".toList)
    else if coversHost context.whitelistSet dependencyHost then
      .error (.skipped "dependency-already-whitelisted".toList)
    else .ok { anchorHost, dependencyHost, requestType }

/-! ## Candidates -/

/-- The blocked subdomains decide nothing but whether a request is refused. -/
theorem testCandidate_filter (message : JsonObject) (context : PolicyContext) :
    (testCandidate message context).toOption =
      (testCandidate message { context with blockedSubdomainSet := [] }).toOption.filter
        fun c => !coversHost context.blockedSubdomainSet c.dependencyHost := by
  have hnone : ∀ host : Text, coversHost [] host = false := fun _ => rfl
  unfold testCandidate
  dsimp only
  split
  · rfl
  split
  · rfl
  split
  · rfl
  split
  · rfl
  split
  · rfl
  split
  · rfl
  rw [hnone, if_neg Bool.false_ne_true]
  cases hcovered : coversHost context.blockedSubdomainSet
      (normalizeHost (property message "dependencyHost".toList)) with
  | true =>
      rw [if_pos rfl]
      split
      · rfl
      · exact (Option.filter_some_neg (by simpa using hcovered)).symm
  | false =>
      rw [if_neg Bool.false_ne_true]
      split
      · rfl
      · exact (Option.filter_some_pos (by simpa using hcovered)).symm

theorem hosts_of_testCandidate {message : JsonObject} {context : PolicyContext} {c : Candidate}
    (hvalid : (testCandidate message context).toOption = some c) :
    c.anchorHost = normalizeHost (property message "anchorHost".toList) ∧
      c.dependencyHost = normalizeHost (property message "dependencyHost".toList) ∧
      c.anchorHost ≠ [] ∧ c.dependencyHost ≠ [] := by
  unfold testCandidate at hvalid
  dsimp only at hvalid
  split at hvalid
  · cases hvalid
  split at hvalid
  · cases hvalid
  rename_i hnonempty
  split at hvalid
  · cases hvalid
  split at hvalid
  · cases hvalid
  split at hvalid
  · cases hvalid
  split at hvalid
  · cases hvalid
  split at hvalid
  · cases hvalid
  split at hvalid
  · cases hvalid
  · rw [not_or, not_or] at hnonempty
    rw [← Option.some.inj hvalid]
    dsimp only
    exact ⟨rfl, rfl, hnonempty.1, hnonempty.2.1⟩

/-! ## Normal forms -/

/-- What is cut from a host before it is matched. -/
def lowerForm (value : Text) : Text := toLowerInvariant (trimDots (trim value))

theorem isHostAlphanumeric_newline : isHostAlphanumeric '\n' = false := by decide

variable {c : Char}

theorem isHostAlphanumeric_of_isLowerAlphanumeric (hc : isLowerAlphanumeric c = true) :
    isHostAlphanumeric c = true := by
  rw [isLowerAlphanumeric, Bool.or_eq_true] at hc
  rcases hc with hc | hc
  · simp [isHostAlphanumeric, Ascii.isAlphanumeric, Ascii.isLetter, hc]
  · simp [isHostAlphanumeric, Ascii.isAlphanumeric, hc]

section

variable (hc : isHostAlphanumeric c = true)
include hc

theorem isLowerAlphanumeric_of_isHostAlphanumeric (hcapital : Ascii.isUpper c = false)
    (hdotted : c ≠ Unicode.capitalDottedI) :
    isLowerAlphanumeric c = true := by
  rw [isHostAlphanumeric, beq_false_of_ne hdotted, Bool.or_false, Ascii.isAlphanumeric,
    Ascii.isLetter, ← Ascii.isUpper, hcapital, Bool.or_false] at hc
  exact hc

theorem isHostAlphanumeric_plain : isWhiteSpace c = false ∧ c ≠ '.' := by
  rw [isHostAlphanumeric, Bool.or_eq_true, beq_iff_eq] at hc
  rcases hc with hc | rfl
  · have hrange := Ascii.toNat_of_isAlphanumeric hc
    refine ⟨?_, ?_⟩
    · simp only [isWhiteSpace, Bool.or_eq_false_iff, Bool.and_eq_false_iff,
        decide_eq_false_iff_not, beq_eq_false_iff_ne]
      omega
    · rintro rfl
      have hdot : ('.').toNat = 46 := rfl
      omega
  · exact ⟨by decide, by decide⟩

theorem isHostAlphanumeric_basic : c.toNat < 0x10000 := by
  rw [isHostAlphanumeric, Bool.or_eq_true, beq_iff_eq] at hc
  rcases hc with hc | rfl
  · have hrange := Ascii.toNat_of_isAlphanumeric hc
    omega
  · decide

end

variable {host : Text}

theorem endsWithIgnoreCase_local_iff (hhost : NoCapital host) :
    endsWithIgnoreCase host ".local".toList = true ↔ ".local".toList <:+ host :=
  endsWithIgnoreCase_iff hhost fun c hc => by
    have hlower : (".local".toList.all fun c => !Ascii.isUpper c) = true := by decide
    simpa using List.all_eq_true.mp hlower c hc

/-! ## Hosts of a class of letters and digits -/

/-- The checks of a host that has been trimmed and lower-cased. -/
def checkedHost (isAlnum : Char → Bool) (normalized : Text) : Text :=
  if normalized = [] then []
  else if endsWithIgnoreCase normalized ".local".toList then []
  else if JavaScript.length normalized < 4 ∨ 253 < JavaScript.length normalized then []
  else if !matchLine (hostPattern isAlnum) normalized then []
  else normalized

section CheckedHost

variable {isAlnum : Char → Bool} {host : Text}

/-- Nothing is cut from what is read. -/
theorem checkedHost_eq (hhost : checkedHost isAlnum host ≠ []) :
    checkedHost isAlnum host = host := by
  unfold checkedHost at hhost ⊢
  split at hhost
  · exact absurd rfl hhost
  split at hhost
  · exact absurd rfl hhost
  split at hhost
  · exact absurd rfl hhost
  split at hhost
  · exact absurd rfl hhost
  rename_i hnonempty hlocal hlength hmatch
  rw [if_neg hnonempty, if_neg hlocal, if_neg hlength, if_neg hmatch]

/-- The code units of a host are its characters. -/
theorem length_of_readHost (hbasic : ∀ c, isAlnum c = true → c.toNat < 0x10000)
    (hchars : ∀ c ∈ host, isAlnum c = true ∨ c = '-' ∨ c = '.' ∨ c = '\n') :
    JavaScript.length host = host.length := by
  refine JavaScript.length_of_basic fun c hc => ?_
  rcases hchars c hc with hclass | rfl | rfl | rfl
  · exact hbasic c hclass
  · decide
  · decide
  · decide

/-- A text is read if and only if it has the form of a host. -/
theorem checkedHost_ne_nil_iff (hbreak : isAlnum '\n' = false)
    (hbasic : ∀ c, isAlnum c = true → c.toNat < 0x10000) (hhost : NoCapital host) :
    checkedHost isAlnum host ≠ [] ↔ ReadHost isAlnum host := by
  have hlocal := endsWithIgnoreCase_local_iff hhost
  unfold checkedHost
  constructor
  · intro hvalue
    split at hvalue
    · exact absurd rfl hvalue
    split at hvalue
    · exact absurd rfl hvalue
    split at hvalue
    · exact absurd rfl hvalue
    split at hvalue
    · exact absurd rfl hvalue
    rename_i hnonempty hends hlength hmatch
    rw [Bool.not_eq_true', Bool.not_eq_false, matchLine_iff hbreak] at hmatch
    rw [hlocal] at hends
    rw [length_of_readHost hbasic (char_of_hostName hmatch.1 hmatch.2)] at hlength
    exact ⟨hmatch.1, hmatch.2, by omega, by omega, hends⟩
  · intro hread
    have hmatch : matchLine (hostPattern isAlnum) host = true :=
      (matchLine_iff hbreak host).mpr ⟨hread.word, hread.whole⟩
    have hends : ¬ endsWithIgnoreCase host ".local".toList = true := fun h =>
      hread.not_local (hlocal.mp h)
    have hlong := hread.long_enough
    have hshort := hread.short_enough
    have hne : host ≠ [] := List.ne_nil_of_length_pos (by omega)
    rw [if_neg hne, if_neg hends,
      length_of_readHost hbasic (char_of_hostName hread.word hread.whole),
      if_neg (by omega), hmatch]
    exact hne

end CheckedHost

theorem normalizeHost_eq {value : Option Json} (hvalue : normalizeHost value ≠ []) :
    normalizeHost value = lowerForm (Json.text value) :=
  checkedHost_eq hvalue

/-- A value is read if and only if its lower case has the form of a host. -/
theorem normalizeHost_ne_nil_iff (value : Option Json) :
    normalizeHost value ≠ [] ↔ ReadHost isHostAlphanumeric (lowerForm (Json.text value)) :=
  checkedHost_ne_nil_iff isHostAlphanumeric_newline (fun _ => isHostAlphanumeric_basic)
    (noCapital_toLowerInvariant _)

variable {value : Option Json}

theorem readHost_normalizeHost (hvalue : normalizeHost value ≠ []) :
    ReadHost isHostAlphanumeric (normalizeHost value) := by
  rw [normalizeHost_eq hvalue]
  exact (normalizeHost_ne_nil_iff value).mp hvalue

theorem noCapital_normalizeHost (value : Option Json) : NoCapital (normalizeHost value) := by
  by_cases hvalue : normalizeHost value = []
  · rw [hvalue]
    exact fun _ hc => absurd hc List.not_mem_nil
  · rw [normalizeHost_eq hvalue]
    exact noCapital_toLowerInvariant _

/-- Trimming takes the line break from a host. -/
theorem trim_of_word (hword : hostName host ∈ (hostPattern isHostAlphanumeric).lang)
    (hwhole : host = hostName host ∨ host = hostName host ++ ['\n']) :
    trim host = hostName host := by
  obtain ⟨⟨first, hfirst, hfirstClass⟩, last, hlast, hlastClass⟩ := ends_of_mem_hostPattern hword
  have hfirstSpace := (isHostAlphanumeric_plain hfirstClass).1
  have hname : trim (hostName host) = hostName host :=
    trim_of_ends hfirst hlast hfirstSpace (isHostAlphanumeric_plain hlastClass).1
  rcases hwhole with hwhole | hwhole
  · rw [← hwhole] at hname
    exact hname.trans hwhole
  · have hbreak : trim (hostName host ++ ['\n']) = trim (hostName host) := by
      have hspace : isWhiteSpace '\n' = true := by decide
      have hdrop : (hostName host ++ ['\n']).dropWhile isWhiteSpace =
          (hostName host).dropWhile isWhiteSpace ++ ['\n'] := by
        cases hsplit : hostName host with
        | nil =>
            rw [hsplit] at hfirst
            cases hfirst
        | cons c rest =>
            rw [hsplit] at hfirst
            obtain rfl : c = first := Option.some.inj hfirst
            simp [hfirstSpace]
      rw [trim, Foundation.trim, hdrop, List.rdropWhile_concat_pos _ _ _ hspace]
      rfl
    rw [hwhole, hbreak, ← hwhole, hname]

theorem lowerForm_normalizeHost (hvalue : normalizeHost value ≠ []) :
    trimDots (trim (normalizeHost value)) = hostName (normalizeHost value) ∧
      lowerForm (normalizeHost value) = hostName (normalizeHost value) := by
  obtain ⟨hword, hwhole, -, -, -⟩ := readHost_normalizeHost hvalue
  obtain ⟨⟨first, hfirst, hfirstClass⟩, last, hlast, hlastClass⟩ := ends_of_mem_hostPattern hword
  have htrim := trim_of_word hword hwhole
  have hdots : trimDots (hostName (normalizeHost value)) = hostName (normalizeHost value) :=
    trim_of_ends hfirst hlast (by simpa using (isHostAlphanumeric_plain hfirstClass).2)
      (by simpa using (isHostAlphanumeric_plain hlastClass).2)
  have hlower : ∀ c ∈ hostName (normalizeHost value),
      Unicode.isLower c = true ∨ c = Unicode.capitalDottedI := by
    intro c hc
    have hmem := mem_of_mem_hostName hc
    rw [normalizeHost_eq hvalue] at hmem
    exact isLower_of_mem_toLowerInvariant hmem
  refine ⟨by rw [htrim, hdots], ?_⟩
  rw [lowerForm, htrim, hdots, toLowerInvariant_eq_self hlower]

variable {domains : List Text}

theorem mem_hostSet {name : Text} :
    name ∈ hostSet domains ↔ ∃ domain ∈ domains, normalizeText domain ≠ [] ∧ normalizeText domain = name := by
  simp only [hostSet, List.mem_filter, List.mem_map, decide_eq_true_eq]
  constructor
  · rintro ⟨⟨domain, hdomain, rfl⟩, hne⟩
    exact ⟨domain, hdomain, hne, rfl⟩
  · rintro ⟨domain, hdomain, hne, rfl⟩
    exact ⟨⟨domain, hdomain, rfl⟩, hne⟩

theorem coversHost_iff (hhost : NoCapital host) :
    coversHost (hostSet domains) host = true ↔ ∃ name ∈ hostSet domains, Covers name host := by
  have hname : ∀ name ∈ hostSet domains, NoCapital name := by
    intro name hmem
    obtain ⟨domain, -, -, rfl⟩ := mem_hostSet.mp hmem
    exact noCapital_normalizeHost _
  simp only [coversHost, containsIgnoreCase, Bool.or_eq_true, List.any_eq_true, ← exists_or,
    ← and_or_left]
  refine exists_congr fun name => and_congr_right fun hmem => or_congr ?_ ?_
  · exact equalsIgnoreCase_iff hhost (hname name hmem)
  · exact endsWithIgnoreCase_iff hhost (List.forall_mem_cons.mpr ⟨by decide, hname name hmem⟩)

end OpenPath.Windows.Overlay
