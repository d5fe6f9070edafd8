/-
# Blocked subdomains and the runtime dependencies of the Windows agent

As on Linux, a dependency that a rule blocks must neither enter the overlay nor be
forwarded, and a rule with a wildcard is not read. A host with a line break at its end
is let into the overlay, but the names that are forwarded are trimmed and looked up
once more.
-/

import OpenPath.Windows.DependencyOverlay

namespace OpenPath.Windows.Overlay

open DotNet RuntimeDependency
open Foundation (Re)

/-! ## Rules as they are read -/

theorem isHostAlphanumeric_of_isAlphanumeric {c : Char} (hc : Ascii.isAlphanumeric c = true) :
    isHostAlphanumeric c = true := by
  rw [isHostAlphanumeric, hc, Bool.true_or]

theorem toLowerInvariant_of_ascii {value : Text} (hascii : ∀ c ∈ value, c.toNat < 0x80) :
    toLowerInvariant value = Unicode.toLowerCase value := by
  rw [toLowerCase_of_ascii hascii]
  refine List.map_congr_left fun c hc => ?_
  have hrange := hascii c hc
  have hsigma : c ≠ Unicode.capitalSigma := by
    rintro rfl
    exact absurd hrange (by decide)
  have hdotted : c ≠ Unicode.capitalDottedI := by
    rintro rfl
    exact absurd hrange (by decide)
  rw [if_neg hsigma, if_neg hdotted]

variable {rule : Text}

/-- A rule without a wildcard is read as its domain, unless that ends in `.local`. -/
theorem normalizeText_of_plain (hrule : Admitted rule) (hplain : ¬ "*.".toList <+: rule)
    (hlocal : ¬ ".local".toList <:+ ruleDomain rule) : normalizeText rule = ruleDomain rule := by
  obtain ⟨hword, hlong, hshort⟩ := lower_mem_hostPattern hrule hplain
  have hdomain : ruleDomain rule = Unicode.toLowerCase rule := by
    rw [ruleDomain, Foundation.stripPrefix_of_not_prefix hplain]
  have hformat := domain_of_plain hrule hplain
  have hascii : ∀ c ∈ rule, c.toNat < 0x80 := fun c hc =>
    toNat_lt_of_isDomainChar (RulesValidation.isDomainChar_of_mem_domainRegex hformat c hc)
  obtain ⟨⟨first, hfirst, hfirstClass⟩, last, hlast, hlastClass⟩ :=
    ends_of_mem_hostPattern (mem_hostPattern_of_domainRegex hformat)
  obtain ⟨hfirstSpace, hfirstDot⟩ :=
    isHostAlphanumeric_plain (isHostAlphanumeric_of_isAlphanumeric hfirstClass)
  obtain ⟨hlastSpace, hlastDot⟩ :=
    isHostAlphanumeric_plain (isHostAlphanumeric_of_isAlphanumeric hlastClass)
  have htrim : trim rule = rule := trim_of_ends hfirst hlast hfirstSpace hlastSpace
  have hdots : trimDots rule = rule :=
    trim_of_ends hfirst hlast (by simpa using hfirstDot) (by simpa using hlastDot)
  have hlower : toLowerInvariant (trimDots (trim rule)) = ruleDomain rule := by
    rw [htrim, hdots, toLowerInvariant_of_ascii hascii, hdomain]
  have hread : ReadHost isHostAlphanumeric (lowerForm rule) := by
    rw [lowerForm, hlower]
    rw [hdomain] at hlocal ⊢
    exact (readHost_of_word isLowerAlphanumeric_newline hword hlong hshort hlocal).mono
      fun _ _ => isHostAlphanumeric_of_isLowerAlphanumeric
  have hvalue : normalizeText rule ≠ [] := (normalizeHost_ne_nil_iff _).mpr hread
  rw [normalizeText, normalizeHost_eq hvalue, Json.text_string, lowerForm, hlower]

/-- A rule with a wildcard is not read at all. -/
theorem normalizeText_of_wildcard (hrule : Admitted rule) (hwild : "*.".toList <+: rule) :
    normalizeText rule = [] := by
  obtain ⟨domain, rfl⟩ := hwild
  have hformat := domain_of_wildcard hrule
  obtain ⟨-, last, hlast, hlastClass⟩ :=
    ends_of_mem_hostPattern (mem_hostPattern_of_domainRegex hformat)
  obtain ⟨hlastSpace, hlastDot⟩ :=
    isHostAlphanumeric_plain (isHostAlphanumeric_of_isAlphanumeric hlastClass)
  have hgetLast : ("*.".toList ++ domain).getLast? = some last := by
    rw [List.getLast?_append_of_ne_nil _ (by rintro rfl; cases hlast)]
    exact hlast
  have htrim : trim ("*.".toList ++ domain) = "*.".toList ++ domain :=
    trim_of_ends rfl hgetLast (by decide) hlastSpace
  have hdots : trimDots ("*.".toList ++ domain) = "*.".toList ++ domain :=
    trim_of_ends rfl hgetLast (by decide) (by simpa using hlastDot)
  by_contra hne
  obtain ⟨first, hfirst, hfirstClass⟩ := (readHost_normalizeHost hne).head
  have hhead : (normalizeHost (some (.string ("*.".toList ++ domain)))).head? = some '*' := by
    rw [normalizeHost_eq hne, Json.text_string, lowerForm, htrim, hdots]
    rfl
  have hsame : first = '*' := Option.some.inj (hfirst.symm.trans hhead)
  rw [hsame] at hfirstClass
  exact absurd hfirstClass (by decide)

/-! ## What is let in -/

/-- The sets that the agent builds from a parsed policy and its catalog of protected
domains. -/
def policyContext (whitelist protectedDomains rules : List Text) : PolicyContext where
  whitelistSet := hostSet whitelist
  protectedHosts := hostSet protectedDomains
  blockedSubdomainSet := hostSet rules

/-- The same without the blocked subdomains. -/
def PolicyContext.unblocked (context : PolicyContext) : PolicyContext :=
  { context with blockedSubdomainSet := [] }

/-- A host is refused for a name that is read from a rule. -/
def Respected (rules : List Text) (host : Text) : Prop :=
  ∃ rule ∈ rules, normalizeText rule ≠ [] ∧ Covers (normalizeText rule) host

variable {rules : List Text} {host : Text}

theorem coversHost_rules_iff (hhost : NoCapital host) :
    coversHost (hostSet rules) host = true ↔ Respected rules host := by
  rw [coversHost_iff hhost, Respected]
  constructor
  · rintro ⟨name, hname, hcovers⟩
    obtain ⟨rule, hrule, hne, rfl⟩ := mem_hostSet.mp hname
    exact ⟨rule, hrule, hne, hcovers⟩
  · rintro ⟨rule, hrule, hne, hcovers⟩
    exact ⟨normalizeText rule, mem_hostSet.mpr ⟨rule, hrule, hne, rfl⟩, hcovers⟩

theorem coversHost_eq_false_iff (hhost : NoCapital host) :
    coversHost (hostSet rules) host = false ↔ ¬ Respected rules host := by
  rw [← coversHost_rules_iff hhost, Bool.eq_false_iff]

/-- The name that an entry stands for. -/
def OverlayEntry.name (entry : OverlayEntry) : Text := hostName (lowerForm entry.dependencyHost)

section Names

variable {context : PolicyContext} {now : Int} {entry : OverlayEntry}

theorem name_eq_hostName (hdependency : normalizeText entry.dependencyHost ≠ []) :
    entry.name = hostName (normalizeText entry.dependencyHost) := by
  rw [normalizeText, normalizeHost_eq hdependency, Json.text_string]
  rfl

theorem hostName_hostName {value : Option Json} (hvalue : normalizeHost value ≠ []) :
    hostName (hostName (normalizeHost value)) = hostName (normalizeHost value) :=
  hostName_of_not_newline
    (newline_not_mem_of_word isHostAlphanumeric_newline (readHost_normalizeHost hvalue).word)

theorem keepsEntry_filter (context : PolicyContext) (now : Int) (entry : OverlayEntry) :
    keepsEntry context now entry =
      (keepsEntry context.unblocked now entry &&
        !coversHost context.blockedSubdomainSet (normalizeText entry.dependencyHost)) := by
  have hnone : ∀ host : Text, coversHost [] host = false := fun _ => rfl
  simp [keepsEntry, PolicyContext.unblocked, hnone]

theorem listsEntry_filter (context : PolicyContext) (now : Int) (entry : OverlayEntry) :
    listsEntry context now entry =
      (listsEntry context.unblocked now entry &&
        !coversHost context.blockedSubdomainSet (normalizeText entry.dependencyHost)) := by
  have hnone : ∀ host : Text, coversHost [] host = false := fun _ => rfl
  simp only [listsEntry, PolicyContext.unblocked, hnone, Bool.or_false, Bool.not_or]
  generalize coversHost context.blockedSubdomainSet (normalizeText entry.dependencyHost) = blocked
  cases blocked with
  | true => simp
  | false => simp

theorem dependency_of_keepsEntry (hkept : keepsEntry context now entry = true) :
    normalizeText entry.dependencyHost ≠ [] := by
  intro hempty
  simp [keepsEntry, hempty] at hkept

theorem dependency_of_listsEntry (hlisted : listsEntry context now entry = true) :
    normalizeText entry.dependencyHost ≠ [] := by
  intro hempty
  simp [listsEntry, hempty] at hlisted

end Names

/-! ## Names of the merged entries -/

theorem name_mem_mergeCandidate {now : Int} {expiresAt : Expiry} {c : Candidate}
    {value : Option Json} (hvalue : normalizeHost value ≠ [])
    (hdependency : c.dependencyHost = normalizeHost value) (entries : List OverlayEntry) (name : Text) :
    name ∈ (mergeCandidate now expiresAt c entries).map OverlayEntry.name ↔
      name ∈ entries.map OverlayEntry.name ∨ name = hostName c.dependencyHost := by
  have hnew : hostName (lowerForm c.dependencyHost) = hostName c.dependencyHost := by
    rw [hdependency, (lowerForm_normalizeHost hvalue).2, hostName_hostName hvalue]
  induction entries with
  | nil => simp [mergeCandidate, OverlayEntry.name, hnew]
  | cons entry rest ih =>
      rw [mergeCandidate]
      split
      · rename_i hsame
        have hequal : normalizeText entry.dependencyHost = c.dependencyHost := by
          rw [Bool.and_eq_true] at hsame
          rw [hdependency] at hsame ⊢
          exact (equalsIgnoreCase_iff (noCapital_normalizeHost _) (noCapital_normalizeHost _)).mp
            hsame.1
        have hname : hostName c.dependencyHost = entry.name := by
          rw [name_eq_hostName (by rw [hequal, hdependency]; exact hvalue), hequal]
        have hfirst : (OverlayEntry.name { entry with lastSeen := now, expiresAt }) = entry.name := rfl
        rw [List.map_cons, List.map_cons, hfirst, hname]
        exact ⟨Or.inl, fun h => h.elim id fun heq => heq ▸ List.mem_cons_self⟩
      · rw [List.map_cons, List.mem_cons, List.map_cons, List.mem_cons, or_assoc]
        exact or_congr_right ih

theorem name_mem_mergedEntries (arguments : UpdateArguments) (now : Int)
    (requests : List JsonObject) (entries : List OverlayEntry) (name : Text) :
    name ∈ (mergedEntries arguments now requests entries).map OverlayEntry.name ↔
      name ∈ (entries.filter (keepsEntry arguments.context now)).map OverlayEntry.name ∨
        name ∈ (admitted arguments.context requests).map fun c => hostName c.dependencyHost := by
  have hhosts : ∀ c ∈ admitted arguments.context requests,
      ∃ value, normalizeHost value ≠ [] ∧ c.dependencyHost = normalizeHost value := by
    intro c hc
    obtain ⟨request, -, hvalid⟩ := List.mem_filterMap.mp hc
    obtain ⟨-, hdependency, -, hne⟩ := hosts_of_testCandidate hvalid
    exact ⟨_, hdependency ▸ hne, hdependency⟩
  rw [mergedEntries]
  generalize entries.filter (keepsEntry arguments.context now) = kept
  generalize admitted arguments.context requests = candidates at hhosts ⊢
  induction candidates generalizing kept with
  | nil => simp
  | cons c rest ih =>
      obtain ⟨⟨value, hvalue, hdependency⟩, hrest⟩ := List.forall_mem_cons.mp hhosts
      rw [List.foldl_cons]
      refine (ih _ hrest).trans ?_
      rw [name_mem_mergeCandidate hvalue hdependency, List.map_cons, List.mem_cons, or_assoc]

/-! ## Blocked subdomains -/

/-- The dependencies that pass every check of an update but that of the blocked
subdomains. -/
def offeredHosts (context : PolicyContext) (now : Int) (requests : List JsonObject)
    (file : Option OverlayDocument) : List Text :=
  ((readDocument file).entries.filter (keepsEntry context.unblocked now)).map
      (fun entry => normalizeText entry.dependencyHost) ++
    (admitted context.unblocked requests).map Candidate.dependencyHost

/-- The dependencies that pass every other check of the list for the proxy. -/
def listedHosts (context : PolicyContext) (now : Int) (file : Option OverlayDocument) : List Text :=
  ((readDocument file).entries.filter (listsEntry context.unblocked now)).map
    fun entry => normalizeText entry.dependencyHost

/-- Of the dependencies that pass the other checks, those that a rule blocks are
refused for a name that is read from a rule. -/
structure RespectsRules (context : PolicyContext) (rules : List Text) (now : Int)
    (requests : List JsonObject) (file : Option OverlayDocument) : Prop where
  offered : ∀ host ∈ offeredHosts context now requests file,
    BlockedBy rules (hostName host) → Respected rules host
  listed : ∀ host ∈ listedHosts context now file,
    BlockedBy rules (hostName host) → Respected rules host ∨ Respected rules (hostName host)

/-- No entry that an update merges has a blocked dependency, and none that is
forwarded is blocked. -/
structure BlocksWin (context : PolicyContext) (rules : List Text) (capacity ttlDays : Int)
    (now : Int) (requests : List JsonObject) (file : Option OverlayDocument) : Prop where
  accepted : ∀ entry ∈ mergedEntries { context, capacity, ttlDays } now requests
      (readDocument file).entries, ¬ BlockedBy rules entry.name
  emitted : ∀ domain ∈ allowedDomains context (getDomains context now file),
    ¬ BlockedBy rules domain

section Blocks

variable {whitelist protectedDomains rules : List Text}

theorem admitted_filter (context : PolicyContext) (requests : List JsonObject) :
    admitted context requests = (admitted context.unblocked requests).filter
      fun c => !coversHost context.blockedSubdomainSet c.dependencyHost := by
  rw [admitted, admitted, List.filter_filterMap]
  exact List.filterMap_congr fun request _ => testCandidate_filter request context

theorem noCapital_of_admitted {context : PolicyContext} {requests : List JsonObject} {c : Candidate}
    (hc : c ∈ admitted context requests) : NoCapital c.dependencyHost := by
  obtain ⟨request, -, hvalid⟩ := List.mem_filterMap.mp hc
  obtain ⟨-, hdependency, -, -⟩ := hosts_of_testCandidate hvalid
  rw [hdependency]
  exact noCapital_normalizeHost _

/-- An update merges a name if and only if it is offered and not refused. -/
theorem name_mem_merged_iff (capacity ttlDays now : Int) (requests : List JsonObject)
    (file : Option OverlayDocument) (name : Text) :
    name ∈ (mergedEntries
          { context := policyContext whitelist protectedDomains rules, capacity, ttlDays } now
          requests (readDocument file).entries).map OverlayEntry.name ↔
      ∃ host ∈ offeredHosts (policyContext whitelist protectedDomains rules) now requests file,
        ¬ Respected rules host ∧ hostName host = name := by
  rw [name_mem_mergedEntries, admitted_filter, List.filter_congr fun entry _ =>
    keepsEntry_filter (policyContext whitelist protectedDomains rules) now entry]
  simp only [offeredHosts, List.mem_append, List.mem_map, List.mem_filter, Bool.and_eq_true,
    Bool.not_eq_true', or_and_right, exists_or]
  refine or_congr ⟨?_, ?_⟩ ⟨?_, ?_⟩
  · rintro ⟨entry, ⟨hentry, hkept, hcovers⟩, rfl⟩
    refine ⟨_, ⟨entry, ⟨hentry, hkept⟩, rfl⟩, ?_, (name_eq_hostName (dependency_of_keepsEntry hkept)).symm⟩
    exact (coversHost_eq_false_iff (noCapital_normalizeHost _)).mp hcovers
  · rintro ⟨_, ⟨entry, ⟨hentry, hkept⟩, rfl⟩, hnot, rfl⟩
    exact ⟨entry, ⟨hentry, hkept, (coversHost_eq_false_iff (noCapital_normalizeHost _)).mpr hnot⟩,
      name_eq_hostName (dependency_of_keepsEntry hkept)⟩
  · rintro ⟨c, ⟨hc, hcovers⟩, rfl⟩
    exact ⟨_, ⟨c, hc, rfl⟩, (coversHost_eq_false_iff (noCapital_of_admitted hc)).mp hcovers, rfl⟩
  · rintro ⟨_, ⟨c, hc, rfl⟩, hnot, rfl⟩
    exact ⟨c, ⟨hc, (coversHost_eq_false_iff (noCapital_of_admitted hc)).mpr hnot⟩, rfl⟩

theorem mem_foldl_addDistinct (found domains : List Text)
    (hfound : ∀ domain ∈ found, NoCapital domain) (hdomains : ∀ domain ∈ domains, NoCapital domain)
    (domain : Text) :
    domain ∈ domains.foldl addDistinct found ↔ domain ∈ found ∨ domain ∈ domains := by
  induction domains generalizing found with
  | nil => simp
  | cons first rest ih =>
      obtain ⟨hfirst, hrest⟩ := List.forall_mem_cons.mp hdomains
      have hcontains : containsIgnoreCase found first = true ↔ first ∈ found := by
        rw [containsIgnoreCase, List.any_eq_true]
        constructor
        · rintro ⟨known, hknown, hequal⟩
          rwa [(equalsIgnoreCase_iff hfirst (hfound known hknown)).mp hequal]
        · exact fun hmem => ⟨first, hmem, (equalsIgnoreCase_iff hfirst hfirst).mpr rfl⟩
      rw [List.foldl_cons, addDistinct, List.mem_cons]
      split
      · rename_i hknown
        rw [ih found hfound hrest]
        exact ⟨fun h => h.imp_right Or.inr, fun h => h.elim Or.inl fun h =>
          h.elim (fun heq => Or.inl (heq ▸ hcontains.mp hknown)) Or.inr⟩
      · have happend : ∀ known ∈ found ++ [first], NoCapital known := by
          intro known hknown
          rcases List.mem_append.mp hknown with hknown | hknown
          · exact hfound known hknown
          · rwa [List.mem_singleton.mp hknown]
        rw [ih (found ++ [first]) happend hrest, List.mem_append, List.mem_singleton, or_assoc]

theorem noCapital_hostName (value : Option Json) : NoCapital (hostName (normalizeHost value)) :=
  fun c hc => noCapital_normalizeHost value c (mem_of_mem_hostName hc)

/-- A name is forwarded if and only if it is listed and refused neither as it is listed
nor without its line break. -/
theorem mem_allowedDomains_iff (now : Int) (file : Option OverlayDocument) (domain : Text) :
    domain ∈ allowedDomains (policyContext whitelist protectedDomains rules)
        (getDomains (policyContext whitelist protectedDomains rules) now file) ↔
      ∃ host ∈ listedHosts (policyContext whitelist protectedDomains rules) now file,
        ¬ Respected rules host ∧ ¬ Respected rules (hostName host) ∧ hostName host = domain := by
  have hdistinct := mem_foldl_addDistinct []
    (((readDocument file).entries.filter
      (listsEntry (policyContext whitelist protectedDomains rules) now)).map
        fun entry => normalizeText entry.dependencyHost)
    (fun _ h => absurd h List.not_mem_nil) (by
      intro host hhost
      obtain ⟨entry, -, rfl⟩ := List.mem_map.mp hhost
      exact noCapital_normalizeHost _)
  have hname : ∀ entry : OverlayEntry, normalizeText entry.dependencyHost ≠ [] →
      trimDots (trim (normalizeText entry.dependencyHost)) =
        hostName (normalizeText entry.dependencyHost) := fun entry hne =>
    (lowerForm_normalizeHost hne).1
  have hrefused : ∀ entry : OverlayEntry,
      coversHost (hostSet rules) (hostName (normalizeText entry.dependencyHost)) = false ↔
        ¬ Respected rules (hostName (normalizeText entry.dependencyHost)) := fun entry =>
    coversHost_eq_false_iff (noCapital_hostName _)
  simp only [allowedDomains, getDomains, List.mem_filter, List.mem_map, hdistinct, listedHosts,
    List.not_mem_nil, false_or, decide_eq_true_eq]
  constructor
  · rintro ⟨⟨_, ⟨entry, ⟨hentry, hlisted⟩, rfl⟩, rfl⟩, -, htest⟩
    rw [listsEntry_filter, Bool.and_eq_true, Bool.not_eq_true'] at hlisted
    rw [hname entry (dependency_of_listsEntry hlisted.1)] at htest ⊢
    exact ⟨_, ⟨entry, ⟨hentry, hlisted.1⟩, rfl⟩,
      (coversHost_eq_false_iff (noCapital_normalizeHost _)).mp hlisted.2,
      (hrefused entry).mp htest, rfl⟩
  · rintro ⟨_, ⟨entry, ⟨hentry, hlisted⟩, rfl⟩, hnot, hnotName, rfl⟩
    have hne := dependency_of_listsEntry hlisted
    refine ⟨⟨_, ⟨entry, ⟨hentry, ?_⟩, rfl⟩, hname entry hne⟩, ?_, (hrefused entry).mpr hnotName⟩
    · rw [listsEntry_filter, hlisted, Bool.true_and, Bool.not_eq_true']
      exact (coversHost_eq_false_iff (noCapital_normalizeHost _)).mpr hnot
    · obtain ⟨⟨c, hc, -⟩, -⟩ := ends_of_mem_hostPattern (readHost_normalizeHost hne).word
      intro hnil
      rw [normalizeText] at hnil
      rw [hnil] at hc
      cases hc

theorem blocksWin_iff (capacity ttlDays now : Int) (requests : List JsonObject)
    (file : Option OverlayDocument) :
    BlocksWin (policyContext whitelist protectedDomains rules) rules capacity ttlDays now requests
        file ↔
      RespectsRules (policyContext whitelist protectedDomains rules) rules now requests file := by
  constructor
  · intro hwin
    refine ⟨fun host hhost hblocked => ?_, fun host hhost hblocked => ?_⟩
    · by_contra hnot
      obtain ⟨entry, hentry, hname⟩ := List.mem_map.mp
        ((name_mem_merged_iff capacity ttlDays now requests file (hostName host)).mpr
          ⟨host, hhost, hnot, rfl⟩)
      exact hwin.accepted entry hentry (hname ▸ hblocked)
    · by_contra hnot
      rw [not_or] at hnot
      exact hwin.emitted (hostName host)
        ((mem_allowedDomains_iff now file _).mpr ⟨host, hhost, hnot.1, hnot.2, rfl⟩) hblocked
  · intro hrespects
    refine ⟨fun entry hentry hblocked => ?_, fun domain hdomain hblocked => ?_⟩
    · obtain ⟨host, hhost, hnot, hname⟩ :=
        (name_mem_merged_iff capacity ttlDays now requests file entry.name).mp
          (List.mem_map_of_mem hentry)
      exact hnot (hrespects.offered host hhost (hname ▸ hblocked))
    · obtain ⟨host, hhost, hnot, hnotName, hname⟩ := (mem_allowedDomains_iff now file domain).mp hdomain
      exact (hrespects.listed host hhost (hname ▸ hblocked)).elim hnot hnotName

end Blocks

end OpenPath.Windows.Overlay
