/-
# Blocked subdomains and the runtime dependencies of the Linux agent

A dependency that a rule blocks must neither enter the overlay nor be forwarded. The
overlay refuses the hosts at or under a name that it reads from the rules. A rule with
a wildcard is not read, and a host with a line break at its end is under no name,
though the name that is emitted for it has none.
-/

import OpenPath.Linux.DependencyOverlay

namespace OpenPath.Linux.Overlay

open Python RuntimeDependency
open OverlayEntry (pair)
open Foundation (Re)

/-! ## Pairs of the table -/

section Pairs

theorem pair_mem_putEntry (table : List OverlayEntry) (entry : OverlayEntry) (p : Pair) :
    p ∈ (putEntry table entry).map pair ↔
      p ∈ table.map pair ∨ p = entry.pair := by
  unfold putEntry
  split
  · rename_i hmem
    have hpairs : (table.map fun old => if old.pair = entry.pair then entry else old).map
        pair = table.map pair := by
      rw [List.map_map]
      refine List.map_congr_left fun old _ => ?_
      rw [Function.comp_apply]
      split
      · exact Eq.symm ‹_›
      · rfl
    rw [hpairs]
    exact ⟨Or.inl, fun h => h.elim id fun heq => heq ▸ hmem⟩
  · simp

theorem pair_mem_byKey (entries : List OverlayEntry) (p : Pair) :
    p ∈ (byKey entries).map pair ↔ p ∈ entries.map pair := by
  have hfold : ∀ table : List OverlayEntry, p ∈ (entries.foldl putEntry table).map
      pair ↔ p ∈ table.map pair ∨ p ∈ entries.map pair := by
    induction entries with
    | nil => simp
    | cons entry rest ih =>
        intro table
        rw [List.foldl_cons, ih, pair_mem_putEntry, List.map_cons, List.mem_cons, or_assoc]
  rw [byKey, hfold]
  simp

theorem map_pair_mergeCandidate (now expiresAt : Int) (table : List OverlayEntry) (c : Candidate) :
    (mergeCandidate now expiresAt table c).map pair =
      if c.pair ∈ table.map pair then table.map pair
      else table.map pair ++ [c.pair] := by
  unfold mergeCandidate
  split
  · rw [List.map_map]
    refine List.map_congr_left fun old _ => ?_
    rw [Function.comp_apply]
    split
    · rfl
    · rfl
  · simp [OverlayEntry.refresh, newEntry, pair, Candidate.pair]

theorem pair_mem_mergeCandidates (now expiresAt : Int) (table : List OverlayEntry)
    (candidates : List Candidate) (p : Pair) :
    p ∈ (candidates.foldl (mergeCandidate now expiresAt) table).map pair ↔
      p ∈ table.map pair ∨ p ∈ candidates.map Candidate.pair := by
  induction candidates generalizing table with
  | nil => simp
  | cons c rest ih =>
      rw [List.foldl_cons, ih, map_pair_mergeCandidate, List.map_cons, List.mem_cons]
      split
      · rename_i hmem
        exact ⟨fun h => h.imp_right Or.inr, fun h => h.elim Or.inl fun h =>
          h.elim (fun heq => Or.inl (heq ▸ hmem)) Or.inr⟩
      · rw [List.mem_append, List.mem_singleton, or_assoc]

/-- The pairs of the table are those of the entries that are left and of the requests
that are admitted. -/
theorem pair_mem_mergedTable (arguments : UpdateArguments) (now : Int)
    (requests : List (Option Json)) (entries : List OverlayEntry) (p : Pair) :
    p ∈ (mergedTable arguments now requests entries).map pair ↔
      p ∈ entries.map pair ∨
        ∃ request ∈ requests, ∃ c, arguments.policy.validateRequest request = some c ∧
          c.pair = p := by
  rw [mergedTable, pair_mem_mergeCandidates, pair_mem_byKey]
  refine or_congr_right ?_
  simp only [List.mem_map, List.mem_filterMap]
  constructor
  · rintro ⟨c, ⟨request, hrequest, hc⟩, rfl⟩
    exact ⟨request, hrequest, c, hc, rfl⟩
  · rintro ⟨request, hrequest, c, hc, rfl⟩
    exact ⟨c, ⟨request, hrequest, hc⟩, rfl⟩

end Pairs

/-! ## Names of the rules -/

/-- The arguments that the agent passes for a parsed policy. -/
def policyArguments (whitelist protectedHosts blockedSubdomains : List Text) : PolicyArguments where
  whitelist := [' '].intercalate whitelist
  protectedHosts := [' '].intercalate protectedHosts
  blockedSubdomains := [' '].intercalate blockedSubdomains

theorem mem_splitHosts_intercalate (lines : List Text) (name : Text) :
    name ∈ splitHosts ([' '].intercalate lines) ↔ ∃ line ∈ lines, name ∈ splitHosts line := by
  simp only [splitHosts, List.mem_filter, List.mem_map, mem_split_intercalate]
  constructor
  · rintro ⟨⟨word, ⟨line, hline, hword⟩, hname⟩, hne⟩
    exact ⟨line, hline, ⟨word, hword, hname⟩, hne⟩
  · rintro ⟨line, hline, ⟨word, hword, hname⟩, hne⟩
    exact ⟨⟨word, ⟨line, hline, hword⟩, hname⟩, hne⟩

theorem newline_not_mem_of_mem_splitHosts {value name : Text} (hname : name ∈ splitHosts value) :
    '\n' ∉ name := by
  obtain ⟨hname, hne⟩ := List.mem_filter.mp hname
  obtain ⟨word, hword, rfl⟩ := List.mem_map.mp hname
  have hline : '\n' ∉ word := by
    intro hmem
    have hspace := no_space_of_mem_split hword '\n' hmem
    exact absurd hspace (by decide)
  have hne : normalizeHost (some (.string word)) ≠ [] := of_decide_eq_true hne
  rw [normalizeText, normalizeHost_eq hne, Json.text_string]
  exact newline_not_mem_lower fun hmem =>
    hline (Foundation.mem_of_mem_trim (Foundation.mem_of_mem_trim hmem))

/-- A host is refused for a name that is read from a rule if it has no line break and
is at or under the name. -/
structure Respected (rules : List Text) (host : Text) : Prop where
  line : '\n' ∉ host
  rule : ∃ rule ∈ rules, ∃ name ∈ splitHosts rule, Covers name host

theorem hostMatches_rules_iff {rules : List Text} {host : Text} (hread : ReadHost isLowerAlphanumeric host) :
    hostMatches host (splitHosts ([' '].intercalate rules)) = true ↔ Respected rules host := by
  rw [hostMatches_iff]
  constructor
  · rintro ⟨name, hname, hcovers⟩
    obtain ⟨rule, hrule, hmem⟩ := (mem_splitHosts_intercalate rules name).mp hname
    exact ⟨newline_not_mem_of_covers isLowerAlphanumeric_newline hread (newline_not_mem_of_mem_splitHosts hname) hcovers,
      rule, hrule, name, hmem, hcovers⟩
  · rintro ⟨-, rule, hrule, name, hname, hcovers⟩
    exact ⟨name, (mem_splitHosts_intercalate rules name).mpr ⟨rule, hrule, hname⟩, hcovers⟩

/-! ## What is admitted -/

/-- What the check sees of the entries that have not expired. -/
def overlayObjects (now : Int) (file : Option OverlayDocument) : List JsonObject :=
  ((loadOverlayDocument file).entries.filter fun entry =>
    entry.expiresAt.any fun expiresAt => now < expiresAt).map OverlayEntry.candidate

/-- The objects among the requests. -/
def requestObjects (requests : List (Option Json)) : List JsonObject :=
  requests.filterMap fun request =>
    match request with
    | some (.object members) => some members
    | _ => none

/-- The object passes every check but that of the blocked subdomains. -/
def PolicyArguments.validateUnblocked (policy : PolicyArguments) (object : JsonObject) :
    Option Candidate :=
  validateCandidate object (splitHosts policy.whitelist) (splitHosts policy.protectedHosts) []

/-- Of the objects that pass the other checks, those whose dependency a rule blocks are
refused for a name that is read from a rule. -/
def RespectsRules (policy : PolicyArguments) (rules : List Text) (objects : List JsonObject) : Prop :=
  ∀ object ∈ objects, ∀ c, policy.validateUnblocked object = some c →
    BlockedBy rules (hostName c.dependencyHost) → Respected rules c.dependencyHost

section Admission

variable {whitelist protectedHosts rules : List Text} {object : JsonObject} {c : Candidate}
  {policy : PolicyArguments}

theorem readHost_of_validateUnblocked (hvalid : policy.validateUnblocked object = some c) :
    ReadHost isLowerAlphanumeric c.dependencyHost := by
  obtain ⟨-, hdependency, -, hne⟩ := hosts_of_validateCandidate hvalid
  rw [hdependency] at hne ⊢
  exact readHost_normalizeHost hne

theorem validate_eq_some_iff :
    (policyArguments whitelist protectedHosts rules).validate object = some c ↔
      (policyArguments whitelist protectedHosts rules).validateUnblocked object = some c ∧
        ¬ Respected rules c.dependencyHost := by
  rw [PolicyArguments.validate, validateCandidate_filter, Option.filter_eq_some_iff]
  refine and_congr_right fun hvalid => ?_
  rw [← hostMatches_rules_iff (readHost_of_validateUnblocked hvalid)]
  simp [policyArguments]

/-- No object among these is admitted with a blocked dependency if and only if they
respect the rules. -/
theorem admits_no_blocked_iff (objects : List JsonObject) :
    (∀ object ∈ objects, ∀ c,
        (policyArguments whitelist protectedHosts rules).validate object = some c →
          ¬ BlockedBy rules (hostName c.dependencyHost)) ↔
      RespectsRules (policyArguments whitelist protectedHosts rules) rules objects := by
  simp only [validate_eq_some_iff, RespectsRules, and_imp]
  refine forall₂_congr fun object _ => forall_congr' fun c => forall_congr' fun _ => ?_
  exact ⟨fun h hblocked => by_contra fun hnot => h hnot hblocked,
    fun h hnot hblocked => hnot (h hblocked)⟩

theorem pair_mem_pruneEntries (policy : PolicyArguments) (now : Int)
    (file : Option OverlayDocument) (p : Pair) :
    p ∈ (pruneEntries (loadOverlayDocument file).entries now policy).map pair ↔
      ∃ object ∈ overlayObjects now file, ∃ c, policy.validate object = some c ∧ c.pair = p := by
  simp only [pruneEntries, overlayObjects, List.mem_map, List.mem_filterMap, List.mem_filter]
  constructor
  · rintro ⟨kept, ⟨entry, hentry, hkept⟩, rfl⟩
    unfold pruneEntry at hkept
    cases hexpires : entry.expiresAt with
    | none => simp [hexpires] at hkept
    | some expiresAt =>
        simp only [hexpires] at hkept
        split at hkept
        · cases hkept
        · rename_i hlater
          obtain ⟨c, hc, rfl⟩ := Option.map_eq_some_iff.mp hkept
          exact ⟨entry.candidate, ⟨entry, ⟨hentry, by simpa [hexpires] using hlater⟩, rfl⟩, c, hc, rfl⟩
  · rintro ⟨_, ⟨entry, ⟨hentry, hlater⟩, rfl⟩, c, hc, rfl⟩
    refine ⟨{ entry with anchorHost := c.anchorHost, dependencyHost := c.dependencyHost },
      ⟨entry, hentry, ?_⟩, rfl⟩
    obtain ⟨expiresAt, hexpires, hafter⟩ := (Option.any_eq_true _ _).mp hlater
    have hnow : ¬ expiresAt ≤ now := by simpa using hafter
    simp [pruneEntry, hexpires, hnow, hc]

theorem pair_mem_mergedTable_iff (arguments : UpdateArguments) (now : Int)
    (requests : List (Option Json)) (file : Option OverlayDocument) (p : Pair) :
    p ∈ (mergedTable arguments now requests
        (pruneEntries (loadOverlayDocument file).entries now arguments.policy)).map
          pair ↔
      ∃ object ∈ overlayObjects now file ++ requestObjects requests,
        ∃ c, arguments.policy.validate object = some c ∧ c.pair = p := by
  rw [pair_mem_mergedTable, pair_mem_pruneEntries]
  simp only [List.mem_append, or_and_right, exists_or]
  refine or_congr_right ?_
  constructor
  · rintro ⟨request, hrequest, c, hc, hp⟩
    unfold PolicyArguments.validateRequest at hc
    split at hc
    · rename_i members
      exact ⟨members, List.mem_filterMap.mpr ⟨_, hrequest, rfl⟩, c, hc, hp⟩
    · cases hc
  · rintro ⟨members, hmembers, c, hc, hp⟩
    obtain ⟨request, hrequest, hobject⟩ := List.mem_filterMap.mp hmembers
    split at hobject
    · cases hobject
      exact ⟨_, hrequest, c, hc, hp⟩
    · cases hobject

/-- The one line of a host is its name. -/
theorem lines_of_readHost {host : Text} (hread : ReadHost isLowerAlphanumeric host) :
    (host.splitOn '\n').filter (· ≠ []) = [hostName host] := by
  have hname : '\n' ∉ hostName host := hread.newline_not_mem_name isLowerAlphanumeric_newline
  have hne : hostName host ≠ [] := by
    obtain ⟨⟨c, hc, -⟩, -⟩ := ends_of_mem_hostPattern hread.word
    rintro hnil
    rw [hnil] at hc
    cases hc
  rcases hread.whole with hwhole | hwhole
  · have hsplit : host.splitOn '\n' = [hostName host] := by
      rw [← hwhole] at hname
      rw [List.splitOn_eq_singleton hname, ← hwhole]
    simpa [hsplit] using hne
  · have hsplit : host.splitOn '\n' = [hostName host, []] := by
      conv_lhs => rw [hwhole]
      rw [List.splitOn_append_cons_self_of_not_mem hname, List.splitOn_nil]
    simp [hsplit, hne]

theorem mem_lines_iff {domain : Text} {hosts : List Text}
    (hread : ∀ host ∈ hosts, ReadHost isLowerAlphanumeric host) :
    domain ∈ ((hosts.flatMap (· ++ ['\n'])).splitOn '\n').filter (· ≠ []) ↔
      ∃ host ∈ hosts, hostName host = domain := by
  induction hosts with
  | nil => simp
  | cons host rest ih =>
      obtain ⟨hhost, hrest⟩ := List.forall_mem_cons.mp hread
      have hsplit : ((host :: rest).flatMap (· ++ ['\n'])).splitOn '\n' =
          host.splitOn '\n' ++ (rest.flatMap (· ++ ['\n'])).splitOn '\n' := by
        rw [List.flatMap_cons, List.append_assoc, List.singleton_append,
          List.splitOn_append_cons_self]
      rw [hsplit, List.filter_append, List.mem_append, lines_of_readHost hhost,
        List.mem_singleton, ih hrest]
      simp [eq_comm]

theorem mem_emittedDomains {now : Int} {file : Option OverlayDocument} (domain : Text) :
    domain ∈ emittedDomains policy now file ↔
      ∃ object ∈ overlayObjects now file, ∃ c, policy.validate object = some c ∧
        hostName c.dependencyHost = domain := by
  have hread : ∀ host ∈ sorted ((pruneEntries (loadOverlayDocument file).entries now policy).map
      OverlayEntry.dependencyHost).dedup, ReadHost isLowerAlphanumeric host := by
    intro host hhost
    rw [mem_sorted, List.mem_dedup, List.mem_map] at hhost
    obtain ⟨entry, hentry, rfl⟩ := hhost
    obtain ⟨object, -, c, hc, hpair⟩ := (pair_mem_pruneEntries policy now file entry.pair).mp
      (List.mem_map_of_mem hentry)
    obtain ⟨-, hdependency, -, hne⟩ := hosts_of_validateCandidate hc
    have hsame : entry.dependencyHost = c.dependencyHost := (congrArg Prod.snd hpair).symm
    rw [hsame, hdependency]
    exact readHost_normalizeHost (hdependency ▸ hne)
  rw [emittedDomains, domainsOutput, mem_lines_iff hread]
  simp only [mem_sorted, List.mem_dedup, List.mem_map]
  constructor
  · rintro ⟨_, ⟨entry, hentry, rfl⟩, rfl⟩
    obtain ⟨object, hobject, c, hc, hpair⟩ := (pair_mem_pruneEntries policy now file entry.pair).mp
      (List.mem_map_of_mem hentry)
    exact ⟨object, hobject, c, hc, congrArg (fun p => hostName p.2) hpair⟩
  · rintro ⟨object, hobject, c, hc, rfl⟩
    obtain ⟨entry, hentry, hpair⟩ := List.mem_map.mp
      ((pair_mem_pruneEntries policy now file c.pair).mpr ⟨object, hobject, c, hc, rfl⟩)
    exact ⟨_, ⟨entry, hentry, rfl⟩, congrArg (fun p => hostName p.2) hpair⟩

/-! ## Blocked subdomains -/

/-- No pair that an update takes into its table has a blocked dependency, and none
that is emitted is blocked. -/
structure BlocksWin (policy : PolicyArguments) (rules : List Text) (ttlDays capacity : Int)
    (now : Int) (requests : List (Option Json)) (file : Option OverlayDocument) : Prop where
  accepted : ∀ p ∈ (mergedTable { policy, ttlDays, capacity } now requests
      (pruneEntries (loadOverlayDocument file).entries now policy)).map OverlayEntry.pair,
    ¬ BlockedBy rules (hostName p.2)
  emitted : ∀ domain ∈ emittedDomains policy now file, ¬ BlockedBy rules domain

theorem blocksWin_iff (ttlDays capacity now : Int) (requests : List (Option Json))
    (file : Option OverlayDocument) :
    BlocksWin (policyArguments whitelist protectedHosts rules) rules ttlDays capacity now requests
        file ↔
      RespectsRules (policyArguments whitelist protectedHosts rules) rules
        (overlayObjects now file ++ requestObjects requests) := by
  rw [← admits_no_blocked_iff]
  constructor
  · intro hwin object hobject c hc
    exact hwin.accepted c.pair ((pair_mem_mergedTable_iff _ now requests file c.pair).mpr
      ⟨object, hobject, c, hc, rfl⟩)
  · intro hadmits
    refine ⟨fun p hp => ?_, fun domain hdomain => ?_⟩
    · obtain ⟨object, hobject, c, hc, rfl⟩ := (pair_mem_mergedTable_iff _ now requests file p).mp hp
      exact hadmits object hobject c hc
    · obtain ⟨object, hobject, c, hc, rfl⟩ := (mem_emittedDomains domain).mp hdomain
      exact hadmits object (List.mem_append_left _ hobject) c hc

end Admission

end OpenPath.Linux.Overlay
