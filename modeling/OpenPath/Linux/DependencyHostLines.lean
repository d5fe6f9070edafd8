/-
# Hosts as they are printed

`normalize_host` lets a host through or gives the empty string, and the command
`domains` prints the hosts that are left, one on each line. Hosts are cut at their white
space first and at their dots afterwards, and the pattern ends in `$`: a host followed by
a line break and a dot keeps the line break, and is printed on two lines.
-/

import OpenPath.Linux.DependencyBlocks

namespace OpenPath.Linux.Overlay

open Python RuntimeDependency
open Foundation (unlines splitOn_unlines)

/-- What the rules of a host ask of what is let through. -/
structure IsHost (host : Text) : Prop where
  word : host ∈ hostRegex.lang
  chars : ∀ c ∈ host, isLowerAlphanumeric c = true ∨ c = '-' ∨ c = '.'
  long_enough : 4 ≤ host.length
  short_enough : host.length ≤ 253
  not_local : ¬ ".local".toList <:+ host

/-- A value is read as a host or not at all, and what is read of it is read as it stands. -/
structure SoundlyRead (value : Text) : Prop where
  isHost : normalizeText value ≠ [] → IsHost (normalizeText value)
  idempotent : normalizeText (normalizeText value) = normalizeText value

/-- Without the white space around the value and then the dots around the rest, it is a
host followed by a line break. -/
def KeepsBreak (value : Text) : Prop :=
  ∃ name ∈ hostRegex.lang, name.length ≤ 252 ∧
    lower (stripDots (strip value)) = name ++ ['\n']

/-- The hosts that `command_domains` goes through. -/
def domainHosts (policy : PolicyArguments) (now : Int) (file : Option OverlayDocument) :
    List Text :=
  sorted ((pruneEntries (loadOverlayDocument file).entries now policy).map
    OverlayEntry.dependencyHost).dedup

/-- Every line that is printed is one host, and every host is on one line. -/
structure OneHostPerLine (policy : PolicyArguments) (now : Int) (file : Option OverlayDocument) :
    Prop where
  lines : (domainsOutput policy now file).splitOn '\n' = domainHosts policy now file ++ [[]]
  hosts : ∀ host ∈ domainHosts policy now file, IsHost host

variable {host : Text}

theorem newline_not_mem_of_mem_hostRegex (hhost : host ∈ hostRegex.lang) : '\n' ∉ host :=
  newline_not_mem_of_word isLowerAlphanumeric_newline hhost

theorem IsHost.newline_not_mem (hhost : IsHost host) : '\n' ∉ host :=
  newline_not_mem_of_mem_hostRegex hhost.word

theorem isHost_of_readHost (hread : ReadHost isLowerAlphanumeric host) (hline : '\n' ∉ host) :
    IsHost host := by
  have hword : host ∈ hostRegex.lang := hostName_of_not_newline hline ▸ hread.word
  exact
    { word := hword
      chars := char_of_mem_hostPattern hword
      long_enough := hread.long_enough
      short_enough := hread.short_enough
      not_local := hread.not_local }

theorem normalizeText_nil : normalizeText [] = [] := by decide

/-- A word of the pattern is long enough to be a host with one more character. -/
theorem three_le_of_mem_hostRegex (hhost : host ∈ hostRegex.lang) : 3 ≤ host.length := by
  obtain ⟨first, rest, hrest, hlabels, rfl⟩ := mem_hostPattern.mp hhost
  obtain ⟨second, rest, rfl⟩ := List.exists_cons_of_ne_nil hrest
  obtain ⟨c, hc, -⟩ := (hlabels first List.mem_cons_self).head
  obtain ⟨d, hd, -⟩ := (hlabels second (List.mem_cons_of_mem _ List.mem_cons_self)).head
  have hfirst : 0 < first.length := List.length_pos_of_mem (List.mem_of_mem_head? hc)
  have hsecond : 0 < second.length := List.length_pos_of_mem (List.mem_of_mem_head? hd)
  rw [List.flatMap_cons]
  simp only [List.length_append, List.length_cons]
  omega

variable {value : Text}

/-- The line break is read together with the host. -/
theorem normalizeText_of_keepsBreak (hkeeps : KeepsBreak value) :
    ∃ name ∈ hostRegex.lang, normalizeText value = name ++ ['\n'] := by
  obtain ⟨name, hname, hshort, hvalue⟩ := hkeeps
  have hlong := three_le_of_mem_hostRegex hname
  have hread : ReadHost isLowerAlphanumeric (name ++ ['\n']) :=
    { word := by rwa [hostName_append_newline]
      whole := Or.inr (by rw [hostName_append_newline])
      long_enough := by rw [List.length_append, List.length_singleton]; omega
      short_enough := by rw [List.length_append, List.length_singleton]; omega
      not_local := by
        intro hlocal
        have hlast := hlocal.getLast (by decide)
        rw [List.getLast_concat] at hlast
        exact absurd hlast (by decide) }
  have hne : normalizeText value ≠ [] :=
    (normalizeHost_ne_nil_iff _).mpr (by rwa [Json.text_string, hvalue])
  refine ⟨name, hname, ?_⟩
  rw [normalizeText, normalizeHost_eq hne, Json.text_string, hvalue]

/-- What is read has a line break only where the value keeps one. -/
theorem newline_not_mem_normalizeText (hkeeps : ¬ KeepsBreak value) :
    '\n' ∉ normalizeText value := by
  by_cases hne : normalizeText value = []
  · rw [hne]
    exact List.not_mem_nil
  have hread := readHost_normalizeHost hne
  have hname := hread.newline_not_mem_name isLowerAlphanumeric_newline
  rcases hread.whole with hwhole | hwhole
  · rw [normalizeText, hwhole]
    exact hname
  · refine absurd ⟨_, hread.word, ?_, ?_⟩ hkeeps
    · have hshort := hread.short_enough
      rw [hwhole, List.length_append, List.length_singleton] at hshort
      omega
    · rw [← hwhole, normalizeHost_eq hne, Json.text_string]

theorem soundlyRead_of_not_keepsBreak (hkeeps : ¬ KeepsBreak value) : SoundlyRead value := by
  have hline := newline_not_mem_normalizeText hkeeps
  by_cases hne : normalizeText value = []
  · exact ⟨fun hvalue => absurd hne hvalue, by rw [hne, normalizeText_nil]⟩
  · have hread := readHost_normalizeHost hne
    exact ⟨fun _ => isHost_of_readHost hread hline, normalizeText_of_readHost hread hline⟩

theorem not_isHost_of_keepsBreak (hkeeps : KeepsBreak value) :
    normalizeText value ≠ [] ∧ ¬ IsHost (normalizeText value) := by
  obtain ⟨name, -, hvalue⟩ := normalizeText_of_keepsBreak hkeeps
  rw [hvalue]
  exact ⟨by simp, fun hhost => hhost.newline_not_mem (by simp)⟩

/-! ## The printed hosts -/

variable {policy : PolicyArguments}

theorem dependencyHost_of_pruneEntry {now : Int} {entry kept : OverlayEntry}
    (hkept : pruneEntry now policy entry = some kept) :
    kept.dependencyHost = normalizeText entry.dependencyHost ∧ kept.dependencyHost ≠ [] := by
  have hlookup : entry.candidate.lookup "dependencyHost".toList =
      some (.string entry.dependencyHost) := rfl
  unfold pruneEntry at hkept
  split at hkept
  · cases hkept
  split at hkept
  · cases hkept
  · obtain ⟨c, hc, rfl⟩ := Option.map_eq_some_iff.mp hkept
    obtain ⟨-, hdependency, -, hne⟩ := hosts_of_validateCandidate hc
    rw [hlookup] at hdependency
    exact ⟨hdependency, hne⟩

theorem mem_domainHosts {now : Int} {file : Option OverlayDocument} (host : Text) :
    host ∈ domainHosts policy now file ↔
      ∃ entry ∈ (loadOverlayDocument file).entries,
        (pruneEntry now policy entry).isSome = true ∧ normalizeText entry.dependencyHost = host := by
  rw [domainHosts, mem_sorted, List.mem_dedup, List.mem_map]
  constructor
  · rintro ⟨kept, hkept, rfl⟩
    obtain ⟨entry, hentry, hleft⟩ := List.mem_filterMap.mp hkept
    exact ⟨entry, hentry, by rw [hleft, Option.isSome_some],
      (dependencyHost_of_pruneEntry hleft).1.symm⟩
  · rintro ⟨entry, hentry, hleft, rfl⟩
    obtain ⟨kept, hkept⟩ := Option.isSome_iff_exists.mp hleft
    exact ⟨kept, List.mem_filterMap.mpr ⟨entry, hentry, hkept⟩,
      (dependencyHost_of_pruneEntry hkept).1⟩

theorem oneHostPerLine_iff (policy : PolicyArguments) (now : Int)
    (file : Option OverlayDocument) :
    OneHostPerLine policy now file ↔
      ∀ entry ∈ (loadOverlayDocument file).entries,
        (pruneEntry now policy entry).isSome = true → ¬ KeepsBreak entry.dependencyHost := by
  constructor
  · intro hlines entry hentry hleft hkeeps
    have hmem := (mem_domainHosts (normalizeText entry.dependencyHost)).mpr
      ⟨entry, hentry, hleft, rfl⟩
    exact (not_isHost_of_keepsBreak hkeeps).2 (hlines.hosts _ hmem)
  · intro hentries
    have hhosts : ∀ host ∈ domainHosts policy now file, IsHost host := by
      intro host hhost
      obtain ⟨entry, hentry, hleft, rfl⟩ := (mem_domainHosts host).mp hhost
      obtain ⟨kept, hkept⟩ := Option.isSome_iff_exists.mp hleft
      obtain ⟨hsame, hne⟩ := dependencyHost_of_pruneEntry hkept
      exact (soundlyRead_of_not_keepsBreak (hentries entry hentry hleft)).isHost (hsame ▸ hne)
    refine ⟨?_, hhosts⟩
    exact splitOn_unlines fun host hhost => (hhosts host hhost).newline_not_mem

/-- A value is read soundly if and only if no line break is left at its end, and what is
printed of an overlay is one host a line if and only if no entry that is left has such a
host. -/
theorem soundlyRead_iff_not_keepsBreak (value : Text) (policy : PolicyArguments) (now : Int)
    (file : Option OverlayDocument) :
    (SoundlyRead value ↔ ¬ KeepsBreak value) ∧
      (OneHostPerLine policy now file ↔
        ∀ entry ∈ (loadOverlayDocument file).entries,
          (pruneEntry now policy entry).isSome = true → ¬ KeepsBreak entry.dependencyHost) := by
  refine ⟨⟨?_, soundlyRead_of_not_keepsBreak⟩, oneHostPerLine_iff policy now file⟩
  intro hsound hkeeps
  obtain ⟨hne, hnot⟩ := not_isHost_of_keepsBreak hkeeps
  exact hnot (hsound.isHost hne)

/-- The dot stands after the line break: `strip` cuts neither, and `strip(".")` only the dot. -/
theorem normalizeText_newline_dot :
    normalizeText "example.com\n.".toList = "example.com\n".toList ∧
      ¬ SoundlyRead "example.com\n.".toList := by
  have hvalue : lower (stripDots (strip "example.com\n.".toList)) =
      "example.com".toList ++ ['\n'] := by decide
  have hname : "example.com".toList ∈ hostRegex.lang :=
    (Foundation.Re.accepts_iff _ _).mp (by decide)
  have hkeeps : KeepsBreak "example.com\n.".toList := ⟨_, hname, by decide, hvalue⟩
  obtain ⟨hne, hnot⟩ := not_isHost_of_keepsBreak hkeeps
  refine ⟨?_, fun hsound => hnot (hsound.isHost hne)⟩
  rw [normalizeText, normalizeHost_eq hne, Json.text_string, hvalue]
  rfl

end OpenPath.Linux.Overlay
