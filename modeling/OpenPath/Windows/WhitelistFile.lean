/-
# The whitelist file of the Windows agent

`ConvertTo-OpenPathWhitelistFileContent` writes a policy under four headers, with
the disabled marker before them, and `Get-OpenPathWhitelistSectionsFromLines` reads
the lines back. The parser produces nonempty trimmed entries that are no comments,
and such entries survive being written and read unless they contain what the
reader of the lines takes for a line break.
-/

import OpenPath.Windows.WhitelistSections

namespace OpenPath.Windows

open DotNet Policy RulesValidation
open Foundation (flatMap_append_eq_intercalate intercalate_concat rdropWhile_eq_self_of_getLast)

/-- The entries that a section is written with. -/
def writtenEntries (entries : List Text) : List Text := (entries.map trim).filter (· ≠ [])

/-- The lines of `ConvertTo-OpenPathWhitelistFileContent`. -/
def fileLines (sections : Sections) (disabled : Bool) : List Text :=
  (if disabled then ["#DESACTIVADO".toList] else []) ++
    ("## WHITELIST".toList :: writtenEntries sections.whitelist) ++
    ([] :: "## BLOCKED-SUBDOMAINS".toList :: writtenEntries sections.blockedSubdomains) ++
    ([] :: "## BLOCKED-PATHS".toList :: writtenEntries sections.blockedPaths) ++
    ([] :: "## ALLOWED-PATHS".toList :: writtenEntries sections.allowedPaths)

/-- `ConvertTo-OpenPathWhitelistFileContent`. A list that the caller does not pass
is empty. -/
def convertToWhitelistFileContent (sections : Sections) (disabled : Bool) : Text :=
  trimEnd (newLine.intercalate (fileLines sections disabled))

/-! ## What the parser produces -/

/-- A nonempty trimmed text that is neither a comment, a header nor a marker. -/
structure IsEntry (entry : Text) : Prop where
  nonempty : entry ≠ []
  no_hash : entry.head? ≠ some '#'
  trimmed : trim entry = entry

variable {entry : Text}

theorem IsEntry.plainLine (hentry : IsEntry entry) : PlainLine entry where
  nonempty := by simpa [hentry.trimmed] using hentry.nonempty
  no_hash := by simpa [hentry.trimmed] using hentry.no_hash

variable {line : Text}

theorem PlainLine.isEntry (hline : PlainLine line) : IsEntry (trim line) where
  nonempty := hline.nonempty
  no_hash := hline.no_hash
  trimmed := trim_trim line

variable {isWordChar : Char → Bool} {state : ParserState} {type : RuleType}

theorem mem_addEntry {trimmed : Text}
    (hentry : entry ∈ (addEntry state trimmed).result.sections.get type) :
    entry ∈ state.result.sections.get type ∨ entry = trimmed := by
  unfold addEntry at hentry
  split at hentry
  · rename_i added _
    simp only [ParserState.append, Sections.get_append, List.mem_append] at hentry
    rcases hentry with hold | hnew
    · exact Or.inl hold
    · by_cases hadded : type = added
      · rw [if_pos hadded] at hnew
        exact Or.inr (List.mem_singleton.mp hnew)
      · rw [if_neg hadded] at hnew
        cases hnew
  · exact Or.inl hentry

/-- One line adds no entry but itself, trimmed, and only where it is a plain one. -/
theorem mem_parseLine
    (hentry : entry ∈ (parseLine isWordChar state line).result.sections.get type) :
    entry ∈ state.result.sections.get type ∨ (PlainLine line ∧ entry = trim line) := by
  unfold parseLine at hentry
  dsimp only at hentry
  split at hentry
  · exact Or.inl hentry
  · rename_i hnonempty
    split at hentry
    · exact Or.inl hentry
    · split at hentry
      · exact Or.inl hentry
      · split at hentry
        · exact Or.inl hentry
        · rename_i hhash
          rcases mem_addEntry hentry with hold | hnew
          · exact Or.inl hold
          · exact Or.inr ⟨⟨hnonempty, hhash⟩, hnew⟩

variable {lines : List Text}

theorem mem_foldl_parseLine
    (hentry : entry ∈ (lines.foldl (parseLine isWordChar) state).result.sections.get type) :
    entry ∈ state.result.sections.get type ∨ ∃ line ∈ lines, PlainLine line ∧ entry = trim line := by
  induction lines generalizing state with
  | nil => exact Or.inl hentry
  | cons line lines ih =>
      rcases ih hentry with hstep | ⟨other, hother, hplain, hequal⟩
      · rcases mem_parseLine hstep with hold | hnew
        · exact Or.inl hold
        · exact Or.inr ⟨line, List.mem_cons_self, hnew⟩
      · exact Or.inr ⟨other, List.mem_cons_of_mem line hother, hplain, hequal⟩

/-- Every entry that is read is a line of the document, trimmed. -/
theorem mem_getWhitelistSections
    (hentry : entry ∈ (getWhitelistSectionsFromLines isWordChar lines).sections.get type) :
    ∃ line ∈ lines, PlainLine line ∧ entry = trim line := by
  have hnone : entry ∉ ParserState.initial.result.sections.get type := by
    rw [show ParserState.initial.result.sections = Sections.empty from rfl, Sections.get_empty]
    exact List.not_mem_nil
  exact (mem_foldl_parseLine hentry).resolve_left hnone

theorem isEntry_of_mem {lines : List Text} {entry : Text} {type : RuleType}
    (hentry : entry ∈ (getWhitelistSectionsFromLines isWordChar lines).sections.get type) :
    IsEntry entry := by
  obtain ⟨line, -, hplain, rfl⟩ := mem_getWhitelistSections hentry
  exact hplain.isEntry

theorem not_mem_of_mem_sections {c : Char} (hlines : ∀ line ∈ lines, c ∉ line)
    (hentry : entry ∈ (getWhitelistSectionsFromLines isWordChar lines).sections.get type) :
    c ∉ entry := by
  obtain ⟨line, hline, -, rfl⟩ := mem_getWhitelistSections hentry
  exact fun hc => hlines line hline (mem_of_mem_trim hc)

/-! ## The lines that are written -/

variable {entries : List Text}

theorem writtenEntries_eq_self (hentries : ∀ entry ∈ entries, IsEntry entry) :
    writtenEntries entries = entries := by
  have htrim : entries.map trim = entries := by
    conv_rhs => rw [← List.map_id entries]
    exact List.map_congr_left fun entry hentry => (hentries entry hentry).trimmed
  rw [writtenEntries, htrim]
  exact List.filter_eq_self.mpr fun entry hentry =>
    decide_eq_true (hentries entry hentry).nonempty

theorem mem_writtenEntries (hline : line ∈ writtenEntries entries) :
    line ≠ [] ∧ trim line = line := by
  obtain ⟨hmem, hnonempty⟩ := List.mem_filter.mp hline
  obtain ⟨entry, -, rfl⟩ := List.mem_map.mp hmem
  exact ⟨by simpa using hnonempty, trim_trim entry⟩

section

variable (sections : Sections) (disabled : Bool)

theorem exists_last_fileLines :
    ∃ init last, fileLines sections disabled = init ++ [last] ∧ last ≠ [] ∧ trim last = last := by
  let final := "## ALLOWED-PATHS".toList :: writtenEntries sections.allowedPaths
  have hfinal : ∀ line ∈ final, line ≠ [] ∧ trim line = line := by
    intro line hline
    rcases List.mem_cons.mp hline with rfl | hwritten
    · decide
    · exact mem_writtenEntries hwritten
  have hlast := hfinal _ (List.getLast_mem (List.cons_ne_nil _ _))
  have hsplit : final = final.dropLast ++ [final.getLast (List.cons_ne_nil _ _)] :=
    (List.dropLast_append_getLast (List.cons_ne_nil _ _)).symm
  have hlines : ∃ before, fileLines sections disabled = before ++ ([] :: final) := ⟨_, rfl⟩
  obtain ⟨before, hbefore⟩ := hlines
  refine ⟨before ++ ([] :: final.dropLast), _, ?_, hlast⟩
  rw [hbefore, List.append_assoc, List.cons_append, ← hsplit]

theorem fileLines_ne_nil : fileLines sections disabled ≠ [] := by
  obtain ⟨init, last, hlines, -, -⟩ := exists_last_fileLines sections disabled
  rw [hlines]
  exact List.concat_ne_nil last init

theorem trimEnd_intercalate_fileLines :
    trimEnd (newLine.intercalate (fileLines sections disabled)) =
      newLine.intercalate (fileLines sections disabled) := by
  obtain ⟨init, last, hlines, hnonempty, htrim⟩ := exists_last_fileLines sections disabled
  obtain ⟨before, hbefore⟩ := intercalate_concat init last newLine
  rw [hlines, hbefore]
  apply rdropWhile_eq_self_of_getLast
  rw [List.getLast?_append_of_ne_nil _ hnonempty]
  exact (trim_eq_self_iff.mp htrim).2

end

/-- The entries of a policy, all in the form in which they are written. -/
def Writable (sections : Sections) : Prop :=
  ∀ type, ∀ entry ∈ sections.get type, IsEntry entry

variable {sections : Sections}

theorem fileLines_of_writable (hwritable : Writable sections) (disabled : Bool) :
    fileLines sections disabled =
      (if disabled then ["#DESACTIVADO".toList] else []) ++
        ("## WHITELIST".toList :: sections.whitelist) ++
        ([] :: "## BLOCKED-SUBDOMAINS".toList :: sections.blockedSubdomains) ++
        ([] :: "## BLOCKED-PATHS".toList :: sections.blockedPaths) ++
        ([] :: "## ALLOWED-PATHS".toList :: sections.allowedPaths) := by
  have hwritten := fun type => writtenEntries_eq_self (hwritable type)
  rw [fileLines, show writtenEntries sections.whitelist = _ from hwritten .whitelist,
    show writtenEntries sections.blockedSubdomains = _ from hwritten .blockedSubdomain,
    show writtenEntries sections.blockedPaths = _ from hwritten .blockedPath,
    show writtenEntries sections.allowedPaths = _ from hwritten .allowedPath]
  rfl

def fixedLines : List Text :=
  [[], "#DESACTIVADO".toList, "## WHITELIST".toList, "## BLOCKED-SUBDOMAINS".toList,
    "## BLOCKED-PATHS".toList, "## ALLOWED-PATHS".toList]

theorem no_break_of_mem_fixedLines (hline : line ∈ fixedLines) : '\r' ∉ line ∧ '\n' ∉ line := by
  revert line
  decide

theorem mem_fileLines (hwritable : Writable sections) {disabled : Bool}
    (hline : line ∈ fileLines sections disabled) :
    (∃ type, line ∈ sections.get type) ∨
      line ∈ fixedLines := by
  rw [fileLines_of_writable hwritable] at hline
  simp only [fixedLines, List.mem_append, List.mem_cons] at hline ⊢
  rcases hline with (((hmarker | hhead | hentry) | hblank | hhead | hentry) |
    hblank | hhead | hentry) | hblank | hhead | hentry
  · cases disabled <;> simp_all
  · simp [hhead]
  · exact Or.inl ⟨.whitelist, hentry⟩
  · simp [hblank]
  · simp [hhead]
  · exact Or.inl ⟨.blockedSubdomain, hentry⟩
  · simp [hblank]
  · simp [hhead]
  · exact Or.inl ⟨.blockedPath, hentry⟩
  · simp [hblank]
  · simp [hhead]
  · exact Or.inl ⟨.allowedPath, hentry⟩

/-! ## Reading what was written -/

theorem parseLine_header (state : ParserState) (type : RuleType) :
    parseLine isWordChar state ("## ".toList ++ typeName type) =
      { state with openSection := typeName type } := by
  cases type <;> rfl

theorem foldl_parseLine_blank (state : ParserState) (lines : List Text) :
    ([] :: lines).foldl (parseLine isWordChar) state = lines.foldl (parseLine isWordChar) state :=
  rfl

theorem foldl_parseLine_section {sections : Sections} (hwritable : Writable sections)
    (state : ParserState) (type : RuleType) :
    (("## ".toList ++ typeName type) :: sections.get type).foldl (parseLine isWordChar) state =
      ParserState.append { state with openSection := typeName type } type (sections.get type) := by
  have htrim : (sections.get type).map trim = sections.get type := by
    conv_rhs => rw [← List.map_id (sections.get type)]
    exact List.map_congr_left fun entry hentry => (hwritable type entry hentry).trimmed
  rw [List.foldl_cons, parseLine_header,
    foldl_parseLine_plain (fun entry hentry => (hwritable type entry hentry).plainLine)
      (sectionType_typeName type), htrim]

/-- The parser reads back the lines of every writable policy. -/
theorem getWhitelistSections_fileLines (hwritable : Writable sections) (disabled : Bool) :
    getWhitelistSectionsFromLines isWordChar (fileLines sections disabled) =
      { sections := sections, isDisabled := disabled } := by
  have hmarker : ((if disabled then ["#DESACTIVADO".toList] else []).foldl
      (parseLine isWordChar) .initial) =
      { openSection := "WHITELIST".toList
        result := { sections := .empty, isDisabled := disabled } } := by
    cases disabled <;> rfl
  have hwhitelist := fun state => @foldl_parseLine_section isWordChar sections hwritable state .whitelist
  have hsubdomains := fun state => @foldl_parseLine_section isWordChar sections hwritable state .blockedSubdomain
  have hblocked := fun state => @foldl_parseLine_section isWordChar sections hwritable state .blockedPath
  have hallowed := fun state => @foldl_parseLine_section isWordChar sections hwritable state .allowedPath
  rw [getWhitelistSectionsFromLines, fileLines_of_writable hwritable]
  simp only [List.foldl_append, hmarker]
  rw [show List.foldl _ _ ("## WHITELIST".toList :: sections.whitelist) = _ from hwhitelist _]
  rw [foldl_parseLine_blank, foldl_parseLine_blank, foldl_parseLine_blank]
  rw [show List.foldl _ _ ("## BLOCKED-SUBDOMAINS".toList :: sections.blockedSubdomains) = _ from
    hsubdomains _]
  rw [show List.foldl _ _ ("## BLOCKED-PATHS".toList :: sections.blockedPaths) = _ from hblocked _]
  rw [show List.foldl _ _ ("## ALLOWED-PATHS".toList :: sections.allowedPaths) = _ from hallowed _]
  rfl

/-- Writing and reading a policy, for any way to read the lines of a file that
finds the lines that were written where none of them contains what it takes for a
line break. -/
theorem readBack_iff {sections : Sections} {disabled : Bool} {breaks : List Char}
    {lines : List Text}
    (hwritten : Writable sections →
      (∀ line ∈ fileLines sections disabled, ∀ c ∈ breaks, c ∉ line) →
        lines = fileLines sections disabled)
    (hread : ∀ line ∈ lines, ∀ c ∈ breaks, c ∉ line) (hbreaks : ∀ c ∈ breaks, c = '\r' ∨ c = '\n') :
    getWhitelistSectionsFromLines isWordChar lines =
        { sections := sections, isDisabled := disabled } ↔
      ∀ type, ∀ entry ∈ sections.get type, IsEntry entry ∧ ∀ c ∈ breaks, c ∉ entry := by
  refine ⟨?_, ?_⟩
  · intro hequal type entry hentry
    have hmem : entry ∈ (getWhitelistSectionsFromLines isWordChar lines).sections.get type := by
      rwa [hequal]
    exact ⟨isEntry_of_mem hmem,
      fun c hc => not_mem_of_mem_sections (fun line hline => hread line hline c hc) hmem⟩
  · intro hentries
    have hwritable : Writable sections := fun type entry hentry => (hentries type entry hentry).1
    rw [hwritten hwritable, getWhitelistSections_fileLines hwritable]
    intro line hline c hc
    rcases mem_fileLines hwritable hline with ⟨type, hentry⟩ | hfixed
    · exact (hentries type line hentry).2 c hc
    · rcases hbreaks c hc with rfl | rfl
      · exact (no_break_of_mem_fixedLines hfixed).1
      · exact (no_break_of_mem_fixedLines hfixed).2

/-- The whitelist file, written with `Set-Content` and read with `Get-Content`. -/
theorem getContent_readBack_iff (sections : Sections) (disabled : Bool) :
    getWhitelistSectionsFromLines isWordChar
        (getContent (setContent (convertToWhitelistFileContent sections disabled))) =
        { sections := sections, isDisabled := disabled } ↔
      ∀ type, ∀ entry ∈ sections.get type, IsEntry entry ∧ '\r' ∉ entry ∧ '\n' ∉ entry := by
  have hcontent : setContent (convertToWhitelistFileContent sections disabled) =
      (fileLines sections disabled).flatMap (· ++ newLine) := by
    rw [setContent, convertToWhitelistFileContent, trimEnd_intercalate_fileLines,
      flatMap_append_eq_intercalate (fileLines_ne_nil sections disabled)]
  have hgeneral := @readBack_iff isWordChar sections disabled ['\r', '\n']
    (getContent (setContent (convertToWhitelistFileContent sections disabled)))
    (fun _ hlines => by
      rw [hcontent]
      exact getContent_newLines fun line hline =>
        ⟨hlines line hline '\r' (by simp), hlines line hline '\n' (by simp)⟩)
    (fun line hline c hc => by
      obtain ⟨hreturn, hfeed⟩ := no_break_of_mem_getContent hline
      simp only [List.mem_cons, List.not_mem_nil, or_false] at hc
      rcases hc with rfl | rfl
      · exact hreturn
      · exact hfeed)
    (by simp)
  simpa using hgeneral

/-- The rendered text, split at its line feeds. -/
theorem splitLines_readBack_iff (sections : Sections) (disabled : Bool) :
    getWhitelistSectionsFromLines isWordChar
        (splitLines (convertToWhitelistFileContent sections disabled)) =
        { sections := sections, isDisabled := disabled } ↔
      ∀ type, ∀ entry ∈ sections.get type, IsEntry entry ∧ '\n' ∉ entry := by
  have hgeneral := @readBack_iff isWordChar sections disabled ['\n']
    (splitLines (convertToWhitelistFileContent sections disabled))
    (fun _ hlines => by
      rw [convertToWhitelistFileContent, trimEnd_intercalate_fileLines]
      exact splitLines_intercalate (fileLines_ne_nil sections disabled) fun line hline =>
        hlines line hline '\n' (by simp))
    (fun line hline c hc => by
      rw [List.mem_singleton.mp hc]
      exact no_feed_of_mem_splitLines hline)
    (by simp)
  simpa using hgeneral

end OpenPath.Windows
