/-
# Whitelist sections of the Linux agent

`parse_whitelist_sections` runs a line filter over the document, which prints an
entry with the section it stands in for every line that is neither a header, a
comment nor blank, and a loop that reads what was printed into four lists. The
rules of the protected domains are applied last.
-/

import OpenPath.Linux.ProtectedDomains

namespace OpenPath.Linux

open Foundation Ascii Policy RulesValidation

/-- The names of the sections in the headers. -/
def sectionName : RuleType → Text
  | .whitelist => "WHITELIST".toList
  | .blockedSubdomain => "BLOCKED-SUBDOMAINS".toList
  | .blockedPath => "BLOCKED-PATHS".toList
  | .allowedPath => "ALLOWED-PATHS".toList

/-- `^[[:space:]]*##[[:space:]]*NAME[[:space:]]*$` -/
def isSectionHeader (type : RuleType) (line : Text) : Bool :=
  let rest := line.dropWhile isSpace
  "##".toList.isPrefixOf rest && Foundation.trim isSpace (rest.drop 2) == sectionName type

/-- The section that a header line opens. -/
def headerSection (line : Text) : Option RuleType :=
  [.whitelist, .blockedSubdomain, .blockedPath, .allowedPath].find? fun type =>
    isSectionHeader type line

/-- `^[[:space:]]*#` or `^[[:space:]]*$` -/
def isSkipped (line : Text) : Bool :=
  match line.dropWhile isSpace with
  | [] => true
  | c :: _ => c == '#'

/-- `sub(/\r$/, "", line)` -/
def stripCarriageReturn (line : Text) : Text :=
  if line.getLast? = some '\r' then line.dropLast else line

/-- The entries that the line filter prints, each with its section. -/
def printEntries : RuleType → List Text → List (RuleType × Text)
  | _, [] => []
  | type, line :: rest =>
      match headerSection line with
      | some next => printEntries next rest
      | none =>
          if isSkipped line then printEntries type rest
          else (type, stripCarriageReturn line) :: printEntries type rest

/-- `IFS=$'\t' read -r entry_type entry_value` on a printed line: tabs at the
ends of the value are separators, and the shell drops NUL characters. -/
def readEntryValue (line : Text) : Text :=
  Foundation.trim (· == '\t') (line.filter fun c => c ≠ Char.ofNat 0)

def addEntry (sections : Sections) (entry : RuleType × Text) : Sections :=
  sections.append entry.1 [readEntryValue entry.2]

/-- The sections of a document, before the protection. -/
def readSections (file : Text) : Sections :=
  (printEntries .whitelist (lines '\n' file)).foldl addEntry .empty

def parseWhitelistSections (config : ControlPlaneConfig) (file : Text) : Sections :=
  protectControlPlaneRules (refreshOpenpathProtectedDomains config) (readSections file)

/-! ## Entries -/

/-- A line that is read as it stands. -/
structure PlainEntry (line : Text) : Prop where
  head : ∃ c ∈ line.head?, isSpace c = false ∧ c ≠ '#'
  no_space : ∀ c ∈ line, isSpace c = false
  no_nul : Char.ofNat 0 ∉ line

variable {line : Text}

section

variable (hline : PlainEntry line)
include hline

theorem PlainEntry.dropWhile : line.dropWhile isSpace = line :=
  dropWhile_eq_self_of_head fun c hc => hline.no_space c (List.mem_of_mem_head? hc)

theorem PlainEntry.headerSection : headerSection line = none := by
  obtain ⟨c, hc, -, hhash⟩ := hline.head
  have hnot : "##".toList.isPrefixOf line = false := by
    cases line with
    | nil => rfl
    | cons d rest =>
        obtain rfl := Option.some.inj hc
        simp [List.isPrefixOf, Ne.symm hhash]
  apply List.find?_eq_none.mpr
  intro type _
  simp only [isSectionHeader, hline.dropWhile, hnot, Bool.false_and]
  exact Bool.false_ne_true

theorem PlainEntry.isSkipped : isSkipped line = false := by
  obtain ⟨c, hc, -, hhash⟩ := hline.head
  unfold Linux.isSkipped
  rw [hline.dropWhile]
  cases line with
  | nil => cases hc
  | cons d rest =>
      obtain rfl := Option.some.inj hc
      simpa using hhash

theorem PlainEntry.stripCarriageReturn : stripCarriageReturn line = line := by
  unfold Linux.stripCarriageReturn
  rw [if_neg]
  intro hlast
  have hspace := hline.no_space '\r' (List.mem_of_mem_getLast? hlast)
  revert hspace
  decide

theorem PlainEntry.readEntryValue : readEntryValue line = line := by
  have hfilter : line.filter (fun c => decide (c ≠ Char.ofNat 0)) = line := by
    apply List.filter_eq_self.mpr
    intro c hc
    have hne : c ≠ Char.ofNat 0 := by
      rintro rfl
      exact hline.no_nul hc
    simpa using hne
  unfold Linux.readEntryValue
  rw [hfilter]
  apply trim_eq_self_of_forall
  intro c hc
  by_contra htab
  obtain rfl : c = '\t' := by simpa using htab
  have hspace := hline.no_space _ hc
  revert hspace
  decide

end

variable {entries : List Text}

theorem printEntries_plain (hentries : ∀ line ∈ entries, PlainEntry line) (type : RuleType)
    (rest : List Text) :
    printEntries type (entries ++ rest) =
      entries.map (fun line => (type, line)) ++ printEntries type rest := by
  induction entries with
  | nil => rfl
  | cons line entries ih =>
      have hline := hentries line List.mem_cons_self
      have htail := ih fun other hother => hentries other (List.mem_cons_of_mem _ hother)
      rw [List.cons_append, printEntries, hline.headerSection]
      simp [hline.isSkipped, hline.stripCarriageReturn, htail]

theorem foldl_addEntry (hentries : ∀ line ∈ entries, PlainEntry line) (type : RuleType)
    (sections : Sections) :
    (entries.map fun line => (type, line)).foldl addEntry sections =
      sections.append type entries := by
  induction entries generalizing sections with
  | nil => simp
  | cons line entries ih =>
      have hline := hentries line List.mem_cons_self
      have htail := ih fun other hother => hentries other (List.mem_cons_of_mem _ hother)
      rw [List.map_cons, List.foldl_cons, htail, addEntry, hline.readEntryValue,
        Sections.append_append, List.singleton_append]

end OpenPath.Linux
