/-
# Whitelist sections of the Windows agent

`Get-OpenPathWhitelistSectionsFromLines` reads the lines of a document in one
pass. Every header opens the section it names, also one that no list is kept
for, whose entries are dropped.
-/

import OpenPath.Policy.Sections
import OpenPath.Text.DotNet

namespace OpenPath.Windows

open DotNet Foundation Policy RulesValidation

/-- What the parser returns. -/
structure WhitelistSections where
  sections : Sections
  isDisabled : Bool
  deriving DecidableEq

/-- The state of the pass: the upper-case name of the open section, and what has
been read. -/
structure ParserState where
  openSection : Text
  result : WhitelistSections

def ParserState.initial : ParserState where
  openSection := "WHITELIST".toList
  result := { sections := .empty, isDisabled := false }

/-- `switch ($section)` -/
def sectionType (name : Text) : Option RuleType :=
  if name = "WHITELIST".toList then some .whitelist
  else if name = "BLOCKED-SUBDOMAINS".toList then some .blockedSubdomain
  else if name = "BLOCKED-PATHS".toList then some .blockedPath
  else if name = "ALLOWED-PATHS".toList then some .allowedPath
  else none

/-- `^#\s*DESACTIVADO\b`, in either case. The class of word characters is that of
the pattern language. -/
def isDisabledMarker (isWordChar : Char → Bool) (trimmed : Text) : Bool :=
  match trimmed with
  | '#' :: rest =>
      let rest := rest.dropWhile isWhiteSpace
      equalsIgnoreCase (rest.take 11) "DESACTIVADO".toList &&
        !(rest.drop 11).head?.any isWordChar
  | _ => false

/-- The group of `^##\s*(.+)$`, trimmed and in upper case. The group does not go
beyond the end of a line. -/
def headerName (trimmed : Text) : Option Text :=
  match trimmed with
  | '#' :: '#' :: c :: rest =>
      let group := (c :: rest).dropWhile isWhiteSpace
      if '\n' ∈ group then none else some (toUpperInvariant (trim group))
  | _ => none

def ParserState.append (state : ParserState) (type : RuleType) (entries : List Text) :
    ParserState where
  openSection := state.openSection
  result :=
    { sections := state.result.sections.append type entries
      isDisabled := state.result.isDisabled }

def addEntry (state : ParserState) (trimmed : Text) : ParserState :=
  match sectionType state.openSection with
  | some type => state.append type [trimmed]
  | none => state

/-- One line of the document. -/
def parseLine (isWordChar : Char → Bool) (state : ParserState) (line : Text) : ParserState :=
  let trimmed := trim line
  if trimmed = [] then state
  else if isDisabledMarker isWordChar trimmed then
    { state with result := { state.result with isDisabled := true } }
  else
    match headerName trimmed with
    | some name => { state with openSection := name }
    | none => if trimmed.head? = some '#' then state else addEntry state trimmed

/-- `Get-OpenPathWhitelistSectionsFromLines` -/
def getWhitelistSectionsFromLines (isWordChar : Char → Bool) (lines : List Text) :
    WhitelistSections :=
  (lines.foldl (parseLine isWordChar) .initial).result

/-! ## Entries -/

/-- A line that is read as an entry. -/
structure PlainLine (line : Text) : Prop where
  nonempty : trim line ≠ []
  no_hash : (trim line).head? ≠ some '#'

variable {isWordChar : Char → Bool}

theorem parseLine_blank (state : ParserState) : parseLine isWordChar state [] = state := rfl

theorem PlainLine.parseLine {line : Text} (hline : PlainLine line) (state : ParserState) :
    parseLine isWordChar state line = addEntry state (trim line) := by
  have hhash := hline.no_hash
  unfold Windows.parseLine
  dsimp only
  rw [if_neg hline.nonempty]
  cases htrim : trim line with
  | nil => exact absurd htrim hline.nonempty
  | cons c rest =>
      have hc : c ≠ '#' := by
        rintro rfl
        exact hhash (by rw [htrim]; rfl)
      simp [isDisabledMarker, headerName, hc]

/-- The name under which the entries of a type are kept. -/
def typeName : RuleType → Text
  | .whitelist => "WHITELIST".toList
  | .blockedSubdomain => "BLOCKED-SUBDOMAINS".toList
  | .blockedPath => "BLOCKED-PATHS".toList
  | .allowedPath => "ALLOWED-PATHS".toList

theorem sectionType_typeName (type : RuleType) : sectionType (typeName type) = some type := by
  cases type <;> decide

theorem ParserState.append_append (state : ParserState) (type : RuleType)
    (first second : List Text) :
    (state.append type first).append type second = state.append type (first ++ second) := by
  simp [ParserState.append, Sections.append_append]

theorem foldl_parseLine_plain {entries : List Text} (hentries : ∀ line ∈ entries, PlainLine line)
    {state : ParserState} {type : RuleType} (hopen : sectionType state.openSection = some type) :
    entries.foldl (parseLine isWordChar) state = state.append type (entries.map trim) := by
  induction entries generalizing state with
  | nil => simp [ParserState.append]
  | cons line entries ih =>
      have hline := hentries line List.mem_cons_self
      have hstep : addEntry state (trim line) = state.append type [trim line] := by
        simp [addEntry, hopen]
      have hopen' : sectionType (state.append type [trim line]).openSection = some type := hopen
      have hrest := ih (fun other hother => hentries other (List.mem_cons_of_mem _ hother)) hopen'
      rw [List.foldl_cons, hline.parseLine, hstep, hrest, ParserState.append_append,
        List.singleton_append, List.map_cons]

end OpenPath.Windows
