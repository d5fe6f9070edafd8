/-
# The sections of a policy

What an agent reads from a whitelist document: a list of entries for each rule
type, in the order of the document.
-/

import OpenPath.Shared.RulesValidation

namespace OpenPath.Policy

open RulesValidation

/-- The entries of a document by rule type. -/
structure Sections where
  whitelist : List Text
  blockedSubdomains : List Text
  blockedPaths : List Text
  allowedPaths : List Text
  deriving DecidableEq

/-- A path rule for a host governs the host and what lies under it. -/
def Governs (ruleHost domain : Text) : Prop :=
  ruleHost ≠ [] ∧ (domain = ruleHost ∨ '.' :: ruleHost <:+ domain)

instance (ruleHost domain : Text) : Decidable (Governs ruleHost domain) :=
  inferInstanceAs (Decidable (_ ∧ _))

namespace Sections

def empty : Sections where
  whitelist := []
  blockedSubdomains := []
  blockedPaths := []
  allowedPaths := []

def get (sections : Sections) : RuleType → List Text
  | .whitelist => sections.whitelist
  | .blockedSubdomain => sections.blockedSubdomains
  | .blockedPath => sections.blockedPaths
  | .allowedPath => sections.allowedPaths

/-- Append entries to the list of a type. -/
def append (sections : Sections) (type : RuleType) (entries : List Text) : Sections :=
  match type with
  | .whitelist => { sections with whitelist := sections.whitelist ++ entries }
  | .blockedSubdomain =>
      { sections with blockedSubdomains := sections.blockedSubdomains ++ entries }
  | .blockedPath => { sections with blockedPaths := sections.blockedPaths ++ entries }
  | .allowedPath => { sections with allowedPaths := sections.allowedPaths ++ entries }

def map (change : Text → Text) (sections : Sections) : Sections where
  whitelist := sections.whitelist.map change
  blockedSubdomains := sections.blockedSubdomains.map change
  blockedPaths := sections.blockedPaths.map change
  allowedPaths := sections.allowedPaths.map change

/-- Append the entries of several types. -/
def appendAll (sections : Sections) (entries : RuleType → List Text) (types : List RuleType) :
    Sections :=
  types.foldl (fun result type => result.append type (entries type)) sections

@[ext]
theorem ext_get {first second : Sections} (hget : ∀ type, first.get type = second.get type) :
    first = second := by
  cases first
  cases second
  have hwhitelist := hget .whitelist
  have hsubdomains := hget .blockedSubdomain
  have hblocked := hget .blockedPath
  have hallowed := hget .allowedPath
  simp only [get] at hwhitelist hsubdomains hblocked hallowed
  simp [hwhitelist, hsubdomains, hblocked, hallowed]

@[simp]
theorem get_empty (type : RuleType) : empty.get type = [] := by
  cases type <;> rfl

section

variable (sections : Sections)

theorem get_append (type other : RuleType) (entries : List Text) :
    (sections.append type entries).get other =
      sections.get other ++ if other = type then entries else [] := by
  cases type <;> cases other <;> simp [append, get]

@[simp]
theorem append_nil (type : RuleType) : sections.append type [] = sections := by
  ext other : 1
  simp [get_append]

theorem append_append (type : RuleType) (first second : List Text) :
    (sections.append type first).append type second = sections.append type (first ++ second) := by
  ext other : 1
  by_cases hother : other = type <;> simp [get_append, hother]

@[simp]
theorem map_id : sections.map id = sections := by
  simp [map]

theorem appendAll_cons (entries : RuleType → List Text) (type : RuleType) (types : List RuleType) :
    sections.appendAll entries (type :: types) =
      (sections.append type (entries type)).appendAll entries types := rfl

/-- Types without entries may be left out. -/
theorem appendAll_filter (entries : RuleType → List Text) (types : List RuleType) :
    sections.appendAll entries (types.filter fun type => (entries type).length > 0) =
      sections.appendAll entries types := by
  induction types generalizing sections with
  | nil => rfl
  | cons type types ih =>
      by_cases hentries : (entries type).length > 0
      · rw [List.filter_cons_of_pos (by simpa using hentries), appendAll_cons, appendAll_cons, ih]
      · have hnil : entries type = [] := by simpa using hentries
        rw [List.filter_cons_of_neg (by simpa using hentries), appendAll_cons, hnil, append_nil, ih]

end

end Sections

end OpenPath.Policy
