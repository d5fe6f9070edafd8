/-
# Domain validation of the Linux agent

`validate_domain` and `sanitize_domain` of the DNS scripts. A domain is read as
`read` reads it with the dot as the field separator: a dot at the end adds no
label.
-/

import OpenPath.Foundation.Lines
import OpenPath.Text.JavaScript

namespace OpenPath.Linux

open Ascii

/-- `IFS='.' read -ra labels`: the fields of the first line. -/
def readLabels (domain : Text) : List Text :=
  let fields := (domain.takeWhile (· ≠ '\n')).splitOn '.'
  if fields.getLast? = some [] then fields.dropLast else fields

/-- `^[a-zA-Z]+$`, of two characters at least. -/
def isTopLevelLabel (label : Text) : Bool := label.length ≥ 2 && label.all isLetter

/-- `^[a-zA-Z0-9]([a-zA-Z0-9-]*[a-zA-Z0-9])?$` -/
def isRegularLabel (label : Text) : Bool :=
  label.head?.any isAlphanumeric && label.getLast?.any isAlphanumeric &&
    label.all fun c => isAlphanumeric c || c == '-'

/-- The checks of one label. -/
def validateLabel (isTld : Bool) (label : Text) : Bool :=
  label.length ≤ 63 && label.length ≥ 1 && label.head? != some '-' &&
    label.getLast? != some '-' && if isTld then isTopLevelLabel label else isRegularLabel label

def validateLabels : List Text → Bool
  | [] => true
  | [label] => validateLabel true label
  | label :: rest => validateLabel false label && validateLabels rest

def validateDomain (domain : Text) : Bool :=
  let checkDomain := if "*.".toList.isPrefixOf domain then domain.drop 2 else domain
  !domain.isEmpty && domain.length ≥ 4 && domain.length ≤ 253 &&
    domain != "*.".toList && domain != "*".toList &&
    !".local".toList.isSuffixOf domain &&
    !JavaScript.includes checkDomain "..".toList &&
    (readLabels checkDomain).length ≥ 2 &&
    validateLabels (readLabels checkDomain)

/-- `tr -cd 'a-zA-Z0-9.-'` -/
def sanitizeDomain (domain : Text) : Text :=
  domain.filter fun c => isAlphanumeric c || c == '.' || c == '-'

/-! ## What the format admits -/

/-- What is checked of a domain: a wildcard may stand before it. -/
def checkedDomain (domain : Text) : Text :=
  if "*.".toList.isPrefixOf domain then domain.drop 2 else domain

/-- The characters of a domain. -/
def isDomainChar (c : Char) : Bool := isAlphanumeric c || c == '.' || c == '-'

theorem validateLabels_chars {labels : List Text} (hvalid : validateLabels labels = true) :
    ∀ label ∈ labels, ∀ c ∈ label, isDomainChar c = true := by
  have hlabel : ∀ isTld label, validateLabel isTld label = true →
      ∀ c ∈ label, isDomainChar c = true := by
    intro isTld label hlabel c hc
    simp only [validateLabel, Bool.and_eq_true] at hlabel
    have hformat := hlabel.2
    cases isTld with
    | true =>
        have hletters := List.all_eq_true.mp (Bool.and_eq_true_iff.mp hformat).2 c hc
        simp [isDomainChar, isAlphanumeric, hletters]
    | false =>
        have hchars := List.all_eq_true.mp (Bool.and_eq_true_iff.mp hformat).2 c hc
        simp only [isDomainChar, Bool.or_eq_true] at hchars ⊢
        tauto
  induction labels using validateLabels.induct with
  | case1 => simp
  | case2 label =>
      intro other hother
      rw [List.mem_singleton.mp hother]
      exact hlabel true label hvalid
  | case3 label rest hrest ih =>
      rw [validateLabels, Bool.and_eq_true] at hvalid
      · intro other hother
        rcases List.mem_cons.mp hother with rfl | hother
        · exact hlabel false other hvalid.1
        · exact ih hvalid.2 other hother
      · exact hrest

theorem head_of_validateLabels {label : Text} {rest : List Text}
    (hvalid : validateLabels (label :: rest) = true) :
    ∃ c tail, label = c :: tail ∧ isAlphanumeric c = true := by
  have hlabel : ∃ isTld, validateLabel isTld label = true := by
    cases rest with
    | nil => exact ⟨true, hvalid⟩
    | cons other rest =>
        rw [validateLabels, Bool.and_eq_true] at hvalid
        · exact ⟨false, hvalid.1⟩
        · simp
  obtain ⟨isTld, hlabel⟩ := hlabel
  simp only [validateLabel, Bool.and_eq_true, decide_eq_true_eq] at hlabel
  obtain ⟨⟨⟨⟨-, hlength⟩, -⟩, -⟩, hformat⟩ := hlabel
  obtain ⟨c, tail, rfl⟩ := List.exists_cons_of_length_pos (Nat.lt_of_lt_of_le Nat.zero_lt_one hlength)
  refine ⟨c, tail, rfl, ?_⟩
  cases isTld with
  | true =>
      have hletter := List.all_eq_true.mp (Bool.and_eq_true_iff.mp hformat).2 c List.mem_cons_self
      simp [isAlphanumeric, hletter]
  | false =>
      have hhead := (Bool.and_eq_true_iff.mp (Bool.and_eq_true_iff.mp hformat).1).1
      simpa using hhead

/-- A line that passes the validation, behind a wildcard or not, is made of
domain characters and starts with a letter or a digit. -/
structure ValidLine (domain : Text) : Prop where
  chars : ∀ c ∈ checkedDomain domain, isDomainChar c = true
  head : ∃ c rest, checkedDomain domain = c :: rest ∧ isAlphanumeric c = true

theorem validLine_of_validateDomain {domain : Text} (hline : '\n' ∉ domain)
    (hvalid : validateDomain domain = true) : ValidLine domain := by
  have hcheck : '\n' ∉ checkedDomain domain := by
    unfold checkedDomain
    split
    · exact fun h => hline (List.mem_of_mem_drop h)
    · exact hline
  have hfirstLine : (checkedDomain domain).takeWhile (· ≠ '\n') = checkedDomain domain := by
    rw [List.takeWhile_eq_self_iff]
    intro c hc
    simpa using fun h : c = '\n' => hcheck (h ▸ hc)
  obtain ⟨⟨-, hcount⟩, hlabels⟩ : (_ ∧ (readLabels (checkedDomain domain)).length ≥ 2) ∧
      validateLabels (readLabels (checkedDomain domain)) = true := by
    simpa [validateDomain, checkedDomain] using hvalid
  have hread : ∀ field ∈ (checkedDomain domain).splitOn '.',
      field = [] ∨ field ∈ readLabels (checkedDomain domain) := by
    intro field hfield
    unfold readLabels
    rw [hfirstLine]
    dsimp only
    split
    · rename_i hlast
      obtain ⟨front, hfront⟩ := List.getLast?_eq_some_iff.mp hlast
      rw [hfront] at hfield ⊢
      rw [List.dropLast_concat]
      rcases List.mem_append.mp hfield with hmem | hmem
      · exact Or.inr hmem
      · exact Or.inl (List.mem_singleton.mp hmem)
    · exact Or.inr hfield
  refine ⟨?_, ?_⟩
  · intro c hc
    by_cases hdot : c = '.'
    · rw [hdot]
      decide
    · obtain ⟨field, hfield, hmem⟩ := Foundation.exists_mem_splitOn hc hdot
      rcases hread field hfield with rfl | hlabel
      · cases hmem
      · exact validateLabels_chars hlabels field hlabel c hmem
  · obtain ⟨first, following, hfields⟩ :=
      List.exists_cons_of_ne_nil (List.splitOn_ne_nil '.' (checkedDomain domain))
    have hfirst : ∃ rest, readLabels (checkedDomain domain) = first :: rest := by
      unfold readLabels at hcount ⊢
      rw [hfirstLine, hfields] at hcount ⊢
      dsimp only at hcount ⊢
      split at hcount
      · rename_i hlast
        rw [if_pos hlast]
        cases following with
        | nil => simp at hcount
        | cons second rest => exact ⟨_, List.dropLast_cons_cons⟩
      · rename_i hlast
        exact ⟨following, if_neg hlast⟩
    obtain ⟨rest, hrest⟩ := hfirst
    rw [hrest] at hlabels
    obtain ⟨c, tail, rfl, hc⟩ := head_of_validateLabels hlabels
    have hjoin : ['.'].intercalate ((c :: tail) :: following) = checkedDomain domain := by
      rw [← hfields, List.intercalate_splitOn]
    rw [← hjoin]
    cases following with
    | nil => exact ⟨c, tail, by simp, hc⟩
    | cons second following =>
        rw [List.intercalate_cons_of_ne_nil (by simp)]
        exact ⟨c, tail ++ ['.'] ++ ['.'].intercalate (second :: following), by simp, hc⟩

end OpenPath.Linux
