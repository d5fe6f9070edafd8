/-
# JavaScript string operations

The operations of `String.prototype` that the server code uses. A JavaScript
string is a sequence of UTF-16 code units, so `length` counts a character
outside the basic plane twice; the white space that `trim` removes is the class
that `\s` stands for in a regular expression.
-/

import OpenPath.Foundation.Trim
import OpenPath.Text.Ascii

namespace OpenPath.JavaScript

open Foundation Unicode

/-- The white space and line terminators of the language, which `trim` removes
and `\s` matches. -/
def isSpace (c : Char) : Bool :=
  (0x9 ≤ c.toNat && c.toNat ≤ 0xd) || c.toNat == 0x20 || c.toNat == 0xa0 ||
    c.toNat == 0x1680 || (0x2000 ≤ c.toNat && c.toNat ≤ 0x200a) ||
    c.toNat == 0x2028 || c.toNat == 0x2029 || c.toNat == 0x202f ||
    c.toNat == 0x205f || c.toNat == 0x3000 || c.toNat == 0xfeff

/-- `value.trim()` -/
def trim (value : Text) : Text := Foundation.trim isSpace value

/-- `value.toLowerCase()` -/
def toLowerCase (value : Text) : Text := Unicode.toLowerCase value

/-- `value.length`, in UTF-16 code units. -/
def length (value : Text) : Nat :=
  (value.map fun c => if c.toNat < 0x10000 then 1 else 2).sum

/-- `value.startsWith(marker)` -/
def startsWith (value marker : Text) : Bool := marker.isPrefixOf value

/-- `value.endsWith(marker)` -/
def endsWith (value marker : Text) : Bool := marker.isSuffixOf value

/-- `value.includes(part)` -/
def includes (value part : Text) : Bool := value.tails.any part.isPrefixOf

/-- `value.split(separator)` for a separator of one character. -/
def split (value : Text) (separator : Char) : List Text := value.splitOn separator

/-- `parts.join(separator)` -/
def join (parts : List Text) (separator : Text) : Text := separator.intercalate parts

variable {value : Text}

theorem includes_iff {part : Text} :
    includes value part = true ↔ part <:+: value := by
  simp only [includes, List.any_eq_true, List.mem_tails, List.isPrefixOf_iff_prefix]
  refine ⟨?_, ?_⟩
  · rintro ⟨tail, hsuffix, hstart⟩
    exact List.infix_iff_prefix_suffix.mpr ⟨tail, hstart, hsuffix⟩
  · intro hinside
    obtain ⟨tail, hstart, hsuffix⟩ := List.infix_iff_prefix_suffix.mp hinside
    exact ⟨tail, hsuffix, hstart⟩

/-! ## Lower-cased and trimmed text -/

theorem isLower_toLowerCase (value : Text) :
    ∀ c ∈ toLowerCase value, isLower c = true :=
  Unicode.isLower_toLowerCase value

theorem toLowerCase_of_isLower (hall : ∀ c ∈ value, isLower c = true) : toLowerCase value = value :=
  Unicode.toLowerCase_of_isLower hall

theorem mem_of_mem_trim {c : Char} (member : c ∈ trim value) : c ∈ value :=
  Foundation.mem_of_mem_trim member

@[simp]
theorem trim_trim (value : Text) : trim (trim value) = trim value :=
  Foundation.trim_trim isSpace value

/-- A text of the basic plane has as many code units as characters. -/
theorem length_of_basic (hall : ∀ c ∈ value, c.toNat < 0x10000) : length value = value.length := by
  induction value with
  | nil => rfl
  | cons c value ih =>
      have hc : c.toNat < 0x10000 := hall c (by simp)
      have hrest := ih fun d hd => hall d (by simp [hd])
      simp only [length, List.map_cons, List.sum_cons, hc, if_true, List.length_cons] at hrest ⊢
      omega

/-- An ASCII text has as many code units as characters. -/
theorem length_of_ascii (hall : ∀ c ∈ value, c.toNat < 0x80) : length value = value.length :=
  length_of_basic fun c hc => (hall c hc).trans (by decide)

theorem length_map_toUpper (value : Text) : length (value.map Char.toUpper) = length value := by
  have hplane : ∀ c : Char, c.toUpper.toNat < 0x10000 ↔ c.toNat < 0x10000 := by
    intro c
    by_cases hlower : 'a'.val ≤ c.val ∧ c.val ≤ 'z'.val
    · have hrange : 97 ≤ c.toNat ∧ c.toNat ≤ 122 := hlower
      rw [Ascii.toNat_toUpper hlower]
      omega
    · rw [Ascii.toUpper_of_not_lower hlower]
  simp only [length, List.map_map, Function.comp_def, hplane]

end OpenPath.JavaScript
