/-
# ASCII classes

The character classes of the patterns that the server and the agents share. The
shell scripts run with classes that mean their ASCII members, and the lower and
upper case mappings of `Char` are those of ASCII.
-/

import OpenPath.Text.Unicode

namespace OpenPath.Ascii

/-- `[a-zA-Z]` -/
def isLetter (c : Char) : Bool :=
  ('a' ≤ c && c ≤ 'z') || ('A' ≤ c && c ≤ 'Z')

/-- `[0-9]` -/
def isDigit (c : Char) : Bool := '0' ≤ c && c ≤ '9'

/-- `[a-zA-Z0-9]` -/
def isAlphanumeric (c : Char) : Bool := isLetter c || isDigit c

/-- `[a-zA-Z0-9_]` -/
def isWordChar (c : Char) : Bool := isAlphanumeric c || c == '_'

/-- `[[:space:]]` -/
def isSpace (c : Char) : Bool := (0x9 ≤ c.toNat && c.toNat ≤ 0xd) || c.toNat == 0x20

variable {c : Char}

theorem toNat_of_isAlphanumeric (hc : isAlphanumeric c = true) :
    (0x30 ≤ c.toNat ∧ c.toNat ≤ 0x39) ∨ (0x41 ≤ c.toNat ∧ c.toNat ≤ 0x5a) ∨
      (0x61 ≤ c.toNat ∧ c.toNat ≤ 0x7a) := by
  simp only [isAlphanumeric, isLetter, isDigit, Bool.or_eq_true, Bool.and_eq_true,
    decide_eq_true_eq, Unicode.le_iff_toNat_le] at hc
  rcases hc with (⟨hlo, hhi⟩ | ⟨hlo, hhi⟩) | ⟨hlo, hhi⟩
  · exact Or.inr (Or.inr ⟨hlo, hhi⟩)
  · exact Or.inr (Or.inl ⟨hlo, hhi⟩)
  · exact Or.inl ⟨hlo, hhi⟩

theorem toNat_toUpper (hc : 'a'.val ≤ c.val ∧ c.val ≤ 'z'.val) :
    c.toUpper.toNat = c.toNat - 32 := by
  have hrange : 97 ≤ c.toNat ∧ c.toNat ≤ 122 := hc
  have hadd : (c.val + ('A'.val - 'a'.val)).toNat = (c.val.toNat + 4294967264) % 2 ^ 32 :=
    UInt32.toNat_add c.val _
  have hupper : c.toUpper.toNat = (c.val + ('A'.val - 'a'.val)).toNat := by
    delta Char.toUpper
    rw [dif_pos hc]
    rfl
  rw [hupper, hadd, Char.toNat]
  rw [Char.toNat] at hrange
  omega

theorem toUpper_of_not_lower (hc : ¬ ('a'.val ≤ c.val ∧ c.val ≤ 'z'.val)) : c.toUpper = c := by
  delta Char.toUpper
  rw [dif_neg hc]

/-- `[A-Z]` -/
def isUpper (c : Char) : Bool := 'A' ≤ c && c ≤ 'Z'

/-- Characters that are no capital letters are told apart by their upper case. -/
theorem eq_of_toUpper_eq {d : Char} (hequal : c.toUpper = d.toUpper) (hc : isUpper c = false)
    (hd : isUpper d = false) : c = d := by
  have hcapital : ∀ e : Char, isUpper e = false → ¬ (65 ≤ e.toNat ∧ e.toNat ≤ 90) := by
    intro e he hrange
    have hupper : isUpper e = true := by
      rw [isUpper, Bool.and_eq_true, decide_eq_true_eq, decide_eq_true_eq]
      exact hrange
    rw [he] at hupper
    cases hupper
  have hcNot := hcapital c hc
  have hdNot := hcapital d hd
  by_cases hcLower : 'a'.val ≤ c.val ∧ c.val ≤ 'z'.val
  · have hcRange : 97 ≤ c.toNat ∧ c.toNat ≤ 122 := hcLower
    have hcUpper := toNat_toUpper hcLower
    by_cases hdLower : 'a'.val ≤ d.val ∧ d.val ≤ 'z'.val
    · have hdRange : 97 ≤ d.toNat ∧ d.toNat ≤ 122 := hdLower
      have hdUpper := toNat_toUpper hdLower
      rw [hequal] at hcUpper
      exact Char.toNat_inj.mp (by omega)
    · rw [hequal, toUpper_of_not_lower hdLower] at hcUpper
      omega
  · rw [toUpper_of_not_lower hcLower] at hequal
    by_cases hdLower : 'a'.val ≤ d.val ∧ d.val ≤ 'z'.val
    · have hdRange : 97 ≤ d.toNat ∧ d.toNat ≤ 122 := hdLower
      have hdUpper := toNat_toUpper hdLower
      rw [← hequal] at hdUpper
      omega
    · rw [hequal, toUpper_of_not_lower hdLower]

/-- Nothing but itself has a character that is no letter as its upper case. -/
theorem toUpper_eq_iff {d : Char} (hd : isLetter d = false) : c.toUpper = d ↔ c = d := by
  have hrange : ¬ (65 ≤ d.toNat ∧ d.toNat ≤ 90) ∧ ¬ (97 ≤ d.toNat ∧ d.toNat ≤ 122) := by
    simp only [isLetter, Bool.or_eq_false_iff, Bool.and_eq_false_iff, decide_eq_false_iff_not,
      Unicode.le_iff_toNat_le] at hd
    have hbounds : ('a').toNat = 97 ∧ ('z').toNat = 122 ∧ ('A').toNat = 65 ∧ ('Z').toNat = 90 :=
      ⟨rfl, rfl, rfl, rfl⟩
    omega
  by_cases hlower : 'a'.val ≤ c.val ∧ c.val ≤ 'z'.val
  · have hcRange : 97 ≤ c.toNat ∧ c.toNat ≤ 122 := hlower
    have hupper := toNat_toUpper hlower
    refine ⟨fun heq => ?_, fun heq => ?_⟩
    · rw [heq] at hupper
      omega
    · rw [heq] at hcRange
      omega
  · rw [toUpper_of_not_lower hlower]

/-- Nothing but the dot has the dot as its upper case. -/
theorem toUpper_eq_dot_iff (c : Char) : c.toUpper = '.' ↔ c = '.' :=
  toUpper_eq_iff (by decide)

theorem isLetter_toUpper (c : Char) : isLetter c.toUpper = isLetter c := by
  by_cases hlower : 'a'.val ≤ c.val ∧ c.val ≤ 'z'.val
  · have hrange : 97 ≤ c.toNat ∧ c.toNat ≤ 122 := hlower
    have hupper := toNat_toUpper hlower
    rw [Bool.eq_iff_iff]
    simp only [isLetter, Bool.or_eq_true, Bool.and_eq_true, decide_eq_true_eq,
      Unicode.le_iff_toNat_le]
    have hbounds : ('a').toNat = 97 ∧ ('z').toNat = 122 ∧ ('A').toNat = 65 ∧ ('Z').toNat = 90 :=
      ⟨rfl, rfl, rfl, rfl⟩
    omega
  · rw [toUpper_of_not_lower hlower]

theorem isDigit_toUpper (c : Char) : isDigit c.toUpper = isDigit c := by
  by_cases hlower : 'a'.val ≤ c.val ∧ c.val ≤ 'z'.val
  · have hrange : 97 ≤ c.toNat ∧ c.toNat ≤ 122 := hlower
    have hupper := toNat_toUpper hlower
    rw [Bool.eq_iff_iff]
    simp only [isDigit, Bool.and_eq_true, decide_eq_true_eq, Unicode.le_iff_toNat_le]
    have hbounds : ('0').toNat = 48 ∧ ('9').toNat = 57 := ⟨rfl, rfl⟩
    omega
  · rw [toUpper_of_not_lower hlower]

theorem isAlphanumeric_toUpper (c : Char) : isAlphanumeric c.toUpper = isAlphanumeric c := by
  rw [isAlphanumeric, isAlphanumeric, isLetter_toUpper, isDigit_toUpper]

theorem toUpper_toLower (c : Char) : c.toLower.toUpper = c.toUpper := by
  by_cases hupper : 'A'.val ≤ c.val ∧ c.val ≤ 'Z'.val
  · have hrange : 65 ≤ c.toNat ∧ c.toNat ≤ 90 := hupper
    have hall : ∀ n < 26, (Char.ofNat (65 + n)).toLower.toUpper = (Char.ofNat (65 + n)).toUpper := by
      decide
    have hn := hall (c.toNat - 65) (by omega)
    have hsum : 65 + (c.toNat - 65) = c.toNat := by omega
    rwa [hsum, Char.ofNat_toNat] at hn
  · have hlower : c.toLower = c := by
      delta Char.toLower
      rw [dif_neg hupper]
    rw [hlower]

end OpenPath.Ascii
