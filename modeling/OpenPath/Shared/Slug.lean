/-
# Slugs

`sanitizeSlug` makes a name that is safe in a URL from what a person has typed. Only letters
and digits of ASCII, dashes and perhaps underscores are left, with one dash for each run of
anything else, and none at the ends. A maximum that is positive cuts the name; any other one
does not.

The tables of the normal form NFKD are the parameter `normalize`. A text of ASCII is in this
form, and the module assumes no more than that.
-/

import OpenPath.Foundation.MarkedRuns
import OpenPath.Text.JavaScript
import Mathlib.Data.Rat.Floor

namespace OpenPath.Slug

open Foundation JavaScript

/-! ## Numbers -/

/-- A number of JavaScript. -/
inductive Number where
  | nan
  | negInfinity
  | finite (value : ℚ)
  | infinity
  deriving DecidableEq

/-- `first < second` -/
def Number.lt : Number → Number → Bool
  | .nan, _ => false
  | _, .nan => false
  | .infinity, _ => false
  | _, .negInfinity => false
  | .finite first, .finite second => decide (first < second)
  | _, _ => true

/-- `value.slice(0, end)`, which drops the fraction of the end and counts a negative end from
the end of the value. -/
def sliceTo (value : Text) : Number → Text
  | .nan => []
  | .negInfinity => []
  | .infinity => value
  | .finite last =>
      let relative := last.num.tdiv last.den
      value.take (if relative < 0 then value.length + relative else relative).toNat

/-! ## Sanitizing -/

structure SanitizeSlugOptions where
  maxLength : Option Number := none
  allowUnderscore : Option Bool := none

/-- `options.maxLength ?? 100` -/
def SanitizeSlugOptions.maximum (options : SanitizeSlugOptions) : Number :=
  options.maxLength.getD (.finite 100)

/-- `options.allowUnderscore ?? true` -/
def SanitizeSlugOptions.underscore (options : SanitizeSlugOptions) : Bool :=
  options.allowUnderscore.getD true

def isDash (c : Char) : Bool := c == '-'

/-- `[a-z0-9_-]`, or `[a-z0-9-]` without underscores. -/
def isSlugChar (allowUnderscore : Bool) (c : Char) : Bool :=
  ('a' ≤ c && c ≤ 'z') || ('0' ≤ c && c ≤ '9') || (allowUnderscore && c == '_') || isDash c

/-- `[\u0300-\u036f]` -/
def isDiacritic (c : Char) : Bool := 0x300 ≤ c.toNat && c.toNat ≤ 0x36f

/-- The name before the maximum is looked at. -/
def unlimited (normalize : Text → Text) (trimmed : Text) (allowUnderscore : Bool) : Text :=
  let withoutDiacritics := (normalize trimmed).filter fun c => !isDiacritic c
  let lowered := toLowerCase withoutDiacritics
  let valid := replaceRuns (fun c => !isSlugChar allowUnderscore c) '-' false lowered
  Foundation.trim isDash (replaceRuns isDash '-' false valid)

/-- What is left has no characters outside ASCII, so its length is its number of characters. -/
def sanitizeSlug (normalize : Text → Text) (input : Text) (options : SanitizeSlugOptions) : Text :=
  let trimmed := JavaScript.trim input
  if trimmed = [] then []
  else
    let slug := unlimited normalize trimmed options.underscore
    if Number.lt (.finite 0) options.maximum && Number.lt options.maximum (.finite slug.length) then
      (sliceTo slug options.maximum).rdropWhile isDash
    else slug

/-- The normal form of a text of ASCII is the text. -/
def KeepsAscii (normalize : Text → Text) : Prop :=
  ∀ text : Text, (∀ c ∈ text, c.toNat < 0x80) → normalize text = text

/-! ## What a slug is -/

/-- Allowed characters, no two dashes side by side, and none at the ends. -/
structure IsSlug (allowUnderscore : Bool) (slug : Text) : Prop where
  allowed : ∀ c ∈ slug, isSlugChar allowUnderscore c = true
  spaced : Spaced isDash slug
  trimmed : Trimmed isDash slug

theorem isSlug_nil (allowUnderscore : Bool) : IsSlug allowUnderscore [] where
  allowed c hc := absurd hc List.not_mem_nil
  spaced := .nil
  trimmed := ⟨fun c hc => (by cases hc), fun c hc => (by cases hc)⟩

variable {allowUnderscore : Bool} {c : Char}

/-- The letters, the digits, the underscore and the dash. -/
theorem toNat_of_isSlugChar (hc : isSlugChar allowUnderscore c = true) :
    (0x61 ≤ c.toNat ∧ c.toNat ≤ 0x7a) ∨ (0x30 ≤ c.toNat ∧ c.toNat ≤ 0x39) ∨ c.toNat = 0x5f ∨
      c.toNat = 0x2d := by
  simp only [isSlugChar, isDash, Bool.or_eq_true, Bool.and_eq_true, decide_eq_true_eq,
    beq_iff_eq] at hc
  rcases hc with ((hletter | hdigit) | ⟨-, rfl⟩) | rfl
  · exact .inl hletter
  · exact .inr (.inl hdigit)
  · exact .inr (.inr (.inl rfl))
  · exact .inr (.inr (.inr rfl))

theorem toNat_lt_of_isSlugChar (hc : isSlugChar allowUnderscore c = true) : c.toNat < 0x80 := by
  have hcode := toNat_of_isSlugChar hc
  omega

variable {slug : Text}

/-- The front of a slug without a dash at its end is a slug. -/
theorem IsSlug.rdropWhile {front : Text} (h : IsSlug allowUnderscore slug)
    (hfront : front <+: slug) :
    IsSlug allowUnderscore (front.rdropWhile isDash) := by
  have hkept : front.rdropWhile isDash <+: slug :=
    (List.rdropWhile_prefix isDash front).trans hfront
  refine ⟨fun c hc => h.allowed c (hkept.subset hc), h.spaced.of_isInfix hkept.isInfix, ?_,
    getLast_rdropWhile⟩
  intro c hc
  exact h.trimmed.1 c (head?_of_isPrefix hkept c hc)

theorem isSlug_unlimited (normalize : Text → Text) (trimmed : Text) (allowUnderscore : Bool) :
    IsSlug allowUnderscore (unlimited normalize trimmed allowUnderscore) where
  allowed c hc := by
    rcases mem_replaceRuns (mem_of_mem_trim hc) with rfl | ⟨hvalid, -⟩
    · simp [isSlugChar, isDash]
    · rcases mem_replaceRuns hvalid with rfl | ⟨-, hc⟩
      · simp [isSlugChar, isDash]
      · simpa using hc
  spaced := (spaced_replaceRuns isDash '-' false _).1.of_isInfix (trim_isInfix isDash _)
  trimmed := trimmed_trim isDash _

theorem sliceTo_isPrefix (value : Text) (last : Number) : sliceTo value last <+: value := by
  cases last with
  | nan => exact List.nil_prefix
  | negInfinity => exact List.nil_prefix
  | finite last => exact List.take_prefix _ _
  | infinity => exact List.prefix_rfl

theorem isSlug_sanitizeSlug (normalize : Text → Text) (input : Text)
    (options : SanitizeSlugOptions) :
    IsSlug options.underscore (sanitizeSlug normalize input options) := by
  rw [sanitizeSlug]
  split
  · exact isSlug_nil _
  · have hslug := isSlug_unlimited normalize (JavaScript.trim input) options.underscore
    dsimp only
    split
    · exact hslug.rdropWhile (sliceTo_isPrefix _ _)
    · exact hslug

/-! ## The maximum -/

/-- A positive end leaves at most as many characters as it says. -/
theorem length_sliceTo (value : Text) {last : ℚ} (hpos : 0 < last) :
    ((sliceTo value (.finite last)).length : ℚ) ≤ last := by
  have hnum : 0 ≤ last.num := (Rat.num_pos.mpr hpos).le
  have hfloor : last.num.tdiv last.den = ⌊last⌋ := by
    rw [Int.tdiv_eq_ediv_of_nonneg hnum, Rat.floor_def']
  have hnonneg : 0 ≤ ⌊last⌋ := Int.floor_nonneg.mpr hpos.le
  simp only [sliceTo, hfloor, if_neg (not_lt.mpr hnonneg), List.length_take]
  calc ((min ⌊last⌋.toNat value.length : ℕ) : ℚ)
      ≤ (⌊last⌋.toNat : ℚ) := by exact_mod_cast min_le_left _ _
    _ = ((⌊last⌋.toNat : ℤ) : ℚ) := by rw [Int.cast_natCast]
    _ = (⌊last⌋ : ℚ) := by rw [Int.toNat_of_nonneg hnonneg]
    _ ≤ last := Int.floor_le last

theorem not_lt_length_sanitizeSlug (normalize : Text → Text) (input : Text)
    (options : SanitizeSlugOptions) :
    (Number.lt (.finite 0) options.maximum && Number.lt options.maximum
      (.finite (sanitizeSlug normalize input options).length)) = false := by
  rw [sanitizeSlug]
  split
  · cases hmaximum : options.maximum with
    | finite maximum => simpa [Number.lt] using le_of_lt
    | nan => rfl
    | negInfinity => rfl
    | infinity => rfl
  · dsimp only
    split
    · rename_i hcut
      cases hmaximum : options.maximum with
      | finite maximum =>
          simp only [hmaximum, Number.lt, Bool.and_eq_true, decide_eq_true_eq] at hcut
          have hlength := length_sliceTo
            (unlimited normalize (JavaScript.trim input) options.underscore) hcut.1
          have hshorter := (List.rdropWhile_prefix isDash (sliceTo
            (unlimited normalize (JavaScript.trim input) options.underscore)
            (.finite maximum))).length_le
          have hle := le_trans (Nat.cast_le.mpr hshorter) hlength
          simp only [Number.lt, Bool.and_eq_false_iff, decide_eq_false_iff_not, not_lt]
          exact .inr hle
      | nan => rfl
      | negInfinity => rfl
      | infinity => rfl
    · rename_i hshort
      exact Bool.eq_false_iff.mpr hshort

/-! ## Slugs stay as they are -/

/-- The capital letters are the only characters of ASCII that have a lower case. -/
theorem isLower_of_ascii (hascii : c.toNat < 0x80)
    (hcapital : ¬ (0x41 ≤ c.toNat ∧ c.toNat ≤ 0x5a)) : Unicode.isLower c = true := by
  have hranges : ∀ range ∈ Unicode.lowerRanges,
      range.lo = 0x41 ∧ range.hi = 0x5a ∨ 0x80 ≤ range.lo := by decide +kernel
  have hsigma : c ≠ Unicode.capitalSigma := by
    rintro rfl
    exact absurd hascii (by decide)
  have hdotted : c ≠ Unicode.capitalDottedI := by
    rintro rfl
    exact absurd hascii (by decide)
  simp only [Unicode.isLower, hsigma, hdotted, ne_eq, not_false_eq_true, decide_true, Bool.true_and,
    Bool.not_eq_true', List.any_eq_false]
  intro range hrange hcovers
  simp only [Unicode.CaseRange.covers, Bool.and_eq_true, decide_eq_true_eq] at hcovers
  rcases hranges range hrange with ⟨hlo, hhi⟩ | hlo
  · exact hcapital ⟨hlo ▸ hcovers.1.1, hhi ▸ hcovers.1.2⟩
  · omega

theorem isLower_of_isSlugChar (hc : isSlugChar allowUnderscore c = true) :
    Unicode.isLower c = true := by
  refine isLower_of_ascii (toNat_lt_of_isSlugChar hc) fun ⟨hA, hZ⟩ => ?_
  rcases toNat_of_isSlugChar hc with h | h | h | h
  · omega
  · omega
  · omega
  · omega

variable {normalize : Text → Text}

theorem unlimited_of_isSlug (hnormalize : KeepsAscii normalize)
    (hslug : IsSlug allowUnderscore slug) :
    unlimited normalize slug allowUnderscore = slug := by
  have hascii : ∀ c ∈ slug, c.toNat < 0x80 :=
    fun c hc => toNat_lt_of_isSlugChar (hslug.allowed c hc)
  have hmarks : (slug.filter fun c => !isDiacritic c) = slug := by
    refine List.filter_eq_self.mpr fun c hc => ?_
    have hlt := hascii c hc
    simp only [isDiacritic, Bool.not_eq_true', Bool.and_eq_false_iff, decide_eq_false_iff_not]
    omega
  have hlower : toLowerCase slug = slug :=
    toLowerCase_of_isLower fun c hc => isLower_of_isSlugChar (hslug.allowed c hc)
  have hvalid : replaceRuns (fun c => !isSlugChar allowUnderscore c) '-' false slug = slug :=
    replaceRuns_of_forall '-' (fun c hc => by rw [hslug.allowed c hc]; rfl) false
  have hdash : replaceRuns isDash '-' false slug = slug :=
    replaceRuns_of_spaced (fun c hc => by simpa [isDash] using hc) hslug.spaced
      fun h => by cases h
  simp only [unlimited, hnormalize slug hascii, hmarks, hlower, hvalid, hdash]
  exact trim_eq_self_iff.mpr hslug.trimmed

theorem trim_of_isSlug (hslug : IsSlug allowUnderscore slug) : JavaScript.trim slug = slug := by
  refine trim_eq_self_of_forall fun c hc => ?_
  have hcode := toNat_of_isSlugChar (hslug.allowed c hc)
  simp only [isSpace, Bool.or_eq_false_iff, Bool.and_eq_false_iff, decide_eq_false_iff_not,
    beq_eq_false_iff_ne]
  omega

/-- What `sanitizeSlug` has made it makes from itself. -/
theorem sanitizeSlug_sanitizeSlug (hnormalize : KeepsAscii normalize) (input : Text)
    (options : SanitizeSlugOptions) :
    sanitizeSlug normalize (sanitizeSlug normalize input options) options =
      sanitizeSlug normalize input options := by
  have hslug := isSlug_sanitizeSlug normalize input options
  have hshort := not_lt_length_sanitizeSlug normalize input options
  nth_rewrite 1 [sanitizeSlug]
  simp only [trim_of_isSlug hslug, unlimited_of_isSlug hnormalize hslug, hshort]
  split
  · rename_i hnil
    exact hnil.symm
  · rfl

end OpenPath.Slug
