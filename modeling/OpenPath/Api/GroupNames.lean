/-
# Free names of groups

A copy of a group needs a name that no group has. The name that was asked for becomes a
slug; it and then the slug with the numbers 2 to 50 behind it are looked up one after
another. When all of them are taken, or nothing of the name is left, the name ends in a
random number and is not looked up: the unique constraint of the table decides.
-/

import OpenPath.Shared.Slug
import Mathlib.Data.Finset.Card

namespace OpenPath.Api.GroupNames

open Foundation Slug

section Names

variable (normalize : Text → Text)

def sanitizeGroupName (raw : Text) : Text :=
  sanitizeSlug normalize raw { maxLength := some (.finite 100), allowUnderscore := some true }

/-- The first 100 characters, without dashes at their end. -/
def shorten (name : Text) : Text := (name.take 100).rdropWhile isDash

def suffix (i : Nat) : Text := if i = 0 then [] else '-' :: Nat.toDigits 10 (i + 1)

def candidate (trimmedBase : Text) (i : Nat) : Text := shorten (trimmedBase ++ suffix i)

def maxAttempts : Nat := 50

/-- The names that are taken are those that `getGroupMetaByName` finds. -/
def findAvailableGroupName (uuid : Text) (taken : Finset Text) (baseName : Text) : Text :=
  let trimmedBase := sanitizeGroupName normalize baseName
  if trimmedBase = [] then "group-".toList ++ uuid.take 8
  else
    match ((List.range maxAttempts).map (candidate trimmedBase)).find? (· ∉ taken) with
    | some candidate => candidate
    | none => shorten (trimmedBase ++ '-' :: uuid.take 8)

/-! ## Candidates -/

theorem length_shorten (name : Text) : (shorten name).length ≤ 100 := by
  refine le_trans (List.rdropWhile_prefix isDash _).length_le ?_
  rw [List.length_take]
  exact min_le_left _ _

theorem isSlug_sanitizeGroupName (raw : Text) : IsSlug true (sanitizeGroupName normalize raw) :=
  isSlug_sanitizeSlug normalize raw { maxLength := some (.finite 100), allowUnderscore := some true }

theorem suffix_spec (i : Nat) (hi : i < maxAttempts) :
    (suffix i).length ≤ 3 ∧ ∀ c ∈ (suffix i).getLast?, isDash c = false := by
  unfold suffix
  split
  · simp
  · have hlength : (Nat.toDigits 10 (i + 1)).length ≤ 2 :=
      (Nat.length_toDigits_le_iff (by decide) (by decide)).2 (by simp only [maxAttempts] at hi; omega)
    refine ⟨Nat.succ_le_succ hlength, fun c hc => beq_false_of_ne ?_⟩
    rintro rfl
    rw [← List.singleton_append, List.getLast?_append_of_ne_nil _ Nat.toDigits_ne_nil] at hc
    have hdigit := Nat.isDigit_of_mem_toDigits (by decide) (by decide) (List.mem_of_getLast? hc)
    exact absurd hdigit (by decide)

theorem suffix_injOn (i : Nat) (_ : i < maxAttempts) (j : Nat) (_ : j < maxAttempts)
    (h : suffix i = suffix j) : i = j := by
  unfold suffix at h
  split_ifs at h with hi hj hj
  · exact hi.trans hj.symm
  · have hdigits := congrArg (Nat.ofDigitChars 10 · 0) (List.tail_eq_of_cons_eq h)
    simpa using hdigits

variable {base : Text} {taken : Finset Text}

section

variable (htrimmed : Trimmed isDash base) (hshort : base.length ≤ 97)
include htrimmed hshort

/-- Behind a base of at most 97 characters no suffix is cut. -/
theorem candidate_eq {i : Nat} (hi : i < maxAttempts) : candidate base i = base ++ suffix i := by
  obtain ⟨hlength, hlast⟩ := suffix_spec i hi
  have htake : (base ++ suffix i).take 100 = base ++ suffix i :=
    List.take_of_length_le (by rw [List.length_append]; omega)
  rw [candidate, shorten, htake]
  refine rdropWhile_eq_self_of_getLast fun c hc => ?_
  rcases hsuffix : suffix i with _ | ⟨d, rest⟩
  · rw [hsuffix, List.append_nil] at hc
    exact htrimmed.2 c hc
  · rw [hsuffix, List.getLast?_append_of_ne_nil base (List.cons_ne_nil d rest), ← hsuffix] at hc
    exact hlast c hc

theorem candidate_injOn {i j : Nat} (hi : i < maxAttempts) (hj : j < maxAttempts)
    (hequal : candidate base i = candidate base j) :
    i = j := by
  rw [candidate_eq htrimmed hshort hi, candidate_eq htrimmed hshort hj] at hequal
  exact suffix_injOn i hi j hj (List.append_cancel_left hequal)

/-- There are as many candidates as attempts, so fewer names leave one of them free. -/
theorem exists_free_candidate (hcard : taken.card < maxAttempts) :
    ∃ i < maxAttempts, candidate base i ∉ taken := by
  have hinj : Set.InjOn (candidate base) (Finset.range maxAttempts) := by
    intro i hi j hj hequal
    rw [Finset.coe_range, Set.mem_Iio] at hi hj
    exact candidate_injOn htrimmed hshort hi hj hequal
  have hmore : taken.card < ((Finset.range maxAttempts).image (candidate base)).card := by
    rw [Finset.card_image_of_injOn hinj, Finset.card_range]
    exact hcard
  obtain ⟨name, hname, hfree⟩ := Finset.exists_mem_notMem_of_card_lt_card hmore
  obtain ⟨i, hi, rfl⟩ := Finset.mem_image.mp hname
  exact ⟨i, Finset.mem_range.mp hi, hfree⟩

end

/-! ## The name that is found -/

theorem length_findAvailableGroupName (uuid : Text) (taken : Finset Text) (baseName : Text) :
    (findAvailableGroupName normalize uuid taken baseName).length ≤ 100 := by
  unfold findAvailableGroupName
  dsimp only
  split
  · rw [List.length_append, List.length_take]
    have hlength : "group-".toList.length = 6 := by decide
    omega
  · split
    · rename_i found hfound
      obtain ⟨i, -, rfl⟩ := List.mem_map.mp (List.mem_of_find?_eq_some hfound)
      exact length_shorten _
    · exact length_shorten _

/-- A free candidate is found when there is one. -/
theorem findAvailableGroupName_of_free {uuid : Text} {baseName : Text}
    (hbase : sanitizeGroupName normalize baseName ≠ [])
    (hfree : ∃ i < maxAttempts, candidate (sanitizeGroupName normalize baseName) i ∉ taken) :
    findAvailableGroupName normalize uuid taken baseName ∉ taken := by
  unfold findAvailableGroupName
  rw [if_neg hbase]
  split
  · rename_i found hfound
    simpa using List.find?_some hfound
  · rename_i hnone
    obtain ⟨i, hi, hi'⟩ := hfree
    have hall := List.find?_eq_none.mp hnone _
      (List.mem_map_of_mem (List.mem_range.mpr hi))
    simp only [decide_eq_true_eq, not_not] at hall
    exact absurd hall hi'

/-- When nothing of the name is left, a random one is made. -/
theorem findAvailableGroupName_of_nil {uuid : Text} {baseName : Text}
    (hbase : sanitizeGroupName normalize baseName = []) :
    findAvailableGroupName normalize uuid taken baseName = "group-".toList ++ uuid.take 8 := by
  unfold findAvailableGroupName
  rw [if_pos hbase]

/-- When all candidates are taken, a random ending is put behind the base. -/
theorem findAvailableGroupName_of_taken {uuid : Text} {baseName : Text}
    (hbase : sanitizeGroupName normalize baseName ≠ [])
    (hroom : (sanitizeGroupName normalize baseName).length ≤ 91)
    (htaken : ∀ i < maxAttempts, candidate (sanitizeGroupName normalize baseName) i ∈ taken) :
    findAvailableGroupName normalize uuid taken baseName =
      (sanitizeGroupName normalize baseName ++ '-' :: uuid.take 8).rdropWhile isDash := by
  have hnone : ((List.range maxAttempts).map
      (candidate (sanitizeGroupName normalize baseName))).find? (· ∉ taken) = none := by
    rw [List.find?_eq_none]
    intro name hname
    obtain ⟨i, hi, rfl⟩ := List.mem_map.mp hname
    simpa using htaken i (List.mem_range.mp hi)
  unfold findAvailableGroupName
  rw [if_neg hbase, hnone]
  refine congrArg (List.rdropWhile isDash) (List.take_of_length_le ?_)
  simp only [List.length_append, List.length_cons, List.length_take]
  omega

end Names

/-- What `sanitizeSlug` promises for all options. -/
structure Sanitized (normalize : Text → Text) (options : SanitizeSlugOptions) (slug : Text) :
    Prop where
  allowed : ∀ c ∈ slug, isSlugChar options.underscore c = true
  within : Number.lt (.finite 0) options.maximum = true →
    Number.lt options.maximum (.finite slug.length) = false
  noDash : slug.head? ≠ some '-' ∧ slug.getLast? ≠ some '-'
  fixed : sanitizeSlug normalize slug options = slug

theorem sanitized_sanitizeSlug {normalize : Text → Text} (hnormalize : KeepsAscii normalize)
    (input : Text) (options : SanitizeSlugOptions) :
    Sanitized normalize options (sanitizeSlug normalize input options) where
  allowed := (isSlug_sanitizeSlug normalize input options).allowed
  within hpositive := by
    have hwithin := not_lt_length_sanitizeSlug normalize input options
    rwa [hpositive, Bool.true_and] at hwithin
  noDash := by
    obtain ⟨hhead, hlast⟩ := (isSlug_sanitizeSlug normalize input options).trimmed
    exact ⟨fun h => absurd (hhead '-' h) (by decide), fun h => absurd (hlast '-' h) (by decide)⟩
  fixed := sanitizeSlug_sanitizeSlug hnormalize input options

/-- Every slug is sanitized, within its maximum if that is positive. Every name that is found
has at most 100 characters and is free if one of the candidates is; for a base that leaves
room for the numbers the candidates differ, so fewer than 50 taken names never matter. Where
nothing is left of the name, or no candidate is free and a random ending fits behind the
base, the name is random and not looked up. -/
theorem sanitized_and_available {normalize : Text → Text} (hnormalize : KeepsAscii normalize) :
    (∀ input options, Sanitized normalize options (sanitizeSlug normalize input options)) ∧
      ∀ uuid taken baseName,
        let base := sanitizeGroupName normalize baseName
        let name := findAvailableGroupName normalize uuid taken baseName
        name.length ≤ 100 ∧
          (base = [] → name = "group-".toList ++ uuid.take 8) ∧
          (base ≠ [] →
            ((∃ i < maxAttempts, candidate base i ∉ taken) → name ∉ taken) ∧
            (base.length ≤ 91 → (∀ i < maxAttempts, candidate base i ∈ taken) →
              name = (base ++ '-' :: uuid.take 8).rdropWhile isDash) ∧
            (base.length ≤ 97 →
              (∀ i < maxAttempts, ∀ j < maxAttempts, candidate base i = candidate base j → i = j) ∧
              (taken.card < maxAttempts → name ∉ taken))) := by
  refine ⟨sanitized_sanitizeSlug hnormalize, fun uuid taken baseName => ?_⟩
  have htrimmed := (isSlug_sanitizeGroupName normalize baseName).trimmed
  refine ⟨length_findAvailableGroupName normalize uuid taken baseName,
    findAvailableGroupName_of_nil normalize, fun hbase => ⟨?_, ?_, ?_⟩⟩
  · exact findAvailableGroupName_of_free normalize hbase
  · exact findAvailableGroupName_of_taken normalize hbase
  · intro hshort
    refine ⟨fun i hi j hj => candidate_injOn htrimmed hshort hi hj, fun hcard => ?_⟩
    exact findAvailableGroupName_of_free normalize hbase
      (exists_free_candidate htrimmed hshort hcard)

theorem sanitized_and_available_ascii :
    Sanitized id { maxLength := some (.finite 2) }
        (sanitizeSlug id "A b".toList { maxLength := some (.finite 2) }) ∧
      findAvailableGroupName id "0f8fad5b-d9cb".toList {"aula".toList, "aula-2".toList}
        "Aula".toList ∉ ({"aula".toList, "aula-2".toList} : Finset Text) := by
  have h := @sanitized_and_available id fun _ _ => rfl
  refine ⟨h.1 _ _, ?_⟩
  refine ((h.2 "0f8fad5b-d9cb".toList {"aula".toList, "aula-2".toList} "Aula".toList).2.2 ?_).2.2
    ?_ |>.2 ?_
  · decide +kernel
  · decide +kernel
  · decide

/-- The names that are tried for `aula`, and the random one behind them. -/
def aulas : Finset Text :=
  (Finset.range maxAttempts).image (candidate "aula".toList) ∪ {"aula-0f8fad5b".toList}

/-- A maximum of zero does not cut the name, and a random name that is taken as well is not
looked up. -/
theorem exceeds_zero_and_taken :
    Number.lt (.finite 0)
        (.finite (sanitizeSlug id "ab".toList { maxLength := some (.finite 0) }).length) = true ∧
      findAvailableGroupName id "0f8fad5b-d9cb".toList aulas "Aula".toList ∈ aulas := by
  decide +kernel

end OpenPath.Api.GroupNames
