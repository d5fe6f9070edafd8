/-
# The plan for a list

What a list is to become keeps the entries that are not the agent's, in their order, and adds
one entry for each text that none of these holds. The added entries are recognised by their
texts when the list is planned the next time. This needs texts that can be written, and names
that are free.
-/

import OpenPath.Windows.PolicyStoreListSteps
import OpenPath.Windows.PolicyStoreRuns
import Mathlib.Data.List.Nodup

namespace OpenPath.Windows.PolicyStore

open Foundation RegistryPol

variable {characters : Characters}

/-! ## Written texts -/

/-- What can be read back of a text. -/
def storedText (value : Utf16) : Utf16 := (Utf16.repair value).rdropWhile (· == 0)

/-- The text can be read back, up to capitals. -/
def Survives (characters : Characters) (value : Utf16) : Prop :=
  fold characters.upper (storedText value) = fold characters.upper value

instance (value : Utf16) : Decidable (Survives characters value) :=
  inferInstanceAs (Decidable (_ = _))

theorem rdropWhile_append_zero (text : Utf16) :
    (text ++ [0]).rdropWhile (· == 0) = text.rdropWhile (· == 0) :=
  List.rdropWhile_concat_pos _ _ _ rfl

variable {unit : UInt16}

theorem rdropWhile_append_ne (h : unit ≠ 0) (text : Utf16) :
    (text ++ [unit]).rdropWhile (· == 0) = text ++ [unit] :=
  List.rdropWhile_concat_neg _ _ _ (by simpa using h)

theorem wellFormed_rdropWhile {text : Utf16} (h : Utf16.WellFormed text) :
    Utf16.WellFormed (text.rdropWhile (· == 0)) := by
  induction text using List.reverseRecOn with
  | nil => exact h
  | append_singleton text unit ih =>
      by_cases hunit : unit = 0
      · subst hunit
        rw [rdropWhile_append_zero]
        apply ih
        rw [Utf16.WellFormed, Utf16.repair_concat_zero] at h
        exact List.append_cancel_right h
      · rwa [rdropWhile_append_ne hunit]

theorem storedText_storedText (value : Utf16) :
    storedText (storedText value) = storedText value := by
  have hwell : Utf16.WellFormed (storedText value) :=
    wellFormed_rdropWhile (Utf16.wellFormed_repair value)
  rw [storedText, hwell]
  exact List.rdropWhile_idempotent _ _

/-- Replacing surrogates does not look at capitals. -/
theorem repair_fold (value : Utf16) :
    Utf16.repair (fold characters.upper value) = fold characters.upper (Utf16.repair value) := by
  have hhigh := characters.isHighSurrogate_upper
  have hlow := characters.isLowSurrogate_upper
  have hreplacement := characters.upper_replacement
  simp only [fold]
  induction value using Utf16.repair.induct with
  | case1 => rfl
  | case2 unit h =>
      rw [Utf16.repair, if_pos h, List.map_singleton, Utf16.repair, hhigh, hlow, if_pos h,
        List.map_singleton, hreplacement]
  | case3 unit h =>
      rw [Utf16.repair, if_neg h, List.map_singleton, Utf16.repair, hhigh, hlow, if_neg h]
  | case4 first second rest hfirst hsecond ih =>
      simp only [List.map_cons, Utf16.repair, hhigh, hlow, hfirst, hsecond, if_true, ih]
  | case5 first second rest hfirst hsecond ih =>
      simp only [List.map_cons, Utf16.repair, hhigh, hlow, hfirst, hsecond, if_true] at ih ⊢
      simp [ih, hreplacement]
  | case6 first second rest hfirst hsecond ih =>
      simp only [List.map_cons, Utf16.repair, hhigh, hlow, hfirst, hsecond, if_true] at ih ⊢
      simp [ih, hreplacement]
  | case7 first second rest hfirst hsecond ih =>
      simp only [List.map_cons, Utf16.repair, hhigh, hlow, hfirst, hsecond] at ih ⊢
      simp [ih]

theorem storedText_fold (value : Utf16) :
    storedText (fold characters.upper value) = fold characters.upper (storedText value) := by
  have hzero : ∀ text : Utf16, (fold characters.upper text).rdropWhile (· == 0) =
      fold characters.upper (text.rdropWhile (· == 0)) := by
    intro text
    induction text using List.reverseRecOn with
    | nil => rfl
    | append_singleton text unit ih =>
        simp only [fold, List.map_append, List.map_singleton] at ih ⊢
        by_cases hunit : unit = 0
        · have hupper : characters.upper unit = 0 :=
            (characters.upper_eq_iff unit 0 (by decide)).mpr hunit
          rw [hupper, hunit, rdropWhile_append_zero, rdropWhile_append_zero, ih]
        · have hupper : characters.upper unit ≠ 0 :=
            mt (characters.upper_eq_iff unit 0 (by decide)).mp hunit
          rw [rdropWhile_append_ne hupper, rdropWhile_append_ne hunit, List.map_append,
            List.map_singleton]
  rw [storedText, repair_fold, hzero]
  rfl

/-- A text that is what another one reads as can be read back itself. -/
theorem survives_of_fold_eq {value other : Utf16}
    (h : fold characters.upper (storedText other) = fold characters.upper value) :
    Survives characters value := by
  rw [Survives, ← storedText_fold, ← h, ← storedText_fold, storedText_storedText]

theorem textOf_added (target : Target) (value : Utf16) :
    textOf (target.entry (convertToData (.string value))) = some (storedText value) := by
  have htype : (target.entry (convertToData (.string value))).type = 1 := rfl
  rw [textOf, if_pos htype]
  have hdata : (target.entry (convertToData (.string value))).data =
      Utf16.getBytes (value ++ [0]) := rfl
  rw [hdata, Utf16.getString_getBytes, Utf16.repair_concat_zero, rdropWhile_append_zero]
  rfl

/-! ## Numbers as names -/

theorem isAsciiDigit_of_mem {n : Nat} (h : unit ∈ numberName n) : 48 ≤ unit ∧ unit ≤ 57 := by
  obtain ⟨c, hc, rfl⟩ := List.mem_map.mp h
  obtain ⟨hlow, hhigh⟩ := Utf16.toNat_of_isDigit
    (Nat.isDigit_of_mem_toDigits (by decide) (by decide) hc)
  rw [UInt16.le_iff_toNat_le, UInt16.le_iff_toNat_le, UInt16.toNat_ofNat',
    Nat.mod_eq_of_lt (by omega)]
  exact ⟨hlow, hhigh⟩

theorem fold_numberName (n : Nat) : fold characters.upper (numberName n) = numberName n := by
  apply (List.map_congr_left fun unit hunit => ?_).trans (List.map_id _)
  obtain ⟨-, hhigh⟩ := isAsciiDigit_of_mem hunit
  have hdigits : (57 : UInt16) < 64 := by decide
  have hsmall : unit < 64 := UInt16.lt_of_le_of_lt hhigh hdigits
  exact (characters.upper_eq_iff unit unit hsmall).mpr rfl

theorem numberName_ne_nil (n : Nat) : numberName n ≠ [] := by
  rw [numberName, ne_eq, List.map_eq_nil_iff]
  exact Nat.toDigits_ne_nil

theorem withoutNewline_numberName (n : Nat) : withoutNewline (numberName n) = numberName n := by
  rw [withoutNewline, if_neg]
  intro hlast
  have hdigit := isAsciiDigit_of_mem (List.mem_of_getLast? hlast)
  exact absurd hdigit.1 (by decide)

theorem isNumbered_numberName (n : Nat) : isNumbered characters (numberName n) = true := by
  rw [isNumbered, withoutNewline_numberName, Bool.and_eq_true, List.all_eq_true]
  refine ⟨bne_iff_ne.mpr (numberName_ne_nil n), fun unit hunit => ?_⟩
  obtain ⟨hlow, hhigh⟩ := isAsciiDigit_of_mem hunit
  exact characters.isDigit_of_ascii unit hlow hhigh

theorem decimalValue_numberName (n : Nat) : decimalValue (numberName n) = n := by
  have hdigits : ∀ c ∈ Nat.toDigits 10 n, c.isDigit = true := fun c hc =>
    Nat.isDigit_of_mem_toDigits (by decide) (by decide) hc
  rw [decimalValue, numberName, Utf16.foldl_digits hdigits]
  exact Nat.ofDigitChars_toDigits (by decide) (by decide)

theorem numberName_inj {m n : Nat} : numberName m = numberName n ↔ m = n := by
  constructor
  · intro h
    rw [← decimalValue_numberName m, h, decimalValue_numberName]
  · rintro rfl
    rfl

/-! ## New texts -/

section NewOwned

variable {foreign : List Utf16}

/-- What a round has collected so far: texts that no foreign entry holds, each of them once. -/
structure Collected (characters : Characters) (foreign owned : List Utf16) : Prop where
  apart : ∀ text, Has characters owned text → ¬ Has characters foreign text
  nodup : (owned.map (fold characters.upper)).Nodup

variable {owned : List Utf16}

theorem Collected.concat {value : Utf16} (h : Collected characters foreign owned)
    (hforeign : ¬ Has characters foreign value) (howned : ¬ Has characters owned value) :
    Collected characters foreign (owned ++ [value]) where
  apart text htext := by
    obtain hearlier | hlast := has_append.mp htext
    · exact h.apart text hearlier
    · exact fun habsurd => hforeign ((has_congr (has_singleton.mp hlast)).mpr habsurd)
  nodup := by
    rw [List.map_append, List.nodup_append]
    refine ⟨h.nodup, List.pairwise_singleton _ _, ?_⟩
    intro first hfirst second hsecond heq
    obtain ⟨item, hitem, rfl⟩ := List.mem_map.mp hfirst
    rw [List.map_singleton, List.mem_singleton] at hsecond
    exact howned (has_iff.mpr ⟨item, hitem, heq.trans hsecond⟩)

/-- What the collection of some values makes of what was collected before. -/
structure Collects (characters : Characters) (foreign owned values collected : List Utf16) :
    Prop where
  apart : Collected characters foreign collected
  kept : ∀ text, Has characters owned text → Has characters collected text
  covered : ∀ value ∈ values, Has characters foreign value ∨ Has characters collected value

theorem collects_foldl (values : List Utf16) (h : Collected characters foreign owned) :
    Collects characters foreign owned values (values.foldl
      (fun owned value =>
        if testPolicyValueInSet characters.upper foreign (some value) then owned
        else if testPolicyValueInSet characters.upper owned (some value) then owned
        else owned ++ [value]) owned) := by
  induction values generalizing owned with
  | nil => exact ⟨h, fun _ htext => htext, fun value hvalue => (List.not_mem_nil hvalue).elim⟩
  | cons value values ih =>
      rw [List.foldl_cons]
      split
      · next hforeign =>
          have hrest := ih h
          exact ⟨hrest.apart, hrest.kept,
            List.forall_mem_cons.mpr ⟨.inl hforeign, hrest.covered⟩⟩
      · next hforeign =>
          split
          · next hheld =>
              have hrest := ih h
              exact ⟨hrest.apart, hrest.kept,
                List.forall_mem_cons.mpr ⟨.inr (hrest.kept value hheld), hrest.covered⟩⟩
          · next hheld =>
              have hrest := ih (h.concat hforeign hheld)
              refine ⟨hrest.apart, fun text htext => ?_,
                List.forall_mem_cons.mpr ⟨.inr (hrest.kept value ?_), hrest.covered⟩⟩
              · exact hrest.kept text (has_append.mpr (.inl htext))
              · exact has_append.mpr (.inr (has_singleton.mpr rfl))

theorem collects_newOwned (requested : List Utf16) :
    Collects characters foreign [] requested (newOwned characters foreign requested) := by
  apply collects_foldl
  refine ⟨fun text htext => ?_, List.nodup_nil⟩
  obtain ⟨item, hitem, -⟩ := has_iff.mp htext
  exact (List.not_mem_nil hitem).elim

end NewOwned

/-! ## Added entries -/

section Added

variable {key : Utf16} {values : List Utf16} {n : Nat}

/-- The entry with a number for its name. -/
def numberedEntry (key : Utf16) (number : Nat) (value : Utf16) : Entry :=
  (⟨key, numberName number⟩ : Target).entry (convertToData (.string value))

theorem isListKey_numberedEntry (number : Nat) (value : Utf16) :
    isListKey characters key (numberedEntry key number value) = true := by
  rw [isListKey, testPolicyKeyEqual, testPolicyNameEqual_iff]
  exact congrArg (fold characters.upper) (trimKey_trimKey key)

theorem isListEntry_numberedEntry (number : Nat) (value : Utf16) :
    isListEntry characters key (numberedEntry key number value) = true := by
  rw [isListEntry, isListKey_numberedEntry]
  exact isNumbered_numberName number

theorem isOwned_numberedEntry {listed : List Utf16} {number : Nat} {value : Utf16} :
    isOwned characters key listed (numberedEntry key number value) = true ↔
      Has characters listed (storedText value) := by
  rw [isOwned, isListEntry_numberedEntry, Bool.true_and, numberedEntry, textOf_added]
  rfl

theorem mem_addedEntries {entry : Entry} : entry ∈ addedEntries key n values ↔
    ∃ index value, values[index]? = some value ∧
      entry = numberedEntry key (n + index + 1) value := by
  induction values generalizing n with
  | nil => simp [addedEntries]
  | cons first values ih =>
      rw [addedEntries, List.mem_cons, ih]
      constructor
      · rintro (rfl | ⟨index, value, hvalue, rfl⟩)
        · exact ⟨0, first, rfl, rfl⟩
        · refine ⟨index + 1, value, hvalue, ?_⟩
          rw [Nat.add_right_comm n 1 index, Nat.add_assoc n index 1]
      · rintro ⟨index, value, hvalue, rfl⟩
        cases index with
        | zero =>
            cases hvalue
            exact .inl rfl
        | succ index =>
            refine .inr ⟨index, value, hvalue, ?_⟩
            rw [Nat.add_right_comm n 1 index, Nat.add_assoc n index 1]

theorem length_addedEntries : (addedEntries key n values).length = values.length := by
  induction values generalizing n with
  | nil => rfl
  | cons value values ih => rw [addedEntries, List.length_cons, ih, List.length_cons]

end Added

/-! ## The plan -/

section Plan

variable {key : Utf16} {owned requested listed : List Utf16} {entries : List Entry}

/-- The texts that a plan adds. -/
abbrev addedTexts (characters : Characters) (key : Utf16) (owned requested : List Utf16)
    (entries : List Entry) : List Utf16 :=
  newOwned characters (foreignTexts characters key owned entries) requested

/-- No entry that stays has the name of one that is added. -/
def NamesFree (characters : Characters) (key : Utf16) (owned requested : List Utf16)
    (entries : List Entry) : Prop :=
  ∀ entry ∈ foreignEntries characters key owned entries,
    isListKey characters key entry = true →
      ∀ index < (addedTexts characters key owned requested entries).length,
        testPolicyNameEqual characters.upper entry.valueName
          (numberName (maxForeign characters key owned entries + index + 1)) = false

/-- A ledger that lists what a plan adds, and of other texts only those that were listed. -/
structure Lists (characters : Characters) (owned added listed : List Utf16) : Prop where
  new : ∀ text, Has characters added text → Has characters listed text
  old : ∀ text, Has characters listed text →
    Has characters owned text ∨ Has characters added text

theorem entries_listPlan :
    (listPlan characters key owned requested entries).entries =
      (foreignEntries characters key owned entries).take
          (insertAt characters key owned entries) ++
        addedEntries key (maxForeign characters key owned entries)
          (addedTexts characters key owned requested entries) ++
        (foreignEntries characters key owned entries).drop
          (insertAt characters key owned entries) := rfl

variable {entry : Entry}

/-- The entries that stay and those that are added, in the order of the plan. -/
theorem mem_listPlan :
    entry ∈ (listPlan characters key owned requested entries).entries ↔
      entry ∈ foreignEntries characters key owned entries ∨
        entry ∈ addedEntries key (maxForeign characters key owned entries)
          (addedTexts characters key owned requested entries) := by
  have hsplit : entry ∈ foreignEntries characters key owned entries ↔
      entry ∈ (foreignEntries characters key owned entries).take
          (insertAt characters key owned entries) ∨
        entry ∈ (foreignEntries characters key owned entries).drop
          (insertAt characters key owned entries) := by
    rw [← List.mem_append, List.take_append_drop]
  rw [hsplit, entries_listPlan, List.mem_append, List.mem_append]
  tauto

theorem countP_listPlan (p : Entry → Bool) :
    (listPlan characters key owned requested entries).entries.countP p =
      (foreignEntries characters key owned entries).countP p +
        (addedEntries key (maxForeign characters key owned entries)
          (addedTexts characters key owned requested entries)).countP p := by
  have hsplit : (foreignEntries characters key owned entries).countP p =
      ((foreignEntries characters key owned entries).take
          (insertAt characters key owned entries)).countP p +
        ((foreignEntries characters key owned entries).drop
          (insertAt characters key owned entries)).countP p := by
    rw [← List.countP_append, List.take_append_drop]
  rw [hsplit, entries_listPlan, List.countP_append, List.countP_append]
  omega

section

variable
  (hlists : Lists characters owned (addedTexts characters key owned requested entries) listed)
include hlists

/-- What stays is not listed afterwards either. -/
theorem not_isOwned_of_mem (h : entry ∈ foreignEntries characters key owned entries) :
    isOwned characters key listed entry = false := by
  have hforeign : isOwned characters key owned entry = false := by
    simpa using (List.mem_filter.mp h).2
  by_contra howned
  rw [Bool.not_eq_false, isOwned, Bool.and_eq_true] at howned
  obtain ⟨hlist, htext⟩ := howned
  rw [isOwned, hlist, Bool.true_and] at hforeign
  cases hvalue : textOf entry with
  | none =>
      rw [hvalue] at htext
      cases htext
  | some text =>
      rw [hvalue] at htext hforeign
      obtain hold | hnew := hlists.old text htext
      · rw [hold] at hforeign
        cases hforeign
      · refine (collects_newOwned requested).apart.apart text hnew (has_of_mem ?_)
        exact List.mem_filterMap.mpr ⟨entry, List.mem_filter.mpr ⟨h, hlist⟩, hvalue⟩

section

variable
  (hsurvives : ∀ value ∈ addedTexts characters key owned requested entries, Survives characters value)
include hsurvives

/-- What is added is listed, when its text survives. -/
theorem isOwned_of_mem
    (h : entry ∈ addedEntries key (maxForeign characters key owned entries)
      (addedTexts characters key owned requested entries)) :
    isOwned characters key listed entry = true := by
  obtain ⟨index, value, hvalue, rfl⟩ := mem_addedEntries.mp h
  have hmem : value ∈ addedTexts characters key owned requested entries :=
    List.mem_of_getElem? hvalue
  rw [isOwned_numberedEntry, has_congr (hsurvives value hmem)]
  exact hlists.new value (has_of_mem hmem)

/-- The entries that are not the agent's stay, in their order. -/
theorem foreignEntries_listPlan :
    foreignEntries characters key listed (listPlan characters key owned requested entries).entries =
      foreignEntries characters key owned entries := by
  have hkept : ∀ part : List Entry, part ⊆ foreignEntries characters key owned entries →
      part.filter (fun entry => !isOwned characters key listed entry) = part := by
    intro part hpart
    rw [List.filter_eq_self]
    intro entry hentry
    rw [not_isOwned_of_mem hlists (hpart hentry)]
    rfl
  have hadded : (addedEntries key (maxForeign characters key owned entries)
      (addedTexts characters key owned requested entries)).filter
        (fun entry => !isOwned characters key listed entry) = [] := by
    rw [List.filter_eq_nil_iff]
    intro entry hentry
    rw [isOwned_of_mem hlists hsurvives hentry]
    decide
  rw [entries_listPlan]
  conv_lhs => rw [foreignEntries]
  rw [List.filter_append, List.filter_append, hkept _ (List.take_subset _ _),
    hkept _ (List.drop_subset _ _), hadded, List.append_nil, List.take_append_drop]

theorem take_insertAt_listPlan (hnil : addedTexts characters key owned requested entries ≠ []) :
    (foreignEntries characters key owned entries).take (insertAt characters key listed
        (listPlan characters key owned requested entries).entries) =
      (foreignEntries characters key owned entries).take
        (insertAt characters key owned entries) := by
  have hnone : List.findIdx? (isOwned characters key listed)
      ((foreignEntries characters key owned entries).take
        (insertAt characters key owned entries)) = none := by
    rw [List.findIdx?_eq_none_iff]
    intro entry hentry
    exact not_isOwned_of_mem hlists (List.mem_of_mem_take hentry)
  obtain ⟨first, rest, hadded⟩ : ∃ first rest,
      addedEntries key (maxForeign characters key owned entries)
        (addedTexts characters key owned requested entries) = first :: rest := by
    apply List.exists_cons_of_ne_nil
    intro habsurd
    apply hnil
    rw [← List.length_eq_zero_iff, ← length_addedEntries, habsurd, List.length_nil]
  have hfirst : isOwned characters key listed first = true :=
    isOwned_of_mem hlists hsurvives (hadded ▸ List.mem_cons_self)
  have hplace : insertAt characters key listed
      (listPlan characters key owned requested entries).entries =
      ((foreignEntries characters key owned entries).take
        (insertAt characters key owned entries)).length := by
    rw [insertAt, entries_listPlan, hadded, List.append_assoc, List.findIdx?_append, hnone,
      List.cons_append, List.findIdx?_cons, hfirst]
    simp
  rw [hplace, List.length_take, List.take_eq_take_iff]
  omega

theorem listPlan_listPlan :
    listPlan characters key listed requested
        (listPlan characters key owned requested entries).entries =
      listPlan characters key owned requested entries := by
  have hforeign := foreignEntries_listPlan hlists hsurvives
  have hadded : addedTexts characters key listed requested
      (listPlan characters key owned requested entries).entries =
      addedTexts characters key owned requested entries := by
    rw [addedTexts, foreignTexts, hforeign, addedTexts, foreignTexts]
  have hmax : maxForeign characters key listed
      (listPlan characters key owned requested entries).entries =
      maxForeign characters key owned entries := by
    rw [maxForeign, hforeign, maxForeign]
  have hentries : (listPlan characters key listed requested
      (listPlan characters key owned requested entries).entries).entries =
      (listPlan characters key owned requested entries).entries := by
    conv_lhs => rw [entries_listPlan, hforeign, hadded, hmax]
    by_cases hnil : addedTexts characters key owned requested entries = []
    · rw [entries_listPlan, hnil, addedEntries, List.append_nil, List.append_nil,
        List.take_append_drop, List.take_append_drop]
    · have htake := take_insertAt_listPlan hlists hsurvives hnil
      have hall := List.take_append_drop (insertAt characters key listed
        (listPlan characters key owned requested entries).entries)
        (foreignEntries characters key owned entries)
      rw [htake] at hall
      have hdrop := List.append_cancel_left (hall.trans (List.take_append_drop _ _).symm)
      rw [htake, hdrop, entries_listPlan]
  exact ListPlan.mk.injEq _ _ _ _ ▸ ⟨hadded, hentries⟩

end

end

/-! ### Each text once -/

/-- The agent's entries with some text. -/
def ownedCount (characters : Characters) (key : Utf16) (listed : List Utf16) (value : Utf16)
    (entries : List Entry) : Nat :=
  entries.countP fun entry => isOwned characters key listed entry &&
    testPolicyValueInSet characters.upper [value] (textOf entry)

/-- Every requested text is one that a foreign entry holds, or that of one owned entry. -/
def EachOnce (characters : Characters) (key : Utf16) (owned requested listed : List Utf16)
    (entries merged : List Entry) : Prop :=
  ∀ value ∈ requested, ¬ Has characters (foreignTexts characters key owned entries) value →
    ownedCount characters key listed value merged = 1

/-- The entries that stay count for no text. -/
theorem ownedCount_listPlan
    (hlists : Lists characters owned (addedTexts characters key owned requested entries) listed)
    (value : Utf16) :
    ownedCount characters key listed value
        (listPlan characters key owned requested entries).entries =
      ownedCount characters key listed value
        (addedEntries key (maxForeign characters key owned entries)
          (addedTexts characters key owned requested entries)) := by
  have hforeign : ownedCount characters key listed value
      (foreignEntries characters key owned entries) = 0 := by
    rw [ownedCount, List.countP_eq_zero]
    intro entry hentry
    rw [not_isOwned_of_mem hlists hentry, Bool.false_and]
    exact Bool.false_ne_true
  rw [ownedCount, countP_listPlan, ← ownedCount, hforeign, Nat.zero_add, ownedCount]

variable {values : List Utf16}

/-- Where texts survive, entries are counted by the texts that they were added for. -/
theorem ownedCount_addedEntries (n : Nat) (value : Utf16)
    (h : ∀ text ∈ values, Survives characters text ∧ Has characters listed text) :
    ownedCount characters key listed value (addedEntries key n values) =
      (values.map (fold characters.upper)).count (fold characters.upper value) := by
  induction values generalizing n with
  | nil => rfl
  | cons text values ih =>
      obtain ⟨⟨hsurvives, hlisted⟩, hrest⟩ := List.forall_mem_cons.mp h
      have howned : isOwned characters key listed (numberedEntry key (n + 1) text) = true :=
        isOwned_numberedEntry.mpr ((has_congr hsurvives).mpr hlisted)
      have htext : (testPolicyValueInSet characters.upper [value]
          (textOf (numberedEntry key (n + 1) text)) = true) ↔
          fold characters.upper text = fold characters.upper value := by
        rw [numberedEntry, textOf_added, ← hsurvives]
        exact has_singleton.trans eq_comm
      have hrest := ih (n + 1) hrest
      rw [ownedCount] at hrest
      rw [ownedCount, addedEntries, ← numberedEntry, List.countP_cons, hrest, howned,
        Bool.true_and, List.map_cons, List.count_cons]
      simp only [htext, beq_iff_eq]

section

variable
  (hlists : Lists characters owned (addedTexts characters key owned requested entries) listed)
include hlists

theorem eachOnce_of_survives
    (hsurvives : ∀ value ∈ addedTexts characters key owned requested entries,
      Survives characters value) :
    EachOnce characters key owned requested listed entries
      (listPlan characters key owned requested entries).entries := by
  intro value hvalue hforeign
  have hcollects : Collects characters (foreignTexts characters key owned entries) [] requested
      (addedTexts characters key owned requested entries) := collects_newOwned requested
  obtain ⟨text, htext, hequal⟩ :=
    has_iff.mp ((hcollects.covered value hvalue).resolve_left hforeign)
  rw [ownedCount_listPlan hlists, ownedCount_addedEntries]
  · exact List.count_eq_one_of_mem hcollects.apart.nodup
      (List.mem_map.mpr ⟨text, htext, hequal⟩)
  · exact fun text htext => ⟨hsurvives text htext, hlists.new text (has_of_mem htext)⟩

theorem survives_of_eachOnce
    (h : EachOnce characters key owned requested listed entries
      (listPlan characters key owned requested entries).entries) :
    ∀ value ∈ addedTexts characters key owned requested entries, Survives characters value := by
  intro value hvalue
  have hforeign := (collects_newOwned requested).apart.apart value (has_of_mem hvalue)
  have hcount := h value (newOwned_subset _ _ hvalue) hforeign
  rw [ownedCount_listPlan hlists, ownedCount] at hcount
  obtain ⟨entry, hentry, htext⟩ := List.countP_pos_iff.mp (hcount ▸ Nat.one_pos)
  obtain ⟨index, text, -, rfl⟩ := mem_addedEntries.mp hentry
  rw [Bool.and_eq_true, numberedEntry, textOf_added] at htext
  exact survives_of_fold_eq (has_singleton.mp htext.2).symm

end

/-! ### Names -/

/-- The entries of the key with some name. -/
def nameCount (characters : Characters) (key name : Utf16) (entries : List Entry) : Nat :=
  entries.countP fun entry => isListKey characters key entry &&
    testPolicyNameEqual characters.upper entry.valueName name

/-- An owned entry is the only one of the key with its name. -/
def UniqueNames (characters : Characters) (key : Utf16) (listed : List Utf16)
    (merged : List Entry) : Prop :=
  ∀ entry ∈ merged, isOwned characters key listed entry = true →
    nameCount characters key entry.valueName merged = 1

theorem nameCount_addedEntries (n number : Nat) :
    nameCount characters key (numberName number) (addedEntries key n values) =
      if n < number ∧ number ≤ n + values.length then 1 else 0 := by
  induction values generalizing n with
  | nil =>
      rw [if_neg]
      · rfl
      · rw [List.length_nil]
        omega
  | cons value values ih =>
      have hname : (testPolicyNameEqual characters.upper
          (numberedEntry key (n + 1) value).valueName (numberName number) = true) ↔
          n + 1 = number := by
        rw [testPolicyNameEqual_iff, fold_numberName, numberedEntry, ← numberName_inj]
        change fold characters.upper (numberName (n + 1)) = _ ↔ _
        rw [fold_numberName]
      have hrest := ih (n + 1)
      rw [nameCount] at hrest
      rw [nameCount, addedEntries, ← numberedEntry, List.countP_cons, hrest,
        isListKey_numberedEntry, Bool.true_and, List.length_cons]
      simp only [hname]
      split <;> split <;> split <;> omega

theorem uniqueNames_iff
    (hlists : Lists characters owned (addedTexts characters key owned requested entries) listed)
    (hsurvives : ∀ value ∈ addedTexts characters key owned requested entries,
      Survives characters value) :
    UniqueNames characters key listed (listPlan characters key owned requested entries).entries ↔
      NamesFree characters key owned requested entries := by
  have hcount : ∀ index < (addedTexts characters key owned requested entries).length,
      nameCount characters key (numberName (maxForeign characters key owned entries + index + 1))
          (listPlan characters key owned requested entries).entries =
        nameCount characters key (numberName (maxForeign characters key owned entries + index + 1))
          (foreignEntries characters key owned entries) + 1 := by
    intro index hindex
    rw [nameCount, countP_listPlan, ← nameCount, ← nameCount, nameCount_addedEntries,
      if_pos (by omega)]
  have hfree : ∀ index, nameCount characters key
      (numberName (maxForeign characters key owned entries + index + 1))
        (foreignEntries characters key owned entries) = 0 ↔
      ∀ entry ∈ foreignEntries characters key owned entries,
        isListKey characters key entry = true →
          testPolicyNameEqual characters.upper entry.valueName
            (numberName (maxForeign characters key owned entries + index + 1)) = false := by
    intro index
    rw [nameCount, List.countP_eq_zero]
    simp only [Bool.and_eq_true, not_and, Bool.not_eq_true]
  constructor
  · intro h entry hentry hkey index hindex
    obtain ⟨value, hvalue⟩ : ∃ value,
        (addedTexts characters key owned requested entries)[index]? = some value :=
      ⟨_, List.getElem?_eq_getElem hindex⟩
    have hadded : numberedEntry key (maxForeign characters key owned entries + index + 1) value ∈
        addedEntries key (maxForeign characters key owned entries)
          (addedTexts characters key owned requested entries) :=
      mem_addedEntries.mpr ⟨index, value, hvalue, rfl⟩
    have hone := h _ (mem_listPlan.mpr (.inr hadded)) (isOwned_of_mem hlists hsurvives hadded)
    have hname : nameCount characters key
        (numberName (maxForeign characters key owned entries + index + 1))
        (listPlan characters key owned requested entries).entries = 1 := hone
    rw [hcount index hindex, Nat.add_eq_right] at hname
    exact (hfree index).mp hname entry hentry hkey
  · intro h entry hentry howned
    obtain hforeign | hadded := mem_listPlan.mp hentry
    · rw [not_isOwned_of_mem hlists hforeign] at howned
      cases howned
    · obtain ⟨index, value, hvalue, rfl⟩ := mem_addedEntries.mp hadded
      have hindex : index < (addedTexts characters key owned requested entries).length :=
        (List.getElem?_eq_some_iff.mp hvalue).1
      have hnone := (hfree index).mpr fun entry hentry hkey => h entry hentry hkey index hindex
      have hgoal := hcount index hindex
      rw [hnone] at hgoal
      exact hgoal

end Plan

end OpenPath.Windows.PolicyStore
