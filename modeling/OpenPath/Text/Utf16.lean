/-
# UTF-16

A string of .NET is a list of code units, which need not be well-formed. As bytes each
unit is written with the lower byte first. The encoder and the decoder of
`Encoding.Unicode` both replace a surrogate that has no partner.
-/

import OpenPath.Foundation.Buffers

namespace OpenPath

abbrev Utf16 := List UInt16

namespace Utf16

open Foundation

def isHighSurrogate (unit : UInt16) : Bool := 0xd800 ≤ unit && unit ≤ 0xdbff

def isLowSurrogate (unit : UInt16) : Bool := 0xdc00 ≤ unit && unit ≤ 0xdfff

def replacement : UInt16 := 0xfffd

/-- What is left after the replacement of surrogates without a partner. -/
def repair : Utf16 → Utf16
  | [] => []
  | [unit] => if isHighSurrogate unit || isLowSurrogate unit then [replacement] else [unit]
  | first :: second :: rest =>
      if isHighSurrogate first then
        if isLowSurrogate second then first :: second :: repair rest
        else replacement :: repair (second :: rest)
      else if isLowSurrogate first then replacement :: repair (second :: rest)
      else first :: repair (second :: rest)

/-- No surrogate is without a partner. -/
def WellFormed (text : Utf16) : Prop := repair text = text

instance (text : Utf16) : Decidable (WellFormed text) := inferInstanceAs (Decidable (_ = _))

def unitBytes (unit : UInt16) : List UInt8 := littleEndian 2 unit.toNat

/-- The bytes of code units, as they are. -/
def toBytes (text : Utf16) : List UInt8 := text.flatMap unitBytes

/-- `Encoding.Unicode.GetBytes` -/
def getBytes (text : Utf16) : List UInt8 := toBytes (repair text)

/-- Two bytes each are a code unit; one that is left over cannot be decoded. -/
def ofBytes : List UInt8 → Utf16
  | [] => []
  | [_] => [replacement]
  | lower :: upper :: rest => UInt16.ofNat (ofLittleEndian [lower, upper]) :: ofBytes rest

/-- `Encoding.Unicode.GetString` -/
def getString (bytes : List UInt8) : Utf16 := repair (ofBytes bytes)

/-! ## Bytes -/

theorem toBytes_cons (unit : UInt16) (text : Utf16) :
    toBytes (unit :: text) = unitBytes unit ++ toBytes text := List.flatMap_cons

theorem toBytes_append (first second : Utf16) :
    toBytes (first ++ second) = toBytes first ++ toBytes second := List.flatMap_append

theorem unitBytes_eq (unit : UInt16) :
    unitBytes unit = [UInt8.ofNat unit.toNat, UInt8.ofNat (unit.toNat / 256)] := rfl

theorem ofNat_unitBytes (unit : UInt16) :
    UInt16.ofNat (ofLittleEndian (unitBytes unit)) = unit := by
  have hlt : unit.toNat < 256 ^ 2 := unit.toNat_lt
  rw [unitBytes, ofLittleEndian_littleEndian hlt, UInt16.ofNat_toNat]

theorem unitBytes_ofNat (lower upper : UInt8) :
    unitBytes (UInt16.ofNat (ofLittleEndian [lower, upper])) = [lower, upper] := by
  have hlower := lower.toNat_lt
  have hupper := upper.toNat_lt
  have hlt : ofLittleEndian [lower, upper] < 2 ^ 16 := by
    simp only [ofLittleEndian]
    omega
  rw [unitBytes, UInt16.toNat_ofNat', Nat.mod_eq_of_lt hlt]
  exact littleEndian_ofLittleEndian [lower, upper]

@[simp]
theorem ofBytes_toBytes (text : Utf16) : ofBytes (toBytes text) = text := by
  induction text with
  | nil => rfl
  | cons unit text ih =>
      rw [toBytes_cons, unitBytes_eq]
      simp only [List.cons_append, List.nil_append, ofBytes]
      rw [← unitBytes_eq, ofNat_unitBytes, ih]

/-- The unit that ends a string is the one of two zero bytes. -/
theorem ofNat_eq_zero_iff (lower upper : UInt8) :
    UInt16.ofNat (ofLittleEndian [lower, upper]) = 0 ↔ lower = 0 ∧ upper = 0 := by
  constructor
  · intro h
    have hbytes := unitBytes_ofNat lower upper
    rw [h] at hbytes
    have hzero : ([0, 0] : List UInt8) = [lower, upper] := hbytes
    simp only [List.cons.injEq, and_true] at hzero
    exact ⟨hzero.1.symm, hzero.2.symm⟩
  · rintro ⟨rfl, rfl⟩
    rfl

/-! ## Replacement -/

/-- A unit that is no surrogate does not take part in a pair. -/
theorem repair_append_cons {unit : UInt16} (hhigh : isHighSurrogate unit = false)
    (hlow : isLowSurrogate unit = false) (text rest : Utf16) :
    repair (text ++ unit :: rest) = repair text ++ unit :: repair rest := by
  have hunit : repair (unit :: rest) = unit :: repair rest := by
    cases rest with
    | nil => simp [repair, hhigh, hlow]
    | cons second rest => simp [repair, hhigh, hlow]
  induction text using repair.induct with
  | case1 => exact hunit
  | case2 first hsurrogate =>
      by_cases hfirst : isHighSurrogate first = true
      · simp [repair, hfirst, hlow, hunit]
      · have hsecond : isLowSurrogate first = true := by simpa [hfirst] using hsurrogate
        simp [repair, hfirst, hsecond, hunit]
  | case3 first hsurrogate =>
      simp only [Bool.or_eq_true, not_or, Bool.not_eq_true] at hsurrogate
      simp [repair, hsurrogate.1, hsurrogate.2, hunit]
  | case4 first second text hfirst hsecond ih =>
      simp only [List.cons_append, repair, hfirst, hsecond, if_true, ih]
  | case5 first second text hfirst hsecond ih =>
      simp only [List.cons_append, repair, hfirst, hsecond, if_true] at ih ⊢
      simp [ih]
  | case6 first second text hfirst hsecond ih =>
      simp only [List.cons_append, repair, hfirst, hsecond, if_true] at ih ⊢
      simp [ih]
  | case7 first second text hfirst hsecond ih =>
      simp only [List.cons_append, repair, hfirst, hsecond] at ih ⊢
      simp [ih]

theorem repair_cons {unit : UInt16} (hhigh : isHighSurrogate unit = false)
    (hlow : isLowSurrogate unit = false) (rest : Utf16) :
    repair (unit :: rest) = unit :: repair rest :=
  repair_append_cons hhigh hlow [] rest

theorem repair_concat_zero (text : Utf16) : repair (text ++ [0]) = repair text ++ [0] :=
  repair_append_cons rfl rfl text []

theorem wellFormed_repair (text : Utf16) : WellFormed (repair text) := by
  have hreplacement (rest : Utf16) :
      repair (replacement :: rest) = replacement :: repair rest :=
    repair_cons rfl rfl rest
  rw [WellFormed]
  induction text using repair.induct with
  | case1 => rfl
  | case2 first hsurrogate =>
      rw [repair, if_pos hsurrogate]
      rfl
  | case3 first hsurrogate =>
      rw [repair, if_neg hsurrogate, repair, if_neg hsurrogate]
  | case4 first second text hfirst hsecond ih =>
      rw [repair, if_pos hfirst, if_pos hsecond, repair, if_pos hfirst, if_pos hsecond, ih]
  | case5 first second text hfirst hsecond ih =>
      rw [repair, if_pos hfirst, if_neg hsecond, hreplacement, ih]
  | case6 first second text hfirst hlow ih =>
      rw [repair, if_neg hfirst, if_pos hlow, hreplacement, ih]
  | case7 first second text hfirst hlow ih =>
      rw [repair, if_neg hfirst, if_neg hlow, repair_cons (by simpa using hfirst)
        (by simpa using hlow), ih]

theorem length_repair (text : Utf16) : (repair text).length = text.length := by
  induction text using repair.induct with
  | case1 => rfl
  | case2 first hsurrogate =>
      rw [repair, if_pos hsurrogate]
      rfl
  | case3 first hsurrogate =>
      rw [repair, if_neg hsurrogate]
  | case4 first second text hfirst hsecond ih =>
      rw [repair, if_pos hfirst, if_pos hsecond]
      simp only [List.length_cons, ih]
  | case5 first second text hfirst hsecond ih =>
      rw [repair, if_pos hfirst, if_neg hsecond]
      simp only [List.length_cons, ih]
  | case6 first second text hfirst hlow ih =>
      rw [repair, if_neg hfirst, if_pos hlow]
      simp only [List.length_cons, ih]
  | case7 first second text hfirst hlow ih =>
      rw [repair, if_neg hfirst, if_neg hlow]
      simp only [List.length_cons, ih]

/-- No terminator comes in with the replacement. -/
theorem zero_not_mem_repair {text : Utf16} (h : 0 ∉ text) : 0 ∉ repair text := by
  have hreplacement : (0 : UInt16) ≠ replacement := by decide
  induction text using repair.induct with
  | case1 => exact h
  | case2 first hsurrogate =>
      rw [repair, if_pos hsurrogate]
      simp [hreplacement]
  | case3 first hsurrogate => rwa [repair, if_neg hsurrogate]
  | case4 first second text hfirst hsecond ih =>
      simp only [List.mem_cons, not_or] at h
      rw [repair, if_pos hfirst, if_pos hsecond]
      simp only [List.mem_cons, not_or]
      exact ⟨h.1, h.2.1, ih h.2.2⟩
  | case5 first second text hfirst hsecond ih =>
      rw [repair, if_pos hfirst, if_neg hsecond]
      exact List.not_mem_cons_of_ne_of_not_mem hreplacement (ih (List.not_mem_of_not_mem_cons h))
  | case6 first second text hfirst hlow ih =>
      rw [repair, if_neg hfirst, if_pos hlow]
      exact List.not_mem_cons_of_ne_of_not_mem hreplacement (ih (List.not_mem_of_not_mem_cons h))
  | case7 first second text hfirst hlow ih =>
      obtain ⟨hne, hrest⟩ := List.ne_and_not_mem_of_not_mem_cons h
      rw [repair, if_neg hfirst, if_neg hlow]
      exact List.not_mem_cons_of_ne_of_not_mem hne (ih hrest)

/-- A decoded name is the name that was encoded, as far as it was well-formed. -/
theorem getString_toBytes (text : Utf16) : getString (toBytes text) = repair text := by
  rw [getString, ofBytes_toBytes]

theorem getString_getBytes (text : Utf16) : getString (getBytes text) = repair text := by
  rw [getBytes, getString_toBytes, wellFormed_repair text]

/-! ## Decimal digits -/

theorem toNat_of_isDigit {c : Char} (hc : c.isDigit = true) : 48 ≤ c.toNat ∧ c.toNat ≤ 57 := by
  simp only [Char.isDigit, Bool.and_eq_true, decide_eq_true_eq, UInt32.le_iff_toNat_le] at hc
  exact hc

/-- The units of decimal digits have their value. -/
theorem foldl_digits {digits : List Char} (hdigits : ∀ c ∈ digits, c.isDigit = true)
    (value : Nat) :
    (digits.map fun c => UInt16.ofNat c.toNat).foldl
        (fun value unit => 10 * value + (unit.toNat - 48)) value =
      Nat.ofDigitChars 10 digits value := by
  induction digits generalizing value with
  | nil =>
      rw [Nat.ofDigitChars_nil]
      rfl
  | cons c digits ih =>
      obtain ⟨hc, hrest⟩ := List.forall_mem_cons.mp hdigits
      have hlarge := (toNat_of_isDigit hc).2
      have hunit : (UInt16.ofNat c.toNat).toNat = c.toNat := by
        rw [UInt16.toNat_ofNat', Nat.mod_eq_of_lt (by omega)]
      rw [List.map_cons, List.foldl_cons, hunit, ih hrest, Nat.ofDigitChars_cons]
      rfl

end Utf16

end OpenPath
