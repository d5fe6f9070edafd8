/-
# Values of `Registry.pol` as bytes

A policy value is a string, a list of strings or a number; an entry of `Registry.pol` has a
type and the bytes of its data. Strings end in a NUL and lists in one more, and what is read
drops every terminator that stands at the end. What a value may not hold, so that it comes
back as it was, is therefore a matter of its ends: a NUL at the end of a string, an empty
string at the end of a list. A number is read as a signed one.
-/

import OpenPath.Windows.PolicyStore

namespace OpenPath.Windows.PolicyStore

open Foundation RegistryPol

/-- The values that a caller of the store may name. A list that is read comes back as the
objects of a pipeline, so that a list of one string and that string are told apart by the
type only. -/
inductive Value
  | string (text : Utf16)
  | expandString (text : Utf16)
  | multiString (lines : List Utf16)
  | dWord (number : Int)
  deriving DecidableEq

inductive ConversionError
  | invalidType
  | invalidNumber
  | shortDWord
  | unsupportedType (type : UInt32)
  deriving DecidableEq

/-- `-eq ''`. The comparison is one of the invariant culture: there are strings that it does
not tell from the empty one. -/
structure InvariantCulture where
  isEmpty : Utf16 → Bool
  isEmpty_nil : isEmpty [] = true

/-- The comparison of the code units. -/
def InvariantCulture.ordinal : InvariantCulture := ⟨List.isEmpty, List.isEmpty_nil⟩

/-- `ConvertTo-OpenPathRegistryPolData` -/
def toData : Value → Except ConversionError PolicyData
  | .string text => .ok ⟨1, Utf16.getBytes (text ++ [0])⟩
  | .expandString _ => .error .invalidType
  | .multiString lines => .ok ⟨7, Utf16.getBytes (lines.flatMap (· ++ [0]) ++ [0])⟩
  | .dWord number =>
      if 0 ≤ number ∧ number < 0x100000000 then .ok ⟨4, littleEndian 4 number.toNat⟩
      else .error .invalidNumber

/-- `$parts` without the empty ones at its end. -/
def polLines (culture : InvariantCulture) (text : Utf16) : List Utf16 :=
  (text.splitOn 0).rdropWhile culture.isEmpty

/-- `ConvertFrom-OpenPathRegistryPolData` -/
def fromData (culture : InvariantCulture) (data : PolicyData) : Except ConversionError Value :=
  if !isInt32 data.type then .error .invalidNumber
  else if data.type = 1 then
    .ok (.string ((Utf16.getString data.data).rdropWhile (· == 0)))
  else if data.type = 7 then
    .ok (.multiString (polLines culture (Utf16.getString data.data)))
  else if data.type = 4 then
    if data.data.length < 4 then .error .shortDWord
    else .ok (.dWord (int32 (UInt32.ofNat (ofLittleEndian (data.data.take 4)))))
  else .error (.unsupportedType data.type)

/-- There and back. -/
def convertBack (culture : InvariantCulture) (value : Value) : Except ConversionError Value :=
  (toData value).bind (fromData culture)

/-- What can be kept: no surrogate is alone, no terminator is inside a line, nothing at the
end looks like a terminator, and a number is not negative when it is read as signed. -/
def Keepable (culture : InvariantCulture) : Value → Prop
  | .string text => text.WellFormed ∧ text.getLast? ≠ some 0
  | .expandString _ => False
  | .multiString lines =>
      (∀ line ∈ lines, line.WellFormed ∧ 0 ∉ line) ∧
        ∀ last ∈ lines.getLast?, culture.isEmpty last = false
  | .dWord number => 0 ≤ number ∧ number < 0x80000000

/-! ## Strings -/

section Ends

variable {α : Type*} {p : α → Bool}

/-- Nothing is dropped from the end of a list if and only if its last element stays. -/
theorem rdropWhile_eq_self_iff_getLast? (list : List α) :
    list.rdropWhile p = list ↔ ∀ last ∈ list.getLast?, p last = false := by
  rw [List.rdropWhile_eq_self_iff]
  constructor
  · intro hlast last hmem
    obtain ⟨hne, rfl⟩ := List.mem_getLast?_eq_getLast hmem
    simpa using hlast hne
  · intro hlast hne
    simpa using hlast _ (List.getLast_mem_getLast? hne)

theorem map_eq_self_iff {f : α → α} (list : List α) :
    list.map f = list ↔ ∀ x ∈ list, f x = x := by
  conv_lhs => rhs; rw [← List.map_id list]
  exact List.map_inj_left

end Ends

theorem repair_unlines (lines : List Utf16) :
    Utf16.repair (unlines 0 lines) = unlines 0 (lines.map Utf16.repair) := by
  induction lines with
  | nil => rfl
  | cons line rest ih =>
      rw [unlines_cons, Utf16.repair_append_cons rfl rfl, ih, List.map_cons, unlines_cons]

section

variable (culture : InvariantCulture)
include culture

theorem string_keepable_iff (text : Utf16) :
    convertBack culture (.string text) = .ok (.string text) ↔ Keepable culture (.string text) := by
  have hback : convertBack culture (.string text) =
      .ok (.string (text.repair.rdropWhile (· == 0))) := by
    have hdata : Utf16.getString (Utf16.getBytes (text ++ [0])) = text.repair ++ [0] := by
      rw [Utf16.getString_getBytes, Utf16.repair_concat_zero]
    show Except.ok (Value.string ((Utf16.getString (Utf16.getBytes (text ++ [0]))).rdropWhile
      (· == 0))) = _
    rw [hdata, List.rdropWhile_concat_pos _ _ _ rfl]
  rw [hback, Except.ok.injEq, Value.string.injEq]
  constructor
  · intro hsame
    have hfront : text <+: text.repair := by
      conv_lhs => rw [← hsame]
      exact List.rdropWhile_prefix _ _
    have hrepair : text.repair = text :=
      (hfront.eq_of_length (Utf16.length_repair text).symm).symm
    refine ⟨hrepair, ?_⟩
    rw [hrepair, rdropWhile_eq_self_iff_getLast?] at hsame
    intro hlast
    exact absurd (hsame 0 hlast) (by decide)
  · rintro ⟨hrepair, hlast⟩
    rw [hrepair, rdropWhile_eq_self_iff_getLast?]
    intro last hmem
    rw [beq_eq_false_iff_ne]
    rintro rfl
    exact hlast hmem

/-! ## Lists -/

theorem fromData_multiString (lines : List Utf16) :
    convertBack culture (.multiString lines) =
      .ok (.multiString (polLines culture (unlines 0 (lines.map Utf16.repair) ++ [0]))) := by
  have hdata : Utf16.getString (Utf16.getBytes (unlines 0 lines ++ [0])) =
      unlines 0 (lines.map Utf16.repair) ++ [0] := by
    rw [Utf16.getString_getBytes, Utf16.repair_concat_zero, repair_unlines]
  show Except.ok (Value.multiString (polLines culture
    (Utf16.getString (Utf16.getBytes (unlines 0 lines ++ [0]))))) = _
  rw [hdata]

/-- Lines without a terminator inside come apart again. -/
theorem polLines_unlines {lines : List Utf16} (hlines : ∀ line ∈ lines, 0 ∉ line) :
    polLines culture (unlines 0 lines ++ [0]) = lines.rdropWhile culture.isEmpty := by
  have htext : unlines 0 lines ++ [0] = unlines 0 (lines ++ [[]]) := by
    rw [unlines_append]
    rfl
  have hsplit : (unlines (0 : UInt16) (lines ++ [[]])).splitOn 0 = lines ++ [[]] ++ [[]] := by
    refine splitOn_unlines fun line hline => ?_
    rcases List.mem_append.mp hline with hmem | hnil
    · exact hlines line hmem
    · rw [List.mem_singleton.mp hnil]
      exact List.not_mem_nil
  rw [polLines, htext, hsplit, List.rdropWhile_concat_pos _ _ _ culture.isEmpty_nil,
    List.rdropWhile_concat_pos _ _ _ culture.isEmpty_nil]

theorem multiString_keepable_iff (lines : List Utf16) :
    convertBack culture (.multiString lines) = .ok (.multiString lines) ↔
      Keepable culture (.multiString lines) := by
  rw [fromData_multiString, Except.ok.injEq, Value.multiString.injEq]
  constructor
  · intro hsame
    have hzero : ∀ line ∈ lines, 0 ∉ line := by
      intro line hline
      rw [← hsame] at hline
      exact not_mem_of_mem_splitOn ((List.rdropWhile_prefix _ _).subset hline)
    have hrepaired : ∀ line ∈ lines.map Utf16.repair, 0 ∉ line := by
      intro line hline
      obtain ⟨old, hold, rfl⟩ := List.mem_map.mp hline
      exact Utf16.zero_not_mem_repair (hzero old hold)
    rw [polLines_unlines culture hrepaired] at hsame
    have hfront : lines <+: lines.map Utf16.repair := by
      conv_lhs => rw [← hsame]
      exact List.rdropWhile_prefix _ _
    have hmap : lines.map Utf16.repair = lines :=
      (hfront.eq_of_length (List.length_map _).symm).symm
    rw [hmap, rdropWhile_eq_self_iff_getLast?] at hsame
    refine ⟨fun line hline => ⟨?_, hzero line hline⟩, hsame⟩
    exact (map_eq_self_iff lines).mp hmap line hline
  · rintro ⟨hlines, hlast⟩
    have hmap : lines.map Utf16.repair = lines :=
      (map_eq_self_iff lines).mpr fun line hline => (hlines line hline).1
    rw [hmap, polLines_unlines culture fun line hline => (hlines line hline).2,
      rdropWhile_eq_self_iff_getLast?]
    exact hlast

/-! ## Numbers -/

theorem fromData_dWord (data : Bytes) :
    fromData culture ⟨4, data⟩ =
      if data.length < 4 then .error .shortDWord
      else .ok (.dWord (int32 (UInt32.ofNat (ofLittleEndian (data.take 4))))) := rfl

end

theorem int32_ofNat {number : Nat} (hnumber : number < 0x100000000) :
    int32 (UInt32.ofNat number) =
      if number < 0x80000000 then (number : Int) else number - 0x100000000 := by
  have hsame : (UInt32.ofNat number).toNat = number := UInt32.toNat_ofNat_of_lt' hnumber
  have hlt : UInt32.ofNat number < 0x80000000 ↔ number < 0x80000000 := by
    rw [UInt32.lt_iff_toNat_lt, hsame]
    rfl
  simp only [int32, hlt, hsame]

theorem dWord_keepable_iff (culture : InvariantCulture) (number : Int) :
    convertBack culture (.dWord number) = .ok (.dWord number) ↔
      Keepable culture (.dWord number) := by
  by_cases hrange : 0 ≤ number ∧ number < 0x100000000
  · have hback : convertBack culture (.dWord number) =
        .ok (.dWord (int32 (UInt32.ofNat number.toNat))) := by
      have hbytes : ofLittleEndian ((littleEndian 4 number.toNat).take 4) = number.toNat := by
        rw [List.take_of_length_le (length_littleEndian _ _).le]
        exact ofLittleEndian_littleEndian (by omega)
      have hlength : ¬ (littleEndian 4 number.toNat).length < 4 := by
        rw [length_littleEndian]
        omega
      rw [convertBack, toData, if_pos hrange, Except.bind, fromData_dWord, if_neg hlength, hbytes]
    rw [hback, Except.ok.injEq, Value.dWord.injEq, int32_ofNat (by omega), Keepable]
    split
    · omega
    · omega
  · rw [convertBack, toData, if_neg hrange, Except.bind, Keepable]
    constructor
    · intro herror
      cases herror
    · intro hnumber
      omega

/-- A value comes back as it was if and only if it can be kept, and a text to be expanded is
not read. -/
theorem convertBack_eq_ok_iff (culture : InvariantCulture) (value : Value) :
    (convertBack culture value = .ok value ↔ Keepable culture value) ∧
      ∀ bytes, fromData culture ⟨2, bytes⟩ = .error (.unsupportedType 2) := by
  refine ⟨?_, fun bytes => rfl⟩
  cases value with
  | string text => exact string_keepable_iff culture text
  | expandString text =>
      constructor
      · intro herror
        cases herror
      · exact False.elim
  | multiString lines => exact multiString_keepable_iff culture lines
  | dWord number => exact dWord_keepable_iff culture number

/-- No type of the store expands its text, the last strings of a list are taken for
terminators, and a number from 2^31 on comes back negative. -/
theorem convertBack_not_kept :
    convertBack .ordinal (.expandString [0x61]) = .error .invalidType ∧
      convertBack .ordinal (.string [0x61, 0]) = .ok (.string [0x61]) ∧
      convertBack .ordinal (.multiString [[0x61], []]) = .ok (.multiString [[0x61]]) ∧
      convertBack .ordinal (.dWord 0xffffffff) = .ok (.dWord (-1)) := by
  decide

end OpenPath.Windows.PolicyStore
