/-
# Python string operations

What the Python helpers of the Linux agent use of `str`. The white space of Python
is that of .NET with the four separators of ASCII. The text of a value is what `str`
gives for it; in that of a string inside a list, quotes, backslashes and the usual
line breaks are escaped.
-/

import OpenPath.Text.DotNet
import OpenPath.Text.Json
import Mathlib.Data.List.Sort

namespace OpenPath.Python

open Foundation

/-- `c.isspace()` -/
def isSpace (c : Char) : Bool :=
  DotNet.isWhiteSpace c || (0x1c ≤ c.toNat && c.toNat ≤ 0x1f)

/-- `value.strip()` -/
def strip (value : Text) : Text := Foundation.trim isSpace value

/-- `value.strip(".")` -/
def stripDots (value : Text) : Text := Foundation.trim (· == '.') value

/-- `value.lower()` -/
def lower (value : Text) : Text := Unicode.toLowerCase value

/-- `value.split()` -/
def split (value : Text) : List Text :=
  (value.splitOnP isSpace).filter (· ≠ [])

/-- `sorted(values)`, by code points. -/
def sorted (values : List Text) : List Text :=
  values.insertionSort fun first second => codePointLe first second = true

/-- The lines of a file in text mode, stripped, without the empty ones. Either line
break ends a line. -/
def textLines (text : Text) : List Text :=
  ((text.splitOnP fun c => c == '\n' || c == '\r').map strip).filter (· ≠ [])

/-- `value[:count]` -/
def take {α : Type*} (count : Int) (value : List α) : List α :=
  if 0 ≤ count then value.take count.toNat else value.take (value.length - (-count).toNat)

/-! ## The text of a value -/

def escapeChar (quote c : Char) : Text :=
  if c = quote ∨ c = '\\' then ['\\', c]
  else if c = '\n' then "\\n".toList
  else if c = '\r' then "\\r".toList
  else if c = '\t' then "\\t".toList
  else [c]

def singleQuote : Char := Char.ofNat 0x27
def doubleQuote : Char := Char.ofNat 0x22

/-- `repr` of a string. -/
def quoted (value : Text) : Text :=
  let quote := if singleQuote ∈ value ∧ doubleQuote ∉ value then doubleQuote else singleQuote
  quote :: value.flatMap (escapeChar quote) ++ [quote]

mutual

/-- `repr(value)` -/
def repr : Json → Text
  | .null => "None".toList
  | .bool true => "True".toList
  | .bool false => "False".toList
  | .int value => (toString value).toList
  | .real shown => shown
  | .string value => quoted value
  | .array items => '[' :: reprItems items ++ [']']
  | .object members => '\x7b' :: reprMembers members ++ ['\x7d']

def reprItems : List Json → Text
  | [] => []
  | [item] => repr item
  | item :: rest => repr item ++ ", ".toList ++ reprItems rest

def reprMembers : List (Text × Json) → Text
  | [] => []
  | [(key, value)] => quoted key ++ ": ".toList ++ repr value
  | (key, value) :: rest =>
      quoted key ++ ": ".toList ++ repr value ++ ", ".toList ++ reprMembers rest

end

/-- `str(value)` -/
def str : Json → Text
  | .string value => value
  | value => repr value

/-! ## Line breaks -/

theorem lowerRanges_image : (Unicode.lowerRanges.all fun range =>
    Unicode.scalarImage range && Nat.blt 10 range.image) = true := by
  decide

theorem simpleLower_eq_newline {c : Char} (hc : Unicode.simpleLower c = '\n') : c = '\n' := by
  unfold Unicode.simpleLower at hc
  cases hfind : Unicode.lowerRanges.find? fun range => range.covers c.toNat with
  | none => simpa [hfind] using hc
  | some range =>
      have hcovers : range.covers c.toNat = true := by simpa using List.find?_some hfind
      have hwell := List.all_eq_true.mp lowerRanges_image range (List.mem_of_find?_eq_some hfind)
      simp only [Bool.and_eq_true, Nat.blt_eq] at hwell
      have hnat := Unicode.toNat_ofNat_map hwell.1 hcovers
      rw [hfind] at hc
      dsimp only at hc
      rw [hc] at hnat
      have hten : ('\n').toNat = 10 := rfl
      have himage : range.image ≤ range.map c.toNat := Nat.le_add_right _ _
      omega

theorem newline_not_mem_lower {value : Text} (hvalue : '\n' ∉ value) : '\n' ∉ lower value := by
  have hfrom : ∀ before : Text, '\n' ∉ Unicode.lowerFrom before value := by
    induction value with
    | nil => simp [Unicode.lowerFrom]
    | cons c rest ih =>
        intro before
        rw [List.mem_cons, not_or] at hvalue
        rw [Unicode.lowerFrom, List.mem_append, not_or]
        refine ⟨?_, ih hvalue.2 _⟩
        have hsimple : '\n' ∉ [Unicode.simpleLower c] := fun hmem =>
          hvalue.1 (simpleLower_eq_newline (List.mem_singleton.mp hmem).symm).symm
        unfold Unicode.lowerChar
        split
        · exact hsimple
        split
        · decide
        split
        · split
          · decide
          · decide
        · exact hsimple
  exact hfrom []

theorem no_space_of_mem_split {value word : Text} (hword : word ∈ split value) :
    ∀ c ∈ word, isSpace c = false := by
  have hpieces : ∀ text : Text, ∀ piece ∈ text.splitOnP isSpace, ∀ c ∈ piece, isSpace c = false := by
    intro text
    induction text with
    | nil => simp
    | cons c rest ih =>
        rw [List.splitOnP_cons_eq_if_modifyHead]
        split
        · exact List.forall_mem_cons.mpr ⟨by simp, ih⟩
        · rename_i hspace
          obtain ⟨first, following, hrest⟩ :=
            List.exists_cons_of_ne_nil (List.splitOnP_ne_nil isSpace rest)
          rw [hrest, List.modifyHead_cons]
          rw [hrest, List.forall_mem_cons] at ih
          refine List.forall_mem_cons.mpr ⟨List.forall_mem_cons.mpr ⟨?_, ih.1⟩, ih.2⟩
          simpa using hspace
  exact hpieces value word (List.mem_filter.mp hword).1

/-- A text in two halves at a blank is split in each of them. -/
theorem split_append_space (first rest : Text) :
    split (first ++ ' ' :: rest) = split first ++ split rest := by
  rw [split, List.splitOnP_append_cons first rest (by decide), List.filter_append, split, split]

/-- White space around a text does not matter where it is split. -/
theorem split_strip (value : Text) : split (strip value) = split value := by
  have hright : ∀ text : Text, split (text.rdropWhile isSpace) = split text := by
    intro text
    induction text using List.reverseRecOn with
    | nil => rfl
    | append_singleton text c ih =>
        by_cases hc : isSpace c = true
        · have hcut : split (text ++ [c]) = split text := by
            rw [split, List.splitOnP_append_cons text [] hc, List.splitOnP_nil, List.filter_append,
              split]
            simp
          rw [List.rdropWhile_concat_pos _ _ _ hc, ih, hcut]
        · rw [List.rdropWhile_concat_neg _ _ _ hc]
  rw [strip, Foundation.trim, hright]
  induction value with
  | nil => rfl
  | cons c value ih =>
      by_cases hc : isSpace c = true
      · have hcut : split (c :: value) = split value := by
          rw [split, List.splitOnP_cons_eq_if_modifyHead, if_pos hc,
            List.filter_cons_of_neg (by simp), split]
        rw [List.dropWhile_cons_of_pos hc, ih, hcut]
      · rw [List.dropWhile_cons_of_neg hc]

theorem mem_split_intercalate (lines : List Text) (word : Text) :
    word ∈ split ([' '].intercalate lines) ↔ ∃ line ∈ lines, word ∈ split line := by
  induction lines with
  | nil => simp [split]
  | cons line rest ih =>
      cases rest with
      | nil => simp
      | cons next rest =>
          rw [List.intercalate_cons_cons, List.append_assoc, List.singleton_append,
            split_append_space, List.mem_append, ih]
          simp

@[simp]
theorem mem_sorted {values : List Text} {value : Text} : value ∈ sorted values ↔ value ∈ values :=
  List.mem_insertionSort _

theorem textLines_append_newline (first rest : Text) :
    textLines (first ++ '\n' :: rest) = textLines first ++ textLines rest := by
  rw [textLines, List.splitOnP_append_cons first rest (by decide), List.map_append,
    List.filter_append, textLines, textLines]

/-- Where a slice of so many elements ends. -/
def stop (count : Int) (length : Nat) : Nat :=
  if 0 ≤ count then count.toNat else length - (-count).toNat

theorem take_eq {α : Type*} (count : Int) (value : List α) :
    take count value = value.take (stop count value.length) :=
  (apply_ite value.take (0 ≤ count) _ _).symm

theorem take_sublist {α : Type*} (count : Int) (value : List α) :
    (take count value).Sublist value := by
  unfold take
  split
  · exact List.take_sublist _ _
  · exact List.take_sublist _ _

end OpenPath.Python
