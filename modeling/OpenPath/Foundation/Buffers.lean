/-
# Buffers of a fixed layout

A binary format places its fields at fixed offsets of a buffer. Writing patches
the buffer at an offset; reading takes a slice of it. A buffer is the
concatenation of its adjacent slices, and patching a concatenation at one of its
seams replaces that part. With these two facts a layout that was written field by
field is a concatenation, and one that was checked slice by slice is too.

Numbers are stored with the least significant byte first.
-/

import Mathlib.Algebra.Order.Group.Nat
import Mathlib.Data.List.Basic

namespace OpenPath.Foundation

variable {α : Type*}

/-- A part of a buffer. -/
def slice (buffer : List α) (offset length : Nat) : List α := (buffer.drop offset).take length

/-- A buffer after values were written over it at an offset. -/
def patch (buffer : List α) (offset : Nat) (values : List α) : List α :=
  buffer.take offset ++ values ++ buffer.drop (offset + values.length)

/-! ## Slices -/

theorem length_slice (buffer : List α) (offset length : Nat) :
    (slice buffer offset length).length = min length (buffer.length - offset) := by
  rw [slice, List.length_take, List.length_drop]

@[simp]
theorem slice_zero_length (buffer : List α) : slice buffer 0 buffer.length = buffer := by
  rw [slice, List.drop_zero, List.take_length]

theorem slice_append_slice (buffer : List α) (offset first second : Nat) :
    slice buffer offset first ++ slice buffer (offset + first) second =
      slice buffer offset (first + second) := by
  rw [slice, slice, slice, List.take_add, List.drop_drop]

/-- The part of a concatenation between two others. -/
theorem slice_between (first middle last : List α) :
    slice (first ++ middle ++ last) first.length middle.length = middle := by
  rw [slice, List.append_assoc, List.drop_left, List.take_left]

theorem slice_right (first last : List α) :
    slice (first ++ last) first.length last.length = last := by
  have h := slice_between first last []
  rwa [List.append_nil] at h

variable {buffer : List α}

theorem append_eq_iff_slice {first second : List α} {offset : Nat} :
    slice buffer offset (first ++ second).length = first ++ second ↔
      slice buffer offset first.length = first ∧
        slice buffer (offset + first.length) second.length = second := by
  rw [List.length_append, ← slice_append_slice]
  refine ⟨?_, ?_⟩
  · intro heq
    have hlengths := congrArg List.length heq
    simp only [List.length_append, length_slice] at hlengths
    exact List.append_inj heq (by rw [length_slice]; omega)
  · rintro ⟨hfirst, hsecond⟩
    rw [hfirst, hsecond]

/-- Fields one after another in a buffer, from an offset on. -/
def Placed (buffer : List α) : Nat → List (List α) → Prop
  | _, [] => True
  | offset, part :: rest =>
      slice buffer offset part.length = part ∧ Placed buffer (offset + part.length) rest

variable {parts : List (List α)}

theorem placed_iff {offset : Nat} :
    Placed buffer offset parts ↔ slice buffer offset parts.flatten.length = parts.flatten := by
  induction parts generalizing offset with
  | nil => simp [Placed, slice]
  | cons part rest ih => rw [List.flatten_cons, append_eq_iff_slice, Placed, ih]

/-- A buffer consists of fields exactly when each stands in its place. -/
theorem eq_flatten_iff_placed (hlength : buffer.length = parts.flatten.length) :
    buffer = parts.flatten ↔ Placed buffer 0 parts := by
  rw [placed_iff, ← hlength, slice_zero_length]

/-! ## Patches -/

theorem patch_between (first last : List α) {old new : List α} (hlength : old.length = new.length) :
    patch (first ++ old ++ last) first.length new = first ++ new ++ last := by
  rw [patch, List.append_assoc first old last, List.take_left, ← hlength, ← List.length_append,
    ← List.append_assoc first old last, List.drop_left]

theorem length_patch {buffer values : List α} {offset : Nat}
    (hfits : offset + values.length ≤ buffer.length) :
    (patch buffer offset values).length = buffer.length := by
  simp only [patch, List.length_append, List.length_take, List.length_drop]
  omega

@[simp]
theorem patch_nil (buffer : List α) (offset : Nat) : patch buffer offset [] = buffer := by
  rw [patch, List.append_nil, List.length_nil, Nat.add_zero, List.take_append_drop]

theorem patch_patch {buffer first second : List α} {offset : Nat}
    (hfits : offset + first.length ≤ buffer.length) :
    patch (patch buffer offset first) (offset + first.length) second =
      patch buffer offset (first ++ second) := by
  have htake : (buffer.take offset ++ first).length = offset + first.length := by
    rw [List.length_append, List.length_take]
    omega
  have hleft : (patch buffer offset first).take (offset + first.length) =
      buffer.take offset ++ first := by
    rw [patch, ← htake, List.take_left]
  have hright : (patch buffer offset first).drop (offset + first.length + second.length) =
      buffer.drop (offset + first.length + second.length) := by
    rw [patch, ← List.drop_drop, ← htake, List.drop_left, htake, List.drop_drop]
  rw [patch, hleft, hright, patch, List.length_append, Nat.add_assoc offset, List.append_assoc,
    List.append_assoc, List.append_assoc, List.append_assoc]

/-! ## Numbers -/

/-- The bytes of a number, of a fixed width. -/
def littleEndian : Nat → Nat → List UInt8
  | 0, _ => []
  | width + 1, n => UInt8.ofNat n :: littleEndian width (n / 256)

/-- The number that bytes stand for. -/
def ofLittleEndian : List UInt8 → Nat
  | [] => 0
  | byte :: bytes => byte.toNat + 256 * ofLittleEndian bytes

@[simp]
theorem length_littleEndian (width n : Nat) : (littleEndian width n).length = width := by
  induction width generalizing n with
  | zero => rfl
  | succ width ih => rw [littleEndian, List.length_cons, ih]

theorem ofLittleEndian_littleEndian {width n : Nat} (hn : n < 256 ^ width) :
    ofLittleEndian (littleEndian width n) = n := by
  induction width generalizing n with
  | zero =>
      rw [Nat.pow_zero] at hn
      show 0 = n
      omega
  | succ width ih =>
      have hrest := ih (Nat.div_lt_of_lt_mul (by rw [← Nat.pow_succ']; exact hn))
      rw [littleEndian, ofLittleEndian, hrest, UInt8.toNat_ofNat']
      omega

theorem littleEndian_ofLittleEndian (bytes : List UInt8) :
    littleEndian bytes.length (ofLittleEndian bytes) = bytes := by
  induction bytes with
  | nil => rfl
  | cons byte bytes ih =>
      have hbyte := byte.toNat_lt
      have hdiv : (byte.toNat + 256 * ofLittleEndian bytes) / 256 = ofLittleEndian bytes := by
        omega
      rw [List.length_cons, ofLittleEndian, littleEndian, hdiv, ih]
      congr 1
      apply UInt8.toNat_inj.mp
      rw [UInt8.toNat_ofNat']
      omega

theorem ofLittleEndian_lt (bytes : List UInt8) : ofLittleEndian bytes < 256 ^ bytes.length := by
  induction bytes with
  | nil => exact Nat.one_pos
  | cons byte bytes ih =>
      have hbyte := byte.toNat_lt
      rw [ofLittleEndian, List.length_cons, Nat.pow_succ]
      omega

/-- Bytes stand for a number exactly when they are its bytes. -/
theorem ofLittleEndian_eq_iff {bytes : List UInt8} {width n : Nat} (hlength : bytes.length = width)
    (hn : n < 256 ^ width) : ofLittleEndian bytes = n ↔ bytes = littleEndian width n := by
  refine ⟨?_, ?_⟩
  · rintro rfl
    rw [← hlength, littleEndian_ofLittleEndian]
  · rintro rfl
    exact ofLittleEndian_littleEndian hn

end OpenPath.Foundation
