/-
# UTF-8

Strings are written to files as UTF-8, and files that are read as strings are
decoded with a replacement character for every sequence of bytes that is not the
encoding of a character. The decoder takes one byte at a time: a lead byte says
how many bytes follow and bounds the first of them, and a byte outside its bounds
ends the sequence and is taken as a lead byte itself.
-/

import OpenPath.Text.Unicode

namespace OpenPath

abbrev Bytes := List UInt8

namespace Utf8

/-- `Buffer.from(text, 'utf8')` -/
def encode (text : Text) : Bytes := text.flatMap String.utf8EncodeChar

/-- A sequence of which bytes are missing, with the bounds of the next one. -/
structure Pending where
  codePoint : Nat
  missing : Nat
  lower : Nat
  upper : Nat

def replacement : Char := Char.ofNat 0xfffd

/-- A byte at the start of a sequence. -/
def lead (byte : Nat) : Text × Option Pending :=
  if byte ≤ 0x7f then ([Char.ofNat byte], none)
  else if 0xc2 ≤ byte ∧ byte ≤ 0xdf then ([], some ⟨byte - 0xc0, 1, 0x80, 0xbf⟩)
  else if 0xe0 ≤ byte ∧ byte ≤ 0xef then
    ([], some ⟨byte - 0xe0, 2, if byte = 0xe0 then 0xa0 else 0x80,
      if byte = 0xed then 0x9f else 0xbf⟩)
  else if 0xf0 ≤ byte ∧ byte ≤ 0xf4 then
    ([], some ⟨byte - 0xf0, 3, if byte = 0xf0 then 0x90 else 0x80,
      if byte = 0xf4 then 0x8f else 0xbf⟩)
  else ([replacement], none)

def next (byte : Nat) : Option Pending → Text × Option Pending
  | none => lead byte
  | some pending =>
      if pending.lower ≤ byte ∧ byte ≤ pending.upper then
        let codePoint := pending.codePoint * 0x40 + (byte - 0x80)
        if pending.missing = 1 then ([Char.ofNat codePoint], none)
        else ([], some ⟨codePoint, pending.missing - 1, 0x80, 0xbf⟩)
      else (replacement :: (lead byte).1, (lead byte).2)

def decodeFrom : Option Pending → Bytes → Text
  | none, [] => []
  | some _, [] => [replacement]
  | pending, byte :: bytes =>
      (next byte.toNat pending).1 ++ decodeFrom (next byte.toNat pending).2 bytes

/-- `buffer.toString('utf8')` -/
def decode (bytes : Bytes) : Text := decodeFrom none bytes

/-! ## Strict decoding -/

/-- The byte goes on with the sequence, or starts one. -/
def accepts (byte : Nat) : Option Pending → Bool
  | none => byte ≤ 0x7f || (0xc2 ≤ byte && byte ≤ 0xf4)
  | some pending => pending.lower ≤ byte && byte ≤ pending.upper

def decodeStrictFrom (state : Option Pending) : Bytes → Option Text
  | [] => if state.isSome then none else some []
  | byte :: bytes =>
      if accepts byte.toNat state then
        (decodeStrictFrom (next byte.toNat state).2 bytes).map ((next byte.toNat state).1 ++ ·)
      else none

/-- `bytes.decode('utf-8')`, which fails on what is not the encoding of a text. -/
def decodeStrict (bytes : Bytes) : Option Text := decodeStrictFrom none bytes

/-! ## Decoding without what is invalid -/

/-- A byte that neither goes on with the sequence nor starts one is dropped. -/
def nextValid (byte : Nat) (state : Option Pending) : Text × Option Pending :=
  if accepts byte state then next byte state
  else if accepts byte none then lead byte
  else ([], none)

def decodeIgnoreFrom : Option Pending → Bytes → Text
  | _, [] => []
  | state, byte :: bytes =>
      (nextValid byte.toNat state).1 ++ decodeIgnoreFrom (nextValid byte.toNat state).2 bytes

/-- `bytes.decode('utf-8', errors='ignore')` -/
def decodeIgnore (bytes : Bytes) : Text := decodeIgnoreFrom none bytes

theorem lower_of_mem_next {byte : Nat} {following : Pending} {state : Option Pending}
    (hnext : (next byte state).2 = some following) :
    0x80 ≤ following.lower := by
  have hlead : (lead byte).2 = some following → 0x80 ≤ following.lower := by
    intro hlead
    unfold lead at hlead
    split at hlead
    · cases hlead
    split at hlead
    · rw [← Option.some.inj hlead]
    split at hlead
    · rw [← Option.some.inj hlead]
      dsimp only
      split
      · decide
      · decide
    split at hlead
    · rw [← Option.some.inj hlead]
      dsimp only
      split
      · decide
      · decide
    · cases hlead
  cases state with
  | none => exact hlead hnext
  | some pending =>
      unfold next at hnext
      dsimp only at hnext
      split at hnext
      · split at hnext
        · cases hnext
        · rw [← Option.some.inj hnext]
      · exact hlead hnext

/-- A line break ends no sequence of bytes: what is before it and what follows it are
decoded on their own. -/
theorem decodeStrictFrom_append_newline {state : Option Pending}
    (hstate : ∀ pending ∈ state, 0x80 ≤ pending.lower) (bytes rest : Bytes) :
    decodeStrictFrom state (bytes ++ 10 :: rest) =
      (decodeStrictFrom state bytes).bind fun text =>
        (decodeStrict rest).map fun following => text ++ '\n' :: following := by
  induction bytes generalizing state with
  | nil =>
      cases state with
      | none => rfl
      | some pending =>
          have hlower := hstate pending rfl
          have hnot : ¬ accepts (10 : UInt8).toNat (some pending) = true := by
            have hten : (10 : UInt8).toNat = 10 := rfl
            rw [accepts, hten, Bool.and_eq_true, decide_eq_true_eq]
            omega
          have hleft : decodeStrictFrom (some pending) (10 :: rest) = none := if_neg hnot
          rw [List.nil_append, hleft]
          rfl
  | cons byte bytes ih =>
      have hnext : ∀ pending ∈ (next byte.toNat state).2, 0x80 ≤ pending.lower := fun _ h =>
        lower_of_mem_next h
      rw [List.cons_append, decodeStrictFrom, decodeStrictFrom]
      split
      · rw [ih hnext]
        cases decodeStrictFrom (next byte.toNat state).2 bytes with
        | none => rfl
        | some text =>
            cases decodeStrict rest with
            | none => rfl
            | some following => simp
      · rfl

theorem utf8EncodeChar_of_ascii {c : Char} (ascii : c.toNat < 0x80) :
    String.utf8EncodeChar c = [UInt8.ofNat c.toNat] := by
  have size : c.utf8Size = 1 := by
    have bound : c.val ≤ 0x7f := by
      rw [UInt32.le_iff_toNat_le]
      exact Nat.le_of_lt_succ ascii
    simp [Char.utf8Size, bound]
  rw [String.utf8EncodeChar_eq_singleton size]
  rfl

theorem decode_encode_of_ascii {text : Text} (ascii : ∀ c ∈ text, c.toNat < 0x80) :
    decode (encode text) = text := by
  induction text with
  | nil => rfl
  | cons c text ih =>
      have hc : c.toNat < 0x80 := ascii c (by simp)
      have byte : (UInt8.ofNat c.toNat).toNat = c.toNat := by
        rw [UInt8.toNat_ofNat']
        omega
      have rest := ih fun d member => ascii d (by simp [member])
      simp only [decode, encode] at rest ⊢
      rw [List.flatMap_cons, utf8EncodeChar_of_ascii hc, List.singleton_append]
      simp only [decodeFrom, next, byte, lead, Nat.le_of_lt_succ hc, if_true, rest]
      rw [List.singleton_append, Char.ofNat_toNat]

end Utf8

end OpenPath
