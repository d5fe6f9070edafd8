/-
# Readers of records

A reader takes a value from the front of a list of symbols and leaves the rest; the
position goes along for its messages. What a reader accepts is a language: which symbols
stand for which value, whatever comes after them. Languages compose as readers do, so
that one statement about a composed reader says both that what was written is read back
and that nothing else is accepted.

A file of records is read until nothing is left. Where records have a language, so has
the file, and a file that was cut off is rejected unless the cut is between two records.
-/

import OpenPath.Foundation.Except
import Mathlib.Data.List.Forall2

namespace OpenPath.Foundation

universe u v

variable {ε α : Type u} {β γ : Type u}

/-- Where a reader is, and what it has not read yet. -/
structure Cursor (α : Type u) where
  position : Nat
  rest : List α

def Cursor.advance (cursor : Cursor α) (count : Nat) : Cursor α :=
  ⟨cursor.position + count, cursor.rest.drop count⟩

abbrev Reader (ε α : Type u) := StateT (Cursor α) (Except ε)

/-- A reader that accepts or refuses what stands at the front, and says how much it takes. -/
def Reader.front (parse : List α → Option (β × Nat)) (failure : Cursor α → ε) : Reader ε α β :=
  fun cursor =>
    match parse cursor.rest with
    | none => .error (failure cursor)
    | some (value, count) => .ok (value, cursor.advance count)

/-- A reader takes exactly the symbols of a language, and gives their value. -/
def Describes (reader : Reader ε α β) (language : List α → β → Prop) : Prop :=
  ∀ cursor value after, reader.run cursor = .ok (value, after) ↔
    ∃ raw, language raw value ∧ cursor.rest = raw ++ after.rest ∧
      after.position = cursor.position + raw.length

namespace Describes

variable {reader : Reader ε α β} {language : List α → β → Prop}

theorem congr {other : List α → β → Prop} (h : Describes reader language)
    (hiff : ∀ raw value, language raw value ↔ other raw value) : Describes reader other := by
  intro cursor value after
  rw [h cursor value after]
  exact exists_congr fun raw => and_congr_left fun _ => hiff raw value

theorem front {parse : List α → Option (β × Nat)} {failure : Cursor α → ε}
    (h : ∀ rest value count, parse rest = some (value, count) ↔
      ∃ raw, language raw value ∧ raw.length = count ∧ raw <+: rest) :
    Describes (Reader.front parse failure) language := by
  intro cursor value after
  have hrun : (Reader.front parse failure).run cursor = .ok (value, after) ↔
      ∃ count, parse cursor.rest = some (value, count) ∧ after = cursor.advance count := by
    rw [StateT.run, Reader.front]
    cases hparse : parse cursor.rest with
    | none => simp
    | some result =>
        obtain ⟨other, count⟩ := result
        simp only [Except.ok.injEq, Prod.mk.injEq, Option.some.injEq]
        constructor
        · rintro ⟨rfl, rfl⟩
          exact ⟨count, ⟨rfl, rfl⟩, rfl⟩
        · rintro ⟨_, ⟨rfl, rfl⟩, rfl⟩
          exact ⟨rfl, rfl⟩
  rw [hrun]
  constructor
  · rintro ⟨count, hparse, rfl⟩
    obtain ⟨raw, hraw, rfl, tail, htail⟩ := (h _ _ _).mp hparse
    refine ⟨raw, hraw, ?_, rfl⟩
    rw [Cursor.advance, ← htail, List.drop_left]
  · rintro ⟨raw, hraw, hrest, hposition⟩
    refine ⟨raw.length, (h _ _ _).mpr ⟨raw, hraw, rfl, after.rest, hrest.symm⟩, ?_⟩
    rw [Cursor.advance, hrest, List.drop_left, ← hposition]

protected theorem pure (value : β) :
    Describes (pure value : Reader ε α β) fun raw result => raw = [] ∧ result = value := by
  intro cursor result after
  rw [StateT.run_pure, pure_eq_ok, Prod.mk.injEq]
  constructor
  · rintro ⟨rfl, rfl⟩
    exact ⟨[], ⟨rfl, rfl⟩, rfl, rfl⟩
  · rintro ⟨raw, ⟨rfl, rfl⟩, hrest, hposition⟩
    obtain ⟨position, rest⟩ := after
    obtain ⟨position', rest'⟩ := cursor
    simp only [List.nil_append, List.length_nil, Nat.add_zero] at hrest hposition
    exact ⟨rfl, by rw [hrest, hposition]⟩

/-- One reader after another: the symbols of the first, and then those of the second. -/
protected theorem bind {rest : β → Reader ε α γ} {languages : β → List α → γ → Prop}
    (hfirst : Describes reader language) (hrest : ∀ value, Describes (rest value) (languages value)) :
    Describes (reader >>= rest) fun raw result =>
      ∃ front value back, raw = front ++ back ∧ language front value ∧
        languages value back result := by
  intro cursor result after
  rw [StateT.run_bind, bind_eq_ok]
  constructor
  · rintro ⟨⟨value, middle⟩, hvalue, hresult⟩
    obtain ⟨front, hfront, hcursor, hposition⟩ := (hfirst _ _ _).mp hvalue
    obtain ⟨back, hback, hmiddle, hposition'⟩ := (hrest value _ _ _).mp hresult
    refine ⟨front ++ back, ⟨front, value, back, rfl, hfront, hback⟩, ?_, ?_⟩
    · rw [hcursor, hmiddle, List.append_assoc]
    · rw [hposition', hposition, List.length_append, Nat.add_assoc]
  · rintro ⟨_, ⟨front, value, back, rfl, hfront, hback⟩, hcursor, hposition⟩
    refine ⟨(value, ⟨cursor.position + front.length, back ++ after.rest⟩), ?_, ?_⟩
    · exact (hfirst _ _ _).mpr ⟨front, hfront, by rw [hcursor, List.append_assoc], rfl⟩
    · refine (hrest value _ _ _).mpr ⟨back, hback, rfl, ?_⟩
      rw [hposition, List.length_append, Nat.add_assoc]

/-- What stands at the front of the same symbols is the same record. -/
theorem deterministic (h : Describes reader language) {first second : List α} {one other : β}
    {firstRest secondRest : List α} (hfirst : language first one) (hsecond : language second other)
    (heq : first ++ firstRest = second ++ secondRest) :
    first = second ∧ one = other := by
  have hone := (h ⟨0, first ++ firstRest⟩ one ⟨0 + first.length, firstRest⟩).mpr
    ⟨first, hfirst, rfl, rfl⟩
  have hother := (h ⟨0, first ++ firstRest⟩ other ⟨0 + second.length, secondRest⟩).mpr
    ⟨second, hsecond, heq, rfl⟩
  rw [hone, Except.ok.injEq, Prod.mk.injEq, Cursor.mk.injEq] at hother
  obtain ⟨hvalue, hlength, -⟩ := hother
  exact ⟨(List.append_inj heq (by omega)).1, hvalue⟩

end Describes

/-! ## Files of records -/

/-- A reader of one record, which takes something. -/
structure RecordReader (ε α β : Type u) where
  read : Reader ε α β
  record : List α → β → Prop
  describes : Describes read record
  record_ne_nil : ∀ {raw value}, record raw value → raw ≠ []

namespace RecordReader

variable (reader : RecordReader ε α β)

theorem length_lt {cursor after : Cursor α} {value : β}
    (h : reader.read.run cursor = .ok (value, after)) :
    after.rest.length < cursor.rest.length := by
  obtain ⟨raw, hraw, hrest, -⟩ := (reader.describes _ _ _).mp h
  have hpos := List.length_pos_iff.mpr (reader.record_ne_nil hraw)
  rw [hrest, List.length_append]
  omega

/-- Records are read until nothing is left. -/
def readAll (cursor : Cursor α) : Except ε (List β) :=
  if cursor.rest.isEmpty then .ok []
  else
    match _h : reader.read.run cursor with
    | .error failure => .error failure
    | .ok (value, after) => (readAll after).map (value :: ·)
  termination_by cursor.rest.length
  decreasing_by exact reader.length_lt _h

theorem readAll_of_nil {cursor : Cursor α} (h : cursor.rest = []) :
    reader.readAll cursor = .ok [] := by
  rw [readAll, h]
  rfl

theorem readAll_of_error {cursor : Cursor α} {failure : ε} (hne : cursor.rest ≠ [])
    (h : reader.read.run cursor = .error failure) : reader.readAll cursor = .error failure := by
  rw [readAll, if_neg (by rwa [List.isEmpty_iff])]
  split
  · next heq =>
      rw [h] at heq
      cases heq
      rfl
  · next heq =>
      rw [h] at heq
      cases heq

theorem readAll_of_ok {cursor after : Cursor α} {value : β} (hne : cursor.rest ≠ [])
    (h : reader.read.run cursor = .ok (value, after)) :
    reader.readAll cursor = (reader.readAll after).map (value :: ·) := by
  rw [readAll, if_neg (by rwa [List.isEmpty_iff])]
  split
  · next heq =>
      rw [h] at heq
      cases heq
  · next heq =>
      rw [h] at heq
      cases heq
      rfl

/-- A file is read exactly when it is one record after another. -/
theorem readAll_eq_ok {cursor : Cursor α} {values : List β} :
    reader.readAll cursor = .ok values ↔
      ∃ raws, cursor.rest = raws.flatten ∧ List.Forall₂ reader.record raws values := by
  by_cases hnil : cursor.rest = []
  · rw [reader.readAll_of_nil hnil, hnil, Except.ok.injEq]
    constructor
    · rintro rfl
      exact ⟨[], rfl, .nil⟩
    · rintro ⟨raws, hraws, hrecords⟩
      cases hrecords with
      | nil => rfl
      | cons hrecord _ =>
          exact absurd (List.append_eq_nil_iff.mp hraws.symm).1 (reader.record_ne_nil hrecord)
  · cases hrun : reader.read.run cursor with
    | error failure =>
        rw [reader.readAll_of_error hnil hrun]
        constructor
        · intro h
          cases h
        · rintro ⟨raws, hraws, hrecords⟩
          cases hrecords with
          | nil => exact absurd hraws hnil
          | cons hrecord _ =>
              rw [List.flatten_cons] at hraws
              have hok := (reader.describes cursor _ ⟨_, _⟩).mpr ⟨_, hrecord, hraws, rfl⟩
              rw [hrun] at hok
              cases hok
    | ok result =>
        obtain ⟨value, after⟩ := result
        have hshorter := reader.length_lt hrun
        rw [reader.readAll_of_ok hnil hrun, map_eq_ok]
        obtain ⟨raw, hraw, hrest, -⟩ := (reader.describes _ _ _).mp hrun
        constructor
        · rintro ⟨others, hothers, rfl⟩
          obtain ⟨raws, hafter, hrecords⟩ := readAll_eq_ok.mp hothers
          exact ⟨raw :: raws, by rw [hrest, hafter, List.flatten_cons], .cons hraw hrecords⟩
        · rintro ⟨raws, hraws, hrecords⟩
          cases hrecords with
          | nil => exact absurd hraws hnil
          | cons hrecord hrecords =>
              rw [hrest, List.flatten_cons] at hraws
              obtain ⟨rfl, rfl⟩ := reader.describes.deterministic hraw hrecord hraws
              exact ⟨_, readAll_eq_ok.mpr ⟨_, List.append_cancel_left hraws, hrecords⟩, rfl⟩
  termination_by cursor.rest.length

/-- Records at the front of a file of records are the first ones of it. -/
theorem eq_take_of_prefix {raws others : List (List α)} {values otherValues : List β}
    (hrecords : List.Forall₂ reader.record raws values)
    (hothers : List.Forall₂ reader.record others otherValues)
    (hstarts : others.flatten <+: raws.flatten) :
    others = raws.take others.length ∧ otherValues = values.take others.length := by
  induction hothers generalizing raws values with
  | nil => exact ⟨rfl, rfl⟩
  | cons hother hothers ih =>
      obtain ⟨tail, htail⟩ := hstarts
      rw [List.flatten_cons, List.append_assoc] at htail
      cases hrecords with
      | nil => exact absurd (List.append_eq_nil_iff.mp htail).1 (reader.record_ne_nil hother)
      | cons hrecord hrecords =>
          rw [List.flatten_cons] at htail
          obtain ⟨rfl, rfl⟩ := reader.describes.deterministic hother hrecord htail
          obtain ⟨hraws, hvalues⟩ := ih hrecords ⟨tail, List.append_cancel_left htail⟩
          refine ⟨?_, ?_⟩
          · rw [List.length_cons, List.take_succ_cons, ← hraws]
          · rw [List.length_cons, List.take_succ_cons, ← hvalues]

end RecordReader

end OpenPath.Foundation
