/-
# A cached copy and its validator

A client of a server that answers conditional requests keeps a copy of a document
together with the validator under which the document was served. When the server
confirms the validator, the client goes on with its copy, so the pair is sound if
the copy is the one that comes from the document with that validator. The module
says what replacing one half of the pair does to soundness.
-/

import Mathlib.Logic.Basic

namespace OpenPath.Foundation

/-- What became of a write to a file: the file was replaced, it could not be opened,
or it was opened and lost its content. -/
inductive WriteOutcome
  | written
  | refused
  | truncated
  deriving DecidableEq

/-- The content of the file after the write. -/
def WriteOutcome.result {α : Type*} (outcome : WriteOutcome) (old : Option (List α))
    (new : List α) : Option (List α) :=
  match outcome with
  | .written => some new
  | .refused => old
  | .truncated => some []

structure CachedCopy (V D : Type*) where
  validator : Option V
  copy : Option D

namespace CachedCopy

variable {V D : Type*} {form : V → Option D}

/-- The copy is the one that is made of the document with the stored validator. -/
def Sound (form : V → Option D) (cache : CachedCopy V D) : Prop :=
  ∀ validator, cache.validator = some validator →
    ∃ copy, form validator = some copy ∧ cache.copy = some copy

variable {cache : CachedCopy V D}

/-- Without a validator nothing is confirmed. -/
theorem sound_of_none (hnone : cache.validator = none) : cache.Sound form := by
  intro validator hvalidator
  rw [hnone] at hvalidator
  cases hvalidator

/-- Storing a validator vouches for the copy that is there. -/
theorem sound_store_iff {validator : V} {made : D} (hform : form validator = some made)
    (copy : Option D) :
    Sound form { validator := some validator, copy := copy } ↔ copy = some made := by
  refine ⟨?_, ?_⟩
  · intro hsound
    obtain ⟨other, hother, hcopy⟩ := hsound validator rfl
    exact hcopy.trans (hother.symm.trans hform)
  · rintro rfl other ⟨⟩
    exact ⟨made, hform, rfl⟩

/-- A stored validator forbids any other copy. -/
theorem Sound.replace_iff (hsound : cache.Sound form) (copy : Option D) :
    Sound form { validator := cache.validator, copy := copy } ↔
      cache.validator = none ∨ copy = cache.copy := by
  refine ⟨?_, ?_⟩
  · intro hreplaced
    cases hvalidator : cache.validator with
    | none => exact Or.inl rfl
    | some validator =>
        obtain ⟨made, hmade, hold⟩ := hsound validator hvalidator
        obtain ⟨other, hother, hnew⟩ := hreplaced validator hvalidator
        refine Or.inr ?_
        rw [hold, ← hmade, hother]
        exact hnew
  · rintro (hnone | rfl)
    · exact sound_of_none hnone
    · exact hsound

end CachedCopy

end OpenPath.Foundation
