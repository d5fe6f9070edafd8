/-
# Computations that may fail

Inversion of successful computations in `Except`: a sequence that succeeded is a
first part that succeeded and a rest that succeeded on its result. With these
lemmas a proof peels a `do` block apart statement by statement.
-/

import Mathlib.Logic.Basic

namespace OpenPath.Foundation

universe u v

variable {ε ε' : Type u} {α β : Type v}

theorem bind_eq_ok {first : Except ε α} {rest : α → Except ε β} {b : β} :
    first >>= rest = .ok b ↔ ∃ a, first = .ok a ∧ rest a = .ok b := by
  cases first with
  | error e =>
      refine ⟨?_, ?_⟩
      · intro h
        cases h
      · rintro ⟨_, h, -⟩
        cases h
  | ok a =>
      refine ⟨?_, ?_⟩
      · exact fun h => ⟨a, rfl, h⟩
      · rintro ⟨_, h, hrest⟩
        cases h
        exact hrest

theorem pure_eq_ok {a b : α} : (pure a : Except ε α) = .ok b ↔ a = b := by
  refine ⟨?_, ?_⟩
  · intro h
    cases h
    rfl
  · rintro rfl
    rfl

variable {result : Except ε α}

theorem map_eq_ok {f : α → β} {b : β} :
    result.map f = .ok b ↔ ∃ a, result = .ok a ∧ f a = b := by
  cases result with
  | error e =>
      refine ⟨?_, ?_⟩
      · intro h
        cases h
      · rintro ⟨_, h, -⟩
        cases h
  | ok a =>
      refine ⟨?_, ?_⟩
      · intro h
        cases h
        exact ⟨a, rfl, rfl⟩
      · rintro ⟨_, h, rfl⟩
        cases h
        rfl

theorem mapError_eq_ok {f : ε → ε'} {a : α} :
    result.mapError f = .ok a ↔ result = .ok a := by
  cases result with
  | error e =>
      refine ⟨?_, ?_⟩
      · intro h
        cases h
      · intro h
        cases h
  | ok b =>
      refine ⟨?_, ?_⟩
      · intro h
        cases h
        rfl
      · intro h
        cases h
        rfl

/-- Mapping a partial function over an optional value succeeds when there is no
value, or the function succeeds on it. -/
theorem option_mapM_eq_ok {f : α → Except ε β} {x : Option α} {y : Option β} :
    x.mapM f = .ok y ↔
      (x = none ∧ y = none) ∨ ∃ a b, x = some a ∧ f a = .ok b ∧ y = some b := by
  cases x with
  | none =>
      have hnone : (none : Option α).mapM f = (.ok none : Except ε (Option β)) := rfl
      rw [hnone]
      refine ⟨?_, ?_⟩
      · intro h
        cases h
        exact Or.inl ⟨rfl, rfl⟩
      · rintro (⟨-, rfl⟩ | ⟨a, b, h, -⟩)
        · rfl
        · cases h
  | some a =>
      have hsome : (some a).mapM f = some <$> f a := rfl
      rw [hsome]
      cases hf : f a with
      | error e =>
          refine ⟨?_, ?_⟩
          · intro h
            cases h
          · rintro (⟨h, -⟩ | ⟨a', b, ⟨⟩, hb, -⟩)
            · cases h
            · rw [hf] at hb
              cases hb
      | ok b =>
          refine ⟨?_, ?_⟩
          · intro h
            cases h
            exact Or.inr ⟨a, b, rfl, hf, rfl⟩
          · rintro (⟨h, -⟩ | ⟨a', b', ⟨⟩, hb, rfl⟩)
            · cases h
            · rw [hf] at hb
              cases hb
              rfl

end OpenPath.Foundation
