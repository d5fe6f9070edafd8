/-
# Runs that become one mark

Names that are made from free text put one mark where the text has a run of what a name may
not hold. Runs of the mark itself are made shorter in the same way. What comes out has no
two marks side by side, and a list without such pairs stays as it is.
-/

import OpenPath.Foundation.Trim
import Mathlib.Data.List.Chain

namespace OpenPath.Foundation

variable {α : Type*}

/-- Every run of what satisfies the predicate becomes one mark. A run that goes on from
before the list (`inside`) has its mark already. -/
def replaceRuns (p : α → Bool) (mark : α) (inside : Bool) : List α → List α
  | [] => []
  | c :: rest =>
      if p c then (if inside then [] else [mark]) ++ replaceRuns p mark true rest
      else c :: replaceRuns p mark false rest

/-- No two neighbours satisfy the predicate. -/
def Spaced (p : α → Bool) (s : List α) : Prop := s.IsChain fun c d => ¬ (p c = true ∧ p d = true)

variable {p : α → Bool} {s : List α}

theorem Spaced.of_isInfix {t : List α} (h : Spaced p t) (hpart : s <:+: t) : Spaced p s :=
  List.IsChain.infix h hpart

theorem mem_replaceRuns {mark c : α} {inside : Bool} (hmem : c ∈ replaceRuns p mark inside s) :
    c = mark ∨ c ∈ s ∧ p c = false := by
  induction s generalizing inside with
  | nil => cases hmem
  | cons d s ih =>
      rw [replaceRuns] at hmem
      split at hmem
      · rcases List.mem_append.mp hmem with hmark | hrest
        · split at hmark
          · cases hmark
          · exact .inl (List.mem_singleton.mp hmark)
        · exact (ih hrest).imp_right fun h => ⟨List.mem_cons_of_mem d h.1, h.2⟩
      · rename_i hd
        rcases List.mem_cons.mp hmem with rfl | hrest
        · exact .inr ⟨List.mem_cons_self, Bool.eq_false_iff.mpr hd⟩
        · exact (ih hrest).imp_right fun h => ⟨List.mem_cons_of_mem d h.1, h.2⟩

/-- The result for the rest of a run starts behind the run. -/
theorem spaced_replaceRuns (p : α → Bool) (mark : α) (inside : Bool) (s : List α) :
    Spaced p (replaceRuns p mark inside s) ∧
      (inside = true → ∀ c ∈ (replaceRuns p mark inside s).head?, p c = false) := by
  induction s generalizing inside with
  | nil => exact ⟨.nil, fun _ c hc => by cases hc⟩
  | cons d s ih =>
      rw [replaceRuns]
      split
      · obtain ⟨hspaced, hhead⟩ := ih true
        cases inside with
        | true => exact ⟨hspaced, hhead⟩
        | false =>
            refine ⟨List.isChain_cons.mpr ⟨?_, hspaced⟩, fun h => by cases h⟩
            rintro c hc ⟨-, hp⟩
            rw [hhead rfl c hc] at hp
            cases hp
      · rename_i hd
        refine ⟨List.isChain_cons.mpr ⟨fun c _ h => hd h.1, (ih false).1⟩, ?_⟩
        rintro - c hc
        obtain rfl : d = c := Option.some.inj hc
        exact Bool.eq_false_iff.mpr hd

theorem replaceRuns_of_forall (mark : α) (hnone : ∀ c ∈ s, p c = false) (inside : Bool) :
    replaceRuns p mark inside s = s := by
  induction s generalizing inside with
  | nil => rfl
  | cons d s ih =>
      obtain ⟨hd, hs⟩ := List.forall_mem_cons.mp hnone
      rw [replaceRuns, if_neg (Bool.eq_false_iff.mp hd), ih hs]

/-- Where only the mark satisfies the predicate, a spaced list has nothing to replace. -/
theorem replaceRuns_of_spaced {mark : α} (hmark : ∀ c, p c = true → c = mark) {inside : Bool}
    (hspaced : Spaced p s) (hhead : inside = true → ∀ c ∈ s.head?, p c = false) :
    replaceRuns p mark inside s = s := by
  induction s generalizing inside with
  | nil => rfl
  | cons d s ih =>
      obtain ⟨hnext, hrest⟩ := List.isChain_cons.mp hspaced
      rw [replaceRuns]
      split
      · rename_i hd
        have hbehind : ∀ c ∈ s.head?, p c = false :=
          fun c hc => Bool.eq_false_iff.mpr fun hp => hnext c hc ⟨hd, hp⟩
        cases inside with
        | true => exact absurd hd (Bool.eq_false_iff.mp (hhead rfl d rfl))
        | false =>
            rw [ih hrest fun _ => hbehind, hmark d hd]
            rfl
      · rw [ih hrest fun h => by cases h]

end OpenPath.Foundation
