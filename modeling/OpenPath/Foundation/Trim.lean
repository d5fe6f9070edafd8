/-
# Trimming and prefixes

Text programs trim the two ends of a line and strip fixed prefixes before they
look at what is left. This module states both operations over an arbitrary
alphabet and an arbitrary predicate for the characters that are trimmed, and
develops when they leave a list alone: a list is a fixed point of trimming
exactly when neither of its ends satisfies the predicate.
-/

import Mathlib.Data.List.DropRight
import Mathlib.Data.List.Infix

namespace OpenPath.Foundation

variable {α : Type*}

/-- Remove the longest prefix and the longest suffix made of characters that
satisfy the predicate. -/
def trim (p : α → Bool) (s : List α) : List α :=
  (s.dropWhile p).rdropWhile p

@[simp]
theorem trim_nil (p : α → Bool) : trim p [] = [] := rfl

theorem trim_isInfix (p : α → Bool) (s : List α) : trim p s <:+: s :=
  (List.rdropWhile_prefix p _).isInfix.trans (List.dropWhile_suffix p).isInfix

variable {p : α → Bool} {s : List α} {c : α}

theorem mem_of_mem_trim (member : c ∈ trim p s) : c ∈ s :=
  (trim_isInfix p s).subset member

/-- A list with untrimmed ends: neither its first nor its last character
satisfies the predicate. -/
def Trimmed (p : α → Bool) (s : List α) : Prop :=
  (∀ c ∈ s.head?, p c = false) ∧ (∀ c ∈ s.getLast?, p c = false)

instance (p : α → Bool) (s : List α) : Decidable (Trimmed p s) :=
  inferInstanceAs (Decidable (_ ∧ _))

/-- Trimming does not see what the predicate does not see. -/
theorem trim_map {f : α → α} (hsame : ∀ c, p (f c) = p c) (s : List α) :
    trim p (s.map f) = (trim p s).map f := by
  have hcomp : p ∘ f = p := funext hsame
  rw [trim, trim, List.dropWhile_map, hcomp, List.rdropWhile, List.rdropWhile, ← List.map_reverse,
    List.dropWhile_map, hcomp, ← List.map_reverse]

theorem dropWhile_eq_self_of_head (hhead : ∀ c ∈ s.head?, p c = false) : s.dropWhile p = s := by
  cases s with
  | nil => rfl
  | cons c s =>
      have hc : p c = false := hhead c rfl
      simp [hc]

theorem rdropWhile_eq_self_of_getLast (hlast : ∀ c ∈ s.getLast?, p c = false) : s.rdropWhile p = s := by
  rw [List.rdropWhile_eq_self_iff]
  intro nonempty
  have := hlast _ (List.getLast?_eq_some_getLast nonempty)
  simp [this]

theorem head_dropWhile :
    ∀ c ∈ (s.dropWhile p).head?, p c = false := by
  induction s with
  | nil => simp
  | cons c s ih =>
      by_cases hc : p c
      · simpa [List.dropWhile_cons, hc] using ih
      · simp [hc]

theorem getLast_rdropWhile :
    ∀ c ∈ (s.rdropWhile p).getLast?, p c = false := by
  intro c hc
  obtain ⟨nonempty, rfl⟩ := List.mem_getLast?_eq_getLast hc
  simpa using List.rdropWhile_last_not p s nonempty

variable {t : List α}

theorem head?_of_isPrefix (hstart : s <+: t) :
    ∀ c ∈ s.head?, c ∈ t.head? := by
  obtain ⟨rest, rfl⟩ := hstart
  cases s <;> simp

theorem trimmed_trim (p : α → Bool) (s : List α) : Trimmed p (trim p s) := by
  refine ⟨?_, getLast_rdropWhile⟩
  intro c hc
  exact head_dropWhile c (head?_of_isPrefix (List.rdropWhile_prefix p _) c hc)

/-- Trimming leaves a list alone exactly when its ends are untrimmed. -/
theorem trim_eq_self_iff :
    trim p s = s ↔ Trimmed p s := by
  refine ⟨?_, ?_⟩
  · intro equal
    rw [← equal]
    exact trimmed_trim p s
  · rintro ⟨hhead, hlast⟩
    rw [trim, dropWhile_eq_self_of_head hhead, rdropWhile_eq_self_of_getLast hlast]

@[simp]
theorem trim_trim (p : α → Bool) (s : List α) : trim p (trim p s) = trim p s :=
  trim_eq_self_iff.mpr (trimmed_trim p s)

/-- A list none of whose characters is trimmed is a fixed point. -/
theorem trim_eq_self_of_forall (hall : ∀ c ∈ s, p c = false) : trim p s = s :=
  trim_eq_self_iff.mpr
    ⟨fun c hc => hall c (List.mem_of_mem_head? hc),
      fun c hc => hall c (List.mem_of_mem_getLast? hc)⟩

/-- Only what is trimmed may follow untrimmed ends. -/
theorem trim_append (trimmed : Trimmed p s) (nonempty : s ≠ []) (hall : ∀ c ∈ t, p c = true) :
    trim p (s ++ t) = s := by
  obtain ⟨hhead, hlast⟩ := trimmed
  have hdrop : (s ++ t).dropWhile p = s ++ t := by
    apply dropWhile_eq_self_of_head
    rwa [List.head?_append_of_ne_nil _ nonempty]
  rw [trim, hdrop]
  clear hdrop
  induction t using List.reverseRecOn with
  | nil =>
      rw [List.append_nil]
      exact rdropWhile_eq_self_of_getLast hlast
  | append_singleton t c ih =>
      rw [← List.append_assoc, List.rdropWhile_concat_pos p _ _ (hall c (by simp))]
      exact ih fun d hd => hall d (by simp [hd])

/-- Trimming at the end stays within the last part, if that leaves something of it. -/
theorem rdropWhile_append_of_ne_nil (ht : t.rdropWhile p ≠ []) :
    (s ++ t).rdropWhile p = s ++ t.rdropWhile p := by
  rw [List.rdropWhile, ne_eq, List.reverse_eq_nil_iff] at ht
  rw [List.rdropWhile, List.rdropWhile, List.reverse_append, List.dropWhile_append,
    if_neg (by simpa using ht), List.reverse_append, List.reverse_reverse]

/-- Only the other end is trimmed where the first character stays. -/
theorem trim_cons_of_neg (hc : p c = false) (s : List α) :
    trim p (c :: s) = c :: s.rdropWhile p := by
  have hdrop : (c :: s).dropWhile p = c :: s := by simp [hc]
  rw [trim, hdrop]
  clear hdrop
  induction s using List.reverseRecOn with
  | nil => simp [List.rdropWhile_singleton, hc]
  | append_singleton s d ih =>
      rw [← List.cons_append]
      by_cases hd : p d = true
      · rw [List.rdropWhile_concat_pos p _ _ hd, List.rdropWhile_concat_pos p _ _ hd, ih]
      · rw [List.rdropWhile_concat_neg p _ _ hd, List.rdropWhile_concat_neg p _ _ hd,
          List.cons_append]

/-- Predicates that agree on the characters of a list trim it alike. -/
theorem trim_congr {q : α → Bool} (hsame : ∀ c ∈ s, p c = q c) : trim p s = trim q s := by
  have hleft : ∀ t : List α, (∀ c ∈ t, p c = q c) → t.dropWhile p = t.dropWhile q := by
    intro t
    induction t with
    | nil => exact fun _ => rfl
    | cons c t ih =>
        intro ht
        obtain ⟨hc, ht⟩ := List.forall_mem_cons.mp ht
        rw [List.dropWhile_cons, List.dropWhile_cons, hc, ih ht]
  have hsub : ∀ c ∈ (s.dropWhile q).reverse, p c = q c := fun c hc =>
    hsame c ((List.dropWhile_suffix q).subset (List.mem_reverse.mp hc))
  rw [trim, trim, hleft s hsame, List.rdropWhile, List.rdropWhile, hleft _ hsub]

/-! ## Prefixes -/

section Prefix

variable [DecidableEq α]

/-- Remove a prefix where it is there, once. -/
def stripPrefix (marker s : List α) : List α :=
  if marker <+: s then s.drop marker.length else s

theorem stripPrefix_suffix (marker s : List α) : stripPrefix marker s <:+ s := by
  unfold stripPrefix
  split
  · exact List.drop_suffix _ _
  · exact List.suffix_refl s

theorem stripPrefix_of_not_prefix {marker s : List α} (hnot : ¬ marker <+: s) :
    stripPrefix marker s = s := by
  simp [stripPrefix, hnot]

@[simp]
theorem stripPrefix_append (marker s : List α) :
    stripPrefix marker (marker ++ s) = s := by
  simp [stripPrefix]

end Prefix

end OpenPath.Foundation
