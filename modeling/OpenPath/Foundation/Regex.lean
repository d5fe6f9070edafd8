/-
# Regular expressions over predicate classes

The patterns of validators and line filters are regular expressions whose
leaves are character classes, and many of these classes are complements. They
are given here over an arbitrary alphabet, with a leaf for each decidable
predicate. The meaning of an expression is a `Language`; matching is by
derivatives, so that it runs, and `accepts_iff` connects the two. Results about
a pattern then speak about its language and never about the matcher.
-/

import Mathlib.Computability.Language

namespace OpenPath.Foundation

/-- Regular expressions whose leaves are character classes. -/
inductive Re (α : Type*) where
  | empty
  | epsilon
  | sat (p : α → Bool)
  | cat (first second : Re α)
  | alt (first second : Re α)
  | star (body : Re α)

namespace Re

variable {α : Type*}

/-- The set of words an expression stands for. -/
def lang : Re α → Language α
  | empty => 0
  | epsilon => 1
  | sat p => {w | ∃ c, w = [c] ∧ p c = true}
  | cat first second => first.lang * second.lang
  | alt first second => first.lang + second.lang
  | star body => KStar.kstar body.lang

/-! ## Derived forms -/

/-- `r?` -/
def opt (r : Re α) : Re α := alt epsilon r

/-- `r+` -/
def plus (r : Re α) : Re α := cat r (star r)

/-- `r{n}` -/
def times (r : Re α) : Nat → Re α
  | 0 => epsilon
  | n + 1 => cat r (times r n)

/-- `r{0,n}` -/
def upTo (r : Re α) : Nat → Re α
  | 0 => epsilon
  | n + 1 => opt (cat r (upTo r n))

/-- `r{lo,hi}` -/
def between (r : Re α) (lo hi : Nat) : Re α :=
  cat (times r lo) (upTo r (hi - lo))

/-- A literal character. -/
def lit [DecidableEq α] (c : α) : Re α := sat (fun d => d == c)

/-- A literal word. -/
def word [DecidableEq α] : List α → Re α
  | [] => epsilon
  | c :: w => cat (lit c) (word w)

/-- Expressions one after another. -/
def sequence : List (Re α) → Re α
  | [] => epsilon
  | r :: rest => cat r (sequence rest)

/-- One of several expressions. -/
def oneOf : List (Re α) → Re α
  | [] => empty
  | r :: rest => alt r (oneOf rest)

/-- Any word at all. -/
def anything : Re α := star (sat fun _ => true)

/-! ## Membership in the language -/

@[simp]
theorem mem_lang_empty (w : List α) : w ∈ (empty : Re α).lang ↔ False :=
  Iff.rfl

@[simp]
theorem mem_lang_epsilon (w : List α) : w ∈ (epsilon : Re α).lang ↔ w = [] :=
  Language.mem_one w

@[simp]
theorem mem_lang_sat (p : α → Bool) (w : List α) :
    w ∈ (sat p).lang ↔ ∃ c, w = [c] ∧ p c = true :=
  Iff.rfl

theorem mem_lang_cat (r s : Re α) (w : List α) :
    w ∈ (cat r s).lang ↔ ∃ u ∈ r.lang, ∃ v ∈ s.lang, u ++ v = w :=
  Language.mem_mul

@[simp]
theorem mem_lang_alt (r s : Re α) (w : List α) :
    w ∈ (alt r s).lang ↔ w ∈ r.lang ∨ w ∈ s.lang :=
  Language.mem_add r.lang s.lang w

theorem mem_lang_star (r : Re α) (w : List α) :
    w ∈ (star r).lang ↔ ∃ parts : List (List α), w = parts.flatten ∧
      ∀ u ∈ parts, u ∈ r.lang :=
  Language.mem_kstar

theorem nil_mem_lang_star (r : Re α) : [] ∈ (star r).lang :=
  (mem_lang_star r []).mpr ⟨[], rfl, by simp⟩

variable {r : Re α}

theorem append_mem_lang_star {u v : List α} (first : u ∈ r.lang) (rest : v ∈ (star r).lang) :
    u ++ v ∈ (star r).lang := by
  obtain ⟨parts, rfl, hparts⟩ := (mem_lang_star r v).mp rest
  refine (mem_lang_star r _).mpr ⟨u :: parts, by simp, ?_⟩
  simpa [first] using hparts

@[simp]
theorem mem_lang_opt (r : Re α) (w : List α) :
    w ∈ (opt r).lang ↔ w = [] ∨ w ∈ r.lang := by
  simp [opt]

theorem mem_lang_plus (r : Re α) (w : List α) :
    w ∈ (plus r).lang ↔ ∃ u ∈ r.lang, ∃ v ∈ (star r).lang, u ++ v = w :=
  mem_lang_cat r (star r) w

@[simp]
theorem mem_lang_lit [DecidableEq α] (c : α) (w : List α) :
    w ∈ (lit c).lang ↔ w = [c] := by
  simp [lit]

@[simp]
theorem mem_lang_word [DecidableEq α] (marker w : List α) :
    w ∈ (word marker).lang ↔ w = marker := by
  induction marker generalizing w with
  | nil => simp [word]
  | cons c marker ih => simp [word, mem_lang_cat, ih, eq_comm]

variable {p : α → Bool} {w : List α}

theorem mem_lang_star_sat :
    w ∈ (star (sat p)).lang ↔ ∀ c ∈ w, p c = true := by
  refine ⟨?_, ?_⟩
  · intro hw c hc
    obtain ⟨parts, rfl, hparts⟩ := (mem_lang_star _ _).mp hw
    obtain ⟨u, hu, hcu⟩ := List.mem_flatten.mp hc
    obtain ⟨d, rfl, hd⟩ := hparts u hu
    rw [List.mem_singleton] at hcu
    exact hcu ▸ hd
  · intro hall
    induction w with
    | nil => exact nil_mem_lang_star _
    | cons c w ih =>
        have hc : [c] ∈ (sat p).lang := ⟨c, rfl, hall c (by simp)⟩
        exact append_mem_lang_star hc (ih fun d hd => hall d (by simp [hd]))

/-- A repetition of an expression whose words are known. -/
theorem mem_lang_star_of_iff {β : Type*} {P : β → Prop} {word : β → List α}
    (hwords : ∀ w, w ∈ r.lang ↔ ∃ b, P b ∧ w = word b) (w : List α) :
    w ∈ (star r).lang ↔ ∃ items : List β, (∀ b ∈ items, P b) ∧ w = items.flatMap word := by
  rw [mem_lang_star]
  constructor
  · rintro ⟨parts, rfl, hparts⟩
    induction parts with
    | nil => exact ⟨[], by simp, rfl⟩
    | cons part parts ih =>
        obtain ⟨b, hb, rfl⟩ := (hwords part).mp (hparts part List.mem_cons_self)
        obtain ⟨items, hitems, hrest⟩ := ih fun u hu => hparts u (List.mem_cons_of_mem _ hu)
        exact ⟨b :: items, List.forall_mem_cons.mpr ⟨hb, hitems⟩, by simp [hrest]⟩
  · rintro ⟨items, hitems, rfl⟩
    refine ⟨items.map word, by rw [List.flatMap_def], ?_⟩
    intro u hu
    obtain ⟨b, hb, rfl⟩ := List.mem_map.mp hu
    exact (hwords _).mpr ⟨b, hitems b hb, rfl⟩

theorem mem_lang_oneOf (parts : List (Re α)) (w : List α) :
    w ∈ (oneOf parts).lang ↔ ∃ r ∈ parts, w ∈ r.lang := by
  induction parts with
  | nil => simp [oneOf]
  | cons r rest ih => simp [oneOf, ih]

/-- A part that may be left out. -/
theorem mem_lang_cat_opt (r s : Re α) (w : List α) :
    w ∈ (cat (opt r) s).lang ↔ w ∈ s.lang ∨ w ∈ (cat r s).lang := by
  simp only [mem_lang_cat, mem_lang_opt, or_and_right, exists_or, exists_eq_left,
    List.nil_append, exists_eq_right]

/-- Concatenation is associative. -/
theorem mem_lang_cat_cat (r s t : Re α) (w : List α) :
    w ∈ (cat (cat r s) t).lang ↔ w ∈ (cat r (cat s t)).lang := by
  rw [lang, lang, lang, lang, mul_assoc]

/-- A word up to what a key does not distinguish, such as the case of letters. -/
theorem mem_lang_sequence_key {β : Type*} [DecidableEq β] (key : α → β) (word w : List α) :
    w ∈ (sequence (word.map fun c => sat fun d => key d == key c)).lang ↔
      w.map key = word.map key := by
  induction word generalizing w with
  | nil => simp [sequence]
  | cons c word ih =>
      rw [List.map_cons, sequence, mem_lang_cat]
      refine ⟨?_, ?_⟩
      · rintro ⟨u, ⟨d, rfl, hd⟩, v, hv, rfl⟩
        have hkey : key d = key c := by simpa using hd
        simp [hkey, (ih v).mp hv]
      · intro hw
        cases w with
        | nil => cases hw
        | cons d w =>
            rw [List.map_cons, List.map_cons] at hw
            obtain ⟨hkey, hrest⟩ := List.cons.inj hw
            exact ⟨[d], ⟨d, rfl, by simp [hkey]⟩, w, (ih w).mpr hrest, rfl⟩

@[simp]
theorem mem_lang_anything (w : List α) : w ∈ (anything : Re α).lang :=
  mem_lang_star_sat.mpr fun _ _ => rfl

/-! ## Characters of matched words -/

/-- Every class of the expression only admits characters that satisfy `P`. -/
def Over (P : α → Prop) : Re α → Prop
  | empty => True
  | epsilon => True
  | sat p => ∀ c, p c = true → P c
  | cat first second => first.Over P ∧ second.Over P
  | alt first second => first.Over P ∧ second.Over P
  | star body => body.Over P

variable {P : α → Prop}

/-- The words of an expression are made of the characters its classes admit. -/
theorem forall_mem_of_over (hover : r.Over P) (hw : w ∈ r.lang) : ∀ c ∈ w, P c := by
  induction r generalizing w with
  | empty => exact False.elim hw
  | epsilon =>
      rw [mem_lang_epsilon] at hw
      simp [hw]
  | sat p =>
      obtain ⟨c, rfl, hc⟩ := hw
      simpa using hover c hc
  | cat r s ihr ihs =>
      obtain ⟨u, hu, v, hv, rfl⟩ := (mem_lang_cat r s w).mp hw
      intro c hc
      rcases List.mem_append.mp hc with hcu | hcv
      · exact ihr hover.1 hu c hcu
      · exact ihs hover.2 hv c hcv
  | alt r s ihr ihs =>
      rcases (mem_lang_alt r s w).mp hw with hr | hs
      · exact ihr hover.1 hr
      · exact ihs hover.2 hs
  | star r ih =>
      obtain ⟨parts, rfl, hparts⟩ := (mem_lang_star r w).mp hw
      intro c hc
      obtain ⟨u, hu, hcu⟩ := List.mem_flatten.mp hc
      exact ih hover (hparts u hu) c hcu

theorem Over.times (hover : r.Over P) (n : Nat) : (r.times n).Over P := by
  induction n with
  | zero => trivial
  | succ n ih => exact ⟨hover, ih⟩

theorem Over.upTo (hover : r.Over P) (n : Nat) : (r.upTo n).Over P := by
  induction n with
  | zero => trivial
  | succ n ih => exact ⟨trivial, hover, ih⟩

theorem Over.between (hover : r.Over P) (lo hi : Nat) : (r.between lo hi).Over P :=
  ⟨hover.times lo, hover.upTo (hi - lo)⟩

theorem Over.sequence {parts : List (Re α)} (hover : ∀ r ∈ parts, r.Over P) :
    (sequence parts).Over P := by
  induction parts with
  | nil => trivial
  | cons r parts ih =>
      exact ⟨hover r List.mem_cons_self, ih fun s hs => hover s (List.mem_cons_of_mem r hs)⟩

/-- A bounded repetition of a class matches at least its lower bound of
characters. -/
theorem le_length_of_mem_between_sat {lo hi : Nat} (hw : w ∈ ((sat p).between lo hi).lang) :
    lo ≤ w.length := by
  obtain ⟨u, hu, v, -, rfl⟩ := (mem_lang_cat _ _ w).mp hw
  have hlo : u.length = lo := by
    clear hw
    induction lo generalizing u with
    | zero => simpa [times] using hu
    | succ n ih =>
        obtain ⟨x, ⟨c, rfl, -⟩, y, hy, rfl⟩ := (mem_lang_cat _ _ u).mp hu
        simp [ih y hy]
  simp [← hlo]

/-- Exactly `n` characters of a class. -/
theorem mem_lang_times_sat {n : Nat} :
    w ∈ ((sat p).times n).lang ↔ w.length = n ∧ ∀ c ∈ w, p c = true := by
  induction n generalizing w with
  | zero => simp +contextual [times]
  | succ n ih =>
      rw [times, mem_lang_cat]
      constructor
      · rintro ⟨u, ⟨c, rfl, hc⟩, v, hv, rfl⟩
        obtain ⟨hlength, hall⟩ := ih.mp hv
        simpa [hlength, hc] using hall
      · rintro ⟨hlength, hall⟩
        obtain ⟨c, v, rfl⟩ := List.exists_cons_of_length_eq_add_one hlength
        refine ⟨[c], ⟨c, rfl, hall c List.mem_cons_self⟩, v, ih.mpr ⟨by simpa using hlength, ?_⟩, rfl⟩
        exact fun d hd => hall d (List.mem_cons_of_mem c hd)

/-- At most `n` characters of a class. -/
theorem mem_lang_upTo_sat {n : Nat} :
    w ∈ ((sat p).upTo n).lang ↔ w.length ≤ n ∧ ∀ c ∈ w, p c = true := by
  induction n generalizing w with
  | zero => simp +contextual [upTo]
  | succ n ih =>
      rw [upTo, mem_lang_opt, mem_lang_cat]
      constructor
      · rintro (rfl | ⟨u, ⟨c, rfl, hc⟩, v, hv, rfl⟩)
        · simp
        · obtain ⟨hlength, hall⟩ := ih.mp hv
          simpa [hlength, hc] using hall
      · rintro ⟨hlength, hall⟩
        cases w with
        | nil => exact Or.inl rfl
        | cons c v =>
            refine Or.inr ⟨[c], ⟨c, rfl, hall c List.mem_cons_self⟩, v,
              ih.mpr ⟨by simpa using hlength, ?_⟩, rfl⟩
            exact fun d hd => hall d (List.mem_cons_of_mem c hd)

theorem mem_lang_between_sat {lo hi : Nat} (hle : lo ≤ hi) :
    w ∈ ((sat p).between lo hi).lang ↔
      lo ≤ w.length ∧ w.length ≤ hi ∧ ∀ c ∈ w, p c = true := by
  rw [between, mem_lang_cat]
  constructor
  · rintro ⟨u, hu, v, hv, rfl⟩
    obtain ⟨hulength, huall⟩ := mem_lang_times_sat.mp hu
    obtain ⟨hvlength, hvall⟩ := mem_lang_upTo_sat.mp hv
    refine ⟨by simp [hulength], by simp only [List.length_append]; omega, fun c hc => ?_⟩
    exact (List.mem_append.mp hc).elim (huall c) (hvall c)
  · rintro ⟨hlo, hhi, hall⟩
    refine ⟨w.take lo, mem_lang_times_sat.mpr ⟨by simp [hlo], ?_⟩, w.drop lo,
      mem_lang_upTo_sat.mpr ⟨by simp only [List.length_drop]; omega, ?_⟩, List.take_append_drop lo w⟩
    · exact fun c hc => hall c (List.mem_of_mem_take hc)
    · exact fun c hc => hall c (List.mem_of_mem_drop hc)

/-! ## Matching by derivatives -/

/-- Whether the empty word is in the language. -/
def nullable : Re α → Bool
  | empty => false
  | epsilon => true
  | sat _ => false
  | cat first second => first.nullable && second.nullable
  | alt first second => first.nullable || second.nullable
  | star _ => true

/-- Concatenation that drops a side without words. -/
def smartCat : Re α → Re α → Re α
  | empty, _ => empty
  | epsilon, s => s
  | r, s => cat r s

/-- Alternation that drops a side without words. -/
def smartAlt : Re α → Re α → Re α
  | empty, s => s
  | r, empty => r
  | r, s => alt r s

/-- The expression for what may follow the character `c`. -/
def derive (c : α) : Re α → Re α
  | empty => empty
  | epsilon => empty
  | sat p => if p c then epsilon else empty
  | cat first second =>
      if first.nullable then
        smartAlt (smartCat (first.derive c) second) (second.derive c)
      else
        smartCat (first.derive c) second
  | alt first second => smartAlt (first.derive c) (second.derive c)
  | star body => smartCat (body.derive c) (star body)

/-- Whether the whole word matches. -/
def accepts (r : Re α) : List α → Bool
  | [] => r.nullable
  | c :: w => (r.derive c).accepts w

@[simp]
theorem lang_smartCat (r s : Re α) : (smartCat r s).lang = r.lang * s.lang := by
  unfold smartCat
  split
  · simp [lang]
  · simp [lang]
  · rfl

@[simp]
theorem lang_smartAlt (r s : Re α) : (smartAlt r s).lang = r.lang + s.lang := by
  unfold smartAlt
  split
  · simp [lang]
  · simp [lang]
  · rfl

theorem nullable_iff (r : Re α) : r.nullable = true ↔ [] ∈ r.lang := by
  induction r with
  | empty => simp [nullable]
  | epsilon => simp [nullable]
  | sat p => simp [nullable]
  | cat r s ihr ihs => simp [nullable, mem_lang_cat, ihr, ihs]
  | alt r s ihr ihs => simp [nullable, ihr, ihs]
  | star r => simp [nullable, nil_mem_lang_star]

variable {l : Language α}

/-- A word that starts with `c` is in a product exactly when `c` starts the
first factor, or the first factor may be empty and `c` starts the second. -/
theorem cons_mem_mul {m : Language α} {c : α} :
    c :: w ∈ l * m ↔
      (∃ u v, c :: u ∈ l ∧ v ∈ m ∧ u ++ v = w) ∨ ([] ∈ l ∧ c :: w ∈ m) := by
  refine ⟨?_, ?_⟩
  · intro hw
    obtain ⟨u, hu, v, hv, equal⟩ := Language.mem_mul.mp hw
    cases u with
    | nil =>
        rw [List.nil_append] at equal
        exact Or.inr ⟨hu, equal ▸ hv⟩
    | cons d u =>
        obtain ⟨rfl, rfl⟩ := List.cons.inj equal
        exact Or.inl ⟨u, v, hu, hv, rfl⟩
  · rintro (⟨u, v, hu, hv, rfl⟩ | ⟨hnil, hw⟩)
    · exact Language.mem_mul.mpr ⟨c :: u, hu, v, hv, rfl⟩
    · exact Language.mem_mul.mpr ⟨[], hnil, c :: w, hw, rfl⟩

/-- A nonempty word of a starred language starts with a nonempty factor. -/
theorem cons_mem_kstar {c : α} :
    c :: w ∈ KStar.kstar l ↔ ∃ u v, c :: u ∈ l ∧ v ∈ KStar.kstar l ∧ u ++ v = w := by
  refine ⟨?_, ?_⟩
  · intro hw
    obtain ⟨parts, equal, hparts⟩ := Language.mem_kstar_iff_exists_nonempty.mp hw
    cases parts with
    | nil => simp at equal
    | cons u parts =>
        obtain ⟨hu, nonempty⟩ := hparts u (by simp)
        obtain ⟨d, u, rfl⟩ := List.exists_cons_of_ne_nil nonempty
        simp only [List.flatten_cons, List.cons_append, List.cons.injEq] at equal
        obtain ⟨rfl, rfl⟩ := equal
        refine ⟨u, parts.flatten, hu, ?_, rfl⟩
        exact Language.mem_kstar.mpr
          ⟨parts, rfl, fun y hy => (hparts y (by simp [hy])).1⟩
  · rintro ⟨u, v, hu, hv, rfl⟩
    obtain ⟨parts, rfl, hparts⟩ := Language.mem_kstar.mp hv
    refine Language.mem_kstar.mpr ⟨(c :: u) :: parts, by simp, ?_⟩
    simpa [hu] using hparts

theorem mem_lang_derive (r : Re α) (c : α) (w : List α) :
    w ∈ (r.derive c).lang ↔ c :: w ∈ r.lang := by
  induction r generalizing w with
  | empty => simp [derive]
  | epsilon => simp [derive]
  | sat p =>
      by_cases hc : p c = true
      · simp [derive, hc]
      · simp [derive, hc]
  | cat r s ihr ihs =>
      have hfactor : w ∈ (r.derive c).lang * s.lang ↔
          ∃ u v, c :: u ∈ r.lang ∧ v ∈ s.lang ∧ u ++ v = w := by
        simp only [Language.mem_mul, ihr]
        exact ⟨fun ⟨u, hu, v, hv, h⟩ => ⟨u, v, hu, hv, h⟩,
          fun ⟨u, v, hu, hv, h⟩ => ⟨u, hu, v, hv, h⟩⟩
      have hcons : c :: w ∈ (cat r s).lang ↔ _ := cons_mem_mul
      by_cases hnull : r.nullable = true
      · have hnil := (nullable_iff r).mp hnull
        rw [hcons]
        simp [derive, hnull, Language.mem_add, hfactor, ihs, hnil]
      · have hnil : [] ∉ r.lang := fun h => hnull ((nullable_iff r).mpr h)
        rw [hcons]
        simp [derive, hnull, hfactor, hnil]
  | alt r s ihr ihs => simp [derive, Language.mem_add, ihr, ihs]
  | star r ih =>
      have hcons : c :: w ∈ (star r).lang ↔ _ := cons_mem_kstar
      rw [hcons, derive, lang_smartCat, Language.mem_mul]
      simp only [ih]
      exact ⟨fun ⟨u, hu, v, hv, h⟩ => ⟨u, v, hu, hv, h⟩,
        fun ⟨u, v, hu, hv, h⟩ => ⟨u, hu, v, hv, h⟩⟩

/-- The matcher decides the language. -/
theorem accepts_iff (r : Re α) (w : List α) : r.accepts w = true ↔ w ∈ r.lang := by
  induction w generalizing r with
  | nil => exact nullable_iff r
  | cons c w ih =>
      rw [accepts, ih]
      exact mem_lang_derive r c w

instance (r : Re α) (w : List α) : Decidable (w ∈ r.lang) :=
  decidable_of_iff _ (accepts_iff r w)

/-! ## Words up to a key -/

/-- No class of the expression tells two characters of one key apart. -/
def Respects {β : Type*} (key : α → β) : Re α → Prop
  | empty => True
  | epsilon => True
  | sat p => ∀ c d, key c = key d → p c = p d
  | cat first second => first.Respects key ∧ second.Respects key
  | alt first second => first.Respects key ∧ second.Respects key
  | star body => body.Respects key

section Keys

variable {β : Type*} {key : α → β} {r s : Re α}

theorem Respects.times (h : r.Respects key) (n : Nat) : (r.times n).Respects key := by
  induction n with
  | zero => trivial
  | succ n ih => exact ⟨h, ih⟩

theorem Respects.upTo (h : r.Respects key) (n : Nat) : (r.upTo n).Respects key := by
  induction n with
  | zero => trivial
  | succ n ih => exact ⟨trivial, h, ih⟩

theorem Respects.between (h : r.Respects key) (lo hi : Nat) : (r.between lo hi).Respects key :=
  ⟨h.times lo, h.upTo (hi - lo)⟩

theorem Respects.smartCat (hr : r.Respects key) (hs : s.Respects key) :
    (smartCat r s).Respects key := by
  unfold Re.smartCat
  split
  · trivial
  · exact hs
  · exact ⟨hr, hs⟩

theorem Respects.smartAlt (hr : r.Respects key) (hs : s.Respects key) :
    (smartAlt r s).Respects key := by
  unfold Re.smartAlt
  split
  · exact hs
  · exact hr
  · exact ⟨hr, hs⟩

theorem Respects.derive (h : r.Respects key) (c : α) : (r.derive c).Respects key := by
  induction r with
  | empty => trivial
  | epsilon => trivial
  | sat p =>
      by_cases hc : p c = true
      · rw [Re.derive, if_pos hc]
        trivial
      · rw [Re.derive, if_neg hc]
        trivial
  | cat first second ihFirst ihSecond =>
      have hfront := (ihFirst h.1).smartCat h.2
      unfold Re.derive
      split
      · exact hfront.smartAlt (ihSecond h.2)
      · exact hfront
  | alt first second ihFirst ihSecond => exact (ihFirst h.1).smartAlt (ihSecond h.2)
  | star body ih => exact (ih h).smartCat h

theorem Respects.derive_eq (h : r.Respects key) {c d : α} (hkey : key c = key d) :
    r.derive c = r.derive d := by
  induction r with
  | empty => rfl
  | epsilon => rfl
  | sat p => rw [Re.derive, Re.derive, h c d hkey]
  | cat first second ihFirst ihSecond =>
      rw [Re.derive, Re.derive, ihFirst h.1, ihSecond h.2]
  | alt first second ihFirst ihSecond =>
      rw [Re.derive, Re.derive, ihFirst h.1, ihSecond h.2]
  | star body ih => rw [Re.derive, Re.derive, ih h]

/-- Words with the same keys are matched alike. -/
theorem Respects.accepts_eq (h : r.Respects key) {v w : List α} (hkeys : v.map key = w.map key) :
    r.accepts v = r.accepts w := by
  induction v generalizing r w with
  | nil =>
      obtain rfl : w = [] := List.map_eq_nil_iff.mp hkeys.symm
      rfl
  | cons c v ih =>
      cases w with
      | nil => cases hkeys
      | cons d w =>
          obtain ⟨hkey, hrest⟩ := List.cons.inj hkeys
          rw [accepts, accepts, h.derive_eq hkey]
          exact ih (h.derive d) hrest

end Keys

end Re

end OpenPath.Foundation
