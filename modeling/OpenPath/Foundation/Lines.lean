/-
# Lines

A text file is a list over an alphabet with a line terminator. `lines` reads the
lines of a file, `unlines` writes lines that each end in the terminator, and
`headLines` keeps the first lines of a file. The laws say that writing and
reading agree for lines that contain no terminator.
-/

import OpenPath.Foundation.Trim
import Mathlib.Data.List.Count

namespace OpenPath.Foundation

variable {α : Type*} {terminator : α}

def unlines (terminator : α) (list : List (List α)) : List α :=
  list.flatMap fun line => line ++ [terminator]

@[simp]
theorem unlines_nil : unlines terminator ([] : List (List α)) = [] := rfl

@[simp]
theorem unlines_cons (line : List α) (rest : List (List α)) :
    unlines terminator (line :: rest) = line ++ terminator :: unlines terminator rest := by
  simp [unlines]

@[simp]
theorem unlines_append (first second : List (List α)) :
    unlines terminator (first ++ second) =
      unlines terminator first ++ unlines terminator second := by
  simp [unlines]

variable {blocks : List (List α)}

/-- Blocks of lines, each followed by a separator, are the blocks with the
separator between them and once at the end. -/
theorem flatMap_append_eq_intercalate (nonempty : blocks ≠ []) (separator : List α) :
    blocks.flatMap (· ++ separator) = separator.intercalate blocks ++ separator := by
  induction blocks with
  | nil => exact absurd rfl nonempty
  | cons block rest ih =>
      by_cases hrest : rest = []
      · subst hrest
        simp
      · rw [List.flatMap_cons, ih hrest, List.intercalate_cons_of_ne_nil hrest]
        simp

theorem mem_intercalate {x : α} {separator : List α} (hx : x ∈ separator.intercalate blocks) :
    x ∈ separator ∨ ∃ block ∈ blocks, x ∈ block := by
  by_cases nonempty : blocks = []
  · simp [nonempty] at hx
  · have hmem : x ∈ blocks.flatMap (· ++ separator) := by
      rw [flatMap_append_eq_intercalate nonempty]
      exact List.mem_append_left _ hx
    obtain ⟨block, hblock, hmem⟩ := List.mem_flatMap.mp hmem
    rcases List.mem_append.mp hmem with hin | hin
    · exact Or.inr ⟨block, hblock, hin⟩
    · exact Or.inl hin

theorem mem_intercalate_of_mem {x : α} {block : List α} (separator : List α)
    (hblock : block ∈ blocks) (hx : x ∈ block) :
    x ∈ separator.intercalate blocks := by
  induction blocks with
  | nil => cases hblock
  | cons first rest ih =>
      by_cases hrest : rest = []
      · subst hrest
        rw [List.mem_singleton.mp hblock] at hx
        simpa using hx
      · rw [List.intercalate_cons_of_ne_nil hrest]
        rcases List.mem_cons.mp hblock with rfl | hblock
        · simp [hx]
        · simp [ih hblock]

/-- Blocks with a separator between them: each but the last is followed by it. -/
theorem intercalate_concat_eq (blocks : List (List α)) (last separator : List α) :
    separator.intercalate (blocks ++ [last]) = blocks.flatMap (· ++ separator) ++ last := by
  induction blocks with
  | nil => simp
  | cons block rest ih =>
      rw [List.cons_append, List.intercalate_cons_of_ne_nil (by simp), ih]
      simp

/-- What separates the blocks precedes the last one. -/
theorem intercalate_concat (blocks : List (List α)) (last separator : List α) :
    ∃ before, separator.intercalate (blocks ++ [last]) = before ++ last :=
  ⟨_, intercalate_concat_eq blocks last separator⟩

variable {list : List (List α)}

/-- The trailing blank lines of a file whose first and last lines have untrimmed
ends. -/
theorem trim_unlines {p : α → Bool} {first last : List α} (hterminator : p terminator = true)
    (hfirst : list.head? = some first) (hlast : list.getLast? = some last)
    (hfirstTrimmed : Trimmed p first) (hlastTrimmed : Trimmed p last)
    (hfirstNonempty : first ≠ []) (hlastNonempty : last ≠ []) :
    trim p (unlines terminator list ++ [terminator]) ++ [terminator] =
      unlines terminator list := by
  have hlist : list = list.dropLast ++ [last] :=
    (List.dropLast_append_getLast? last hlast).symm
  have htext : unlines terminator list =
      (unlines terminator list.dropLast ++ last) ++ [terminator] := by
    rw [hlist]
    simp
  have htrimmed : Trimmed p (unlines terminator list.dropLast ++ last) := by
    refine ⟨?_, ?_⟩
    · cases hinit : list.dropLast with
      | nil =>
          have hsame : first = last := by
            rw [hlist, hinit] at hfirst
            exact (Option.some.inj hfirst).symm
          simpa [← hsame] using hfirstTrimmed.1
      | cons line rest =>
          have hsame : line = first := by
            rw [hlist, hinit] at hfirst
            exact Option.some.inj hfirst
          rw [hsame, unlines_cons, List.append_assoc,
            List.head?_append_of_ne_nil _ hfirstNonempty]
          exact hfirstTrimmed.1
    · rw [List.getLast?_append_of_ne_nil _ hlastNonempty]
      exact hlastTrimmed.2
  rw [htext, List.append_assoc _ [terminator] [terminator],
    trim_append htrimmed (by simp [hlastNonempty]) (by simp [hterminator])]

variable [DecidableEq α]

/-- The lines of a file. A terminator at the end of the file starts no further
line. -/
def lines (terminator : α) : List α → List (List α)
  | [] => []
  | c :: rest =>
      if c = terminator then [] :: lines terminator rest
      else
        match lines terminator rest with
        | [] => [[c]]
        | line :: following => (c :: line) :: following

/-- The first lines of a file, with their terminators. -/
def headLines (terminator : α) : Nat → List α → List α
  | 0, _ => []
  | count + 1, file =>
      file.takeWhile (· ≠ terminator) ++
        match file.dropWhile (· ≠ terminator) with
        | [] => []
        | _ :: rest => terminator :: headLines terminator count rest

variable {line : List α}

theorem lines_append (hline : terminator ∉ line) (rest : List α) :
    lines terminator (line ++ terminator :: rest) = line :: lines terminator rest := by
  induction line with
  | nil => simp [lines]
  | cons c line ih =>
      have hc : c ≠ terminator := fun h => hline (h ▸ List.mem_cons_self)
      have htail := ih fun h => hline (List.mem_cons_of_mem c h)
      simp [lines, hc, htail]

theorem lines_unlines (hlist : ∀ line ∈ list, terminator ∉ line) :
    lines terminator (unlines terminator list) = list := by
  induction list with
  | nil => rfl
  | cons line rest ih =>
      rw [unlines_cons, lines_append (hlist line List.mem_cons_self),
        ih fun other hother => hlist other (List.mem_cons_of_mem line hother)]

theorem lines_cons_of_ne {c : α} (hc : c ≠ terminator) (rest : List α) :
    lines terminator (c :: rest) =
      (c :: (lines terminator rest).headD []) :: (lines terminator rest).tail := by
  rw [lines, if_neg hc]
  cases lines terminator rest <;> rfl

/-- The beginning of a file has lines of the file, of which the last may be cut. -/
theorem exists_line_of_prefix {part file : List α} (hpart : part <+: file)
    (hline : line ∈ lines terminator part) : ∃ whole ∈ lines terminator file, line <+: whole := by
  have hcut : (lines terminator part).headD [] <+: (lines terminator file).headD [] ∧
      (∀ line ∈ (lines terminator part).tail, ∃ whole ∈ (lines terminator file).tail,
        line <+: whole) ∧
      ∀ line ∈ lines terminator part, ∃ whole ∈ lines terminator file, line <+: whole := by
    clear hline
    induction part generalizing file with
    | nil => simp [lines]
    | cons c part ih =>
        obtain ⟨rest, rfl⟩ := hpart
        obtain ⟨hfirst, hothers, hall⟩ := ih (List.prefix_append part rest)
        rw [List.cons_append]
        by_cases hc : c = terminator
        · rw [lines, if_pos hc, lines, if_pos hc]
          refine ⟨List.prefix_refl _, hall, ?_⟩
          intro line hline
          rcases List.mem_cons.mp hline with rfl | hline
          · exact ⟨[], List.mem_cons_self, List.prefix_refl _⟩
          · obtain ⟨whole, hwhole, hcut⟩ := hall line hline
            exact ⟨whole, List.mem_cons_of_mem _ hwhole, hcut⟩
        · rw [lines_cons_of_ne hc, lines_cons_of_ne hc]
          have hhead : c :: (lines terminator part).headD [] <+:
              c :: (lines terminator (part ++ rest)).headD [] :=
            List.cons_prefix_cons.mpr ⟨rfl, hfirst⟩
          refine ⟨hhead, hothers, ?_⟩
          intro line hline
          rcases List.mem_cons.mp hline with rfl | hline
          · exact ⟨_, List.mem_cons_self, hhead⟩
          · obtain ⟨whole, hwhole, hcut⟩ := hothers line hline
            exact ⟨whole, List.mem_cons_of_mem _ hwhole, hcut⟩
  exact hcut.2.2 line hline

/-- Splitting what was written leaves an empty piece after the last terminator. -/
theorem splitOn_unlines (hlist : ∀ line ∈ list, terminator ∉ line) :
    (unlines terminator list).splitOn terminator = list ++ [[]] := by
  have htext : unlines terminator list = [terminator].intercalate (list ++ [[]]) := by
    clear hlist
    induction list with
    | nil => rfl
    | cons line rest ih =>
        rw [unlines_cons, ih, List.cons_append, List.intercalate_cons_of_ne_nil (by simp)]
        simp
  rw [htext]
  apply List.splitOn_intercalate
  · intro line hline
    rcases List.mem_append.mp hline with hmem | hnil
    · exact hlist line hmem
    · rw [List.mem_singleton.mp hnil]
      exact List.not_mem_nil
  · simp

theorem not_mem_of_mem_splitOn {text piece : List α} (hpiece : piece ∈ text.splitOn terminator) :
    terminator ∉ piece := by
  induction text generalizing piece with
  | nil => simp_all
  | cons c rest ih =>
      obtain ⟨first, following, hrest⟩ :=
        List.exists_cons_of_ne_nil (List.splitOn_ne_nil terminator rest)
      have hpieces : ∀ piece ∈ first :: following, terminator ∉ piece := by
        rw [← hrest]
        exact fun _ => ih
      rw [List.splitOn_cons_eq_if_modifyHead] at hpiece
      by_cases hc : c = terminator
      · rw [if_pos (by simp [hc]), hrest] at hpiece
        rcases List.mem_cons.mp hpiece with rfl | hpiece
        · exact List.not_mem_nil
        · exact hpieces piece hpiece
      · rw [if_neg (by simpa using hc), hrest, List.modifyHead_cons] at hpiece
        rcases List.mem_cons.mp hpiece with rfl | hpiece
        · simpa [Ne.symm hc] using hpieces first List.mem_cons_self
        · exact hpieces piece (List.mem_cons_of_mem first hpiece)

/-- Every character but the separator is in a piece. -/
theorem exists_mem_splitOn {text : List α} {c : α} (hc : c ∈ text) (hne : c ≠ terminator) :
    ∃ piece ∈ text.splitOn terminator, c ∈ piece := by
  have hmem : c ∈ [terminator].intercalate (text.splitOn terminator) := by
    rwa [List.intercalate_splitOn]
  rcases mem_intercalate hmem with hseparator | hpiece
  · exact absurd (List.mem_singleton.mp hseparator) hne
  · exact hpiece

/-- The number of terminators is the number of lines written. -/
theorem count_unlines (hlist : ∀ line ∈ list, terminator ∉ line) :
    (unlines terminator list).count terminator = list.length := by
  induction list with
  | nil => rfl
  | cons line rest ih =>
      have hline := List.count_eq_zero_of_not_mem (hlist line List.mem_cons_self)
      have hrest := ih fun other hother => hlist other (List.mem_cons_of_mem line hother)
      simp [hline, hrest]

theorem takeWhile_dropWhile_line (hline : terminator ∉ line) (rest : List α) :
    (line ++ terminator :: rest).takeWhile (· ≠ terminator) = line ∧
      (line ++ terminator :: rest).dropWhile (· ≠ terminator) = terminator :: rest := by
  induction line with
  | nil => simp
  | cons c line ih =>
      have hc : c ≠ terminator := fun h => hline (h ▸ List.mem_cons_self)
      obtain ⟨htake, hdrop⟩ := ih fun h => hline (List.mem_cons_of_mem c h)
      simp only [List.cons_append, ne_eq, decide_not] at htake hdrop ⊢
      simp [hc, htake, hdrop]

/-- Keeping the first lines of what was written. -/
theorem headLines_unlines (hlist : ∀ line ∈ list, terminator ∉ line) (count : Nat) :
    headLines terminator count (unlines terminator list) =
      unlines terminator (list.take count) := by
  induction count generalizing list with
  | zero => rfl
  | succ count ih =>
      cases list with
      | nil => rfl
      | cons line rest =>
          obtain ⟨htake, hdrop⟩ :=
            takeWhile_dropWhile_line (hlist line List.mem_cons_self) (unlines terminator rest)
          have hrest := ih fun other hother => hlist other (List.mem_cons_of_mem line hother)
          rw [unlines_cons, headLines, htake, hdrop, List.take_succ_cons, unlines_cons]
          simp only [hrest]

end OpenPath.Foundation
