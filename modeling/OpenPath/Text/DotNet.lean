/-
# .NET string operations

What the PowerShell code of the Windows agent uses of `System.String` and of the
file system. The white space of .NET is that of JavaScript without the byte order
mark and with the next-line character. A file is read by lines that end in either
of the two line breaks or in both.
-/

import OpenPath.Foundation.Lines
import OpenPath.Text.JavaScript

namespace OpenPath.DotNet

open Foundation

/-- `Char.IsWhiteSpace`, which is also the class `\s` of a pattern. -/
def isWhiteSpace (c : Char) : Bool :=
  (0x9 ≤ c.toNat && c.toNat ≤ 0xd) || c.toNat == 0x20 || c.toNat == 0x85 || c.toNat == 0xa0 ||
    c.toNat == 0x1680 || (0x2000 ≤ c.toNat && c.toNat ≤ 0x200a) ||
    c.toNat == 0x2028 || c.toNat == 0x2029 || c.toNat == 0x202f ||
    c.toNat == 0x205f || c.toNat == 0x3000

/-- `value.Trim()` -/
def trim (value : Text) : Text := Foundation.trim isWhiteSpace value

/-- `value.TrimEnd()` -/
def trimEnd (value : Text) : Text := value.rdropWhile isWhiteSpace

/-- `value.Trim('.')` -/
def trimDots (value : Text) : Text := Foundation.trim (· == '.') value

/-- `value.ToUpperInvariant()`, as far as a comparison with an ASCII text goes:
no other character is mapped to an ASCII letter. -/
def toUpperInvariant (value : Text) : Text := value.map Char.toUpper

/-- `value.ToLowerInvariant()`: characters are mapped one by one, and a capital I with
a dot above stays. -/
def toLowerInvariant (value : Text) : Text :=
  value.map fun c =>
    if c = Unicode.capitalSigma then Unicode.smallSigma
    else if c = Unicode.capitalDottedI then c
    else Unicode.simpleLower c

/-- The comparison of `OrdinalIgnoreCase`, as far as ASCII texts go. -/
def equalsIgnoreCase (first second : Text) : Bool :=
  first.map Char.toUpper == second.map Char.toUpper

/-- `value -like 'front*'`, for a text without other wildcards. -/
def startsWithIgnoreCase (value front : Text) : Bool :=
  (front.map Char.toUpper).isPrefixOf (value.map Char.toUpper)

/-- `value.EndsWith(suffix)` with the comparison of `OrdinalIgnoreCase`. -/
def endsWithIgnoreCase (value suffix : Text) : Bool :=
  (suffix.map Char.toUpper).isSuffixOf (value.map Char.toUpper)

/-! ## Texts in lower case -/

/-- No capital letter of ASCII is in the text. -/
def NoCapital (value : Text) : Prop := ∀ c ∈ value, Ascii.isUpper c = false

theorem not_isLower_of_isUpper : ∀ n < 128,
    Ascii.isUpper (Char.ofNat n) = true → Unicode.isLower (Char.ofNat n) = false := by
  decide

variable {value : Text} {c : Char}

/-- A character of a lower-cased text is in lower case or the capital I with a dot. -/
theorem isLower_of_mem_toLowerInvariant (hc : c ∈ toLowerInvariant value) :
    Unicode.isLower c = true ∨ c = Unicode.capitalDottedI := by
  obtain ⟨d, -, rfl⟩ := List.mem_map.mp hc
  split
  · exact Or.inl (by decide)
  · rename_i hsigma
    split
    · exact Or.inr ‹_›
    · exact Or.inl (Unicode.isLower_simpleLower hsigma ‹_›)

theorem capitalDottedI_not_mem_toLowerInvariant (hvalue : Unicode.capitalDottedI ∉ value) :
    Unicode.capitalDottedI ∉ toLowerInvariant value := by
  intro hmem
  obtain ⟨c, hc, hequal⟩ := List.mem_map.mp hmem
  split at hequal
  · exact absurd hequal (by decide)
  · rename_i hsigma
    have hdotted : c ≠ Unicode.capitalDottedI := fun heq => hvalue (heq ▸ hc)
    rw [if_neg hdotted] at hequal
    have hlower := Unicode.isLower_simpleLower hsigma hdotted
    rw [hequal] at hlower
    exact absurd hlower (by decide)

theorem noCapital_toLowerInvariant (value : Text) : NoCapital (toLowerInvariant value) := by
  intro c hc
  by_contra hnot
  rw [Bool.not_eq_false] at hnot
  rcases isLower_of_mem_toLowerInvariant hc with hlower | rfl
  · have hrange : c.toNat < 128 := by
      simp only [Ascii.isUpper, Bool.and_eq_true, decide_eq_true_eq,
        Unicode.le_iff_toNat_le] at hnot
      have hz : ('Z').toNat = 90 := rfl
      omega
    have hupper := not_isLower_of_isUpper c.toNat hrange
    rw [Char.ofNat_toNat] at hupper
    rw [hupper hnot] at hlower
    cases hlower
  · exact absurd hnot (by decide)

theorem toLowerInvariant_eq_self
    (hvalue : ∀ c ∈ value, Unicode.isLower c = true ∨ c = Unicode.capitalDottedI) :
    toLowerInvariant value = value := by
  refine (List.map_congr_left fun c hc => ?_).trans (List.map_id value)
  rcases hvalue c hc with hlower | rfl
  · have hsigma : c ≠ Unicode.capitalSigma := by
      rintro rfl
      exact absurd hlower (by decide)
    have hdotted : c ≠ Unicode.capitalDottedI := by
      rintro rfl
      exact absurd hlower (by decide)
    rw [if_neg hsigma, if_neg hdotted, Unicode.simpleLower_of_isLower hlower]
    rfl
  · rfl

/-- Away from the two exceptions the lower cases of the languages agree. -/
theorem toLowerCase_eq_toLowerInvariant
    (hvalue : ∀ c ∈ value, c ≠ Unicode.capitalSigma ∧ c ≠ Unicode.capitalDottedI) :
    Unicode.toLowerCase value = toLowerInvariant value := by
  have hfrom : ∀ before : Text, Unicode.lowerFrom before value = toLowerInvariant value := by
    induction value with
    | nil => exact fun _ => rfl
    | cons c rest ih =>
        obtain ⟨⟨hsigma, hdotted⟩, hrest⟩ := List.forall_mem_cons.mp hvalue
        intro before
        have hchar : Unicode.lowerChar before c rest = [Unicode.simpleLower c] := by
          rw [Unicode.lowerChar, if_neg hdotted, if_neg hsigma, ite_self]
        rw [Unicode.lowerFrom, hchar, ih hrest, toLowerInvariant, toLowerInvariant,
          List.map_cons, if_neg hsigma, if_neg hdotted, List.singleton_append]
  exact hfrom []

variable {first second : Text}

theorem eq_of_map_toUpper_eq (hfirst : NoCapital first) (hsecond : NoCapital second)
    (hequal : first.map Char.toUpper = second.map Char.toUpper) :
    first = second := by
  induction first generalizing second with
  | nil => exact (List.map_eq_nil_iff.mp hequal.symm).symm
  | cons c first ih =>
      cases second with
      | nil => cases hequal
      | cons d second =>
          obtain ⟨hc, hfirst⟩ := List.forall_mem_cons.mp hfirst
          obtain ⟨hd, hsecond⟩ := List.forall_mem_cons.mp hsecond
          obtain ⟨hhead, htail⟩ := List.cons.inj hequal
          rw [Ascii.eq_of_toUpper_eq hhead hc hd, ih hfirst hsecond htail]

theorem equalsIgnoreCase_iff (hfirst : NoCapital first) (hsecond : NoCapital second) :
    equalsIgnoreCase first second = true ↔ first = second := by
  rw [equalsIgnoreCase, beq_iff_eq]
  exact ⟨eq_of_map_toUpper_eq hfirst hsecond, congrArg (List.map Char.toUpper)⟩

theorem equalsIgnoreCase_self (value : Text) : equalsIgnoreCase value value = true :=
  beq_self_eq_true _

theorem equalsIgnoreCase_comm (first second : Text) :
    equalsIgnoreCase first second = equalsIgnoreCase second first := by
  rw [equalsIgnoreCase, equalsIgnoreCase, Bool.beq_comm]

theorem equalsIgnoreCase_congr (h : equalsIgnoreCase first second = true) (third : Text) :
    equalsIgnoreCase first third = equalsIgnoreCase second third := by
  rw [equalsIgnoreCase, equalsIgnoreCase, beq_iff_eq.mp h]

theorem endsWithIgnoreCase_iff {suffix : Text} (hvalue : NoCapital value)
    (hsuffix : NoCapital suffix) : endsWithIgnoreCase value suffix = true ↔ suffix <:+ value := by
  rw [endsWithIgnoreCase, List.isSuffixOf_iff_suffix]
  constructor
  · rintro ⟨front, hfront⟩
    obtain ⟨head, tail, rfl, -, htail⟩ := List.map_eq_append_iff.mp hfront.symm
    have hsame := eq_of_map_toUpper_eq
      (fun c hc => hvalue c (List.mem_append_right head hc)) hsuffix htail
    exact ⟨head, by rw [hsame]⟩
  · exact fun h => h.map Char.toUpper

theorem isWhiteSpace_eq_false (hspace : JavaScript.isSpace c = false) (hnext : c.toNat ≠ 0x85) :
    isWhiteSpace c = false := by
  simp only [JavaScript.isSpace, isWhiteSpace, Bool.or_eq_false_iff, Bool.and_eq_false_iff,
    decide_eq_false_iff_not, beq_eq_false_iff_ne] at hspace ⊢
  omega

@[simp]
theorem trim_trim (value : Text) : trim (trim value) = trim value :=
  Foundation.trim_trim isWhiteSpace value

theorem mem_of_mem_trim (hc : c ∈ trim value) : c ∈ value :=
  Foundation.mem_of_mem_trim hc

theorem trim_eq_self_iff :
    trim value = value ↔ Trimmed isWhiteSpace value :=
  Foundation.trim_eq_self_iff

/-- The two ends of a text are white space in one case if and only if they are in
the other. -/
theorem isWhiteSpace_toUpper (c : Char) : isWhiteSpace c.toUpper = isWhiteSpace c := by
  by_cases hlower : 'a'.val ≤ c.val ∧ c.val ≤ 'z'.val
  · have hrange : 97 ≤ c.toNat ∧ c.toNat ≤ 122 := hlower
    simp only [isWhiteSpace, Ascii.toNat_toUpper hlower]
    grind
  · rw [Ascii.toUpper_of_not_lower hlower]

theorem trim_eq_self_of_equalsIgnoreCase (hequal : equalsIgnoreCase first second = true)
    (htrim : trim first = first) :
    trim second = second := by
  have hupper : first.map Char.toUpper = second.map Char.toUpper := by
    simpa [equalsIgnoreCase] using hequal
  have hends : ∀ {value : Text}, Trimmed isWhiteSpace (value.map Char.toUpper) ↔
      Trimmed isWhiteSpace value := by
    intro value
    simp [Trimmed, isWhiteSpace_toUpper]
  rw [trim_eq_self_iff, ← hends] at htrim ⊢
  rwa [← hupper]

/-! ## Files -/

/-- `[Environment]::NewLine` -/
def newLine : Text := ['\r', '\n']

/-- What `Set-Content` writes for a text. -/
def setContent (value : Text) : Text := value ++ newLine

/-- The lines that `Get-Content` reads. -/
@[grind =]
def getContent : Text → List Text
  | [] => []
  | '\r' :: '\n' :: rest => [] :: getContent rest
  | c :: rest =>
      if c = '\r' ∨ c = '\n' then [] :: getContent rest
      else
        match getContent rest with
        | [] => [[c]]
        | line :: following => (c :: line) :: following

/-- `$value -split "\r?\n"` -/
@[grind =]
def splitLines : Text → List Text
  | [] => [[]]
  | '\r' :: '\n' :: rest => [] :: splitLines rest
  | c :: rest =>
      if c = '\n' then [] :: splitLines rest
      else
        match splitLines rest with
        | [] => [[c]]
        | line :: following => (c :: line) :: following

variable {line : Text}

theorem getContent_append (hreturn : '\r' ∉ line) (hfeed : '\n' ∉ line) (rest : Text) :
    getContent (line ++ newLine ++ rest) = line :: getContent rest := by
  induction line with
  | nil => rfl
  | cons c line ih =>
      simp only [List.mem_cons, not_or] at hreturn hfeed
      have hc : ¬ (c = '\r' ∨ c = '\n') := by
        rintro (rfl | rfl)
        · exact hreturn.1 rfl
        · exact hfeed.1 rfl
      have hrest := ih hreturn.2 hfeed.2
      rw [List.cons_append, List.cons_append, getContent, if_neg hc, hrest]
      rintro tail rfl
      exact absurd rfl hreturn.1

variable {lines : List Text}

theorem getContent_newLines (hlines : ∀ line ∈ lines, '\r' ∉ line ∧ '\n' ∉ line) :
    getContent (lines.flatMap (· ++ newLine)) = lines := by
  induction lines with
  | nil => rfl
  | cons line lines ih =>
      obtain ⟨hreturn, hfeed⟩ := hlines line List.mem_cons_self
      have hrest := ih fun other hother => hlines other (List.mem_cons_of_mem line hother)
      rw [List.flatMap_cons, getContent_append hreturn hfeed, hrest]

theorem no_break_of_mem_getContent {file : Text} (hline : line ∈ getContent file) :
    '\r' ∉ line ∧ '\n' ∉ line := by
  induction file using getContent.induct generalizing line with
  | case1 => cases hline
  | case2 rest ih =>
      rcases List.mem_cons.mp hline with rfl | hline
      · simp
      · exact ih hline
  | case3 c rest hnot hc ih =>
      rw [getContent, if_pos hc] at hline
      · rcases List.mem_cons.mp hline with rfl | hline
        · simp
        · exact ih hline
      · exact hnot
  | case4 c rest hnot hc hnil ih =>
      rw [getContent, if_neg hc, hnil] at hline
      · rw [List.mem_singleton.mp hline]
        grind
      · exact hnot
  | case5 c rest hnot hc first following hrest ih =>
      rw [getContent, if_neg hc, hrest] at hline
      · rcases List.mem_cons.mp hline with rfl | hline
        · have hfirst := @ih first (by simp [hrest])
          grind
        · exact ih (by simp [hrest, hline])
      · exact hnot

theorem splitLines_of_not_mem (hfeed : '\n' ∉ line) : splitLines line = [line] := by
  induction line with
  | nil => rfl
  | cons c line ih =>
      simp only [List.mem_cons, not_or] at hfeed
      have hc : c ≠ '\n' := fun h => hfeed.1 h.symm
      rw [splitLines, if_neg hc, ih hfeed.2]
      rintro tail rfl rfl
      exact hfeed.2 List.mem_cons_self

theorem splitLines_append (hfeed : '\n' ∉ line) (rest : Text) :
    splitLines (line ++ newLine ++ rest) = line :: splitLines rest := by
  induction line with
  | nil => rfl
  | cons c line ih =>
      simp only [List.mem_cons, not_or] at hfeed
      have hc : c ≠ '\n' := fun h => hfeed.1 h.symm
      rw [List.cons_append, List.cons_append, splitLines, if_neg hc, ih hfeed.2]
      -- A carriage return of the line itself is not followed by a line feed.
      intro tail hreturn htail
      cases line with
      | nil => exact absurd (List.cons.inj htail).1 (by decide)
      | cons d line =>
          obtain ⟨rfl, -⟩ := List.cons.inj htail
          exact hfeed.2 List.mem_cons_self

theorem splitLines_intercalate (nonempty : lines ≠ []) (hlines : ∀ line ∈ lines, '\n' ∉ line) :
    splitLines (newLine.intercalate lines) = lines := by
  induction lines with
  | nil => exact absurd rfl nonempty
  | cons line lines ih =>
      have hfeed := hlines line List.mem_cons_self
      by_cases hrest : lines = []
      · rw [hrest, List.intercalate_singleton]
        exact splitLines_of_not_mem hfeed
      · rw [List.intercalate_cons_of_ne_nil hrest, splitLines_append hfeed,
          ih hrest fun other hother => hlines other (List.mem_cons_of_mem line hother)]

theorem no_feed_of_mem_splitLines {file : Text} (hline : line ∈ splitLines file) : '\n' ∉ line := by
  induction file using splitLines.induct generalizing line with
  | case1 => simp_all [splitLines]
  | case2 rest ih =>
      rcases List.mem_cons.mp hline with rfl | hline
      · exact List.not_mem_nil
      · exact ih hline
  | case3 rest hnot ih =>
      rw [splitLines, if_pos rfl] at hline
      · rcases List.mem_cons.mp hline with rfl | hline
        · exact List.not_mem_nil
        · exact ih hline
      · exact hnot
  | case4 c rest hnot hc hnil ih =>
      rw [splitLines, if_neg hc, hnil] at hline
      · rw [List.mem_singleton.mp hline]
        simpa using Ne.symm hc
      · exact hnot
  | case5 c rest hnot hc first following hrest ih =>
      rw [splitLines, if_neg hc, hrest] at hline
      · rcases List.mem_cons.mp hline with rfl | hline
        · have hfirst := @ih first (by simp [hrest])
          simpa [Ne.symm hc] using hfirst
        · exact ih (by simp [hrest, hline])
      · exact hnot

end OpenPath.DotNet
