/-
# Hosts of runtime dependencies

The two agents read the hosts of runtime dependencies with patterns of one shape and
compare them with the domains of rules by suffix. What the rule validator admits as a
blocked subdomain, written without a wildcard, is such a host once it is in lower
case.
-/

import OpenPath.Shared.RulesValidation
import OpenPath.Text.Python

namespace OpenPath.RuntimeDependency

open RulesValidation
open Foundation (Re stripPrefix)

/-! ## Patterns -/

/-- `[a-z0-9](?:[a-z0-9-]{0,61}[a-z0-9])?`, for a class of letters and digits. -/
def hostLabel (isAlnum : Char → Bool) : Re Char :=
  .cat (.sat isAlnum)
    (.opt (.cat ((Re.sat fun c => isAlnum c || c == '-').between 0 61) (.sat isAlnum)))

/-- `^label(?:\.label)+$` -/
def hostPattern (isAlnum : Char → Bool) : Re Char :=
  .cat (hostLabel isAlnum) (Re.cat (.lit '.') (hostLabel isAlnum)).plus

/-- A match of a pattern that `^` and `$` enclose: in both languages `$` also stands
before a line break at the end. -/
def matchLine (pattern : Re Char) (value : Text) : Bool :=
  pattern.accepts value || (value.getLast? == some '\n' && pattern.accepts value.dropLast)

/-! ## Rules -/

/-- The host is the domain or lies under it. -/
def Covers (domain host : Text) : Prop := host = domain ∨ '.' :: domain <:+ host

instance (domain host : Text) : Decidable (Covers domain host) :=
  inferInstanceAs (Decidable (_ ∨ _))

/-- The rule validator admits the line as a blocked subdomain. -/
def Admitted (rule : Text) : Prop := valid (validateSubdomain rule) = true

instance (rule : Text) : Decidable (Admitted rule) := inferInstanceAs (Decidable (_ = _))

/-- The domain that a rule blocks, behind a wildcard or not. -/
def ruleDomain (rule : Text) : Text := Unicode.toLowerCase (stripPrefix "*.".toList rule)

/-- The name that a host stands for where it is used: a line break at its end is lost. -/
def hostName (host : Text) : Text :=
  if host.getLast? = some '\n' then host.dropLast else host

/-- Some rule of a list blocks the name. -/
def BlockedBy (rules : List Text) (name : Text) : Prop :=
  ∃ rule ∈ rules, Admitted rule ∧ Covers (ruleDomain rule) name

/-! ## The shape of hosts -/

section Shape

variable {isAlnum : Char → Bool}

/-- A label starts and ends with a letter or a digit, with hyphens between. -/
structure IsLabel (isAlnum : Char → Bool) (label : Text) : Prop where
  chars : ∀ c ∈ label, isAlnum c = true ∨ c = '-'
  head : ∃ c ∈ label.head?, isAlnum c = true
  last : ∃ c ∈ label.getLast?, isAlnum c = true
  short : label.length ≤ 63

variable {label : Text}

theorem mem_hostLabel :
    label ∈ (hostLabel isAlnum).lang ↔ IsLabel isAlnum label := by
  rw [hostLabel, Re.mem_lang_cat]
  simp only [Re.mem_lang_opt, Re.mem_lang_cat, Re.mem_lang_between_sat (Nat.zero_le 61)]
  constructor
  · rintro ⟨u, ⟨first, rfl, hfirst⟩, v, rfl | ⟨middle, ⟨-, hlength, hmiddle⟩, z, ⟨last, rfl, hlast⟩, rfl⟩, rfl⟩
    · exact ⟨by simp [hfirst], ⟨first, rfl, hfirst⟩, ⟨first, rfl, hfirst⟩, by simp⟩
    · have hgetLast : ([first] ++ (middle ++ [last])).getLast? = some last := by
        rw [← List.append_assoc, List.getLast?_concat]
      refine ⟨?_, ⟨first, rfl, hfirst⟩, ⟨last, hgetLast, hlast⟩, by simp; omega⟩
      intro c hc
      simp only [List.singleton_append, List.mem_cons, List.mem_append, List.not_mem_nil,
        or_false] at hc
      rcases hc with rfl | hc | rfl
      · exact Or.inl hfirst
      · simpa using hmiddle c hc
      · exact Or.inl hlast
  · rintro ⟨hchars, ⟨first, hhead, hfirst⟩, ⟨last, hgetLast, hlast⟩, hshort⟩
    cases label with
    | nil => cases hhead
    | cons c rest =>
        obtain rfl : c = first := by simpa using hhead
        refine ⟨[c], ⟨c, rfl, hfirst⟩, rest, ?_, rfl⟩
        rcases List.eq_nil_or_concat rest with rfl | ⟨middle, z, rfl⟩
        · exact Or.inl rfl
        · rw [List.concat_eq_append, ← List.cons_append, List.getLast?_concat] at hgetLast
          obtain rfl : z = last := Option.some.inj hgetLast
          rw [List.concat_eq_append] at hshort hchars ⊢
          refine Or.inr ⟨middle, ⟨Nat.zero_le _, ?_, ?_⟩, [z], ⟨z, rfl, hlast⟩, rfl⟩
          · simp only [List.length_cons, List.length_append, List.length_nil] at hshort
            omega
          · intro d hd
            simpa using hchars d (by simp [hd])

variable {host : Text}

/-- A host is two labels or more with dots between them. -/
theorem mem_hostPattern :
    host ∈ (hostPattern isAlnum).lang ↔
      ∃ first rest, rest ≠ [] ∧ (∀ label ∈ first :: rest, IsLabel isAlnum label) ∧
        host = first ++ rest.flatMap ('.' :: ·) := by
  have hdotted : ∀ part : Text, part ∈ (Re.cat (.lit '.') (hostLabel isAlnum)).lang ↔
      ∃ label, IsLabel isAlnum label ∧ part = '.' :: label := by
    intro part
    simp only [Re.mem_lang_cat, Re.mem_lang_lit, exists_eq_left, mem_hostLabel,
      List.singleton_append]
    exact exists_congr fun label => and_congr_right fun _ => eq_comm
  rw [hostPattern, Re.mem_lang_cat]
  simp only [mem_hostLabel, Re.mem_lang_plus, hdotted, Re.mem_lang_star_of_iff hdotted]
  constructor
  · rintro ⟨first, hfirst, -, ⟨-, ⟨second, hsecond, rfl⟩, -, ⟨rest, hrest, rfl⟩, rfl⟩, rfl⟩
    exact ⟨first, second :: rest, List.cons_ne_nil _ _,
      List.forall_mem_cons.mpr ⟨hfirst, List.forall_mem_cons.mpr ⟨hsecond, hrest⟩⟩, rfl⟩
  · rintro ⟨first, rest, hrest, hlabels, rfl⟩
    obtain ⟨second, rest, rfl⟩ := List.exists_cons_of_ne_nil hrest
    obtain ⟨hfirst, hothers⟩ := List.forall_mem_cons.mp hlabels
    obtain ⟨hsecond, hothers⟩ := List.forall_mem_cons.mp hothers
    exact ⟨first, hfirst, _, ⟨_, ⟨second, hsecond, rfl⟩, _, ⟨rest, hothers, rfl⟩, rfl⟩, rfl⟩

theorem char_of_mem_hostPattern (hhost : host ∈ (hostPattern isAlnum).lang) :
    ∀ c ∈ host, isAlnum c = true ∨ c = '-' ∨ c = '.' := by
  obtain ⟨first, rest, -, hlabels, rfl⟩ := mem_hostPattern.mp hhost
  intro c hc
  rcases List.mem_append.mp hc with hc | hc
  · exact ((hlabels first List.mem_cons_self).chars c hc).imp_right Or.inl
  · obtain ⟨label, hlabel, hmem⟩ := List.mem_flatMap.mp hc
    rcases List.mem_cons.mp hmem with rfl | hmem
    · exact Or.inr (Or.inr rfl)
    · exact ((hlabels label (List.mem_cons_of_mem _ hlabel)).chars c hmem).imp_right Or.inl

theorem ends_of_mem_hostPattern (hhost : host ∈ (hostPattern isAlnum).lang) :
    (∃ c ∈ host.head?, isAlnum c = true) ∧ ∃ c ∈ host.getLast?, isAlnum c = true := by
  obtain ⟨first, rest, hrest, hlabels, rfl⟩ := mem_hostPattern.mp hhost
  constructor
  · obtain ⟨c, hc, halnum⟩ := (hlabels first List.mem_cons_self).head
    refine ⟨c, ?_, halnum⟩
    rw [Option.mem_def] at hc ⊢
    rw [List.head?_append, hc]
    rfl
  · obtain ⟨init, label, rfl⟩ := List.eq_nil_or_concat rest |>.resolve_left hrest
    obtain ⟨c, hc, halnum⟩ := (hlabels label (by simp)).last
    refine ⟨c, ?_, halnum⟩
    have hlabel : label ≠ [] := by
      rintro rfl
      cases hc
    have hsplit : first ++ (init.concat label).flatMap ('.' :: ·) =
        (first ++ init.flatMap ('.' :: ·) ++ ['.']) ++ label := by simp
    rw [hsplit, List.getLast?_append_of_ne_nil _ hlabel]
    exact hc

variable {isAlnum' : Char → Bool} {change : Char → Char}

theorem IsLabel.map (hlabel : IsLabel isAlnum label)
    (halnum : ∀ c, isAlnum c = true → isAlnum' (change c) = true) (hhyphen : change '-' = '-') :
    IsLabel isAlnum' (label.map change) := by
  obtain ⟨first, hhead, hfirst⟩ := hlabel.head
  obtain ⟨last, hgetLast, hlast⟩ := hlabel.last
  refine ⟨?_, ⟨change first, ?_, halnum first hfirst⟩, ⟨change last, ?_, halnum last hlast⟩, ?_⟩
  · intro c hc
    obtain ⟨d, hd, rfl⟩ := List.mem_map.mp hc
    exact (hlabel.chars d hd).imp (halnum d) fun h => by rw [h, hhyphen]
  · rw [Option.mem_def] at hhead ⊢
    rw [List.head?_map, hhead]
    rfl
  · rw [Option.mem_def] at hgetLast ⊢
    rw [List.getLast?_map, hgetLast]
    rfl
  · rw [List.length_map]
    exact hlabel.short

/-- A host stays one under a change of its letters. -/
theorem map_mem_hostPattern (hhost : host ∈ (hostPattern isAlnum).lang)
    (halnum : ∀ c, isAlnum c = true → isAlnum' (change c) = true) (hhyphen : change '-' = '-')
    (hdot : change '.' = '.') : host.map change ∈ (hostPattern isAlnum').lang := by
  obtain ⟨first, rest, hrest, hlabels, rfl⟩ := mem_hostPattern.mp hhost
  refine mem_hostPattern.mpr
    ⟨first.map change, rest.map (List.map change), by simpa using hrest, ?_, ?_⟩
  · intro label hlabel
    rw [← List.map_cons (f := List.map change)] at hlabel
    obtain ⟨source, hsource, rfl⟩ := List.mem_map.mp hlabel
    exact (hlabels source hsource).map halnum hhyphen
  · simp [List.map_flatMap, List.flatMap_map, hdot]

theorem mem_hostPattern_mono (hclass : ∀ c ∈ host, isAlnum c = true → isAlnum' c = true)
    (hhost : host ∈ (hostPattern isAlnum).lang) : host ∈ (hostPattern isAlnum').lang := by
  obtain ⟨first, rest, hrest, hlabels, rfl⟩ := mem_hostPattern.mp hhost
  refine mem_hostPattern.mpr ⟨first, rest, hrest, fun label hlabel => ?_, rfl⟩
  have hmem : ∀ c ∈ label, c ∈ first ++ rest.flatMap ('.' :: ·) := by
    intro c hc
    rcases List.mem_cons.mp hlabel with rfl | hlabel
    · exact List.mem_append_left _ hc
    · exact List.mem_append_right _
        (List.mem_flatMap.mpr ⟨label, hlabel, List.mem_cons_of_mem _ hc⟩)
  have hread := hlabels label hlabel
  obtain ⟨c, hhead, hc⟩ := hread.head
  obtain ⟨d, hlast, hd⟩ := hread.last
  exact
    { chars := fun e he => (hread.chars e he).imp_left (hclass e (hmem e he))
      head := ⟨c, hhead, hclass c (hmem c (List.mem_of_mem_head? hhead)) hc⟩
      last := ⟨d, hlast, hclass d (hmem d (List.mem_of_mem_getLast? hlast)) hd⟩
      short := hread.short }

/-! ## Hosts with a line break -/

theorem hostName_of_not_newline (hline : '\n' ∉ host) : hostName host = host :=
  if_neg fun hlast => hline (List.mem_of_getLast? hlast)

theorem hostName_append_newline (host : Text) : hostName (host ++ ['\n']) = host := by
  simp [hostName]

/-- What is read of a host is a word of the pattern, or one with a line break after
it. -/
structure ReadHost (isAlnum : Char → Bool) (host : Text) : Prop where
  word : hostName host ∈ (hostPattern isAlnum).lang
  whole : host = hostName host ∨ host = hostName host ++ ['\n']
  long_enough : 4 ≤ host.length
  short_enough : host.length ≤ 253
  not_local : ¬ ".local".toList <:+ host

/-- What is read starts with a letter or a digit. -/
theorem ReadHost.head (hread : ReadHost isAlnum host) : ∃ c ∈ host.head?, isAlnum c = true := by
  obtain ⟨⟨first, hfirst, hclass⟩, -⟩ := ends_of_mem_hostPattern hread.word
  refine ⟨first, ?_, hclass⟩
  rcases hread.whole with hwhole | hwhole
  · rw [hwhole]
    exact hfirst
  · rw [hwhole, List.head?_append, hfirst]
    rfl

theorem mem_of_mem_hostName {c : Char} (hc : c ∈ hostName host) : c ∈ host := by
  rw [hostName] at hc
  split at hc
  · exact List.mem_of_mem_dropLast hc
  · exact hc

theorem char_of_hostName (hword : hostName host ∈ (hostPattern isAlnum).lang)
    (hwhole : host = hostName host ∨ host = hostName host ++ ['\n']) :
    ∀ c ∈ host, isAlnum c = true ∨ c = '-' ∨ c = '.' ∨ c = '\n' := by
  intro c hc
  have hname : c ∈ hostName host → isAlnum c = true ∨ c = '-' ∨ c = '.' ∨ c = '\n' := fun hmem =>
    (char_of_mem_hostPattern hword c hmem).imp_right fun h => h.imp_right Or.inl
  rcases hwhole with hwhole | hwhole
  · exact hname (hwhole ▸ hc)
  · rw [hwhole] at hc
    rcases List.mem_append.mp hc with hc | hc
    · exact hname hc
    · exact Or.inr (Or.inr (Or.inr (List.mem_singleton.mp hc)))

theorem ReadHost.mono (hread : ReadHost isAlnum host)
    (hclass : ∀ c ∈ host, isAlnum c = true → isAlnum' c = true) : ReadHost isAlnum' host :=
  { hread with
    word := mem_hostPattern_mono (fun c hc => hclass c (mem_of_mem_hostName hc)) hread.word }

variable (hbreak : isAlnum '\n' = false)

include hbreak

theorem newline_not_mem_of_word (hhost : host ∈ (hostPattern isAlnum).lang) : '\n' ∉ host := by
  intro hmem
  rcases char_of_mem_hostPattern hhost '\n' hmem with hclass | hclass | hclass
  · rw [hbreak] at hclass
    cases hclass
  · cases hclass
  · cases hclass

theorem readHost_of_word (hhost : host ∈ (hostPattern isAlnum).lang) (hlong : 4 ≤ host.length)
    (hshort : host.length ≤ 253) (hlocal : ¬ ".local".toList <:+ host) :
    ReadHost isAlnum host := by
  have hname := hostName_of_not_newline (newline_not_mem_of_word hbreak hhost)
  exact ⟨by rwa [hname], Or.inl hname.symm, hlong, hshort, hlocal⟩

theorem matchLine_iff (value : Text) :
    matchLine (hostPattern isAlnum) value = true ↔
      hostName value ∈ (hostPattern isAlnum).lang ∧
        (value = hostName value ∨ value = hostName value ++ ['\n']) := by
  rw [matchLine, Bool.or_eq_true, Bool.and_eq_true, Re.accepts_iff, Re.accepts_iff, beq_iff_eq]
  constructor
  · rintro (hword | ⟨hlast, hword⟩)
    · rw [hostName_of_not_newline (newline_not_mem_of_word hbreak hword)]
      exact ⟨hword, Or.inl rfl⟩
    · obtain ⟨front, rfl⟩ := List.getLast?_eq_some_iff.mp hlast
      rw [List.dropLast_concat] at hword
      rw [hostName_append_newline]
      exact ⟨hword, Or.inr rfl⟩
  · rintro ⟨hword, hvalue | hvalue⟩
    · rw [hvalue]
      exact Or.inl hword
    · right
      rw [hvalue, List.dropLast_concat]
      exact ⟨by simp, hword⟩

theorem ReadHost.newline_not_mem_name (hread : ReadHost isAlnum host) : '\n' ∉ hostName host :=
  newline_not_mem_of_word hbreak hread.word

/-- A host with a line break is under no name without one. -/
theorem newline_not_mem_of_covers {name : Text} (hread : ReadHost isAlnum host)
    (hname : '\n' ∉ name) (hcovers : Covers name host) : '\n' ∉ host := by
  rcases hread.whole with hwhole | hwhole
  · rw [hwhole]
    exact hread.newline_not_mem_name hbreak
  · have hlast : host.getLast? = some '\n' := by
      rw [hwhole, List.getLast?_concat]
    rcases hcovers with rfl | ⟨front, rfl⟩
    · exact absurd (List.mem_of_getLast? hlast) hname
    · rw [List.getLast?_append_of_ne_nil _ (List.cons_ne_nil _ _)] at hlast
      rcases List.mem_cons.mp (List.mem_of_getLast? hlast) with hdot | hmem
      · cases hdot
      · exact absurd hmem hname

end Shape

variable {value : Text}

theorem trim_of_ends {first last : Char} (hfirst : value.head? = some first)
    (hlast : value.getLast? = some last) {p : Char → Bool} (hpfirst : p first = false)
    (hplast : p last = false) : Foundation.trim p value = value := by
  refine Foundation.trim_eq_self_iff.mpr ⟨fun c hc => ?_, fun c hc => ?_⟩
  · rwa [Option.some.inj (hc.symm.trans hfirst)]
  · rwa [Option.some.inj (hc.symm.trans hlast)]


/-! ## Rules in lower case -/

/-- `[a-z0-9]` -/
def isLowerAlphanumeric (c : Char) : Bool := ('a' ≤ c && c ≤ 'z') || Ascii.isDigit c

theorem isLowerAlphanumeric_newline : isLowerAlphanumeric '\n' = false := by decide

theorem lower_ascii : ∀ n < 128,
    (Ascii.isAlphanumeric (Char.ofNat n) = true →
        isLowerAlphanumeric (Unicode.simpleLower (Char.ofNat n)) = true) ∧
      (isLowerAlphanumeric (Char.ofNat n) = true → Unicode.isLower (Char.ofNat n) = true) := by
  decide +kernel

variable {c : Char}

theorem isLowerAlphanumeric_simpleLower (hc : Ascii.isAlphanumeric c = true) :
    isLowerAlphanumeric (Unicode.simpleLower c) = true := by
  have hrange := Ascii.toNat_of_isAlphanumeric hc
  have hchar := (lower_ascii c.toNat (by omega)).1
  rw [Char.ofNat_toNat] at hchar
  exact hchar hc

/-- Lower-casing a text of ASCII characters changes them one by one. -/
theorem toLowerCase_of_ascii (hascii : ∀ c ∈ value, c.toNat < 0x80) :
    Unicode.toLowerCase value = value.map Unicode.simpleLower := by
  have hfrom : ∀ before : Text, Unicode.lowerFrom before value =
      value.map Unicode.simpleLower := by
    induction value with
    | nil => exact fun _ => rfl
    | cons c rest ih =>
        intro before
        rw [Unicode.lowerFrom, ih (fun d hd => hascii d (List.mem_cons_of_mem c hd)),
          Unicode.lowerChar, if_pos (hascii c List.mem_cons_self)]
        rfl
  exact hfrom []

theorem toUpper_simpleLower_ascii : ∀ n < 128,
    (Unicode.simpleLower (Char.ofNat n)).toUpper = (Char.ofNat n).toUpper := by
  decide +kernel

/-- The lower case of ASCII letters has the upper case of the letters. -/
theorem map_toUpper_simpleLower (hascii : ∀ c ∈ value, c.toNat < 0x80) :
    (value.map Unicode.simpleLower).map Char.toUpper = value.map Char.toUpper := by
  rw [List.map_map]
  refine List.map_congr_left fun c hc => ?_
  have hupper := toUpper_simpleLower_ascii c.toNat (hascii c hc)
  rwa [Char.ofNat_toNat] at hupper

theorem toNat_lt_of_isLowerAlphanumeric (hc : isLowerAlphanumeric c = true) : c.toNat < 128 := by
  simp only [isLowerAlphanumeric, Ascii.isDigit, Bool.or_eq_true, Bool.and_eq_true,
    decide_eq_true_eq, Unicode.le_iff_toNat_le] at hc
  have hz : ('z').toNat = 122 := rfl
  have hnine : ('9').toNat = 57 := rfl
  omega

theorem toNat_lt_of_isDomainChar (hc : RulesValidation.isDomainChar c = true) : c.toNat < 0x80 := by
  have hrange := toNat_of_isDomainChar hc
  omega

variable {domain : Text}

theorem mem_hostPattern_of_domainRegex (hdomain : domain ∈ domainRegex.lang) :
    domain ∈ (hostPattern Ascii.isAlphanumeric).lang := by
  have hdotted : ∀ part : Text, part ∈ dottedLabel.lang ↔
      ∃ label, IsLabel Ascii.isAlphanumeric label ∧ part = label ++ ['.'] := by
    intro part
    have hshape : part ∈ dottedLabel.lang ↔
        part ∈ (Re.cat (hostLabel Ascii.isAlphanumeric) (.lit '.')).lang := Iff.rfl
    rw [hshape, Re.mem_lang_cat]
    simp only [mem_hostLabel, Re.mem_lang_lit, exists_eq_left]
    exact exists_congr fun label => and_congr_right fun _ => eq_comm
  obtain ⟨front, hfront, tld, htld, rfl⟩ := (Re.mem_lang_cat _ _ _).mp hdomain
  obtain ⟨part, hpart, tail, htail, rfl⟩ := (Re.mem_lang_plus _ _).mp hfront
  obtain ⟨first, hfirst, rfl⟩ := (hdotted part).mp hpart
  obtain ⟨middle, hmiddle, rfl⟩ := (Re.mem_lang_star_of_iff hdotted tail).mp htail
  obtain ⟨hlo, hhi, hletters⟩ := (Re.mem_lang_between_sat (by decide)).mp htld
  have hlabel : IsLabel Ascii.isAlphanumeric tld := by
    have halnum : ∀ c ∈ tld, Ascii.isAlphanumeric c = true := fun c hc => by
      simp [Ascii.isAlphanumeric, hletters c hc]
    have hne : tld ≠ [] := by
      rintro rfl
      simp at hlo
    exact ⟨fun c hc => Or.inl (halnum c hc),
      ⟨tld.head hne, List.head?_eq_some_head hne, halnum _ (List.head_mem hne)⟩,
      ⟨tld.getLast hne, List.getLast?_eq_some_getLast hne, halnum _ (List.getLast_mem hne)⟩, hhi⟩
  have hmove : ∀ labels : List Text, '.' :: (labels.flatMap (· ++ ['.']) ++ tld) =
      (labels ++ [tld]).flatMap ('.' :: ·) := by
    intro labels
    induction labels with
    | nil => simp
    | cons label labels ih => simp [← ih]
  refine mem_hostPattern.mpr ⟨first, middle ++ [tld], by simp, ?_, ?_⟩
  · intro label hmem
    simp only [List.mem_cons, List.mem_append, List.not_mem_nil, or_false] at hmem
    rcases hmem with rfl | hmem | rfl
    · exact hfirst
    · exact hmiddle label hmem
    · exact hlabel
  · rw [← hmove]
    simp

variable {rule : Text}

/-- The domain of an admitted rule, behind a wildcard or not. -/
theorem domain_of_admitted (hrule : Admitted rule) :
    rule ∈ RulesValidation.domainRegex.lang ∨
      ∃ domain ∈ RulesValidation.domainRegex.lang, rule = "*.".toList ++ domain :=
  RulesValidation.mem_subdomainRegex_iff.mp
    ((RulesValidation.subdomainCheck.valid_validate_iff rule).mp hrule).format

theorem domain_of_plain (hrule : Admitted rule) (hplain : ¬ "*.".toList <+: rule) :
    rule ∈ RulesValidation.domainRegex.lang := by
  rcases domain_of_admitted hrule with hdomain | ⟨domain, -, rfl⟩
  · exact hdomain
  · exact absurd (List.prefix_append _ _) hplain

theorem domain_of_wildcard (hrule : Admitted ("*.".toList ++ domain)) :
    domain ∈ RulesValidation.domainRegex.lang := by
  rcases domain_of_admitted hrule with hformat | ⟨source, hsource, hequal⟩
  · have hstar := RulesValidation.isDomainChar_of_mem_domainRegex hformat '*' (by simp)
    exact absurd hstar (by decide)
  · exact List.append_cancel_left hequal ▸ hsource

/-- An admitted rule without a wildcard is a host once it is in lower case. -/
theorem lower_mem_hostPattern (hrule : Admitted rule) (hplain : ¬ "*.".toList <+: rule) :
    Unicode.toLowerCase rule ∈ (hostPattern isLowerAlphanumeric).lang ∧
      4 ≤ (Unicode.toLowerCase rule).length ∧ (Unicode.toLowerCase rule).length ≤ 253 := by
  have haccepts := (subdomainCheck.valid_validate_iff rule).mp hrule
  have hdomain := domain_of_plain hrule hplain
  have hascii : ∀ c ∈ rule, c.toNat < 0x80 := fun c hc =>
    toNat_lt_of_isDomainChar (isDomainChar_of_mem_domainRegex hdomain c hc)
  have hlength := JavaScript.length_of_ascii hascii
  have hlong := haccepts.long_enough
  have hshort := haccepts.short_enough
  rw [hlength] at hlong hshort
  rw [toLowerCase_of_ascii hascii, List.length_map]
  exact ⟨map_mem_hostPattern (mem_hostPattern_of_domainRegex hdomain)
    (fun c hc => isLowerAlphanumeric_simpleLower hc) (by decide) (by decide), hlong, hshort⟩

end OpenPath.RuntimeDependency
