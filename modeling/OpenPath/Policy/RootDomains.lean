/-
# What an approval whitelists

A manual request is approved for the root domain of what was asked for. The root
keeps the last two labels, or three where the last two are a country-code
second-level domain of the table; a leading `www.` or `*.` is dropped before the
labels are counted, so that `www.gov.uk` stands for `gov.uk`.
-/

import OpenPath.Policy.DomainValidators

namespace OpenPath.Policy.RootDomains

open Ascii Foundation JavaScript RulesValidation Domain DomainValidators
open RuntimeDependency (IsLabel)

/-- `DomainSchema`, which requests pass. -/
def domainSchema (domain : Text) : Bool :=
  decide (4 ≤ length domain) && decide (length domain ≤ 253) && subdomainRegex.accepts domain &&
    !includes domain "..".toList &&
    (split (stripPrefix "*.".toList domain) '.').all fun label => length label ≤ 63

/-- A request may be for a domain, or for a domain behind a wildcard. -/
theorem domainSchema_iff (domain : Text) :
    domainSchema domain = true ↔ subdomainCheck.Accepts domain := by
  unfold domainSchema
  simp only [Bool.and_eq_true, decide_eq_true_eq, Re.accepts_iff, Bool.not_eq_true',
    List.all_eq_true]
  constructor
  · rintro ⟨⟨⟨⟨hlong, hshort⟩, hformat⟩, hdots⟩, hlabels⟩
    refine ⟨hlong, hshort, ?_, hformat, hlabels⟩
    rw [← includes_iff, hdots]
    exact Bool.false_ne_true
  · rintro ⟨hlong, hshort, hdots, hformat, hlabels⟩
    rw [← includes_iff, Bool.not_eq_true] at hdots
    exact ⟨⟨⟨⟨hlong, hshort⟩, hformat⟩, hdots⟩, hlabels⟩

/-- The domain without a leading `www.` or wildcard. -/
def bareDomain (domain : Text) : Text := stripWildcard (stripPrefix "www.".toList domain)

/-- The labels that are kept of a domain without them. -/
def siteOf (domain : Text) : Text :=
  let parts := split domain '.'
  if parts.length < 2 then domain
  else if 3 ≤ parts.length ∧ (String.ofList (join (lastParts 2 parts) ['.'])) ∈ ccSlds then
    join (lastParts 3 parts) ['.']
  else join (lastParts 2 parts) ['.']

variable {value : Text}

theorem before_of_not_mem {separator : Char} (hnot : separator ∉ value) :
    before separator value = value := by
  rw [before, List.takeWhile_eq_self_iff]
  intro c hc
  simpa using fun h : c = separator => hnot (h ▸ hc)

/-- No URL syntax is in the text. -/
def IsBare (value : Text) : Prop := ∀ c ∈ value, isDomainChar c = true ∨ c = '*'

theorem IsBare.not_mem (hvalue : IsBare value) {c : Char} (hc : isDomainChar c = false ∧ c ≠ '*') :
    c ∉ value := by
  intro hmem
  rcases hvalue c hmem with h | h
  · rw [h] at hc
    exact Bool.noConfusion hc.1
  · exact hc.2 h

theorem getRootDomain_eq (hvalue : IsBare value) :
    getRootDomain value = siteOf (bareDomain value) := by
  have hscheme : ∀ marker : Text, ':' ∈ marker → ¬ marker <+: value := by
    intro marker hcolon hstarts
    exact hvalue.not_mem (by decide) (hstarts.subset hcolon)
  have hstrip : stripProtocolAndWww value = stripPrefix "www.".toList value := by
    unfold stripProtocolAndWww
    dsimp only
    rw [if_neg (hscheme _ (by decide)), if_neg (hscheme _ (by decide))]
  have hbefore : ∀ separator : Char, isDomainChar separator = false ∧ separator ≠ '*' →
      before separator (stripPrefix "www.".toList value) =
        stripPrefix "www.".toList value := by
    intro separator hseparator
    exact before_of_not_mem fun hmem =>
      hvalue.not_mem hseparator ((stripPrefix_suffix _ _).subset hmem)
  unfold getRootDomain
  dsimp only
  rw [hstrip, hbefore '/' (by decide), hbefore '?' (by decide), hbefore '#' (by decide),
    hbefore ':' (by decide)]
  rfl

/-! ## The labels that are kept -/

variable {labels : List Text} {tld : Text}

theorem join_lastParts (n : Nat) (hn : n + 1 ≤ labels.length + 1) :
    join (lastParts (n + 1) (labels ++ [tld])) ['.'] =
      nameOf (labels.drop (labels.length - n)) tld := by
  have hlength : (labels ++ [tld]).length - (n + 1) = labels.length - n := by simp
  rw [lastParts, hlength, List.drop_append_of_le_length (by omega)]
  rfl

/-- The labels of a name that its site keeps. -/
def keptLabels (labels : List Text) (tld : Text) : List Text :=
  if 2 ≤ labels.length ∧
      String.ofList (nameOf (labels.drop (labels.length - 1)) tld) ∈ ccSlds then
    labels.drop (labels.length - 2)
  else labels.drop (labels.length - 1)

theorem siteOf_nameOf (hname : IsName labels tld) :
    siteOf (nameOf labels tld) = nameOf (keptLabels labels tld) tld := by
  have hpos : 0 < labels.length := List.length_pos_of_ne_nil hname.nonempty
  unfold siteOf keptLabels
  rw [split, splitOn_nameOf hname]
  dsimp only
  rw [List.length_append, List.length_singleton, if_neg (by omega), join_lastParts 1 (by omega)]
  by_cases hcountry : 2 ≤ labels.length ∧
      String.ofList (nameOf (labels.drop (labels.length - 1)) tld) ∈ ccSlds
  · rw [if_pos hcountry, if_pos ⟨by omega, hcountry.2⟩, join_lastParts 2 (by omega)]
  · rw [if_neg hcountry, if_neg]
    rintro ⟨hlength, hmem⟩
    exact hcountry ⟨by omega, hmem⟩

/-- One label, or two before a country-code second-level domain. -/
theorem keptLabels_cases (tld : Text) (hlabels : labels ≠ []) :
    keptLabels labels tld <:+ labels ∧
      (((keptLabels labels tld).length = 1 ∧
          (labels.length = 1 ∨ String.ofList (nameOf (keptLabels labels tld) tld) ∉ ccSlds)) ∨
        ((keptLabels labels tld).length = 2 ∧
          String.ofList (nameOf ((keptLabels labels tld).drop 1) tld) ∈ ccSlds)) := by
  have hpos : 0 < labels.length := List.length_pos_of_ne_nil hlabels
  unfold keptLabels
  split
  · rename_i hcountry
    refine ⟨List.drop_suffix _ _, Or.inr ⟨?_, ?_⟩⟩
    · rw [List.length_drop]
      omega
    · have hindex : labels.length - 2 + 1 = labels.length - 1 := by omega
      rw [List.drop_drop, hindex]
      exact hcountry.2
  · rename_i hnot
    refine ⟨List.drop_suffix _ _, Or.inl ⟨?_, ?_⟩⟩
    · rw [List.length_drop]
      omega
    · by_cases hone : labels.length = 1
      · exact Or.inl hone
      · exact Or.inr fun hmem => hnot ⟨by omega, hmem⟩

variable {kept : List Text}

theorem isName_of_suffix (hname : IsName labels tld) (hkept : kept <:+ labels)
    (hnonempty : kept ≠ []) : IsName kept tld where
  nonempty := hnonempty
  regular := fun label hlabel => hname.regular label (hkept.subset hlabel)
  topLevel := hname.topLevel

theorem keptLabels_keptLabels (tld : Text) (hlabels : labels ≠ []) :
    keptLabels (keptLabels labels tld) tld = keptLabels labels tld := by
  obtain ⟨-, ⟨hone, -⟩ | ⟨htwo, hcountry⟩⟩ := keptLabels_cases tld hlabels
  · rw [keptLabels, if_neg (by omega), hone]
    rfl
  · rw [keptLabels, htwo, if_pos ⟨Nat.le_refl 2, hcountry⟩]
    rfl

theorem label_ne_nil {label : Text} (hlabel : IsLabel isAlphanumeric label) : label ≠ [] := by
  rintro rfl
  obtain ⟨c, hc, -⟩ := hlabel.head
  cases hc

/-- What is kept is the whole name, or is behind a dot. -/
theorem nameOf_of_suffix (hname : IsName labels tld) (hkept : kept <:+ labels) :
    nameOf kept tld = nameOf labels tld ∨
      ∃ front, front ≠ [] ∧ nameOf labels tld = front ++ '.' :: nameOf kept tld := by
  obtain ⟨dropped, rfl⟩ := hkept
  rcases List.eq_nil_or_concat dropped with rfl | ⟨dropped, last, rfl⟩
  · exact Or.inl rfl
  · have hlast : last ≠ [] := label_ne_nil (hname.regular last (by simp))
    refine Or.inr ⟨dropped.flatMap (· ++ ['.']) ++ last, by simp [hlast], ?_⟩
    rw [nameOf_eq, nameOf_eq]
    simp

/-! ## The domain without its marker -/

theorem stripWildcard_of_alphanumeric {first : Char} (hfirst : isAlphanumeric first = true)
    (rest : Text) : stripWildcard (first :: rest) = first :: rest := by
  unfold stripWildcard
  split
  · rename_i heq
    obtain rfl := (List.cons.inj heq).1
    cases hfirst
  · rename_i heq
    obtain rfl := (List.cons.inj heq).1
    cases hfirst
  · rfl

theorem stripWildcard_of_format (hvalue : value ∈ domainRegex.lang) :
    stripWildcard value = value := by
  obtain ⟨first, rest, rfl, hfirst⟩ := head_of_mem_domainRegex hvalue
  exact stripWildcard_of_alphanumeric hfirst rest

theorem stripWildcard_of_topLevel (htld : IsTopLevel tld) : stripWildcard tld = tld := by
  cases tld with
  | nil => rfl
  | cons first rest =>
      refine stripWildcard_of_alphanumeric ?_ rest
      rw [isAlphanumeric, htld.letters first List.mem_cons_self, Bool.true_or]

theorem append_dot_inj {first second rest others : Text} (hfirst : '.' ∉ first)
    (hsecond : '.' ∉ second) (heq : first ++ '.' :: rest = second ++ '.' :: others) :
    first = second ∧ rest = others := by
  have hlabels := congrArg (List.takeWhile (· ≠ '.')) heq
  have htake : ∀ label tail : Text, '.' ∉ label →
      (label ++ '.' :: tail).takeWhile (· ≠ '.') = label := by
    intro label tail hlabel
    rw [List.takeWhile_append_of_pos fun c hc => by simpa using fun h : c = '.' => hlabel (h ▸ hc)]
    simp
  rw [htake first rest hfirst, htake second others hsecond] at hlabels
  subst hlabels
  exact ⟨rfl, (List.cons.inj (List.append_cancel_left heq)).2⟩

variable {domain : Text}

/-- A domain is a name, and a marker may stand before it. -/
theorem bareDomain_cases (hformat : domain ∈ subdomainRegex.lang)
    (htwo : 2 ≤ (split (bareDomain domain) '.').length) :
    ∃ labels tld, IsName labels tld ∧ bareDomain domain = nameOf labels tld ∧
      (domain = nameOf labels tld ∨
        ∃ front, front ≠ [] ∧ domain = front ++ '.' :: nameOf labels tld) := by
  rcases mem_subdomainRegex_iff.mp hformat with hplain | ⟨name, hname, rfl⟩
  · by_cases hwww : "www.".toList <+: domain
    · obtain ⟨rest, rfl⟩ := hwww
      obtain ⟨labels, tld, hname, heq⟩ := mem_domainRegex_iff.mp hplain
      obtain ⟨first, others, rfl⟩ := List.exists_cons_of_ne_nil hname.nonempty
      have hdot := hname.dot_not_mem first (by simp)
      have hsplit : "www".toList ++ '.' :: rest = first ++ '.' :: nameOf others tld := by
        rw [nameOf_eq, List.flatMap_cons] at heq
        rw [nameOf_eq]
        simpa using heq
      have hwwwDot : '.' ∉ "www".toList := by decide
      obtain ⟨rfl, rfl⟩ := append_dot_inj hwwwDot hdot hsplit
      have hbare : bareDomain ("www.".toList ++ nameOf others tld) =
          stripWildcard (nameOf others tld) := by
        rw [bareDomain, stripPrefix_append]
      rw [hbare] at htwo ⊢
      by_cases hothers : others = []
      · subst hothers
        have htld : nameOf [] tld = tld := by simp [nameOf_eq]
        rw [htld, stripWildcard_of_topLevel hname.topLevel, split,
          List.splitOn_eq_singleton (dot_not_mem_of_isTopLevel hname.topLevel)] at htwo
        simp at htwo
      · have hsuffix : IsName others tld := isName_of_suffix hname (List.suffix_cons _ _) hothers
        refine ⟨others, tld, hsuffix, ?_, Or.inr ⟨"www".toList, by decide, rfl⟩⟩
        exact stripWildcard_of_format (mem_domainRegex_iff.mpr ⟨others, tld, hsuffix, rfl⟩)
    · obtain ⟨labels, tld, hname, rfl⟩ := mem_domainRegex_iff.mp hplain
      refine ⟨labels, tld, hname, ?_, Or.inl rfl⟩
      rw [bareDomain, stripPrefix_of_not_prefix hwww, stripWildcard_of_format hplain]
  · obtain ⟨labels, tld, hlabels, rfl⟩ := mem_domainRegex_iff.mp hname
    refine ⟨labels, tld, hlabels, ?_, Or.inr ⟨['*'], by decide, rfl⟩⟩
    rw [bareDomain, stripPrefix_of_not_prefix]
    · rfl
    · rintro ⟨rest, hrest⟩
      exact absurd (List.cons.inj hrest).1 (by decide)

theorem isBare_of_format (hformat : domain ∈ subdomainRegex.lang) : IsBare domain := by
  intro c hc
  rcases mem_subdomainRegex_iff.mp hformat with hplain | ⟨name, hname, rfl⟩
  · exact Or.inl (isDomainChar_of_mem_domainRegex hplain c hc)
  · rcases List.mem_append.mp hc with hmarker | hmem
    · rcases List.mem_cons.mp hmarker with rfl | hdot
      · exact Or.inr rfl
      · rw [List.mem_singleton.mp hdot]
        exact Or.inl rfl
    · exact Or.inl (isDomainChar_of_mem_domainRegex hname c hmem)

/-! ## Sites -/

/-- What may be whitelisted for a domain. -/
structure IsSite (domain root : Text) : Prop where
  parent : root = domain ∨ ∃ front, front ≠ [] ∧ domain = front ++ '.' :: root
  labels : 2 ≤ (split root '.').length
  valid : IsDomain root

/-- The root of a domain is a site of it, a second-level domain of the table only where
the domain itself is one, and its own root. -/
structure StaysWithinSite (domain : Text) : Prop where
  site : IsSite domain (getRootDomain domain)
  country : String.ofList (getRootDomain domain) ∈ ccSlds → String.ofList domain ∈ ccSlds
  idempotent : getRootDomain (getRootDomain domain) = getRootDomain domain

theorem length_of_isBare (hvalue : IsBare value) : length value = value.length := by
  refine length_of_ascii fun c hc => ?_
  rcases hvalue c hc with h | rfl
  · have hrange := toNat_of_isDomainChar h
    omega
  · decide

/-- A name at the end of a valid domain is valid. -/
theorem isDomain_of_suffix (haccepts : subdomainCheck.Accepts domain) (hname : IsName labels tld)
    (hsuffix : nameOf labels tld <:+ domain) : IsDomain (nameOf labels tld) := by
  have hformat : nameOf labels tld ∈ domainRegex.lang :=
    mem_domainRegex_iff.mpr ⟨labels, tld, hname, rfl⟩
  have hbare := isBare_of_format haccepts.format
  have hlength : length (nameOf labels tld) = (nameOf labels tld).length :=
    length_of_isBare fun c hc => hbare c (hsuffix.subset hc)
  refine ⟨?_, ?_, ?_, hformat, length_label_of_mem_domainRegex hformat⟩
  · obtain ⟨first, others, rfl⟩ := List.exists_cons_of_ne_nil hname.nonempty
    have hfirst : 0 < first.length :=
      List.length_pos_of_ne_nil (label_ne_nil (hname.regular first List.mem_cons_self))
    have htld := hname.topLevel.long_enough
    rw [hlength, nameOf_eq, List.flatMap_cons]
    simp only [List.length_append, List.length_singleton]
    omega
  · have hshort := haccepts.short_enough
    rw [length_of_isBare hbare] at hshort
    rw [hlength]
    exact hsuffix.length_le.trans hshort
  · exact fun hdots => haccepts.no_consecutive_dots (hdots.trans hsuffix.isInfix)

/-- A second-level domain of the table has two labels. -/
theorem length_split_of_mem_ccSlds (hvalue : String.ofList value ∈ ccSlds) :
    (split value '.').length = 2 := by
  have hall : ccSlds.all (fun entry => (split entry.toList '.').length == 2) = true := by
    decide
  have hentry := List.all_eq_true.mp hall _ hvalue
  rw [String.toList_ofList] at hentry
  exact beq_iff_eq.mp hentry

/-- What is kept of a name behind a marker is behind a dot. -/
theorem parent_of_kept (hname : IsName labels tld) (hkept : kept <:+ labels)
    (hdomain : domain = nameOf labels tld ∨
      ∃ front, front ≠ [] ∧ domain = front ++ '.' :: nameOf labels tld) :
    nameOf kept tld = domain ∨ ∃ front, front ≠ [] ∧ domain = front ++ '.' :: nameOf kept tld := by
  rcases nameOf_of_suffix hname hkept with heq | ⟨front, hfront, heq⟩
  · rw [heq]
    rcases hdomain with hdomain | hmarked
    · exact Or.inl hdomain.symm
    · exact Or.inr hmarked
  · rcases hdomain with hdomain | ⟨marker, hmarker, hdomain⟩
    · exact Or.inr ⟨front, hfront, hdomain.trans heq⟩
    · refine Or.inr ⟨marker ++ '.' :: front, by simp, ?_⟩
      rw [hdomain, heq]
      simp

theorem suffix_of_parent {root : Text}
    (hparent : root = domain ∨ ∃ front, front ≠ [] ∧ domain = front ++ '.' :: root) :
    root <:+ domain := by
  rcases hparent with rfl | ⟨front, -, rfl⟩
  · exact List.suffix_rfl
  · exact ⟨front ++ ['.'], by simp⟩

/-- A name whose labels a site keeps is its own root, unless it starts with `www.`. -/
theorem getRootDomain_kept (hname : IsName labels tld) (hself : keptLabels labels tld = labels)
    (hwww : ¬ "www.".toList <+: nameOf labels tld) :
    getRootDomain (nameOf labels tld) = nameOf labels tld := by
  have hformat : nameOf labels tld ∈ domainRegex.lang :=
    mem_domainRegex_iff.mpr ⟨_, tld, hname, rfl⟩
  rw [getRootDomain_eq fun c hc => Or.inl (isDomainChar_of_mem_domainRegex hformat c hc),
    bareDomain, stripPrefix_of_not_prefix hwww, stripWildcard_of_format hformat,
    siteOf_nameOf hname, hself]

/-- Beyond what the domain without its marker is, the root is no second-level domain of
the table; it is its own root unless it starts with `www.` again. -/
theorem normalizeManualRequestDomain_isSite {domain : Text} (haccepts : domainSchema domain = true)
    (htwo : 2 ≤ (split (bareDomain domain) '.').length) :
    normalizeManualRequestDomain domain = getRootDomain domain ∧
      IsSite domain (getRootDomain domain) ∧
      (String.ofList (getRootDomain domain) ∈ ccSlds → getRootDomain domain = bareDomain domain) ∧
      (¬ "www.".toList <+: getRootDomain domain →
        getRootDomain (getRootDomain domain) = getRootDomain domain) := by
  rw [domainSchema_iff] at haccepts
  obtain ⟨labels, tld, hname, hbare, hdomain⟩ := bareDomain_cases haccepts.format htwo
  obtain ⟨hkept, hcases⟩ := keptLabels_cases tld hname.nonempty
  have hpos : 0 < (keptLabels labels tld).length := by
    rcases hcases with ⟨hlength, -⟩ | ⟨hlength, -⟩
    all_goals omega
  have hsite := isName_of_suffix hname hkept (List.ne_nil_of_length_pos hpos)
  have hparent := parent_of_kept hname hkept hdomain
  have hlabels : (split (nameOf (keptLabels labels tld) tld) '.').length =
      (keptLabels labels tld).length + 1 := by
    rw [split, splitOn_nameOf hsite, List.length_append, List.length_singleton]
  refine ⟨rfl, ?_⟩
  rw [getRootDomain_eq (isBare_of_format haccepts.format), hbare, siteOf_nameOf hname]
  refine ⟨⟨hparent, by omega, isDomain_of_suffix haccepts hsite (suffix_of_parent hparent)⟩,
    ?_, getRootDomain_kept hsite (keptLabels_keptLabels tld hname.nonempty)⟩
  intro hcountry
  have htwoLabels := length_split_of_mem_ccSlds hcountry
  rw [hlabels] at htwoLabels
  rcases hcases with ⟨-, hone | hnot⟩ | ⟨hlength, -⟩
  · rw [hkept.eq_of_length (by omega)]
  · exact absurd hcountry hnot
  · omega

theorem normalizeManualRequestDomain_mail :
    normalizeManualRequestDomain "mail.google.com".toList =
        getRootDomain "mail.google.com".toList ∧
      IsSite "mail.google.com".toList (getRootDomain "mail.google.com".toList) ∧
      (String.ofList (getRootDomain "mail.google.com".toList) ∈ ccSlds →
        getRootDomain "mail.google.com".toList = bareDomain "mail.google.com".toList) ∧
      (¬ "www.".toList <+: getRootDomain "mail.google.com".toList →
        getRootDomain (getRootDomain "mail.google.com".toList) =
          getRootDomain "mail.google.com".toList) :=
  normalizeManualRequestDomain_isSite (by decide) (by decide)

/-- `www.gov.uk` stands for the second-level domain behind it. -/
theorem not_staysWithinSite_www_gov_uk :
    domainSchema "www.gov.uk".toList = true ∧ ¬ StaysWithinSite "www.gov.uk".toList := by
  refine ⟨by decide, fun hsite => ?_⟩
  have hroot : getRootDomain "www.gov.uk".toList = "gov.uk".toList := by decide
  have hcountry := hsite.country
  rw [hroot] at hcountry
  exact absurd (hcountry (by decide)) (by decide)

end OpenPath.Policy.RootDomains
