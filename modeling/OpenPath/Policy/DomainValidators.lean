/-
# The validators of the server and of the Linux agent

A rule value passes two validators: the one the server shares with its dashboard,
before the rule is stored, and `validate_domain` of the Linux agent, before the
resolver is configured with it. Both formats are read here as a list of labels, and
the two validators are compared for all strings: the agent skips the names under
`.local` on purpose, and only the subdomain format has a wildcard, which the agent
takes for both kinds of rules.
-/

import OpenPath.Api.StoredRules
import OpenPath.Linux.DomainValidation
import OpenPath.Shared.DependencyHosts

namespace OpenPath.Policy.DomainValidators

open Ascii RulesValidation
open Linux (validateLabel readLabels checkedDomain)
open Foundation (Re)
open RuntimeDependency (IsLabel mem_hostLabel)

/-! ## Names as lists of labels -/

/-- The label at the end of a name. -/
structure IsTopLevel (label : Text) : Prop where
  long_enough : 2 ≤ label.length
  short_enough : label.length ≤ 63
  letters : ∀ c ∈ label, isLetter c = true

/-- The labels of a name: one or more, and the label at the end. -/
structure IsName (labels : List Text) (tld : Text) : Prop where
  nonempty : labels ≠ []
  regular : ∀ label ∈ labels, IsLabel isAlphanumeric label
  topLevel : IsTopLevel tld

/-- The labels with dots between them. -/
def nameOf (labels : List Text) (tld : Text) : Text := ['.'].intercalate (labels ++ [tld])

theorem nameOf_eq (labels : List Text) (tld : Text) :
    nameOf labels tld = labels.flatMap (· ++ ['.']) ++ tld :=
  Foundation.intercalate_concat_eq labels tld ['.']

variable {label : Text}

theorem dot_not_mem_of_isLabel (hlabel : IsLabel isAlphanumeric label) : '.' ∉ label := by
  intro hdot
  have hclass := hlabel.chars '.' hdot
  revert hclass
  decide

theorem dot_not_mem_of_isTopLevel (hlabel : IsTopLevel label) : '.' ∉ label := by
  intro hdot
  have hclass := hlabel.letters '.' hdot
  revert hclass
  decide

variable {labels : List Text} {tld : Text}

theorem IsName.dot_not_mem (hname : IsName labels tld) :
    ∀ label ∈ labels ++ [tld], '.' ∉ label := by
  intro label hlabel
  rcases List.mem_append.mp hlabel with hregular | htop
  · exact dot_not_mem_of_isLabel (hname.regular label hregular)
  · rw [List.mem_singleton.mp htop]
    exact dot_not_mem_of_isTopLevel hname.topLevel

theorem splitOn_nameOf (hname : IsName labels tld) :
    (nameOf labels tld).splitOn '.' = labels ++ [tld] :=
  List.splitOn_intercalate '.' hname.dot_not_mem (by simp)

/-! ## The format of the server -/

theorem mem_dottedLabel {part : Text} :
    part ∈ dottedLabel.lang ↔ ∃ label, IsLabel isAlphanumeric label ∧ part = label ++ ['.'] := by
  have hlabel : dottedLabel = .cat (RuntimeDependency.hostLabel isAlphanumeric) (.lit '.') := rfl
  rw [hlabel, Re.mem_lang_cat]
  simp only [Re.mem_lang_lit, exists_eq_left, mem_hostLabel]
  exact exists_congr fun label => and_congr_right fun _ => eq_comm

variable {value : Text}

theorem mem_domainRegex_iff :
    value ∈ domainRegex.lang ↔ ∃ labels tld, IsName labels tld ∧ value = nameOf labels tld := by
  simp only [domainRegex, Re.mem_lang_cat, Re.mem_lang_plus, mem_dottedLabel,
    Re.mem_lang_star_of_iff fun _ => mem_dottedLabel,
    Re.mem_lang_between_sat (show 2 ≤ 63 by decide)]
  constructor
  · rintro ⟨-, ⟨-, ⟨first, hfirst, rfl⟩, -, ⟨rest, hrest, rfl⟩, rfl⟩, tld,
      ⟨hlong, hshort, hletters⟩, rfl⟩
    refine ⟨first :: rest, tld, ⟨List.cons_ne_nil _ _, ?_, hlong, hshort, hletters⟩, ?_⟩
    · exact List.forall_mem_cons.mpr ⟨hfirst, hrest⟩
    · rw [nameOf_eq, List.flatMap_cons]
  · rintro ⟨labels, tld, hname, rfl⟩
    obtain ⟨first, rest, rfl⟩ := List.exists_cons_of_ne_nil hname.nonempty
    obtain ⟨hfirst, hrest⟩ := List.forall_mem_cons.mp hname.regular
    refine ⟨_, ⟨_, ⟨first, hfirst, rfl⟩, _, ⟨rest, hrest, rfl⟩, rfl⟩, tld,
      ⟨hname.topLevel.long_enough, hname.topLevel.short_enough, hname.topLevel.letters⟩, ?_⟩
    rw [nameOf_eq, List.flatMap_cons]

section

variable (hvalue : value ∈ domainRegex.lang)
include hvalue

/-- A domain is not empty, and starts with a letter or a digit. -/
theorem head_of_mem_domainRegex :
    ∃ first rest, value = first :: rest ∧ isAlphanumeric first = true := by
  obtain ⟨first, middle, tld, rfl, hfirst, -, -⟩ := mem_domainRegex_shape hvalue
  exact ⟨first, _, rfl, hfirst⟩

theorem not_wildcard_of_mem_domainRegex : ¬ "*.".toList <+: value := by
  obtain ⟨first, rest, rfl, hfirst⟩ := head_of_mem_domainRegex hvalue
  rintro ⟨tail, htail⟩
  obtain rfl : '*' = first := (List.cons.inj htail).1
  revert hfirst
  decide

theorem length_label_of_mem_domainRegex :
    ∀ label ∈ JavaScript.split value '.', JavaScript.length label ≤ 63 := by
  obtain ⟨labels, tld, hname, rfl⟩ := mem_domainRegex_iff.mp hvalue
  rw [JavaScript.split, splitOn_nameOf hname]
  intro label hlabel
  have hascii : ∀ c ∈ label, c.toNat < 0x80 := by
    intro c hc
    have hchar := isDomainChar_of_mem_domainRegex hvalue c
      (Foundation.mem_intercalate_of_mem ['.'] hlabel hc)
    have hrange := toNat_of_isDomainChar hchar
    omega
  rw [JavaScript.length_of_ascii hascii]
  rcases List.mem_append.mp hlabel with hregular | htop
  · exact (hname.regular label hregular).short
  · rw [List.mem_singleton.mp htop]
    exact hname.topLevel.short_enough

end

/-! ## The format of the agent -/

theorem validateLabel_false_iff :
    validateLabel false label = true ↔ IsLabel isAlphanumeric label := by
  simp only [validateLabel, Linux.isRegularLabel, Bool.and_eq_true, decide_eq_true_eq,
    Bool.false_eq_true, if_false, List.all_eq_true, Bool.or_eq_true, beq_iff_eq,
    Option.any_eq_true, bne_iff_ne]
  constructor
  · rintro ⟨⟨⟨⟨hshort, -⟩, -⟩, -⟩, ⟨hhead, hlast⟩, hchars⟩
    exact ⟨hchars, hhead, hlast, hshort⟩
  · rintro ⟨hchars, ⟨first, hhead, hfirst⟩, ⟨last, hlast, hend⟩, hshort⟩
    have hne : ∀ c, isAlphanumeric c = true → c ≠ '-' := by
      rintro c hc rfl
      revert hc
      decide
    refine ⟨⟨⟨⟨hshort, ?_⟩, ?_⟩, ?_⟩, ⟨⟨first, hhead, hfirst⟩, last, hlast, hend⟩, hchars⟩
    · exact List.length_pos_of_mem (List.mem_of_mem_head? hhead)
    · rw [hhead]
      exact fun h => hne first hfirst (Option.some.inj h)
    · rw [hlast]
      exact fun h => hne last hend (Option.some.inj h)

theorem validateLabel_true_iff :
    validateLabel true label = true ↔ IsTopLevel label := by
  simp only [validateLabel, Linux.isTopLevelLabel, Bool.and_eq_true, decide_eq_true_eq,
    if_true, List.all_eq_true, bne_iff_ne]
  constructor
  · rintro ⟨⟨⟨⟨hshort, -⟩, -⟩, -⟩, hlong, hletters⟩
    exact ⟨hlong, hshort, hletters⟩
  · rintro ⟨hlong, hshort, hletters⟩
    have hhyphen : '-' ∉ label := by
      intro hmem
      have hletter := hletters '-' hmem
      revert hletter
      decide
    refine ⟨⟨⟨⟨hshort, by omega⟩, ?_⟩, ?_⟩, hlong, hletters⟩
    · exact fun h => hhyphen (List.mem_of_mem_head? h)
    · exact fun h => hhyphen (List.mem_of_getLast? h)

/-- All labels but the last are checked as regular ones. -/
theorem validateLabels_concat (labels : List Text) (tld : Text) :
    Linux.validateLabels (labels ++ [tld]) = true ↔
      (∀ label ∈ labels, IsLabel isAlphanumeric label) ∧ IsTopLevel tld := by
  induction labels with
  | nil => simp [Linux.validateLabels, validateLabel_true_iff]
  | cons label rest ih =>
      have hmore : rest ++ [tld] = [] → False := by simp
      rw [List.cons_append, Linux.validateLabels, Bool.and_eq_true, validateLabel_false_iff, ih,
        List.forall_mem_cons, and_assoc]
      exact hmore

/-- The text up to a line break. -/
def firstLine (value : Text) : Text := value.takeWhile (· ≠ '\n')

theorem firstLine_of_not_mem (hline : '\n' ∉ value) : firstLine value = value := by
  rw [firstLine, List.takeWhile_eq_self_iff]
  intro c hc
  simpa using fun h : c = '\n' => hline (h ▸ hc)

theorem readLabels_nameOf (hname : IsName labels tld)
    (hvalue : firstLine value = nameOf labels tld ∨ firstLine value = nameOf labels tld ++ ['.']) :
    readLabels value = labels ++ [tld] := by
  have htld : tld ≠ [] := by
    rintro rfl
    have hlong := hname.topLevel.long_enough
    simp at hlong
  rw [firstLine] at hvalue
  rcases hvalue with hvalue | hvalue
  · rw [readLabels, hvalue, splitOn_nameOf hname]
    simp [htld]
  · have hfields : (nameOf labels tld ++ ['.']).splitOn '.' = labels ++ [tld] ++ [[]] := by
      have hjoin : nameOf labels tld ++ ['.'] = ['.'].intercalate (labels ++ [tld] ++ [[]]) := by
        rw [Foundation.intercalate_concat_eq, nameOf, List.append_nil,
          Foundation.flatMap_append_eq_intercalate (by simp)]
      rw [hjoin]
      refine List.splitOn_intercalate '.' ?_ (by simp)
      intro label hlabel
      rcases List.mem_append.mp hlabel with hin | hlast
      · exact hname.dot_not_mem label hin
      · rw [List.mem_singleton.mp hlast]
        exact List.not_mem_nil
    rw [readLabels, hvalue, hfields]
    simp

/-- The agent reads the labels of a name from its first line, and a dot at the end of
that line is lost. -/
theorem validateLabels_readLabels_iff (value : Text) :
    (2 ≤ (readLabels value).length ∧
        Linux.validateLabels (readLabels value) = true) ↔
      ∃ name ∈ domainRegex.lang, firstLine value = name ∨ firstLine value = name ++ ['.'] := by
  constructor
  · rintro ⟨hcount, hvalid⟩
    obtain hnil | ⟨labels, tld, hlabels⟩ := List.eq_nil_or_concat (readLabels value)
    · rw [hnil] at hcount
      simp at hcount
    rw [List.concat_eq_append] at hlabels
    rw [hlabels, validateLabels_concat] at hvalid
    rw [hlabels, List.length_append, List.length_singleton] at hcount
    have hname : IsName labels tld := ⟨List.ne_nil_of_length_pos (by omega), hvalid.1, hvalid.2⟩
    refine ⟨nameOf labels tld, mem_domainRegex_iff.mpr ⟨labels, tld, hname, rfl⟩, ?_⟩
    have hjoin : ['.'].intercalate ((firstLine value).splitOn '.') = firstLine value :=
      List.intercalate_splitOn '.'
    rw [readLabels, ← firstLine] at hlabels
    split at hlabels
    · rename_i hlast
      -- the line ends in a dot, so that the last of its fields is empty
      obtain ⟨front, hfront⟩ := List.getLast?_eq_some_iff.mp hlast
      rw [hfront, List.dropLast_concat] at hlabels
      right
      rw [← hjoin, hfront, hlabels, Foundation.intercalate_concat_eq, List.append_nil,
        Foundation.flatMap_append_eq_intercalate (by simp), nameOf]
    · left
      rw [← hjoin, hlabels, nameOf]
  · rintro ⟨name, hmem, hvalue⟩
    obtain ⟨labels, tld, hname, rfl⟩ := mem_domainRegex_iff.mp hmem
    rw [readLabels_nameOf hname hvalue, validateLabels_concat, List.length_append,
      List.length_singleton]
    have hpos := List.length_pos_of_ne_nil hname.nonempty
    exact ⟨by omega, hname.regular, hname.topLevel⟩

/-- What the agent asks of a value. -/
structure AgentAccepts (value : Text) : Prop where
  long_enough : 4 ≤ value.length
  short_enough : value.length ≤ 253
  not_local : ¬ ".local".toList <:+ value
  no_consecutive_dots : ¬ "..".toList <:+: Linux.checkedDomain value
  format : ∃ name ∈ domainRegex.lang,
    firstLine (Linux.checkedDomain value) = name ∨
      firstLine (Linux.checkedDomain value) = name ++ ['.']

theorem validateDomain_iff (value : Text) :
    Linux.validateDomain value = true ↔ AgentAccepts value := by
  have hchecked : (if "*.".toList.isPrefixOf value then value.drop 2 else value) =
      checkedDomain value := rfl
  have hread := validateLabels_readLabels_iff (checkedDomain value)
  have hdots : (!JavaScript.includes (checkedDomain value) "..".toList) = true ↔
      ¬ "..".toList <:+: checkedDomain value := by
    rw [← JavaScript.includes_iff, Bool.not_eq_true', Bool.not_eq_true]
  have hlocal : (!".local".toList.isSuffixOf value) = true ↔ ¬ ".local".toList <:+ value := by
    rw [← List.isSuffixOf_iff_suffix, Bool.not_eq_true', Bool.not_eq_true]
  rw [Linux.validateDomain, hchecked]
  simp only [Bool.and_eq_true, decide_eq_true_eq, hdots, hlocal, bne_iff_ne]
  constructor
  · rintro ⟨⟨⟨⟨⟨⟨⟨⟨-, hlong⟩, hshort⟩, -⟩, -⟩, hnotLocal⟩, hnoDots⟩, hcount⟩, hvalid⟩
    exact ⟨hlong, hshort, hnotLocal, hnoDots, hread.mp ⟨hcount, hvalid⟩⟩
  · rintro ⟨hlong, hshort, hnotLocal, hnoDots, hformat⟩
    obtain ⟨hcount, hvalid⟩ := hread.mpr hformat
    refine ⟨⟨⟨⟨⟨⟨⟨⟨?_, hlong⟩, hshort⟩, ?_⟩, ?_⟩, hnotLocal⟩, hnoDots⟩, hcount⟩, hvalid⟩
    · cases value with
      | nil => simp at hlong
      | cons c rest => rfl
    · rintro rfl
      revert hlong
      decide
    · rintro rfl
      revert hlong
      decide

/-! ## Values that the server accepts -/

theorem newline_not_mem_of_mem_domainRegex (hvalue : value ∈ domainRegex.lang) : '\n' ∉ value := by
  intro hline
  have hchar := isDomainChar_of_mem_domainRegex hvalue _ hline
  revert hchar
  decide

theorem checkedDomain_of_mem_domainRegex (hvalue : value ∈ domainRegex.lang) :
    checkedDomain value = value := by
  rw [checkedDomain, if_neg]
  rw [List.isPrefixOf_iff_prefix]
  exact not_wildcard_of_mem_domainRegex hvalue

/-- The agent checks of a value in the subdomain format the domain behind the
wildcard. -/
theorem checkedDomain_of_mem_subdomainRegex (hvalue : value ∈ subdomainRegex.lang) :
    checkedDomain value ∈ domainRegex.lang := by
  rcases mem_subdomainRegex_iff.mp hvalue with hdomain | ⟨domain, hdomain, rfl⟩
  · rw [checkedDomain_of_mem_domainRegex hdomain]
    exact hdomain
  · exact hdomain

theorem checkedDomain_suffix (value : Text) : checkedDomain value <:+ value := by
  rw [checkedDomain]
  split
  · exact List.drop_suffix 2 value
  · exact List.suffix_refl value

theorem length_of_mem_subdomainRegex (hvalue : value ∈ subdomainRegex.lang) :
    JavaScript.length value = value.length := by
  have hdomain : ∀ domain ∈ domainRegex.lang, ∀ c ∈ domain, c.toNat < 0x80 := by
    intro domain hdomain c hc
    have hrange := toNat_of_isDomainChar (isDomainChar_of_mem_domainRegex hdomain c hc)
    omega
  refine JavaScript.length_of_ascii fun c hc => ?_
  rcases mem_subdomainRegex_iff.mp hvalue with hplain | ⟨domain, hmem, rfl⟩
  · exact hdomain value hplain c hc
  · rcases List.mem_append.mp hc with hmarker | hrest
    · have hall : ("*.".toList.all fun d => d.toNat < 0x80) = true := by decide
      simpa using List.all_eq_true.mp hall c hmarker
    · exact hdomain domain hmem c hrest

/-- The subdomain validator is the more generous of the two. -/
theorem accepts_subdomain_of_isDomain (hvalue : IsDomain value) : subdomainCheck.Accepts value  where
  long_enough := hvalue.long_enough
  short_enough := hvalue.short_enough
  no_consecutive_dots := hvalue.no_consecutive_dots
  format := mem_subdomainRegex_iff.mpr (Or.inl hvalue.format)
  labels := by
    have hstrip : Foundation.stripPrefix "*.".toList value = value :=
      Foundation.stripPrefix_of_not_prefix (not_wildcard_of_mem_domainRegex hvalue.format)
    intro label hlabel
    exact hvalue.labels label (hstrip ▸ hlabel)

/-- Of what the subdomain validator accepts, the domain validator rejects the
wildcards. -/
theorem isDomain_iff (hvalue : subdomainCheck.Accepts value) :
    IsDomain value ↔ ¬ "*.".toList <+: value := by
  refine ⟨fun hdomain => not_wildcard_of_mem_domainRegex hdomain.format, fun hplain => ?_⟩
  have hformat : value ∈ domainRegex.lang := by
    rcases mem_subdomainRegex_iff.mp hvalue.format with hdomain | ⟨domain, -, rfl⟩
    · exact hdomain
    · exact absurd (List.prefix_append _ _) hplain
  exact ⟨hvalue.long_enough, hvalue.short_enough, hvalue.no_consecutive_dots, hformat,
    length_label_of_mem_domainRegex hformat⟩

/-- The agent takes each value that the subdomain validator accepts but for the names
under `.local`. -/
theorem agentAccepts_iff_of_subdomain (hvalue : subdomainCheck.Accepts value) :
    AgentAccepts value ↔ ¬ ".local".toList <:+ value := by
  refine ⟨AgentAccepts.not_local, fun hlocal => ?_⟩
  have hlength := length_of_mem_subdomainRegex hvalue.format
  have hchecked := checkedDomain_of_mem_subdomainRegex hvalue.format
  refine ⟨hlength ▸ hvalue.long_enough, hlength ▸ hvalue.short_enough, hlocal, ?_, ?_⟩
  · exact fun hdots =>
      hvalue.no_consecutive_dots (hdots.trans (checkedDomain_suffix value).isInfix)
  · refine ⟨_, hchecked, Or.inl (firstLine_of_not_mem ?_)⟩
    exact newline_not_mem_of_mem_domainRegex hchecked

/-! ## The value after `sanitize_domain` -/

theorem sanitizeDomain_of_mem_domainRegex (hvalue : value ∈ domainRegex.lang) :
    Linux.sanitizeDomain value = value := by
  rw [Linux.sanitizeDomain, List.filter_eq_self]
  intro c hc
  have hchar := isDomainChar_of_mem_domainRegex hvalue c hc
  simp only [isDomainChar, Bool.or_eq_true] at hchar ⊢
  tauto

theorem not_agentAccepts_dot (value : Text) : ¬ AgentAccepts ('.' :: value) := by
  intro haccepts
  have hchecked : checkedDomain ('.' :: value) = '.' :: value := rfl
  have hline : firstLine ('.' :: value) = '.' :: firstLine value := rfl
  obtain ⟨name, hname, hread⟩ := haccepts.format
  rw [hchecked, hline] at hread
  obtain ⟨first, rest, rfl, hfirst⟩ := head_of_mem_domainRegex hname
  obtain rfl : '.' = first := by
    rcases hread with hread | hread
    · exact (List.cons.inj hread).1
    · exact (List.cons.inj hread).1
  revert hfirst
  decide

theorem agentAccepts_sanitizeDomain_iff (hvalue : subdomainCheck.Accepts value) :
    AgentAccepts (Linux.sanitizeDomain value) ↔
      ¬ ".local".toList <:+ value ∧ ¬ "*.".toList <+: value := by
  rcases mem_subdomainRegex_iff.mp hvalue.format with hdomain | ⟨domain, hdomain, rfl⟩
  · rw [sanitizeDomain_of_mem_domainRegex hdomain, agentAccepts_iff_of_subdomain hvalue]
    exact (and_iff_left (not_wildcard_of_mem_domainRegex hdomain)).symm
  · have hsanitized : Linux.sanitizeDomain ("*.".toList ++ domain) = '.' :: domain :=
      congrArg (List.cons '.') (sanitizeDomain_of_mem_domainRegex hdomain)
    rw [hsanitized]
    exact iff_of_false (not_agentAccepts_dot domain)
      fun hplain => hplain.2 (List.prefix_append _ _)

/-! ## Values that the agent accepts -/

/-- A wildcard in front of a domain does not bring two dots together. -/
theorem no_consecutive_dots_wildcard {domain : Text} (hdomain : domain ∈ domainRegex.lang)
    (hdots : ¬ "..".toList <:+: domain) : ¬ "..".toList <:+: "*.".toList ++ domain := by
  obtain ⟨first, rest, rfl, hfirst⟩ := head_of_mem_domainRegex hdomain
  intro hinfix
  have hlist : ['.', '.'] <:+: '*' :: '.' :: first :: rest := hinfix
  rcases List.infix_cons_iff.mp hlist with hstart | hlist
  · have hstar := (List.cons_prefix_cons.mp hstart).1
    revert hstar
    decide
  rcases List.infix_cons_iff.mp hlist with hstart | hlist
  · obtain ⟨hdot, -⟩ := List.cons_prefix_cons.mp (List.cons_prefix_cons.mp hstart).2
    revert hfirst
    rw [← hdot]
    decide
  · exact hdots hlist

/-- On one line and without a dot at its end, each value that the agent accepts is in
the subdomain format. -/
theorem accepts_subdomain_of_agent (haccepts : AgentAccepts value) (hline : '\n' ∉ value)
    (hend : value.getLast? ≠ some '.') :
    subdomainCheck.Accepts value := by
  have hsuffix := checkedDomain_suffix value
  obtain ⟨name, hname, hread⟩ := haccepts.format
  rw [firstLine_of_not_mem fun h => hline (hsuffix.subset h)] at hread
  have hchecked : checkedDomain value = name := by
    rcases hread with hread | hread
    · exact hread
    · obtain ⟨front, hfront⟩ := hsuffix
      rw [← hfront, hread, ← List.append_assoc, List.getLast?_concat] at hend
      exact absurd rfl hend
  rw [← hchecked] at hname
  have hvalue : value = checkedDomain value ∨
      value = "*.".toList ++ checkedDomain value := by
    rw [checkedDomain]
    split
    · rename_i hwildcard
      obtain ⟨rest, rfl⟩ := List.isPrefixOf_iff_prefix.mp hwildcard
      exact Or.inr rfl
    · exact Or.inl rfl
  have hformat : value ∈ subdomainRegex.lang := by
    rw [mem_subdomainRegex_iff]
    rcases hvalue with hsame | hwildcard
    · exact Or.inl (hsame ▸ hname)
    · exact Or.inr ⟨_, hname, hwildcard⟩
  have hlength := length_of_mem_subdomainRegex hformat
  refine ⟨hlength.symm ▸ haccepts.long_enough, hlength.symm ▸ haccepts.short_enough, ?_, hformat, ?_⟩
  · rcases hvalue with hsame | hwildcard
    · rw [hsame]
      exact haccepts.no_consecutive_dots
    · rw [hwildcard]
      exact no_consecutive_dots_wildcard hname haccepts.no_consecutive_dots
  · have hstrip : Foundation.stripPrefix "*.".toList value = checkedDomain value := by
      rcases hvalue with hsame | hwildcard
      · rw [← hsame]
        refine Foundation.stripPrefix_of_not_prefix (not_wildcard_of_mem_domainRegex ?_)
        exact hsame ▸ hname
      · rw [hwildcard]
        exact Foundation.stripPrefix_append _ _
    change ∀ label ∈ JavaScript.split (Foundation.stripPrefix "*.".toList value) '.', _
    rw [hstrip]
    exact length_label_of_mem_domainRegex hname

/-! ## Stored rules -/

open Api.StoredRules (WellBehaved)

/-- The rules that the agent reads as domains. -/
def IsDomainRule (type : RuleType) : Prop := type = .whitelist ∨ type = .blockedSubdomain

/-- The agent takes a value: every one that does not lie under `.local`, and after
`sanitize_domain` every one of these that has no wildcard. -/
structure AgentTakes (value : Text) : Prop where
  plain : Linux.validateDomain value = true ↔ ¬ ".local".toList <:+ value
  sanitized : Linux.validateDomain (Linux.sanitizeDomain value) = true ↔
    ¬ ".local".toList <:+ value ∧ ¬ "*.".toList <+: value

theorem agentTakes_of_valid {type : RuleType} (htype : IsDomainRule type)
    (hvalid : valid (validateAs type value) = true) : AgentTakes value := by
  have haccepts : subdomainCheck.Accepts value := by
    rcases htype with rfl | rfl
    · exact accepts_subdomain_of_isDomain ((valid_validateDomain_iff value).mp hvalid)
    · exact (valid_validateSubdomain_iff value).mp hvalid
  constructor
  · rw [validateDomain_iff]
    exact agentAccepts_iff_of_subdomain haccepts
  · rw [validateDomain_iff]
    exact agentAccepts_sanitizeDomain_iff haccepts

/-- The validators agree but for the names under `.local` and for wildcards: on the
values the server accepts, on the values it stores, and on the single lines the agent
accepts. -/
theorem validators_agree :
    (∀ type value, IsDomainRule type → valid (validateAs type value) = true →
      AgentTakes value) ∧
    (∀ store, Api.StoredRules.calls.ReachableBy WellBehaved store →
      ∀ row ∈ store.rules, IsDomainRule row.type →
        valid (validateAs row.type row.value.text) = true ∧ AgentTakes row.value.text) ∧
    ∀ value, Linux.validateDomain value = true → '\n' ∉ value → value.getLast? ≠ some '.' →
      valid (validateSubdomain value) = true ∧
        (valid (validateDomain value) = true ↔ ¬ "*.".toList <+: value) := by
  refine ⟨fun type value => agentTakes_of_valid, ?_, ?_⟩
  · intro store hreach row hrow htype
    have haccepted :=
      ((Api.StoredRules.invariant_of_wellBehaved hreach).normal row hrow).accepted
    exact ⟨haccepted, agentTakes_of_valid htype haccepted⟩
  · intro value hvalid hline hend
    have haccepts := accepts_subdomain_of_agent ((validateDomain_iff value).mp hvalid) hline hend
    refine ⟨(valid_validateSubdomain_iff value).mpr haccepts, ?_⟩
    rw [valid_validateDomain_iff]
    exact isDomain_iff haccepts

/-- One run that stores a domain, a subdomain with a wildcard, and a line that the
agent accepts. -/
theorem validators_agree_example :
    Linux.validateDomain "example.com".toList = true ∧
      Linux.validateDomain (Linux.sanitizeDomain "*.ads.example.com".toList) = false ∧
      valid (validateSubdomain "*.example.com".toList) = true := by
  have hstore : Api.StoredRules.calls.ReachableBy WellBehaved
      (Api.StoredRules.serve Api.StoredRules.oneGroup
        (Api.StoredRules.createCall " HTTPS://Example.com/ ")) := by
    refine (Foundation.TransitionSystem.ReachableBy.start rfl).step ?_ rfl
    intro _
    exact ⟨by decide +kernel, by decide +kernel, by decide, fun _ => by decide⟩
  have hrow : ∃ row ∈ (Api.StoredRules.serve Api.StoredRules.oneGroup
      (Api.StoredRules.createCall " HTTPS://Example.com/ ")).rules,
      row.type = .whitelist ∧ row.value.text = "example.com".toList := by
    decide +kernel
  obtain ⟨row, hmem, htype, htext⟩ := hrow
  have hstored := (validators_agree.2.1 _ hstore row hmem (Or.inl htype)).2.plain
  have hwildcard := (validators_agree.1 .blockedSubdomain "*.ads.example.com".toList
    (Or.inr rfl) (by decide)).sanitized
  refine ⟨?_, ?_, ?_⟩
  · rw [htext] at hstored
    exact hstored.mpr (by decide)
  · rw [Bool.eq_false_iff]
    exact fun h => (hwildcard.mp h).2 (by decide)
  · exact (validators_agree.2.2 "*.example.com".toList (by decide) (by decide)
      (by decide)).1

/-- The server stores a name under `.local`, which the agent skips, and the agent takes
a wildcard that the domain validator rejects. -/
theorem stored_local_name :
    (∃ store, Api.StoredRules.calls.Reachable store ∧ ∃ row ∈ store.rules,
      row.type = .whitelist ∧ Linux.validateDomain row.value.text = false ∧
        Linux.validateDomain (Linux.sanitizeDomain row.value.text) = false) ∧
      Linux.validateDomain "*.example.com".toList = true ∧
      valid (validateDomain "*.example.com".toList) = false := by
  refine ⟨⟨_, Api.StoredRules.oneGroup_reachable (Api.StoredRules.createCall "printer.local"), ?_⟩,
    by decide, by decide⟩
  decide

end OpenPath.Policy.DomainValidators
