/-
# Rule value validation

The validation that the server and its dashboard share for the four kinds of
rules: a value is cleaned (trimmed, lower-cased, a scheme and a trailing slash
removed) and what is left is checked against the format of its kind. Domain and
subdomain checks are one check with different formats and messages; so are the
two path checks, which differ in whether a `*` may stand for every host.

A value that cleaning leaves alone is described by `Clean`, and a value the
validators accept by `DomainFormat` and its relatives.
-/

import OpenPath.Foundation.Regex
import OpenPath.Text.JavaScript

namespace OpenPath.RulesValidation

open Foundation JavaScript
open Ascii (isLetter isDigit isAlphanumeric)

/-- The rule types supported by whitelist groups. -/
inductive RuleType
  | whitelist
  | blockedSubdomain
  | blockedPath
  | allowedPath
  deriving DecidableEq, Repr

inductive RuleValidationCode
  | empty
  | domainTooShort
  | domainTooLong
  | domainConsecutiveDots
  | domainInvalidFormat
  | domainLabelTooLong
  | subdomainTooShort
  | subdomainTooLong
  | subdomainConsecutiveDots
  | subdomainInvalidFormat
  | subdomainLabelTooLong
  | pathMissingSlash
  | pathInvalidDomain
  | pathEmpty
  | pathInvalidChars
  deriving DecidableEq, Repr

/-- What an unsuccessful validation reports. The details are the code and the
message of the domain check inside a path check. -/
structure RuleValidationError where
  code : RuleValidationCode
  error : String
  details : Option (RuleValidationCode × String)
  deriving DecidableEq, Repr

/-- Result of validating a rule value. -/
abbrev RuleValidationResult := Except RuleValidationError Unit

/-- Whether the result says `valid`. -/
def valid (result : RuleValidationResult) : Bool := result.isOk

/-! ## Patterns -/

/-- `[a-zA-Z0-9]` -/
def alphanumeric : Re Char := .sat isAlphanumeric

/-- `[a-zA-Z0-9-]` -/
def alphanumericHyphen : Re Char := .sat fun c => isAlphanumeric c || c == '-'

/-- `[a-zA-Z0-9](?:[a-zA-Z0-9-]{0,61}[a-zA-Z0-9])?\.` -/
def dottedLabel : Re Char :=
  .cat (.cat alphanumeric (.opt (.cat (alphanumericHyphen.between 0 61) alphanumeric)))
    (.lit '.')

/-- `^(?:[a-zA-Z0-9](?:[a-zA-Z0-9-]{0,61}[a-zA-Z0-9])?\.)+[a-zA-Z]{2,63}$` -/
def domainRegex : Re Char :=
  .cat dottedLabel.plus ((Re.sat isLetter).between 2 63)

/-- `DOMAIN_REGEX` with an optional `*.` before it. -/
def subdomainRegex : Re Char :=
  .cat (.opt (.word "*.".toList)) domainRegex

/-- `^[^\s]+$` -/
def pathSegmentRegex : Re Char := (Re.sat fun c => !isSpace c).plus

/-! ## Cleaning -/

/-- `replace(/^https?:\/\//, '')` -/
def stripHttp (value : Text) : Text :=
  if "http://".toList <+: value then value.drop 7
  else if "https://".toList <+: value then value.drop 8
  else value

/-- `replace(/^\*:\/\//, '')` -/
def stripAnyScheme (value : Text) : Text := stripPrefix "*://".toList value

/-- `replace(/\/$/, '')` -/
def stripTrailingSlash (value : Text) : Text :=
  if value.getLast? = some '/' then value.dropLast else value

/-- Clean and normalize a rule value. -/
def cleanRuleValue (value : Text) (preservePath : Bool) : Text :=
  let cleaned := toLowerCase (trim value)
  let cleaned := stripHttp cleaned
  let cleaned := stripAnyScheme cleaned
  if preservePath then cleaned else stripTrailingSlash cleaned

/-! ## Validators -/

def fail (code : RuleValidationCode) (error : String) : RuleValidationResult :=
  .error { code, error, details := none }

/-- The check that domains and subdomains share: the codes and messages of its
five failures, the format, and the text whose labels are measured. -/
structure HostCheck where
  tooShort : RuleValidationCode × String
  tooLong : RuleValidationCode × String
  consecutiveDots : RuleValidationCode × String
  invalidFormat : RuleValidationCode × String
  labelTooLong : RuleValidationCode × String
  regex : Re Char
  labelled : Text → Text

def HostCheck.validate (check : HostCheck) (value : Text) : RuleValidationResult :=
  if length value < 4 then fail check.tooShort.1 check.tooShort.2
  else if length value > 253 then fail check.tooLong.1 check.tooLong.2
  else if includes value "..".toList then
    fail check.consecutiveDots.1 check.consecutiveDots.2
  else if !check.regex.accepts value then
    fail check.invalidFormat.1 check.invalidFormat.2
  else if (split (check.labelled value) '.').any fun label => length label > 63 then
    fail check.labelTooLong.1 check.labelTooLong.2
  else .ok ()

def domainCheck : HostCheck where
  tooShort := (.domainTooShort, "Domain too short (minimum 4 characters)")
  tooLong := (.domainTooLong, "Domain exceeds maximum length of 253 characters")
  consecutiveDots :=
    (.domainConsecutiveDots, "Domain cannot contain consecutive dots (..)")
  invalidFormat := (.domainInvalidFormat, "Invalid domain format. Example: example.com")
  labelTooLong := (.domainLabelTooLong, "Each domain label must be 63 characters or less")
  regex := domainRegex
  labelled := id

def subdomainCheck : HostCheck where
  tooShort := (.subdomainTooShort, "Subdomain too short (minimum 4 characters)")
  tooLong := (.subdomainTooLong, "Subdomain exceeds maximum length of 253 characters")
  consecutiveDots :=
    (.subdomainConsecutiveDots, "Subdomain cannot contain consecutive dots (..)")
  invalidFormat :=
    (.subdomainInvalidFormat,
      "Invalid subdomain format. Example: sub.example.com or *.example.com")
  labelTooLong :=
    (.subdomainLabelTooLong, "Each subdomain label must be 63 characters or less")
  regex := subdomainRegex
  labelled := stripPrefix "*.".toList

/-- Validate that a domain string is well-formed. -/
def validateDomain (domain : Text) : RuleValidationResult := domainCheck.validate domain

/-- Validate that a subdomain pattern is well-formed. -/
def validateSubdomain (value : Text) : RuleValidationResult := subdomainCheck.validate value

/-- The text before the first slash. -/
def domainPart (value : Text) : Text := value.takeWhile (· != '/')

/-- The text after the first slash. -/
def pathPart (value : Text) : Text := (value.dropWhile (· != '/')).tail

/-- The domain part of a path: `globalHost` tells whether `*` may stand for
every host. -/
def validateHost (globalHost : Bool) (domain : Text) : RuleValidationResult :=
  if globalHost && domain == ['*'] then .ok () else validateDomain domain

/-- The check that blocked and allowed paths share. -/
def validateHostPath (globalHost : Bool) (value : Text) : RuleValidationResult :=
  if '/' ∉ value then
    fail .pathMissingSlash "Path must contain a slash (/). Example: example.com/path"
  else
    match validateHost globalHost (domainPart value) with
    | .error domainError =>
        .error
          { code := .pathInvalidDomain
            error := "Invalid domain in path: " ++ domainError.error
            details := some (domainError.code, domainError.error) }
    | .ok () =>
        if pathPart value = [] then fail .pathEmpty "Path after domain cannot be empty"
        else if !pathSegmentRegex.accepts (pathPart value) then
          fail .pathInvalidChars "Path contains invalid characters (whitespace)"
        else .ok ()

/-- Validate a blocked path. Global wildcard paths like `*/ads/*` are allowed. -/
def validatePath (value : Text) : RuleValidationResult := validateHostPath true value

/-- Validate an allowed path, which must target a specific host. -/
def validateAllowedPath (value : Text) : RuleValidationResult := validateHostPath false value

/-- The validator of a rule type, applied to a value as it stands. -/
def validateAs : RuleType → Text → RuleValidationResult
  | .whitelist => validateDomain
  | .blockedSubdomain => validateSubdomain
  | .blockedPath => validatePath
  | .allowedPath => validateAllowedPath

/-- Validate a rule value based on its type. Cleans the value first, then
applies type-specific format validation. -/
def validateRuleValue (value : Text) (type : RuleType) : RuleValidationResult :=
  let cleaned :=
    if type = .blockedPath ∨ type = .allowedPath then cleanRuleValue value true
    else cleanRuleValue value false
  if cleaned = [] then fail .empty "Value cannot be empty"
  else validateAs type cleaned

/-! ## What the formats admit -/

/-- The characters of a domain. -/
def isDomainChar (c : Char) : Bool :=
  isAlphanumeric c || c == '-' || c == '.'

variable {c : Char}

theorem toNat_of_isDomainChar (hc : isDomainChar c = true) :
    (0x2d ≤ c.toNat ∧ c.toNat ≤ 0x2e) ∨ (0x30 ≤ c.toNat ∧ c.toNat ≤ 0x39) ∨
      (0x41 ≤ c.toNat ∧ c.toNat ≤ 0x5a) ∨ (0x61 ≤ c.toNat ∧ c.toNat ≤ 0x7a) := by
  simp only [isDomainChar, Bool.or_eq_true, beq_iff_eq] at hc
  rcases hc with (hc | rfl) | rfl
  · exact Or.inr (Ascii.toNat_of_isAlphanumeric hc)
  · decide
  · decide

theorem isSpace_of_isDomainChar (hc : isDomainChar c = true) : isSpace c = false := by
  have hrange := toNat_of_isDomainChar hc
  simp only [isSpace, Bool.or_eq_false_iff, Bool.and_eq_false_iff, decide_eq_false_iff_not,
    beq_eq_false_iff_ne]
  omega

theorem dottedLabel_over : dottedLabel.Over fun c => isDomainChar c = true := by
  have hplain : alphanumeric.Over fun c => isDomainChar c = true := by
    intro c hc
    simp_all [isDomainChar]
  have hhyphen : alphanumericHyphen.Over fun c => isDomainChar c = true := by
    intro c hc
    simp_all [isDomainChar]
  have hdot : (Re.lit '.').Over fun c => isDomainChar c = true := by
    intro c hc
    simp_all [isDomainChar]
  exact ⟨⟨hplain, trivial, hhyphen.between 0 61, hplain⟩, hdot⟩

variable {value : Text}

section

variable (hvalue : value ∈ domainRegex.lang)
include hvalue

theorem isDomainChar_of_mem_domainRegex :
    ∀ c ∈ value, isDomainChar c = true := by
  have hletter : (Re.sat isLetter).Over fun c => isDomainChar c = true := by
    intro c hc
    simp [isDomainChar, isAlphanumeric, hc]
  have hover : domainRegex.Over fun c => isDomainChar c = true :=
    ⟨⟨dottedLabel_over, dottedLabel_over⟩, hletter.between 2 63⟩
  exact Re.forall_mem_of_over hover hvalue

theorem getLast_of_mem_domainRegex : ∃ c, value.getLast? = some c ∧ isLetter c = true := by
  obtain ⟨front, -, tld, htld, rfl⟩ := (Re.mem_lang_cat _ _ _).mp hvalue
  have hlength := Re.le_length_of_mem_between_sat htld
  have nonempty : tld ≠ [] := by
    rintro rfl
    simp at hlength
  have hletters : ∀ c ∈ tld, isLetter c = true :=
    Re.forall_mem_of_over (Re.Over.between (r := Re.sat isLetter) (fun c hc => hc) 2 63) htld
  refine ⟨tld.getLast nonempty, ?_, hletters _ (List.getLast_mem nonempty)⟩
  rw [List.getLast?_append_of_ne_nil _ nonempty, List.getLast?_eq_some_getLast nonempty]

/-- A domain starts with a letter or a digit, and ends in a dot and letters. -/
theorem mem_domainRegex_shape :
    ∃ first middle tld, value = first :: (middle ++ '.' :: tld) ∧ isAlphanumeric first = true ∧
      (∀ c ∈ tld, isLetter c = true) ∧ 2 ≤ tld.length := by
  have hlabel : ∀ label ∈ dottedLabel.lang,
      ∃ first middle, label = first :: (middle ++ ['.']) ∧ isAlphanumeric first = true := by
    intro label hmem
    obtain ⟨front, hfront, dot, hdot, rfl⟩ := (Re.mem_lang_cat _ _ _).mp hmem
    obtain ⟨u, ⟨first, rfl, hfirst⟩, middle, -, rfl⟩ := (Re.mem_lang_cat _ _ _).mp hfront
    obtain rfl := (Re.mem_lang_lit _ _).mp hdot
    exact ⟨first, middle, rfl, hfirst⟩
  obtain ⟨front, hfront, tld, htld, rfl⟩ := (Re.mem_lang_cat _ _ _).mp hvalue
  have hletters : ∀ c ∈ tld, isLetter c = true :=
    Re.forall_mem_of_over (Re.Over.between (r := Re.sat isLetter) (fun c hc => hc) 2 63) htld
  have hlength := Re.le_length_of_mem_between_sat htld
  obtain ⟨label, hmem, rest, hrest, rfl⟩ := (Re.mem_lang_plus _ _).mp hfront
  obtain ⟨first, middle, rfl, hfirst⟩ := hlabel label hmem
  obtain ⟨parts, rfl, hparts⟩ := (Re.mem_lang_star _ _).mp hrest
  rcases List.eq_nil_or_concat parts with rfl | ⟨init, last, rfl⟩
  · exact ⟨first, middle, tld, by simp, hfirst, hletters, hlength⟩
  · obtain ⟨lastFirst, lastMiddle, rfl, -⟩ := hlabel last (hparts last (by simp))
    refine ⟨first, middle ++ '.' :: (init.flatten ++ lastFirst :: lastMiddle), tld, ?_, hfirst,
      hletters, hlength⟩
    simp

end

/-- The words of the subdomain format are those of the domain format, with or
without a wildcard label. -/
theorem mem_subdomainRegex_iff :
    value ∈ subdomainRegex.lang ↔
      value ∈ domainRegex.lang ∨
        ∃ domain ∈ domainRegex.lang, value = "*.".toList ++ domain := by
  simp only [subdomainRegex, Re.mem_lang_cat, Re.mem_lang_opt, Re.mem_lang_word]
  refine ⟨?_, ?_⟩
  · rintro ⟨marker, rfl | rfl, domain, hdomain, rfl⟩
    · exact Or.inl hdomain
    · exact Or.inr ⟨domain, hdomain, rfl⟩
  · rintro (hdomain | ⟨domain, hdomain, rfl⟩)
    · exact ⟨[], Or.inl rfl, value, hdomain, rfl⟩
    · exact ⟨_, Or.inr rfl, domain, hdomain, rfl⟩

/-- What a host check asks of a value. -/
structure HostCheck.Accepts (check : HostCheck) (value : Text) : Prop where
  long_enough : 4 ≤ length value
  short_enough : length value ≤ 253
  no_consecutive_dots : ¬ "..".toList <:+: value
  format : value ∈ check.regex.lang
  labels : ∀ label ∈ split (check.labelled value) '.', length label ≤ 63

theorem HostCheck.valid_validate_iff (check : HostCheck) (value : Text) :
    valid (check.validate value) = true ↔ check.Accepts value := by
  unfold HostCheck.validate
  refine ⟨?_, ?_⟩
  · intro hvalid
    split at hvalid
    · cases hvalid
    split at hvalid
    · cases hvalid
    split at hvalid
    · cases hvalid
    split at hvalid
    · cases hvalid
    split at hvalid
    · cases hvalid
    rename_i hshort hlong hdots hformat hlabels
    refine ⟨by omega, by omega, ?_, ?_, ?_⟩
    · rwa [← includes_iff]
    · simpa [Re.accepts_iff] using hformat
    · simpa using hlabels
  · rintro ⟨hlong, hshort, hdots, hformat, hlabels⟩
    have hdots' : includes value "..".toList = false := by
      rw [Bool.eq_false_iff]
      exact fun h => hdots (includes_iff.mp h)
    have hlabels' : ((split (check.labelled value) '.').any fun label => length label > 63)
        = false := by
      simpa using hlabels
    rw [if_neg (by omega), if_neg (by omega), hdots', (Re.accepts_iff _ _).mpr hformat, hlabels']
    rfl

/-- A valid domain. -/
def IsDomain (value : Text) : Prop := domainCheck.Accepts value

theorem valid_validateDomain_iff (value : Text) :
    valid (validateDomain value) = true ↔ IsDomain value :=
  domainCheck.valid_validate_iff value

/-- A value in the form `domain/path` that a path check accepts. -/
structure IsHostPath (globalHost : Bool) (domain path : Text) : Prop where
  host : (globalHost = true ∧ domain = ['*']) ∨ IsDomain domain
  nonempty : path ≠ []
  no_space : ∀ c ∈ path, isSpace c = false

theorem IsDomain.isDomainChar (hvalue : IsDomain value) :
    ∀ c ∈ value, isDomainChar c = true :=
  isDomainChar_of_mem_domainRegex hvalue.format

theorem not_mem_of_isDomain (hvalue : IsDomain value)
    (hc : RulesValidation.isDomainChar c = false) : c ∉ value := by
  intro hmember
  rw [hvalue.isDomainChar c hmember] at hc
  cases hc

theorem mem_pathSegmentRegex_iff (path : Text) :
    path ∈ pathSegmentRegex.lang ↔ path ≠ [] ∧ ∀ c ∈ path, isSpace c = false := by
  simp only [pathSegmentRegex, Re.mem_lang_plus, Re.mem_lang_sat, Re.mem_lang_star_sat]
  refine ⟨?_, ?_⟩
  · rintro ⟨u, ⟨c, rfl, hc⟩, v, hv, rfl⟩
    simp only [Bool.not_eq_true'] at hc hv
    simpa [hc] using hv
  · rintro ⟨nonempty, hall⟩
    obtain ⟨c, path, rfl⟩ := List.exists_cons_of_ne_nil nonempty
    exact ⟨[c], ⟨c, rfl, by simp [hall c]⟩, path,
      fun d hd => by simp [hall d (by simp [hd])], rfl⟩

variable {domain path : Text} {globalHost : Bool}

theorem IsHostPath.slash_not_mem (h : IsHostPath globalHost domain path) : '/' ∉ domain := by
  rcases h.host with ⟨-, rfl⟩ | hdomain
  · decide
  · exact not_mem_of_isDomain hdomain (by decide)

theorem domainPart_append (hslash : '/' ∉ domain) :
    domainPart (domain ++ '/' :: path) = domain := by
  have hall : ∀ c ∈ domain, (c != '/') = true := by
    intro c hc
    simp only [bne_iff_ne, ne_eq]
    rintro rfl
    exact hslash hc
  simp [domainPart, List.takeWhile_append_of_pos hall]

theorem pathPart_append (hslash : '/' ∉ domain) : pathPart (domain ++ '/' :: path) = path := by
  have hall : ∀ c ∈ domain, (c != '/') = true := by
    intro c hc
    simp only [bne_iff_ne, ne_eq]
    rintro rfl
    exact hslash hc
  simp [pathPart, List.dropWhile_append_of_pos hall]

theorem valid_validateHost_iff (globalHost : Bool) (domain : Text) :
    valid (validateHost globalHost domain) = true ↔
      (globalHost = true ∧ domain = ['*']) ∨ IsDomain domain := by
  by_cases hglobal : globalHost = true ∧ domain = ['*']
  · obtain ⟨rfl, rfl⟩ := hglobal
    simp [validateHost, valid, Except.isOk, Except.toBool]
  · have hcond : (globalHost && domain == ['*']) = false := by
      simpa using hglobal
    simp [validateHost, hcond, valid_validateDomain_iff, hglobal]

theorem valid_validateHostPath_iff (globalHost : Bool) (value : Text) :
    valid (validateHostPath globalHost value) = true ↔
      ∃ domain path, value = domain ++ '/' :: path ∧ IsHostPath globalHost domain path := by
  refine ⟨?_, ?_⟩
  · intro hvalid
    unfold validateHostPath at hvalid
    split at hvalid
    · cases hvalid
    rename_i hslash
    obtain ⟨domain, path, rfl, hdomain⟩ := List.eq_append_cons_of_mem (not_not.mp hslash)
    rw [domainPart_append hdomain, pathPart_append hdomain] at hvalid
    split at hvalid
    · cases hvalid
    rename_i hhost
    split at hvalid
    · cases hvalid
    rename_i hnonempty
    split at hvalid
    · cases hvalid
    rename_i hsegment
    have hpath : path ∈ pathSegmentRegex.lang := by
      simpa [Re.accepts_iff] using hsegment
    refine ⟨domain, path, rfl, ?_, hnonempty, ((mem_pathSegmentRegex_iff path).mp hpath).2⟩
    rw [← valid_validateHost_iff, hhost]
    rfl
  · rintro ⟨domain, path, rfl, hpath⟩
    have hhost := (valid_validateHost_iff globalHost domain).mpr hpath.host
    have hsegment : pathSegmentRegex.accepts path = true :=
      (Re.accepts_iff _ _).mpr
        ((mem_pathSegmentRegex_iff path).mpr ⟨hpath.nonempty, hpath.no_space⟩)
    unfold validateHostPath
    rw [domainPart_append hpath.slash_not_mem, pathPart_append hpath.slash_not_mem,
      if_neg (by simp)]
    cases hresult : validateHost globalHost domain with
    | error e =>
        rw [hresult] at hhost
        cases hhost
    | ok _ =>
        simp only [hpath.nonempty, if_false, hsegment]
        rfl

/-! ## Cleaning -/

/-- A value that cleaning leaves alone. -/
structure Clean (preservePath : Bool) (value : Text) : Prop where
  trimmed : Trimmed isSpace value
  lower : ∀ c ∈ value, Unicode.isLower c = true
  no_http : ¬ "http://".toList <+: value
  no_https : ¬ "https://".toList <+: value
  no_any : ¬ "*://".toList <+: value
  no_slash : preservePath = false → value.getLast? ≠ some '/'

theorem cleanRuleValue_eq (value : Text) (preservePath : Bool) :
    cleanRuleValue value preservePath =
      if preservePath then stripAnyScheme (stripHttp (toLowerCase (trim value)))
      else stripTrailingSlash (stripAnyScheme (stripHttp (toLowerCase (trim value)))) :=
  rfl

theorem stripHttp_suffix (value : Text) : stripHttp value <:+ value := by
  unfold stripHttp
  split
  · exact List.drop_suffix _ _
  split
  · exact List.drop_suffix _ _
  · exact List.suffix_refl value

theorem stripTrailingSlash_isPrefix (value : Text) : stripTrailingSlash value <+: value := by
  unfold stripTrailingSlash
  split
  · exact List.dropLast_prefix value
  · exact List.prefix_refl value

theorem cleanRuleValue_of_clean {preservePath : Bool} (hclean : Clean preservePath value) :
    cleanRuleValue value preservePath = value := by
  have htrim : trim value = value := trim_eq_self_iff.mpr hclean.trimmed
  have hlower : toLowerCase value = value := toLowerCase_of_isLower hclean.lower
  have hhttp : stripHttp value = value := by
    rw [stripHttp, if_neg hclean.no_http, if_neg hclean.no_https]
  have hany : stripAnyScheme value = value := stripPrefix_of_not_prefix hclean.no_any
  rw [cleanRuleValue_eq, htrim, hlower, hhttp, hany]
  cases preservePath with
  | true => rfl
  | false => simp [stripTrailingSlash, hclean.no_slash rfl]

theorem isLower_cleanRuleValue (value : Text) (preservePath : Bool) :
    ∀ c ∈ cleanRuleValue value preservePath, Unicode.isLower c = true := by
  intro c hc
  apply isLower_toLowerCase (trim value) c
  have hstripped : stripAnyScheme (stripHttp (toLowerCase (trim value))) <:+
      toLowerCase (trim value) :=
    (stripPrefix_suffix _ _).trans (stripHttp_suffix _)
  apply hstripped.subset
  rw [cleanRuleValue_eq] at hc
  split at hc
  · exact hc
  · exact (stripTrailingSlash_isPrefix _).subset hc

/-! ## Valid values are clean -/

theorem valid_validateSubdomain_iff (value : Text) :
    valid (validateSubdomain value) = true ↔ subdomainCheck.Accepts value :=
  subdomainCheck.valid_validate_iff value

theorem colon_not_mem_of_isHostPath (hpath : IsHostPath globalHost domain path) : ':' ∉ domain := by
  rcases hpath.host with ⟨-, rfl⟩ | hdomain
  · decide
  · exact not_mem_of_isDomain hdomain (by decide)

theorem colon_not_mem_of_mem_subdomainRegex (hvalue : value ∈ subdomainRegex.lang) : ':' ∉ value := by
  have hdomain : ∀ domain ∈ domainRegex.lang, ':' ∉ domain := by
    intro domain hdomain hcolon
    have := isDomainChar_of_mem_domainRegex hdomain ':' hcolon
    revert this
    decide
  rcases mem_subdomainRegex_iff.mp hvalue with hplain | ⟨domain, hmember, rfl⟩
  · exact hdomain value hplain
  · intro hcolon
    rcases List.mem_append.mp hcolon with hmarker | hrest
    · revert hmarker
      decide
    · exact hdomain domain hmember hrest

variable {type : RuleType}

theorem no_scheme_of_valid (hvalid : valid (validateAs type value) = true) (scheme : Text)
    (hslash : '/' ∉ scheme) (hcolon : ':' ∈ scheme) :
    ¬ scheme ++ "//".toList <+: value := by
  rintro ⟨rest, rfl⟩
  have hmember : ':' ∈ scheme ++ "//".toList ++ rest := by simp [hcolon]
  have hhost : ∀ globalHost domain path,
      scheme ++ "//".toList ++ rest = domain ++ '/' :: path →
      ¬ IsHostPath globalHost domain path := by
    intro globalHost domain path equal hpath
    have equal' : scheme ++ '/' :: ('/' :: rest) = domain ++ '/' :: path := by
      simpa using equal
    have hsame : domain = scheme :=
      calc
        domain = domainPart (domain ++ '/' :: path) :=
          (domainPart_append hpath.slash_not_mem).symm
        _ = domainPart (scheme ++ '/' :: ('/' :: rest)) := by rw [equal']
        _ = scheme := domainPart_append hslash
    exact colon_not_mem_of_isHostPath hpath (hsame ▸ hcolon)
  cases type with
  | whitelist =>
      have hdomain := (valid_validateDomain_iff _).mp hvalid
      exact not_mem_of_isDomain hdomain (by decide) hmember
  | blockedSubdomain =>
      have haccepts := (valid_validateSubdomain_iff _).mp hvalid
      exact colon_not_mem_of_mem_subdomainRegex haccepts.format hmember
  | blockedPath =>
      obtain ⟨domain, path, equal, hpath⟩ := (valid_validateHostPath_iff true _).mp hvalid
      exact hhost _ _ _ equal hpath
  | allowedPath =>
      obtain ⟨domain, path, equal, hpath⟩ := (valid_validateHostPath_iff false _).mp hvalid
      exact hhost _ _ _ equal hpath

theorem getLast_ne_slash_of_mem_domainRegex (hvalue : value ∈ domainRegex.lang) :
    value.getLast? ≠ some '/' := by
  obtain ⟨c, hlast, hletter⟩ := getLast_of_mem_domainRegex hvalue
  rw [hlast]
  rintro ⟨⟩
  revert hletter
  decide

theorem getLast_ne_slash_of_mem_subdomainRegex (hvalue : value ∈ subdomainRegex.lang) :
    value.getLast? ≠ some '/' := by
  rcases mem_subdomainRegex_iff.mp hvalue with hplain | ⟨domain, hdomain, rfl⟩
  · exact getLast_ne_slash_of_mem_domainRegex hplain
  · have nonempty : domain ≠ [] := by
      rintro rfl
      obtain ⟨c, hlast, -⟩ := getLast_of_mem_domainRegex hdomain
      cases hlast
    rw [List.getLast?_append_of_ne_nil _ nonempty]
    exact getLast_ne_slash_of_mem_domainRegex hdomain

/-- A trimmed, lower-cased value that the validator of its type accepts is
clean, unless it is an allowed path that ends in a slash. -/
theorem clean_of_valid (trimmed : Trimmed isSpace value)
    (hlower : ∀ c ∈ value, Unicode.isLower c = true)
    (hvalid : valid (validateAs type value) = true)
    (hslash : type = .allowedPath → value.getLast? ≠ some '/') :
    Clean (type = .blockedPath) value where
  trimmed := trimmed
  lower := hlower
  no_http := no_scheme_of_valid hvalid "http:".toList (by decide) (by decide)
  no_https := no_scheme_of_valid hvalid "https:".toList (by decide) (by decide)
  no_any := no_scheme_of_valid hvalid "*:".toList (by decide) (by decide)
  no_slash := by
    intro hpreserve
    cases type with
    | whitelist =>
        exact getLast_ne_slash_of_mem_domainRegex
          ((valid_validateDomain_iff _).mp hvalid).format
    | blockedSubdomain =>
        exact getLast_ne_slash_of_mem_subdomainRegex
          ((valid_validateSubdomain_iff _).mp hvalid).format
    | blockedPath => simp at hpreserve
    | allowedPath => exact hslash rfl

theorem no_space_of_valid (hvalid : valid (validateAs type value) = true) :
    ∀ c ∈ value, isSpace c = false := by
  have hdomain : ∀ domain ∈ domainRegex.lang, ∀ c ∈ domain, isSpace c = false :=
    fun domain hdomain c hc =>
      isSpace_of_isDomainChar (isDomainChar_of_mem_domainRegex hdomain c hc)
  have hpath : ∀ globalHost domain path, IsHostPath globalHost domain path →
      ∀ c ∈ domain ++ '/' :: path, isSpace c = false := by
    intro globalHost domain path hpath c hc
    rcases List.mem_append.mp hc with hhost | hrest
    · rcases hpath.host with ⟨-, rfl⟩ | hformat
      · rw [List.mem_singleton] at hhost
        exact hhost ▸ by decide
      · exact hdomain domain hformat.format c hhost
    · rcases List.mem_cons.mp hrest with rfl | hrest
      · decide
      · exact hpath.no_space c hrest
  cases type with
  | whitelist => exact hdomain value ((valid_validateDomain_iff _).mp hvalid).format
  | blockedSubdomain =>
      have hformat := ((valid_validateSubdomain_iff _).mp hvalid).format
      rcases mem_subdomainRegex_iff.mp hformat with hplain | ⟨domain, hmember, rfl⟩
      · exact hdomain value hplain
      · intro c hc
        rcases List.mem_append.mp hc with hmarker | hrest
        · have hwildcard : ("*.".toList.all fun d => !isSpace d) = true := by decide
          simpa using List.all_eq_true.mp hwildcard c hmarker
        · exact hdomain domain hmember c hrest
  | blockedPath =>
      obtain ⟨domain, path, rfl, h⟩ := (valid_validateHostPath_iff true _).mp hvalid
      exact hpath _ _ _ h
  | allowedPath =>
      obtain ⟨domain, path, rfl, h⟩ := (valid_validateHostPath_iff false _).mp hvalid
      exact hpath _ _ _ h

/-- An accepted value starts with a letter, a digit or an asterisk. -/
theorem head_of_valid (hvalid : valid (validateAs type value) = true) :
    ∃ first rest, value = first :: rest ∧ (isAlphanumeric first || first == '*') = true := by
  have hdomain : ∀ domain ∈ domainRegex.lang, ∀ tail,
      ∃ first rest, domain ++ tail = first :: rest ∧
        (isAlphanumeric first || first == '*') = true := by
    intro domain hmem tail
    obtain ⟨first, middle, tld, rfl, hfirst, -⟩ := mem_domainRegex_shape hmem
    exact ⟨first, _, rfl, by simp [hfirst]⟩
  have hpath : ∀ globalHost domain path, IsHostPath globalHost domain path →
      ∃ first rest, domain ++ '/' :: path = first :: rest ∧
        (isAlphanumeric first || first == '*') = true := by
    intro globalHost domain path hhost
    rcases hhost.host with ⟨-, rfl⟩ | hformat
    · exact ⟨'*', _, rfl, by decide⟩
    · exact hdomain domain hformat.format _
  cases type with
  | whitelist => simpa using hdomain value ((valid_validateDomain_iff _).mp hvalid).format []
  | blockedSubdomain =>
      have hformat := ((valid_validateSubdomain_iff _).mp hvalid).format
      rcases mem_subdomainRegex_iff.mp hformat with hplain | ⟨domain, -, rfl⟩
      · simpa using hdomain value hplain []
      · exact ⟨'*', _, rfl, by decide⟩
  | blockedPath =>
      obtain ⟨domain, path, rfl, h⟩ := (valid_validateHostPath_iff true _).mp hvalid
      exact hpath _ _ _ h
  | allowedPath =>
      obtain ⟨domain, path, rfl, h⟩ := (valid_validateHostPath_iff false _).mp hvalid
      exact hpath _ _ _ h

end OpenPath.RulesValidation
