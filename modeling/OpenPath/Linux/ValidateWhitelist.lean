/-
# Validation of a downloaded whitelist

Before the Linux agent installs a downloaded document it asks for a number of
lines that look like domains, unless the document carries the disabled marker,
and cuts documents with too many lines. The module follows what the validation
does to the documents that the server renders for groups with valid rules.
-/

import OpenPath.Api.ExportGroup

namespace OpenPath.Linux.ValidateWhitelist

open Foundation Ascii Api Api.ExportGroup Api.GroupsStorage RulesValidation

/-- The limits of the configuration, which the environment may override. -/
structure Limits where
  minValidDomains : Nat
  maxDomains : Nat

def defaults : Limits where
  minValidDomains := 5
  maxDomains := 500

/-- `^[[:space:]]*$` -/
def isBlank (line : Text) : Bool := line.all isSpace

/-- The first line that is not blank. -/
def firstLine (list : List Text) : Text := (list.find? fun line => !isBlank line).getD []

/-- `^#.*DESACTIVADO`, in either case. -/
def hasDisabledMarker (line : Text) : Bool :=
  line.head? == some '#' &&
    JavaScript.includes (line.tail.map Char.toUpper) "DESACTIVADO".toList

/-- `^[a-zA-Z0-9*].*\.[a-zA-Z]{2,}`, up to the end of the line. -/
def domainLike : Re Char :=
  .cat (.sat fun c => isAlphanumeric c || c == '*')
    (.cat .anything (.cat (.lit '.') (.cat ((Re.sat isLetter).times 2) .anything)))

/-- `^## (WHITELIST|BLOCKED-SUBDOMAINS|BLOCKED-PATHS)$` -/
def isOpenpathSection (line : Text) : Bool :=
  line == "## WHITELIST".toList || line == "## BLOCKED-SUBDOMAINS".toList ||
    line == "## BLOCKED-PATHS".toList

/-- What is left of the file if it is accepted. -/
def validateWhitelistContent (limits : Limits) (file : Text) : Option Text :=
  let fileLines := lines '\n' file
  let truncated :=
    if file.count '\n' > limits.maxDomains then headLines '\n' limits.maxDomains file else file
  if hasDisabledMarker (firstLine fileLines) then some truncated
  else
    let validLines := fileLines.countP domainLike.accepts
    let hasOpenpathSections := fileLines.any isOpenpathSection
    if validLines < limits.minValidDomains then
      if validLines > 0 && hasOpenpathSections then some file else none
    else some truncated

/-- Whether the installed file disables the policy. -/
def checkEmergencyDisable (whitelistFile : Option Text) : Bool :=
  match whitelistFile with
  | some file => hasDisabledMarker (firstLine (lines '\n' file))
  | none => false

/-! ## Files in lines -/

theorem firstLine_mem_or (list : List Text) : firstLine list ∈ list ∨ firstLine list = [] := by
  unfold firstLine
  cases hfind : list.find? fun line => !isBlank line with
  | none => exact Or.inr rfl
  | some line => exact Or.inl (List.mem_of_find?_eq_some hfind)

theorem validateWhitelistContent_unlines (limits : Limits) {list : List Text}
    (hlist : ∀ line ∈ list, '\n' ∉ line) :
    validateWhitelistContent limits (unlines '\n' list) =
      if hasDisabledMarker (firstLine list) = true then
        some (unlines '\n' (list.take limits.maxDomains))
      else if list.countP domainLike.accepts < limits.minValidDomains then
        if list.countP domainLike.accepts > 0 && list.any isOpenpathSection then
          some (unlines '\n' list)
        else none
      else some (unlines '\n' (list.take limits.maxDomains)) := by
  have htruncated :
      (if (unlines '\n' list).count '\n' > limits.maxDomains then
        headLines '\n' limits.maxDomains (unlines '\n' list) else unlines '\n' list) =
        unlines '\n' (list.take limits.maxDomains) := by
    rw [count_unlines hlist]
    split
    · exact headLines_unlines hlist _
    · rw [List.take_of_length_le (by omega)]
  unfold validateWhitelistContent
  dsimp only
  rw [lines_unlines hlist, htruncated]

/-! ## Rendered documents -/

theorem not_accepts_of_head {line : Text} {c : Char} (hhead : line.head? = some c)
    (hc : (isAlphanumeric c || c == '*') = false) : domainLike.accepts line = false := by
  rw [Bool.eq_false_iff]
  intro haccepts
  obtain ⟨u, ⟨first, rfl, hfirst⟩, rest, -, rfl⟩ :=
    (Re.mem_lang_cat _ _ _).mp ((Re.accepts_iff _ _).mp haccepts)
  obtain rfl : first = c := by simpa using hhead
  exact Bool.false_ne_true (hc.symm.trans hfirst)

theorem domainLike_nil : domainLike.accepts [] = false := by decide

theorem domainLike_sectionHeader (type : RuleType) :
    domainLike.accepts (sectionHeader type) = false := by
  apply not_accepts_of_head (c := '#')
  · cases type <;> rfl
  · decide

/-- Domains look like domains, with a wildcard label or without. -/
theorem domainLike_of_mem_domainRegex {domain : Text} (hdomain : domain ∈ domainRegex.lang) :
    domainLike.accepts domain = true ∧ domainLike.accepts ("*.".toList ++ domain) = true := by
  obtain ⟨first, middle, tld, rfl, hfirst, hletters, hlength⟩ := mem_domainRegex_shape hdomain
  clear hdomain
  obtain ⟨a, b, rest, rfl⟩ : ∃ a b rest, tld = a :: b :: rest := by
    match tld, hlength with
    | a :: b :: rest, _ => exact ⟨a, b, rest, rfl⟩
  have htail : '.' :: a :: b :: rest ∈
      (Re.cat (.lit '.') (.cat ((Re.sat isLetter).times 2) .anything)).lang := by
    refine (Re.mem_lang_cat _ _ _).mpr ⟨['.'], by simp, a :: b :: rest, ?_, rfl⟩
    refine (Re.mem_lang_cat _ _ _).mpr ⟨[a, b], ?_, rest, Re.mem_lang_anything _, rfl⟩
    refine (Re.mem_lang_cat _ _ _).mpr ⟨[a], ⟨a, rfl, hletters a (by simp)⟩, [b], ?_, rfl⟩
    exact (Re.mem_lang_cat _ _ _).mpr ⟨[b], ⟨b, rfl, hletters b (by simp)⟩, [],
      (Re.mem_lang_epsilon _).mpr rfl, rfl⟩
  have haccepts : ∀ c before, (isAlphanumeric c || c == '*') = true →
      domainLike.accepts (c :: (before ++ '.' :: a :: b :: rest)) = true := by
    intro c before hc
    rw [Re.accepts_iff]
    refine (Re.mem_lang_cat _ _ _).mpr ⟨[c], ⟨c, rfl, hc⟩, _, ?_, rfl⟩
    exact (Re.mem_lang_cat _ _ _).mpr ⟨before, Re.mem_lang_anything _, _, htail, rfl⟩
  refine ⟨haccepts first middle (by simp [hfirst]), ?_⟩
  simpa using haccepts '*' ('.' :: first :: middle) (by decide)

variable {type : RuleType} {value : Text}

/-- Values of whitelist and blocked-subdomain rules look like domains. -/
theorem domainLike_of_valid (hvalid : valid (validateAs type value) = true)
    (htype : type = .whitelist ∨ type = .blockedSubdomain) : domainLike.accepts value = true := by
  rcases htype with rfl | rfl
  · exact (domainLike_of_mem_domainRegex ((valid_validateDomain_iff _).mp hvalid).format).1
  · have hformat := ((valid_validateSubdomain_iff _).mp hvalid).format
    rcases mem_subdomainRegex_iff.mp hformat with hplain | ⟨domain, hdomain, rfl⟩
    · exact (domainLike_of_mem_domainRegex hplain).1
    · exact (domainLike_of_mem_domainRegex hdomain).2

theorem head_ne_hash_of_valid (hvalid : valid (validateAs type value) = true) :
    value.head? ≠ some '#' := by
  obtain ⟨first, rest, rfl, hfirst⟩ := head_of_valid hvalid
  rintro ⟨⟩
  revert hfirst
  decide

variable {rules : List RuleRow}

theorem hasDisabledMarker_eq_false (hvalid : ValidRules rules) {line : Text}
    (hline : line ∈ documentLines rules) : hasDisabledMarker line = false := by
  rcases mem_documentLines hline with rfl | ⟨type, -, rfl | hvalue⟩
  · rfl
  · cases type <;> decide
  · have hhead := head_ne_hash_of_valid (valid_of_mem_enabledValues hvalid hvalue)
    simp [hasDisabledMarker, hhead]

/-- The document of an enabled group does not disable the policy. -/
theorem firstLine_documentLines (hvalid : ValidRules rules) :
    hasDisabledMarker (firstLine (documentLines rules)) = false := by
  rcases firstLine_mem_or (documentLines rules) with hmem | hnil
  · exact hasDisabledMarker_eq_false hvalid hmem
  · rw [hnil]
    rfl

/-- The number of domain-like lines is positive if an exported value looks like
a domain. -/
theorem countP_domainLike_pos_iff :
    0 < (documentLines rules).countP domainLike.accepts ↔
      ∃ type, ∃ value ∈ enabledValues rules type, domainLike.accepts value = true := by
  rw [List.countP_pos_iff]
  refine ⟨?_, ?_⟩
  · rintro ⟨line, hline, haccepts⟩
    rcases mem_documentLines hline with rfl | ⟨type, -, rfl | hvalue⟩
    · rw [domainLike_nil] at haccepts
      cases haccepts
    · rw [domainLike_sectionHeader] at haccepts
      cases haccepts
    · exact ⟨type, line, hvalue, haccepts⟩
  · rintro ⟨type, value, hvalue, haccepts⟩
    have hmem : value ∈ block rules type := List.mem_cons_of_mem _ hvalue
    exact ⟨value, mem_documentLines_of_mem_block (mem_exportedTypes hvalue) hmem, haccepts⟩

theorem any_isOpenpathSection (hvalue : value ∈ enabledValues rules type)
    (htype : type ≠ .allowedPath) :
    (documentLines rules).any isOpenpathSection = true := by
  have hmem := mem_documentLines_of_mem_block (mem_exportedTypes hvalue)
    (List.mem_cons_self : sectionHeader type ∈ block rules type)
  refine List.any_eq_true.mpr ⟨_, hmem, ?_⟩
  cases type with
  | allowedPath => exact absurd rfl htype
  | _ => decide

/-- What the validation does to the document of an enabled group. -/
theorem validateWhitelistContent_renderContent (limits : Limits) (hvalid : ValidRules rules) :
    validateWhitelistContent limits (renderContent rules) =
      if (documentLines rules).countP domainLike.accepts < limits.minValidDomains then
        if (documentLines rules).countP domainLike.accepts > 0 &&
            (documentLines rules).any isOpenpathSection then
          some (renderContent rules)
        else none
      else some (unlines '\n' ((documentLines rules).take limits.maxDomains)) := by
  rw [renderContent_eq hvalid,
    validateWhitelistContent_unlines limits (newline_not_mem_documentLines hvalid),
    firstLine_documentLines hvalid, if_neg Bool.false_ne_true]

theorem validateWhitelistContent_disabled (limits : Limits) :
    validateWhitelistContent limits disabledContent =
      some (unlines '\n' (["#DESACTIVADO".toList].take limits.maxDomains)) := by
  have hlist : ∀ line ∈ ["#DESACTIVADO".toList], '\n' ∉ line := by
    intro line hline
    rw [List.mem_singleton.mp hline]
    decide
  have hmarker : hasDisabledMarker (firstLine ["#DESACTIVADO".toList]) = true := by decide
  have hdocument : disabledContent = unlines '\n' ["#DESACTIVADO".toList] := rfl
  rw [hdocument, validateWhitelistContent_unlines limits hlist, if_pos hmarker]

/-! ## Exported documents -/

variable {limits : Limits} {store : Store} {groupId document : Text}
  {group : GroupRow}

/-- What the validation does to the document that is served for a group. Between
`accepts` and `rejects` is the case of a group whose only domain-like lines are
allowed paths, which the section pattern leaves out. -/
structure Outcome (limits : Limits) (store : Store) (groupId : Text) (group : GroupRow)
    (document : Text) : Prop where
  accepts_disabled : group.enabled = false →
    (validateWhitelistContent limits document).isSome = true
  accepts : group.enabled = true →
    (∃ type value, Exports store groupId type value ∧ domainLike.accepts value = true) →
    (∃ type value, Exports store groupId type value ∧ type ≠ .allowedPath) →
    (validateWhitelistContent limits document).isSome = true
  looks_like_domain : ∀ type value, Exports store groupId type value →
    type = .whitelist ∨ type = .blockedSubdomain → domainLike.accepts value = true
  rejects : group.enabled = true → 0 < limits.minValidDomains →
    (∀ type value, Exports store groupId type value → domainLike.accepts value = false) →
    validateWhitelistContent limits document = none
  keeps : ∀ file, validateWhitelistContent limits document = some file →
    group.enabled = true →
    (lines '\n' document).length ≤ limits.maxDomains ∨
      (lines '\n' document).countP domainLike.accepts < limits.minValidDomains →
    file = document ∧ ∀ type value, Exports store groupId type value → value ∈ lines '\n' file
  cuts : ∀ file, validateWhitelistContent limits document = some file →
    (group.enabled = true →
      limits.minValidDomains ≤ (lines '\n' document).countP domainLike.accepts) →
    lines '\n' file = (lines '\n' document).take limits.maxDomains

theorem outcome_disabled (hdisabled : group.enabled = false) (hvalid : ValidGroup store groupId) :
    Outcome limits store groupId group disabledContent := by
  have hresult := validateWhitelistContent_disabled limits
  refine ⟨fun _ => by rw [hresult]; rfl, ?_, ?_, ?_, ?_, ?_⟩
  · intro henabled
    simp [hdisabled] at henabled
  · rintro type value ⟨row, hrow, hgroup, rfl, -, rfl⟩ htype
    exact domainLike_of_valid (hvalid row hrow hgroup) htype
  · intro henabled
    simp [hdisabled] at henabled
  · intro file _ henabled
    simp [hdisabled] at henabled
  · intro file hfile _
    rw [hresult] at hfile
    obtain rfl := Option.some.inj hfile
    have hlines : lines '\n' disabledContent = ["#DESACTIVADO".toList] := by decide
    rw [hlines, lines_unlines]
    intro line hline
    rw [List.mem_singleton.mp (List.mem_of_mem_take hline)]
    decide

theorem outcome_enabled (ctx : CallContext) (henabled : group.enabled = true)
    (hvalid : ValidGroup store groupId) :
    Outcome limits store groupId group
      (renderContent (getRulesByGroup ctx store groupId none)) := by
  have hrules := hvalid.rules ctx
  have hresult := validateWhitelistContent_renderContent limits hrules
  have hlines := lines_renderContent hrules
  have hcount : 0 < (documentLines (getRulesByGroup ctx store groupId none)).countP
      domainLike.accepts ↔
        ∃ type value, Exports store groupId type value ∧ domainLike.accepts value = true := by
    simp only [countP_domainLike_pos_iff, mem_enabledValues_iff]
  refine ⟨?_, ?_, ?_, ?_, ?_, ?_⟩
  · intro hdisabled
    simp [henabled] at hdisabled
  · rintro - hlike ⟨type, value, hexports, htype⟩
    have hsection := any_isOpenpathSection ((mem_enabledValues_iff ctx).mpr hexports) htype
    rw [hresult]
    split
    · simp [hcount.mpr hlike, hsection]
    · rfl
  · rintro type value ⟨row, hrow, hgroup, rfl, -, rfl⟩ htype
    exact domainLike_of_valid (hvalid row hrow hgroup) htype
  · intro _ hmin hnone
    have hzero : (documentLines (getRulesByGroup ctx store groupId none)).countP
        domainLike.accepts = 0 := by
      by_contra hpos
      obtain ⟨type, value, hexports, haccepts⟩ := hcount.mp (by omega)
      rw [hnone type value hexports] at haccepts
      cases haccepts
    rw [hresult, hzero, if_pos hmin]
    rfl
  · intro file hfile _ hshort
    rw [hlines] at hshort
    have hsame : file = renderContent (getRulesByGroup ctx store groupId none) := by
      rw [hresult] at hfile
      split at hfile
      · split at hfile
        · exact (Option.some.inj hfile).symm
        · cases hfile
      · rw [List.take_of_length_le (by omega), ← renderContent_eq hrules] at hfile
        exact (Option.some.inj hfile).symm
    refine ⟨hsame, ?_⟩
    intro type value hexports
    have hvalue := (mem_enabledValues_iff ctx).mpr hexports
    rw [hsame, hlines]
    exact mem_documentLines_of_mem_block (mem_exportedTypes hvalue)
      (List.mem_cons_of_mem _ hvalue)
  · intro file hfile hmin
    have hlong := hmin henabled
    rw [hlines] at hlong ⊢
    rw [hresult, if_neg (by omega)] at hfile
    obtain rfl := Option.some.inj hfile
    apply lines_unlines
    intro line hline
    exact newline_not_mem_documentLines hrules line (List.mem_of_mem_take hline)

/-- The document of every group whose rules are valid. -/
theorem outcome_of_exportGroup (limits : Limits) (ctx : CallContext)
    (hgroup : getGroupById store groupId = some group) (hvalid : ValidGroup store groupId)
    (hexport : exportGroup ctx store groupId = some document) :
    Outcome limits store groupId group document := by
  obtain rfl := exportGroup_eq hgroup hexport
  unfold renderGroup
  cases henabled : group.enabled with
  | false => exact outcome_disabled henabled hvalid
  | true => exact outcome_enabled ctx henabled hvalid

/-! ## Two groups -/

def exampleContext : CallContext where
  uuid n := ("rule-" ++ toString n).toList
  now := 1
  localeLe left right := decide (left ≤ right)
  driverMessage _ := "driver error"

def mathGroup : GroupRow where
  id := "math".toList
  name := "math".toList
  displayName := "Math".toList
  enabled := true
  visibility := .priv
  ownerUserId := none
  updatedAt := 0

def ruleOf (id : Text) (type : RuleType) (value : VarChar 500) : RuleRow where
  id := id
  groupId := "math".toList
  type := type
  value := value
  enabled := true
  comment := none
  createdAt := 0

def storeWith (rules : List RuleRow) : Store where
  groups := [mathGroup]
  rules := rules
  requests := []

/-- The document of an enabled group without rules is rejected, so that the
whitelist from before stays in force. -/
theorem emptied_group_rejected :
    getGroupById (storeWith []) "math".toList = some mathGroup ∧ mathGroup.enabled = true ∧
      ValidGroup (storeWith []) "math".toList ∧
      exportGroup exampleContext (storeWith []) "math".toList = some ['\n'] ∧
      validateWhitelistContent defaults ['\n'] = none := by
  refine ⟨by decide, rfl, ?_, by decide, by decide⟩
  intro row hrow
  cases hrow

/-- A group with a single domain. -/
theorem outcome_of_one_domain :
    Outcome defaults
      (storeWith [ruleOf "r1".toList .whitelist ⟨"example.com".toList, by decide, by decide⟩])
      "math".toList mathGroup "## WHITELIST\nexample.com\n".toList := by
  refine outcome_of_exportGroup defaults exampleContext (by decide) ?_
    (by decide)
  intro row hrow _
  obtain rfl := List.mem_singleton.mp hrow
  decide

end OpenPath.Linux.ValidateWhitelist
