/-
# What the agents read from a served document

The server renders the enabled rules of a group in sections; the Linux agent and
the Windows agent each parse the document with a parser of their own. For rules
with valid values both read back the rendered values, section by section and in
order. The Windows agent trims each of them once more, and the Linux agent then
applies the rules of its protected domains.
-/

import OpenPath.Linux.ValidateWhitelist
import OpenPath.Linux.WhitelistSections
import OpenPath.Windows.WhitelistSections

namespace OpenPath.Policy.Agreement

open Foundation Api Api.ExportGroup Api.GroupsStorage RulesValidation

/-- The sections of the document of an enabled group. -/
def exportedSections (rules : List RuleRow) : Sections where
  whitelist := enabledValues rules .whitelist
  blockedSubdomains := enabledValues rules .blockedSubdomain
  blockedPaths := enabledValues rules .blockedPath
  allowedPaths := enabledValues rules .allowedPath

theorem appendAll_exportedTypes (rules : List RuleRow) (change : Text → Text) :
    Sections.empty.appendAll (fun type => (enabledValues rules type).map change)
      (exportedTypes rules) = (exportedSections rules).map change := by
  have hfilter : exportedTypes rules =
      sectionOrder.filter fun type => ((enabledValues rules type).map change).length > 0 := by
    simp [exportedTypes]
  rw [hfilter, Sections.appendAll_filter]
  rfl

/-! ## Values as lines -/

variable {rules : List RuleRow} {type : RuleType} {value : Text}

theorem no_nul_of_mem_enabledValues (hvalue : value ∈ enabledValues rules type) :
    Char.ofNat 0 ∉ value := by
  obtain ⟨rule, -, rfl⟩ := List.mem_map.mp hvalue
  exact rule.value.no_nul

theorem isSpace_of_javaScript {c : Char} (hc : JavaScript.isSpace c = false) :
    Ascii.isSpace c = false := by
  simp only [JavaScript.isSpace, Ascii.isSpace, Bool.or_eq_false_iff, Bool.and_eq_false_iff,
    decide_eq_false_iff_not, beq_eq_false_iff_ne] at hc ⊢
  omega

theorem plainEntry_of_mem (hvalid : ValidRules rules) (hvalue : value ∈ enabledValues rules type) :
    Linux.PlainEntry value := by
  have haccepted := valid_of_mem_enabledValues hvalid hvalue
  have hspace : ∀ c ∈ value, Ascii.isSpace c = false :=
    fun c hc => isSpace_of_javaScript (no_space_of_valid haccepted c hc)
  obtain ⟨first, rest, rfl, hfirst⟩ := head_of_valid haccepted
  refine ⟨⟨first, rfl, hspace first List.mem_cons_self, ?_⟩, hspace,
    no_nul_of_mem_enabledValues hvalue⟩
  rintro rfl
  revert hfirst
  decide

theorem isWhiteSpace_head {first : Char}
    (hfirst : (Ascii.isAlphanumeric first || first == '*') = true) :
    DotNet.isWhiteSpace first = false := by
  rcases Bool.or_eq_true_iff.mp hfirst with hletter | hstar
  · have hrange := Ascii.toNat_of_isAlphanumeric hletter
    simp only [DotNet.isWhiteSpace, Bool.or_eq_false_iff, Bool.and_eq_false_iff,
      decide_eq_false_iff_not, beq_eq_false_iff_ne]
    omega
  · rw [beq_iff_eq.mp hstar]
    decide

/-- The first character of an accepted value is neither trimmed nor a hash. -/
theorem plainLine_of_mem (hvalid : ValidRules rules) (hvalue : value ∈ enabledValues rules type) :
    Windows.PlainLine value := by
  obtain ⟨first, rest, rfl, hfirst⟩ := head_of_valid (valid_of_mem_enabledValues hvalid hvalue)
  have htrim := trim_cons_of_neg (isWhiteSpace_head hfirst) rest
  refine ⟨?_, ?_⟩
  · rw [DotNet.trim, htrim]
    exact List.cons_ne_nil _ _
  · rw [DotNet.trim, htrim]
    rintro ⟨⟩
    revert hfirst
    decide

/-- The next-line character is all that .NET trims of an accepted value. -/
theorem trim_eq_self_of_valid (haccepted : valid (validateAs type value) = true)
    (hlast : value.getLast? ≠ some (Char.ofNat 0x85)) : DotNet.trim value = value := by
  have hnext : ∀ c ∈ value, c ≠ Char.ofNat 0x85 → DotNet.isWhiteSpace c = false := by
    intro c hc hne
    apply DotNet.isWhiteSpace_eq_false (no_space_of_valid haccepted c hc)
    intro hnat
    exact hne (Char.ext (UInt32.toNat_inj.mp hnat))
  apply trim_eq_self_iff.mpr
  refine ⟨?_, ?_⟩
  · obtain ⟨first, rest, rfl, hfirst⟩ := head_of_valid haccepted
    rintro c ⟨⟩
    exact isWhiteSpace_head hfirst
  · intro c hc
    apply hnext c (List.mem_of_mem_getLast? hc)
    rintro rfl
    exact hlast hc

/-- Domains and subdomains end in a letter. -/
theorem trim_eq_self_of_domain (haccepted : valid (validateAs type value) = true)
    (htype : type = .whitelist ∨ type = .blockedSubdomain) : DotNet.trim value = value := by
  apply trim_eq_self_of_valid haccepted
  have hdomain : ∀ domain ∈ domainRegex.lang, ∀ before : Text,
      (before ++ domain).getLast? ≠ some (Char.ofNat 0x85) := by
    intro domain hmem before hlast
    obtain ⟨c, hc, hletter⟩ := getLast_of_mem_domainRegex hmem
    have hnonempty : domain ≠ [] := by
      rintro rfl
      cases hc
    rw [List.getLast?_append_of_ne_nil _ hnonempty, hc] at hlast
    obtain rfl := Option.some.inj hlast
    revert hletter
    decide
  rcases htype with rfl | rfl
  · exact hdomain value ((valid_validateDomain_iff _).mp haccepted).format []
  · have hformat := ((valid_validateSubdomain_iff _).mp haccepted).format
    rcases mem_subdomainRegex_iff.mp hformat with hplain | ⟨domain, hmem, rfl⟩
    · exact hdomain value hplain []
    · exact hdomain domain hmem _

/-! ## The Linux agent -/

theorem headerSection_sectionHeader (type : RuleType) :
    Linux.headerSection (sectionHeader type) = some type := by
  cases type <;> decide

section

variable (hvalid : ValidRules rules)
include hvalid

theorem printEntries_blocks (start : RuleType) (types : List RuleType) :
    Linux.printEntries start ([[]].intercalate (types.map (block rules))) =
      types.flatMap fun type => (enabledValues rules type).map fun value => (type, value) := by
  have hblock : ∀ start type rest, Linux.printEntries start (block rules type ++ rest) =
      (enabledValues rules type).map (fun value => (type, value)) ++
        Linux.printEntries type rest := by
    intro start type rest
    rw [block, List.cons_append, Linux.printEntries, headerSection_sectionHeader]
    exact Linux.printEntries_plain (fun value hvalue => plainEntry_of_mem hvalid hvalue) type rest
  induction types generalizing start with
  | nil => rfl
  | cons type types ih =>
      by_cases hlast : types = []
      · subst hlast
        have hsingle := hblock start type []
        simpa [Linux.printEntries] using hsingle
      · rw [List.map_cons, List.intercalate_cons_of_ne_nil (by simpa using hlast),
          List.append_assoc, hblock, List.flatMap_cons]
        have hblank : ∀ rest, Linux.printEntries type ([] :: rest) =
            Linux.printEntries type rest := fun rest => rfl
        rw [List.singleton_append, hblank, ih]

theorem foldl_addEntry_blocks (types : List RuleType) (sections : Sections) :
    (types.flatMap fun type => (enabledValues rules type).map fun value => (type, value)).foldl
      Linux.addEntry sections = sections.appendAll (enabledValues rules) types := by
  induction types generalizing sections with
  | nil => rfl
  | cons type types ih =>
      rw [List.flatMap_cons, List.foldl_append,
        Linux.foldl_addEntry (fun value hvalue => plainEntry_of_mem hvalid hvalue), ih,
        Sections.appendAll_cons]

theorem printEntries_documentLines :
    Linux.printEntries .whitelist (documentLines rules) =
      (exportedTypes rules).flatMap fun type =>
        (enabledValues rules type).map fun value => (type, value) := by
  unfold documentLines
  split
  · rename_i hexported
    rw [hexported]
    rfl
  · exact printEntries_blocks hvalid _ _

/-- What the Linux agent reads before the protection. -/
theorem readSections_renderContent :
    Linux.readSections (renderContent rules) = exportedSections rules := by
  have hsections := appendAll_exportedTypes rules id
  simp only [List.map_id, Sections.map_id] at hsections
  unfold Linux.readSections
  rw [lines_renderContent hvalid, printEntries_documentLines hvalid, foldl_addEntry_blocks hvalid,
    hsections]

end

/-! ## The Windows agent -/

variable {isWordChar : Char → Bool}

theorem parseLine_sectionHeader (state : Windows.ParserState) (type : RuleType) :
    Windows.parseLine isWordChar state (sectionHeader type) =
      { state with openSection := Windows.typeName type } := by
  cases type <;> rfl

theorem foldl_parseLine_block (hvalid : ValidRules rules) (state : Windows.ParserState)
    (type : RuleType) :
    (block rules type).foldl (Windows.parseLine isWordChar) state =
      Windows.ParserState.append { state with openSection := Windows.typeName type } type
        ((enabledValues rules type).map DotNet.trim) := by
  rw [block, List.foldl_cons, parseLine_sectionHeader]
  exact Windows.foldl_parseLine_plain (fun value hvalue => plainLine_of_mem hvalid hvalue)
    (Windows.sectionType_typeName type)

theorem foldl_parseLine_blocks (hvalid : ValidRules rules) (state : Windows.ParserState)
    (types : List RuleType) :
    (([[]].intercalate (types.map (block rules))).foldl
      (Windows.parseLine isWordChar) state).result =
      { sections := state.result.sections.appendAll
          (fun type => (enabledValues rules type).map DotNet.trim) types
        isDisabled := state.result.isDisabled } := by
  induction types generalizing state with
  | nil => rfl
  | cons type types ih =>
      by_cases hlast : types = []
      · subst hlast
        rw [List.map_singleton, List.intercalate_singleton, foldl_parseLine_block hvalid]
        rfl
      · rw [List.map_cons, List.intercalate_cons_of_ne_nil (by simpa using hlast),
          List.foldl_append, List.foldl_append, foldl_parseLine_block hvalid, List.foldl_cons,
          Windows.parseLine_blank, List.foldl_nil, ih]
        rfl

/-- What the Windows agent reads. -/
theorem parse_renderContent {rules : List RuleRow} (hvalid : ValidRules rules) :
    Windows.getWhitelistSectionsFromLines isWordChar ((renderContent rules).splitOn '\n') =
      { sections := (exportedSections rules).map DotNet.trim, isDisabled := false } := by
  have hlines : (renderContent rules).splitOn '\n' = documentLines rules ++ [[]] := by
    rw [renderContent_eq hvalid, splitOn_unlines (newline_not_mem_documentLines hvalid)]
  have hdocument : ((documentLines rules).foldl (Windows.parseLine isWordChar)
      .initial).result =
      { sections := (exportedSections rules).map DotNet.trim, isDisabled := false } := by
    rw [← appendAll_exportedTypes]
    unfold documentLines
    split
    · rename_i hexported
      rw [hexported]
      rfl
    · exact foldl_parseLine_blocks hvalid _ _
  rw [Windows.getWhitelistSectionsFromLines, hlines, List.foldl_append, List.foldl_cons,
    Windows.parseLine_blank, List.foldl_nil, hdocument]

/-! ## Agreement -/

/-- What both agents read from the document of a group, given the rules in the
order in which they are exported. -/
structure AgentsRead (config : Linux.ControlPlaneConfig) (isWordChar : Char → Bool)
    (group : GroupRow) (rules : List RuleRow) (document : Text) : Prop where
  linux_whitelist : group.enabled = true →
    (Linux.parseWhitelistSections config document).whitelist =
      enabledValues rules .whitelist ++
        (Linux.refreshOpenpathProtectedDomains config).filter
          (· ∉ enabledValues rules .whitelist)
  linux_blockedSubdomains : group.enabled = true →
    (Linux.parseWhitelistSections config document).blockedSubdomains =
      (enabledValues rules .blockedSubdomain).filter
        (· ∉ Linux.refreshOpenpathProtectedDomains config)
  linux_blockedPaths : group.enabled = true →
    (Linux.parseWhitelistSections config document).blockedPaths =
      (enabledValues rules .blockedPath).filter fun rule =>
        match Linux.getBlockedPathHost rule with
        | some host => host ∉ Linux.refreshOpenpathProtectedDomains config
        | none => true
  linux_allowedPaths : group.enabled = true →
    (Linux.parseWhitelistSections config document).allowedPaths =
      enabledValues rules .allowedPath
  windows_sections : group.enabled = true →
    (Windows.getWhitelistSectionsFromLines isWordChar (document.splitOn '\n')).sections =
      (exportedSections rules).map DotNet.trim
  windows_values : ∀ type, ∀ value ∈ enabledValues rules type,
    type = .whitelist ∨ type = .blockedSubdomain ∨ value.getLast? ≠ some (Char.ofNat 0x85) →
      DotNet.trim value = value
  disabled_sections : group.enabled = false →
    Linux.readSections document = .empty ∧
      (Windows.getWhitelistSectionsFromLines isWordChar (document.splitOn '\n')).sections = .empty
  linux_disabled :
    Linux.ValidateWhitelist.checkEmergencyDisable (some document) = !group.enabled
  windows_disabled :
    (Windows.getWhitelistSectionsFromLines isWordChar (document.splitOn '\n')).isDisabled =
      !group.enabled

theorem trim_enabledValue (hvalid : ValidRules rules) (hvalue : value ∈ enabledValues rules type)
    (hkind : type = .whitelist ∨ type = .blockedSubdomain ∨
      value.getLast? ≠ some (Char.ofNat 0x85)) : DotNet.trim value = value := by
  have haccepted := valid_of_mem_enabledValues hvalid hvalue
  rcases hkind with hwhitelist | hsubdomain | hlast
  · exact trim_eq_self_of_domain haccepted (Or.inl hwhitelist)
  · exact trim_eq_self_of_domain haccepted (Or.inr hsubdomain)
  · exact trim_eq_self_of_valid haccepted hlast

theorem agentsRead_enabled (config : Linux.ControlPlaneConfig) (isWordChar : Char → Bool)
    {group : GroupRow} (henabled : group.enabled = true) (hvalid : ValidRules rules) :
    AgentsRead config isWordChar group rules (renderContent rules) := by
  have hlinux := readSections_renderContent hvalid
  have hwindows := @parse_renderContent isWordChar rules hvalid
  have hlist := Linux.protectedList_refresh config
  refine
    { linux_whitelist := fun _ => ?_
      linux_blockedSubdomains := fun _ => ?_
      linux_blockedPaths := fun _ => ?_
      linux_allowedPaths := fun _ => ?_
      windows_sections := fun _ => by rw [hwindows]
      windows_values := fun _ _ hvalue hkind => trim_enabledValue hvalid hvalue hkind
      disabled_sections := fun hdisabled => ?_
      linux_disabled := ?_
      windows_disabled := by rw [hwindows, henabled]; rfl }
  · rw [Linux.parseWhitelistSections, hlinux]
    exact Linux.protectControlPlaneRules_whitelist hlist _
  · rw [Linux.parseWhitelistSections, hlinux]
    rfl
  · rw [Linux.parseWhitelistSections, hlinux]
    rfl
  · rw [Linux.parseWhitelistSections, hlinux]
    rfl
  · rw [henabled] at hdisabled
    cases hdisabled
  · rw [Linux.ValidateWhitelist.checkEmergencyDisable, lines_renderContent hvalid,
      Linux.ValidateWhitelist.firstLine_documentLines hvalid, henabled]
    rfl

theorem agentsRead_disabled (config : Linux.ControlPlaneConfig) (isWordChar : Char → Bool)
    {group : GroupRow} (hdisabled : group.enabled = false) (hvalid : ValidRules rules) :
    AgentsRead config isWordChar group rules disabledContent := by
  have hnot : group.enabled ≠ true := by simp [hdisabled]
  have hlines : disabledContent.splitOn '\n' = ["#DESACTIVADO".toList, []] := by decide
  exact
    { linux_whitelist := fun henabled => absurd henabled hnot
      linux_blockedSubdomains := fun henabled => absurd henabled hnot
      linux_blockedPaths := fun henabled => absurd henabled hnot
      linux_allowedPaths := fun henabled => absurd henabled hnot
      windows_sections := fun henabled => absurd henabled hnot
      windows_values := fun _ _ hvalue hkind => trim_enabledValue hvalid hvalue hkind
      disabled_sections := fun _ => ⟨by decide, by rw [hlines]; rfl⟩
      linux_disabled := by rw [hdisabled]; decide
      windows_disabled := by rw [hlines, hdisabled]; rfl }

/-- The document that is served for a group, read by both agents. -/
theorem agentsRead_exportGroup (config : Linux.ControlPlaneConfig) (isWordChar : Char → Bool)
    (ctx : CallContext) {store : Store} {groupId document : Text} {group : GroupRow}
    (hgroup : getGroupById store groupId = some group) (hvalid : ValidGroup store groupId)
    (hexport : exportGroup ctx store groupId = some document) :
    AgentsRead config isWordChar group (getRulesByGroup ctx store groupId none) document := by
  have hrules := hvalid.rules ctx
  obtain rfl := exportGroup_eq hgroup hexport
  unfold renderGroup
  cases henabled : group.enabled with
  | true => exact agentsRead_enabled config isWordChar henabled hrules
  | false => exact agentsRead_disabled config isWordChar henabled hrules

open Linux.ValidateWhitelist (exampleContext mathGroup ruleOf storeWith)

theorem oneDomain_length : "example.com".toList.length ≤ 500 := by decide

theorem oneDomain_no_nul : Char.ofNat 0 ∉ "example.com".toList := by decide

/-- A group with a single domain. -/
def oneDomain : Store :=
  storeWith [ruleOf "r1".toList .whitelist ⟨"example.com".toList, oneDomain_length,
    oneDomain_no_nul⟩]

def exampleConfig : Linux.ControlPlaneConfig where
  whitelistUrlConf := none
  whitelistUrl := "https://openpath.example.org/w/token/whitelist.txt".toList
  defaultWhitelistUrl := []
  apiUrlConf := none
  healthApiUrlConf := none

theorem ads_length : "ads.example.com".toList.length ≤ 500 := by decide

theorem ads_no_nul : Char.ofNat 0 ∉ "ads.example.com".toList := by decide

theorem games_length : "example.com/games".toList.length ≤ 500 := by decide

theorem games_no_nul : Char.ofNat 0 ∉ "example.com/games".toList := by decide

/-- A group with rules of several types, one of them switched off. -/
def severalRules : Store :=
  storeWith
    [ruleOf "r1".toList .whitelist ⟨"example.com".toList, oneDomain_length, oneDomain_no_nul⟩,
     ruleOf "r2".toList .blockedSubdomain ⟨"ads.example.com".toList, ads_length, ads_no_nul⟩,
     ruleOf "r3".toList .blockedPath ⟨"example.com/games".toList, games_length, games_no_nul⟩,
     { ruleOf "r4".toList .whitelist ⟨"ads.example.com".toList, ads_length, ads_no_nul⟩ with
       enabled := false }]

theorem validGroup_severalRules : ValidGroup severalRules "math".toList := by
  unfold ValidGroup severalRules
  decide

theorem agentsRead_severalRules :
    AgentsRead exampleConfig Ascii.isWordChar mathGroup
      (getRulesByGroup exampleContext severalRules "math".toList none)
      ("## WHITELIST\nexample.com\n\n## BLOCKED-SUBDOMAINS\nads.example.com\n".toList ++
        "\n## BLOCKED-PATHS\nexample.com/games\n".toList) :=
  agentsRead_exportGroup exampleConfig Ascii.isWordChar exampleContext (by decide)
    validGroup_severalRules (by decide)

/-- The Linux agent reads more than the exported domain. -/
theorem linux_reads_protected_domains :
    exportGroup exampleContext oneDomain "math".toList =
        some "## WHITELIST\nexample.com\n".toList ∧
      enabledValues (getRulesByGroup exampleContext oneDomain "math".toList none) .whitelist =
        ["example.com".toList] ∧
      "raw.githubusercontent.com".toList ∈
        (Linux.parseWhitelistSections exampleConfig
          "## WHITELIST\nexample.com\n".toList).whitelist := by
  refine ⟨by decide, by decide, ?_⟩
  have hfresh : "raw.githubusercontent.com".toList ∉
      (Linux.readSections "## WHITELIST\nexample.com\n".toList).whitelist := by
    decide
  rw [Linux.parseWhitelistSections,
    Linux.protectControlPlaneRules_whitelist (Linux.protectedList_refresh exampleConfig)]
  apply List.mem_append_right
  exact List.mem_filter.mpr
    ⟨Linux.raw_mem_protectedDomains exampleConfig, decide_eq_true hfresh⟩

end OpenPath.Policy.Agreement
