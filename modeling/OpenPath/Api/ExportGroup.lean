/-
# The exported document

A group is served to the agents as a text document: a marker if the group is
disabled, and otherwise a section for each rule type that has enabled rules, one
value a line. The module gives the rendering, and the lines of what is rendered
for rules whose values are valid.

The cache in front of the rendering is left out: `exportGroup` is what a call
renders.
-/

import OpenPath.Api.GroupsStorage
import OpenPath.Foundation.Lines

namespace OpenPath.Api.ExportGroup

open Foundation JavaScript RulesValidation GroupsStorage

/-- The sections, in the order in which they are rendered. -/
def sectionOrder : List RuleType :=
  [.whitelist, .blockedSubdomain, .blockedPath, .allowedPath]

def sectionHeader : RuleType → Text
  | .whitelist => "## WHITELIST".toList
  | .blockedSubdomain => "## BLOCKED-SUBDOMAINS".toList
  | .blockedPath => "## BLOCKED-PATHS".toList
  | .allowedPath => "## ALLOWED-PATHS".toList

/-- The values of the enabled rules of a type. -/
def enabledValues (rules : List RuleRow) (type : RuleType) : List Text :=
  (rules.filter fun rule => rule.type = type && rule.enabled).map (·.value.text)

/-- The text of a section, which is empty without enabled rules. -/
def renderSection (rules : List RuleRow) (type : RuleType) : Text :=
  if (enabledValues rules type).length > 0 then
    sectionHeader type ++ '\n' :: unlines '\n' (enabledValues rules type) ++ ['\n']
  else []

def disabledContent : Text := "#DESACTIVADO\n".toList

def renderContent (rules : List RuleRow) : Text :=
  trim (sectionOrder.flatMap (renderSection rules)) ++ ['\n']

/-- The document of a group. -/
def renderGroup (group : GroupRow) (rules : List RuleRow) : Text :=
  if !group.enabled then disabledContent else renderContent rules

/-- The document that is served for a group, if the group exists. -/
def exportGroup (ctx : CallContext) (store : Store) (groupId : Text) : Option Text :=
  match getGroupById store groupId with
  | none => none
  | some group => some (renderGroup group (getRulesByGroup ctx store groupId none))

/-! ## The lines of the document -/

/-- The lines of a section. -/
def block (rules : List RuleRow) (type : RuleType) : List Text :=
  sectionHeader type :: enabledValues rules type

/-- The sections that have enabled rules. -/
def exportedTypes (rules : List RuleRow) : List RuleType :=
  sectionOrder.filter fun type => (enabledValues rules type).length > 0

/-- The lines of an enabled group's document: its sections, with a blank line
between two of them, and a single blank line if there is none. -/
def documentLines (rules : List RuleRow) : List Text :=
  if exportedTypes rules = [] then [[]]
  else [[]].intercalate ((exportedTypes rules).map (block rules))

/-- Rules whose values the validators of their types accept. -/
def ValidRules (rules : List RuleRow) : Prop :=
  ∀ rule ∈ rules, valid (validateAs rule.type rule.value.text) = true

variable {type : RuleType} {value : Text}

theorem valid_of_mem_enabledValues {rules : List RuleRow} (hvalid : ValidRules rules)
    (hvalue : value ∈ enabledValues rules type) :
    valid (validateAs type value) = true := by
  obtain ⟨rule, hrule, rfl⟩ := List.mem_map.mp hvalue
  obtain ⟨hmem, hselected⟩ := List.mem_filter.mp hrule
  obtain ⟨rfl, -⟩ : rule.type = type ∧ rule.enabled = true := by simpa using hselected
  exact hvalid rule hmem

theorem renderSection_eq (rules : List RuleRow) (type : RuleType) :
    renderSection rules type =
      if (enabledValues rules type).length > 0 then unlines '\n' (block rules type ++ [[]])
      else [] := by
  simp [renderSection, block]

theorem flatMap_renderSection (rules : List RuleRow) (types : List RuleType) :
    types.flatMap (renderSection rules) =
      unlines '\n' ((types.filter fun type => (enabledValues rules type).length > 0).flatMap
        fun type => block rules type ++ [[]]) := by
  induction types with
  | nil => rfl
  | cons type rest ih =>
      rw [List.flatMap_cons, ih, renderSection_eq]
      by_cases hvalues : (enabledValues rules type).length > 0
      · rw [if_pos hvalues, List.filter_cons_of_pos (by simpa using hvalues), List.flatMap_cons,
          unlines_append, unlines_append, unlines_append]
      · rw [if_neg hvalues, List.filter_cons_of_neg (by simpa using hvalues), List.nil_append]

/-- A line whose two ends stay when the document is trimmed. -/
structure Solid (line : Text) : Prop where
  nonempty : line ≠ []
  trimmed : Trimmed isSpace line

theorem nonempty_of_valid (hvalid : valid (validateAs type value) = true) : value ≠ [] := by
  rintro rfl
  cases type <;> revert hvalid <;> decide

theorem solid_of_valid (hvalid : valid (validateAs type value) = true) : Solid value where
  nonempty := nonempty_of_valid hvalid
  trimmed :=
    ⟨fun c hc => no_space_of_valid hvalid c (List.mem_of_mem_head? hc),
      fun c hc => no_space_of_valid hvalid c (List.mem_of_mem_getLast? hc)⟩

theorem solid_sectionHeader (type : RuleType) : Solid (sectionHeader type) := by
  cases type <;> exact ⟨by decide, by decide⟩

variable {line : Text}

theorem solid_of_mem_block {rules : List RuleRow} (hvalid : ValidRules rules)
    (hline : line ∈ block rules type) : Solid line := by
  rcases List.mem_cons.mp hline with rfl | hvalue
  · exact solid_sectionHeader type
  · exact solid_of_valid (valid_of_mem_enabledValues hvalid hvalue)

theorem documentLines_ends {rules : List RuleRow} (hvalid : ValidRules rules)
    (hexported : exportedTypes rules ≠ []) :
    ∃ first last, (documentLines rules).head? = some first ∧
      (documentLines rules).getLast? = some last ∧ Solid first ∧ Solid last := by
  unfold documentLines
  rw [if_neg hexported]
  obtain ⟨type, rest, htypes⟩ := List.exists_cons_of_ne_nil hexported
  have hhead : ([[]].intercalate ((exportedTypes rules).map (block rules))).head? =
      some (sectionHeader type) := by
    rw [htypes, List.map_cons]
    cases rest <;> simp [block]
  obtain ⟨init, lastType, hconcat⟩ :=
    (List.eq_nil_or_concat (exportedTypes rules)).resolve_left hexported
  obtain ⟨before, hbefore⟩ := intercalate_concat (init.map (block rules)) (block rules lastType) [[]]
  have hnonempty : block rules lastType ≠ [] := by simp [block]
  have hlast : ([[]].intercalate ((exportedTypes rules).map (block rules))).getLast? =
      some ((block rules lastType).getLast hnonempty) := by
    rw [hconcat, List.concat_eq_append, List.map_append, List.map_singleton, hbefore,
      List.getLast?_append_of_ne_nil _ hnonempty, List.getLast?_eq_some_getLast hnonempty]
  exact ⟨_, _, hhead, hlast, solid_sectionHeader type,
    solid_of_mem_block hvalid (List.getLast_mem hnonempty)⟩

/-- What is rendered for an enabled group, line by line. -/
theorem renderContent_eq {rules : List RuleRow} (hvalid : ValidRules rules) :
    renderContent rules = unlines '\n' (documentLines rules) := by
  unfold renderContent
  rw [flatMap_renderSection]
  change JavaScript.trim (unlines '\n' ((exportedTypes rules).flatMap fun type => block rules type ++ [[]])) ++
    ['\n'] = _
  by_cases hexported : exportedTypes rules = []
  · simp [documentLines, hexported, JavaScript.trim]
  · obtain ⟨first, last, hfirst, hlast, hfirstSolid, hlastSolid⟩ :=
      documentLines_ends hvalid hexported
    have hblocks : (exportedTypes rules).map (block rules) ≠ [] := by simpa using hexported
    have hlines : (exportedTypes rules).flatMap (fun type => block rules type ++ [[]]) =
        documentLines rules ++ [[]] := by
      rw [documentLines, if_neg hexported, ← flatMap_append_eq_intercalate hblocks,
        List.flatMap_map]
    rw [hlines, unlines_append]
    exact trim_unlines (by decide) hfirst hlast hfirstSolid.trimmed hlastSolid.trimmed
      hfirstSolid.nonempty hlastSolid.nonempty

theorem mem_documentLines {rules : List RuleRow} (hline : line ∈ documentLines rules) :
    line = [] ∨ ∃ type ∈ exportedTypes rules,
      line = sectionHeader type ∨ line ∈ enabledValues rules type := by
  unfold documentLines at hline
  split at hline
  · exact Or.inl (List.mem_singleton.mp hline)
  · rcases mem_intercalate hline with hblank | ⟨_, hblock, hline⟩
    · exact Or.inl (List.mem_singleton.mp hblank)
    · obtain ⟨type, htype, rfl⟩ := List.mem_map.mp hblock
      exact Or.inr ⟨type, htype, List.mem_cons.mp hline⟩

theorem mem_exportedTypes {rules : List RuleRow} (hvalue : value ∈ enabledValues rules type) :
    type ∈ exportedTypes rules := by
  have horder : type ∈ sectionOrder := by cases type <;> decide
  simpa [exportedTypes, horder] using List.length_pos_of_mem hvalue

theorem mem_documentLines_of_mem_block {rules : List RuleRow} (htype : type ∈ exportedTypes rules)
    (hline : line ∈ block rules type) :
    line ∈ documentLines rules := by
  unfold documentLines
  rw [if_neg (List.ne_nil_of_mem htype)]
  exact mem_intercalate_of_mem _ (List.mem_map_of_mem htype) hline

theorem newline_not_mem_documentLines {rules : List RuleRow} (hvalid : ValidRules rules) :
    ∀ line ∈ documentLines rules, '\n' ∉ line := by
  intro line hline
  rcases mem_documentLines hline with rfl | ⟨type, -, rfl | hvalue⟩
  · exact List.not_mem_nil
  · cases type <;> decide
  · intro hnewline
    have hspace := no_space_of_valid (valid_of_mem_enabledValues hvalid hvalue) _ hnewline
    revert hspace
    decide

/-- Reading the lines of the document of an enabled group. -/
theorem lines_renderContent {rules : List RuleRow} (hvalid : ValidRules rules) :
    lines '\n' (renderContent rules) = documentLines rules := by
  rw [renderContent_eq hvalid, lines_unlines (newline_not_mem_documentLines hvalid)]

/-! ## From the tables -/

/-- A group has an enabled rule with a type and a value. -/
def Exports (store : Store) (groupId : Text) (type : RuleType) (value : Text) : Prop :=
  ∃ row ∈ store.rules,
    row.groupId = groupId ∧ row.type = type ∧ row.enabled = true ∧ row.value.text = value

/-- Every rule of a group has a value that the validator of its type accepts. -/
def ValidGroup (store : Store) (groupId : Text) : Prop :=
  ∀ row ∈ store.rules, row.groupId = groupId →
    valid (validateAs row.type row.value.text) = true

variable {store : Store} {groupId : Text}

theorem mem_getRulesByGroup (ctx : CallContext) {row : RuleRow} :
    row ∈ getRulesByGroup ctx store groupId none ↔ row ∈ store.rules ∧ row.groupId = groupId := by
  simp [getRulesByGroup, listRuleRowsByGroup]

theorem mem_enabledValues_iff (ctx : CallContext) :
    value ∈ enabledValues (getRulesByGroup ctx store groupId none) type ↔
      Exports store groupId type value := by
  simp only [enabledValues, List.mem_map, List.mem_filter, mem_getRulesByGroup, Bool.and_eq_true,
    decide_eq_true_eq, Exports, and_assoc]

theorem ValidGroup.rules (hvalid : ValidGroup store groupId) (ctx : CallContext) :
    ValidRules (getRulesByGroup ctx store groupId none) := by
  intro row hrow
  obtain ⟨hmem, hgroup⟩ := (mem_getRulesByGroup ctx).mp hrow
  exact hvalid row hmem hgroup

theorem exportGroup_eq {ctx : CallContext} {document : Text} {group : GroupRow}
    (hgroup : getGroupById store groupId = some group)
    (hexport : exportGroup ctx store groupId = some document) :
    document = renderGroup group (getRulesByGroup ctx store groupId none) := by
  unfold exportGroup at hexport
  rw [hgroup] at hexport
  exact (Option.some.inj hexport).symm

/-! ## What a document depends on -/

/-- What a rule contributes to the document of its group. -/
def exported (rule : RuleRow) : RuleType × Text × Bool :=
  (rule.type, rule.value.text, rule.enabled)

/-- The values of a type can be read off what the rules export. -/
theorem enabledValues_eq (rules : List RuleRow) (type : RuleType) :
    enabledValues rules type =
      ((rules.map exported).filter fun row => row.1 = type && row.2.2).map (·.2.1) := by
  rw [List.filter_map, List.map_map]
  rfl

theorem renderContent_congr {rules rules' : List RuleRow}
    (hvalues : ∀ type, enabledValues rules type = enabledValues rules' type) :
    renderContent rules = renderContent rules' := by
  have hsections : renderSection rules = renderSection rules' := by
    funext type
    rw [renderSection, renderSection, hvalues]
  rw [renderContent, renderContent, hsections]

/-- What the rules of a group contribute. -/
def exportedRules (store : Store) (groupId : Text) : List (RuleType × Text × Bool) :=
  (listRuleRowsByGroup store groupId none).map exported

/-- The document of a group is made of the same parts. -/
structure SameExport (groupId : Text) (store store' : Store) : Prop where
  enabled : (getGroupById store' groupId).map (·.enabled) =
    (getGroupById store groupId).map (·.enabled)
  rules : exportedRules store' groupId = exportedRules store groupId

theorem SameExport.refl (groupId : Text) (store : Store) : SameExport groupId store store :=
  ⟨rfl, rfl⟩

theorem SameExport.trans {first second third : Store} (hfirst : SameExport groupId first second)
    (hsecond : SameExport groupId second third) :
    SameExport groupId first third :=
  ⟨hsecond.enabled.trans hfirst.enabled, hsecond.rules.trans hfirst.rules⟩

theorem exported_getRulesByGroup (ctx : CallContext) (store : Store) (groupId : Text) :
    (getRulesByGroup ctx store groupId none).map exported =
      (exportedRules store groupId).insertionSort fun left right =>
        ctx.localeLe left.2.1 right.2.1 :=
  List.map_insertionSort _ _ _ _ fun _ _ _ _ => Iff.rfl

theorem exportGroup_congr {store' : Store} (hsame : SameExport groupId store store')
    (ctx : CallContext) :
    exportGroup ctx store' groupId = exportGroup ctx store groupId := by
  have hcontent : renderContent (getRulesByGroup ctx store' groupId none) =
      renderContent (getRulesByGroup ctx store groupId none) := by
    apply renderContent_congr
    intro type
    rw [enabledValues_eq, enabledValues_eq, exported_getRulesByGroup, exported_getRulesByGroup,
      hsame.rules]
  have henabled := hsame.enabled
  unfold exportGroup
  cases hafter : getGroupById store' groupId with
  | none =>
      rw [hafter, Option.map_none] at henabled
      rw [Option.map_eq_none_iff.mp henabled.symm]
  | some after =>
      rw [hafter, Option.map_some] at henabled
      obtain ⟨before, hbefore, hflag⟩ := Option.map_eq_some_iff.mp henabled.symm
      rw [hbefore]
      dsimp only
      rw [renderGroup, renderGroup, hflag, hcontent]

end OpenPath.Api.ExportGroup
