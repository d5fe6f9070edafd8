/-
# Policy of a cloned group

Cloning a group creates an enabled group and copies the rules of the source with
their type, value and comment. Whether a rule is enabled is not copied, so every
copy is. The module compares what the documents of the two groups carry, section
by section.
-/

import OpenPath.Api.ExportGroup
import OpenPath.Api.GroupsService

namespace OpenPath.Api.CloneGroup

open Foundation JavaScript RulesValidation GroupsStorage ExportGroup

/-- The values that the document of a group carries in the section of a type. -/
def carriedValues (ctx : CallContext) (store : Store) (groupId : Text) (type : RuleType) :
    List Text :=
  match getGroupById store groupId with
  | some group =>
      if group.enabled then enabledValues (getRulesByGroup ctx store groupId none) type else []
  | none => []

/-- The foreign key of the rules. -/
def RulesReferToGroups (store : Store) : Prop :=
  ∀ rule ∈ store.rules, ∃ group ∈ store.groups, group.id = rule.groupId

/-- Every rule of the group is enabled, and so is the group if it has one. -/
def WhollyEnabled (store : Store) (group : GroupRow) : Prop :=
  ∀ rule ∈ store.rules, rule.groupId = group.id → rule.enabled = true ∧ group.enabled = true

/-! ## The copied rows -/

/-- The values of the rules of a type, in the order of the table. -/
def valuesOf (rules : List RuleRow) (type : RuleType) : List Text :=
  (rules.filter (·.type = type)).map (·.value.text)

variable {rules : List RuleRow}

/-- The order in which the rules are read only permutes what is carried. -/
theorem enabledValues_perm {rules' : List RuleRow} (hperm : rules.Perm rules') (type : RuleType) :
    (enabledValues rules type).Perm (enabledValues rules' type) :=
  (hperm.filter _).map _

theorem getRulesByGroup_perm (ctx : CallContext) (store : Store) (groupId : Text) :
    (getRulesByGroup ctx store groupId none).Perm (listRuleRowsByGroup store groupId none) :=
  List.perm_insertionSort _ _

variable {toGroupId : Text} {copies : List RuleRow}

theorem enabledValues_copies (hcopies : List.Forall₂ (CopyOf toGroupId) rules copies)
    (type : RuleType) :
    enabledValues copies type = valuesOf rules type := by
  induction hcopies with
  | nil => rfl
  | @cons rule copy rules copies hcopy _ ih =>
      unfold enabledValues valuesOf at ih ⊢
      by_cases htype : rule.type = type
      · have hselected : (copy.type = type && copy.enabled) = true := by
          simp [hcopy.type, htype, hcopy.enabled]
        rw [List.filter_cons_of_pos (by simpa using hselected),
          List.filter_cons_of_pos (by simpa using htype), List.map_cons, List.map_cons, ih,
          hcopy.value]
      · have hskipped : ¬ (copy.type = type && copy.enabled) = true := by
          simp [hcopy.type, htype]
        rw [List.filter_cons_of_neg (by simpa using hskipped),
          List.filter_cons_of_neg (by simpa using htype), ih]

theorem filter_groupId_copies {groupId : Text}
    (hcopies : List.Forall₂ (CopyOf toGroupId) rules copies) :
    copies.filter (·.groupId = groupId) = if toGroupId = groupId then copies else [] := by
  induction hcopies with
  | nil => simp
  | cons hcopy _ ih =>
      rw [List.filter_cons, ih, hcopy.groupId]
      by_cases hgroup : toGroupId = groupId <;> simp [hgroup]

/-- Of the rules of one type, the enabled ones are as many as all of them only
if all of them are enabled. -/
theorem valuesOf_perm_enabledValues_iff {type : RuleType} :
    (valuesOf rules type).Perm (enabledValues rules type) ↔
      ∀ rule ∈ rules, rule.type = type → rule.enabled = true := by
  have hfilter : rules.filter (fun rule => rule.type = type && rule.enabled) =
      (rules.filter (·.type = type)).filter (·.enabled) := by
    rw [List.filter_filter]
    apply List.filter_congr
    intro rule _
    rw [Bool.and_comm]
  unfold valuesOf enabledValues
  rw [hfilter]
  have hall : (∀ rule ∈ rules.filter (·.type = type), rule.enabled = true) ↔
      ∀ rule ∈ rules, rule.type = type → rule.enabled = true := by
    simp only [List.mem_filter, decide_eq_true_eq, and_imp]
  rw [← hall]
  refine ⟨?_, ?_⟩
  · intro hperm
    have hlength := hperm.length_eq
    rw [List.length_map, List.length_map] at hlength
    exact List.length_filter_eq_length_iff.mp hlength.symm
  · intro henabled
    rw [List.filter_eq_self.mpr henabled]

/-! ## The clone -/

/-- What a successful clone adds to the tables: an enabled group with a new
identifier, and an enabled copy of each rule of the source. -/
structure Cloned (store store' : Store) (source : GroupRow) (id : Text) : Prop where
  fresh : ∀ group ∈ store.groups, group.id ≠ id
  created : ∃ group, getGroupById store' id = some group ∧ group.enabled = true
  groups : ∀ groupId, groupId ≠ id → getGroupById store' groupId = getGroupById store groupId
  rules : ∃ copies,
    List.Forall₂ (CopyOf id) (listRuleRowsByGroup store source.id none) copies ∧
      store'.rules = store.rules ++ copies

theorem getGroupById_touch (ctx : CallContext) (id groupId : Text) (store : Store) :
    getGroupById (touchGroupUpdatedAt ctx id store) groupId =
      (getGroupById store groupId).map fun group =>
        if group.id = id then { group with updatedAt := ctx.now } else group := by
  unfold getGroupById touchGroupUpdatedAt
  rw [List.find?_map]
  congr 2
  funext group
  by_cases hid : group.id = id <;> simp [hid]

variable {store : Store} {source : GroupRow}

theorem cloned_of_cloneGroup {ctx : CallContext} {input : GroupsService.CloneGroupInput}
    {store' : Store} {id : Text} (hsource : getGroupById store input.sourceGroupId = some source)
    (hcall : GroupsService.cloneGroup ctx input store = .ok (id, store')) :
    Cloned store store' source id := by
  obtain ⟨found, created, copied, hfound, hcreate, hcopy, rfl⟩ :=
    GroupsService.cloneGroup_eq_ok hcall
  obtain rfl := Option.some.inj (hsource.symm.trans hfound)
  obtain ⟨hfresh, rfl⟩ := createGroup_eq_ok hcreate
  obtain ⟨copies, hcopies, rfl⟩ := insertCopies_eq_ok hcopy
  have hnone : store.groups.find? (·.id = id) = none :=
    List.find?_eq_none.mpr fun group hgroup => by simpa using hfresh group hgroup
  refine ⟨hfresh, ?_, ?_, copies, hcopies, rfl⟩
  · rw [getGroupById_touch]
    show ∃ group, Option.map _ ((store.groups ++ [newGroup ctx id _ _ _]).find? _) = some group ∧ _
    rw [List.find?_append, hnone]
    simp [newGroup]
  · intro groupId hne
    rw [getGroupById_touch]
    show Option.map _ ((store.groups ++ [newGroup ctx id _ _ _]).find? _) = _
    have hlast : [newGroup ctx id input.availableName input.displayName
        (some input.ownerUserId)].find? (·.id = groupId) = none := by
      simp [newGroup, hne.symm]
    rw [List.find?_append, hlast, Option.or_none]
    show Option.map _ (getGroupById store groupId) = _
    cases hgroup : getGroupById store groupId with
    | none => rfl
    | some group =>
        have hid : group.id = groupId := by simpa using List.find?_some hgroup
        simp [hid, hne]

section Cloned

variable {ctx : CallContext} {store store' : Store} {source : GroupRow} {id : Text}

section

variable (hcloned : Cloned store store' source id)
include hcloned

theorem Cloned.listRuleRows_of_ne {groupId : Text} (hne : groupId ≠ id) :
    listRuleRowsByGroup store' groupId none = listRuleRowsByGroup store groupId none := by
  obtain ⟨copies, hcopies, hrules⟩ := hcloned.rules
  have hnone : copies.filter (·.groupId = groupId) = [] := by
    rw [filter_groupId_copies hcopies, if_neg hne.symm]
  simp only [listRuleRowsByGroup, hrules, List.filter_append, Option.all_none, Bool.and_true,
    hnone, List.append_nil]

theorem Cloned.listRuleRows (hkeys : RulesReferToGroups store) :
    List.Forall₂ (CopyOf id) (listRuleRowsByGroup store source.id none)
      (listRuleRowsByGroup store' id none) := by
  obtain ⟨copies, hcopies, hrules⟩ := hcloned.rules
  have hold : store.rules.filter (·.groupId = id) = [] := by
    apply List.filter_eq_nil_iff.mpr
    intro rule hrule
    obtain ⟨group, hgroup, hid⟩ := hkeys rule hrule
    simpa [← hid] using hcloned.fresh group hgroup
  have hcopied : listRuleRowsByGroup store' id none = copies := by
    simp only [listRuleRowsByGroup, hrules, List.filter_append, Option.all_none, Bool.and_true,
      hold, filter_groupId_copies hcopies, if_true, List.nil_append]
  rw [hcopied]
  exact hcopies

/-- The clone carries every value of the source, enabled or not. -/
theorem Cloned.carriedValues_perm (hkeys : RulesReferToGroups store) (type : RuleType) :
    (carriedValues ctx store' id type).Perm
      (valuesOf (listRuleRowsByGroup store source.id none) type) := by
  obtain ⟨group, hgroup, henabled⟩ := hcloned.created
  unfold carriedValues
  rw [hgroup]
  dsimp only
  rw [if_pos henabled, ← enabledValues_copies (hcloned.listRuleRows hkeys)]
  exact enabledValues_perm (getRulesByGroup_perm ctx store' id) type

end

end Cloned

theorem carriedValues_source (ctx : CallContext) {groupId : Text}
    (hsource : getGroupById store groupId = some source) (type : RuleType) :
    (carriedValues ctx store groupId type).Perm
      (if source.enabled then enabledValues (listRuleRowsByGroup store source.id none) type
        else []) := by
  have hid : source.id = groupId := by simpa using List.find?_some hsource
  unfold carriedValues
  rw [hsource, hid]
  dsimp only
  split
  · exact enabledValues_perm (getRulesByGroup_perm ctx store groupId) type
  · exact .nil

/-- All values of a group are the ones it carries exactly when it is wholly
enabled. -/
theorem valuesOf_perm_carried_iff :
    (∀ type, (valuesOf (listRuleRowsByGroup store source.id none) type).Perm
        (if source.enabled then enabledValues (listRuleRowsByGroup store source.id none) type
          else [])) ↔
      WhollyEnabled store source := by
  have hrows : ∀ rule, rule ∈ listRuleRowsByGroup store source.id none ↔
      rule ∈ store.rules ∧ rule.groupId = source.id := by
    intro rule
    simp [listRuleRowsByGroup]
  cases henabled : source.enabled with
  | true =>
      simp only [if_true, valuesOf_perm_enabledValues_iff]
      refine ⟨?_, ?_⟩
      · intro hall rule hrule hgroup
        exact ⟨hall rule.type rule ((hrows rule).mpr ⟨hrule, hgroup⟩) rfl, henabled⟩
      · intro hwhole type rule hrule _
        obtain ⟨hmem, hgroup⟩ := (hrows rule).mp hrule
        exact (hwhole rule hmem hgroup).1
  | false =>
      simp only [Bool.false_eq_true, if_false, List.perm_nil]
      refine ⟨?_, ?_⟩
      · intro hall rule hrule hgroup
        have hvalue : rule.value.text ∈
            valuesOf (listRuleRowsByGroup store source.id none) rule.type :=
          List.mem_map_of_mem
            (List.mem_filter.mpr ⟨(hrows rule).mpr ⟨hrule, hgroup⟩, by simp⟩)
        rw [hall rule.type] at hvalue
        cases hvalue
      · intro hwhole type
        have hnone : listRuleRowsByGroup store source.id none = [] := by
          apply List.eq_nil_iff_forall_not_mem.mpr
          intro rule hrule
          obtain ⟨hmem, hgroup⟩ := (hrows rule).mp hrule
          have hgroupEnabled := (hwhole rule hmem hgroup).2
          rw [henabled] at hgroupEnabled
          cases hgroupEnabled
        rw [hnone]
        rfl

/-- A clone carries what its source carries, in all sections, exactly when the
source is wholly enabled. The rows of the source are not changed. -/
theorem cloneGroup_carries_iff {ctx : CallContext} {input : GroupsService.CloneGroupInput}
    {store store' : Store} {id : Text} {source : GroupRow} (hkeys : RulesReferToGroups store)
    (hsource : getGroupById store input.sourceGroupId = some source)
    (hcall : GroupsService.cloneGroup ctx input store = .ok (id, store')) :
    ((∀ type, (carriedValues ctx store' id type).Perm
        (carriedValues ctx store input.sourceGroupId type)) ↔ WhollyEnabled store source) ∧
      getGroupById store' input.sourceGroupId = some source ∧
      listRuleRowsByGroup store' input.sourceGroupId none =
        listRuleRowsByGroup store input.sourceGroupId none := by
  have hcloned := cloned_of_cloneGroup hsource hcall
  have hid : source.id = input.sourceGroupId := by simpa using List.find?_some hsource
  have hne : input.sourceGroupId ≠ id :=
    hid ▸ hcloned.fresh source (List.mem_of_find?_eq_some hsource)
  refine ⟨?_, ?_, hcloned.listRuleRows_of_ne hne⟩
  · rw [← valuesOf_perm_carried_iff]
    apply forall_congr'
    intro type
    have hclone : (carriedValues ctx store' id type).Perm
        (valuesOf (listRuleRowsByGroup store source.id none) type) :=
      hcloned.carriedValues_perm hkeys type
    have hcarried := carriedValues_source ctx hsource type
    exact ⟨fun hperm => hclone.symm.trans (hperm.trans hcarried),
      fun hperm => hclone.trans (hperm.trans hcarried.symm)⟩
  · rw [hcloned.groups _ hne, hsource]

/-! ## A source with a disabled rule -/

def mathGroup : GroupRow where
  id := "math".toList
  name := "math".toList
  displayName := "Math".toList
  enabled := true
  visibility := .priv
  ownerUserId := none
  updatedAt := 0

/-- A whitelist rule of the group. -/
def mathRule (enabled : Bool) : RuleRow where
  id := "rule".toList
  groupId := "math".toList
  type := .whitelist
  value := ⟨"example.com".toList, by decide, by decide⟩
  enabled := enabled
  comment := none
  createdAt := 0

/-- The rule and two of other types. -/
def mathStore (enabled : Bool) : Store where
  groups := [mathGroup]
  rules :=
    [mathRule enabled,
     { mathRule true with
       id := "path".toList
       type := .blockedPath
       value := ⟨"example.com/games".toList, by decide, by decide⟩ },
     { mathRule true with
       id := "ads".toList
       type := .blockedSubdomain
       value := ⟨"ads.example.com".toList, by decide, by decide⟩ }]
  requests := []

def cloneContext : CallContext where
  uuid n := ("uuid-" ++ toString n).toList
  now := 1
  localeLe left right := decide (left ≤ right)
  driverMessage _ := "driver error"

def cloneInput : GroupsService.CloneGroupInput where
  sourceGroupId := "math".toList
  availableName := "math-copy".toList
  displayName := "Math copy".toList
  ownerUserId := "teacher".toList

/-- The tables after the group has been cloned. -/
def mathCloned (enabled : Bool) : Store :=
  match GroupsService.cloneGroup cloneContext cloneInput (mathStore enabled) with
  | .ok (_, store) => store
  | .error _ => mathStore enabled

theorem cloneGroup_math (enabled : Bool) :
    GroupsService.cloneGroup cloneContext cloneInput (mathStore enabled) =
      .ok ("uuid-0".toList, mathCloned enabled) := by
  cases enabled <;> rfl

/-- The clone of a group with a disabled rule carries the rule. -/
theorem clone_carries_disabled_rule :
    GroupsService.cloneGroup cloneContext cloneInput (mathStore false) =
        .ok ("uuid-0".toList, mathCloned false) ∧
      ¬ (carriedValues cloneContext (mathCloned false) "uuid-0".toList .whitelist).Perm
        (carriedValues cloneContext (mathStore false) "math".toList .whitelist) := by
  refine ⟨cloneGroup_math false, ?_⟩
  have hclone : carriedValues cloneContext (mathCloned false) "uuid-0".toList .whitelist =
      ["example.com".toList] := by
    decide
  have hsource : carriedValues cloneContext (mathStore false) "math".toList .whitelist = [] := by
    decide
  rw [hclone, hsource]
  exact fun hperm => absurd hperm.length_eq (by decide)

/-- The clone of a group whose rules are enabled. -/
theorem cloneGroup_carries_iff_math :
    ((∀ type, (carriedValues cloneContext (mathCloned true) "uuid-0".toList type).Perm
        (carriedValues cloneContext (mathStore true) "math".toList type)) ↔
          WhollyEnabled (mathStore true) mathGroup) ∧
      getGroupById (mathCloned true) "math".toList = some mathGroup ∧
      listRuleRowsByGroup (mathCloned true) "math".toList none =
        listRuleRowsByGroup (mathStore true) "math".toList none := by
  refine cloneGroup_carries_iff ?_ rfl (cloneGroup_math true)
  have hgroups : ∀ rule ∈ (mathStore true).rules, rule.groupId = mathGroup.id := by decide
  exact fun rule hrule => ⟨mathGroup, List.mem_singleton_self _, (hgroups rule hrule).symm⟩

end OpenPath.Api.CloneGroup
