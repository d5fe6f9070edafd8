/-
# Statements that change groups and rules

The statements of the storage in one type, for runs in which they come in any
order. Whatever the statements, the identifiers of the stored rules stay distinct
and their values stay as storage normalizes them.
-/

import OpenPath.Api.GroupsStorage

namespace OpenPath.Api.GroupsStorage

open Foundation JavaScript RulesValidation

/-- A statement that changes groups or rules. -/
inductive Mutation
  | createGroup (ctx : CallContext) (uuid name displayName : Text) (ownerUserId : Option Text)
  | updateGroup (ctx : CallContext) (id displayName : Text) (enabled : Bool)
      (visibility : Option GroupVisibility)
  | deleteGroup (id : Text)
  | toggleSystemStatus (ctx : CallContext) (enable : Bool)
  | createRule (ctx : CallContext) (uuid groupId : Text) (type : RuleType) (value : Text)
      (comment : Option Text)
  | updateRule (ctx : CallContext) (id : Text) (updates : RuleUpdates)
  | deleteRule (ctx : CallContext) (id : Text)
  | setRuleEnabled (ctx : CallContext) (id : Text) (enabled : Bool)
  | bulkCreateRules (ctx : CallContext) (draw : Nat) (groupId : Text) (type : RuleType)
      (values : List Text)
  | bulkDeleteRules (ctx : CallContext) (ids : List Text)
  | bulkSetRulesEnabled (ctx : CallContext) (ids : List Text) (enabled : Bool)
  | copyRulesToGroup (ctx : CallContext) (draw : Nat) (fromGroupId toGroupId : Text)

/-- The tables after a statement: a refused one leaves them alone. -/
def committed {α : Type} (store : Store) (result : Except DbError (α × Store)) : Store :=
  match result with
  | .ok (_, store') => store'
  | .error _ => store

def Mutation.apply (store : Store) : Mutation → Store
  | .createGroup ctx uuid name displayName ownerUserId =>
      (GroupsStorage.createGroup ctx uuid name displayName ownerUserId store).toOption.getD store
  | .updateGroup ctx id displayName enabled visibility =>
      GroupsStorage.updateGroup ctx id displayName enabled visibility store
  | .deleteGroup id => GroupsStorage.deleteGroup id store
  | .toggleSystemStatus ctx enable => GroupsStorage.toggleSystemStatus ctx enable store
  | .createRule ctx uuid groupId type value comment =>
      committed store (GroupsStorage.createRule ctx uuid groupId type value comment store)
  | .updateRule ctx id updates =>
      committed store (GroupsStorage.updateRule ctx id updates store)
  | .deleteRule ctx id => (GroupsStorage.deleteRule ctx id store).2
  | .setRuleEnabled ctx id enabled => (GroupsStorage.setRuleEnabled ctx id enabled store).2
  | .bulkCreateRules ctx draw groupId type values =>
      committed store (GroupsStorage.bulkCreateRules ctx draw groupId type values store)
  | .bulkDeleteRules ctx ids => (GroupsStorage.bulkDeleteRules ctx ids store).2
  | .bulkSetRulesEnabled ctx ids enabled =>
      (GroupsStorage.bulkSetRulesEnabled ctx ids enabled store).2
  | .copyRulesToGroup ctx draw fromGroupId toGroupId =>
      (GroupsStorage.copyRulesToGroup ctx draw fromGroupId toGroupId store).toOption.getD store

/-! ## What every statement keeps -/

/-- Distinct identifiers, and values that normalizing leaves alone. -/
structure Stored (rules : List RuleRow) : Prop where
  distinct : (rules.map (·.id)).Nodup
  normalized : ∀ rule ∈ rules, normalizeRuleValue rule.type rule.value.text = rule.value.text

theorem trimmed_normalizeRuleValue (type : RuleType) (value : Text) :
    Trimmed isSpace (normalizeRuleValue type value) := by
  unfold normalizeRuleValue normalizeDomain
  split
  · exact Foundation.trimmed_trim isSpace _
  · exact Foundation.trimmed_trim isSpace _

theorem normalizeRuleValue_idem (type : RuleType) (value : Text) :
    normalizeRuleValue type (normalizeRuleValue type value) = normalizeRuleValue type value := by
  unfold normalizeRuleValue normalizeDomain
  split
  · exact JavaScript.trim_trim value
  · have hlower : ∀ c ∈ trim (toLowerCase value), Unicode.isLower c = true :=
      fun c hc => isLower_toLowerCase value c (JavaScript.mem_of_mem_trim hc)
    rw [toLowerCase_of_isLower hlower, JavaScript.trim_trim]

theorem text_of_normalized {type : RuleType} {value : Text} {stored : VarChar 500}
    (hstored : VarChar.ofText 500 (normalizeRuleValue type value) = .ok stored) :
    stored.text = normalizeRuleValue type value :=
  text_of_ofText_trimmed (trimmed_normalizeRuleValue type value) hstored

variable {rules : List RuleRow}

theorem Stored.append (hrules : Stored rules) {row : RuleRow} (hfresh : row.id ∉ rules.map (·.id))
    (hrow : normalizeRuleValue row.type row.value.text = row.value.text) :
    Stored (rules ++ [row]) where
  distinct := by
    rw [List.map_append, List.map_singleton]
    exact List.Nodup.append hrules.distinct (List.nodup_singleton _)
      (List.disjoint_singleton.mpr hfresh)
  normalized := by
    intro rule hrule
    rcases List.mem_append.mp hrule with hold | hnew
    · exact hrules.normalized rule hold
    · exact List.mem_singleton.mp hnew ▸ hrow

theorem Stored.filter (hrules : Stored rules) (keep : RuleRow → Bool) :
    Stored (rules.filter keep) where
  distinct := hrules.distinct.sublist (List.filter_sublist.map _)
  normalized rule hrule := hrules.normalized rule (List.mem_filter.mp hrule).1

theorem Stored.map (hrules : Stored rules) {change : RuleRow → RuleRow}
    (hid : ∀ rule, (change rule).id = rule.id)
    (hvalue : ∀ rule ∈ rules, normalizeRuleValue (change rule).type (change rule).value.text =
      (change rule).value.text) :
    Stored (rules.map change) where
  distinct := by
    have hids : (rules.map change).map (·.id) = rules.map (·.id) := by
      rw [List.map_map]
      exact List.map_congr_left fun rule _ => hid rule
    rw [hids]
    exact hrules.distinct
  normalized := by
    intro rule hrule
    obtain ⟨old, hold, rfl⟩ := List.mem_map.mp hrule
    exact hvalue old hold

section Statements

variable {ctx : CallContext} {store store' : Store} {groupId : Text} {type : RuleType}

section

variable (hstore : Stored store.rules)
include hstore

theorem Stored.createRule {uuid : Text} {value : Text} {comment : Option Text}
    {result : CreateRuleResult}
    (hcreate : createRule ctx uuid groupId type value comment store = .ok (result, store')) :
    Stored store'.rules := by
  refine createRule_preserves hstore ?_ hcreate
  intro rows row hrows hfresh htype hvalue
  apply hrows.append hfresh
  rw [htype, text_of_normalized hvalue, normalizeRuleValue_idem]

theorem Stored.bulkCreateRules {draw : Nat} {values : List Text} {count : Nat}
    (hbulk : bulkCreateRules ctx draw groupId type values store = .ok (count, store')) :
    Stored store'.rules := by
  refine bulkCreateRules_preserves hstore ?_ hbulk
  intro value _ _ rows row hrows hfresh htype hvalue
  apply hrows.append hfresh
  rw [htype, text_of_normalized hvalue, normalizeRuleValue_idem]

theorem Stored.updateRule {id : Text} {updates : RuleUpdates} {result : Option RuleRow}
    (hupdate : updateRule ctx id updates store = .ok (result, store')) :
    Stored store'.rules := by
  rcases updateRule_cases hupdate with rfl | ⟨existing, value, comment, hexisting, hvalue, rfl⟩
  · exact hstore
  apply hstore.map
  · intro rule
    split <;> rfl
  intro rule hrule
  by_cases hid : rule.id = id
  · obtain rfl := eq_of_getRuleById hstore.distinct hexisting hrule hid
    rw [if_pos hid]
    rcases hvalue with ⟨-, rfl⟩ | ⟨text, stored, -, rfl, hstored⟩
    · exact hstore.normalized rule hrule
    · show normalizeRuleValue rule.type stored.text = stored.text
      rw [text_of_normalized hstored, normalizeRuleValue_idem]
  · rw [if_neg hid]
    exact hstore.normalized rule hrule

theorem Stored.copyRulesToGroup {draw : Nat} {fromGroupId toGroupId : Text}
    (hcopy : copyRulesToGroup ctx draw fromGroupId toGroupId store = .ok store') :
    Stored store'.rules := by
  refine insertCopies_preserves hstore ?_ hcopy
  intro rule hrule rows row hrows hfresh htype hvalue
  apply hrows.append hfresh
  rw [htype, hvalue]
  exact hstore.normalized rule (List.mem_filter.mp hrule).1

theorem Stored.enableRules (ids : List Text) (enabled : Bool) :
    Stored (enableRules ids enabled store).rules := by
  apply hstore.map
  · intro rule
    split <;> rfl
  · intro rule hrule
    split <;> exact hstore.normalized rule hrule

end

@[simp]
theorem touchGroupsOf_rules (ctx : CallContext) (rules : List RuleRow) (store : Store) :
    (touchGroupsOf ctx rules store).rules = store.rules := by
  unfold touchGroupsOf
  generalize (rules.map (·.groupId)).dedup = ids
  induction ids generalizing store with
  | nil => rfl
  | cons id ids ih => rw [List.foldl_cons, ih, touchGroupUpdatedAt_rules]

theorem deleteRule_rules (ctx : CallContext) (id : Text) (store : Store) :
    (deleteRule ctx id store).2.rules = (removeRules [id] store).rules := by
  unfold deleteRule
  split <;> rfl

theorem Stored.committed {α : Type} (hstore : Stored store.rules)
    {result : Except DbError (α × Store)}
    (hok : ∀ value after, result = .ok (value, after) → Stored after.rules) :
    Stored (GroupsStorage.committed store result).rules := by
  cases result with
  | error error => exact hstore
  | ok result => exact hok result.1 result.2 rfl

theorem Stored.getD (hstore : Stored store.rules) {result : Except DbError Store}
    (hok : ∀ after, result = .ok after → Stored after.rules) :
    Stored (result.toOption.getD store).rules := by
  cases result with
  | error error => exact hstore
  | ok after => exact hok after rfl

/-- Every statement keeps the rules as they are stored. -/
theorem Stored.apply (hstore : Stored store.rules) (mutation : Mutation) :
    Stored (mutation.apply store).rules := by
  cases mutation with
  | createGroup ctx uuid name displayName ownerUserId =>
      apply hstore.getD
      intro after hcreate
      rw [(createGroup_eq_ok hcreate).2]
      exact hstore
  | updateGroup ctx id displayName enabled visibility => exact hstore
  | deleteGroup id => exact hstore.filter _
  | toggleSystemStatus ctx enable => exact hstore
  | createRule ctx uuid groupId type value comment =>
      exact hstore.committed fun _ _ hcreate => hstore.createRule hcreate
  | updateRule ctx id updates =>
      exact hstore.committed fun _ _ hupdate => hstore.updateRule hupdate
  | deleteRule ctx id =>
      show Stored (GroupsStorage.deleteRule ctx id store).2.rules
      rw [deleteRule_rules]
      exact hstore.filter _
  | setRuleEnabled ctx id enabled =>
      show Stored (GroupsStorage.setRuleEnabled ctx id enabled store).2.rules
      unfold GroupsStorage.setRuleEnabled
      split
      · exact hstore
      · exact hstore.enableRules [id] enabled
  | bulkCreateRules ctx draw groupId type values =>
      exact hstore.committed fun _ _ hbulk => hstore.bulkCreateRules hbulk
  | bulkDeleteRules ctx ids =>
      show Stored (GroupsStorage.bulkDeleteRules ctx ids store).2.rules
      unfold GroupsStorage.bulkDeleteRules
      split
      · exact hstore
      · dsimp only
        rw [touchGroupsOf_rules]
        exact hstore.filter _
  | bulkSetRulesEnabled ctx ids enabled =>
      show Stored (GroupsStorage.bulkSetRulesEnabled ctx ids enabled store).2.rules
      unfold GroupsStorage.bulkSetRulesEnabled
      split
      · exact hstore
      · dsimp only
        rw [touchGroupsOf_rules]
        exact hstore.enableRules ids enabled
  | copyRulesToGroup ctx draw fromGroupId toGroupId =>
      exact hstore.getD fun _ hcopy => hstore.copyRulesToGroup hcopy

end Statements

end OpenPath.Api.GroupsStorage
