/-
# Which documents a statement changes

A document depends on its group's flag and on the types, values and flags of the
group's rules. Each statement changes the document of at most the group that its
rule belongs to, or that it is given.
-/

import OpenPath.Api.ExportGroup
import OpenPath.Api.Mutations

namespace OpenPath.Api.ExportGroup

open Foundation RulesValidation GroupsStorage

variable {ctx : CallContext} {store store' : Store} {change : GroupRow → GroupRow}

theorem getGroupById_map (hid : ∀ row, (change row).id = row.id) (id : Text) :
    (store.groups.map change).find? (·.id = id) = (getGroupById store id).map change := by
  unfold getGroupById
  rw [List.find?_map]
  simp only [Function.comp_def, hid]

variable {groupId : Text}

/-- A change of group rows that keeps their identifiers and, where the document
is looked at, their flags. -/
theorem sameExport_groups (hid : ∀ row, (change row).id = row.id)
    (henabled : ∀ row, getGroupById store groupId = some row → (change row).enabled = row.enabled) :
    SameExport groupId store { store with groups := store.groups.map change } := by
  refine ⟨?_, rfl⟩
  show ((store.groups.map change).find? _).map _ = _
  rw [getGroupById_map hid, Option.map_map]
  apply Option.map_congr
  intro row hrow
  exact henabled row hrow

theorem sameExport_touch (ctx : CallContext) (id groupId : Text) (store : Store) :
    SameExport groupId store (touchGroupUpdatedAt ctx id store) := by
  apply sameExport_groups
  · intro row
    split <;> rfl
  · intro row _
    split <;> rfl

theorem sameExport_touchGroupsOf (ctx : CallContext) (rules : List RuleRow) (groupId : Text)
    (store : Store) : SameExport groupId store (touchGroupsOf ctx rules store) := by
  unfold touchGroupsOf
  generalize (rules.map (·.groupId)).dedup = ids
  induction ids generalizing store with
  | nil => exact .refl groupId store
  | cons id ids ih => exact (sameExport_touch ctx id groupId store).trans (ih _)

variable {other : Text} {type : RuleType}

/-- Creating a rule changes at most the document of its group. -/
theorem sameExport_createRule {uuid : Text} {value : Text} {comment : Option Text}
    {result : CreateRuleResult}
    (hcreate : createRule ctx uuid groupId type value comment store = .ok (result, store'))
    (hother : result.success = true → other ≠ groupId) : SameExport other store store' := by
  rcases createRule_cases hcreate with ⟨-, rfl⟩ | ⟨row, -, -, hgroup, -, -, -, hsuccess, rfl⟩
  · exact .refl other _
  · have hne : row.groupId ≠ other := hgroup ▸ (hother hsuccess).symm
    have hrow : SameExport other store { store with rules := store.rules ++ [row] } := by
      refine ⟨rfl, ?_⟩
      simp [exportedRules, listRuleRowsByGroup, List.filter_append, hne]
    exact hrow.trans (sameExport_touch ctx groupId other _)

theorem sameExport_bulkCreateRules {draw : Nat} {values : List Text} {count : Nat}
    (hbulk : bulkCreateRules ctx draw groupId type values store = .ok (count, store'))
    (hother : 0 < count → other ≠ groupId) : SameExport other store store' := by
  induction values generalizing draw store count with
  | nil =>
      obtain ⟨-, rfl⟩ := Prod.mk.inj (pure_eq_ok.mp hbulk)
      exact .refl other _
  | cons value values ih =>
      unfold bulkCreateRules at hbulk
      dsimp only at hbulk
      split at hbulk
      · exact ih hbulk hother
      · obtain ⟨⟨result, middle⟩, hcreate, hbulk⟩ := bind_eq_ok.mp hbulk
        obtain ⟨⟨counted, last⟩, hloop, hbulk⟩ := bind_eq_ok.mp hbulk
        obtain ⟨hcount, rfl⟩ := Prod.mk.inj (pure_eq_ok.mp hbulk)
        have hfirst := sameExport_createRule hcreate fun hsuccess =>
          hother (by rw [← hcount, if_pos hsuccess]; omega)
        refine hfirst.trans (ih hloop fun hpositive => hother ?_)
        rw [← hcount]
        split <;> omega

variable {ids : List Text}

theorem exportedRules_removeRules
    (hnone : ∀ rule ∈ store.rules, rule.id ∈ ids → rule.groupId ≠ groupId) :
    exportedRules (removeRules ids store) groupId = exportedRules store groupId := by
  unfold exportedRules listRuleRowsByGroup removeRules
  dsimp only
  rw [List.filter_filter]
  congr 1
  apply List.filter_congr
  intro rule hrule
  by_cases hgroup : rule.groupId = groupId
  · have hkept : rule.id ∉ ids := fun h => hnone rule hrule h hgroup
    simp [hgroup, hkept]
  · simp [hgroup]

variable {id : Text}

/-- Deleting a rule changes at most the document of its group. -/
theorem sameExport_deleteRule (hstore : Stored store.rules)
    (hother : ∀ rule, getRuleById store id = some rule → rule.groupId ≠ other) :
    SameExport other store (deleteRule ctx id store).2 := by
  have hrules : SameExport other store (removeRules [id] store) := by
    refine ⟨rfl, exportedRules_removeRules ?_⟩
    intro rule hrule hid
    cases hfind : getRuleById store id with
    | none =>
        have hnone := List.find?_eq_none.mp hfind rule hrule
        simp [List.mem_singleton.mp hid] at hnone
    | some existing =>
        rw [eq_of_getRuleById hstore.distinct hfind hrule (List.mem_singleton.mp hid)]
        exact hother existing hfind
  unfold deleteRule
  split
  · exact hrules
  · exact hrules.trans (sameExport_touch ctx _ other _)

theorem sameExport_bulkDeleteRules (hstore : Stored store.rules)
    (hother : ∀ id ∈ ids, ∀ rule, getRuleById store id = some rule → rule.groupId ≠ other) :
    SameExport other store (bulkDeleteRules ctx ids store).2 := by
  have hrules : SameExport other store (removeRules ids store) := by
    refine ⟨rfl, exportedRules_removeRules ?_⟩
    intro rule hrule hid
    cases hfind : getRuleById store rule.id with
    | none =>
        have hnone := List.find?_eq_none.mp hfind rule hrule
        simp at hnone
    | some existing =>
        rw [eq_of_getRuleById hstore.distinct hfind hrule rfl]
        exact hother rule.id hid existing hfind
  unfold bulkDeleteRules
  split
  · exact .refl other store
  · exact hrules.trans (sameExport_touchGroupsOf ctx _ other _)

/-- Updating a rule changes at most the document of its group, and that only if
it gives the rule another value. -/
theorem sameExport_updateRule (hstore : Stored store.rules) {updates : RuleUpdates}
    {result : Option RuleRow} (hupdate : updateRule ctx id updates store = .ok (result, store'))
    (hother : ∀ existing, getRuleById store id = some existing → existing.groupId = other →
      ∀ value ∈ updates.value, normalizeRuleValue existing.type value = existing.value.text) :
    SameExport other store store' := by
  rcases updateRule_cases hupdate with rfl | ⟨existing, value, comment, hexisting, hvalue, rfl⟩
  · exact .refl other _
  suffices hset : SameExport other store (setRule id value comment store) from
    hset.trans (sameExport_touch ctx existing.groupId other _)
  refine ⟨rfl, ?_⟩
  show ((store.rules.map _).filter _).map exported = _
  rw [List.filter_map, List.map_map]
  have hfilter : store.rules.filter ((fun row : RuleRow => row.groupId = other &&
      Option.all (fun type => decide (row.type = type)) none) ∘ fun row => if row.id = id then
        { row with value := value.getD row.value, comment := comment.getD row.comment }
        else row) = listRuleRowsByGroup store other none := by
    apply List.filter_congr
    intro row _
    rw [Function.comp_apply]
    split <;> rfl
  rw [hfilter]
  apply List.map_congr_left
  intro row hrow
  rw [Function.comp_apply]
  by_cases hid : row.id = id
  · rw [if_pos hid]
    obtain ⟨hmem, hgroup⟩ := List.mem_filter.mp hrow
    obtain rfl := eq_of_getRuleById hstore.distinct hexisting hmem hid
    have hsame : (value.getD row.value).text = row.value.text := by
      rcases hvalue with ⟨-, rfl⟩ | ⟨text, stored, htext, rfl, hstored⟩
      · rfl
      · show stored.text = row.value.text
        rw [text_of_normalized hstored]
        exact hother row hexisting (by simpa using hgroup) text htext
    rw [exported, exported, hsame]
  · rw [if_neg hid]

theorem sameExport_updateGroup {displayName : Text} {enabled : Bool}
    {visibility : Option GroupVisibility}
    (hother : other = id → ∀ row, getGroupById store id = some row → row.enabled = enabled) :
    SameExport other store (updateGroup ctx id displayName enabled visibility store) := by
  apply sameExport_groups
  · intro row
    split <;> rfl
  · intro row hrow
    split
    · rename_i hid
      have hfound : row.id = other := by simpa using List.find?_some hrow
      have hsame : other = id := hfound.symm.trans hid
      exact (hother hsame row (hsame ▸ hrow)).symm
    · rfl

end OpenPath.Api.ExportGroup
