/-
# Storage of groups and rules

The statements that the services run inside a transaction. Each returns the new
tables, or the error with which the database refused it; a refused statement
aborts its transaction, so no tables are returned with an error.
-/

import OpenPath.Api.Database
import OpenPath.Foundation.Except

namespace OpenPath.Api.GroupsStorage

open Foundation JavaScript RulesValidation

/-- `normalize.domain` -/
def normalizeDomain (domain : Text) : Text := trim (toLowerCase domain)

def normalizeRuleValue (type : RuleType) (value : Text) : Text :=
  if type = .blockedPath then trim value else normalizeDomain value

/-- Result of creating a rule. -/
structure CreateRuleResult where
  success : Bool
  id : Option Text
  error : Option String
  deriving DecidableEq, Repr

/-! ## Queries -/

def getGroupById (store : Store) (id : Text) : Option GroupRow :=
  store.groups.find? (·.id = id)

def getGroupByName (store : Store) (name : Text) : Option GroupRow :=
  store.groups.find? (·.name = name)

def getRuleById (store : Store) (id : Text) : Option RuleRow :=
  store.rules.find? (·.id = id)

/-- The rows with the listed identifiers, in the order of the list. -/
def getRulesByIds (store : Store) (ids : List Text) : List RuleRow :=
  ids.filterMap (getRuleById store)

/-- The row with the unique key of a group, a type and a value. -/
def findRule (store : Store) (groupId : Text) (type : RuleType) (value : Text) :
    Option RuleRow :=
  store.rules.find? fun row =>
    row.groupId = groupId && row.type = type && row.value.text = value

def listRuleRowsByGroup (store : Store) (groupId : Text) (type : Option RuleType) :
    List RuleRow :=
  store.rules.filter fun row =>
    row.groupId = groupId && type.all (row.type = ·)

/-- The rules of a group in the order of the collation. -/
def getRulesByGroup (ctx : CallContext) (store : Store) (groupId : Text)
    (type : Option RuleType) : List RuleRow :=
  (listRuleRowsByGroup store groupId type).insertionSort fun left right =>
    ctx.localeLe left.value.text right.value.text

/-- Whether a blocked-subdomain pattern covers a domain. -/
def patternBlocks (pattern domainLower : Text) : Bool :=
  pattern == domainLower || endsWith domainLower ('.' :: pattern) ||
    (startsWith pattern "*.".toList &&
      (domainLower == pattern.drop 2 || endsWith domainLower ('.' :: pattern.drop 2)))

/-- The first blocked-subdomain rule of the group that covers the domain. -/
def isDomainBlocked (ctx : CallContext) (store : Store) (groupId domain : Text) :
    Option Text :=
  ((getRulesByGroup ctx store groupId (some .blockedSubdomain)).map
    fun rule => toLowerCase rule.value.text).find? fun pattern =>
      patternBlocks pattern (normalizeDomain domain)

/-! ## Statements -/

def touchGroupUpdatedAt (ctx : CallContext) (id : Text) (store : Store) : Store :=
  { store with
    groups := store.groups.map fun row =>
      if row.id = id then { row with updatedAt := ctx.now } else row }

/-- `INSERT INTO whitelist_rules`, with the constraints of the table. -/
def insertRule (row : RuleRow) (store : Store) : Except DbError Store :=
  if store.rules.any (·.id = row.id) then .error .uniqueViolation
  else if (findRule store row.groupId row.type row.value.text).isSome then
    .error .uniqueViolation
  else if store.groups.all (·.id ≠ row.groupId) then .error .foreignKeyViolation
  else .ok { store with rules := store.rules ++ [row] }

def createRule (ctx : CallContext) (uuid groupId : Text) (type : RuleType) (value : Text)
    (comment : Option Text) (store : Store) : Except DbError (CreateRuleResult × Store) := do
  let normalizedValue := normalizeRuleValue type value
  if (findRule store groupId type normalizedValue).isSome then
    return ({ success := false, id := none, error := some "Rule already exists" }, store)
  let stored ← VarChar.ofText 500 normalizedValue
  let comment ← comment.mapM DbText.ofText
  let store ← insertRule
    { id := uuid, groupId, type, value := stored, enabled := true, comment,
      createdAt := ctx.now }
    store
  return ({ success := true, id := some uuid, error := none },
    touchGroupUpdatedAt ctx groupId store)

/-- The new values of the columns that an update of a rule supplies: `none`
leaves a column alone, and the comment may be set to null. -/
structure RuleUpdates where
  value : Option Text
  comment : Option (Option Text)

/-- The `UPDATE whitelist_rules` of one row. -/
def setRule (id : Text) (value : Option (VarChar 500)) (comment : Option (Option DbText))
    (store : Store) : Store :=
  { store with
    rules := store.rules.map fun row =>
      if row.id = id then
        { row with value := value.getD row.value, comment := comment.getD row.comment }
      else row }

/-- Update a rule. The result says whether the row was there and its new value
free; the row that is read back is the one before the transaction commits. -/
def updateRule (ctx : CallContext) (id : Text) (updates : RuleUpdates) (store : Store) :
    Except DbError (Option RuleRow × Store) := do
  let some existing := getRuleById store id | return (none, store)
  let normalized := updates.value.map (normalizeRuleValue existing.type)
  let duplicate := normalized.bind (findRule store existing.groupId existing.type)
  if duplicate.any (·.id ≠ id) then return (none, store)
  if updates.value.isNone && updates.comment.isNone then
    return (getRuleById store id, store)
  let value ← normalized.mapM (VarChar.ofText 500)
  let comment ← updates.comment.mapM (·.mapM DbText.ofText)
  return (getRuleById store id,
    touchGroupUpdatedAt ctx existing.groupId (setRule id value comment store))

/-- Create the rules of a list one after another; a value that is empty after
normalization is skipped. The result counts the rules that were new. -/
def bulkCreateRules (ctx : CallContext) (draw : Nat) (groupId : Text) (type : RuleType) :
    List Text → Store → Except DbError (Nat × Store)
  | [], store => return (0, store)
  | value :: values, store => do
      let normalizedValue := normalizeDomain value
      if normalizedValue = [] then bulkCreateRules ctx draw groupId type values store
      else
        let (result, store) ←
          createRule ctx (ctx.uuid draw) groupId type normalizedValue none store
        let (count, store) ←
          bulkCreateRules ctx (if result.success then draw + 1 else draw) groupId type values
            store
        return (if result.success then count + 1 else count, store)

/-- The rows with the listed identifiers, as the table has them. -/
def rulesIn (ids : List Text) (store : Store) : List RuleRow :=
  store.rules.filter fun row => ids.contains row.id

/-- `DELETE FROM whitelist_rules` of the listed rows. -/
def removeRules (ids : List Text) (store : Store) : Store :=
  { store with rules := store.rules.filter fun row => !ids.contains row.id }

/-- `UPDATE whitelist_rules SET enabled` of the listed rows. -/
def enableRules (ids : List Text) (enabled : Bool) (store : Store) : Store :=
  { store with
    rules := store.rules.map fun row =>
      if ids.contains row.id then { row with enabled := enabled } else row }

/-- Touch the groups of a list of rules. -/
def touchGroupsOf (ctx : CallContext) (rules : List RuleRow) (store : Store) : Store :=
  (rules.map (·.groupId)).dedup.foldl (fun store id => touchGroupUpdatedAt ctx id store) store

/-- Whether a rule was deleted, and the tables after it. -/
def deleteRule (ctx : CallContext) (id : Text) (store : Store) : Bool × Store :=
  match getRuleById store id with
  | none => (false, removeRules [id] store)
  | some existing => (true, touchGroupUpdatedAt ctx existing.groupId (removeRules [id] store))

/-- How many rules were deleted, and the tables after it. -/
def bulkDeleteRules (ctx : CallContext) (ids : List Text) (store : Store) : Nat × Store :=
  if ids = [] then (0, store)
  else
    let existingRules := rulesIn ids store
    (existingRules.length, touchGroupsOf ctx existingRules (removeRules ids store))

/-- Enable or disable a rule. The row that is read back is the one before the
transaction commits. -/
def setRuleEnabled (ctx : CallContext) (id : Text) (enabled : Bool) (store : Store) :
    Option RuleRow × Store :=
  match getRuleById store id with
  | none => (none, store)
  | some existing =>
      (some existing, touchGroupUpdatedAt ctx existing.groupId (enableRules [id] enabled store))

/-- How many rules were enabled or disabled, and the tables after it. -/
def bulkSetRulesEnabled (ctx : CallContext) (ids : List Text) (enabled : Bool) (store : Store) :
    Nat × Store :=
  if ids = [] then (0, store)
  else
    let existingRules := rulesIn ids store
    (existingRules.length, touchGroupsOf ctx existingRules (enableRules ids enabled store))

def updateGroup (ctx : CallContext) (id displayName : Text) (enabled : Bool)
    (visibility : Option GroupVisibility) (store : Store) : Store :=
  { store with
    groups := store.groups.map fun row =>
      if row.id = id then
        { row with
          displayName := displayName
          enabled := enabled
          visibility := visibility.getD row.visibility
          updatedAt := ctx.now }
      else row }

/-- Delete a group, and with it its rules and the requests for it. -/
def deleteGroup (id : Text) (store : Store) : Store where
  groups := store.groups.filter (·.id ≠ id)
  rules := store.rules.filter (·.groupId ≠ id)
  requests := store.requests.filter (·.groupId ≠ id)

def toggleSystemStatus (ctx : CallContext) (enable : Bool) (store : Store) : Store :=
  { store with
    groups := store.groups.map fun row => { row with enabled := enable, updatedAt := ctx.now } }

/-- Insert a group; the name must be free. -/
def createGroup (ctx : CallContext) (uuid name displayName : Text) (ownerUserId : Option Text)
    (store : Store) : Except DbError Store :=
  if store.groups.any fun row => row.id = uuid || row.name = name then
    .error .uniqueViolation
  else
    .ok { store with
      groups := store.groups ++
        [{ id := uuid, name, displayName, enabled := true, visibility := .priv, ownerUserId,
           updatedAt := ctx.now }] }

/-- Insert a copy of each listed rule into another group. -/
def insertCopies (ctx : CallContext) (draw : Nat) (toGroupId : Text) :
    List RuleRow → Store → Except DbError Store
  | [], store => return store
  | rule :: rules, store => do
      let store ← insertRule
        { id := ctx.uuid draw, groupId := toGroupId, type := rule.type, value := rule.value,
          enabled := true, comment := rule.comment, createdAt := ctx.now }
        store
      insertCopies ctx (draw + 1) toGroupId rules store

/-- Copy the rules of a group: type, value and comment. -/
def copyRulesToGroup (ctx : CallContext) (draw : Nat) (fromGroupId toGroupId : Text)
    (store : Store) : Except DbError Store :=
  insertCopies ctx draw toGroupId (listRuleRowsByGroup store fromGroupId none) store

/-! ## What a statement can do -/

theorem text_of_ofText_trimmed {value : Text} {stored : VarChar 500}
    (trimmed : Trimmed isSpace value) (hstored : VarChar.ofText 500 value = .ok stored) :
    stored.text = value := by
  refine VarChar.text_of_ofText ?_ hstored
  intro hlast
  have := trimmed.2 ' ' hlast
  revert this
  decide

variable {store : Store} {row : RuleRow}

/-- A row with the identifier that was looked up is the row that was found. -/
theorem eq_of_getRuleById (distinct : (store.rules.map (·.id)).Nodup) {id : Text}
    {existing : RuleRow} (hexisting : getRuleById store id = some existing)
    (hrow : row ∈ store.rules) (hid : row.id = id) : row = existing := by
  have hmember := List.mem_of_find?_eq_some hexisting
  have hfound : existing.id = id := by simpa using List.find?_some hexisting
  exact List.inj_on_of_nodup_map distinct hrow hmember (hid.trans hfound.symm)

@[simp]
theorem touchGroupUpdatedAt_rules (ctx : CallContext) (id : Text) (store : Store) :
    (touchGroupUpdatedAt ctx id store).rules = store.rules :=
  rfl

variable {store' : Store}

theorem insertRule_eq_ok (hinsert : insertRule row store = .ok store') :
    row.id ∉ store.rules.map (·.id) ∧
      store' = { store with rules := store.rules ++ [row] } := by
  unfold insertRule at hinsert
  split at hinsert
  · cases hinsert
  rename_i hfresh
  split at hinsert
  · cases hinsert
  split at hinsert
  · cases hinsert
  · cases hinsert
    refine ⟨?_, rfl⟩
    simpa using hfresh

/-- The group row that is inserted: a new group is enabled. -/
def newGroup (ctx : CallContext) (uuid name displayName : Text) (ownerUserId : Option Text) :
    GroupRow where
  id := uuid
  name := name
  displayName := displayName
  enabled := true
  visibility := .priv
  ownerUserId := ownerUserId
  updatedAt := ctx.now

variable {ctx : CallContext} {uuid : Text}

theorem createGroup_eq_ok {name displayName : Text} {ownerUserId : Option Text}
    (hcreate : createGroup ctx uuid name displayName ownerUserId store = .ok store') :
    (∀ row ∈ store.groups, row.id ≠ uuid) ∧
      store' = { store with
        groups := store.groups ++ [newGroup ctx uuid name displayName ownerUserId] } := by
  unfold createGroup at hcreate
  split at hcreate
  · cases hcreate
  · rename_i hfresh
    cases hcreate
    refine ⟨?_, rfl⟩
    intro row hrow hid
    exact hfresh (List.any_eq_true.mpr ⟨row, hrow, by simp [hid]⟩)

/-- What the copy of a rule keeps; a copy is always enabled. -/
structure CopyOf (toGroupId : Text) (rule copy : RuleRow) : Prop where
  groupId : copy.groupId = toGroupId
  type : copy.type = rule.type
  value : copy.value = rule.value
  enabled : copy.enabled = true

theorem insertCopies_eq_ok {draw : Nat} {toGroupId : Text} {rules : List RuleRow}
    (hinsert : insertCopies ctx draw toGroupId rules store = .ok store') :
    ∃ copies, List.Forall₂ (CopyOf toGroupId) rules copies ∧
      store' = { store with rules := store.rules ++ copies } := by
  induction rules generalizing draw store with
  | nil =>
      obtain rfl := pure_eq_ok.mp hinsert
      exact ⟨[], .nil, by simp⟩
  | cons rule rules ih =>
      unfold insertCopies at hinsert
      obtain ⟨middle, hfirst, hinsert⟩ := bind_eq_ok.mp hinsert
      obtain ⟨-, rfl⟩ := insertRule_eq_ok hfirst
      obtain ⟨copies, hcopies, rfl⟩ := ih hinsert
      let copy : RuleRow :=
        { id := ctx.uuid draw, groupId := toGroupId, type := rule.type, value := rule.value,
          enabled := true, comment := rule.comment, createdAt := ctx.now }
      exact ⟨copy :: copies, .cons ⟨rfl, rfl, rfl, rfl⟩ hcopies, by simp [copy]⟩

variable {result : CreateRuleResult}

/-- Creating a rule leaves the tables alone because the rule is there, or adds
one enabled row with the normalized value. -/
theorem createRule_cases {groupId : Text} {type : RuleType} {value : Text} {comment : Option Text}
    (hcreate : createRule ctx uuid groupId type value comment store = .ok (result, store')) :
    (result.success = false ∧ store' = store) ∨
      ∃ row : RuleRow, row.id = uuid ∧ row.id ∉ store.rules.map (·.id) ∧
        row.groupId = groupId ∧ row.type = type ∧
        VarChar.ofText 500 (normalizeRuleValue type value) = .ok row.value ∧
        row.enabled = true ∧ result.success = true ∧
        store' = touchGroupUpdatedAt ctx groupId
          { store with rules := store.rules ++ [row] } := by
  unfold createRule at hcreate
  dsimp only at hcreate
  split at hcreate
  · obtain ⟨rfl, rfl⟩ := Prod.mk.inj (pure_eq_ok.mp hcreate)
    exact Or.inl ⟨rfl, rfl⟩
  · obtain ⟨stored, hstored, hcreate⟩ := bind_eq_ok.mp hcreate
    obtain ⟨note, -, hcreate⟩ := bind_eq_ok.mp hcreate
    obtain ⟨inserted, hinsert, hcreate⟩ := bind_eq_ok.mp hcreate
    obtain ⟨rfl, rfl⟩ := Prod.mk.inj (pure_eq_ok.mp hcreate)
    obtain ⟨hfresh, rfl⟩ := insertRule_eq_ok hinsert
    exact Or.inr ⟨_, rfl, hfresh, rfl, rfl, hstored, rfl, rfl, rfl⟩

/-- The identifier of a rule is returned exactly if one was created. -/
theorem createRule_id {groupId : Text} {type : RuleType} {value : Text} {comment : Option Text}
    (hcreate : createRule ctx uuid groupId type value comment store = .ok (result, store')) :
    result.id.isSome = result.success := by
  unfold createRule at hcreate
  dsimp only at hcreate
  split at hcreate
  · obtain ⟨rfl, -⟩ := Prod.mk.inj (pure_eq_ok.mp hcreate)
    rfl
  · obtain ⟨stored, -, hcreate⟩ := bind_eq_ok.mp hcreate
    obtain ⟨note, -, hcreate⟩ := bind_eq_ok.mp hcreate
    obtain ⟨inserted, -, hcreate⟩ := bind_eq_ok.mp hcreate
    obtain ⟨rfl, -⟩ := Prod.mk.inj (pure_eq_ok.mp hcreate)
    rfl

variable {updates : RuleUpdates}

/-- Updating a rule leaves the tables alone, or changes the rows with its
identifier; a new value is the normalized one. -/
theorem updateRule_cases {id : Text} {result : Option RuleRow}
    (hupdate : updateRule ctx id updates store = .ok (result, store')) :
    store' = store ∨
      ∃ existing value comment, getRuleById store id = some existing ∧
        ((updates.value = none ∧ value = none) ∨
          ∃ text stored, updates.value = some text ∧ value = some stored ∧
            VarChar.ofText 500 (normalizeRuleValue existing.type text) = .ok stored) ∧
        store' = touchGroupUpdatedAt ctx existing.groupId (setRule id value comment store) := by
  unfold updateRule at hupdate
  split at hupdate
  · rename_i existing hexisting
    dsimp only at hupdate
    split at hupdate
    · obtain ⟨-, rfl⟩ := Prod.mk.inj (pure_eq_ok.mp hupdate)
      exact Or.inl rfl
    split at hupdate
    · obtain ⟨-, rfl⟩ := Prod.mk.inj (pure_eq_ok.mp hupdate)
      exact Or.inl rfl
    · obtain ⟨value, hvalue, hupdate⟩ := bind_eq_ok.mp hupdate
      obtain ⟨comment, -, hupdate⟩ := bind_eq_ok.mp hupdate
      obtain ⟨-, rfl⟩ := Prod.mk.inj (pure_eq_ok.mp hupdate)
      refine Or.inr ⟨existing, value, comment, hexisting, ?_, rfl⟩
      rcases option_mapM_eq_ok.mp hvalue with ⟨hnone, rfl⟩ | ⟨text, stored, hsome, hstored, rfl⟩
      · exact Or.inl ⟨by simpa using hnone, rfl⟩
      · obtain ⟨raw, hraw, rfl⟩ := Option.map_eq_some_iff.mp hsome
        exact Or.inr ⟨raw, stored, hraw, rfl, hstored⟩
  · obtain ⟨-, rfl⟩ := Prod.mk.inj (pure_eq_ok.mp hupdate)
    exact Or.inl rfl

/-- Only an update that finds no row, or a taken value, has no result. -/
theorem updateRule_of_none {id : Text}
    (hupdate : updateRule ctx id updates store = .ok (none, store')) :
    store' = store := by
  unfold updateRule at hupdate
  split at hupdate
  · rename_i existing hexisting
    dsimp only at hupdate
    split at hupdate
    · exact (Prod.mk.inj (pure_eq_ok.mp hupdate)).2.symm
    split at hupdate
    · exact (Prod.mk.inj (pure_eq_ok.mp hupdate)).2.symm
    · obtain ⟨value, -, hupdate⟩ := bind_eq_ok.mp hupdate
      obtain ⟨comment, -, hupdate⟩ := bind_eq_ok.mp hupdate
      have hresult := (Prod.mk.inj (pure_eq_ok.mp hupdate)).1
      rw [hexisting] at hresult
      cases hresult
  · exact (Prod.mk.inj (pure_eq_ok.mp hupdate)).2.symm

/-! ## Invariants of the rule table

An invariant of the list of rules is kept by the statements that insert if it is
kept by adding a row under a fresh identifier. -/

section RuleInvariant

variable {inv : List RuleRow → Prop} {ctx : CallContext} {store store' : Store}

theorem createRule_preserves {uuid groupId : Text} {type : RuleType} {value : Text}
    {comment : Option Text} {result : CreateRuleResult} (hinv : inv store.rules)
    (hnew : ∀ (rows : List RuleRow) (row : RuleRow), inv rows → row.id ∉ rows.map (·.id) →
      row.type = type → VarChar.ofText 500 (normalizeRuleValue type value) = .ok row.value →
        inv (rows ++ [row]))
    (hcreate : createRule ctx uuid groupId type value comment store = .ok (result, store')) :
    inv store'.rules := by
  rcases createRule_cases hcreate with ⟨-, rfl⟩ | ⟨row, -, hfresh, -, htype, hvalue, -, -, rfl⟩
  · exact hinv
  · exact hnew store.rules row hinv hfresh htype hvalue

/-- The induction is on the list of values; the values before the first one have
been inserted already. -/
theorem bulkCreateRules_preserves {draw : Nat} {groupId : Text} {type : RuleType}
    {values : List Text} {count : Nat} (hinv : inv store.rules)
    (hnew : ∀ value ∈ values, normalizeDomain value ≠ [] →
      ∀ (rows : List RuleRow) (row : RuleRow), inv rows → row.id ∉ rows.map (·.id) →
        row.type = type →
        VarChar.ofText 500 (normalizeRuleValue type (normalizeDomain value)) = .ok row.value →
          inv (rows ++ [row]))
    (hbulk : bulkCreateRules ctx draw groupId type values store = .ok (count, store')) :
    inv store'.rules := by
  induction values generalizing draw store count with
  | nil =>
      obtain ⟨-, rfl⟩ := Prod.mk.inj (pure_eq_ok.mp hbulk)
      exact hinv
  | cons value values ih =>
      have hrest := fun other (hother : other ∈ values) => hnew other (by simp [hother])
      unfold bulkCreateRules at hbulk
      dsimp only at hbulk
      split at hbulk
      · exact ih hinv hrest hbulk
      · rename_i nonempty
        obtain ⟨⟨result, middle⟩, hcreate, hbulk⟩ := bind_eq_ok.mp hbulk
        obtain ⟨⟨counted, last⟩, hloop, hbulk⟩ := bind_eq_ok.mp hbulk
        obtain ⟨-, rfl⟩ := Prod.mk.inj (pure_eq_ok.mp hbulk)
        have hmiddle := createRule_preserves hinv (hnew value (by simp) nonempty) hcreate
        exact ih hmiddle hrest hloop

theorem insertCopies_preserves {draw : Nat} {toGroupId : Text} {rules : List RuleRow}
    (hinv : inv store.rules)
    (hcopy : ∀ rule ∈ rules, ∀ (rows : List RuleRow) (row : RuleRow), inv rows →
      row.id ∉ rows.map (·.id) → row.type = rule.type → row.value = rule.value →
        inv (rows ++ [row])) (hinsert : insertCopies ctx draw toGroupId rules store = .ok store') :
    inv store'.rules := by
  induction rules generalizing draw store with
  | nil =>
      obtain rfl := pure_eq_ok.mp hinsert
      exact hinv
  | cons rule rules ih =>
      unfold insertCopies at hinsert
      obtain ⟨middle, hfirst, hinsert⟩ := bind_eq_ok.mp hinsert
      obtain ⟨hfresh, rfl⟩ := insertRule_eq_ok hfirst
      refine ih ?_ (fun other hother => hcopy other (by simp [hother])) hinsert
      exact hcopy rule (by simp) _ _ hinv hfresh rfl rfl

end RuleInvariant

end OpenPath.Api.GroupsStorage
