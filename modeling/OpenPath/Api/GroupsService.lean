/-
# Group and rule services

The service calls that create, change and copy rules. Each validates its input,
runs its statements in one transaction and reports an error without having
changed anything, so a call is a function to an error or to a result with the
new tables.
-/

import OpenPath.Api.GroupsStorage

namespace OpenPath.Api.GroupsService

open Foundation JavaScript RulesValidation

inductive ErrorCode
  | badRequest
  | forbidden
  | notFound
  | conflict
  | internalServerError
  deriving DecidableEq, Repr

/-- How a call fails: an error of the service, or a driver error it lets
through. -/
inductive ServiceFailure
  | error (code : ErrorCode) (message : String)
  | thrown (error : DbError)
  deriving DecidableEq, Repr

/-- Run the statements of a transaction, letting driver errors through. -/
def transaction {α : Type} (statements : Except DbError α) : Except ServiceFailure α :=
  statements.mapError .thrown

structure CreateRuleInput where
  groupId : Text
  type : RuleType
  value : Text
  comment : Option Text

structure BulkCreateRulesInput where
  groupId : Text
  type : RuleType
  values : List Text

/-- A missing value leaves the value alone; a missing comment leaves the comment
alone, and a null comment removes it. -/
structure UpdateRuleInput where
  id : Text
  groupId : Text
  value : Option Text
  comment : Option (Option Text)

/-- The name of the copy is the free name that was found for it. -/
structure CloneGroupInput where
  sourceGroupId : Text
  availableName : Text
  displayName : Text
  ownerUserId : Text

def ensureGroupExists (store : Store) (groupId : Text) : Except ServiceFailure Unit :=
  if (GroupsStorage.getGroupById store groupId).isSome then .ok ()
  else .error (.error .notFound "Group not found")

/-- Clean a value and validate what is left, as creating and updating do. -/
def cleanAndValidate (type : RuleType) (whenEmpty : String) (value : Text) :
    Except ServiceFailure Text :=
  let cleanedValue := cleanRuleValue value (type = .blockedPath)
  if cleanedValue = [] then .error (.error .badRequest whenEmpty)
  else
    match validateRuleValue cleanedValue type with
    | .error validation => .error (.error .badRequest validation.error)
    | .ok () => .ok cleanedValue

def createRule (ctx : CallContext) (input : CreateRuleInput) (store : Store) :
    Except ServiceFailure (Text × Store) := do
  let cleanedValue ← cleanAndValidate input.type "Value is required" input.value
  ensureGroupExists store input.groupId
  let (result, store) ← transaction
    (GroupsStorage.createRule ctx (ctx.uuid 0) input.groupId input.type cleanedValue
      input.comment store)
  match result.id with
  | none => .error (.error .conflict (result.error.getD "Rule already exists"))
  | some id => return (id, store)

def updateRule (ctx : CallContext) (input : UpdateRuleInput) (store : Store) :
    Except ServiceFailure (RuleRow × Store) := do
  ensureGroupExists store input.groupId
  let some existingRule := GroupsStorage.getRuleById store input.id
    | .error (.error .notFound "Rule not found")
  if existingRule.groupId ≠ input.groupId then
    .error (.error .badRequest "Rule does not belong to this group")
  let cleanedValue ←
    input.value.mapM (cleanAndValidate existingRule.type "Value cannot be empty")
  let (updated, store) ← transaction
    (GroupsStorage.updateRule ctx input.id { value := cleanedValue, comment := input.comment }
      store)
  match updated with
  | none => .error (.error .conflict "A rule with this value already exists")
  | some row => return (row, store)

/-- The values are cleaned; validating them is left to the caller. -/
def bulkCreateRules (ctx : CallContext) (input : BulkCreateRulesInput) (store : Store) :
    Except ServiceFailure (Nat × Store) := do
  ensureGroupExists store input.groupId
  let cleanedValues :=
    input.values.map fun value => cleanRuleValue value (input.type = .blockedPath)
  transaction (GroupsStorage.bulkCreateRules ctx 0 input.groupId input.type cleanedValues store)

def cloneGroup (ctx : CallContext) (input : CloneGroupInput) (store : Store) :
    Except ServiceFailure (Text × Store) := do
  let some source := GroupsStorage.getGroupById store input.sourceGroupId
    | .error (.error .notFound "Group not found")
  if (GroupsStorage.getGroupByName store input.availableName).isSome then
    .error (.error .conflict "A group with this name already exists")
  let createdGroupId := ctx.uuid 0
  let store ← transaction do
    let store ← GroupsStorage.createGroup ctx createdGroupId input.availableName
      input.displayName (some input.ownerUserId) store
    let store ← GroupsStorage.copyRulesToGroup ctx 1 source.id createdGroupId store
    return GroupsStorage.touchGroupUpdatedAt ctx createdGroupId store
  return (createdGroupId, store)

/-! ## What a successful call did -/

theorem cleanAndValidate_eq_ok {type : RuleType} {whenEmpty : String} {value cleaned : Text} :
    cleanAndValidate type whenEmpty value = .ok cleaned ↔
      cleaned = cleanRuleValue value (type = .blockedPath) ∧ cleaned ≠ [] ∧
        valid (validateRuleValue cleaned type) = true := by
  unfold cleanAndValidate
  dsimp only
  split
  · rename_i hempty
    refine ⟨?_, ?_⟩
    · intro h
      cases h
    · rintro ⟨rfl, nonempty, -⟩
      exact absurd hempty nonempty
  rename_i nonempty
  split
  · rename_i failure hfailure
    refine ⟨?_, ?_⟩
    · intro h
      cases h
    · rintro ⟨rfl, -, hvalid⟩
      rw [hfailure] at hvalid
      cases hvalid
  · rename_i hok
    refine ⟨?_, ?_⟩
    · intro h
      cases h
      exact ⟨rfl, nonempty, by rw [hok]; rfl⟩
    · rintro ⟨rfl, -, -⟩
      rfl

variable {ctx : CallContext} {store store' : Store}

theorem createRule_eq_ok {input : CreateRuleInput} {id : Text}
    (hcall : createRule ctx input store = .ok (id, store')) :
    ∃ cleaned result, cleanAndValidate input.type "Value is required" input.value = .ok cleaned ∧
      GroupsStorage.createRule ctx (ctx.uuid 0) input.groupId input.type cleaned input.comment
        store = .ok (result, store') := by
  obtain ⟨cleaned, hclean, hcall⟩ := bind_eq_ok.mp hcall
  obtain ⟨-, -, hcall⟩ := bind_eq_ok.mp hcall
  obtain ⟨⟨result, middle⟩, hcreate, hcall⟩ := bind_eq_ok.mp hcall
  refine ⟨cleaned, result, hclean, ?_⟩
  rw [transaction, mapError_eq_ok] at hcreate
  dsimp only at hcall
  split at hcall
  · cases hcall
  · obtain ⟨-, rfl⟩ := Prod.mk.inj (pure_eq_ok.mp hcall)
    exact hcreate

theorem updateRule_eq_ok {input : UpdateRuleInput} {row : RuleRow}
    (hcall : updateRule ctx input store = .ok (row, store')) :
    ∃ existing cleaned updated, GroupsStorage.getRuleById store input.id = some existing ∧
      input.value.mapM (cleanAndValidate existing.type "Value cannot be empty") = .ok cleaned ∧
      GroupsStorage.updateRule ctx input.id { value := cleaned, comment := input.comment }
        store = .ok (updated, store') := by
  obtain ⟨-, -, hcall⟩ := bind_eq_ok.mp hcall
  split at hcall
  · rename_i existing hexisting
    dsimp only at hcall
    split at hcall
    · cases hcall
    obtain ⟨cleaned, hclean, hcall⟩ := bind_eq_ok.mp hcall
    obtain ⟨⟨updated, middle⟩, hupdate, hcall⟩ := bind_eq_ok.mp hcall
    refine ⟨existing, cleaned, updated, hexisting, hclean, ?_⟩
    rw [transaction, mapError_eq_ok] at hupdate
    dsimp only at hcall
    split at hcall
    · cases hcall
    · obtain ⟨-, rfl⟩ := Prod.mk.inj (pure_eq_ok.mp hcall)
      exact hupdate
  · cases hcall

theorem bulkCreateRules_eq_ok {input : BulkCreateRulesInput} {count : Nat}
    (hcall : bulkCreateRules ctx input store = .ok (count, store')) :
    GroupsStorage.bulkCreateRules ctx 0 input.groupId input.type
      (input.values.map fun value => cleanRuleValue value (input.type = .blockedPath)) store =
        .ok (count, store') := by
  obtain ⟨-, -, hcall⟩ := bind_eq_ok.mp hcall
  exact mapError_eq_ok.mp hcall

theorem cloneGroup_eq_ok {input : CloneGroupInput} {id : Text}
    (hcall : cloneGroup ctx input store = .ok (id, store')) :
    ∃ source created copied,
      GroupsStorage.getGroupById store input.sourceGroupId = some source ∧
      GroupsStorage.createGroup ctx id input.availableName input.displayName
        (some input.ownerUserId) store = .ok created ∧
      GroupsStorage.copyRulesToGroup ctx 1 source.id id created = .ok copied ∧
      store' = GroupsStorage.touchGroupUpdatedAt ctx id copied := by
  unfold cloneGroup at hcall
  split at hcall
  · rename_i source hsource
    dsimp only at hcall
    split at hcall
    · cases hcall
    obtain ⟨after, hstatements, hcall⟩ := bind_eq_ok.mp hcall
    obtain ⟨rfl, rfl⟩ := Prod.mk.inj (pure_eq_ok.mp hcall)
    rw [transaction, mapError_eq_ok] at hstatements
    obtain ⟨created, hcreated, hstatements⟩ := bind_eq_ok.mp hstatements
    obtain ⟨copied, hcopied, hstatements⟩ := bind_eq_ok.mp hstatements
    obtain rfl := pure_eq_ok.mp hstatements
    exact ⟨source, created, copied, hsource, hcreated, hcopied, rfl⟩
  · cases hcall

end OpenPath.Api.GroupsService
