/-
# Notices of changed whitelists

Each service call that changes rules or groups decides by itself for which groups
it publishes a change: by the group it was called for, by the rows it read before
its transaction, or by comparing a value with the one it read. The module gives
the calls with their events, and shows that every group whose document a call
changes is published, as long as the rows that the call read are those that its
transaction finds, and an administrator who deletes a rule and names a group names
the rule's own.
-/

import OpenPath.Api.DomainEvents
import OpenPath.Api.ExportChanges
import OpenPath.Api.RequestReview
import OpenPath.Foundation.Transition

namespace OpenPath.Api.WhitelistNotices

open Foundation RulesValidation GroupsService DomainEvents ExportGroup
open GroupsStorage (getRuleById getGroupById)

/-! ## The transactions -/

/-- Run statements in a transaction, and publish groups that depend on their
result. -/
def withWhitelistEvents {ε α : Type} (store : Store) (statements : Except ε (α × Store))
    (groupIds : α → List Text) : Command ε α :=
  writeTransactionalCommand store fun queue =>
    statements.map fun done => (done.1, done.2, queue.publishAll (groupIds done.1))

def createManualWhitelistRule (ctx : CallContext) (groupId : Text) (type : RuleType)
    (value : Text) (comment : Option Text) (store : Store) :
    Command ServiceFailure GroupsStorage.CreateRuleResult :=
  withWhitelistEvents store
    (transaction (GroupsStorage.createRule ctx (ctx.uuid 0) groupId type value comment store))
    fun created => if created.success && created.id.isSome then [groupId] else []

/-- The group is the one that the caller names, if it names one. -/
def deleteWhitelistRule (ctx : CallContext) (groupId : Option Text) (id : Text) (store : Store) :
    Command ServiceFailure Bool :=
  withWhitelistEvents store (.ok (GroupsStorage.deleteRule ctx id store))
    fun wasDeleted => if wasDeleted then (groupId.filter (· ≠ [])).toList else []

/-- The rules are those that the caller has read. -/
def bulkDeleteWhitelistRules (ctx : CallContext) (ids : List Text) (rules : List RuleRow)
    (store : Store) : Command ServiceFailure Nat :=
  withWhitelistEvents store (.ok (GroupsStorage.bulkDeleteRules ctx ids store))
    fun deletedCount => if deletedCount > 0 then rules.map (·.groupId) else []

structure ApprovedWhitelistRequestCommandResult where
  createdRule : Bool
  updated : RequestRow

/-- The statements of an approval. A rule that is already there is no error; a
request that is no longer pending is. -/
def approvalStatements (ctx : CallContext) (domain requestId resolvedBy : Text)
    (targetGroup : RequestReview.ResolvedGroupTarget) (store : Store) :
    Except String (ApprovedWhitelistRequestCommandResult × Store) :=
  match GroupsStorage.createRule ctx (ctx.uuid 0) targetGroup.id .whitelist domain none store with
  | .error error => .error (ctx.driverMessage error)
  | .ok (ruleResult, after) =>
      if !ruleResult.success && ruleResult.error ≠ some "Rule already exists" then
        .error (ruleResult.error.getD "Failed to add domain to whitelist")
      else
      match RequestReview.updateRequestStatus ctx requestId .approved resolvedBy
        (some ("Added to ".toList ++ targetGroup.name)) (some .pending) after with
      | (none, _) => .error "Request is no longer pending"
      | (some updated, after) =>
          .ok ({ createdRule := ruleResult.success, updated := updated }, after)

def approveWhitelistRequest (ctx : CallContext) (domain requestId resolvedBy : Text)
    (targetGroup : RequestReview.ResolvedGroupTarget) (store : Store) :
    Command String ApprovedWhitelistRequestCommandResult :=
  withWhitelistEvents store
    (approvalStatements ctx domain requestId resolvedBy targetGroup store)
    fun approval => if approval.createdRule then [targetGroup.id] else []

/-! ## The calls

What a call reads before its transaction it reads from tables that others may
have changed when the transaction runs. -/

def createRule (ctx : CallContext) (input : CreateRuleInput) (read store : Store) :
    Command ServiceFailure Text :=
  match cleanAndValidate input.type "Value is required" input.value,
    ensureGroupExists read input.groupId with
  | .error failure, _ => .refused store failure
  | _, .error failure => .refused store failure
  | .ok cleanedValue, .ok () =>
      (createManualWhitelistRule ctx input.groupId input.type cleanedValue input.comment
        store).conclude fun
          | .error failure => .error failure
          | .ok created =>
              match created.id with
              | none => .error (.error .conflict (created.error.getD "Rule already exists"))
              | some id => .ok id

/-- The checks of an update, with the rule that it is compared with. -/
def checkUpdate (input : UpdateRuleInput) (read : Store) :
    Except ServiceFailure (RuleRow × Option Text) := do
  ensureGroupExists read input.groupId
  let some existingRule := GroupsStorage.getRuleById read input.id
    | .error (.error .notFound "Rule not found")
  if existingRule.groupId ≠ input.groupId then
    .error (.error .badRequest "Rule does not belong to this group")
  let cleanedValue ←
    input.value.mapM (cleanAndValidate existingRule.type "Value cannot be empty")
  return (existingRule, cleanedValue)

def updateRule (ctx : CallContext) (input : UpdateRuleInput) (read store : Store) :
    Command ServiceFailure RuleRow :=
  match checkUpdate input read with
  | .error failure => .refused store failure
  | .ok (existingRule, cleanedValue) =>
      let didChangeExport := cleanedValue.any (· ≠ existingRule.value.text)
      (withWhitelistEvents store
        (transaction (GroupsStorage.updateRule ctx input.id
          { value := cleanedValue, comment := input.comment } store))
        fun result => if result.isSome && didChangeExport then [input.groupId] else []).conclude
        fun
          | .error failure => .error failure
          | .ok none => .error (.error .conflict "A rule with this value already exists")
          | .ok (some row) => .ok row

def ensureUserCanAccessGroupId (user : Auth.JWTPayload) (groupId : Text) (read : Store) :
    Except ServiceFailure Unit :=
  if Auth.canApproveGroup user groupId then .ok ()
  else
    match GroupsStorage.getGroupById read groupId with
    | none => .error (.error .notFound "Group not found")
    | some group =>
        if group.ownerUserId.any (fun owner => owner ≠ [] && owner = user.sub) then .ok ()
        else if Auth.canApproveGroup user group.name then .ok ()
        else .error (.error .forbidden "You do not have access to this group")

/-- `GroupsService.deleteRule` -/
def deleteRule (ctx : CallContext) (id : Text) (groupId : Option Text) (read store : Store) :
    Command ServiceFailure Bool :=
  let ruleGroupId :=
    match groupId.filter (· ≠ []) with
    | some groupId => some groupId
    | none => (GroupsStorage.getRuleById read id).map (·.groupId)
  deleteWhitelistRule ctx ruleGroupId id store

structure DeleteRuleInput where
  id : Text
  groupId : Option Text

/-- The route: an administrator's group is taken as it is named, any other user's
is read from the rule. -/
def deleteRuleRoute (ctx : CallContext) (user : Auth.JWTPayload) (input : DeleteRuleInput)
    (read store : Store) : Command ServiceFailure Bool :=
  if Auth.isAdminToken user then deleteRule ctx input.id input.groupId read store
  else
    let resolvedGroupId := (GroupsStorage.getRuleById read input.id).map (·.groupId)
    match (resolvedGroupId.filter (· ≠ [])).mapM fun groupId =>
      ensureUserCanAccessGroupId user groupId read with
    | .error failure => .refused store failure
    | .ok _ => deleteRule ctx input.id resolvedGroupId read store

/-- The values are cleaned; validating them is left to the caller. -/
def bulkCreateRules (ctx : CallContext) (input : BulkCreateRulesInput) (read store : Store) :
    Command ServiceFailure Nat :=
  match ensureGroupExists read input.groupId with
  | .error failure => .refused store failure
  | .ok () =>
      let cleanedValues :=
        input.values.map fun value => cleanRuleValue value (input.type = .blockedPath)
      withWhitelistEvents store
        (transaction
          (GroupsStorage.bulkCreateRules ctx 0 input.groupId input.type cleanedValues store))
        fun createdCount => if createdCount > 0 then [input.groupId] else []

/-- `GroupsService.bulkDeleteRules`, with the rules that the route has read. -/
def bulkDeleteRules (ctx : CallContext) (ids : List Text) (rules : List RuleRow) (store : Store) :
    Command ServiceFailure Nat :=
  if ids = [] then { result := .ok 0, store := store, published := [] }
  else bulkDeleteWhitelistRules ctx ids rules store

/-- The route: any user but an administrator needs access to the groups of all
rules. -/
def bulkDeleteRulesRoute (ctx : CallContext) (user : Auth.JWTPayload) (ids : List Text)
    (read store : Store) : Command ServiceFailure Nat :=
  let rules := GroupsStorage.getRulesByIds read ids
  if Auth.isAdminToken user then bulkDeleteRules ctx ids rules store
  else
    match (rules.map (·.groupId)).mapM fun groupId =>
      ensureUserCanAccessGroupId user groupId read with
    | .error failure => .refused store failure
    | .ok _ => bulkDeleteRules ctx ids rules store

structure UpdateGroupInput where
  id : Text
  displayName : Text
  enabled : Bool
  visibility : Option GroupVisibility

/-- The update is one statement; its event is published if the group is still
there after it. -/
def updateGroup (ctx : CallContext) (input : UpdateGroupInput) (read store : Store) :
    Command ServiceFailure GroupRow :=
  match GroupsStorage.getGroupById read input.id with
  | none => .refused store (.error .notFound "Group not found")
  | some existing =>
      let after := GroupsStorage.updateGroup ctx input.id input.displayName input.enabled
        input.visibility store
      match GroupsStorage.getGroupById after input.id with
      | none =>
          { result := .error (.error .internalServerError "Failed to fetch updated group")
            store := after
            published := [] }
      | some refreshed =>
          let queue :=
            if existing.enabled ≠ input.enabled then
              emptyQueue.publishWhitelistChanged input.id
            else emptyQueue
          { result := .ok refreshed
            store := after
            published := queue.normalizeEvents }

def approveRequest (ctx : CallContext) (id : Text) (groupId : Option Text)
    (user : Auth.JWTPayload) (read store : Store) : Command ServiceFailure RequestRow :=
  match RequestReview.checkApproval ctx id groupId user read with
  | .error failure => .refused store failure
  | .ok (request, target) =>
      (approveWhitelistRequest ctx (Domain.normalizeManualRequestDomain request.domain.text)
        request.id user.name target store).conclude fun
          | .error message => .error (.error .badRequest message)
          | .ok approval => .ok approval.updated

/-! ## Calls that account for what they change -/

/-- Every group whose document the call changed is published, and a call that
fails publishes nothing. -/
structure Accounts {ε α : Type} (before : Store) (command : Command ε α) : Prop where
  announced : ∀ groupId, .whitelistChanged groupId ∈ command.published ∨
    SameExport groupId before command.store
  silent : ∀ failure, command.result = .error failure → command.published = []

section Accounts

variable {ε ε' α β : Type} {ctx : CallContext} {read store : Store}

theorem Accounts.refused (store : Store) (failure : ε) :
    Accounts store (Command.refused store failure : Command ε α) :=
  ⟨fun groupId => Or.inr (.refl groupId store), fun _ _ => rfl⟩

section Transaction

variable {statements : Except ε (α × Store)} {groupIds : α → List Text}
  (hsame : ∀ value after, statements = .ok (value, after) →
    ∀ groupId ∉ groupIds value, SameExport groupId store after)
include hsame

/-- What the call makes of the result may fail only where nothing is published. -/
theorem accounts_conclude {conclusion : Except ε α → Except ε' β}
    (hfail : ∀ value after failure, statements = .ok (value, after) →
      conclusion (.ok value) = .error failure → groupIds value = []) :
    Accounts store ((withWhitelistEvents store statements groupIds).conclude conclusion) := by
  unfold withWhitelistEvents writeTransactionalCommand
  cases hstatements : statements with
  | error failure => exact ⟨fun groupId => Or.inr (.refl groupId store), fun _ _ => rfl⟩
  | ok done =>
      obtain ⟨value, after⟩ := done
      refine ⟨fun groupId => ?_, fun failure hfailure => ?_⟩
      · by_cases hmem : groupId ∈ groupIds value
        · exact Or.inl ((mem_normalizeEvents_publishAll _ groupId).mpr hmem)
        · exact Or.inr (hsame value after hstatements groupId hmem)
      · show (emptyQueue.publishAll (groupIds value)).normalizeEvents = []
        rw [hfail value after failure hstatements hfailure]
        rfl

theorem accounts_withWhitelistEvents :
    Accounts store (withWhitelistEvents store statements groupIds) := by
  have hid : Accounts store ((withWhitelistEvents store statements groupIds).conclude id) :=
    accounts_conclude hsame fun _ _ _ _ hfailure => nomatch hfailure
  exact hid

end Transaction

theorem accounts_createRule (input : CreateRuleInput) :
    Accounts store (createRule ctx input read store) := by
  unfold createRule
  split
  · exact .refused store _
  · exact .refused store _
  apply accounts_conclude
  · intro created after hbody other hother
    have hcreate := mapError_eq_ok.mp hbody
    apply sameExport_createRule hcreate
    intro hsuccess
    rw [GroupsStorage.createRule_id hcreate, hsuccess] at hother
    simpa using hother
  · intro created after failure hbody hfailure
    dsimp only at hfailure
    cases hid : created.id with
    | none => simp
    | some id =>
        rw [hid] at hfailure
        cases hfailure

theorem accounts_bulkCreateRules (input : BulkCreateRulesInput) :
    Accounts store (bulkCreateRules ctx input read store) := by
  unfold bulkCreateRules
  split
  · exact .refused store _
  apply accounts_withWhitelistEvents
  intro count after hbody other hother
  apply sameExport_bulkCreateRules (mapError_eq_ok.mp hbody)
  intro hpositive
  simpa [hpositive] using hother

variable {input : UpdateRuleInput}

theorem checkUpdate_eq_ok {existing : RuleRow} {cleaned : Option Text}
    (hcheck : checkUpdate input read = .ok (existing, cleaned)) :
    getRuleById read input.id = some existing ∧
      existing.groupId = input.groupId := by
  obtain ⟨-, -, hcheck⟩ := bind_eq_ok.mp hcheck
  split at hcheck
  · rename_i found hfound
    dsimp only at hcheck
    split at hcheck
    · cases hcheck
    rename_i hgroup
    obtain ⟨value, -, hcheck⟩ := bind_eq_ok.mp hcheck
    obtain ⟨rfl, -⟩ := Prod.mk.inj (pure_eq_ok.mp hcheck)
    exact ⟨hfound, not_not.mp hgroup⟩
  · cases hcheck

variable {user : Auth.JWTPayload}

section

variable (hstore : GroupsStorage.Stored store.rules)
include hstore

theorem accounts_updateRule
    (hread : getRuleById read input.id = getRuleById store input.id) :
    Accounts store (updateRule ctx input read store) := by
  unfold updateRule
  split
  · exact .refused store _
  rename_i existing cleaned hcheck
  obtain ⟨hexisting, hgroup⟩ := checkUpdate_eq_ok hcheck
  apply accounts_conclude
  · intro result after hbody other hother
    have hupdate := mapError_eq_ok.mp hbody
    cases result with
    | none =>
        rw [GroupsStorage.updateRule_of_none hupdate]
        exact .refl other store
    | some row =>
        apply sameExport_updateRule hstore hupdate
        intro found hfound hother' value hvalue
        -- The value is compared with the row that was read, which is the one found.
        obtain rfl := Option.some.inj ((hread ▸ hexisting).symm.trans hfound)
        have hsame : value = existing.value.text := by
          by_contra hne
          have hcleaned : cleaned = some value := hvalue
          rw [hcleaned] at hother
          simp [hne, ← hother', hgroup] at hother
        rw [hsame]
        exact hstore.normalized existing (List.mem_of_find?_eq_some hfound)
  · intro result after failure _ hfailure
    cases result with
    | none => rfl
    | some row => cases hfailure

theorem accounts_deleteWhitelistRule {groupId : Option Text} {id : Text}
    (hgroup : ∀ rule, getRuleById store id = some rule →
      groupId = some rule.groupId ∧ rule.groupId ≠ []) :
    Accounts store (deleteWhitelistRule ctx groupId id store) := by
  apply accounts_withWhitelistEvents
  intro wasDeleted after hbody other hother
  have hafter : (GroupsStorage.deleteRule ctx id store).2 = after :=
    congrArg Prod.snd (Except.ok.inj hbody)
  have hdeleted : (GroupsStorage.deleteRule ctx id store).1 = wasDeleted :=
    congrArg Prod.fst (Except.ok.inj hbody)
  rw [← hafter]
  apply sameExport_deleteRule hstore
  rintro rule hrule rfl
  obtain ⟨rfl, hnonempty⟩ := hgroup rule hrule
  have hwas : wasDeleted = true := by
    rw [← hdeleted, GroupsStorage.deleteRule, hrule]
  simp [hwas, hnonempty, Option.filter] at hother

/-- The group that deleting a rule publishes: the one that an administrator
names, or that of the rule that was read. -/
theorem accounts_deleteRuleRoute {input : DeleteRuleInput}
    (hread : getRuleById read input.id = getRuleById store input.id)
    (hnamed : ∀ rule, getRuleById store input.id = some rule →
      rule.groupId ≠ [] ∧ (Auth.isAdminToken user = true →
        ∀ groupId ∈ input.groupId, groupId ≠ [] → groupId = rule.groupId)) :
    Accounts store (deleteRuleRoute ctx user input read store) := by
  have hdelete : ∀ groupId : Option Text,
      (∀ rule, getRuleById store input.id = some rule →
        ∀ named ∈ groupId, named ≠ [] → named = rule.groupId) →
      Accounts store (deleteRule ctx input.id groupId read store) := by
    intro groupId hgroup
    unfold deleteRule
    apply accounts_deleteWhitelistRule hstore
    intro rule hrule
    refine ⟨?_, (hnamed rule hrule).1⟩
    split
    · rename_i named hfilter
      obtain ⟨hmem, hnonempty⟩ := Option.filter_eq_some_iff.mp hfilter
      rw [hgroup rule hrule named hmem (by simpa using hnonempty)]
    · rw [hread, hrule, Option.map_some]
  unfold deleteRuleRoute
  split
  · rename_i hadmin
    exact hdelete _ fun rule hrule => (hnamed rule hrule).2 hadmin
  · dsimp only
    split
    · exact .refused store _
    · apply hdelete
      intro rule hrule named hmem _
      rw [hread, hrule, Option.map_some] at hmem
      exact (Option.some.inj hmem).symm

theorem accounts_bulkDeleteRulesRoute {ids : List Text}
    (hread : ∀ id ∈ ids, getRuleById read id = getRuleById store id) :
    Accounts store (bulkDeleteRulesRoute ctx user ids read store) := by
  have hdelete : Accounts store
      (bulkDeleteRules ctx ids (GroupsStorage.getRulesByIds read ids) store) := by
    unfold bulkDeleteRules
    split
    · exact ⟨fun groupId => Or.inr (.refl groupId store), fun _ _ => rfl⟩
    rename_i hids
    apply accounts_withWhitelistEvents
    intro count after hbody other hother
    have hafter : (GroupsStorage.bulkDeleteRules ctx ids store).2 = after :=
      congrArg Prod.snd (Except.ok.inj hbody)
    have hcount : (GroupsStorage.bulkDeleteRules ctx ids store).1 = count :=
      congrArg Prod.fst (Except.ok.inj hbody)
    rw [← hafter]
    apply sameExport_bulkDeleteRules hstore
    rintro id hid rule hrule rfl
    have hpositive : count > 0 := by
      rw [← hcount, GroupsStorage.bulkDeleteRules, if_neg hids]
      apply List.length_pos_of_mem (a := rule)
      have hfound : rule.id = id := by simpa using List.find?_some hrule
      simp [GroupsStorage.rulesIn, List.mem_of_find?_eq_some hrule, hfound, hid]
    rw [if_pos hpositive] at hother
    apply hother
    exact List.mem_map_of_mem
      (List.mem_filterMap.mpr ⟨id, hid, (hread id hid).trans hrule⟩)
  unfold bulkDeleteRulesRoute
  dsimp only
  split
  · exact hdelete
  · split
    · exact .refused store _
    · exact hdelete

end

theorem accounts_updateGroup {input : UpdateGroupInput}
    (hread : ∀ existing, getGroupById read input.id = some existing →
      ∀ found, getGroupById store input.id = some found →
        found.enabled = existing.enabled) :
    Accounts store (updateGroup ctx input read store) := by
  have hother : ∀ other, other ≠ input.id → SameExport other store
      (GroupsStorage.updateGroup ctx input.id input.displayName input.enabled input.visibility
        store) :=
    fun other hne => sameExport_updateGroup fun hsame => absurd hsame hne
  have hgroups : (GroupsStorage.updateGroup ctx input.id input.displayName input.enabled
      input.visibility store).groups.map (·.id) = store.groups.map (·.id) := by
    show (store.groups.map _).map _ = _
    rw [List.map_map]
    apply List.map_congr_left
    intro row _
    rw [Function.comp_apply]
    split <;> rfl
  unfold updateGroup
  split
  · exact .refused store _
  rename_i existing hexisting
  dsimp only
  split
  · -- The group is gone, so its row was not there to be changed.
    rename_i hgone
    refine ⟨fun other => Or.inr (sameExport_updateGroup ?_), fun _ _ => rfl⟩
    intro _ row hrow
    have hmem : row.id ∈ (GroupsStorage.updateGroup ctx input.id input.displayName input.enabled
        input.visibility store).groups.map (·.id) := by
      rw [hgroups]
      exact List.mem_map_of_mem (List.mem_of_find?_eq_some hrow)
    obtain ⟨left, hleft, hid⟩ := List.mem_map.mp hmem
    have hfound : row.id = input.id := by simpa using List.find?_some hrow
    have hnone := List.find?_eq_none.mp hgone left hleft
    simp [hid, hfound] at hnone
  · refine ⟨fun other => ?_, fun failure hfailure => nomatch hfailure⟩
    by_cases hsame : other = input.id
    · by_cases hchanged : existing.enabled = input.enabled
      · right
        apply sameExport_updateGroup
        intro _ row hrow
        exact (hread existing hexisting row hrow).trans hchanged
      · left
        rw [if_pos hchanged, hsame]
        exact (mem_normalizeEvents_publishAll [input.id] input.id).mpr List.mem_cons_self
    · exact Or.inr (hother other hsame)

theorem accounts_approveRequest (id : Text) (groupId : Option Text) (user : Auth.JWTPayload) :
    Accounts store (approveRequest ctx id groupId user read store) := by
  unfold approveRequest
  split
  · exact .refused store _
  rename_i request target _
  apply accounts_conclude
  · intro approval after hstatements other hother
    unfold approvalStatements at hstatements
    split at hstatements
    · cases hstatements
    rename_i result middle hcreate
    split at hstatements
    · cases hstatements
    split at hstatements
    · cases hstatements
    rename_i updated last hupdate
    obtain ⟨rfl, rfl⟩ := Prod.mk.inj (Except.ok.inj hstatements)
    have hmiddle : SameExport other store middle := by
      apply sameExport_createRule hcreate
      intro hsuccess
      simpa [hsuccess] using hother
    have hlast : SameExport other middle (some updated, last).2 := by
      rw [← hupdate]
      exact ⟨rfl, rfl⟩
    exact hmiddle.trans hlast
  · intro approval after failure _ hfailure
    cases hfailure

end Accounts

/-! ## Runs -/

/-- The calls that change rules or flags, with their inputs. -/
inductive Call
  | createRule (input : CreateRuleInput)
  | updateRule (input : UpdateRuleInput)
  | deleteRule (user : Auth.JWTPayload) (input : DeleteRuleInput)
  | bulkCreateRules (input : BulkCreateRulesInput)
  | bulkDeleteRules (user : Auth.JWTPayload) (ids : List Text)
  | updateGroup (input : UpdateGroupInput)
  | approveRequest (id : Text) (groupId : Option Text) (user : Auth.JWTPayload)

/-- What a call did, with the tables before and after it. -/
structure Report where
  before : Store
  after : Store
  failed : Bool
  published : List DomainEvent

def Report.of {ε α : Type} (before : Store) (command : Command ε α) : Report where
  before := before
  after := command.store
  failed := !command.result.isOk
  published := command.published

def Call.report (ctx : CallContext) (read store : Store) : Call → Report
  | .createRule input => .of store (WhitelistNotices.createRule ctx input read store)
  | .updateRule input => .of store (WhitelistNotices.updateRule ctx input read store)
  | .deleteRule user input => .of store (deleteRuleRoute ctx user input read store)
  | .bulkCreateRules input => .of store (WhitelistNotices.bulkCreateRules ctx input read store)
  | .bulkDeleteRules user ids => .of store (bulkDeleteRulesRoute ctx user ids read store)
  | .updateGroup input => .of store (WhitelistNotices.updateGroup ctx input read store)
  | .approveRequest id groupId user =>
      .of store (WhitelistNotices.approveRequest ctx id groupId user read store)

/-- Each group whose document the call changed is published, and a call that
fails publishes nothing. -/
def Report.Complete (report : Report) : Prop :=
  (∀ ctx groupId, exportGroup ctx report.before groupId ≠ exportGroup ctx report.after groupId →
    .whitelistChanged groupId ∈ report.published) ∧
    (report.failed = true → report.published = [])

/-- The tables, all tables that there have been, and what the calls did. -/
structure History where
  store : Store
  seen : List Store
  reports : List Report

inductive HistoryLabel
  | call (ctx : CallContext) (call : Call) (read : Store)
  | statement (mutation : GroupsStorage.Mutation)

def History.enter (history : History) (store : Store) : History where
  store := store
  seen := store :: history.seen
  reports := history.reports

/-- A call has read before its transaction what there was then; any other
statements may come between. -/
inductive HistoryStep : History → HistoryLabel → History → Prop
  | call (history : History) (ctx : CallContext) (call : Call) (read : Store)
      (hread : read ∈ history.seen) :
      HistoryStep history (.call ctx call read)
        { store := (call.report ctx read history.store).after
          seen := (call.report ctx read history.store).after :: history.seen
          reports := call.report ctx read history.store :: history.reports }
  | statement (history : History) (mutation : GroupsStorage.Mutation) :
      HistoryStep history (.statement mutation) (history.enter (mutation.apply history.store))

/-- The runs from tables without rules. -/
def histories : TransitionSystem History HistoryLabel where
  init history := history.store.rules = [] ∧ history.seen = [history.store] ∧ history.reports = []
  step := HistoryStep

/-- The rows that the call read are those that its transaction finds, and an
administrator who names a group for a rule to be deleted names the rule's own.
Identifiers are UUIDs, which are not empty. -/
def Call.Informed (read store : Store) : Call → Prop
  | .updateRule input =>
      GroupsStorage.getRuleById read input.id = GroupsStorage.getRuleById store input.id
  | .deleteRule user input =>
      GroupsStorage.getRuleById read input.id = GroupsStorage.getRuleById store input.id ∧
        ∀ rule, GroupsStorage.getRuleById store input.id = some rule →
          rule.groupId ≠ [] ∧ (Auth.isAdminToken user = true →
            ∀ groupId ∈ input.groupId, groupId ≠ [] → groupId = rule.groupId)
  | .bulkDeleteRules _ ids =>
      ∀ id ∈ ids, GroupsStorage.getRuleById read id = GroupsStorage.getRuleById store id
  | .updateGroup input =>
      ∀ existing, GroupsStorage.getGroupById read input.id = some existing →
        ∀ found, GroupsStorage.getGroupById store input.id = some found →
          found.enabled = existing.enabled
  | _ => True

def Informed (history : History) : HistoryLabel → Prop
  | .call _ call read => call.Informed read history.store
  | .statement _ => True

theorem Accounts.complete {ε α : Type} {store : Store} {command : Command ε α}
    (haccounts : Accounts store command) : (Report.of store command).Complete := by
  refine ⟨?_, ?_⟩
  · intro ctx groupId hchanged
    rcases haccounts.announced groupId with hpublished | hsame
    · exact hpublished
    · exact absurd (exportGroup_congr hsame ctx).symm hchanged
  · intro hfailed
    cases hresult : command.result with
    | error failure => exact haccounts.silent failure hresult
    | ok value => simp [Report.of, hresult, Except.isOk, Except.toBool] at hfailed

/-- A call that is informed of its rows accounts for what it changes. -/
theorem Call.complete {ctx : CallContext} {read store : Store} {call : Call}
    (hstore : GroupsStorage.Stored store.rules) (hinformed : call.Informed read store) :
    (call.report ctx read store).Complete := by
  cases call with
  | createRule input => exact (accounts_createRule input).complete
  | updateRule input => exact (accounts_updateRule hstore hinformed).complete
  | deleteRule user input =>
      exact (accounts_deleteRuleRoute hstore hinformed.1 hinformed.2).complete
  | bulkCreateRules input => exact (accounts_bulkCreateRules input).complete
  | bulkDeleteRules user ids => exact (accounts_bulkDeleteRulesRoute hstore hinformed).complete
  | updateGroup input => exact (accounts_updateGroup hinformed).complete
  | approveRequest id groupId user => exact (accounts_approveRequest id groupId user).complete

section Stored

open GroupsStorage (Stored)

variable {ctx : CallContext} {read store : Store}

theorem stored_withWhitelistEvents {ε α : Type} (hstore : Stored store.rules)
    {statements : Except ε (α × Store)} {groupIds : α → List Text}
    (hstatements : ∀ value after, statements = .ok (value, after) → Stored after.rules) :
    Stored (withWhitelistEvents store statements groupIds).store.rules := by
  unfold withWhitelistEvents writeTransactionalCommand
  cases hdone : statements with
  | error failure => exact hstore
  | ok done => exact hstatements done.1 done.2 hdone

theorem Call.stored (hstore : Stored store.rules) (call : Call) :
    Stored (call.report ctx read store).after.rules := by
  cases call with
  | createRule input =>
      show Stored (WhitelistNotices.createRule ctx input read store).store.rules
      unfold WhitelistNotices.createRule
      split
      · exact hstore
      · exact hstore
      · exact stored_withWhitelistEvents hstore fun _ _ hbody =>
          hstore.createRule (mapError_eq_ok.mp hbody)
  | updateRule input =>
      show Stored (WhitelistNotices.updateRule ctx input read store).store.rules
      unfold WhitelistNotices.updateRule
      split
      · exact hstore
      · exact stored_withWhitelistEvents hstore fun _ _ hbody =>
          hstore.updateRule (mapError_eq_ok.mp hbody)
  | deleteRule user input =>
      have hdelete : ∀ groupId,
          Stored (WhitelistNotices.deleteRule ctx input.id groupId read store).store.rules := by
        intro groupId
        apply stored_withWhitelistEvents hstore
        intro wasDeleted after hbody
        have hafter : (GroupsStorage.deleteRule ctx input.id store).2 = after :=
          congrArg Prod.snd (Except.ok.inj hbody)
        rw [← hafter]
        exact hstore.apply (.deleteRule ctx input.id)
      show Stored (deleteRuleRoute ctx user input read store).store.rules
      unfold deleteRuleRoute
      dsimp only
      split
      · exact hdelete _
      · split
        · exact hstore
        · exact hdelete _
  | bulkCreateRules input =>
      show Stored (WhitelistNotices.bulkCreateRules ctx input read store).store.rules
      unfold WhitelistNotices.bulkCreateRules
      split
      · exact hstore
      · exact stored_withWhitelistEvents hstore fun _ _ hbody =>
          hstore.bulkCreateRules (mapError_eq_ok.mp hbody)
  | bulkDeleteRules user ids =>
      have hdelete : ∀ rules,
          Stored (WhitelistNotices.bulkDeleteRules ctx ids rules store).store.rules := by
        intro rules
        unfold WhitelistNotices.bulkDeleteRules
        split
        · exact hstore
        apply stored_withWhitelistEvents hstore
        intro count after hbody
        have hafter : (GroupsStorage.bulkDeleteRules ctx ids store).2 = after :=
          congrArg Prod.snd (Except.ok.inj hbody)
        rw [← hafter]
        exact hstore.apply (.bulkDeleteRules ctx ids)
      show Stored (bulkDeleteRulesRoute ctx user ids read store).store.rules
      unfold bulkDeleteRulesRoute
      dsimp only
      split
      · exact hdelete _
      · split
        · exact hstore
        · exact hdelete _
  | updateGroup input =>
      show Stored (WhitelistNotices.updateGroup ctx input read store).store.rules
      unfold WhitelistNotices.updateGroup
      split
      · exact hstore
      · dsimp only
        split <;> exact hstore
  | approveRequest id groupId user =>
      show Stored (WhitelistNotices.approveRequest ctx id groupId user read store).store.rules
      unfold WhitelistNotices.approveRequest
      split
      · exact hstore
      apply stored_withWhitelistEvents hstore
      intro approval after hstatements
      unfold approvalStatements at hstatements
      split at hstatements
      · cases hstatements
      rename_i result middle hcreate
      split at hstatements
      · cases hstatements
      split at hstatements
      · cases hstatements
      rename_i updated last hupdate
      obtain ⟨rfl, rfl⟩ := Prod.mk.inj (Except.ok.inj hstatements)
      have hmiddle : Stored middle.rules := hstore.createRule hcreate
      have hlast : Stored (some updated, last).2.rules := by
        rw [← hupdate]
        exact hmiddle
      exact hlast

end Stored

/-- In a run in which every call is informed of its rows, every group whose
document a call changes is published, and a call that fails publishes nothing. -/
theorem reports_complete {history : History} (hreach : histories.ReachableBy Informed history) :
    ∀ report ∈ history.reports, report.Complete := by
  let inv (history : History) : Prop :=
    GroupsStorage.Stored history.store.rules ∧ ∀ report ∈ history.reports, report.Complete
  suffices hinv : inv history from hinv.2
  refine hreach.invariant ?_ ?_
  · rintro start ⟨hrules, -, hreports⟩
    refine ⟨?_, by simp [hreports]⟩
    rw [hrules]
    exact ⟨List.nodup_nil, by simp⟩
  · rintro source label target ⟨hstore, hreports⟩ hinformed hstep
    cases hstep with
    | call ctx call read hread =>
        refine ⟨call.stored hstore, ?_⟩
        intro report hreport
        rcases List.mem_cons.mp hreport with rfl | hold
        · exact call.complete hstore hinformed
        · exact hreports report hold
    | statement mutation => exact ⟨hstore.apply mutation, hreports⟩

/-! ## A rule deleted under another group -/

def classGroup (id : String) : GroupRow where
  id := id.toList
  name := id.toList
  displayName := id.toList
  enabled := true
  visibility := .priv
  ownerUserId := none
  updatedAt := 0

/-- Two groups without rules. -/
def twoGroups : Store where
  groups := [classGroup "math", classGroup "art"]
  rules := []
  requests := []

def noticeContext : CallContext where
  uuid n := ("rule-" ++ toString n).toList
  now := 1
  localeLe := codePointLe
  driverMessage _ := "driver error"

def startHistory : History where
  store := twoGroups
  seen := [twoGroups]
  reports := []

def addGames : CreateRuleInput where
  groupId := "math".toList
  type := .whitelist
  value := "games.org".toList
  comment := none

/-- A rule has been created. -/
def createdHistory : History :=
  let report := (Call.createRule addGames).report noticeContext twoGroups twoGroups
  { store := report.after
    seen := [report.after, twoGroups]
    reports := [report] }

theorem reachable_createdHistory : histories.ReachableBy Informed createdHistory := by
  have hstart : histories.ReachableBy Informed startHistory := .start ⟨rfl, rfl, rfl⟩
  have hinformed : Informed startHistory
      (.call noticeContext (.createRule addGames) twoGroups) := trivial
  exact hstart.step hinformed
    (HistoryStep.call startHistory noticeContext (.createRule addGames) twoGroups
      List.mem_cons_self)

def administrator : Auth.JWTPayload where
  sub := "root".toList
  name := "root".toList
  roles := [{ role := .admin, groupIds := [] }]

/-- The administrator names the other group for the rule. -/
def deleteGames : DeleteRuleInput where
  id := "rule-0".toList
  groupId := some "art".toList

/-- The rule is deleted under its own group. -/
theorem createdHistory_complete :
    ∃ history, histories.ReachableBy Informed history ∧ history.store.rules = [] ∧
      history.reports.length = 2 ∧ ∀ report ∈ history.reports, report.Complete := by
  have hinformed : Informed createdHistory (.call noticeContext
      (.deleteRule administrator { deleteGames with groupId := some "math".toList })
      createdHistory.store) := by
    refine ⟨rfl, fun rule hrule => ?_⟩
    obtain rfl := Option.some.inj hrule
    exact ⟨by decide, by decide⟩
  have hdeleted := reachable_createdHistory.step hinformed
    (HistoryStep.call createdHistory noticeContext _ createdHistory.store List.mem_cons_self)
  exact ⟨_, hdeleted, by decide, rfl, reports_complete hdeleted⟩

/-- The document of the rule's group changes, and only the other group is
published. -/
theorem deletion_unannounced :
    ∃ history, histories.Reachable history ∧ ∃ report ∈ history.reports,
      report.failed = false ∧ report.published = [.whitelistChanged "art".toList] ∧
        ¬ report.Complete := by
  have hdeleted := reachable_createdHistory.reachable.step trivial
    (HistoryStep.call createdHistory noticeContext (.deleteRule administrator deleteGames)
      createdHistory.store List.mem_cons_self)
  refine ⟨_, hdeleted, _, List.mem_cons_self, by decide, by decide, ?_⟩
  rintro ⟨hcomplete, -⟩
  have hpublished := hcomplete noticeContext "math".toList (by decide)
  revert hpublished
  decide

end OpenPath.Api.WhitelistNotices
