/-
# Review of domain requests

A request for a domain is approved by adding a whitelist rule for its root
domain and marking it approved, in one transaction that expects the request to
be pending still.
-/

import OpenPath.Api.Auth
import OpenPath.Api.GroupsService
import OpenPath.Shared.Domain

namespace OpenPath.Api.RequestReview

open Foundation GroupsService JavaScript RulesValidation

structure ResolvedGroupTarget where
  id : Text
  name : Text
  deriving DecidableEq

def getStoredRequestById (store : Store) (id : Text) : Option RequestRow :=
  store.requests.find? (·.id = id)

/-- `UPDATE requests ... RETURNING`: the row is changed where its identifier and,
if one is expected, its status match. -/
def updateRequestStatus (ctx : CallContext) (id : Text) (status : RequestStatus)
    (resolvedBy : Text) (note : Option Text) (expectedStatus : Option RequestStatus)
    (store : Store) : Option RequestRow × Store :=
  let matching (row : RequestRow) : Bool :=
    row.id = id && expectedStatus.all (row.status = ·)
  let update (row : RequestRow) : RequestRow :=
    { row with
      status
      resolvedBy := some resolvedBy
      resolvedAt := some ctx.now
      resolutionNote := note.getD row.resolutionNote }
  ((store.requests.find? matching).map update,
    { store with
      requests := store.requests.map fun row => if matching row then update row else row })

/-- The group that a raw target names: by identifier, or by name with a `.txt`
ending removed. -/
def resolveGroupTarget (store : Store) (rawGroup : Text) : Option ResolvedGroupTarget :=
  match GroupsStorage.getGroupById store rawGroup with
  | some group => some { id := group.id, name := group.name }
  | none =>
      let normalized :=
        if endsWith rawGroup ".txt".toList then rawGroup.dropLast.dropLast.dropLast.dropLast
        else rawGroup
      (GroupsStorage.getGroupByName store normalized).map fun group =>
        { id := group.id, name := group.name }

def canApproveResolvedTarget (user : Auth.JWTPayload) (rawGroup : Text)
    (resolvedTarget : ResolvedGroupTarget) : Bool :=
  Auth.canApproveGroup user rawGroup ||
    Auth.canApproveGroup user resolvedTarget.id ||
    Auth.canApproveGroup user resolvedTarget.name

def statusText : RequestStatus → String
  | .pending => "pending"
  | .approved => "approved"
  | .rejected => "rejected"

/-- The transaction of an approval. A rule that is already there is no error; a
request that is no longer pending is, and undoes the rule. -/
def approveWhitelistRequest (ctx : CallContext) (domain requestId resolvedBy : Text)
    (targetGroup : ResolvedGroupTarget) (store : Store) :
    Except String (RequestRow × Store) :=
  match GroupsStorage.createRule ctx (ctx.uuid 0) targetGroup.id .whitelist domain none store with
  | .error error => .error (ctx.driverMessage error)
  | .ok (ruleResult, store) =>
      if !ruleResult.success && ruleResult.error ≠ some "Rule already exists" then
        .error (ruleResult.error.getD "Failed to add domain to whitelist")
      else
      match updateRequestStatus ctx requestId .approved resolvedBy
        (some ("Added to ".toList ++ targetGroup.name)) (some .pending) store with
      | (none, _) => .error "Request is no longer pending"
      | (some updated, store) => .ok (updated, store)

/-- Read a request that is to be decided; it has to be pending. -/
def readPending (id : Text) (store : Store) : Except ServiceFailure RequestRow :=
  match getStoredRequestById store id with
  | none => .error (.error .notFound "Request not found")
  | some request =>
      if request.status = .pending then .ok request
      else .error (.error .badRequest ("Request is already " ++ statusText request.status))

/-- The checks of an approval after its request has been read: the target group,
the rights of the user, and the blocked subdomains of the group. -/
def authorizeApproval (ctx : CallContext) (groupId : Option Text) (user : Auth.JWTPayload)
    (request : RequestRow) (store : Store) : Except ServiceFailure ResolvedGroupTarget := do
  let rawTargetGroup := groupId.getD request.groupId
  let hasRawPermission := Auth.canApproveGroup user rawTargetGroup
  let resolvedTarget := resolveGroupTarget store rawTargetGroup
  if !hasRawPermission &&
      !resolvedTarget.any (canApproveResolvedTarget user rawTargetGroup) then
    .error (.error .forbidden "You do not have permission to approve for this group")
  let some target := resolvedTarget
    | .error (.error .badRequest "Target group does not exist")
  if !Auth.isAdminToken user &&
      (GroupsStorage.isDomainBlocked ctx store target.id request.domain.text).isSome then
    .error (.error .forbidden "This domain is explicitly blocked")
  return target

/-- All that an approval checks before its transaction. -/
def checkApproval (ctx : CallContext) (id : Text) (groupId : Option Text)
    (user : Auth.JWTPayload) (store : Store) :
    Except ServiceFailure (RequestRow × ResolvedGroupTarget) := do
  let request ← readPending id store
  let target ← authorizeApproval ctx groupId user request store
  return (request, target)

/-- All that a rejection checks before its statement. -/
def checkRejection (id : Text) (user : Auth.JWTPayload) (store : Store) :
    Except ServiceFailure RequestRow := do
  let request ← readPending id store
  if !Auth.canApproveGroup user request.groupId then
    .error (.error .forbidden "You do not have permission to manage this request")
  return request

/-- Approve a request, its checks and its transaction with nothing between. -/
def approveRequest (ctx : CallContext) (id : Text) (groupId : Option Text)
    (user : Auth.JWTPayload) (store : Store) : Except ServiceFailure (RequestRow × Store) := do
  let (request, target) ← checkApproval ctx id groupId user store
  match approveWhitelistRequest ctx (Domain.normalizeManualRequestDomain request.domain.text)
    request.id user.name target store with
  | .error message => .error (.error .badRequest message)
  | .ok result => return result

/-! ## What a successful approval did -/

variable {ctx : CallContext} {store store' : Store} {updated : RequestRow}

theorem approveWhitelistRequest_eq_ok {domain requestId resolvedBy : Text}
    {target : ResolvedGroupTarget}
    (happrove : approveWhitelistRequest ctx domain requestId resolvedBy target store =
      .ok (updated, store')) :
    ∃ result middle,
      GroupsStorage.createRule ctx (ctx.uuid 0) target.id .whitelist domain none store =
        .ok (result, middle) ∧
      updateRequestStatus ctx requestId .approved resolvedBy
        (some ("Added to ".toList ++ target.name)) (some .pending) middle =
          (some updated, store') := by
  unfold approveWhitelistRequest at happrove
  split at happrove
  · cases happrove
  rename_i result middle hcreate
  split at happrove
  · cases happrove
  split at happrove
  · cases happrove
  · rename_i hupdate
    cases happrove
    exact ⟨result, middle, hcreate, hupdate⟩

theorem approveRequest_eq_ok {id : Text} {groupId : Option Text} {user : Auth.JWTPayload}
    (happrove : approveRequest ctx id groupId user store = .ok (updated, store')) :
    ∃ request target, checkApproval ctx id groupId user store = .ok (request, target) ∧
      approveWhitelistRequest ctx (Domain.normalizeManualRequestDomain request.domain.text)
        request.id user.name target store = .ok (updated, store') := by
  obtain ⟨⟨request, target⟩, hcheck, happrove⟩ := bind_eq_ok.mp happrove
  refine ⟨request, target, hcheck, ?_⟩
  dsimp only at happrove
  split at happrove
  · cases happrove
  · rename_i result hresult
    obtain rfl := pure_eq_ok.mp happrove
    exact hresult

end OpenPath.Api.RequestReview
