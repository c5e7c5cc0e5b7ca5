import Obsion.Actions.Rows

/-! # The operations of people

Each operation locks the request and commits, or raises and is rolled back.  What the
workspace, the scan for secret fields, the capability registry and the owner's account
answer is outside: `access` and `resolved` are these answers.  `decide` raises where the approval has expired, and the
expiry it wrote is rolled back with the transaction: `session.begin()` has ended when the
caller commits. -/

namespace Obsion.Actions

open Obsion.Lib

def requirePermission (principal : Principal) (permission : String) : Except ObsionError Unit :=
  if principal.can permission then .ok ()
  else .error (authorizationError "action_permission_denied" "Action access is not permitted")

/-- `get(..., write=True, for_update=True)` -/
def getAction (principal : Principal) (access : Except ObsionError Unit) (rows : Rows) :
    Except ObsionError Unit :=
  if rows.request.organizationId = principal.organizationId then access
  else .error (notFoundError "Action request")

structure CreateActionRequest where
  actionType : ActionType
  environment : String
  target : Fields
  parameters : Fields
  rollbackParameters : Fields
  ownerId : Option Uuid
  timeoutSeconds : Nat

def create (id : Uuid) (principal : Principal) (access : Except ObsionError Unit)
    (request : CreateActionRequest) : Except ObsionError Rows := do
  requirePermission principal "action.request"
  access
  let ownerId := request.ownerId.getD principal.id
  if ownerId ≠ principal.id ∧ principal.can "action.request.all" = false then
    .error (authorizationError "action_owner_assignment_denied" "Cannot assign another action owner")
  else
    return {
      request := {
        id := id, organizationId := principal.organizationId, actionType := request.actionType
        environment := request.environment, target := request.target
        parameters := request.parameters, rollbackParameters := request.rollbackParameters
        status := .draft, ownerId := ownerId, requestedBy := principal.id
        timeoutSeconds := request.timeoutSeconds, deadlineAt := none, planChecksum := none
        result := ⟨none, none⟩, cancellationRequestedAt := none, lease := none, error := none }
      plan := none, approvals := .empty, attempts := .empty }

/-- `select(func.max(ActionApproval.revision))` of a purpose, `None` read as 0 -/
def latestRevision (purpose : Purpose) (approvals : Table ActionApproval.id) : Nat :=
  (approvals.select fun approval => approval.purpose = purpose).foldr
    (fun approval latest => max approval.revision latest) 0

def pendingApproval (now : Time) (id : Uuid) (purpose : Purpose) (reason : String)
    (ttlMinutes : Nat) (planChecksum : String) (rows : Rows) : ActionApproval where
  id := id
  purpose := purpose
  revision := latestRevision purpose rows.approvals + 1
  planChecksum := planChecksum
  status := .pending
  reason := strip reason
  requestedBy := rows.request.requestedBy
  decidedBy := none
  decisionReason := none
  expiresAt := now + seconds (60 * ttlMinutes)
  decidedAt := none

def createApproval (now : Time) (id : Uuid) (purpose : Purpose) (reason : String)
    (ttlMinutes : Nat) (rows : Rows) : Except ObsionError Rows :=
  match rows.request.planChecksum with
  | none =>
    .error (conflictError "action_plan_missing" "The action has no sealed execution plan")
  | some planChecksum =>
    match rows.approvals.insert?
        (pendingApproval now id purpose reason ttlMinutes planChecksum rows) with
    | none => .error ⟨.other, "integrity_error", "The identifier is in use"⟩
    | some approvals => .ok { rows with approvals }

/-- What the registry and the schemas answer to a preflight: the references of the two
capabilities, once the owner may execute them and both payloads are valid. -/
abbrev Resolved := Except ObsionError (Reference × Reference)

def planSpec (resolved : Resolved) (request : ActionRequest) : Except ObsionError PlanSpec :=
  if request.actionType ≠ .generatePr ∧ request.actionType ≠ .createTicket then
    .error (validationError "v1_action_type_boundary"
      "This action type is planned but cannot execute in V1")
  else if request.environment ≠ "development" ∧ request.environment ≠ "staging" then
    .error (validationError "v1_production_action_boundary"
      "V1 actions are limited to development and staging")
  else
    resolved.map fun found => {
      actionType := request.actionType, environment := request.environment
      target := request.target, parameters := request.parameters
      rollbackParameters := request.rollbackParameters, execute := found.1, rollback := found.2 }

/-- `preflight`; `digest` is `action_plan_checksum`. -/
def preflight (digest : PlanSpec → String) (now : Time) (principal : Principal)
    (access : Except ObsionError Unit) (resolved : Resolved) (approvalId : Uuid) (reason : String)
    (ttlMinutes : Nat) (rows : Rows) : Except ObsionError Rows := do
  requirePermission principal "action.request"
  getAction principal access rows
  if rows.request.status ≠ .draft ∧ rows.request.status ≠ .preflightFailed then
    .error (conflictError "action_not_preflightable"
      "Only a draft or failed preflight action can be checked")
  else if rows.plan.isSome then
    .error (conflictError "action_plan_exists" "The action already has a sealed plan")
  else
    match planSpec resolved rows.request with
    | .error error =>
      .ok { rows with
        request := { rows.request with
          status := .preflightFailed, error := some ⟨error.code, error.message⟩ } }
    | .ok spec =>
      createApproval now approvalId .execute reason ttlMinutes
        { rows with
          plan := some ⟨spec, digest spec, principal.id⟩
          request := { rows.request with
            planChecksum := some (digest spec), status := .waitingApproval, error := none } }

def decided (now : Time) (principal : Principal) (approve : Bool) (reason : String)
    (approval : ActionApproval) : ActionApproval :=
  { approval with
    status := if approve then .approved else .rejected
    decidedBy := some principal.id, decisionReason := some (strip reason), decidedAt := some now }

def decidedRequest (now : Time) (approve : Bool) (purpose : Purpose) (request : ActionRequest) :
    ActionRequest :=
  match approve, purpose with
  | true, purpose =>
    { request with
      status := match purpose with | .execute => .approved | .rollback => .rollbackApproved
      deadlineAt := some (now + seconds request.timeoutSeconds), error := none }
  | false, .execute =>
    { request with
      status := .rejected, error := some ⟨"action_rejected", "The action request was rejected"⟩ }
  | false, .rollback =>
    { request with
      status := .rollbackRejected
      error := some ⟨"action_rollback_rejected", "The rollback request was rejected"⟩ }

def decideApproval (now : Time) (principal : Principal) (access : Except ObsionError Unit)
    (approvalId : Uuid) (approve : Bool) (reason : String) (rows : Rows) :
    Except ObsionError Rows := do
  requirePermission principal "action.approve"
  match rows.approvals.get? approvalId with
  | none => .error (notFoundError "Action approval")
  | some approval =>
    if approval.status ≠ .pending then
      .error (conflictError "action_approval_already_decided"
        "The action approval is no longer pending")
    else do
      getAction principal access rows
      if approval.expiresAt ≤ now then
        .error (conflictError "action_approval_expired" "The action approval has expired")
      else if approval.requestedBy = principal.id then
        .error (authorizationError "action_self_approval_denied"
          "The requester cannot approve their own action")
      else if rows.request.planChecksum ≠ some approval.planChecksum then
        .error (conflictError "action_plan_changed"
          "The approved action plan no longer matches the request")
      else
        return { rows with
          approvals := rows.approvals.put (decided now principal approve reason approval)
          request := decidedRequest now approve approval.purpose rows.request }

def ActionStatus.rollbackable (status : ActionStatus) : Bool :=
  status ∈ [ActionStatus.completed, .failed, .rollbackFailed, .rollbackRejected]

def requestRollback (now : Time) (principal : Principal) (access : Except ObsionError Unit)
    (approvalId : Uuid) (reason : String) (ttlMinutes : Nat) (rows : Rows) :
    Except ObsionError Rows := do
  requirePermission principal "action.rollback"
  getAction principal access rows
  if rows.request.ownerId ≠ principal.id ∧ principal.can "action.rollback.all" = false then
    .error (authorizationError "action_rollback_denied" "Only the action owner can request rollback")
  else if rows.request.status.rollbackable = false then
    .error (conflictError "action_not_rollbackable" "The action is not in a rollbackable state")
  else do
    let requested ← createApproval now approvalId .rollback reason ttlMinutes rows
    return { requested with
      request := { requested.request with
        status := .waitingRollbackApproval, error := none } }

def ActionStatus.cancellable (status : ActionStatus) : Bool :=
  status ∈ [ActionStatus.draft, .preflightFailed, .waitingApproval, .approved,
    .waitingRollbackApproval, .rollbackApproved]

def withdrawn (now : Time) (approval : ActionApproval) : ActionApproval :=
  if approval.status = .pending then
    { approval with status := .cancelled, decidedAt := some now }
  else approval

lemma id_withdrawn (now : Time) (approval : ActionApproval) :
    (withdrawn now approval).id = approval.id := by
  unfold withdrawn
  split <;> rfl

def cancel (now : Time) (principal : Principal) (access : Except ObsionError Unit) (rows : Rows) :
    Except ObsionError Rows := do
  getAction principal access rows
  if rows.request.ownerId ≠ principal.id ∧ principal.can "action.cancel.all" = false then
    .error (authorizationError "action_cancel_denied" "Only the action owner can cancel")
  else if rows.request.status.cancellable = false then
    .error (conflictError "action_not_cancellable" "The action can no longer be cancelled safely")
  else
    return { rows with
      request := { rows.request with
        status := .cancelled, cancellationRequestedAt := some now }
      approvals := rows.approvals.update (withdrawn now) (id_withdrawn now) }

end Obsion.Actions
