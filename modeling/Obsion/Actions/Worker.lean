import Obsion.Actions.Service

/-! # The worker

`_claim` leases a claimable action; `_invoke` locks it, checks its plan and its approval,
asks the gateway and holds the lock until the provider has answered.  `begin_` is the
part of `_invoke` before the provider is called: it may end the transaction, and
otherwise leaves the call to be made. -/

namespace Obsion.Actions

open Obsion.Lib

def ActionStatus.claimable (status : ActionStatus) : Bool :=
  status ∈ [ActionStatus.approved, .executing, .rollbackApproved, .rollingBack]

def ActionStatus.underway (status : ActionStatus) : Bool :=
  status ∈ [ActionStatus.executing, .rollingBack]

/-- `_claim`, for one action -/
def claimAction (now : Time) (worker : String) (leaseSeconds : Nat) (rows : Rows) : Option Rows :=
  if rows.request.status.claimable && rows.request.cancellationRequestedAt.isNone &&
      rows.request.lease.all fun lease => lease.expiresAt < now then
    some { rows with
      request := { rows.request with
        status := if rows.request.status ∈ [ActionStatus.approved, .executing] then .executing
          else .rollingBack
        lease := some ⟨worker, now + seconds leaseSeconds⟩ } }
  else none

def expiredFailure : Failure := ⟨"action_approval_expired", "The action approval expired"⟩

/-- `_expire_one_approval`, for one approval -/
def expireApproval (now : Time) (approvalId : Uuid) (rows : Rows) : Option Rows :=
  (rows.approvals.get? approvalId).bind fun approval =>
    if approval.status = .pending ∧ approval.expiresAt ≤ now then
      some { rows with
        approvals := rows.approvals.put
          { approval with status := .expired, decidedAt := some now }
        request := { rows.request with
          status := match approval.purpose with
            | .execute => .expired
            | .rollback => .rollbackRejected
          error := some expiredFailure } }
    else none

def complete (purpose : Purpose) (output : Fields) (rows : Rows) : Rows :=
  { rows with
    request := { rows.request with
      status := match purpose with | .execute => .completed | .rollback => .rolledBack
      result := match purpose with
        | .execute => ⟨some output, none⟩
        | .rollback => { rows.request.result with rollback := some output }
      lease := none, error := none } }

def fail (failure : Failure) (rows : Rows) : Rows :=
  { rows with
    request := { rows.request with
      status := if rows.request.status = .rollingBack then .rollbackFailed else .failed
      lease := none, error := some failure } }

def failAfterException (failure : Failure) (rows : Rows) : Rows :=
  if rows.request.status.underway then fail failure rows else rows

/-- What the owner's account, the pinned capability and the gateway's policy, schema and
rate limit answer. -/
structure InvokeEnv where
  owner : Except ObsionError Unit
  pinned : Except ObsionError Unit
  refusal : Option Failure

structure Call where
  purpose : Purpose
  approval : ActionApproval
  attempt : ActionAttempt
  payload : Fields

inductive Begun
  | ignored
  | committed (rows : Rows)
  | raised (error : ObsionError)
  | call (call : Call)

/-- The approval with the latest revision that was granted for the plan. -/
def grantedApproval (purpose : Purpose) (planChecksum : String)
    (approvals : Table ActionApproval.id) : Option ActionApproval :=
  (approvals.select fun approval =>
    approval.purpose = purpose && approval.status = .approved &&
      approval.planChecksum = planChecksum).argmax ActionApproval.revision

def planInvalid (message : String) : ObsionError := validationError "action_plan_invalid" message

def plannedPayload (request : ActionRequest) (plan : ActionPlan) (purpose : Purpose) : Fields :=
  actionProviderPayload request plan.checksum purpose (plan.spec.purposeParameters purpose)
    (request.result.execute.getD [])

def newAttempt (request : ActionRequest) (plan : ActionPlan) (purpose : Purpose)
    (approval : ActionApproval) : ActionAttempt where
  purpose := purpose
  status := .pending
  reference := plan.spec.reference purpose
  approvalId := approval.id
  idempotencyKey := attemptKey request purpose
  inputPayload := plannedPayload request plan purpose
  output := []
  error := none

/-- The attempt of the plan: the one that was recorded, or a new one. -/
def attemptOf (plan : ActionPlan) (purpose : Purpose) (approval : ActionApproval) (rows : Rows) :
    Except ObsionError ActionAttempt :=
  match rows.attempts.get? purpose with
  | none => .ok (newAttempt rows.request plan purpose approval)
  | some attempt =>
    if attempt.reference ≠ plan.spec.reference purpose
        ∨ Json.equal (.obj attempt.inputPayload)
          (.obj (plannedPayload rows.request plan purpose)) = false then
      .error (validationError "action_attempt_mismatch"
        "A recovered action attempt does not match its sealed plan")
    else .ok attempt

def refused (attempt : ActionAttempt) (failure : Failure) (rows : Rows) : Rows :=
  fail failure { rows with
    attempts := rows.attempts.put { attempt with status := .failed, error := some failure } }

/-- `ActionGateway._invoke` up to `_post`; the approval is checked at `checkedAt`. -/
def askGateway (checkedAt : Time) (env : InvokeEnv) (plan : ActionPlan) (purpose : Purpose)
    (approval : ActionApproval) (attempt : ActionAttempt) (rows : Rows) : Begun :=
  match env.pinned with
  | .error error => .raised error
  | .ok () =>
    if approval.expiresAt ≤ checkedAt then
      .committed (refused attempt ⟨"action_policy_denied", "The action was denied by policy"⟩ rows)
    else
      match env.refusal with
      | some failure => .committed (refused attempt failure rows)
      | none =>
        .call ⟨purpose, approval, { attempt with status := .running },
          plannedPayload rows.request plan purpose⟩

def begin_ (now checkedAt : Time) (env : InvokeEnv) (rows : Rows) : Begun :=
  if rows.request.status.underway = false then .ignored
  else if rows.request.deadlineAt.all fun deadline => deadline ≤ now then
    .committed (fail ⟨"action_timeout", "The approved action exceeded its execution deadline"⟩ rows)
  else
    let purpose : Purpose := if rows.request.status = .executing then .execute else .rollback
    match env.owner, rows.plan with
    | .error error, _ => .raised error
    | .ok (), none => .raised (planInvalid "The immutable action plan is missing or mismatched")
    | .ok (), some plan =>
      if rows.request.planChecksum ≠ some plan.checksum then
        .raised (planInvalid "The immutable action plan is missing or mismatched")
      else
        match (grantedApproval purpose plan.checksum rows.approvals).filter
            fun approval => now < approval.expiresAt with
        | none =>
          .raised (validationError "action_approval_invalid"
            "No valid approval exists for this action plan")
        | some approval =>
          match attemptOf plan purpose approval rows with
          | .error error => .raised error
          | .ok attempt =>
            if attempt.status = .completed then
              .committed (complete purpose attempt.output rows)
            else askGateway checkedAt env plan purpose approval attempt rows

def settle (call : Call) (answer : Except Failure Fields) (rows : Rows) : Rows :=
  match answer with
  | .error failure => refused call.attempt failure rows
  | .ok output =>
    complete call.purpose output { rows with
      attempts := rows.attempts.put
        { call.attempt with status := .completed, output := output, error := none } }

end Obsion.Actions
