import Obsion.Base.Json
import Obsion.Lib.Table

/-! # Governed actions

One action request with its sealed plan, its approvals and its attempts.  The plan is
immutable, an action has one attempt for each purpose, and the two columns of its lease
are both set or both missing. -/

namespace Obsion.Actions

open Obsion.Lib

inductive ActionType
  | generatePr
  | createTicket
  | modifyConfig
  | restartService
  | deploy
  deriving DecidableEq, Repr

def ActionType.value : ActionType → String
  | .generatePr => "GENERATE_PR"
  | .createTicket => "CREATE_TICKET"
  | .modifyConfig => "MODIFY_CONFIG"
  | .restartService => "RESTART_SERVICE"
  | .deploy => "DEPLOY"

inductive ActionStatus
  | draft
  | preflightFailed
  | waitingApproval
  | approved
  | executing
  | completed
  | failed
  | waitingRollbackApproval
  | rollbackApproved
  | rollingBack
  | rolledBack
  | rollbackFailed
  | rollbackRejected
  | rejected
  | expired
  | cancelled
  deriving DecidableEq, Repr

inductive Purpose
  | execute
  | rollback
  deriving DecidableEq, Repr

def Purpose.value : Purpose → String
  | .execute => "EXECUTE"
  | .rollback => "ROLLBACK"

def Purpose.casefold : Purpose → String
  | .execute => "execute"
  | .rollback => "rollback"

inductive ApprovalStatus
  | pending
  | approved
  | rejected
  | expired
  | cancelled
  deriving DecidableEq, Repr

inductive AttemptStatus
  | pending
  | running
  | completed
  | failed
  deriving DecidableEq, Repr

structure Lease where
  owner : String
  expiresAt : Time
  deriving DecidableEq, Repr

structure Failure where
  code : String
  message : String
  deriving DecidableEq, Repr

/-- The JSON of `result`: `{}`, `{"execute": ...}`, or that with `"rollback": ...`. -/
structure Result where
  execute : Option Fields
  rollback : Option Fields

structure ActionRequest where
  id : Uuid
  organizationId : Uuid
  actionType : ActionType
  environment : String
  target : Fields
  parameters : Fields
  rollbackParameters : Fields
  status : ActionStatus
  ownerId : Uuid
  requestedBy : Uuid
  timeoutSeconds : Nat
  deadlineAt : Option Time
  planChecksum : Option String
  result : Result
  cancellationRequestedAt : Option Time
  lease : Option Lease
  error : Option Failure

structure Reference where
  capabilityVersionId : Uuid
  connectorId : Uuid
  deriving DecidableEq, Repr

structure PlanSpec where
  actionType : ActionType
  environment : String
  target : Fields
  parameters : Fields
  rollbackParameters : Fields
  execute : Reference
  rollback : Reference

structure ActionPlan where
  spec : PlanSpec
  checksum : String
  createdBy : Uuid

structure ActionApproval where
  id : Uuid
  purpose : Purpose
  revision : Nat
  planChecksum : String
  status : ApprovalStatus
  reason : String
  requestedBy : Uuid
  decidedBy : Option Uuid
  decisionReason : Option String
  expiresAt : Time
  decidedAt : Option Time
  deriving DecidableEq, Repr

/-- `ordinal` is always 1, so that an attempt is known by its purpose. -/
structure ActionAttempt where
  purpose : Purpose
  status : AttemptStatus
  reference : Reference
  approvalId : Uuid
  idempotencyKey : String
  inputPayload : Fields
  output : Fields
  error : Option Failure

structure Rows where
  request : ActionRequest
  plan : Option ActionPlan
  approvals : Table ActionApproval.id
  attempts : Table ActionAttempt.purpose

def Purpose.waiting : Purpose → ActionStatus
  | .execute => .waitingApproval
  | .rollback => .waitingRollbackApproval

def Purpose.running : Purpose → ActionStatus
  | .execute => .executing
  | .rollback => .rollingBack

def PlanSpec.reference (spec : PlanSpec) : Purpose → Reference
  | .execute => spec.execute
  | .rollback => spec.rollback

def PlanSpec.purposeParameters (spec : PlanSpec) : Purpose → Fields
  | .execute => spec.parameters
  | .rollback => spec.rollbackParameters

def actionProviderPayload (request : ActionRequest) (planChecksum : String) (purpose : Purpose)
    (parameters : Fields) (originalOutput : Fields) : Fields :=
  [("action_type", .str request.actionType.value), ("purpose", .str purpose.value),
    ("target", .obj request.target), ("parameters", .obj parameters),
    ("obsion", .obj [("action_request_id", .str request.id.str),
      ("plan_checksum_sha256", .str planChecksum)])] ++
    match purpose with
    | .execute => []
    | .rollback => [("original_output", .obj originalOutput)]

/-- `f"action:{action.id}:{purpose.value.casefold()}:1"` -/
def attemptKey (request : ActionRequest) (purpose : Purpose) : String :=
  "action:" ++ request.id.str ++ ":" ++ purpose.casefold ++ ":1"

end Obsion.Actions
