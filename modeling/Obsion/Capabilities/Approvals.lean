import Obsion.Lib.Transition
import Obsion.Security.Fingerprint

/-! # Approvals of capability requests

`_invoke` of the gateway, which asks for an approval or uses one, and the decisions of
the approvers.  An invocation is a transaction: it can be rolled back after the connector
was called. -/

namespace Obsion.Capabilities.Approvals

open Obsion.Lib Obsion.Security

inductive ApprovalStatus
  | pending
  | approved
  | rejected
  | expired
  | cancelled
  deriving DecidableEq

structure Approval where
  id : Uuid
  organizationId : Uuid
  runId : Uuid
  stepId : Option Uuid
  policyDecisionId : Uuid
  status : ApprovalStatus
  requestedBy : Uuid
  decidedBy : Option Uuid
  decisionReason : Option String
  expiresAt : Time
  decidedAt : Option Time
  resumeTokenUsedAt : Option Time

structure GatewayRequest where
  principal : Security.Principal
  resource : Fields
  environment : String
  agentName : String
  runId : Uuid
  stepId : Option Uuid
  agentVersionId : Option Uuid
  context : Fields

inductive Rate
  | allowed
  | exceeded
  | unavailable

/-- What an invocation finds: the resolved capability, the policies, the new identifiers and how
the checks around the approval end. -/
structure Surroundings where
  version : CapabilityVersion
  permissionAction : String
  agentCapabilityAllowed : Option Bool
  policies : List Policy
  decisionId : Uuid
  approvalId : Uuid
  now : Time
  /-- the connector is granted the capability, and the repository -/
  granted : Bool
  /-- the payload matches the input schema -/
  valid : Bool
  rate : Rate
  /-- an executor is installed for the transport -/
  installed : Bool
  /-- the credential is resolved -/
  resolved : Bool
  /-- the code of the exception that ends the call or what follows it -/
  failure : Option String
  /-- the transaction is committed -/
  commits : Bool

inductive GatewayStatus
  | completed
  | waitingApproval
  | denied
  | failed

structure GatewayResult where
  status : GatewayStatus
  policyDecisionId : Uuid
  approvalId : Option Uuid
  errorCode : Option String

structure Execution where
  decisionId : Uuid
  approvalId : Option Uuid
  committed : Bool
  deriving DecidableEq

structure World where
  decisions : List PolicyDecision
  approvals : List Approval
  requests : List (Uuid × PolicyInput)
  executions : List Execution

/-! ## The invocation -/

def policyInput (request : GatewayRequest) (around : Surroundings) : PolicyInput where
  principal := request.principal
  capability := around.version
  action := around.permissionAction
  resource := request.resource
  context := request.context.set "environment" (.str request.environment)
  agentName := request.agentName
  agentVersionId := request.agentVersionId
  agentCapabilityAllowed := around.agentCapabilityAllowed
  runId := some request.runId

def approvalsFor (world : World) (request : GatewayRequest) (fingerprint : String) : List Approval :=
  world.approvals.filter fun approval =>
    approval.organizationId = request.principal.organizationId ∧ approval.runId = request.runId ∧
      approval.stepId = request.stepId ∧ approval.status = .approved ∧
      world.decisions.any fun decision =>
        decision.id = approval.policyDecisionId ∧ decision.inputFingerprint = fingerprint

/-- `decided_at`; a row without it comes first in descending order. -/
def Approval.decided (approval : Approval) : WithTop Time := approval.decidedAt

/-- The first row in the descending order of `decided_at`; rows that tie come in any order. -/
inductive First (rows : List Approval) : Option Approval → Prop
  | empty (none_ : rows = []) : First rows none
  | latest (approval : Approval) (member : approval ∈ rows)
      (last : ∀ other ∈ rows, other.decided ≤ approval.decided) : First rows (some approval)

def usable (found : Option Approval) : Option Approval :=
  found.filter fun approval => approval.resumeTokenUsedAt.isNone

def createApproval (request : GatewayRequest) (around : Surroundings) : Approval where
  id := around.approvalId
  organizationId := request.principal.organizationId
  runId := request.runId
  stepId := request.stepId
  policyDecisionId := around.decisionId
  status := .pending
  requestedBy := request.principal.id
  decidedBy := none
  decisionReason := none
  expiresAt := around.now + 1800000000
  decidedAt := none
  resumeTokenUsedAt := none

def useApproval (now : Time) (id : Uuid) (approvals : List Approval) : List Approval :=
  approvals.map fun approval =>
    if approval.id = id then { approval with resumeTokenUsedAt := some now } else approval

/-- What the end of an invocation is: a result, the approvals, and the approval it used if it
called the connector. -/
structure Ending where
  result : GatewayResult
  approvals : List Approval
  executed : Option (Option Uuid)

def execute (around : Surroundings) (approvals : List Approval) (used : Option Uuid) : Ending :=
  let ended := fun status code => GatewayResult.mk status around.decisionId none code
  match around.rate with
  | .unavailable => ⟨ended .failed (some "rate_limit_unavailable"), approvals, none⟩
  | .exceeded => ⟨ended .denied (some "capability_rate_limited"), approvals, none⟩
  | .allowed =>
    if around.installed = false then
      ⟨ended .failed (some "capability_transport_unavailable"), approvals, none⟩
    else if around.resolved = false then
      ⟨ended .failed (some (around.failure.getD "capability_failed")), approvals, none⟩
    else
      match around.failure with
      | some code => ⟨ended .failed (some code), approvals, some used⟩
      | none => ⟨ended .completed none, approvals, some used⟩

/-- `_invoke` after the decision, where `found` is the row that the query returns. -/
def proceed (request : GatewayRequest) (around : Surroundings) (decision : Decision)
    (found : Option Approval) (approvals : List Approval) : Ending :=
  let ended := fun status code => GatewayResult.mk status around.decisionId none code
  if decision.effect = .deny then ⟨ended .denied (some "capability_denied"), approvals, none⟩
  else if around.granted = false then ⟨ended .denied (some "connector_grant_missing"), approvals, none⟩
  else if around.valid = false then ⟨ended .failed (some "capability_input_invalid"), approvals, none⟩
  else if decision.effect = .ask then
    match usable found with
    | some approval =>
      execute around (useApproval around.now approval.id approvals) (some approval.id)
    | none =>
      ⟨⟨.waitingApproval, around.decisionId, some around.approvalId, none⟩,
        approvals ++ [createApproval request around], none⟩
  else execute around approvals none

def executionsOf (around : Surroundings) (ending : Ending) : List Execution :=
  match ending.executed with
  | some used => [⟨around.decisionId, used, around.commits⟩]
  | none => []

def invoke (engine : Engine) (request : GatewayRequest) (around : Surroundings)
    (found : Option Approval) (world : World) : GatewayResult × World :=
  let input := policyInput request around
  let evaluated := evaluate engine around.policies input around.decisionId around.now
  let ending := proceed request around evaluated.1 found world.approvals
  (ending.result,
    { decisions := if around.commits then world.decisions ++ [evaluated.2] else world.decisions
      approvals := if around.commits then ending.approvals else world.approvals
      requests := world.requests ++ [(around.decisionId, input)]
      executions := world.executions ++ executionsOf around ending })

structure Verdict where
  approver : Security.Principal
  approvalId : Uuid
  approve : Bool
  reason : String
  now : Time
  /-- `require_run_access` -/
  access : Bool

inductive DecideError
  | denied
  | notFound
  | alreadyDecided
  | noAccess
  | selfApproval

def decideRow (verdict : Verdict) (approval : Approval) : Except DecideError Approval :=
  if approval.status ≠ .pending then .error .alreadyDecided
  else if verdict.access = false then .error .noAccess
  else if approval.expiresAt ≤ verdict.now then
    .ok { approval with status := .expired, decidedAt := some verdict.now }
  else if approval.requestedBy = verdict.approver.id then .error .selfApproval
  else
    .ok { approval with
      status := if verdict.approve then .approved else .rejected
      decidedBy := some verdict.approver.id, decisionReason := some (strip verdict.reason)
      decidedAt := some verdict.now }

/-- `ApprovalService.decide`; an expired row is saved, and the call fails. -/
def decide (verdict : Verdict) (world : World) : Except DecideError World :=
  if verdict.approver.can "approval.decide" = false then .error .denied
  else
    match world.approvals.find? fun approval =>
      approval.id = verdict.approvalId ∧ approval.organizationId = verdict.approver.organizationId with
    | none => .error .notFound
    | some approval =>
      (decideRow verdict approval).map fun decided =>
        { world with approvals := world.approvals.map fun row =>
            if row.id = approval.id then decided else row }

inductive Action
  | invoke (request : GatewayRequest) (around : Surroundings)
  | decide (verdict : Verdict)

/-- The identifiers of a new decision and a new approval were not used before. -/
structure FreshIds (world : World) (around : Surroundings) : Prop where
  decision : around.decisionId ∉ world.requests.map Prod.fst
  approval : around.approvalId ∉ world.approvals.map Approval.id

inductive Step (engine : Engine) (before : World) : Action → World → Prop
  | invoke {request : GatewayRequest} {around : Surroundings} {found : Option Approval}
      (fresh : FreshIds before around) (written : Written (policyInput request around))
      (first : First (approvalsFor before request (fingerprint engine (policyInput request around)
        (resolve engine.repr around.policies (policyInput request around)).effect
        (resolve engine.repr around.policies (policyInput request around)).policyIds)) found) :
      Step engine before (.invoke request around) (Approvals.invoke engine request around found before).2
  | decide {verdict : Verdict} {after : World} (decided : Approvals.decide verdict before = .ok after) :
      Step engine before (.decide verdict) after

def Empty (world : World) : Prop :=
  world.decisions = [] ∧ world.approvals = [] ∧ world.requests = [] ∧ world.executions = []

def approvalSystem (engine : Engine) : System World Action where
  init := Empty
  step before action after := Step engine before action after

end Obsion.Capabilities.Approvals
