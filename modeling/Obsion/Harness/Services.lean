import Obsion.Harness.Runtime

/-! # The other transactions on a Run

`RunWorker._claim`, `ApprovalService.decide`, `ClarificationService.answer`,
`WorkspaceService.cancel_run`, the cancellation requests of the automation
service, and the approvals that `CapabilityGateway._invoke` finds and creates.
The gateway's transaction appends an event of the Run before it reads an
approval, so it holds the lock of the Run row too. -/

namespace Obsion.Harness

/-- The rows after `_claim` took this Run, and whether the worker executes it;
`none` where the query does not return it. -/
def claim (workerId : String) (now : Time) (rows : RunRows) : Option (RunRows × Bool) :=
  if rows.run.status ∈ [RunStatus.pending, .running] ∧ rows.run.cancellationRequestedAt = none ∧
      rows.run.leaseExpiresAt.all (· < now) then
    if rows.run.deadlineAt.any (· ≤ now) then
      some
        ({ rows with run := { rows.run with status := .failed, errorCode := some "run_timeout" } },
         false)
    else
      some
        ({ rows with
           run :=
             { rows.run with
               status := .running, leaseOwner := some workerId
               leaseExpiresAt := some (now + seconds (rows.run.timeoutSeconds + 30)) } },
         true)
  else none

/-! ## Approvals -/

inductive ApprovalStatus
  | pending
  | approved
  | rejected
  | expired
  deriving DecidableEq, Repr

structure Approval where
  id : Nat
  stepId : Nat
  /-- `input_fingerprint` of the policy decision it belongs to. -/
  inputFingerprint : String
  status : ApprovalStatus
  requestedBy : Uuid
  expiresAt : Time
  decidedAt : Option Time := none
  resumeTokenUsedAt : Option Time := none
  deriving DecidableEq, Repr

def Approval.open (approval : Approval) : Bool :=
  approval.status = .pending ||
    (approval.status = .approved && approval.resumeTokenUsedAt.isNone)

def createApproval (stepId : Nat) (fingerprint : String) (requestedBy : Uuid) (now : Time)
    (approvals : List Approval) : Approval :=
  { id := approvals.length
    stepId
    inputFingerprint := fingerprint, status := .pending
    requestedBy
    expiresAt := now + seconds 1800 }

/-- `ORDER BY decided_at DESC LIMIT 1`; where two were decided at one instant, which
the query leaves open, the first row. -/
def lastDecided : List Approval → Option Approval
  | [] => none
  | approval :: rest =>
    match lastDecided rest with
    | none => some approval
    | some later =>
      if approval.decidedAt.getD 0 < later.decidedAt.getD 0 then some later else some approval

def lastApproved (stepId : Nat) (fingerprint : String) (approvals : List Approval) :
    Option Approval :=
  lastDecided (approvals.filter fun approval =>
    approval.stepId = stepId && approval.status = .approved &&
      approval.inputFingerprint = fingerprint)

def findApproval (stepId : Nat) (fingerprint : String) (approvals : List Approval) :
    Option Approval :=
  match lastApproved stepId fingerprint approvals with
  | none => none
  | some approval => if approval.resumeTokenUsedAt = none then some approval else none

def useApproval (approvalId : Nat) (now : Time) (approvals : List Approval) : List Approval :=
  approvals.map fun approval =>
    if approval.id = approvalId then { approval with resumeTokenUsedAt := some now } else approval

def setApproval (approvalId : Nat) (status : ApprovalStatus) (now : Time)
    (approvals : List Approval) : List Approval :=
  approvals.map fun approval =>
    if approval.id = approvalId then { approval with status, decidedAt := some now } else approval

/-- `decide`.  The routes catch `approval_expired` and commit what was written before
it, so that case is a result; `access` is `require_run_access`. -/
def decide (principal : Principal) (access : Bool) (approvalId : Nat) (approve : Bool) (now : Time)
    (approvals : List Approval) (rows : RunRows) :
    Except ObsionError (List Approval × RunRows) :=
  if principal.can "approval.decide" = false then
    .error (authorizationError "approval_decide_denied" "Approval decisions are not permitted")
  else
    match approvals.find? fun approval => approval.id == approvalId with
    | none => .error (notFoundError "Approval")
    | some approval =>
      if approval.status ≠ .pending then
        .error (conflictError "approval_already_decided" "The approval is no longer pending")
      else if access = false then .error (notFoundError "Run")
      else if approval.expiresAt ≤ now then
        .ok (setApproval approvalId .expired now approvals, rows)
      else if approval.requestedBy = principal.id then
        .error (authorizationError "self_approval_denied"
          "The requester cannot approve their own capability request")
      else if approve then
        .ok (setApproval approvalId .approved now approvals,
          if rows.run.status = .waitingApproval then
            { rows with
              run :=
                { rows.run with status := .running, leaseOwner := none, leaseExpiresAt := none } }
          else rows)
      else
        .ok (setApproval approvalId .rejected now approvals, if isTerminal rows.run.status then rows
          else
            { rows with
              run :=
                { rows.run with status := .failed, errorCode := some "approval_rejected" } })

/-- `answer`; the route commits what `expire` wrote before it raises. -/
def answer (access : Bool) (clarificationId : Nat) (now : Time) (rows : RunRows) :
    Except ObsionError RunRows :=
  if access = false then .error (notFoundError "Run")
  else if rows.run.status ≠ .waitingUser then
    .error (conflictError "clarification_not_pending" "The run is not waiting for clarification")
  else
    match rows.run.clarification with
    | none =>
      .error (conflictError "clarification_not_pending"
        "The clarification is no longer the active request")
    | some active =>
      if active.id ≠ clarificationId then
        .error (conflictError "clarification_not_pending"
          "The clarification is no longer the active request")
      else if active.expiresAt ≤ now then
        .ok
          { rows with
            run :=
              { rows.run with
                status := .failed, clarification := none
                errorCode := some "clarification_expired", deadlineAt := none, leaseOwner := none
                leaseExpiresAt := none } }
      else
        match active.remainingExecutionSeconds with
        | none =>
          .error (conflictError "clarification_state_invalid"
            "The clarification has no resumable execution budget")
        | some remaining =>
          .ok
            { rows with
              run :=
                { rows.run with
                  status := .running, clarification := none
                  deadlineAt := some (now + seconds remaining), leaseOwner := none
                  leaseExpiresAt := none } }

def cancelRun (now : Time) (rows : RunRows) : RunRows :=
  if isTerminal rows.run.status then rows
  else
    { run :=
        { rows.run with
          cancellationRequestedAt := some now, status := .cancelled, leaseOwner := none
          leaseExpiresAt := none }
      steps := cancelActiveRunSteps rows.steps }

/-- A failed or cancelled automation asks its Runs to stop.  The worker reads the Run
without locking it, so the status it checked may have changed; the service, which
locks it, also cancels a Run that no worker has claimed. -/
def requestCancellation (service : Bool) (now : Time) (rows : RunRows) : RunRows :=
  { rows with
    run :=
      { rows.run with
        cancellationRequestedAt := some now
        status :=
          if service ∧ rows.run.status = .pending then .cancelled else rows.run.status } }

end Obsion.Harness
