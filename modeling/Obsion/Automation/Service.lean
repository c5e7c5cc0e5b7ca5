import Obsion.Automation.Rows

/-! # The automation service

Triggers, cancellations and reviews.  Sessions do not flush before a query, so the query
of `_cancel_pending_steps` reads the stored statuses while the rows it changes are the
objects of the session. -/

namespace Obsion.Automation

open Obsion.Lib
open Obsion.Harness (isTerminal)

def require (principal : Principal) (permission : String) : Except ObsionError Unit :=
  if principal.can permission then .ok ()
  else .error
    (authorizationError "automation_permission_denied" "Automation operation is not permitted")

def refuse {α : Type} (result : Except ObsionError α) : Except Fault α :=
  result.mapError Fault.refused

/-! ## Cancellation -/

def cancelStep (now : Time) (step : AutomationStepExecution) : AutomationStepExecution :=
  if step.status ∈ stepTerminal then step
  else { step with
    status := .cancelled, completedAt := some now, errorCode := some "automation_cancelled" }

@[simp] lemma cancelStep_stepKey (now : Time) (step : AutomationStepExecution) :
    (cancelStep now step).stepKey = step.stepKey := by
  unfold cancelStep
  split <;> rfl

def cancelRows (now : Time) (rows : ExecutionRows) : ExecutionRows where
  execution := { rows.execution with
    cancellationRequestedAt := some now, status := .cancelled, completedAt := some now
    leaseOwner := none, leaseExpiresAt := none }
  steps := rows.steps.update (cancelStep now) (cancelStep_stepKey now)

def openChildren (rows : ExecutionRows) : List Uuid :=
  rows.steps.rows.filterMap fun step => if step.status ∈ stepTerminal then none else step.runId

def cancelRun (now : Time) (run : ChildRun) : ChildRun :=
  if isTerminal run.status then run
  else { run with
    cancellationRequestedAt := some now
    status := if run.status = .pending then .cancelled else run.status }

@[simp] lemma cancelRun_id (now : Time) (run : ChildRun) : (cancelRun now run).id = run.id := by
  unfold cancelRun
  split <;> rfl

def changeRuns (change : ChildRun → ChildRun) (keeps : ∀ run, (change run).id = run.id)
    (ids : List Uuid) (runs : Runs) : Runs :=
  runs.update (fun run => if run.id ∈ ids then change run else run) (by
    intro run
    split
    · exact keeps run
    rfl)

def cancelExecutionRows (now : Time) (database : Database) (id : Uuid) : Database :=
  match database.executions.get? id with
  | none => database
  | some rows =>
    if rows.execution.status ∈ terminalExecutionStatuses then database
    else { database with
      executions := writeRows database.executions (cancelRows now rows)
      runs := changeRuns (cancelRun now) (cancelRun_id now) (openChildren rows) database.runs }

def getExecution (database : Database) (caller : Caller) (id : Uuid) :
    Except ObsionError ExecutionRows :=
  match database.executions.get? id with
  | none => .error (notFoundError "Automation execution")
  | some rows => (caller.access rows.execution.workspaceId).map fun _ => rows

def cancelExecution (now : Time) (caller : Caller) (id : Uuid) (database : Database) :
    Except ObsionError Database := do
  require caller.principal "automation.trigger"
  let rows ← getExecution database caller id
  if caller.principal.id ≠ rows.execution.ownerId ∧ ¬ caller.principal.can "automation.trigger.all" then
    .error (authorizationError "workflow_owner_required"
      "Only the accountable owner can cancel this workflow execution")
  else if rows.execution.status ∈ terminalExecutionStatuses then .ok database
  else .ok (cancelExecutionRows now database id)

structure ReviewRequest where
  decision : ReviewDecision
  reason : String

/-- `_cancel_pending_steps`: the stored rows answer the query, the session is changed. -/
def cancelPendingSteps (now : Time) (errorCode : String) (stored session : Steps) : Steps :=
  session.update (fun step =>
    if (stored.get? step.stepKey).any fun row =>
        row.status = .pending || row.status = .waitingReview then
      { step with status := .skipped, completedAt := some now, errorCode := some errorCode }
    else step) (by
    intro step
    split <;> rfl)

def decided (now : Time) (principal : Principal) (request : ReviewRequest)
    (step : AutomationStepExecution) : AutomationStepExecution :=
  { step with
    reviewDecision := some request.decision, reviewedBy := some principal.id
    reviewReason := some (strip request.reason), reviewedAt := some now, completedAt := some now }

def approveRows (now : Time) (principal : Principal) (request : ReviewRequest)
    (step : AutomationStepExecution) (rows : ExecutionRows) : ExecutionRows where
  execution := { rows.execution with
    status := .running, leaseOwner := none, leaseExpiresAt := none }
  steps := rows.steps.put { decided now principal request step with status := .completed }

def rejectRows (now : Time) (principal : Principal) (request : ReviewRequest)
    (step : AutomationStepExecution) (rows : ExecutionRows) : ExecutionRows where
  execution := { rows.execution with
    status := .failed, errorCode := some "human_review_rejected"
    errorMessage := some "A human reviewer rejected the workflow", completedAt := some now
    leaseOwner := none, leaseExpiresAt := none }
  steps := cancelPendingSteps now "human_review_rejected" rows.steps
    (rows.steps.put { decided now principal request step with
      status := .failed, errorCode := some "human_review_rejected" })

/-- `review_step`, of the step with this key in this execution -/
def reviewStep (now : Time) (caller : Caller) (executionId : Uuid) (stepKey : String)
    (request : ReviewRequest) (database : Database) : Except ObsionError Database := do
  require caller.principal "automation.review"
  match database.executions.get? executionId with
  | none => .error (notFoundError "Automation step")
  | some rows =>
    match rows.steps.get? stepKey with
    | none => .error (notFoundError "Automation step")
    | some step => do
        caller.access rows.execution.workspaceId
        if step.status ≠ .waitingReview then
          .error (conflictError "automation_step_not_waiting_review"
            "The workflow step is not awaiting review")
        else if step.disallowSelfReview ∧ caller.principal.id = rows.execution.ownerId then
          .error (authorizationError "automation_self_review_denied"
            "The workflow owner cannot review this gate")
        else
          let after := match request.decision with
            | .approve => approveRows now caller.principal request step rows
            | .reject => rejectRows now caller.principal request step rows
          .ok { database with executions := writeRows database.executions after }

/-! ## Triggers -/

def getWorkflow (database : Database) (caller : Caller) (id : Uuid) :
    Except ObsionError WorkflowDefinition :=
  match database.workflows.get? id with
  | none => .error (notFoundError "Workflow")
  | some workflow => (caller.access workflow.workspaceId).map fun _ => workflow

def publishedVersion (database : Database) (workflowId : Uuid) (versionNumber : Nat) :
    Except ObsionError WorkflowVersion :=
  match database.versions.rows.find? fun version =>
      version.workflowId = workflowId && version.version = versionNumber &&
        version.publishedAt.isSome with
  | none => .error (notFoundError "Published workflow version")
  | some version => .ok version

def pinnedOr (pinned : Option WorkflowVersion) (published : Except ObsionError WorkflowVersion) :
    Except ObsionError WorkflowVersion :=
  match pinned with
  | some version => .ok version
  | none => published

structure TriggerRequest where
  inputPayload : Fields
  idempotencyKey : Option String
  trigger : AutomationTrigger
  schedule : Option Uuid := none
  scheduledFor : Option Time := none
  pinnedVersion : Option WorkflowVersion := none
  newId : Uuid
  executionId : Uuid

def TriggerRequest.key (request : TriggerRequest) (workflowId : Uuid) : String :=
  match request.idempotencyKey with
  | some key => if key = "" then "manual:" ++ workflowId.str ++ ":" ++ request.newId.str else key
  | none => "manual:" ++ workflowId.str ++ ":" ++ request.newId.str

def activeExecutions (database : Database) (workflowId : Uuid) : List ExecutionRows :=
  database.executions.select fun rows =>
    rows.execution.workflowId = workflowId && decide rows.Active

/-- `skip_code`; a trigger is admitted where there is none. -/
def skipCode (workflow : WorkflowDefinition) (active : Nat) : Option String :=
  if workflow.concurrencyPolicy = .forbid ∧ 0 < active then
    some "workflow_concurrency_forbidden"
  else if workflow.concurrencyPolicy = .allow ∧ workflow.maxConcurrency ≤ active then
    some "workflow_concurrency_limit"
  else none

def freshStep (now : Time) (skip : Option String) (spec : WorkflowStepSpec) (ordinal : Nat) :
    AutomationStepExecution where
  stepKey := spec.id
  ordinal := ordinal
  name := spec.name
  stepType := spec.stepType
  dependsOn := spec.dependsOn
  disallowSelfReview := spec.disallowSelfReview
  status := if skip.isNone then .pending else .skipped
  completedAt := if skip.isNone then none else some now
  errorCode := skip

def freshSteps (now : Time) (skip : Option String) (spec : WorkflowSpec) : Steps where
  rows := (spec.steps.zipIdx 1).map fun entry => freshStep now skip entry.1 entry.2
  unique := by
    have keys : AutomationStepExecution.stepKey ∘
        (fun entry : WorkflowStepSpec × Nat => freshStep now skip entry.1 entry.2) =
        WorkflowStepSpec.id ∘ Prod.fst := rfl
    rw [List.map_map, keys, ← List.map_map, List.zipIdx_map_fst]
    exact spec.unique

def freshExecution (now : Time) (workflow : WorkflowDefinition) (version : WorkflowVersion)
    (request : TriggerRequest) (skip : Option String) : ExecutionRows where
  execution :=
    { id := request.executionId, workspaceId := workflow.workspaceId, workflowId := workflow.id
      workflowVersionId := version.id, scheduleId := request.schedule, trigger := request.trigger
      scheduledFor := request.scheduledFor, idempotencyKey := request.key workflow.id
      status := if skip.isNone then .pending else .skipped
      ownerId := workflow.ownerId, inputPayload := request.inputPayload
      deadlineAt := now + seconds workflow.timeoutSeconds
      completedAt := if skip.isNone then none else some now
      errorCode := skip
      errorMessage :=
        if skip.isNone then none else some "Workflow concurrency policy skipped this trigger" }
  steps := freshSteps now skip version.spec

def clearExecutions (now : Time) (workflow : WorkflowDefinition) (active : List ExecutionRows)
    (database : Database) : Database :=
  if workflow.concurrencyPolicy = .replace then
    active.foldl (fun database rows => cancelExecutionRows now database rows.id) database
  else database

def admitExecution (now : Time) (workflow : WorkflowDefinition) (version : WorkflowVersion)
    (request : TriggerRequest) (database : Database) : Except Fault (Database × ExecutionRows) :=
  let active := activeExecutions database workflow.id
  let cleared := clearExecutions now workflow active database
  let fresh := freshExecution now workflow version request (skipCode workflow active.length)
  match cleared.executions.insert? fresh with
  | none => .error .crashed
  | some executions => .ok ({ cleared with executions := executions }, fresh)

def triggerWorkflow (now : Time) (caller : Caller) (workflowId : Uuid) (request : TriggerRequest)
    (database : Database) : Except Fault (Database × ExecutionRows) := do
  refuse (require caller.principal "automation.trigger")
  let workflow ← refuse (getWorkflow database caller workflowId)
  match workflow.status, workflow.activeVersion with
  | .active, some activeVersion => do
      if caller.principal.id ≠ workflow.ownerId ∧ ¬ caller.principal.can "automation.trigger.all" then
        .error (.refused (authorizationError "workflow_owner_required"
          "Only the accountable owner can trigger this workflow"))
      else
        let version ← refuse (pinnedOr request.pinnedVersion
          (publishedVersion database workflow.id activeVersion))
        match database.executions.rows.find? fun rows =>
            rows.execution.idempotencyKey = request.key workflow.id with
        | some existing =>
          if existing.execution.workflowId ≠ workflow.id then
            .error (.refused (conflictError "automation_idempotency_conflict"
              "The idempotency key belongs to another workflow"))
          else .ok (database, existing)
        | none => admitExecution now workflow version request database
  | _, _ =>
    .error (.refused
      (conflictError "workflow_not_active" "Only active workflows can be triggered"))

end Obsion.Automation
