import Obsion.Automation.Service

/-! # The automation worker

`tick_schedules` for one due schedule and `_advance` for one claimed execution, each a
transaction that commits or raises.  The loop of `_advance` writes the status
`WAITING_REVIEW` to the execution too; `concluded` overwrites it before the commit. -/

namespace Obsion.Automation

open Obsion.Lib
open Obsion.Harness (isTerminal)

structure Cron where
  occurs : String → String → Time → Prop
  nextCronOccurrence : String → String → Time → Except ObsionError Time
  least : ∀ {expression timezone : String} {after occurrence : Time},
    nextCronOccurrence expression timezone after = .ok occurrence →
      IsLeast {time | after < time ∧ occurs expression timezone time} occurrence

structure Config where
  leaseSeconds : Nat
  pollInterval : Time
  cron : Cron
  isoformat : Time → String

def scheduleKey (config : Config) (schedule : WorkflowSchedule) : String :=
  "schedule:" ++ schedule.id.str ++ ":" ++ config.isoformat schedule.nextFireAt

def misfired (current : Time) (schedule : WorkflowSchedule) : Bool :=
  decide (seconds schedule.misfireGraceSeconds < max 0 (current - schedule.nextFireAt))

def writeSchedule (database : Database) (schedule : WorkflowSchedule) : Database :=
  { database with schedules := database.schedules.put schedule }

/-- The `try` block of `tick_schedules`; `owner` is what `load_schedule_owner` does. -/
def fireSchedule (config : Config) (current : Time) (owner : Except Fault Caller)
    (executionId : Uuid) (schedule : WorkflowSchedule) (database : Database) :
    Except Fault Database := do
  let owner ← owner
  if ¬ owner.principal.can "automation.trigger" then
    .error (.refused (validationError "workflow_owner_permission_missing"
      "Workflow owner no longer has automation.trigger permission"))
  else
    refuse (owner.access schedule.workspaceId)
    match database.versions.rows.find? fun version =>
        version.id = schedule.workflowVersionId && version.workflowId = schedule.workflowId &&
          version.publishedAt.isSome with
    | none =>
      .error (.refused (validationError "workflow_version_unavailable"
        "Pinned workflow version is unavailable"))
    | some version => do
        let fired ← triggerWorkflow current owner schedule.workflowId
          { inputPayload := schedule.inputPayload
            idempotencyKey := some (scheduleKey config schedule), trigger := .schedule
            schedule := some schedule.id, scheduledFor := some schedule.nextFireAt
            pinnedVersion := some version
            -- The key is given, so that no id is drawn for it.
            newId := executionId
            executionId := executionId } database
        .ok fired.1

/-- `tick_schedules` once it has selected and locked a schedule that is due. -/
def tickSchedule (config : Config) (current : Time) (owner : Except Fault Caller)
    (executionId : Uuid) (schedule : WorkflowSchedule) (database : Database) :
    Except Fault Database :=
  if (database.workflows.get? schedule.workflowId).any fun workflow => workflow.status = .active then
    match config.cron.nextCronOccurrence schedule.cronExpression schedule.timezone
        (if misfired current schedule then current else schedule.nextFireAt) with
    | .error error => .error (.refused error)
    | .ok next =>
      let advanced :=
        { schedule with lastFireAt := some schedule.nextFireAt, nextFireAt := next }
      if misfired current schedule && decide (schedule.misfirePolicy = .skip) then
        .ok (writeSchedule database
          { advanced with lastErrorCode := some "schedule_misfire_skipped" })
      else match fireSchedule config current owner executionId schedule database with
        | .ok fired => .ok (writeSchedule fired { advanced with lastErrorCode := none })
        | .error (.refused error) =>
          .ok (writeSchedule database
            { advanced with enabled := false, lastErrorCode := some error.code })
        | .error .crashed => .error .crashed
  else
    .ok (writeSchedule database
      { schedule with enabled := false, lastErrorCode := some "workflow_not_active" })

/-! ## Executions -/

def claimable (now : Time) (execution : AutomationExecution) : Bool :=
  (execution.status = .pending || execution.status = .running) &&
    execution.cancellationRequestedAt.isNone &&
    execution.leaseExpiresAt.all fun expiry => expiry < now

def claimRows (config : Config) (now : Time) (worker : String) (rows : ExecutionRows) :
    ExecutionRows :=
  { rows with
    execution :=
      { rows.execution with
        status := .running
        startedAt :=
          if rows.execution.status = .pending then some now else rows.execution.startedAt
        leaseOwner := some worker, leaseExpiresAt := some (now + seconds config.leaseSeconds) } }

def orDefault (value : Option String) (default : String) : String :=
  match value with
  | some text => if text = "" then default else text
  | none => default

def reconcileStep (now : Time) (runs : Runs) (step : AutomationStepExecution) :
    AutomationStepExecution :=
  match step.status, step.runId with
  | .running, some id =>
    match runs.get? id with
    | none =>
      { step with
        status := .failed, errorCode := some "automation_child_run_missing"
        errorMessage := some "The child Harness run is missing" }
    | some run =>
      match run.status with
      | .completed => { step with status := .completed, completedAt := some now }
      | .failed | .cancelled =>
        { step with
          status := .failed, completedAt := some now
          errorCode := some (orDefault run.errorCode "automation_child_run_failed")
          errorMessage :=
            some (orDefault run.errorMessage "The child Harness run did not complete") }
      | _ => step
  | _, _ => step

@[simp] lemma reconcileStep_stepKey (now : Time) (runs : Runs) (step : AutomationStepExecution) :
    (reconcileStep now runs step).stepKey = step.stepKey := by
  unfold reconcileStep
  split
  · split
    · rfl
    split <;> rfl
  · rfl

def failStep (now : Time) (code : String) (step : AutomationStepExecution) :
    AutomationStepExecution :=
  if step.status ∈ stepTerminal then step
  else { step with status := .skipped, completedAt := some now, errorCode := some code }

@[simp] lemma failStep_stepKey (now : Time) (code : String) (step : AutomationStepExecution) :
    (failStep now code step).stepKey = step.stepKey := by
  unfold failStep
  split <;> rfl

def failRows (now : Time) (code message : String) (rows : ExecutionRows) : ExecutionRows where
  execution := { rows.execution with
    status := .failed, errorCode := some code, errorMessage := some message
    completedAt := some now, leaseOwner := none, leaseExpiresAt := none }
  steps := rows.steps.update (failStep now code) (failStep_stepKey now code)

def requestRun (now : Time) (run : ChildRun) : ChildRun :=
  if isTerminal run.status then run else { run with cancellationRequestedAt := some now }

@[simp] lemma requestRun_id (now : Time) (run : ChildRun) : (requestRun now run).id = run.id := by
  unfold requestRun
  split <;> rfl

def failExecution (now : Time) (code message : String) (rows : ExecutionRows)
    (database : Database) : Database :=
  { database with
    executions := writeRows database.executions (failRows now code message rows)
    runs := changeRuns (requestRun now) (requestRun_id now) (openChildren rows) database.runs }

/-- What the code around `_advance` answers: the loaded principal with its workspace
access, the Run that `create_turn` adds for an analysis, a delivered notification. -/
structure AdvanceEnv where
  principal : Except Fault Caller
  analysis : AutomationStepExecution → Except Fault Uuid
  notification : AutomationStepExecution → Except Fault Unit

def startStep (now : Time) (env : AdvanceEnv) (step : AutomationStepExecution) (steps : Steps)
    (runs : Runs) : Except Fault (Steps × Runs) :=
  match step.stepType with
  | .analysis => do
      let id ← env.analysis step
      match runs.insert? { id := id, status := .pending } with
      | none => .error .crashed
      | some runs =>
        .ok (steps.put { step with
          status := .running, runId := some id, startedAt := some now }, runs)
  | .notification => do
      env.notification step
      .ok (steps.put { step with
        status := .completed, startedAt := some (step.startedAt.getD now)
        completedAt := some now }, runs)
  | .humanReview =>
    .ok (steps.put { step with status := .waitingReview, startedAt := some now }, runs)

/-- All steps a step depends on are completed; a key without a step is a `KeyError`. -/
def dependenciesCompleted (steps : Steps) (step : AutomationStepExecution) : Except Fault Bool :=
  if step.dependsOn.all fun key => (steps.get? key).isSome then
    .ok (step.dependsOn.all fun key =>
      (steps.get? key).any fun dependency => dependency.status = .completed)
  else .error .crashed

/-- The loop of `_advance` over the steps; the steps it has started are in the table. -/
def startSteps (now : Time) (env : AdvanceEnv) :
    List AutomationStepExecution → Steps → Runs → Except Fault (Steps × Runs)
  | [], steps, runs => .ok (steps, runs)
  | step :: rest, steps, runs =>
    if step.status ≠ .pending then startSteps now env rest steps runs
    else do
      if ← dependenciesCompleted steps step then
        let started ← startStep now env step steps runs
        startSteps now env rest started.1 started.2
      else startSteps now env rest steps runs

def concludedStatus (steps : Steps) : AutomationStatus :=
  if steps.rows.all fun step => step.status = .completed then .completed
  else if steps.rows.any fun step => step.status = .waitingReview then .waitingReview
  else .running

def concluded (config : Config) (now : Time) (execution : AutomationExecution) (steps : Steps) :
    ExecutionRows where
  execution := { execution with
    status := concludedStatus steps
    completedAt := if concludedStatus steps = .completed then some now else execution.completedAt
    leaseOwner := none
    leaseExpiresAt :=
      if concludedStatus steps = .running then some (now + config.pollInterval) else none }
  steps := steps

def advanceSteps (config : Config) (now : Time) (env : AdvanceEnv) (rows : ExecutionRows)
    (database : Database) : Except Fault Database :=
  match rows.steps.rows.find? fun step => step.status = .failed with
  | some failed =>
    .ok (failExecution now (orDefault failed.errorCode "automation_step_failed")
      (orDefault failed.errorMessage ("Workflow step " ++ failed.name ++ " failed"))
      rows database)
  | none => do
      let started ← startSteps now env rows.steps.rows rows.steps database.runs
      .ok { database with
        executions :=
          writeRows database.executions (concluded config now rows.execution started.1)
        runs := started.2 }

def reconcileRows (now : Time) (runs : Runs) (rows : ExecutionRows) : ExecutionRows :=
  { rows with
    steps := rows.steps.update (reconcileStep now runs) (reconcileStep_stepKey now runs) }

def advance (config : Config) (now : Time) (env : AdvanceEnv) (executionId : Uuid)
    (database : Database) : Except Fault Database :=
  match database.executions.get? executionId with
  | none => .ok database
  | some rows =>
    if rows.execution.status ∈ terminalExecutionStatuses then .ok database
    else if rows.execution.deadlineAt ≤ now then
      .ok (failExecution now "automation_timeout" "Workflow execution exceeded its deadline"
        rows database)
    else do
      let owner ← env.principal
      if ¬ owner.principal.can "automation.trigger" then
        .ok (failExecution now "workflow_owner_permission_missing"
          "Workflow owner no longer has automation permission" rows database)
      else
        refuse (owner.access rows.execution.workspaceId)
        if (database.workflows.get? rows.execution.workflowId).isNone then
          .ok (failExecution now "workflow_not_found" "Workflow definition is missing"
            rows database)
        else advanceSteps config now env (reconcileRows now database.runs rows) database

def failAfterException (now : Time) (code message : String) (executionId : Uuid)
    (database : Database) : Database :=
  match database.executions.get? executionId with
  | none => database
  | some rows =>
    if rows.execution.status ∈ terminalExecutionStatuses then database
    else failExecution now code message rows database

end Obsion.Automation
