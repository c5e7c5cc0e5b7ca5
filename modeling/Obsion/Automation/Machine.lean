import Obsion.Automation.Worker
import Obsion.Lib.Transition

/-! # Workers, people and child Runs

Any number of workers tick schedules and advance executions while people trigger, review
and cancel them and the Harness moves the child Runs.  Each action is one transaction
under the row locks it takes.  A task is a claimed execution in a worker: it is lost when
its worker crashes, and an exception of `_advance` leaves it with the failure to record. -/

namespace Obsion.Automation

open Obsion.Lib
open Obsion.Harness (RunStatus allowedRunTransitions)

inductive TaskPhase
  | advancing
  | failing (code message : String)

structure Task where
  token : Uuid
  executionId : Uuid
  phase : TaskPhase

structure World where
  now : Time
  database : Database
  tasks : Table Task.token

inductive Action
  | elapse (duration : Nat)
  | tick (scheduleId : Uuid) (owner : Except Fault Caller) (executionId : Uuid)
  | trigger (caller : Caller) (workflowId : Uuid) (inputPayload : Fields)
      (idempotencyKey : Option String) (trigger : AutomationTrigger) (newId executionId : Uuid)
  | claim (token : Uuid) (worker : String) (executionId : Uuid)
  | advance (token : Uuid) (env : AdvanceEnv)
  | abort (token : Uuid) (fault : Fault)
  | fail (token : Uuid)
  | crash (token : Uuid)
  | review (caller : Caller) (executionId : Uuid) (stepKey : String) (request : ReviewRequest)
  | cancel (caller : Caller) (executionId : Uuid)
  | moveRun (runId : Uuid) (target : RunStatus) (errorCode errorMessage : Option String)
  | requestRunCancellation (runId : Uuid)

def World.commit (world : World) (database : Database) : World :=
  { world with database := database }

def World.attempt (world : World) (result : Except ObsionError Database) : Option World :=
  result.toOption.map world.commit

def World.endTask (world : World) (token : Uuid) : World :=
  { world with tasks := world.tasks.delete fun task => task.token = token }

def failingOf : Fault → TaskPhase
  | .refused error => .failing error.code error.message
  | .crashed =>
    .failing "automation_worker_failed" "The automation worker could not advance this execution"

def World.failTask (world : World) (task : Task) (fault : Fault) : World :=
  { world with tasks := world.tasks.put { task with phase := failingOf fault } }

def due (now : Time) (schedule : WorkflowSchedule) : Bool :=
  schedule.enabled && decide (schedule.nextFireAt ≤ now)

def moveRun (target : RunStatus) (errorCode errorMessage : Option String) (run : ChildRun) :
    ChildRun :=
  if target ∈ allowedRunTransitions run.status then
    { run with status := target, errorCode := errorCode, errorMessage := errorMessage }
  else run

@[simp] lemma moveRun_id (target : RunStatus) (errorCode errorMessage : Option String)
    (run : ChildRun) : (moveRun target errorCode errorMessage run).id = run.id := by
  unfold moveRun
  split <;> rfl

def perform (config : Config) (world : World) : Action → Option World
  | .elapse duration => some { world with now := world.now + duration }
  | .tick scheduleId owner executionId =>
    (world.database.schedules.get? scheduleId).bind fun schedule =>
      if due world.now schedule then
        match tickSchedule config world.now owner executionId schedule world.database with
        | .ok database => some (world.commit database)
        | .error _ => some world
      else none
  | .trigger caller workflowId inputPayload idempotencyKey trigger newId executionId =>
    if trigger = .schedule then none
    else match triggerWorkflow world.now caller workflowId
        { inputPayload := inputPayload, idempotencyKey := idempotencyKey, trigger := trigger
          newId := newId, executionId := executionId } world.database with
      | .ok triggered => some (world.commit triggered.1)
      | .error _ => some world
  | .claim token worker executionId =>
    if (world.tasks.get? token).isSome then none
    else (world.database.executions.get? executionId).bind fun rows =>
      if claimable world.now rows.execution then
        some { world with
          database := { world.database with
            executions := writeRows world.database.executions
              (claimRows config world.now worker rows) }
          tasks := world.tasks.put ⟨token, executionId, .advancing⟩ }
      else none
  | .advance token env =>
    (world.tasks.get? token).bind fun task =>
      match task.phase with
      | .advancing =>
        some (match advance config world.now env task.executionId world.database with
          | .ok database => (world.commit database).endTask token
          | .error fault => world.failTask task fault)
      | .failing _ _ => none
  | .abort token fault =>
    (world.tasks.get? token).bind fun task =>
      match task.phase with
      | .advancing => some (world.failTask task fault)
      | .failing _ _ => none
  | .fail token =>
    (world.tasks.get? token).bind fun task =>
      match task.phase with
      | .advancing => none
      | .failing code message =>
        some ((world.commit
          (failAfterException world.now code message task.executionId world.database)).endTask
            token)
  | .crash token => (world.tasks.get? token).map fun task => world.endTask task.token
  | .review caller executionId stepKey request =>
    world.attempt (reviewStep world.now caller executionId stepKey request world.database)
  | .cancel caller executionId =>
    world.attempt (cancelExecution world.now caller executionId world.database)
  | .moveRun runId target errorCode errorMessage =>
    some (world.commit { world.database with
      runs := changeRuns (moveRun target errorCode errorMessage)
        (moveRun_id target errorCode errorMessage) [runId] world.database.runs })
  | .requestRunCancellation runId =>
    some (world.commit { world.database with
      runs := changeRuns (requestRun world.now) (requestRun_id world.now) [runId]
        world.database.runs })

/-- Workflows, versions and schedules are registered; nothing was triggered yet. -/
def Registered (world : World) : Prop :=
  world.database.executions = .empty ∧ world.database.runs = .empty ∧ world.tasks = .empty

def automation (config : Config) : System World Action :=
  System.ofPartial Registered (perform config)

end Obsion.Automation
