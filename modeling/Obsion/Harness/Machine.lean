import Obsion.Harness.Services
import Obsion.Lib.Transition

/-! # One Run among its workers

The state of one Run, the `HarnessRuntime.execute` calls that work on it, and
every order in which their transactions, the gateway's, the claims, the
decisions, the answers and the cancellations can commit.  `Execution` is one
`execute` call: `Phase` is the transaction it runs next, and its jobs are the
`_invoke_step` calls of its current wave that have not ended.  A job is between
its two transactions when it has an answer.  No two transactions on a Run read
the same instant, so `now` grows with every action. -/

namespace Obsion.Harness

open Obsion.Lib

inductive Phase
  | recording
  | preparing
  | steps
  | invoking
  | transient
  | missing
  | responding
  | failing (code : String)
  | ended
  deriving DecidableEq, Repr

/-- The result of `gateway.invoke`, or the code of the `ObsionError` it raised. -/
inductive GatewayAnswer
  | completed (evidenceId : String) (capabilityVersionId : Nat)
  | waitingApproval (approvalId : Nat) (capabilityVersionId : Nat)
  | failed (errorCode : String) (capabilityVersionId : Option Nat)
  deriving DecidableEq, Repr

structure Job where
  stepId : Nat
  answer : Option GatewayAnswer
  deriving DecidableEq, Repr

structure Execution where
  workerId : String
  /-- The expiry of the lease that its claim wrote. -/
  leaseUntil : Time
  phase : Phase
  jobs : List Job
  /-- Whether an invocation of the wave came back with WAITING_APPROVAL. -/
  waiting : Bool
  deriving DecidableEq, Repr

/-- `replans` is a ghost: how often a replan or `_respond` returned true. -/
structure World where
  now : Time
  rows : RunRows
  approvals : List Approval
  evidence : List String
  answers : List String
  executions : List Execution
  replans : Nat

/-- What a capability does once it may run, or why it may not. -/
inductive GatewayOutcome
  | completed (evidenceId : String)
  | refused (errorCode : String)
  | raised (errorCode : String)
  | crashed
  deriving DecidableEq, Repr

/-- `ask` is the input fingerprint of the policy decision where its effect is ASK. -/
structure GatewayTurn where
  ask : Option String
  capabilityVersionId : Nat
  outcome : GatewayOutcome
  deriving DecidableEq, Repr

inductive Action
  | claim (workerId : String)
  | record (execution : Nat)
  | prepare (execution : Nat) (preparation : Preparation) (attachments : List String)
  | executeSteps (execution : Nat)
  | gateway (execution job : Nat) (turn : GatewayTurn)
  | settle (execution job : Nat)
  | replanTransient (execution : Nat)
  | replanMissing (execution : Nat) (question : String) (missing : List String)
  | respond (execution : Nat) (review : Review)
  | raise (execution : Nat) (code : String)
  | fail (execution : Nat)
  | abandon (execution : Nat)
  | crash (execution : Nat)
  | decide (principal : Principal) (access : Bool) (approvalId : Nat) (approve : Bool)
  | answer (access : Bool) (clarificationId : Nat)
  | cancelRun
  | requestCancellation (service : Bool)

def Execution.live (execution : Execution) : Prop :=
  execution.phase ≠ .ended ∨ execution.jobs ≠ []

instance (execution : Execution) : Decidable execution.live := by
  unfold Execution.live
  infer_instance

def World.setExecution (world : World) (index : Nat) (execution : Execution) : World :=
  { world with executions := world.executions.set index execution }

/-- The execution at `index`, where its next transaction is the one of `phase`. -/
def World.executionIn (world : World) (index : Nat) (phase : Phase) : Option Execution :=
  world.executions[index]?.filter fun execution => execution.phase = phase

/-- The execution after `_execute_steps` came to the end of one pass. -/
def Execution.afterPass (execution : Execution) : Wave → Execution
  | .stop => { execution with phase := .ended }
  | .again => { execution with phase := .steps }
  | .done => { execution with phase := .transient }
  | .invoke stepIds =>
    { execution with
      phase := .invoking, jobs := execution.jobs ++ stepIds.map fun stepId => ⟨stepId, none⟩
      waiting := false }

def World.executeSteps (world : World) (index : Nat) (execution : Execution) : World :=
  match Harness.executeSteps world.now world.rows with
  | .error error => world.setExecution index { execution with phase := .failing error.code }
  | .ok (rows, wave) => { world with rows }.setExecution index (execution.afterPass wave)

/-! ## Invocations -/

/-- An exception that leaves `gather`; where the call of `execute` has already left
it, the exception is lost. -/
def Execution.raised (execution : Execution) (code : String) : Execution :=
  if execution.phase = .invoking then { execution with phase := .failing code } else execution

/-- The job that has ended is gone; the last one ends the wave. -/
def Execution.jobEnded (execution : Execution) (job : Nat) (waiting : Bool) : Execution :=
  let jobs := execution.jobs.eraseIdx job
  { execution with
    jobs
    waiting := execution.waiting || waiting
    phase :=
      if execution.phase = .invoking ∧ jobs = [] then
        if execution.waiting || waiting then .ended else .steps
      else execution.phase }

def Execution.answered (execution : Execution) (index : Nat) (job : Job) (answer : GatewayAnswer) :
    Execution :=
  { execution with jobs := execution.jobs.set index { job with answer := some answer } }

def World.runCapability (world : World) (index : Nat) (execution : Execution) (jobIndex : Nat)
    (job : Job) (turn : GatewayTurn) : World :=
  match turn.outcome with
  | .completed evidenceId =>
    { world with evidence := world.evidence ++ [evidenceId] }.setExecution index
      (execution.answered jobIndex job (.completed evidenceId turn.capabilityVersionId))
  | .refused errorCode =>
    world.setExecution index
      (execution.answered jobIndex job (.failed errorCode (some turn.capabilityVersionId)))
  | .raised _ => world
  | .crashed => world

def World.gateway (world : World) (index : Nat) (execution : Execution) (jobIndex : Nat) (job : Job)
    (turn : GatewayTurn) : World :=
  match turn.outcome with
  | .raised errorCode =>
    world.setExecution index (execution.answered jobIndex job (.failed errorCode none))
  | .crashed =>
    world.setExecution index
      { execution.raised "internal_error" with jobs := execution.jobs.eraseIdx jobIndex }
  | _ =>
    match turn.ask with
    | none => world.runCapability index execution jobIndex job turn
    | some fingerprint =>
      match findApproval job.stepId fingerprint world.approvals with
      | some approval =>
        { world with
          approvals :=
            useApproval approval.id world.now world.approvals }.runCapability index execution
          jobIndex job turn
      | none =>
        let approval := createApproval job.stepId fingerprint world.rows.run.createdBy
          world.now world.approvals
        { world with approvals := world.approvals ++ [approval] }.setExecution index
          (execution.answered jobIndex job
            (.waitingApproval approval.id turn.capabilityVersionId))

def GatewayAnswer.waits : GatewayAnswer → Bool
  | .waitingApproval _ _ => true
  | _ => false

def settleStep (stepId : Nat) (answer : GatewayAnswer) (rows : RunRows) :
    Except ObsionError RunRows :=
  match answer with
  | .completed evidenceId capabilityVersionId =>
    finishStep stepId ⟨.completed, some evidenceId, none, some capabilityVersionId⟩ rows
  | .failed errorCode capabilityVersionId =>
    finishStep stepId ⟨.failed, none, some errorCode, capabilityVersionId⟩ rows
  | .waitingApproval _ capabilityVersionId => waitStep stepId (some capabilityVersionId) rows

def World.settle (world : World) (index : Nat) (execution : Execution) (jobIndex : Nat) (job : Job)
    (answer : GatewayAnswer) : World :=
  match settleStep job.stepId answer world.rows with
  | .error error =>
    world.setExecution index
      { execution.raised error.code with jobs := execution.jobs.eraseIdx jobIndex }
  | .ok rows =>
    { world with rows }.setExecution index (execution.jobEnded jobIndex answer.waits)

def World.replan (world : World) (index : Nat) (execution : Execution) (next : Phase)
    (result : Except ObsionError (RunRows × Bool)) : World :=
  match result with
  | .error error => world.setExecution index { execution with phase := .failing error.code }
  | .ok (rows, true) =>
    { world with rows, replans := world.replans + 1 }.setExecution index
      { execution with phase := .steps }
  | .ok (rows, false) => { world with rows }.setExecution index { execution with phase := next }

def World.respond (settings : Settings) (world : World) (index : Nat) (execution : Execution)
    (review : Review) : World :=
  match Harness.respond settings world.now world.evidence review world.rows with
  | .error error => world.setExecution index { execution with phase := .failing error.code }
  | .ok (rows, .returned true) =>
    { world with rows, replans := world.replans + 1 }.setExecution index
      { execution with phase := .steps }
  | .ok (rows, .returned false) =>
    { world with rows }.setExecution index { execution with phase := .ended }
  | .ok (rows, .published answerArtifactId) =>
    { world with rows, answers := world.answers ++ [answerArtifactId] }.setExecution index
      { execution with phase := .ended }

def raisingPhases : List Phase :=
  [.recording, .preparing, .steps, .transient, .missing, .responding]

/-- The evidence of the attachments, which a first preparation ingests. -/
def ingested (attachments : List String) (rows : RunRows) : List String :=
  if isTerminal rows.run.status || rows.run.plan.isSome ||
      rows.run.cancellationRequestedAt.isSome then []
  else attachments

def act (settings : Settings) (world : World) : Action → Option World
  | .claim workerId =>
    (Harness.claim workerId world.now world.rows).map fun claimed =>
      { world with
        rows := claimed.1
        executions :=
          if claimed.2 then
            world.executions ++
              [{ workerId
                 leaseUntil := world.now + seconds (world.rows.run.timeoutSeconds + 30)
                 phase := .recording, jobs := [], waiting := false }]
          else world.executions }
  | .record index =>
    (world.executionIn index .recording).map fun execution =>
      world.setExecution index { execution with phase := .preparing }
  | .prepare index preparation attachments =>
    (world.executionIn index .preparing).map fun execution =>
      match Harness.prepare preparation world.rows with
      | .error error => world.setExecution index { execution with phase := .failing error.code }
      | .ok rows =>
        { world with
          rows
          evidence := world.evidence ++ ingested attachments world.rows }.setExecution index
          { execution with phase := .steps }
  | .executeSteps index =>
    (world.executionIn index .steps).map fun execution => world.executeSteps index execution
  | .gateway index jobIndex turn =>
    match world.executions[index]? with
    | none => none
    | some execution =>
      match execution.jobs[jobIndex]? with
      | some ⟨stepId, none⟩ =>
        some (world.gateway index execution jobIndex ⟨stepId, none⟩ turn)
      | _ => none
  | .settle index jobIndex =>
    match world.executions[index]? with
    | none => none
    | some execution =>
      match execution.jobs[jobIndex]? with
      | some ⟨stepId, some answer⟩ =>
        some (world.settle index execution jobIndex ⟨stepId, some answer⟩ answer)
      | _ => none
  | .replanTransient index =>
    (world.executionIn index .transient).map fun execution =>
      world.replan index execution .missing (replanTransientFailures settings world.rows)
  | .replanMissing index question missing =>
    (world.executionIn index .missing).map fun execution =>
      world.replan index execution .responding
        (replanMissingEvidence settings question missing world.rows)
  | .respond index review =>
    (world.executionIn index .responding).map fun execution =>
      world.respond settings index execution review
  | .raise index code =>
    match world.executions[index]? with
    | none => none
    | some execution =>
      if execution.phase ∈ raisingPhases then
        some (world.setExecution index { execution with phase := .failing code })
      else none
  | .fail index =>
    match world.executions[index]? with
    | none => none
    | some execution =>
      match execution.phase with
      | .failing code =>
        some ({ world with rows := Harness.fail code world.rows }.setExecution index
          { execution with phase := .ended })
      | _ => none
  | .abandon index =>
    match world.executions[index]? with
    | none => none
    | some execution =>
      match execution.phase with
      | .failing _ => some (world.setExecution index { execution with phase := .ended })
      | _ => none
  | .crash index =>
    match world.executions[index]? with
    | none => none
    | some execution =>
      some (world.setExecution index { execution with phase := .ended, jobs := [] })
  | .decide principal access approvalId approve =>
    match Harness.decide principal access approvalId approve world.now world.approvals
        world.rows with
    | .error _ => none
    | .ok (approvals, rows) => some { world with approvals, rows }
  | .answer access clarificationId =>
    match Harness.answer access clarificationId world.now world.rows with
    | .error _ => none
    | .ok rows => some { world with rows }
  | .cancelRun => some { world with rows := Harness.cancelRun world.now world.rows }
  | .requestCancellation service =>
    some { world with rows := Harness.requestCancellation service world.now world.rows }

/-- An action, and the microseconds that passed before it besides the one that
every action takes. -/
structure Timed where
  elapsed : Nat
  action : Action

def World.tick (world : World) (elapsed : Nat) : World :=
  { world with now := world.now + 1 + elapsed }

def perform (settings : Settings) (world : World) (timed : Timed) : Option World :=
  act settings (world.tick timed.elapsed) timed.action

def created (maxSteps timeoutSeconds : Nat) (createdBy : Uuid) (modelProfileId : Option Nat)
    (now : Time) : World :=
  { now
    rows :=
      { run :=
          { status := .pending, plan := none, clarification := none, stepCount := 0
            maxSteps
            timeoutSeconds
            createdBy
            modelProfileId
            deadlineAt := some (now + seconds timeoutSeconds), cancellationRequestedAt := none
            leaseOwner := none, leaseExpiresAt := none, errorCode := none, starts := [] }
        steps := [] }
    approvals := [], evidence := [], answers := [], executions := [], replans := 0 }

def Created (world : World) : Prop :=
  ∃ maxSteps timeoutSeconds createdBy modelProfileId now,
    world = created maxSteps timeoutSeconds createdBy modelProfileId now

def harness (settings : Settings) : System World Timed :=
  System.ofPartial Created (perform settings)

end Obsion.Harness
