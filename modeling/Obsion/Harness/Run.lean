import Obsion.Base.Json

/-! # Runs and their steps

The rows the harness reads and writes under the lock of one Run row: the Run and
its RunSteps.  `RunRows.steps` is kept in the order the queries read it, by
ordinal; a step's `id` is the number of rows that existed when it was added. -/

namespace Obsion.Harness

inductive RunStatus
  | pending
  | running
  | waitingApproval
  | waitingUser
  | replanning
  | completed
  | failed
  | cancelled
  deriving DecidableEq, Repr

inductive StepStatus
  | pending
  | running
  | waitingApproval
  | completed
  | failed
  | skipped
  | cancelled
  deriving DecidableEq, Repr

inductive StepKind
  | observe
  | understand
  | plan
  | model
  | capability
  | verify
  | reflect
  | respond
  deriving DecidableEq, Repr

def RunStatus.str : RunStatus → String
  | .pending => "PENDING"
  | .running => "RUNNING"
  | .waitingApproval => "WAITING_APPROVAL"
  | .waitingUser => "WAITING_USER"
  | .replanning => "REPLANNING"
  | .completed => "COMPLETED"
  | .failed => "FAILED"
  | .cancelled => "CANCELLED"

def allowedRunTransitions : RunStatus → List RunStatus
  | .pending => [.running, .cancelled, .failed]
  | .running => [.waitingApproval, .waitingUser, .replanning, .completed, .failed, .cancelled]
  | .waitingApproval => [.running, .failed, .cancelled]
  | .waitingUser => [.running, .failed, .cancelled]
  | .replanning => [.running, .failed, .cancelled]
  | .completed => []
  | .failed => []
  | .cancelled => []

def validateRunTransition (current target : RunStatus) : Except ObsionError Unit :=
  if target ∈ allowedRunTransitions current then .ok ()
  else .error (conflictError "invalid_run_transition"
    ("Run cannot transition from " ++ current.str ++ " to " ++ target.str))

def isTerminal (status : RunStatus) : Bool :=
  status ∈ [RunStatus.completed, RunStatus.failed, RunStatus.cancelled]

def activeStepStatuses : List StepStatus := [.pending, .running, .waitingApproval]

def blockingStepStatuses : List StepStatus := [.failed, .skipped, .cancelled]

structure CapabilityInput where
  capability : String
  payload : Fields
  resource : Fields
  environment : String

structure RunStep where
  id : Nat
  ordinal : Nat
  name : String
  kind : StepKind
  status : StepStatus
  dependsOn : List Nat
  /-- The `input_payload` of a capability step. -/
  inputPayload : Option CapabilityInput := none
  capabilityVersionId : Option Nat := none
  outputRef : Option String := none
  errorCode : Option String := none
  retryCount : Nat := 0
  maxRetries : Nat := 0

/-- A step of the planner, and an entry of `plan["steps"]`. -/
structure PlannedStep extends CapabilityInput where
  name : String
  dependsOn : List Nat

structure Replan where
  attempt : Nat
  reason : String
  missingEvidence : List String
  capabilities : List String
  stepOrdinals : List Nat
  deriving DecidableEq, Repr

structure Plan where
  route : String
  steps : List PlannedStep
  requiredEvidence : List String
  availableCapabilities : List String
  replans : List Replan := []
  /-- The number of entries of `plan["knowledge_investigation"]`. -/
  investigationRounds : Nat := 0

/-- What `plan.get(…)` reads where `run.plan` is the empty object. -/
def Plan.empty : Plan := ⟨"", [], [], [], [], 0⟩

/-- The active clarification request of `run.intent`. -/
structure Clarification where
  id : Nat
  expiresAt : Time
  remainingExecutionSeconds : Option Int
  deriving DecidableEq, Repr

/-- `starts` is a ghost: the ids of the steps that were started, once for each start
that was not undone. -/
structure Run where
  status : RunStatus
  plan : Option Plan
  clarification : Option Clarification
  stepCount : Nat
  maxSteps : Nat
  timeoutSeconds : Nat
  /-- `turn.created_by` -/
  createdBy : Uuid
  modelProfileId : Option Nat
  deadlineAt : Option Time
  cancellationRequestedAt : Option Time
  leaseOwner : Option String
  leaseExpiresAt : Option Time
  errorCode : Option String
  starts : List Nat

def Run.planOrEmpty (run : Run) : Plan := run.plan.getD Plan.empty

structure RunRows where
  run : Run
  steps : List RunStep

structure Settings where
  runMaxCriticReplans : Nat
  runMaxKnowledgeInvestigationRounds : Nat
  /-- The capability versions without a side effect. -/
  readOnlyVersions : List Nat
  /-- `str(value)` of a JSON value that is not a string. -/
  text : Json → String

def budgetExceededError : ObsionError :=
  ⟨.budget, "budget_exceeded", "The governed run budget does not permit this operation"⟩

variable {target : RunStatus} {steps : List RunStep} {step : RunStep}

variable {current status : RunStatus} {kind : StepKind}

lemma validateRunTransition_ok {value : Unit}
    (run : validateRunTransition current target = .ok value) :
    target ∈ allowedRunTransitions current := by
  unfold validateRunTransition at run
  split at run
  · assumption
  cases run

lemma validateRunTransition_of_mem (allowed : target ∈ allowedRunTransitions current) :
    validateRunTransition current target = .ok () := if_pos allowed

lemma allowed_of_not_terminal (open_ : isTerminal status = false) :
    .failed ∈ allowedRunTransitions status ∧ .cancelled ∈ allowedRunTransitions status := by
  cases status <;> simp_all [isTerminal, allowedRunTransitions]

lemma running_of_allowed (allowed : target ∈ allowedRunTransitions status)
    (inner : target ∈ [RunStatus.completed, .waitingApproval, .waitingUser, .replanning]) :
    status = .running := by
  cases status <;> cases target <;> simp_all [allowedRunTransitions]

/-- `next((step for step in reversed(steps) if step.kind == kind), None)` -/
def lastOfKind (kind : StepKind) (steps : List RunStep) : Option RunStep :=
  steps.reverse.find? fun step => step.kind == kind

def updateStep (id : Nat) (change : RunStep → RunStep) (steps : List RunStep) : List RunStep :=
  steps.map fun step => if step.id = id then change step else step

def orderByOrdinal (steps : List RunStep) : List RunStep :=
  steps.insertionSort fun left right => left.ordinal ≤ right.ordinal

lemma lastOfKind_some (found : lastOfKind kind steps = some step) :
    step ∈ steps ∧ step.kind = kind := by
  have mem : step ∈ steps.reverse := List.mem_of_find?_eq_some found
  have matched := List.find?_some found
  simp only [beq_iff_eq] at matched
  exact ⟨List.mem_reverse.1 mem, matched⟩

lemma lastOfKind_none :
    lastOfKind kind steps = none ↔ ∀ step ∈ steps, step.kind ≠ kind := by
  simp [lastOfKind, List.find?_eq_none]

lemma mem_updateStep {id : Nat} {change : RunStep → RunStep} : step ∈ updateStep id change steps ↔
      ∃ old ∈ steps, step = if old.id = id then change old else old := by
  simp only [updateStep, List.mem_map]
  constructor
  · rintro ⟨old, mem, rfl⟩
    exact ⟨old, mem, rfl⟩
  rintro ⟨old, mem, rfl⟩
  exact ⟨old, mem, rfl⟩

@[simp] lemma mem_orderByOrdinal : step ∈ orderByOrdinal steps ↔ step ∈ steps :=
  (List.perm_insertionSort _ steps).mem_iff

lemma orderByOrdinal_perm (steps : List RunStep) : (orderByOrdinal steps).Perm steps :=
  List.perm_insertionSort _ steps

end Obsion.Harness
