import Obsion.Harness.Run
import Obsion.Lib.Closure
import Obsion.Lib.Table

/-! # Workflows, schedules and their executions

The rows the automation service and its worker read and write.  A `WorkflowSpec` is one
that its validators accept; `validateDag` is the one of its graph.  The steps of an
execution are kept in the order of their ordinals, and no two of them share a key.  Of a
child Run only what the automation reads is kept. -/

namespace Obsion.Automation

open Obsion.Lib
open Obsion.Harness (RunStatus)

inductive WorkflowStatus
  | draft
  | active
  | paused
  | retired
  deriving DecidableEq, Repr

inductive ConcurrencyPolicy
  | forbid
  | allow
  | replace
  deriving DecidableEq, Repr

inductive WorkflowStepType
  | analysis
  | humanReview
  | notification
  deriving DecidableEq, Repr

inductive AutomationTrigger
  | manual
  | schedule
  | capability
  deriving DecidableEq, Repr

inductive AutomationStatus
  | pending
  | running
  | waitingReview
  | completed
  | failed
  | cancelled
  | skipped
  deriving DecidableEq, Repr

inductive AutomationStepStatus
  | pending
  | running
  | waitingReview
  | completed
  | failed
  | cancelled
  | skipped
  deriving DecidableEq, Repr

inductive MisfirePolicy
  | skip
  | fireOnce
  deriving DecidableEq, Repr

inductive ReviewDecision
  | approve
  | reject
  deriving DecidableEq, Repr

def activeExecutionStatuses : List AutomationStatus := [.pending, .running, .waitingReview]

def terminalExecutionStatuses : List AutomationStatus := [.completed, .failed, .cancelled, .skipped]

def stepTerminal : List AutomationStepStatus := [.completed, .failed, .cancelled, .skipped]

lemma mem_active_iff_not_terminal {status : AutomationStatus} :
    status ∈ activeExecutionStatuses ↔ status ∉ terminalExecutionStatuses := by
  cases status <;> decide

lemma mem_stepTerminal_iff {status : AutomationStepStatus} :
    status ∈ stepTerminal ↔ status ≠ .pending ∧ status ≠ .running ∧ status ≠ .waitingReview := by
  cases status <;> decide

structure WorkflowStepSpec where
  id : String
  name : String
  stepType : WorkflowStepType
  dependsOn : List String
  disallowSelfReview : Bool := false

structure WorkflowSpec where
  steps : List WorkflowStepSpec
  nonempty : steps ≠ []
  unique : (steps.map WorkflowStepSpec.id).Nodup
  known : ∀ step ∈ steps, ∀ key ∈ step.dependsOn, key ∈ steps.map WorkflowStepSpec.id
  acyclic : ∃ depth : String → Nat, ∀ step ∈ steps, ∀ key ∈ step.dependsOn,
    depth key < depth step.id

/-! ## The validator of a workflow -/

inductive WorkflowFault
  | duplicateIds
  | unknownDependencies (id : String) (unknown : List String)
  | cyclic
  deriving DecidableEq, Repr

section
variable (steps : List WorkflowStepSpec)

/-- `sorted(set(step.depends_on).difference(by_id))` -/
def unknownDependencies (step : WorkflowStepSpec) : List String :=
  (step.dependsOn.filter (· ∉ steps.map WorkflowStepSpec.id)).dedup.insertionSort (· ≤ ·)

/-- `by_id[key].depends_on` -/
def dependenciesOf (key : String) : List String :=
  ((steps.find? fun step => step.id = key).map WorkflowStepSpec.dependsOn).getD []

def validateDag : Except WorkflowFault Unit :=
  if ¬ (steps.map WorkflowStepSpec.id).Nodup then .error .duplicateIds
  else
    match steps.find? fun step => unknownDependencies steps step ≠ [] with
    | some step => .error (.unknownDependencies step.id (unknownDependencies steps step))
    | none =>
      if (depthFirst (dependenciesOf steps) (steps.map WorkflowStepSpec.id)).isSome then .ok ()
      else .error .cyclic

variable {steps}

lemma unknownDependencies_nil_iff {step : WorkflowStepSpec} : unknownDependencies steps step = [] ↔
    ∀ key ∈ step.dependsOn, key ∈ steps.map WorkflowStepSpec.id := by
  simp only [List.eq_nil_iff_forall_not_mem, unknownDependencies, List.mem_insertionSort, List.mem_dedup,
    List.mem_filter, not_and, decide_eq_true_eq, not_not]

lemma dependenciesOf_eq (unique : (steps.map WorkflowStepSpec.id).Nodup) {step : WorkflowStepSpec}
    (mem : step ∈ steps) : dependenciesOf steps step.id = step.dependsOn := by
  cases found : steps.find? fun other => other.id = step.id with
  | none => exact (List.find?_eq_none.1 found step mem (decide_eq_true rfl)).elim
  | some other =>
    have same : other.id = step.id := by simpa using List.find?_some found
    rw [dependenciesOf, found, List.inj_on_of_nodup_map unique (List.mem_of_find?_eq_some found) mem same]
    rfl

/-- The depth-first search accepts exactly what `WorkflowSpec` asks of the steps of a workflow. -/
theorem validateDag_ok_iff (steps : List WorkflowStepSpec) :
    steps ≠ [] ∧ validateDag steps = .ok () ↔ ∃ spec : WorkflowSpec, spec.steps = steps := by
  have ranked (unique : (steps.map WorkflowStepSpec.id).Nodup)
      (known : ∀ step ∈ steps, ∀ key ∈ step.dependsOn, key ∈ steps.map WorkflowStepSpec.id) :
      (depthFirst (dependenciesOf steps) (steps.map WorkflowStepSpec.id)).isSome ↔
        ∃ depth : String → Nat, ∀ step ∈ steps, ∀ key ∈ step.dependsOn, depth key < depth step.id := by
    rw [depthFirst_isSome_iff, Ranked]
    · refine exists_congr fun depth => ?_
      rw [List.forall_mem_map]
      refine forall₂_congr fun step mem => ?_
      rw [dependenciesOf_eq unique mem]
      exact forall₂_congr fun key needed => and_iff_right (known step mem key needed)
    · intro id listed
      obtain ⟨step, mem, rfl⟩ := List.mem_map.1 listed
      rw [dependenciesOf_eq unique mem]
      exact known step mem
  constructor
  · rintro ⟨nonempty, run⟩
    unfold validateDag at run
    split at run
    · cases run
    next unique =>
    rw [not_not] at unique
    split at run
    · cases run
    next none_ =>
    have known : ∀ step ∈ steps, ∀ key ∈ step.dependsOn, key ∈ steps.map WorkflowStepSpec.id := fun step mem =>
      unknownDependencies_nil_iff.1 (by simpa using List.find?_eq_none.1 none_ step mem)
    split at run
    · next ended => exact ⟨⟨steps, nonempty, unique, known, (ranked unique known).1 ended⟩, rfl⟩
    · cases run
  · rintro ⟨spec, rfl⟩
    have none_ : (spec.steps.find? fun step => unknownDependencies spec.steps step ≠ []) = none :=
      List.find?_eq_none.2 fun step mem => by simpa using unknownDependencies_nil_iff.2 (spec.known step mem)
    refine ⟨spec.nonempty, ?_⟩
    rw [validateDag, if_neg (not_not.2 spec.unique), none_]
    exact if_pos ((ranked spec.unique spec.known).2 spec.acyclic)

end

/-! ## The rows -/

structure WorkflowDefinition where
  id : Uuid
  workspaceId : Uuid
  status : WorkflowStatus
  ownerId : Uuid
  activeVersion : Option Nat
  concurrencyPolicy : ConcurrencyPolicy
  maxConcurrency : Nat
  timeoutSeconds : Nat
  deriving DecidableEq

structure WorkflowVersion where
  id : Uuid
  workflowId : Uuid
  version : Nat
  spec : WorkflowSpec
  publishedAt : Option Time

structure WorkflowSchedule where
  id : Uuid
  workspaceId : Uuid
  workflowId : Uuid
  workflowVersionId : Uuid
  cronExpression : String
  timezone : String
  misfirePolicy : MisfirePolicy
  misfireGraceSeconds : Nat
  inputPayload : Fields
  enabled : Bool
  nextFireAt : Time
  lastFireAt : Option Time
  lastErrorCode : Option String

/-! ## Executions -/

structure AutomationExecution where
  id : Uuid
  workspaceId : Uuid
  workflowId : Uuid
  workflowVersionId : Uuid
  scheduleId : Option Uuid
  trigger : AutomationTrigger
  scheduledFor : Option Time
  idempotencyKey : String
  status : AutomationStatus
  ownerId : Uuid
  inputPayload : Fields
  deadlineAt : Time
  startedAt : Option Time := none
  completedAt : Option Time := none
  cancellationRequestedAt : Option Time := none
  leaseOwner : Option String := none
  leaseExpiresAt : Option Time := none
  errorCode : Option String := none
  errorMessage : Option String := none

structure AutomationStepExecution where
  stepKey : String
  ordinal : Nat
  name : String
  stepType : WorkflowStepType
  dependsOn : List String
  disallowSelfReview : Bool
  status : AutomationStepStatus
  runId : Option Uuid := none
  reviewDecision : Option ReviewDecision := none
  reviewedBy : Option Uuid := none
  reviewReason : Option String := none
  reviewedAt : Option Time := none
  startedAt : Option Time := none
  completedAt : Option Time := none
  errorCode : Option String := none
  errorMessage : Option String := none

abbrev Steps := Table AutomationStepExecution.stepKey

structure ExecutionRows where
  execution : AutomationExecution
  steps : Steps

def ExecutionRows.id (rows : ExecutionRows) : Uuid := rows.execution.id

def ExecutionRows.Active (rows : ExecutionRows) : Prop :=
  rows.execution.status ∈ activeExecutionStatuses

instance (rows : ExecutionRows) : Decidable rows.Active :=
  inferInstanceAs (Decidable (_ ∈ activeExecutionStatuses))

/-- The columns of a Run row that the automation reads and writes. -/
structure ChildRun where
  id : Uuid
  status : RunStatus
  cancellationRequestedAt : Option Time := none
  errorCode : Option String := none
  errorMessage : Option String := none

abbrev Runs := Table ChildRun.id

abbrev Executions := Table ExecutionRows.id

def writeRows (executions : Executions) (rows : ExecutionRows) : Executions :=
  executions.update (fun former => if former.id = rows.id then rows else former) (by
    intro former
    split
    · next same => exact same.symm
    rfl)

structure Database where
  workflows : Table WorkflowDefinition.id
  versions : Table WorkflowVersion.id
  schedules : Table WorkflowSchedule.id
  executions : Executions
  runs : Runs

/-- What a transaction raises: an error of the domain, or any other exception. -/
inductive Fault
  | refused (error : ObsionError)
  | crashed

structure Caller where
  principal : Principal
  access : Uuid → Except ObsionError Unit

end Obsion.Automation
