import Obsion.Harness.Steps

/-! # The transactions of `HarnessRuntime.execute`

Each function is one transaction on the rows of a Run that is not a replay.  It
holds the lock of the Run row from its first read to its commit, so it is a
function of the rows; `.error` is a transaction that raised and was rolled back.
What a transaction takes from outside these rows (the intent explorer and the
planner, the invocation's outcome, the evidence, the critic and the reviewers of
the answer) is an argument. -/

namespace Obsion.Harness

def cancelActiveRunSteps (steps : List RunStep) : List RunStep :=
  steps.map fun step =>
    if step.status ∈ activeStepStatuses then { step with status := .cancelled } else step

def cancel (rows : RunRows) : RunRows :=
  let run :=
    if isTerminal rows.run.status then rows.run
    else { rows.run with status := .cancelled, leaseOwner := none, leaseExpiresAt := none }
  { run, steps := if run.status = .cancelled then cancelActiveRunSteps rows.steps else rows.steps }

def fail (code : String) (rows : RunRows) : RunRows :=
  if isTerminal rows.run.status then rows
  else
    { rows with
      run :=
        { rows.run with
          status := .failed, errorCode := some code, leaseOwner := none
          leaseExpiresAt := none } }

/-! ## `_prepare` -/

/-- A step depends on earlier steps only; steps are counted from one. -/
def Backward (steps : List PlannedStep) : Prop :=
  ∀ index step, steps[index]? = some step →
    ∀ dependency ∈ step.dependsOn, 1 ≤ dependency ∧ dependency ≤ index

structure ExecutionPlan where
  route : String
  steps : List PlannedStep
  requiredEvidence : List String
  backward : Backward steps

inductive Preparation
  | clarify (clarification : Clarification)
  | plan (plan : ExecutionPlan) (availableCapabilities : List String)

def preparationDrafts : List RunStep :=
  [{ id := 0, ordinal := 1, name := "Observe request context", kind := .observe,
     status := .completed, dependsOn := [] },
   { id := 0, ordinal := 2, name := "Understand request", kind := .understand,
     status := .completed, dependsOn := [1] },
   { id := 0, ordinal := 3, name := "Create governed execution plan", kind := .plan,
     status := .completed, dependsOn := [2] }]

def insertSteps (steps drafts : List RunStep) : List RunStep :=
  orderByOrdinal
    (steps ++ drafts.mapIdx fun offset draft => { draft with id := steps.length + offset })

def ensurePreparationSteps (includePlan : Bool) (rows : RunRows) : RunRows :=
  let existing := rows.steps.map (·.ordinal)
  let maximum := if includePlan then 3 else 2
  let drafts := (preparationDrafts.take maximum).filter fun draft => draft.ordinal ∉ existing
  { run := { rows.run with stepCount := max rows.run.stepCount maximum }
    steps := insertSteps rows.steps drafts }

def capabilitySteps (planned : List PlannedStep) : List RunStep :=
  planned.mapIdx fun index step =>
    { id := 0, ordinal := index + 4, name := step.name, kind := .capability, status := .pending
      dependsOn := if step.dependsOn.isEmpty then [3] else step.dependsOn.map (· + 3)
      inputPayload := some step.toCapabilityInput, maxRetries := 1 }

def coreSteps (planned : Nat) : List RunStep :=
  let verifyOrdinal := planned + 4
  [{ id := 0, ordinal := verifyOrdinal, name := "Verify evidence and claims", kind := .verify,
     status := .pending,
     dependsOn := if planned = 0 then [3] else List.range' 4 planned },
   { id := 0, ordinal := verifyOrdinal + 1, name := "Reflect on verification and publication",
     kind := .reflect, status := .pending, dependsOn := [verifyOrdinal] },
   { id := 0, ordinal := verifyOrdinal + 2, name := "Publish governed response",
     kind := .respond, status := .pending, dependsOn := [verifyOrdinal + 1] }]

def prepare (preparation : Preparation) (rows : RunRows) : Except ObsionError RunRows :=
  if isTerminal rows.run.status || rows.run.plan.isSome then .ok rows
  else if rows.run.cancellationRequestedAt.isSome then .ok (cancel rows)
  else
    match preparation with
    | .clarify clarification =>
      match validateRunTransition rows.run.status .waitingUser with
      | .error error => .error error
      | .ok () =>
        let prepared := ensurePreparationSteps false rows
        .ok
          { prepared with
            run :=
              { prepared.run with
                status := .waitingUser, clarification := some clarification, deadlineAt := none
                leaseOwner := none, leaseExpiresAt := none } }
    | .plan plan availableCapabilities =>
      let prepared := ensurePreparationSteps true rows
      .ok
        { run :=
            { prepared.run with
              plan := some
                { route := plan.route, steps := plan.steps
                  requiredEvidence := plan.requiredEvidence
                  availableCapabilities } }
          steps := insertSteps prepared.steps
            (capabilitySteps plan.steps ++ coreSteps plan.steps.length) }

/-- `return False`, the next pass of the loop, `return True`, and the steps to
invoke before the next pass. -/
inductive Wave
  | stop
  | again
  | done
  | invoke (stepIds : List Nat)
  deriving DecidableEq, Repr

def skipBlocked (blockedOrdinals : List Nat) (steps : List RunStep) : List RunStep :=
  steps.map fun step =>
    if step.ordinal ∈ blockedOrdinals then
      { step with status := .skipped, errorCode := some "dependency_failed" }
    else step

def startSteps (stepIds : List Nat) (steps : List RunStep) : List RunStep :=
  steps.map fun step => if step.id ∈ stepIds then { step with status := .running } else step

def executeSteps (now : Time) (rows : RunRows) : Except ObsionError (RunRows × Wave) :=
  if isTerminal rows.run.status || rows.run.status ∈ [RunStatus.waitingApproval, .waitingUser] then
    .ok (rows, .stop)
  else if rows.run.cancellationRequestedAt.isSome then .ok (cancel rows, .stop)
  else if rows.run.deadlineAt.any (· ≤ now) then .error budgetExceededError
  else if rows.run.maxSteps < rows.steps.length then .error budgetExceededError
  else
    let wave := nextWave rows.steps
    if !wave.blocked.isEmpty then
      .ok ({ rows with steps := skipBlocked (wave.blocked.map (·.ordinal)) rows.steps }, .again)
    else if wave.ready.isEmpty then
      if !wave.deadlocked then .ok (rows, .done)
      else
        .error (validationError "plan_dependency_deadlock"
          "The execution plan contains unresolved or cyclic dependencies")
    else if rows.run.maxSteps < rows.run.stepCount + wave.ready.length then
      .error budgetExceededError
    else
      let stepIds := wave.ready.map (·.id)
      .ok
        ({ run :=
             { rows.run with
               stepCount := rows.run.stepCount + wave.ready.length
               starts := stepIds ++ rows.run.starts }
           steps := startSteps stepIds rows.steps },
         .invoke stepIds)

/-! ## `_replan_transient_failures` -/

def retryableCodes : List String :=
  ["capability_failed", "capability_timeout", "rate_limit_unavailable"]

def retryable (step : RunStep) : Bool :=
  step.kind = .capability && step.status = .failed &&
    step.errorCode.any (· ∈ retryableCodes) && step.retryCount < step.maxRetries &&
    step.capabilityVersionId.isSome

/-- A skip that the failures in `retry` explain. -/
def restorable (completed retry : List Nat) (step : RunStep) : Bool :=
  step.status = .skipped && step.errorCode = some "dependency_failed" &&
    step.ordinal ∉ retry && step.dependsOn.any (· ∈ retry) &&
    step.dependsOn.all fun ordinal => ordinal ∈ completed || ordinal ∈ retry

def restorePass (completed : List Nat) : List RunStep → List Nat → List Nat
  | [], retry => retry
  | step :: rest, retry =>
    restorePass completed rest
      (if restorable completed retry step then retry ++ [step.ordinal] else retry)

/-- The `while changed` loop; `restoreSkipped_fixed` shows that one pass for each
step is enough. -/
def restoreSkipped (completed : List Nat) (steps : List RunStep) : Nat → List Nat → List Nat
  | 0, retry => retry
  | passes + 1, retry =>
    let next := restorePass completed steps retry
    if next.length = retry.length then retry
    else restoreSkipped completed steps passes next

def retryStep (retry : List Nat) (step : RunStep) : RunStep :=
  if step.ordinal ∉ retry then step
  else
    { step with
      retryCount := if step.status = .failed then step.retryCount + 1 else step.retryCount
      status := .pending, errorCode := none, outputRef := none }

def replanTransientFailures (settings : Settings) (rows : RunRows) :
    Except ObsionError (RunRows × Bool) :=
  if isTerminal rows.run.status || rows.run.status = .waitingApproval then .ok (rows, false)
  else if rows.run.cancellationRequestedAt.isSome then .ok (cancel rows, false)
  else
    let failed := rows.steps.filter retryable
    let readOnly := failed.filter fun step =>
      step.capabilityVersionId.any (· ∈ settings.readOnlyVersions)
    if readOnly.isEmpty then .ok (rows, false)
    else
      let completed := (rows.steps.filter fun step => step.status = .completed).map (·.ordinal)
      let retry := restoreSkipped completed rows.steps rows.steps.length (readOnly.map (·.ordinal))
      match validateRunTransition rows.run.status .replanning,
          validateRunTransition .replanning .running with
      | .ok (), .ok () =>
        let plan := rows.run.planOrEmpty
        .ok
          ({ run :=
               { rows.run with
                 status := .running
                 plan := some
                   { plan with
                     replans := plan.replans ++
                       [{ attempt := plan.replans.length + 1
                          reason := "transient_read_only_failure", missingEvidence := []
                          capabilities := [], stepOrdinals := retry.insertionSort (· ≤ ·) }] } }
             steps := rows.steps.map (retryStep retry) },
           true)
      | .error error, _ => .error error
      | _, .error error => .error error

/-- `missing` is what the critic finds missing for `plan["required_evidence"]`. -/
def replanMissingEvidence (settings : Settings) (question : String) (missing : List String)
    (rows : RunRows) : Except ObsionError (RunRows × Bool) :=
  if isTerminal rows.run.status || rows.run.status = .waitingApproval then .ok (rows, false)
  else if rows.run.cancellationRequestedAt.isSome then .ok (cancel rows, false)
  else if rows.run.planOrEmpty.requiredEvidence.isEmpty then .ok (rows, false)
  else if missing.isEmpty then .ok (rows, false)
  else
    match applyGapReplan settings question missing "critic_missing_evidence" rows with
    | .error error => .error error
    | .ok none => .ok (rows, false)
    | .ok (some replanned) => .ok (replanned, true)

structure StepOutcome where
  status : StepStatus
  outputRef : Option String
  errorCode : Option String
  capabilityVersionId : Option Nat
  deriving DecidableEq, Repr

/-- `capability_version_id or step.capability_version_id` -/
def StepOutcome.record (outcome : StepOutcome) (step : RunStep) : RunStep :=
  { step with
    status := outcome.status, outputRef := outcome.outputRef, errorCode := outcome.errorCode
    capabilityVersionId := outcome.capabilityVersionId <|> step.capabilityVersionId }

def finishStep (stepId : Nat) (outcome : StepOutcome) (rows : RunRows) :
    Except ObsionError RunRows :=
  if isTerminal rows.run.status || rows.run.cancellationRequestedAt.isSome then
    if rows.run.status = .cancelled || rows.run.cancellationRequestedAt.isSome then
      .ok (cancel rows)
    else .ok rows
  else if rows.steps.all fun step => step.id ≠ stepId then .error (notFoundError "Run step")
  else .ok { rows with steps := updateStep stepId outcome.record rows.steps }

def waitStep (stepId : Nat) (capabilityVersionId : Option Nat) (rows : RunRows) :
    Except ObsionError RunRows :=
  if rows.steps.all fun step => step.id ≠ stepId then .ok rows
  else
    let transition :=
      if rows.run.status ≠ .waitingApproval then
        validateRunTransition rows.run.status .waitingApproval
      else .ok ()
    match transition with
    | .error error => .error error
    | .ok () =>
      .ok
        { run :=
            { rows.run with
              status := .waitingApproval, leaseOwner := none, leaseExpiresAt := none }
          steps := updateStep stepId
            (fun step => { step with status := .waitingApproval, capabilityVersionId })
            rows.steps }

/-- The verdicts `_respond` gathers on the answer it wrote, and what the
investigation model proposes where it is asked. -/
structure Review where
  sourcesCurrent : Bool
  verified : Bool
  missingEvidence : List String
  investigationReason : Option String
  contract : Option CapabilityInput
  accessCurrent : Bool
  question : String
  answerArtifactId : String

inductive Response
  | returned (replanned : Bool)
  | published (answerArtifactId : String)
  deriving DecidableEq, Repr

def evidenceFreeResponseAllowed (plan : Plan) : Bool :=
  plan.route ∈ ["CONVERSATION", "GENERAL"] && plan.requiredEvidence.isEmpty && plan.steps.isEmpty

def reflectDecision (review : Review) (evidenceFreeResponse : Bool) : Decision :=
  if review.verified || evidenceFreeResponse then .respond
  else if !review.missingEvidence.isEmpty then .replan
  else .withhold

def investigates (settings : Settings) (now : Time) (review : Review) (rows : RunRows) : Bool :=
  let plan := rows.run.planOrEmpty
  plan.route = "KNOWLEDGE" && review.sourcesCurrent && !review.verified &&
    review.investigationReason.isSome &&
    plan.investigationRounds < settings.runMaxKnowledgeInvestigationRounds &&
    rows.steps.length < rows.run.maxSteps && rows.run.stepCount + 5 ≤ rows.run.maxSteps &&
    rows.run.modelProfileId.isSome && rows.run.deadlineAt.all (now < ·)

/-- The investigation branch: the rows it leaves and, where it did not replan, the
decision `_respond` goes on with. -/
def investigate (review : Review) (verifyStep reflectStep : Option RunStep) (decision : Decision)
    (rows : RunRows) : Except ObsionError (RunRows × Option Decision) :=
  let started := onCoreStep reflectStep startCoreStep rows
  let plan := started.run.planOrEmpty
  let recorded :=
    { started with
      run :=
        { started.run with
          plan := some { plan with investigationRounds := plan.investigationRounds + 1 } } }
  match review.contract with
  | none => .ok (recorded, some decision)
  | some contract =>
    if !review.accessCurrent then .ok (recorded, some .withhold)
    else
      match appendCapabilityReplan
          [⟨"Investigate unanswered question via " ++ contract.capability, contract⟩] ["DOCUMENT"]
          "knowledge_investigation" recorded with
      | .error error => .error error
      | .ok none => .ok (recorded, some decision)
      | .ok (some replanned) =>
        .ok (onCoreStep reflectStep reopenCoreStep (onCoreStep verifyStep reopenCoreStep
          (completeReflectStep reflectStep .replan replanned)), none)

/-- REFLECT, RESPOND and the Run are completed with the answer artifact. -/
def publish (reflectStep respondStep : Option RunStep) (decision : Decision)
    (answerArtifactId : String) (rows : RunRows) : Except ObsionError RunRows :=
  let responding := onCoreStep respondStep startCoreStep
    (completeReflectStep reflectStep decision rows)
  match validateRunTransition responding.run.status .completed with
  | .error error => .error error
  | .ok () =>
    .ok (onCoreStep respondStep (completeCoreStep (some answerArtifactId))
      { responding with
        run :=
          { responding.run with
            status := .completed, leaseOwner := none, leaseExpiresAt := none } })

def conclude (settings : Settings) (review : Review)
    (verifyStep reflectStep respondStep : Option RunStep) (decision : Decision) (rows : RunRows) :
    Except ObsionError (RunRows × Response) :=
  let finish (decision : Decision) : Except ObsionError (RunRows × Response) :=
    (publish reflectStep respondStep decision review.answerArtifactId rows).map fun published =>
      (published, .published review.answerArtifactId)
  if decision = .replan then
    match applyGapReplan settings review.question review.missingEvidence
        "critic_verification_failed" rows with
    | .error error => .error error
    | .ok (some replanned) => .ok (onCoreStep verifyStep reopenCoreStep replanned, .returned true)
    | .ok none => finish .withhold
  else finish decision

def respond (settings : Settings) (now : Time) (evidence : List String) (review : Review)
    (rows : RunRows) : Except ObsionError (RunRows × Response) :=
  if isTerminal rows.run.status then .ok (rows, .returned false)
  else if rows.run.cancellationRequestedAt.isSome then .ok (cancel rows, .returned false)
  else
    let verifyStep := lastOfKind .verify rows.steps
    let reflectStep := lastOfKind .reflect rows.steps
    let respondStep := lastOfKind .respond rows.steps
    let evidenceFreeResponse :=
      evidenceFreeResponseAllowed rows.run.planOrEmpty && evidence.isEmpty
    if evidence.isEmpty && !evidenceFreeResponse then
      .error ⟨.other, "capabilities_unavailable", "No authorized evidence could be collected"⟩
    else
      let verified := onCoreStep verifyStep (completeCoreStep (some "critic.completed"))
        (onCoreStep verifyStep startCoreStep rows)
      let decision :=
        if review.sourcesCurrent then reflectDecision review evidenceFreeResponse else .withhold
      if investigates settings now review verified then
        match investigate review verifyStep reflectStep decision verified with
        | .error error => .error error
        | .ok (replanned, none) => .ok (replanned, .returned true)
        | .ok (recorded, some decision) =>
          conclude settings review verifyStep reflectStep respondStep decision recorded
      else conclude settings review verifyStep reflectStep respondStep decision verified

end Obsion.Harness
