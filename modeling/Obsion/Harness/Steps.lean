import Obsion.Harness.Run

/-! # Waves, core steps and replans

`StepExecutor.next_wave`, the helpers that start, complete and reopen a VERIFY,
REFLECT or RESPOND step, and `_append_capability_replan`, which puts new
capability steps in front of them. -/

namespace Obsion.Harness

/-! ## `StepExecutor.next_wave` -/

structure StepExecutionWave where
  ready : List RunStep
  blocked : List RunStep
  deadlocked : Bool

def statusByOrdinal (steps : List RunStep) (ordinal : Nat) : Option StepStatus :=
  (steps.reverse.find? fun step => step.ordinal == ordinal).map (·.status)

def isBlocking (status : Option StepStatus) : Bool :=
  match status with
  | none => false
  | some status => status ∈ blockingStepStatuses

def nextWave (steps : List RunStep) : StepExecutionWave :=
  let active := steps.filter fun step => step.status ∈ activeStepStatuses
  let blocked := active.filter fun step =>
    step.dependsOn.any fun ordinal => isBlocking (statusByOrdinal steps ordinal)
  let blockedOrdinals := blocked.map (·.ordinal)
  let ready := active.filter fun step =>
    step.ordinal ∉ blockedOrdinals && step.kind = .capability &&
      step.dependsOn.all fun ordinal => statusByOrdinal steps ordinal = some .completed
  let waitingExecutable := active.filter fun step =>
    step.ordinal ∉ blockedOrdinals && step.kind = .capability
  { ready, blocked, deadlocked := ready.isEmpty && blocked.isEmpty && !waitingExecutable.isEmpty }

variable {steps : List RunStep} {step : RunStep}

lemma mem_blocked (mem : step ∈ (nextWave steps).blocked) :
    step ∈ steps ∧ step.status ∈ activeStepStatuses ∧
      ∃ ordinal ∈ step.dependsOn, isBlocking (statusByOrdinal steps ordinal) = true := by
  simp only [nextWave, List.mem_filter, decide_eq_true_eq, List.any_eq_true] at mem
  exact ⟨mem.1.1, mem.1.2, mem.2⟩

lemma blocked_of_dependency {ordinal : Nat} (mem : step ∈ steps)
    (active : step.status ∈ activeStepStatuses) (depends : ordinal ∈ step.dependsOn)
    (blocking : isBlocking (statusByOrdinal steps ordinal) = true) :
    step ∈ (nextWave steps).blocked := by
  simp only [nextWave, List.mem_filter, decide_eq_true_eq, List.any_eq_true]
  exact ⟨⟨mem, active⟩, ordinal, depends, blocking⟩

lemma mem_ready (mem : step ∈ (nextWave steps).ready) :
    step ∈ steps ∧ step.status ∈ activeStepStatuses ∧ step.kind = .capability := by
  simp only [nextWave, List.mem_filter, decide_eq_true_eq, Bool.and_eq_true] at mem
  exact ⟨mem.1.1, mem.1.2, mem.2.1.2⟩

/-! ## Core steps

The helpers work on one step object and on `run.step_count`. -/

def startCoreStep (run : Run) (step : RunStep) : Run × RunStep :=
  if step.status = .completed then (run, step)
  else if step.status ∉ [StepStatus.pending, .waitingApproval, .running] then (run, step)
  else
    (if step.status ≠ .running then
        { run with stepCount := run.stepCount + 1, starts := step.id :: run.starts }
      else run,
      { step with status := .running })

def completeCoreStep (outputRef : Option String) (run : Run) (step : RunStep) : Run × RunStep :=
  if step.status = .completed then (run, step)
  else if step.status ≠ .running then (run, step)
  else (run, { step with status := .completed, outputRef })

def reopenCoreStep (run : Run) (step : RunStep) : Run × RunStep :=
  if step.status = .pending then (run, step)
  else
    (if step.status = .running then
        { run with
          stepCount := if 0 < run.stepCount then run.stepCount - 1 else run.stepCount
          starts := run.starts.erase step.id }
      else run,
      { step with status := .pending, outputRef := none, errorCode := none })

/-- A helper applied to the step object that `_respond` found, or to `None`. -/
def onCoreStep (found : Option RunStep) (change : Run → RunStep → Run × RunStep)
    (rows : RunRows) : RunRows :=
  match found with
  | none => rows
  | some object =>
    { run :=
        match rows.steps.find? fun step => step.id == object.id with
        | none => rows.run
        | some step => (change rows.run step).1
      steps := updateStep object.id (fun step => (change rows.run step).2) rows.steps }

inductive Decision
  | respond
  | replan
  | withhold
  deriving DecidableEq, Repr

/-- `f"reflect.{chosen.lower()}"` -/
def Decision.outputRef : Decision → String
  | .respond => "reflect.respond"
  | .replan => "reflect.replan"
  | .withhold => "reflect.withhold"

/-- `_complete_reflect_step`; the assessment it adds to `input_payload` is left out. -/
def completeReflectStep (found : Option RunStep) (decision : Decision) (rows : RunRows) :
    RunRows :=
  onCoreStep found (completeCoreStep (some decision.outputRef)) (onCoreStep found startCoreStep rows)

/-! ## Replans -/

def evidenceGapCapabilities : String → List String
  | "DOCUMENT" => ["knowledge.search", "ticket.search"]
  | "DATA" => ["data.query"]
  | "SQL" => ["data.query"]
  | "METRIC" => ["metric.query", "metric.compare", "metric.anomaly", "metric.dimension"]
  | "LOG" => ["log.search", "log.aggregate"]
  | "TRACE" => ["trace.search", "trace.timeline"]
  | "DEPLOYMENT" => ["deployment.list", "deployment.commit"]
  | "CONFIG" => ["config.diff", "config.get"]
  | "CODE" => ["code.symbol", "code.search"]
  | "GIT" => ["git.diff", "git.history", "git.commit"]
  | _ => []

/-- The pairs of a missing type and the capability selected for it. -/
def selectGapCapabilities (missingTypes available attempted : List String) :
    List (String × String) :=
  missingTypes.foldl
    (fun selected missing =>
      let candidate := (evidenceGapCapabilities missing).find? fun capability =>
        capability ∈ available && capability ∉ attempted &&
          capability ∉ selected.map (·.2)
      match candidate with
      | none => selected
      | some capability => selected ++ [(missing, capability)])
    []

def gapStepName (capability missingType : String) : String :=
  "Collect missing " ++ missingType ++ " evidence via " ++ capability

def codeGraph : List String := ["code.symbol", "code.reference", "code.callers", "code.callees"]

/-- `str(value or default)` for a field that may be missing. -/
def textOr (settings : Settings) (value : Option Json) (default : String) : String :=
  match value with
  | none => default
  | some value =>
    if value.truthy then
      match value with
      | .str text => text
      | other => settings.text other
    else default

def gapStepContract (settings : Settings) (capability missingType question : String)
    (template : Option CapabilityInput) : CapabilityInput :=
  let resource := (template.map (·.resource)).getD []
  let environment :=
    match template with
    | none => "production"
    | some template => if template.environment = "" then "production" else template.environment
  let operation := Fields.set ((template.map (·.payload)).getD []) "operation" (.str capability)
  let payload :=
    match Fields.get? operation "query" with
    | some (.str query) =>
      if strip query = "" then Fields.set operation "query" (.str question) else operation
    | _ => Fields.set operation "query" (.str question)
  if capability ∈ codeGraph then
    { capability
      payload
      environment := "development"
      resource := [("index", .str "organization"), ("scope", .str "authorized-code-graph")] }
  else if capability = "code.search" then
    { capability
      payload :=
        match Fields.get? payload "repository" with
        | some (.str _) => payload
        | _ =>
          Fields.set payload "repository"
            (.str (textOr settings (Fields.get? resource "repository") "*"))
      environment := "production", resource := [("scope", .str "authorized-repositories")] }
  else if startsWith capability "git." then
    let repository := textOr settings
      ((Fields.get? payload "repository").filter (·.truthy) <|> Fields.get? resource "repository")
      "*"
    { capability
      payload := Fields.set payload "repository" (.str repository)
      environment
      resource :=
        [("environment", .str environment), ("evidence_type", .str "GIT"),
          ("repository", .str repository)] }
  else if capability = "ticket.search" then
    let searched := Fields.set payload "operation" (.str "ticket.search")
    { capability
      payload :=
        if Fields.has searched "limit" then searched else Fields.set searched "limit" (.int 8)
      environment := "development"
      resource := [("index", .str "organization"), ("source", .str "ticket")] }
  else
    { capability
      payload
      environment
      resource :=
        Fields.set (Fields.set resource "environment" (.str environment)) "evidence_type"
          (.str missingType) }

structure NamedContract where
  name : String
  contract : CapabilityInput

def lastCompletedCapability (steps : List RunStep) : Nat :=
  let completed := steps.filter fun step => step.kind = .capability && step.status = .completed
  match (completed.map (·.ordinal)).max? with
  | none => 3
  | some ordinal => ordinal

def replanSteps (steps : List RunStep) (firstOrdinal : Nat) (contracts : List NamedContract) :
    List RunStep :=
  contracts.mapIdx fun offset contract =>
    { id := steps.length + offset, ordinal := firstOrdinal + offset, name := contract.name
      kind := .capability, status := .pending, dependsOn := [lastCompletedCapability steps]
      inputPayload := some contract.contract, maxRetries := 1 }

def replanPlan (plan : Plan) (contracts : List NamedContract) (missing : List String) (reason : String)
    (stepOrdinals : List Nat) : Plan :=
  { plan with
    steps := plan.steps ++ contracts.mapIdx fun offset contract =>
      { contract.contract with
        name := contract.name
        dependsOn := if plan.steps.length + offset = 0 then [] else [plan.steps.length + offset] }
    replans := plan.replans ++
      [{ attempt := plan.replans.length + 1
         reason
         missingEvidence := missing, capabilities := contracts.map (·.contract.capability)
         stepOrdinals }] }

/-- VERIFY, REFLECT and RESPOND behind `added` new steps. -/
def shiftCoreSteps (verifyStep respondStep : RunStep) (reflectStep : Option RunStep) (added : Nat)
    (newOrdinals : List Nat) (steps : List RunStep) : List RunStep :=
  let verified := updateStep verifyStep.id
    (fun step =>
      { step with
        ordinal := verifyStep.ordinal + added
        dependsOn := (step.dependsOn ++ newOrdinals).eraseDups }) steps
  match reflectStep with
  | some reflectStep =>
    updateStep respondStep.id
      (fun step =>
        { step with
          ordinal := respondStep.ordinal + added, dependsOn := [reflectStep.ordinal + added] })
      (updateStep reflectStep.id
        (fun step =>
          { step with
            ordinal := reflectStep.ordinal + added
            dependsOn := [verifyStep.ordinal + added] }) verified)
  | none =>
    updateStep respondStep.id
      (fun step =>
        { step with
          ordinal := respondStep.ordinal + added
          dependsOn := [verifyStep.ordinal + added] }) verified

/-- `none` is the returned `False`. -/
def appendCapabilityReplan (contracts : List NamedContract) (missing : List String) (reason : String)
    (rows : RunRows) : Except ObsionError (Option RunRows) :=
  match lastOfKind .verify rows.steps, lastOfKind .respond rows.steps with
  | some verifyStep, some respondStep =>
    if contracts.length = 0 ∨ rows.run.maxSteps < rows.steps.length + contracts.length then
      .ok none
    else
      let added := replanSteps rows.steps verifyStep.ordinal contracts
      let newOrdinals := added.map (·.ordinal)
      let shifted := shiftCoreSteps verifyStep respondStep (lastOfKind .reflect rows.steps)
        contracts.length newOrdinals rows.steps
      let plan := replanPlan rows.run.planOrEmpty contracts missing reason newOrdinals
      match validateRunTransition rows.run.status .replanning,
          validateRunTransition .replanning .running with
      | .ok (), .ok () =>
        .ok (some
          { run := { rows.run with plan := some plan, status := .running }
            steps := orderByOrdinal (shifted ++ added) })
      | .error error, _ => .error error
      | _, .error error => .error error
  | _, _ => .ok none

/-- The replans that count against `run_max_critic_replans`. -/
def Plan.criticReplans (plan : Plan) : Nat :=
  (plan.replans.filter fun entry =>
    entry.reason ∈ ["critic_missing_evidence", "critic_verification_failed"]).length

def gapContracts (settings : Settings) (question : String) (missing : List String)
    (rows : RunRows) : List NamedContract :=
  let inputs := (rows.steps.filter fun step => step.kind = .capability).filterMap (·.inputPayload)
  let attempted := (inputs.map (·.capability)).filter (· ≠ "")
  let selected :=
    selectGapCapabilities missing rows.run.planOrEmpty.availableCapabilities attempted
  selected.map fun entry =>
    ⟨gapStepName entry.2 entry.1,
      gapStepContract settings entry.2 entry.1 question inputs.getLast?⟩

/-- `_apply_gap_replan`; `question` is the task prompt. -/
def applyGapReplan (settings : Settings) (question : String) (missing : List String)
    (reason : String) (rows : RunRows) : Except ObsionError (Option RunRows) :=
  if missing.isEmpty then .ok none
  else if settings.runMaxCriticReplans ≤ rows.run.planOrEmpty.criticReplans then .ok none
  else
    let contracts := gapContracts settings question missing rows
    if contracts.isEmpty then .ok none
    else appendCapabilityReplan contracts missing reason rows

end Obsion.Harness
