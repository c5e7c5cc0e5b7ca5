import Obsion.Harness.Machine

/-! # What the transactions leave unchanged

`Kept` relates the rows before and after a transaction that adds no step: the
steps keep their shape, which is everything but status, outcome and retries, and
the Run keeps its plan.  `RowsStep` lists what one action does to the rows, and
`Responded` the ways `_respond` ends. -/

namespace Obsion.Harness

open Obsion.Lib

/-- The fields of a step that no outcome changes. -/
structure StepShape where
  id : Nat
  ordinal : Nat
  kind : StepKind
  dependsOn : List Nat
  inputPayload : Option CapabilityInput
  maxRetries : Nat

def RunStep.shape (step : RunStep) : StepShape :=
  ⟨step.id, step.ordinal, step.kind, step.dependsOn, step.inputPayload, step.maxRetries⟩

def shapes (steps : List RunStep) : List StepShape := steps.map RunStep.shape

lemma shapes_map {change : RunStep → RunStep} (steps : List RunStep)
    (keeps : ∀ step ∈ steps, (change step).shape = step.shape) :
    shapes (steps.map change) = shapes steps := by
  simp only [shapes, List.map_map]
  apply List.map_congr_left
  intro step mem
  exact keeps step mem

lemma shapes_updateStep {change : RunStep → RunStep} (id : Nat) (steps : List RunStep)
    (keeps : ∀ step, (change step).shape = step.shape) :
    shapes (updateStep id change steps) = shapes steps := by
  apply shapes_map
  intro step _
  split
  · exact keeps step
  rfl

@[simp] lemma length_shapes (steps : List RunStep) : (shapes steps).length = steps.length :=
  List.length_map _

lemma mem_shapes {steps : List RunStep} {step : RunStep} (mem : step ∈ steps) :
    step.shape ∈ shapes steps := List.mem_map_of_mem mem

/-- No step was added, and the plan is the same. -/
structure Kept (before after : RunRows) : Prop where
  steps : shapes after.steps = shapes before.steps
  plan : after.run.plan = before.run.plan
  maxSteps : after.run.maxSteps = before.run.maxSteps

lemma Kept.refl (rows : RunRows) : Kept rows rows := ⟨rfl, rfl, rfl⟩

lemma Kept.trans {first second third : RunRows} (left : Kept first second)
    (right : Kept second third) : Kept first third :=
  ⟨right.steps.trans left.steps, right.plan.trans left.plan, right.maxSteps.trans left.maxSteps⟩

variable {before after : RunRows} {access : Bool} {wave : Wave} {reason : String}
  {evidence : List String} {response : Response}

lemma Kept.length (kept : Kept before after) : after.steps.length = before.steps.length := by
  have eq := congrArg List.length kept.steps
  rwa [length_shapes, length_shapes] at eq

lemma Kept.planOrEmpty (kept : Kept before after) : after.run.planOrEmpty = before.run.planOrEmpty := by
  rw [Run.planOrEmpty, Run.planOrEmpty, kept.plan]

/-- A helper that changes a step's status and outcome and counts starts. -/
structure CoreChange (change : Run → RunStep → Run × RunStep) : Prop where
  shape : ∀ run step, (change run step).2.shape = step.shape
  retryCount : ∀ run step, (change run step).2.retryCount = step.retryCount
  run : ∀ run step, ∃ count starts, (change run step).1 = { run with stepCount := count, starts }

lemma startCoreStep_change : CoreChange startCoreStep := by
  constructor
  · intro run step
    unfold startCoreStep
    repeat' split
    all_goals rfl
  · intro run step
    unfold startCoreStep
    repeat' split
    all_goals rfl
  · intro run step
    unfold startCoreStep
    repeat' split
    all_goals exact ⟨_, _, rfl⟩

lemma completeCoreStep_change (outputRef : Option String) :
    CoreChange (completeCoreStep outputRef) := by
  constructor
  · intro run step
    unfold completeCoreStep
    repeat' split
    all_goals rfl
  · intro run step
    unfold completeCoreStep
    repeat' split
    all_goals rfl
  · intro run step
    unfold completeCoreStep
    repeat' split
    all_goals exact ⟨_, _, rfl⟩

lemma reopenCoreStep_change : CoreChange reopenCoreStep := by
  constructor
  · intro run step
    unfold reopenCoreStep
    repeat' split
    all_goals rfl
  · intro run step
    unfold reopenCoreStep
    repeat' split
    all_goals rfl
  · intro run step
    unfold reopenCoreStep
    repeat' split
    all_goals exact ⟨_, _, rfl⟩

variable {change : Run → RunStep → Run × RunStep} {now : Time} {rows rows' : RunRows} {stepId : Nat}
  {missing : List String} {settings : Settings} {question : String} {review : Review}
  {decision : Decision} {world : World}

/-- A helper applied to a core step changes `step_count` and nothing else of the Run. -/
lemma CoreChange.run_eq (core : CoreChange change) (found : Option RunStep) (rows : RunRows) :
    ∃ count starts,
      (onCoreStep found change rows).run = { rows.run with stepCount := count, starts } := by
  cases found with
  | none => exact ⟨rows.run.stepCount, rows.run.starts, rfl⟩
  | some object =>
    simp only [onCoreStep]
    split
    · exact ⟨rows.run.stepCount, rows.run.starts, rfl⟩
    next step found => exact core.run rows.run step

lemma CoreChange.kept (core : CoreChange change) (found : Option RunStep) (rows : RunRows) :
    Kept rows (onCoreStep found change rows) := by
  obtain ⟨count, starts, eq⟩ := core.run_eq found rows
  refine ⟨?_, by rw [eq], by rw [eq]⟩
  cases found with
  | none => rfl
  | some object => exact shapes_updateStep object.id rows.steps (core.shape rows.run)

lemma CoreChange.status (core : CoreChange change) (found : Option RunStep) (rows : RunRows) :
    (onCoreStep found change rows).run.status = rows.run.status := by
  obtain ⟨count, starts, eq⟩ := core.run_eq found rows
  rw [eq]

lemma completeReflectStep_kept (found : Option RunStep) (decision : Decision) (rows : RunRows) :
    Kept rows (completeReflectStep found decision rows) :=
  (startCoreStep_change.kept found rows).trans
    ((completeCoreStep_change _).kept found _)

lemma completeReflectStep_status (found : Option RunStep) (decision : Decision)
    (rows : RunRows) : (completeReflectStep found decision rows).run.status = rows.run.status :=
  ((completeCoreStep_change _).status found _).trans (startCoreStep_change.status found rows)

/-! ## The transactions that add no step -/

lemma shapes_cancelActiveRunSteps (steps : List RunStep) :
    shapes (cancelActiveRunSteps steps) = shapes steps := by
  apply shapes_map
  intro step _
  split <;> rfl

lemma cancel_kept (rows : RunRows) : Kept rows (cancel rows) := by
  refine ⟨?_, ?_, ?_⟩
  · simp only [cancel]
    split
    · split
      · exact shapes_cancelActiveRunSteps rows.steps
      rfl
    · split
      · exact shapes_cancelActiveRunSteps rows.steps
      rfl
  all_goals
    simp only [cancel]
    split <;> rfl

/-- Only the state of the Run, its lease and what it waits for change. -/
structure Touched (before after : RunRows) : Prop where
  steps : after.steps = before.steps
  plan : after.run.plan = before.run.plan
  maxSteps : after.run.maxSteps = before.run.maxSteps
  stepCount : after.run.stepCount = before.run.stepCount
  starts : after.run.starts = before.run.starts

lemma Touched.kept (touched : Touched rows rows') : Kept rows rows' :=
  ⟨congrArg shapes touched.steps, touched.plan, touched.maxSteps⟩

lemma claim_touched {workerId : String} {claimed : RunRows × Bool}
    (run : claim workerId now rows = some claimed) : Touched rows claimed.1 := by
  unfold claim at run
  repeat' split at run
  all_goals cases run
  all_goals exact ⟨rfl, rfl, rfl, rfl, rfl⟩

lemma decide_touched {principal : Principal} {approvalId : Nat} {approve : Bool}
    {approvals next : List Approval}
    (run : decide principal access approvalId approve now approvals rows = .ok (next, rows')) :
    Touched rows rows' := by
  unfold decide at run
  repeat' split at run
  all_goals cases run
  all_goals exact ⟨rfl, rfl, rfl, rfl, rfl⟩

lemma answer_touched {clarificationId : Nat}
    (run : answer access clarificationId now rows = .ok rows') : Touched rows rows' := by
  unfold answer at run
  repeat' split at run
  all_goals cases run
  all_goals exact ⟨rfl, rfl, rfl, rfl, rfl⟩

lemma fail_touched (code : String) (rows : RunRows) : Touched rows (fail code rows) := by
  unfold fail
  split <;> exact ⟨rfl, rfl, rfl, rfl, rfl⟩

lemma cancelRun_kept (now : Time) (rows : RunRows) : Kept rows (cancelRun now rows) := by
  unfold cancelRun
  split
  · exact Kept.refl rows
  exact ⟨shapes_cancelActiveRunSteps rows.steps, rfl, rfl⟩

/-- What the second transaction of a job makes of the rows. -/
inductive Settled (stepId : Nat) (rows : RunRows) : RunRows → Prop
  | kept : Settled stepId rows rows
  | cancelled : Settled stepId rows (cancel rows)
  | recorded (outcome : StepOutcome)
      (ended : outcome.status = .completed ∨ outcome.status = .failed)
      (open_ : isTerminal rows.run.status = false) :
      Settled stepId rows { rows with steps := updateStep stepId outcome.record rows.steps }
  | waiting (version : Option Nat)
      (active : rows.run.status ∈ [RunStatus.running, .waitingApproval]) :
      Settled stepId rows
        { run :=
            { rows.run with
              status := .waitingApproval, leaseOwner := none, leaseExpiresAt := none }
          steps := updateStep stepId
            (fun step =>
              { step with status := .waitingApproval, capabilityVersionId := version })
            rows.steps }

lemma settled_of_finishStep {outcome : StepOutcome}
    (ended : outcome.status = .completed ∨ outcome.status = .failed)
    (run : finishStep stepId outcome rows = .ok rows') : Settled stepId rows rows' := by
  unfold finishStep at run
  split at run
  · split at run
    · cases run
      exact .cancelled
    cases run
    exact .kept
  · next active =>
    split at run
    · cases run
    cases run
    simp only [Bool.or_eq_true, not_or, Bool.not_eq_true] at active
    exact .recorded outcome ended active.1

lemma settled_of_waitStep {version : Option Nat}
    (run : waitStep stepId version rows = .ok rows') : Settled stepId rows rows' := by
  unfold waitStep at run
  split at run
  · cases run
    exact .kept
  simp only at run
  by_cases waits : rows.run.status = .waitingApproval
  · rw [if_neg (not_not.2 waits)] at run
    cases run
    exact .waiting version (by simp [waits])
  · rw [if_pos waits] at run
    split at run
    · cases run
    next allowed =>
    cases run
    have running := running_of_allowed (validateRunTransition_ok allowed) (by simp)
    exact .waiting version (by simp [running])

lemma settleStep_settled {answer : GatewayAnswer}
    (run : settleStep stepId answer rows = .ok rows') : Settled stepId rows rows' := by
  cases answer with
  | completed evidenceId version => exact settled_of_finishStep (Or.inl rfl) run
  | failed code version => exact settled_of_finishStep (Or.inr rfl) run
  | waitingApproval approvalId version => exact settled_of_waitStep run

lemma settleStep_kept {answer : GatewayAnswer} (run : settleStep stepId answer rows = .ok rows') :
    Kept rows rows' := by
  cases settleStep_settled run with
  | kept => exact Kept.refl rows
  | cancelled => exact cancel_kept rows
  | recorded | waiting =>
    exact ⟨shapes_updateStep stepId rows.steps fun _ => rfl, rfl, rfl⟩

lemma shapes_skipBlocked (ordinals : List Nat) (steps : List RunStep) :
    shapes (skipBlocked ordinals steps) = shapes steps := by
  apply shapes_map
  intro step _
  split <;> rfl

lemma shapes_startSteps (stepIds : List Nat) (steps : List RunStep) :
    shapes (startSteps stepIds steps) = shapes steps := by
  apply shapes_map
  intro step _
  split <;> rfl

/-- The ways a pass of `_execute_steps` commits. -/
inductive Passed (now : Time) (rows : RunRows) : RunRows → Wave → Prop
  | stopped (idle : isTerminal rows.run.status = true ∨
      rows.run.status ∈ [RunStatus.waitingApproval, .waitingUser]) : Passed now rows rows .stop
  | cancelled (open_ : isTerminal rows.run.status = false)
      (requested : rows.run.cancellationRequestedAt.isSome = true) :
      Passed now rows (cancel rows) .stop
  | skipped (open_ : isTerminal rows.run.status = false)
      (blocked : (nextWave rows.steps).blocked ≠ []) :
      Passed now rows
        { rows with
          steps := skipBlocked ((nextWave rows.steps).blocked.map (·.ordinal)) rows.steps } .again
  | done (open_ : isTerminal rows.run.status = false)
      (blocked : (nextWave rows.steps).blocked = []) (ready : (nextWave rows.steps).ready = []) :
      Passed now rows rows .done
  | invoked (open_ : isTerminal rows.run.status = false)
      (active : rows.run.status ∉ [RunStatus.waitingApproval, .waitingUser])
      (ready : (nextWave rows.steps).ready ≠ [])
      (budget : rows.run.stepCount + (nextWave rows.steps).ready.length ≤ rows.run.maxSteps) :
      Passed now rows
        { run :=
            { rows.run with
              stepCount := rows.run.stepCount + (nextWave rows.steps).ready.length
              starts := (nextWave rows.steps).ready.map (·.id) ++ rows.run.starts }
          steps := startSteps ((nextWave rows.steps).ready.map (·.id)) rows.steps }
        (.invoke ((nextWave rows.steps).ready.map (·.id)))

lemma executeSteps_passed (run : executeSteps now rows = .ok (rows', wave)) :
    Passed now rows rows' wave := by
  unfold executeSteps at run
  split at run
  · next idle =>
    cases run
    simp only [Bool.or_eq_true, decide_eq_true_eq] at idle
    exact Passed.stopped idle
  next active =>
  simp only [Bool.or_eq_true, decide_eq_true_eq, not_or, Bool.not_eq_true] at active
  split at run
  · next requested =>
    cases run
    exact Passed.cancelled active.1 requested
  split at run
  · cases run
  split at run
  · cases run
  simp only at run
  split at run
  · next blocked =>
    cases run
    simp only [Bool.not_eq_true', List.isEmpty_eq_false_iff] at blocked
    exact Passed.skipped active.1 blocked
  next unblocked =>
  simp only [Bool.not_eq_true', Bool.not_eq_false, List.isEmpty_iff] at unblocked
  split at run
  · next idle =>
    split at run
    · cases run
      exact Passed.done active.1 unblocked (List.isEmpty_iff.1 idle)
    cases run
  next busy =>
  split at run
  · cases run
  next budget =>
  cases run
  have ready : (nextWave rows.steps).ready ≠ [] := fun empty =>
    busy (List.isEmpty_iff.2 empty)
  exact Passed.invoked active.1 active.2 ready (Nat.le_of_not_lt budget)

lemma Passed.kept (passed : Passed now rows rows' wave) : Kept rows rows' := by
  cases passed with
  | stopped | done => exact Kept.refl rows
  | cancelled open_ requested => exact cancel_kept rows
  | skipped open_ blocked => exact ⟨shapes_skipBlocked _ rows.steps, rfl, rfl⟩
  | invoked open_ active ready budget => exact ⟨shapes_startSteps _ rows.steps, rfl, rfl⟩

/-- What `_append_capability_replan` commits where it returns true. -/
structure Appended (contracts : List NamedContract) (missing : List String) (reason : String)
    (rows rows' : RunRows) (verifyStep respondStep : RunStep) : Prop where
  verify : lastOfKind .verify rows.steps = some verifyStep
  respond : lastOfKind .respond rows.steps = some respondStep
  some_contract : contracts ≠ []
  room : rows.steps.length + contracts.length ≤ rows.run.maxSteps
  running : rows.run.status = .running
  run_eq : rows'.run = { rows.run with
      plan := some (replanPlan rows.run.planOrEmpty contracts missing reason
        ((replanSteps rows.steps verifyStep.ordinal contracts).map (·.ordinal)))
      status := .running }
  steps_eq : rows'.steps = orderByOrdinal
    (shiftCoreSteps verifyStep respondStep (lastOfKind .reflect rows.steps) contracts.length
        ((replanSteps rows.steps verifyStep.ordinal contracts).map (·.ordinal)) rows.steps ++
      replanSteps rows.steps verifyStep.ordinal contracts)

lemma appendCapabilityReplan_appended {contracts : List NamedContract}
    (run : appendCapabilityReplan contracts missing reason rows = .ok (some rows')) :
    ∃ verifyStep respondStep, Appended contracts missing reason rows rows' verifyStep respondStep := by
  unfold appendCapabilityReplan at run
  split at run
  · next verifyStep respondStep verify respond =>
    split at run
    · cases run
    next fits =>
    simp only [not_or, Nat.not_lt] at fits
    simp only at run
    split at run
    · next replanning resumed =>
      cases run
      have running := running_of_allowed (validateRunTransition_ok replanning) (by simp)
      refine ⟨verifyStep, respondStep, verify, respond, ?_, fits.2, running, rfl, rfl⟩
      intro empty
      exact fits.1 (by rw [empty]; rfl)
    · cases run
    · cases run
  · cases run

lemma applyGapReplan_appended
    (run : applyGapReplan settings question missing reason rows = .ok (some rows')) :
    rows.run.planOrEmpty.criticReplans < settings.runMaxCriticReplans ∧ missing ≠ [] ∧
      ∃ verifyStep respondStep,
        Appended (gapContracts settings question missing rows) missing reason rows rows' verifyStep
          respondStep := by
  unfold applyGapReplan at run
  split at run
  · cases run
  next some_missing =>
  split at run
  · cases run
  next attempts =>
  simp only at run
  split at run
  · cases run
  obtain ⟨verifyStep, respondStep, appended⟩ := appendCapabilityReplan_appended run
  exact ⟨Nat.lt_of_not_le attempts, fun empty => some_missing (by rw [empty]; rfl), verifyStep,
    respondStep, appended⟩

/-- What `_replan_transient_failures` commits where it returns true. -/
structure Retried (settings : Settings) (rows rows' : RunRows) (retry : List Nat) : Prop where
  running : rows.run.status = .running
  failure : ∃ step ∈ rows.steps, retryable step = true ∧ step.ordinal ∈ retry
  closed : retry = restoreSkipped
    ((rows.steps.filter fun step => step.status = .completed).map (·.ordinal)) rows.steps
    rows.steps.length
    (((rows.steps.filter retryable).filter fun step =>
      step.capabilityVersionId.any (· ∈ settings.readOnlyVersions)).map (·.ordinal))
  run_eq : rows'.run = { rows.run with
      status := .running
      plan := some
        { rows.run.planOrEmpty with
          replans := rows.run.planOrEmpty.replans ++
            [{ attempt := rows.run.planOrEmpty.replans.length + 1
               reason := "transient_read_only_failure", missingEvidence := [], capabilities := []
               stepOrdinals := retry.insertionSort (· ≤ ·) }] } }
  steps_eq : rows'.steps = rows.steps.map (retryStep retry)

lemma restorePass_extends (completed : List Nat) (steps : List RunStep) (retry : List Nat) :
    retry <+: restorePass completed steps retry := by
  induction steps generalizing retry with
  | nil => exact List.prefix_rfl
  | cons step rest ih =>
    simp only [restorePass]
    split
    · exact (List.prefix_append retry [step.ordinal]).trans (ih _)
    exact ih retry

lemma restoreSkipped_extends (completed : List Nat) (steps : List RunStep) (passes : Nat)
    (retry : List Nat) : retry <+: restoreSkipped completed steps passes retry := by
  induction passes generalizing retry with
  | zero => exact List.prefix_rfl
  | succ passes ih =>
    simp only [restoreSkipped]
    split
    · exact List.prefix_rfl
    exact (restorePass_extends completed steps retry).trans (ih _)

def unretried (steps : List RunStep) (retry : List Nat) : Nat :=
  steps.countP fun step => step.ordinal ∉ retry

lemma replanTransientFailures_retried
    (run : replanTransientFailures settings rows = .ok (rows', true)) :
    ∃ retry, Retried settings rows rows' retry := by
  unfold replanTransientFailures at run
  split at run
  · cases run
  split at run
  · cases run
  simp only at run
  split at run
  · cases run
  next some_failure =>
  split at run
  · next replanning resumed =>
    cases run
    have running := running_of_allowed (validateRunTransition_ok replanning) (by simp)
    rw [List.isEmpty_iff] at some_failure
    obtain ⟨step, mem⟩ := List.exists_mem_of_ne_nil _ some_failure
    have failed := (List.mem_filter.1 mem).1
    refine ⟨_, running, ⟨step, (List.mem_filter.1 failed).1, (List.mem_filter.1 failed).2, ?_⟩,
      rfl, rfl, rfl⟩
    exact (restoreSkipped_extends _ _ _ _).subset (List.mem_map_of_mem mem)
  · cases run
  · cases run

lemma replanTransientFailures_false
    (run : replanTransientFailures settings rows = .ok (rows', false)) :
    rows' = rows ∨ rows' = cancel rows := by
  unfold replanTransientFailures at run
  simp only at run
  repeat' split at run
  all_goals cases run
  · exact .inl rfl
  · exact .inr rfl
  · exact .inl rfl

lemma replanMissingEvidence_false
    (run : replanMissingEvidence settings question missing rows = .ok (rows', false)) :
    rows' = rows ∨ rows' = cancel rows := by
  unfold replanMissingEvidence at run
  repeat' split at run
  all_goals cases run
  · exact .inl rfl
  · exact .inr rfl
  · exact .inl rfl
  · exact .inl rfl
  · exact .inl rfl

/-! ## `_respond` -/

def verifiedRows (rows : RunRows) : RunRows :=
  onCoreStep (lastOfKind .verify rows.steps) (completeCoreStep (some "critic.completed"))
    (onCoreStep (lastOfKind .verify rows.steps) startCoreStep rows)

/-- REFLECT started and one more investigation recorded in the plan. -/
def recordedRows (reflectStep : Option RunStep) (rows : RunRows) : RunRows :=
  let started := onCoreStep reflectStep startCoreStep rows
  { started with
    run :=
      { started.run with
        plan := some
          { started.run.planOrEmpty with
            investigationRounds := started.run.planOrEmpty.investigationRounds + 1 } } }

inductive Reviewed (settings : Settings) (now : Time) (review : Review) (rows : RunRows) :
    RunRows → Prop
  | verified : Reviewed settings now review rows (verifiedRows rows)
  | recorded (asked : investigates settings now review (verifiedRows rows) = true) :
      Reviewed settings now review rows
        (recordedRows (lastOfKind .reflect rows.steps) (verifiedRows rows))

def investigationContract (contract : CapabilityInput) : NamedContract :=
  ⟨"Investigate unanswered question via " ++ contract.capability, contract⟩

/-- The investigation was not asked for, or it had nothing to append. -/
def Uninvestigated (settings : Settings) (now : Time) (review : Review) (rows : RunRows) : Prop :=
  investigates settings now review (verifiedRows rows) = true →
    ∀ contract, review.contract = some contract → review.accessCurrent = true ∧
        appendCapabilityReplan [investigationContract contract] ["DOCUMENT"]
          "knowledge_investigation"
          (recordedRows (lastOfKind .reflect rows.steps) (verifiedRows rows)) = .ok none

inductive Responded (settings : Settings) (now : Time) (evidence : List String) (review : Review)
    (rows : RunRows) : RunRows → Response → Prop
  | idle (terminal : isTerminal rows.run.status = true) :
      Responded settings now evidence review rows rows (.returned false)
  | cancelled (open_ : isTerminal rows.run.status = false)
      (requested : rows.run.cancellationRequestedAt.isSome = true) :
      Responded settings now evidence review rows (cancel rows) (.returned false)
  | published (open_ : isTerminal rows.run.status = false) (middle after : RunRows)
      (reviewed : Reviewed settings now review rows middle) (decision : Decision)
      (run : publish (lastOfKind .reflect rows.steps) (lastOfKind .respond rows.steps) decision
        review.answerArtifactId middle = .ok after) :
      Responded settings now evidence review rows after (.published review.answerArtifactId)
  | gap (requested : rows.run.cancellationRequestedAt.isSome = false) (middle replanned : RunRows)
      (reviewed : Reviewed settings now review rows middle)
      (grounded : evidence ≠ []) (chosen : review.sourcesCurrent = true ∧ review.verified = false)
      (uninvestigated : Uninvestigated settings now review rows)
      (run : applyGapReplan settings review.question review.missingEvidence
        "critic_verification_failed" middle = .ok (some replanned)) :
      Responded settings now evidence review rows
        (onCoreStep (lastOfKind .verify rows.steps) reopenCoreStep replanned) (.returned true)
  | investigated (requested : rows.run.cancellationRequestedAt.isSome = false)
      (contract : CapabilityInput) (replanned : RunRows)
      (asked : investigates settings now review (verifiedRows rows) = true)
      (grounded : evidence ≠ []) (access : review.accessCurrent = true)
      (proposed : review.contract = some contract)
      (run : appendCapabilityReplan [investigationContract contract] ["DOCUMENT"]
        "knowledge_investigation"
        (recordedRows (lastOfKind .reflect rows.steps) (verifiedRows rows))
          = .ok (some replanned)) :
      Responded settings now evidence review rows
        (onCoreStep (lastOfKind .reflect rows.steps) reopenCoreStep
          (onCoreStep (lastOfKind .verify rows.steps) reopenCoreStep
            (completeReflectStep (lastOfKind .reflect rows.steps) .replan replanned)))
        (.returned true)

lemma conclude_responded {middle : RunRows} (open_ : isTerminal rows.run.status = false)
    (requested : rows.run.cancellationRequestedAt.isSome = false)
    (reviewed : Reviewed settings now review rows middle)
    (chosen : decision = .replan → evidence ≠ [] ∧ review.sourcesCurrent = true ∧
      review.verified = false ∧ Uninvestigated settings now review rows)
    (run : conclude settings review (lastOfKind .verify rows.steps)
      (lastOfKind .reflect rows.steps) (lastOfKind .respond rows.steps) decision middle
        = .ok (rows', response)) : Responded settings now evidence review rows rows' response := by
  have finished : ∀ decision,
      (publish (lastOfKind .reflect rows.steps) (lastOfKind .respond rows.steps) decision
          review.answerArtifactId middle).map
        (fun published => (published, Response.published review.answerArtifactId))
          = .ok (rows', response) →
      Responded settings now evidence review rows rows' response := by
    intro decision mapped
    obtain ⟨after, published, eq⟩ := of_map_ok mapped
    simp only [Prod.mk.injEq] at eq
    obtain ⟨rfl, rfl⟩ := eq
    exact Responded.published open_ middle after reviewed decision published
  unfold conclude at run
  simp only at run
  split at run
  · next replans =>
    split at run
    · cases run
    · next replanned applied =>
      cases run
      obtain ⟨grounded, current, unverified, uninvestigated⟩ := chosen replans
      exact Responded.gap requested middle replanned reviewed grounded ⟨current, unverified⟩
        uninvestigated applied
    · exact finished .withhold run
  · exact finished decision run

lemma reflectDecision_replan {evidenceFreeResponse : Bool}
    (replans : reflectDecision review evidenceFreeResponse = .replan) :
    review.verified = false ∧ evidenceFreeResponse = false := by
  unfold reflectDecision at replans
  split at replans
  · cases replans
  next failed =>
  simpa using failed

lemma respond_responded (run : respond settings now evidence review rows = .ok (rows', response)) :
    Responded settings now evidence review rows rows' response := by
  unfold respond at run
  split at run
  · next terminal =>
    cases run
    exact Responded.idle terminal
  next active =>
  rw [Bool.not_eq_true] at active
  split at run
  · next requested =>
    cases run
    exact Responded.cancelled active requested
  next requested =>
  rw [Bool.not_eq_true] at requested
  simp only at run
  split at run
  · cases run
  next grounded =>
  -- what a decision to replan says about the answer
  have chosen : (if review.sourcesCurrent then
        reflectDecision review (evidenceFreeResponseAllowed rows.run.planOrEmpty && evidence.isEmpty)
      else Decision.withhold) = .replan →
      evidence ≠ [] ∧ review.sourcesCurrent = true ∧ review.verified = false := by
    intro replans
    split at replans
    · next current =>
      obtain ⟨unverified, factual⟩ := reflectDecision_replan replans
      refine ⟨?_, current, unverified⟩
      intro empty
      rw [empty] at grounded factual
      simp only [List.isEmpty_nil, Bool.and_true, Bool.true_and, Bool.not_eq_true',
        Bool.not_eq_false] at grounded factual
      rw [grounded] at factual
      cases factual
    · cases replans
  split at run
  · next asked =>
    have factual : evidence ≠ [] := by
      intro empty
      have route : (verifiedRows rows).run.planOrEmpty.route = "KNOWLEDGE" := by
        simp only [investigates, Bool.and_eq_true, decide_eq_true_eq] at asked
        exact asked.1.1.1.1.1.1.1.1
      have kept : Kept rows (verifiedRows rows) :=
        (startCoreStep_change.kept _ rows).trans ((completeCoreStep_change _).kept _ _)
      rw [kept.planOrEmpty] at route
      rw [empty] at grounded
      simp [evidenceFreeResponseAllowed, route] at grounded
    split at run
    · cases run
    · next replanned investigated =>
      cases run
      unfold investigate at investigated
      simp only at investigated
      split at investigated
      · cases investigated
      next contract proposed =>
      split at investigated
      · cases investigated
      next access =>
      rw [Bool.not_eq_true, Bool.not_eq_false'] at access
      split at investigated
      · cases investigated
      · cases investigated
      · next appended =>
        cases investigated
        exact Responded.investigated requested contract _ asked factual access proposed appended
    · next recorded decision investigated =>
      have eq : recorded = recordedRows (lastOfKind .reflect rows.steps)
          (verifiedRows rows) := by
        unfold investigate at investigated
        simp only at investigated
        repeat' split at investigated
        all_goals cases investigated
        all_goals rfl
      rw [eq] at run
      refine conclude_responded active requested (Reviewed.recorded asked) ?_ run
      intro replans
      unfold investigate at investigated
      simp only at investigated
      split at investigated
      · next none =>
        cases investigated
        obtain ⟨evidenced, current, unverified⟩ := chosen replans
        refine ⟨evidenced, current, unverified, ?_⟩
        intro _ contract proposed
        rw [none] at proposed
        cases proposed
      next contract proposed =>
      split at investigated
      · cases investigated
        cases replans
      next access =>
      rw [Bool.not_eq_true, Bool.not_eq_false'] at access
      split at investigated
      · cases investigated
      · next unappended =>
        cases investigated
        obtain ⟨evidenced, current, unverified⟩ := chosen replans
        refine ⟨evidenced, current, unverified, ?_⟩
        intro _ other otherProposed
        rw [proposed] at otherProposed
        cases otherProposed
        exact ⟨access, unappended⟩
      · cases investigated
  · next unasked =>
    refine conclude_responded active requested Reviewed.verified ?_ run
    intro replans
    obtain ⟨evidenced, current, unverified⟩ := chosen replans
    exact ⟨evidenced, current, unverified, fun asked => absurd asked unasked⟩

lemma verifiedRows_kept (rows : RunRows) : Kept rows (verifiedRows rows) :=
  (startCoreStep_change.kept _ rows).trans ((completeCoreStep_change _).kept _ _)

lemma verifiedRows_status (rows : RunRows) : (verifiedRows rows).run.status = rows.run.status :=
  ((completeCoreStep_change _).status _ _).trans (startCoreStep_change.status _ rows)

def RunRows.closed (rows : RunRows) : RunRows :=
  { rows with
    run := { rows.run with status := .completed, leaseOwner := none, leaseExpiresAt := none } }

section

variable {reflectStep respondStep : Option RunStep} {answerArtifactId : String}

section
variable (run : publish reflectStep respondStep decision answerArtifactId rows = .ok rows')
include run

lemma publish_ok :
    rows.run.status = .running ∧
      rows' = onCoreStep respondStep (completeCoreStep (some answerArtifactId))
        (onCoreStep respondStep startCoreStep
          (completeReflectStep reflectStep decision rows)).closed := by
  unfold publish at run
  simp only at run
  split at run
  · cases run
  next allowed =>
  cases run
  have running := running_of_allowed (validateRunTransition_ok allowed) (by simp)
  rw [startCoreStep_change.status, completeReflectStep_status] at running
  exact ⟨running, rfl⟩

lemma publish_status :
    rows.run.status = .running ∧ rows'.run.status = .completed := by
  obtain ⟨running, rfl⟩ := publish_ok run
  exact ⟨running, (completeCoreStep_change _).status _ _⟩

lemma publish_kept :
    Kept rows rows' := by
  obtain ⟨_, rfl⟩ := publish_ok run
  have started := (completeReflectStep_kept reflectStep decision rows).trans
    (startCoreStep_change.kept respondStep _)
  have finished := (completeCoreStep_change (some answerArtifactId)).kept respondStep
    (onCoreStep respondStep startCoreStep (completeReflectStep reflectStep decision rows)).closed
  exact started.trans ⟨finished.steps, finished.plan, finished.maxSteps⟩

end

end

/-! ## One action -/

def World.invoking (world : World) (stepId : Nat) : Prop :=
  ∃ execution ∈ world.executions, ∃ job ∈ execution.jobs, job.stepId = stepId

def World.settles (world : World) : Action → Option Nat
  | .settle index jobIndex =>
    (world.executions[index]?.bind fun execution => execution.jobs[jobIndex]?).map (·.stepId)
  | _ => none

variable {action : Action} {world' : World}

lemma World.settles_invoking (settles : world.settles action = some stepId) :
    world.invoking stepId := by
  cases action with
  | settle index jobIndex =>
    obtain ⟨job, found, eq⟩ := Option.map_eq_some_iff.1 settles
    obtain ⟨execution, located, jobFound⟩ := Option.bind_eq_some_iff.1 found
    exact ⟨execution, List.mem_of_getElem? located, job, List.mem_of_getElem? jobFound, eq⟩
  | _ => cases settles

/-- What an action does to the rows; the flag says that a replan, or `_respond`,
returned true. -/
inductive RowsStep (settings : Settings) (world : World) : Action → RunRows → Bool → Prop
  | same (action : Action) : RowsStep settings world action world.rows false
  | claimed (workerId : String) (claimed : RunRows × Bool)
      (run : claim workerId world.now world.rows = some claimed) :
      RowsStep settings world (.claim workerId) claimed.1 false
  | prepared (index : Nat) (preparation : Preparation) (attachments : List String)
      (rows' : RunRows) (run : prepare preparation world.rows = .ok rows') :
      RowsStep settings world (.prepare index preparation attachments) rows' false
  | passed (index : Nat) (rows' : RunRows) (wave : Wave)
      (run : executeSteps world.now world.rows = .ok (rows', wave)) :
      RowsStep settings world (.executeSteps index) rows' false
  | settled (index jobIndex stepId : Nat) (answer : GatewayAnswer) (rows' : RunRows)
      (same : world.settles (.settle index jobIndex) = some stepId)
      (run : settleStep stepId answer world.rows = .ok rows') :
      RowsStep settings world (.settle index jobIndex) rows' false
  | retried (index : Nat) (rows' : RunRows) (retry : List Nat)
      (retried : Retried settings world.rows rows' retry) :
      RowsStep settings world (.replanTransient index) rows' true
  | filled (index : Nat) (question : String) (missing : List String) (rows' : RunRows)
      (run : applyGapReplan settings question missing "critic_missing_evidence" world.rows
        = .ok (some rows')) :
      RowsStep settings world (.replanMissing index question missing) rows' true
  | responded (index : Nat) (review : Review) (rows' : RunRows) (response : Response)
      (run : Harness.respond settings world.now world.evidence review world.rows
        = .ok (rows', response)) :
      RowsStep settings world (.respond index review) rows' (response = .returned true)
  | cancelled (action : Action) : RowsStep settings world action (cancel world.rows) false
  | failed (index : Nat) (code : String) :
      RowsStep settings world (.fail index) (fail code world.rows) false
  | decided (principal : Principal) (access : Bool) (approvalId : Nat) (approve : Bool)
      (approvals : List Approval) (rows' : RunRows)
      (run : Harness.decide principal access approvalId approve world.now world.approvals world.rows
        = .ok (approvals, rows')) :
      RowsStep settings world (.decide principal access approvalId approve) rows' false
  | answered (access : Bool) (clarificationId : Nat) (rows' : RunRows)
      (run : answer access clarificationId world.now world.rows = .ok rows') :
      RowsStep settings world (.answer access clarificationId) rows' false
  | stopped : RowsStep settings world .cancelRun (cancelRun world.now world.rows) false
  | requested (service : Bool) : RowsStep settings world (.requestCancellation service)
        (requestCancellation service world.now world.rows) false

@[simp] lemma setExecution_rows (world : World) (index : Nat) (execution : Execution) :
    (world.setExecution index execution).rows = world.rows := rfl

@[simp] lemma setExecution_replans (world : World) (index : Nat) (execution : Execution) :
    (world.setExecution index execution).replans = world.replans := rfl

lemma runCapability_same (world : World) (index : Nat) (execution : Execution) (jobIndex : Nat)
    (job : Job) (turn : GatewayTurn) :
    let next := world.runCapability index execution jobIndex job turn
    next.rows = world.rows ∧ next.replans = world.replans ∧ next.now = world.now ∧
      next.answers = world.answers := by
  unfold World.runCapability
  split <;> exact ⟨rfl, rfl, rfl, rfl⟩

lemma gateway_same (world : World) (index : Nat) (execution : Execution) (jobIndex : Nat)
    (job : Job) (turn : GatewayTurn) :
    let next := world.gateway index execution jobIndex job turn
    next.rows = world.rows ∧ next.replans = world.replans ∧ next.now = world.now ∧
      next.answers = world.answers := by
  unfold World.gateway
  split
  · exact ⟨rfl, rfl, rfl, rfl⟩
  · exact ⟨rfl, rfl, rfl, rfl⟩
  · split
    · exact runCapability_same world index execution jobIndex job turn
    split
    · exact runCapability_same _ index execution jobIndex job turn
    exact ⟨rfl, rfl, rfl, rfl⟩

lemma replan_rows {next : Phase} {result : Except ObsionError (RunRows × Bool)}
    (replanned : ∀ rows, result = .ok (rows, true) → RowsStep settings world action rows true)
    (idle : ∀ rows, result = .ok (rows, false) → rows = world.rows ∨ rows = cancel world.rows) :
    ∃ flag, RowsStep settings world action
        (world.replan index execution next result).rows flag ∧
      (world.replan index execution next result).replans = world.replans + flag.toNat := by
  unfold World.replan
  split
  · exact ⟨false, RowsStep.same _, rfl⟩
  · next rows => exact ⟨true, replanned rows rfl, rfl⟩
  · next rows =>
    rcases idle rows rfl with rfl | rfl
    · exact ⟨false, RowsStep.same _, rfl⟩
    exact ⟨false, RowsStep.cancelled _, rfl⟩

lemma respond_rows (settings : Settings) (world : World) (index : Nat) (execution : Execution)
    (review : Review) : ∃ flag, RowsStep settings world (.respond index review)
        (world.respond settings index execution review).rows flag ∧
      (world.respond settings index execution review).replans = world.replans + flag.toNat := by
  unfold World.respond
  split
  · exact ⟨false, RowsStep.same _, rfl⟩
  · next rows run => exact ⟨_, RowsStep.responded index review rows _ run, rfl⟩
  · next rows run => exact ⟨_, RowsStep.responded index review rows _ run, rfl⟩
  · next rows answerArtifactId run =>
    exact ⟨_, RowsStep.responded index review rows _ run, rfl⟩

lemma settle_answer {jobIndex : Nat}
    (run : act settings world (.settle index jobIndex) = some world') :
    ∃ execution stepId answer, world.executions[index]? = some execution ∧
      execution.jobs[jobIndex]? = some ⟨stepId, some answer⟩ ∧
      world' = world.settle index execution jobIndex ⟨stepId, some answer⟩ answer := by
  simp only [act] at run
  split at run
  · cases run
  next execution found =>
  split at run
  · next stepId answer job =>
    cases run
    exact ⟨execution, stepId, answer, found, job, rfl⟩
  · cases run

/-- Only `_respond` answers, and time passes only between two actions. -/
lemma act_quiet (run : act settings world action = some world') : world'.now = world.now ∧
      ((∀ index review, action ≠ .respond index review) → world'.answers = world.answers) := by
  cases action with
  | claim | record =>
    obtain ⟨_, _, rfl⟩ := Option.map_eq_some_iff.1 run
    exact ⟨rfl, fun _ => rfl⟩
  | prepare index preparation attachments =>
    obtain ⟨_, _, rfl⟩ := Option.map_eq_some_iff.1 run
    split <;> exact ⟨rfl, fun _ => rfl⟩
  | executeSteps index =>
    obtain ⟨_, _, rfl⟩ := Option.map_eq_some_iff.1 run
    unfold World.executeSteps
    split <;> exact ⟨rfl, fun _ => rfl⟩
  | gateway index jobIndex turn =>
    simp only [act] at run
    repeat' split at run
    all_goals cases run
    obtain ⟨-, -, now, answers⟩ := gateway_same world index _ jobIndex _ turn
    exact ⟨now, fun _ => answers⟩
  | settle index jobIndex =>
    obtain ⟨_, _, _, _, _, rfl⟩ := settle_answer run
    unfold World.settle
    split <;> exact ⟨rfl, fun _ => rfl⟩
  | replanTransient index | replanMissing index =>
    obtain ⟨_, _, rfl⟩ := Option.map_eq_some_iff.1 run
    unfold World.replan
    split <;> exact ⟨rfl, fun _ => rfl⟩
  | respond index review =>
    obtain ⟨_, _, rfl⟩ := Option.map_eq_some_iff.1 run
    unfold World.respond
    split <;> exact ⟨rfl, fun other => absurd rfl (other index review)⟩
  | _ =>
    simp only [act] at run
    repeat' split at run
    all_goals cases run
    all_goals exact ⟨rfl, fun _ => rfl⟩

lemma act_rows (run : act settings world action = some world') :
    ∃ flag, RowsStep settings world action world'.rows flag ∧
      world'.replans = world.replans + flag.toNat := by
  cases action with
  | claim workerId =>
    obtain ⟨claimed, claim, rfl⟩ := Option.map_eq_some_iff.1 run
    exact ⟨false, RowsStep.claimed workerId claimed claim, rfl⟩
  | record index =>
    obtain ⟨execution, _, rfl⟩ := Option.map_eq_some_iff.1 run
    exact ⟨false, RowsStep.same _, rfl⟩
  | prepare index preparation attachments =>
    obtain ⟨execution, _, rfl⟩ := Option.map_eq_some_iff.1 run
    split
    · exact ⟨false, RowsStep.same _, rfl⟩
    next rows prepared =>
    exact ⟨false, RowsStep.prepared index preparation attachments rows prepared, rfl⟩
  | executeSteps index =>
    obtain ⟨execution, _, rfl⟩ := Option.map_eq_some_iff.1 run
    refine ⟨false, ?_⟩
    unfold World.executeSteps
    split
    · exact ⟨RowsStep.same _, rfl⟩
    next rows wave run => exact ⟨RowsStep.passed index rows wave run, rfl⟩
  | gateway index jobIndex turn =>
    simp only [act] at run
    split at run
    · cases run
    split at run
    · cases run
      obtain ⟨rows, replans, -⟩ := gateway_same world index _ jobIndex _ turn
      rw [rows, replans]
      exact ⟨false, RowsStep.same _, rfl⟩
    · cases run
  | settle index jobIndex =>
    obtain ⟨execution, stepId, answer, found, job, rfl⟩ := settle_answer run
    have eq : world.settles (.settle index jobIndex) = some stepId := by
      simp [World.settles, found, job]
    refine ⟨false, ?_⟩
    unfold World.settle
    split
    · exact ⟨RowsStep.same _, rfl⟩
    next rows run => exact ⟨RowsStep.settled index jobIndex stepId answer rows eq run, rfl⟩
  | replanTransient index =>
    obtain ⟨execution, _, rfl⟩ := Option.map_eq_some_iff.1 run
    refine replan_rows (fun rows done => ?_) fun rows none => replanTransientFailures_false none
    obtain ⟨retry, retried⟩ := replanTransientFailures_retried done
    exact RowsStep.retried index rows retry retried
  | replanMissing index question missing =>
    obtain ⟨execution, _, rfl⟩ := Option.map_eq_some_iff.1 run
    refine replan_rows (fun rows done => ?_) fun rows none => replanMissingEvidence_false none
    refine RowsStep.filled index question missing rows ?_
    unfold replanMissingEvidence at done
    repeat' split at done
    all_goals cases done
    assumption
  | respond index review =>
    obtain ⟨execution, _, rfl⟩ := Option.map_eq_some_iff.1 run
    exact respond_rows settings world index execution review
  | raise | abandon =>
    simp only [act] at run
    split at run
    · cases run
    split at run
    · cases run
      exact ⟨false, RowsStep.same _, rfl⟩
    cases run
  | fail index =>
    simp only [act] at run
    split at run
    · cases run
    split at run
    · next code _ =>
      cases run
      exact ⟨false, RowsStep.failed index code, rfl⟩
    · cases run
  | crash index =>
    simp only [act] at run
    split at run
    · cases run
    cases run
    exact ⟨false, RowsStep.same _, rfl⟩
  | decide principal access approvalId approve =>
    simp only [act] at run
    split at run
    · cases run
    next approvals rows decided =>
    cases run
    exact ⟨false, RowsStep.decided principal access approvalId approve approvals rows decided, rfl⟩
  | answer access clarificationId =>
    simp only [act] at run
    split at run
    · cases run
    next rows answered =>
    cases run
    exact ⟨false, RowsStep.answered access clarificationId rows answered, rfl⟩
  | cancelRun =>
    cases run
    exact ⟨false, RowsStep.stopped, rfl⟩
  | requestCancellation service =>
    cases run
    exact ⟨false, RowsStep.requested service, rfl⟩

lemma perform_rows {timed : Timed} (run : perform settings world timed = some world') :
    ∃ flag, RowsStep settings (world.tick timed.elapsed) timed.action world'.rows flag ∧
      world'.replans = world.replans + flag.toNat :=
  act_rows run

end Obsion.Harness
