import Obsion.Harness.Meter

/-! # A completed Run and its core steps

`_respond` completes a Run whatever its steps say: a core step that the scheduler
skipped stays SKIPPED, and a step that is still waiting stays as it is.  Where none
of them is left like that, the graph of the completed Run tells the truth. -/

namespace Obsion.Harness

open Obsion.Lib

/-- The steps agree that the Run was completed with this answer. -/
structure Truthful (steps : List RunStep) (answerArtifactId : Option String) : Prop where
  terminal : ∀ step ∈ steps, step.status ∉ activeStepStatuses
  verify : ∃ step, lastOfKind .verify steps = some step ∧ step.status = .completed
  reflect : ∃ step, lastOfKind .reflect steps = some step ∧ step.status = .completed
  respond : ∃ step, lastOfKind .respond steps = some step ∧ step.status = .completed ∧
    step.outputRef.isSome = true ∧ step.outputRef = answerArtifactId

structure Closable (steps : List RunStep) (answerArtifactId : String) : Prop where
  verify : ∃ step, lastOfKind .verify steps = some step ∧ step.status ∉ blockingStepStatuses
  reflect : ∃ step, lastOfKind .reflect steps = some step ∧ step.status ∉ blockingStepStatuses
  respond : ∃ step, lastOfKind .respond steps = some step ∧ (step.status ∈ activeStepStatuses ∨
      step.status = .completed ∧ step.outputRef = some answerArtifactId)
  capabilities : ∀ step ∈ steps, step.kind = .capability → step.status ∉ activeStepStatuses

/-! ## The steps of a publication -/

variable {rows rows' : RunRows} {front : List RunStep}
  {verifyStep reflectStep respondStep : RunStep} {settings : Settings} {now : Time}
  {review : Review} {answerArtifactId : String} {world world' : World} {action : Action}
  {index : Nat} {execution : Execution}

lemma onCoreStep_steps (core : CoreSteps rows.steps front verifyStep reflectStep respondStep)
    (change : Run → RunStep → Run × RunStep) : (∀ object : RunStep, object.id = verifyStep.id →
      (onCoreStep (some object) change rows).steps
        = front ++ [(change rows.run verifyStep).2, reflectStep, respondStep]) ∧
    (∀ object : RunStep, object.id = reflectStep.id → (onCoreStep (some object) change rows).steps
        = front ++ [verifyStep, (change rows.run reflectStep).2, respondStep]) ∧
    (∀ object : RunStep, object.id = respondStep.id → (onCoreStep (some object) change rows).steps
        = front ++ [verifyStep, reflectStep, (change rows.run respondStep).2]) := by
  obtain ⟨verified, reflected, responded⟩ := core.updateStep fun step => (change rows.run step).2
  refine ⟨?_, ?_, ?_⟩
  · intro object eq
    simp only [onCoreStep, eq]
    exact verified
  · intro object eq
    simp only [onCoreStep, eq]
    exact reflected
  · intro object eq
    simp only [onCoreStep, eq]
    exact responded

lemma CoreChange.identity {change : Run → RunStep → Run × RunStep} (core : CoreChange change)
    (run : Run) (step : RunStep) :
    (change run step).2.id = step.id ∧ (change run step).2.kind = step.kind := by
  have shape := core.shape run step
  exact ⟨congrArg StepShape.id shape, congrArg StepShape.kind shape⟩

lemma finished_started (outputRef : Option String) (run : Run) (step : RunStep) :
    (startCoreStep run step).2.finished outputRef = step.finished outputRef := by
  cases status : step.status
  all_goals simp [startCoreStep, RunStep.finished, status, activeStepStatuses]

lemma finish_steps (core : CoreSteps rows.steps front verifyStep reflectStep respondStep)
    (outputRef : Option String) : (∀ object : RunStep, object.id = verifyStep.id →
      (onCoreStep (some object) (completeCoreStep outputRef)
          (onCoreStep (some object) startCoreStep rows)).steps
        = front ++ [verifyStep.finished outputRef, reflectStep, respondStep]) ∧
    (∀ object : RunStep, object.id = reflectStep.id →
      (onCoreStep (some object) (completeCoreStep outputRef)
          (onCoreStep (some object) startCoreStep rows)).steps
        = front ++ [verifyStep, reflectStep.finished outputRef, respondStep]) := by
  obtain ⟨verified, reflected, _⟩ := onCoreStep_steps core startCoreStep
  have identity := startCoreStep_change.identity rows.run
  refine ⟨?_, ?_⟩
  · intro object eq
    have started := verified object eq
    have next : CoreSteps (onCoreStep (some object) startCoreStep rows).steps front
        (startCoreStep rows.run verifyStep).2 reflectStep respondStep := by
      rw [started]
      exact core.replace (identity verifyStep) ⟨rfl, rfl⟩ ⟨rfl, rfl⟩
    rw [(onCoreStep_steps next (completeCoreStep outputRef)).1 object
      (eq.trans (identity verifyStep).1.symm), finished_step]
  · intro object eq
    have started := reflected object eq
    have next : CoreSteps (onCoreStep (some object) startCoreStep rows).steps front
        verifyStep (startCoreStep rows.run reflectStep).2 respondStep := by
      rw [started]
      exact core.replace ⟨rfl, rfl⟩ (identity reflectStep) ⟨rfl, rfl⟩
    rw [(onCoreStep_steps next (completeCoreStep outputRef)).2.1 object
      (eq.trans (identity reflectStep).1.symm), finished_step]

lemma finished_identity (outputRef : Option String) (step : RunStep) :
    (step.finished outputRef).id = step.id ∧ (step.finished outputRef).kind = step.kind := by
  unfold RunStep.finished
  split <;> exact ⟨rfl, rfl⟩

lemma reviewed_steps (core : CoreSteps rows.steps front verifyStep reflectStep respondStep) :
    ∃ reflected : RunStep, reflected.id = reflectStep.id ∧ reflected.kind = reflectStep.kind ∧
      (∀ outputRef, reflected.finished outputRef = reflectStep.finished outputRef) ∧
      (reviewedRows settings now review rows).steps
        = front ++ [verifyStep.finished (some "critic.completed"), reflected, respondStep] := by
  obtain ⟨verifyLast, reflectLast, _⟩ := core.lastOfKind
  have verified : (verifiedRows rows).steps
      = front ++ [verifyStep.finished (some "critic.completed"), reflectStep, respondStep] := by
    rw [verifiedRows, verifyLast]
    exact (finish_steps core (some "critic.completed")).1 verifyStep rfl
  unfold reviewedRows
  split
  · have next : CoreSteps (verifiedRows rows).steps front
        (verifyStep.finished (some "critic.completed")) reflectStep respondStep := by
      rw [verified]
      exact core.replace (finished_identity _ verifyStep) ⟨rfl, rfl⟩ ⟨rfl, rfl⟩
    have identity := startCoreStep_change.identity (verifiedRows rows).run reflectStep
    refine ⟨(startCoreStep (verifiedRows rows).run reflectStep).2, identity.1, identity.2, ?_, ?_⟩
    · intro outputRef
      exact finished_started outputRef _ reflectStep
    have started := (onCoreStep_steps next startCoreStep).2.1 reflectStep rfl
    rw [reflectLast]
    exact started
  · exact ⟨reflectStep, rfl, rfl, fun _ => rfl, verified⟩

variable {decision : Decision} {stepId : Nat} {answer : GatewayAnswer} {flag : Bool} {timed : Timed}

lemma published_steps (core : CoreSteps rows.steps front verifyStep reflectStep respondStep)
    (run : publish (some reflectStep) (some respondStep) decision answerArtifactId
      (reviewedRows settings now review rows) = .ok rows') :
    rows'.steps = front ++ [verifyStep.finished (some "critic.completed"),
      reflectStep.finished (some decision.outputRef),
      respondStep.finished (some answerArtifactId)] := by
  obtain ⟨reflected, reflectedId, reflectedKind, sameFinish, middle⟩ :
      ∃ reflected : RunStep, reflected.id = reflectStep.id ∧ reflected.kind = reflectStep.kind ∧
        (∀ outputRef, reflected.finished outputRef = reflectStep.finished outputRef) ∧
        (reviewedRows settings now review rows).steps
          = front ++ [verifyStep.finished (some "critic.completed"), reflected, respondStep] :=
    reviewed_steps core
  have middleCore : CoreSteps (reviewedRows settings now review rows).steps front
      (verifyStep.finished (some "critic.completed")) reflected respondStep := by
    rw [middle]
    exact core.replace (finished_identity _ verifyStep) ⟨reflectedId, reflectedKind⟩ ⟨rfl, rfl⟩
  have completed : (completeReflectStep (some reflectStep) decision
      (reviewedRows settings now review rows)).steps
        = front ++ [verifyStep.finished (some "critic.completed"),
            reflectStep.finished (some decision.outputRef), respondStep] := by
    rw [completeReflectStep, (finish_steps middleCore (some decision.outputRef)).2 reflectStep
      reflectedId.symm, sameFinish]
  have completedCore : CoreSteps (completeReflectStep (some reflectStep) decision
      (reviewedRows settings now review rows)).steps front
        (verifyStep.finished (some "critic.completed"))
        (reflectStep.finished (some decision.outputRef)) respondStep := by
    rw [completed]
    exact core.replace (finished_identity _ verifyStep) (finished_identity _ reflectStep) ⟨rfl, rfl⟩
  have started := (onCoreStep_steps completedCore startCoreStep).2.2 respondStep rfl
  obtain ⟨_, rfl⟩ := publish_ok run
  have respondIdentity := startCoreStep_change.identity
    (completeReflectStep (some reflectStep) decision
      (reviewedRows settings now review rows)).run respondStep
  -- the Run's own columns change in between, which no core step reads
  have publishedCore : CoreSteps
      (onCoreStep (some respondStep) startCoreStep (completeReflectStep (some reflectStep)
        decision (reviewedRows settings now review rows))).closed.steps front (verifyStep.finished (some "critic.completed"))
      (reflectStep.finished (some decision.outputRef))
      (startCoreStep (completeReflectStep (some reflectStep) decision
        (reviewedRows settings now review rows)).run respondStep).2 := by
    rw [RunRows.closed, started]
    exact core.replace (finished_identity _ verifyStep) (finished_identity _ reflectStep)
      respondIdentity
  rw [(onCoreStep_steps publishedCore (completeCoreStep (some answerArtifactId))).2.2 respondStep
    respondIdentity.1.symm, finished_step]

lemma finished_completed (outputRef : Option String) (step : RunStep) :
    (step.finished outputRef).status = .completed ↔ step.status ∉ blockingStepStatuses := by
  rw [finished_status]
  cases step.status <;> decide

lemma finished_answer (answerArtifactId : String) (step : RunStep) :
    ((step.finished (some answerArtifactId)).status = .completed ∧
        (step.finished (some answerArtifactId)).outputRef = some answerArtifactId) ↔
      (step.status ∈ activeStepStatuses ∨
        step.status = .completed ∧ step.outputRef = some answerArtifactId) := by
  unfold RunStep.finished
  split
  · next active => simp [active]
  next inactive => simp [inactive]

lemma CoreSteps.capability {steps : List RunStep}
    (core : CoreSteps steps front verifyStep reflectStep respondStep) {step : RunStep}
    (mem : step ∈ steps) (kind : step.kind = .capability) : step ∈ front := by
  obtain ⟨verifyKind, reflectKind, respondKind⟩ := core.kinds
  rw [core.split] at mem
  rcases List.mem_append.1 mem with inFront | inCore
  · exact inFront
  simp only [List.mem_cons, List.not_mem_nil, or_false] at inCore
  rcases inCore with rfl | rfl | rfl
  · rw [verifyKind] at kind
    cases kind
  · rw [reflectKind] at kind
    cases kind
  · rw [respondKind] at kind
    cases kind

lemma published_truthful (sound : Sound world) (planned : world.rows.run.plan.isSome = true)
    (run : publish (lastOfKind .reflect world.rows.steps) (lastOfKind .respond world.rows.steps)
      decision answerArtifactId (reviewedRows settings now review world.rows) = .ok rows') :
    Truthful rows'.steps (some answerArtifactId) ↔ Closable world.rows.steps answerArtifactId := by
  obtain ⟨capabilities, verify, reflect, respond, outlined⟩ := sound.charted.outlined planned
  obtain ⟨front, verifyStep, reflectStep, respondStep, core, _⟩ := outlined.coreSteps
  obtain ⟨verifyLast, reflectLast, respondLast⟩ := core.lastOfKind
  rw [reflectLast, respondLast] at run
  have steps := published_steps core run
  have after : CoreSteps rows'.steps front (verifyStep.finished (some "critic.completed"))
      (reflectStep.finished (some decision.outputRef))
      (respondStep.finished (some answerArtifactId)) := by
    rw [steps]
    exact core.replace (finished_identity _ verifyStep) (finished_identity _ reflectStep)
      (finished_identity _ respondStep)
  obtain ⟨verifyAfter, reflectAfter, respondAfter⟩ := after.lastOfKind
  constructor
  · intro truthful
    obtain ⟨verified, verifiedLast, verifiedStatus⟩ := truthful.verify
    obtain ⟨reflected, reflectedLast, reflectedStatus⟩ := truthful.reflect
    obtain ⟨responded, respondedLast, respondedStatus, _, respondedRef⟩ := truthful.respond
    rw [verifyAfter] at verifiedLast
    rw [reflectAfter] at reflectedLast
    rw [respondAfter] at respondedLast
    cases verifiedLast
    cases reflectedLast
    cases respondedLast
    refine ⟨⟨verifyStep, verifyLast, (finished_completed _ verifyStep).1 verifiedStatus⟩,
      ⟨reflectStep, reflectLast, (finished_completed _ reflectStep).1 reflectedStatus⟩,
      ⟨respondStep, respondLast,
        (finished_answer answerArtifactId respondStep).1 ⟨respondedStatus, respondedRef⟩⟩, ?_⟩
    intro step mem kind
    apply truthful.terminal
    rw [steps]
    exact List.mem_append_left _ (core.capability mem kind)
  · intro closable
    obtain ⟨verified, verifiedLast, verifiedOpen⟩ := closable.verify
    obtain ⟨reflected, reflectedLast, reflectedOpen⟩ := closable.reflect
    obtain ⟨responded, respondedLast, respondedOpen⟩ := closable.respond
    rw [verifyLast] at verifiedLast
    rw [reflectLast] at reflectedLast
    rw [respondLast] at respondedLast
    cases verifiedLast
    cases reflectedLast
    cases respondedLast
    have verifyDone := (finished_completed (some "critic.completed") verifyStep).2 verifiedOpen
    have reflectDone :=
      (finished_completed (some decision.outputRef) reflectStep).2 reflectedOpen
    have respondDone := (finished_answer answerArtifactId respondStep).2 respondedOpen
    refine ⟨?_, ⟨_, verifyAfter, verifyDone⟩, ⟨_, reflectAfter, reflectDone⟩,
      ⟨_, respondAfter, respondDone.1, by rw [respondDone.2]; rfl, respondDone.2⟩⟩
    intro step mem
    rw [steps] at mem
    rcases List.mem_append.1 mem with inFront | inCore
    · have before : step ∈ world.rows.steps := by
        rw [core.split]
        exact List.mem_append_left _ inFront
      by_cases kind : step.kind = .capability
      · exact closable.capabilities step before kind
      have prelude : step.kind ∈ preludeKinds := by
        have kinds := core.front step inFront
        simp only [List.mem_cons, List.not_mem_nil, or_false, preludeKinds] at kinds ⊢
        tauto
      rw [sound.prelude step before prelude]
      decide
    · simp only [List.mem_cons, List.not_mem_nil, or_false] at inCore
      rcases inCore with rfl | rfl | rfl
      · rw [verifyDone]
        decide
      · rw [reflectDone]
        decide
      · rw [respondDone.1]
        decide

lemma unplanned_untruthful (charted : Charted rows) (unplanned : rows.run.plan = none)
    (answer : Option String) : ¬ Truthful rows.steps answer := by
  intro truthful
  obtain ⟨step, last, _⟩ := truthful.verify
  obtain ⟨mem, kind⟩ := lastOfKind_some last
  have planned := charted.planned_of_mem mem (by rw [kind]; decide)
  rw [unplanned] at planned
  cases planned

lemma unplanned_unclosable (charted : Charted rows) (unplanned : rows.run.plan = none)
    (answer : String) : ¬ Closable rows.steps answer := by
  intro closable
  obtain ⟨step, last, _⟩ := closable.verify
  obtain ⟨mem, kind⟩ := lastOfKind_some last
  have planned := charted.planned_of_mem mem (by rw [kind]; decide)
  rw [unplanned] at planned
  cases planned

structure Frozen (before after : RunRows) : Prop where
  status : after.run.status = .completed
  steps : after.steps = before.steps

lemma cancel_frozen (completed : rows.run.status = .completed) : Frozen rows (cancel rows) := by
  constructor
  · simp [cancel, completed, isTerminal]
  simp [cancel, completed, isTerminal]

lemma settleStep_frozen (completed : rows.run.status = .completed)
    (run : settleStep stepId answer rows = .ok rows') :
    Frozen rows rows' := by
  cases settleStep_settled run with
  | kept => exact ⟨completed, rfl⟩
  | cancelled => exact cancel_frozen completed
  | recorded outcome ended open_ =>
    rw [completed] at open_
    cases open_
  | waiting version active =>
    rw [completed] at active
    simp at active

lemma decide_frozen {principal : Principal} {access : Bool} {approvalId : Nat} {approve : Bool}
    {approvals approvals' : List Approval} (completed : rows.run.status = .completed)
    (run : decide principal access approvalId approve now approvals rows = .ok (approvals', rows')) :
    Frozen rows rows' := by
  have terminal : isTerminal rows.run.status = true := by rw [completed]; rfl
  have running : ¬ rows.run.status = .waitingApproval := by rw [completed]; decide
  unfold decide at run
  rw [if_pos terminal, if_neg running] at run
  repeat' split at run
  all_goals cases run
  all_goals exact ⟨completed, rfl⟩

lemma RowsStep.frozen (step : RowsStep settings world action rows' flag)
    (completed : world.rows.run.status = .completed) : Frozen world.rows rows' := by
  have terminal : isTerminal world.rows.run.status = true := by rw [completed]; rfl
  have eq : Frozen world.rows world.rows := ⟨completed, rfl⟩
  have unappended : ∀ {contracts missing reason rows replanned} {verifyStep respondStep : RunStep},
      rows.run.status = .completed →
      Appended contracts missing reason rows replanned verifyStep respondStep → False := by
    intro contracts missing reason rows replanned verifyStep respondStep done appended
    have running := appended.running
    rw [done] at running
    cases running
  cases step with
  | same => exact eq
  | claimed workerId claimed run =>
    unfold claim at run
    simp [completed] at run
  | prepared index preparation attachments rows' run =>
    unfold prepare at run
    rw [terminal, Bool.true_or, if_pos rfl] at run
    cases run
    exact eq
  | passed index rows' wave run =>
    unfold executeSteps at run
    rw [terminal, Bool.true_or, if_pos rfl] at run
    cases run
    exact eq
  | settled index jobIndex stepId answer rows' eq run => exact settleStep_frozen completed run
  | retried index rows' retry retried =>
    have running := retried.running
    rw [completed] at running
    cases running
  | filled index question missing rows' run =>
    obtain ⟨_, _, verifyStep, respondStep, appended⟩ := applyGapReplan_appended run
    exact (unappended completed appended).elim
  | responded index review rows' response run =>
    unfold respond at run
    rw [if_pos terminal] at run
    cases run
    exact eq
  | cancelled => exact cancel_frozen completed
  | failed index code =>
    unfold fail
    rw [if_pos terminal]
    exact eq
  | decided principal access approvalId approve approvals rows' run =>
    exact decide_frozen completed run
  | answered access clarificationId rows' run =>
    unfold answer at run
    simp [completed] at run
    split at run
    all_goals cases run
  | stopped =>
    unfold cancelRun
    rw [if_pos terminal]
    exact eq
  | requested service =>
    refine ⟨?_, rfl⟩
    simp [requestCancellation, completed]

lemma cancel_completed (completed : (cancel rows).run.status = .completed) :
    rows.run.status = .completed := by
  simp only [cancel] at completed
  split at completed
  · exact completed
  cases completed

lemma settleStep_completed (run : settleStep stepId answer rows = .ok rows')
    (completed : rows'.run.status = .completed) :
    rows.run.status = .completed := by
  cases settleStep_settled run with
  | kept | recorded => exact completed
  | cancelled => exact cancel_completed completed
  | waiting version active => cases completed

lemma RowsStep.completes (step : RowsStep settings world action rows' flag)
    (open_ : world.rows.run.status ≠ .completed) (completed : rows'.run.status = .completed) :
    ∃ index review answerArtifactId, action = .respond index review ∧
      Harness.respond settings world.now world.evidence review world.rows
        = .ok (rows', .published answerArtifactId) := by
  cases step with
  | same => exact absurd completed open_
  | claimed workerId claimed run =>
    unfold claim at run
    repeat' split at run
    all_goals cases run
    all_goals cases completed
  | prepared index preparation attachments rows' run =>
    cases prepare_prepared run with
    | kept rows' idle =>
      rcases idle with rfl | rfl
      · exact absurd completed open_
      exact absurd (cancel_completed completed) open_
    | asked clarification rows' _ unplanned running steps run_eq =>
      rw [run_eq] at completed
      cases completed
    | planned plan availableCapabilities rows' _ unplanned steps run_eq =>
      rw [run_eq] at completed
      exact absurd completed open_
  | passed index rows' wave run =>
    cases executeSteps_passed run with
    | cancelled => exact absurd (cancel_completed completed) open_
    | _ => exact absurd completed open_
  | settled index jobIndex stepId answer rows' eq run =>
    exact absurd (settleStep_completed run completed) open_
  | retried index rows' retry retried =>
    rw [retried.run_eq] at completed
    cases completed
  | filled index question missing rows' run =>
    obtain ⟨_, _, verifyStep, respondStep, appended⟩ := applyGapReplan_appended run
    rw [appended.run_eq] at completed
    cases completed
  | responded index review rows' response run =>
    cases respond_responded run with
    | idle terminal => exact absurd completed open_
    | cancelled _ requested => exact absurd (cancel_completed completed) open_
    | published _ middle after reviewed decision published =>
      exact ⟨index, review, _, rfl, run⟩
    | gap requested middle replanned reviewed grounded chosen uninvestigated applied =>
      obtain ⟨_, _, verifyStep, respondStep, appended⟩ := applyGapReplan_appended applied
      rw [reopenCoreStep_change.status, appended.run_eq] at completed
      cases completed
    | investigated requested contract replanned asked grounded access proposed applied =>
      obtain ⟨verifyStep, respondStep, appended⟩ := appendCapabilityReplan_appended applied
      rw [reopenCoreStep_change.status, reopenCoreStep_change.status,
        completeReflectStep_status, appended.run_eq] at completed
      cases completed
  | cancelled => exact absurd (cancel_completed completed) open_
  | failed index code =>
    unfold fail at completed
    split at completed
    · exact absurd completed open_
    cases completed
  | decided principal access approvalId approve approvals rows' run =>
    unfold decide at run
    repeat' split at run
    all_goals cases run
    all_goals first
      | exact absurd completed open_
      | cases completed
  | answered access clarificationId rows' run =>
    unfold answer at run
    repeat' split at run
    all_goals cases run
    all_goals cases completed
  | stopped =>
    unfold cancelRun at completed
    split at completed
    · exact absurd completed open_
    cases completed
  | requested service =>
    simp only [requestCancellation] at completed
    split at completed
    · cases completed
    exact absurd completed open_

lemma respond_frozen (completed : world.rows.run.status = .completed) :
    (world.respond settings index execution review).answers = world.answers := by
  have idle : Harness.respond settings world.now world.evidence review world.rows
      = .ok (world.rows, .returned false) := by
    unfold respond
    rw [if_pos (by rw [completed]; rfl)]
  unfold World.respond
  rw [idle]
  rfl

/-! ## The condition -/

def PublishesClosable (settings : Settings) (move : Move World Timed) : Prop :=
  let world := move.before.tick move.action.elapsed
  match move.action.action with
  | .respond _ review =>
    Responds world.evidence world.rows →
      respondAppended settings world.now world.evidence review world.rows = [] →
        Closable world.rows.steps review.answerArtifactId
  | _ => True

lemma any_iff {Item : Type} {found : Option Item} {holds : Item → Prop} [DecidablePred holds] :
    found.any (fun item => holds item) = true ↔ ∃ item, found = some item ∧ holds item := by
  cases found with
  | none | some => simp

instance (steps : List RunStep) (answerArtifactId : String) :
    Decidable (Closable steps answerArtifactId) :=
  decidable_of_iff
    ((lastOfKind .verify steps).any (fun step => step.status ∉ blockingStepStatuses) = true ∧
      (lastOfKind .reflect steps).any (fun step => step.status ∉ blockingStepStatuses) = true ∧
      (lastOfKind .respond steps).any (fun step => step.status ∈ activeStepStatuses ∨
        step.status = .completed ∧ step.outputRef = some answerArtifactId) = true ∧
      ∀ step ∈ steps, step.kind = .capability → step.status ∉ activeStepStatuses)
    ⟨fun parts => ⟨any_iff.mp parts.1, any_iff.mp parts.2.1, any_iff.mp parts.2.2.1, parts.2.2.2⟩,
      fun closable => ⟨any_iff.mpr closable.verify, any_iff.mpr closable.reflect,
        any_iff.mpr closable.respond, closable.capabilities⟩⟩

def Action.review? : Action → Option Review
  | .respond _ review => some review
  | _ => none

def publishesClosable (settings : Settings) (world : World) (review : Review) : Bool :=
  Decidable.decide (Responds world.evidence world.rows →
    (respondAppended settings world.now world.evidence review world.rows).isEmpty = true →
      Closable world.rows.steps review.answerArtifactId)

lemma publishesClosable_iff (settings : Settings) (move : Move World Timed) :
    move.action.action.review?.all (publishesClosable settings (move.before.tick move.action.elapsed)) = true ↔
      PublishesClosable settings move := by
  unfold PublishesClosable
  cases move.action.action with
  | respond index review =>
    simp only [Action.review?, Option.all_some, publishesClosable, decide_eq_true_eq, List.isEmpty_iff]
  | _ => exact iff_of_true rfl trivial

instance (settings : Settings) (move : Move World Timed) : Decidable (PublishesClosable settings move) :=
  decidable_of_iff _ (publishesClosable_iff settings move)

def TellsTruth (world : World) : Prop :=
  world.rows.run.status = .completed → Truthful world.rows.steps world.answers.getLast?

lemma perform_frozen (run : perform settings world timed = some world')
    (completed : world.rows.run.status = .completed) :
    world'.rows.run.status = .completed ∧ world'.rows.steps = world.rows.steps ∧
      world'.answers = world.answers := by
  obtain ⟨flag, step, _⟩ := perform_rows run
  have frozen := step.frozen completed
  refine ⟨frozen.status, frozen.steps, ?_⟩
  obtain ⟨elapsed, action⟩ := timed
  by_cases answers : ∃ index review, action = .respond index review
  · obtain ⟨index, review, rfl⟩ := answers
    obtain ⟨execution, _, rfl⟩ := Option.map_eq_some_iff.1 run
    have tickedCompleted : (world.tick elapsed).rows.run.status = .completed := completed
    exact respond_frozen tickedCompleted
  · have acted : act settings (world.tick elapsed) action = some world' := run
    have eq : world'.answers = (world.tick elapsed).answers :=
      (act_quiet acted).2 fun index review eq => answers ⟨index, review, eq⟩
    exact eq

lemma published_responds {evidence : List String} (charted : Charted rows)
    (run : Harness.respond settings now evidence review rows
      = .ok (rows', .published answerArtifactId)) :
    Responds evidence rows ∧ respondAppended settings now evidence review rows = [] := by
  have open_ : isTerminal rows.run.status = false := by
    cases respond_responded run with
    | published open_ => exact open_
  have unrequested : rows.run.cancellationRequestedAt = none := by
    cases requested : rows.run.cancellationRequestedAt with
    | none => rfl
    | some time =>
      unfold respond at run
      rw [if_neg (by rw [open_]; exact Bool.false_ne_true), if_pos (by rw [requested]; rfl)] at run
      cases run
  have concluded := respond_concluded open_ (by rw [unrequested]; rfl) run
  refine ⟨⟨concluded.running, unrequested, respond_grounded open_ (by rw [unrequested]; rfl) run⟩, ?_⟩
  cases concluded with
  | published decision _ unappended ungapped taken =>
    exact published_appended charted unappended ungapped

lemma respond_truthful (sound : Sound world) (responds : Responds world.evidence world.rows)
    (publishes : respondAppended settings world.now world.evidence review world.rows = []) :
    (world.respond settings index execution review).rows.run.status = .completed ∧
      (Truthful (world.respond settings index execution review).rows.steps
          (world.respond settings index execution review).answers.getLast?
        ↔ Closable world.rows.steps review.answerArtifactId) := by
  obtain ⟨rows', response, run⟩ : ∃ rows' response,
      Harness.respond settings world.now world.evidence review world.rows
        = .ok (rows', response) := respond_commits responds
  have concluded := respond_concluded responds.open_ (by rw [responds.unrequested]; rfl) run
  cases response with
  | returned replanned =>
    exact absurd publishes (replanned_appended sound.charted responds.grounded concluded)
  | published answerArtifactId =>
    obtain ⟨rows_eq, answers⟩ : (world.respond settings index execution review).rows = rows' ∧
        (world.respond settings index execution review).answers
          = world.answers ++ [answerArtifactId] := by
      unfold World.respond
      rw [run]
      exact ⟨rfl, rfl⟩
    rw [rows_eq, answers, List.getLast?_concat]
    cases concluded with
    | published decision _ unappended ungapped taken =>
      refine ⟨(publish_status taken).2, ?_⟩
      cases plan : world.rows.run.plan with
      | some plan => exact published_truthful sound (by rw [plan]; rfl) taken
      | none =>
        have reviewed := reviewedRows_reviewed settings world.now review world.rows
        have kept := publish_kept taken
        have charted := (sound.charted.review reviewed).keep kept
        have unplanned : rows'.run.plan = none := by
          rw [kept.plan]
          rcases reviewed.noted.plan with eq | ⟨earlier, before, _⟩
          · rw [eq, plan]
          rw [plan] at before
          cases before
        exact ⟨fun truthful => absurd truthful (unplanned_untruthful charted unplanned _),
          fun closable => absurd closable (unplanned_unclosable sound.charted plan _)⟩

lemma perform_truth (sound : Sound world) (run : perform settings world timed = some world')
    (truth : TellsTruth world) :
    TellsTruth world' ↔ PublishesClosable settings ⟨world, timed, world'⟩ := by
  obtain ⟨elapsed, action⟩ := timed
  have ticked : Sound (world.tick elapsed) := ⟨sound.charted, sound.prelude, sound.invoking⟩
  by_cases publishes : ∃ index review, action = .respond index review ∧
      Responds (world.tick elapsed).evidence (world.tick elapsed).rows ∧
      respondAppended settings (world.tick elapsed).now (world.tick elapsed).evidence review
        (world.tick elapsed).rows = []
  · obtain ⟨index, review, rfl, responds, empty⟩ := publishes
    obtain ⟨execution, _, rfl⟩ := Option.map_eq_some_iff.1 run
    obtain ⟨completed, truthful⟩ :
        ((world.tick elapsed).respond settings index execution review).rows.run.status
            = .completed ∧
          (Truthful ((world.tick elapsed).respond settings index execution review).rows.steps
              ((world.tick elapsed).respond settings index execution review).answers.getLast?
            ↔ Closable (world.tick elapsed).rows.steps review.answerArtifactId) :=
      respond_truthful ticked responds empty
    constructor
    · intro after _ _
      exact truthful.1 (after completed)
    intro closable _
    exact truthful.2 (closable responds empty)
  · have allowed : PublishesClosable settings ⟨world, ⟨elapsed, action⟩, world'⟩ := by
      cases action with
      | respond index review =>
        intro responds empty
        exact absurd ⟨index, review, rfl, responds, empty⟩ publishes
      | _ => trivial
    refine ⟨fun _ => allowed, fun _ completed => ?_⟩
    by_cases before : world.rows.run.status = .completed
    · obtain ⟨_, steps, answers⟩ := perform_frozen run before
      rw [steps, answers]
      exact truth before
    · obtain ⟨flag, step, _⟩ := perform_rows run
      obtain ⟨index, review, answerArtifactId, eq, responded⟩ := step.completes before completed
      have published := published_responds ticked.charted responded
      exact absurd ⟨index, review, eq, published⟩ publishes

/-- The second step is refused, which no replan repairs, and the Run is answered from the
first one. -/
def refusedActions : List Action :=
  sampleActions ++ [.executeSteps 0, .gateway 0 0 ⟨none, 7, .refused "capability_denied"⟩, .settle 0 0,
     .executeSteps 0, .executeSteps 0, .executeSteps 0, .executeSteps 0, .replanTransient 0,
     .replanMissing 0 "why do orders fail" [], .respond 0 sampleReview]

/-- A completed Run is final: no worker, person or crash changes a step or publishes another answer. -/
theorem completed_run_final {settings : Settings} {world later : World} {moves : List (Move World Timed)}
    (completed : world.rows.run.status = .completed) (path : Path (harness settings) world moves later) :
    later.rows.run.status = .completed ∧ later.rows.steps = world.rows.steps ∧ later.answers = world.answers := by
  let Final : World → Prop := fun state =>
    state.rows.run.status = .completed ∧ state.rows.steps = world.rows.steps ∧ state.answers = world.answers
  refine path.preserved (fun before timed after holds step => ?_) (show Final world from ⟨completed, rfl, rfl⟩)
  obtain ⟨status, steps, answers⟩ := perform_frozen step holds.1
  exact ⟨status, steps.trans holds.2.1, answers.trans holds.2.2⟩

theorem completed_run_final_answer : ∃ (moves : List (Move World Timed)) (world later : World),
    Path (harness sampleSettings) world moves later ∧ moves.length = 2 ∧ later.answers = ["answer-1"] := by
  obtain ⟨earlier, world, moves, later, first, second, status, answers, length⟩ : ∃ earlier world moves later,
      replay (perform sampleSettings) (created 50 600 sampleUser none 0) (answeredActions.map (Timed.mk 0))
        = some (earlier, world) ∧
      replay (perform sampleSettings) world ([.cancelRun, .requestCancellation true].map (Timed.mk 9))
        = some (moves, later) ∧
      world.rows.run.status = .completed ∧ world.answers = ["answer-1"] ∧ moves.length = 2 :=
    ⟨_, _, _, _, rfl, rfl, rfl, rfl, rfl⟩
  have path : Path (harness sampleSettings) world moves later := Path.of_replay second
  exact ⟨moves, world, later, path, length, (completed_run_final status path).2.2.trans answers⟩

end Obsion.Harness
