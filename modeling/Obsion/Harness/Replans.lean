import Obsion.Harness.WellFormed

/-! # What a transaction does to the plan

`Drawn` lists how one action changes the plan document and the number of steps: a
plan is made, a transient replan is recorded, an investigation is recorded, or
capability steps are appended.  Every other action keeps both. -/

namespace Obsion.Harness

open Obsion.Lib

/-- The steps keep their shape, and at most one more investigation is recorded. -/
structure Noted (settings : Settings) (rows middle : RunRows) : Prop where
  steps : shapes middle.steps = shapes rows.steps
  maxSteps : middle.run.maxSteps = rows.run.maxSteps
  plan : middle.run.plan = rows.run.plan ∨ ∃ plan, rows.run.plan = some plan ∧
      plan.investigationRounds < settings.runMaxKnowledgeInvestigationRounds ∧
      middle.run.plan = some { plan with investigationRounds := plan.investigationRounds + 1 }

variable {settings : Settings} {rows middle replanned rows' : RunRows} {now : Time}
  {review : Review} {contracts : List NamedContract} {missing : List String} {reason : String}
  {verifyStep respondStep : RunStep}

lemma Kept.noted (kept : Kept rows middle) : Noted settings rows middle :=
  ⟨kept.steps, kept.maxSteps, Or.inl kept.plan⟩

lemma Noted.keep {after : RunRows} (noted : Noted settings rows middle) (kept : Kept middle after) :
    Noted settings rows after :=
  ⟨kept.steps.trans noted.steps, kept.maxSteps.trans noted.maxSteps, by
    rw [kept.plan]
    exact noted.plan⟩

lemma Noted.charted (charted : Charted rows) (noted : Noted settings rows middle) : Charted middle := by
  cases charted with
  | unplanned plan steps =>
    rcases noted.plan with eq | ⟨earlier, before, _⟩
    · exact Charted.unplanned (eq.trans plan) (noted.steps ▸ steps)
    rw [plan] at before
    cases before
  | planned plan capabilities verify reflect respond outlined =>
    refine Charted.planned ?_ capabilities verify reflect respond (noted.steps ▸ outlined)
    rcases noted.plan with eq | ⟨earlier, _, _, after⟩
    · rw [eq, plan]
    rw [after]
    rfl

def appendable (contracts : List NamedContract) (rows : RunRows) : List NamedContract :=
  if rows.run.status = .running ∧ rows.steps.length + contracts.length ≤ rows.run.maxSteps then
    contracts
  else []

def gapAppends (settings : Settings) (question : String) (missing : List String)
    (rows : RunRows) : List NamedContract :=
  if missing.isEmpty || settings.runMaxCriticReplans ≤ rows.run.planOrEmpty.criticReplans then []
  else appendable (gapContracts settings question missing rows) rows

def respondAppends (settings : Settings) (now : Time) (review : Review) (rows : RunRows) :
    List NamedContract :=
  let gaps :=
    if review.sourcesCurrent && !review.verified then
      gapAppends settings review.question review.missingEvidence rows
    else []
  if investigates settings now review (verifiedRows rows) then
    match review.contract with
    | none => gaps
    | some contract =>
      if review.accessCurrent then appendable [investigationContract contract] rows else []
  else gaps

/-- The contracts of the steps that an action appends, from the state before it. -/
def World.appends (settings : Settings) (world : World) : Action → List NamedContract
  | .replanMissing _ question missing => gapAppends settings question missing world.rows
  | .respond _ review =>
    if world.rows.run.cancellationRequestedAt.isSome || world.evidence.isEmpty then []
    else respondAppends settings world.now review world.rows
  | _ => []

/-- Why capability steps were appended, with the bound that was checked first. -/
inductive AppendReason (settings : Settings) (rows middle : RunRows) : String → Prop
  | critic (reason : String)
      (isCritic : reason ∈ ["critic_missing_evidence", "critic_verification_failed"])
      (bound : middle.run.planOrEmpty.criticReplans < settings.runMaxCriticReplans) :
      AppendReason settings rows middle reason
  | investigation
      (recorded : middle.run.planOrEmpty.investigationRounds
        = rows.run.planOrEmpty.investigationRounds + 1) :
      AppendReason settings rows middle "knowledge_investigation"

/-- What an action that appends `contracts`, if anything, does to the plan and to the
number of steps. -/
inductive Drawn (settings : Settings) (rows : RunRows) (contracts : List NamedContract) :
    RunRows → Bool → Prop
  | noted (rows' : RunRows) (noted : Noted settings rows rows') :
      Drawn settings rows contracts rows' false
  | planned (plan : ExecutionPlan) (availableCapabilities : List String) (rows' : RunRows)
      (unplanned : rows.run.plan = none)
      (steps : shapes rows'.steps = plannedShapes plan.steps)
      (plan_eq : rows'.run.plan = some
        { route := plan.route, steps := plan.steps, requiredEvidence := plan.requiredEvidence
          availableCapabilities }) : Drawn settings rows contracts rows' false
  | clarified (rows' : RunRows) (unplanned : rows.run.plan = none)
      (plan_eq : rows'.run.plan = none) : Drawn settings rows contracts rows' false
  | retried (rows' : RunRows) (retry : List Nat) (retried : Retried settings rows rows' retry) :
      Drawn settings rows contracts rows' true
  | appended (middle replanned rows' : RunRows) (missing : List String) (reason : String)
      (verifyStep respondStep : RunStep)
      (noted : Noted settings rows middle) (moved : Moved CoreOnly rows.steps middle.steps)
      (why : AppendReason settings rows middle reason)
      (appended : Appended contracts missing reason middle replanned verifyStep respondStep)
      (kept : Kept replanned rows') : Drawn settings rows contracts rows' true

lemma Reviewed.noted (reviewed : Reviewed settings now review rows middle) :
    Noted settings rows middle := by
  cases reviewed with
  | verified => exact (verifiedRows_kept rows).noted
  | recorded asked =>
    have verified := verifiedRows_kept rows
    have started := startCoreStep_change.kept (lastOfKind .reflect rows.steps) (verifiedRows rows)
    refine ⟨started.steps.trans verified.steps, started.maxSteps.trans verified.maxSteps, Or.inr ?_⟩
    obtain ⟨plan, some_plan⟩ := Option.isSome_iff_exists.1 (planned_of_investigates asked)
    have bound : (verifiedRows rows).run.planOrEmpty.investigationRounds
        < settings.runMaxKnowledgeInvestigationRounds := by
      simp only [investigates, Bool.and_eq_true, decide_eq_true_eq] at asked
      exact asked.1.1.1.1.2
    have startedPlan : (onCoreStep (lastOfKind .reflect rows.steps) startCoreStep
        (verifiedRows rows)).run.planOrEmpty = plan := by
      rw [Run.planOrEmpty, started.plan, some_plan]
      rfl
    refine ⟨plan, verified.plan.symm.trans some_plan, ?_, ?_⟩
    · rwa [Run.planOrEmpty, some_plan] at bound
    simp only [recordedRows, startedPlan]

lemma recordedRows_rounds (rows : RunRows) :
    (recordedRows (lastOfKind .reflect rows.steps) (verifiedRows rows)).run.planOrEmpty.investigationRounds
      = rows.run.planOrEmpty.investigationRounds + 1 := by
  have kept := (verifiedRows_kept rows).trans
    (startCoreStep_change.kept (lastOfKind .reflect rows.steps) (verifiedRows rows))
  have eq := kept.planOrEmpty
  simp only [recordedRows]
  rw [Run.planOrEmpty, Option.getD_some, eq]

lemma reviewed_status (reviewed : Reviewed settings now review rows middle) :
    middle.run.status = rows.run.status := by
  cases reviewed with
  | verified => exact verifiedRows_status rows
  | recorded asked =>
    exact (startCoreStep_change.status (lastOfKind .reflect rows.steps) _).trans
      (verifiedRows_status rows)

/-! ## What was selected -/

lemma Noted.planOrEmpty (noted : Noted settings rows middle) :
    middle.run.planOrEmpty.steps = rows.run.planOrEmpty.steps ∧
      middle.run.planOrEmpty.replans = rows.run.planOrEmpty.replans ∧
      middle.run.planOrEmpty.availableCapabilities
        = rows.run.planOrEmpty.availableCapabilities := by
  simp only [Run.planOrEmpty]
  rcases noted.plan with eq | ⟨plan, before, _, after⟩
  · rw [eq]
    exact ⟨rfl, rfl, rfl⟩
  rw [before, after]
  exact ⟨rfl, rfl, rfl⟩

lemma inputs_of_shapes (steps : List RunStep) :
    (steps.filter fun step => step.kind = .capability).filterMap (·.inputPayload)
      = ((shapes steps).filter fun step => step.kind = .capability).filterMap
          (·.inputPayload) := by
  simp only [shapes, List.filter_map, List.filterMap_map]
  rfl

lemma gapContracts_noted (noted : Noted settings rows middle) (question : String)
    (missing : List String) :
    gapContracts settings question missing middle = gapContracts settings question missing rows := by
  unfold gapContracts
  simp only
  rw [inputs_of_shapes, inputs_of_shapes, noted.steps, noted.planOrEmpty.2.2]

lemma Appended.appendable
    (appended : Appended contracts missing reason middle replanned verifyStep respondStep)
    (status : middle.run.status = rows.run.status) (steps : middle.steps.length = rows.steps.length)
    (maxSteps : middle.run.maxSteps = rows.run.maxSteps) :
    Harness.appendable contracts rows = contracts := by
  have room := appended.room
  rw [steps, maxSteps] at room
  exact if_pos ⟨status ▸ appended.running, room⟩

lemma Noted.length (noted : Noted settings rows middle) : middle.steps.length = rows.steps.length := by
  have eq := congrArg List.length noted.steps
  rwa [length_shapes, length_shapes] at eq

lemma gapAppends_eq {question : String} (noted : Noted settings rows middle)
    (status : middle.run.status = rows.run.status)
    (bound : middle.run.planOrEmpty.criticReplans < settings.runMaxCriticReplans)
    (some_missing : missing ≠ [])
    (appended : Appended (gapContracts settings question missing middle) missing reason middle
      replanned verifyStep respondStep) :
    gapAppends settings question missing rows = gapContracts settings question missing middle := by
  have attempts : rows.run.planOrEmpty.criticReplans < settings.runMaxCriticReplans := by
    rwa [Plan.criticReplans, ← noted.planOrEmpty.2.1]
  have room := appended.appendable status noted.length noted.maxSteps
  rw [gapContracts_noted noted] at room ⊢
  unfold gapAppends
  rw [if_neg, room]
  simp only [Bool.or_eq_true, List.isEmpty_iff, decide_eq_true_eq, not_or, Nat.not_le]
  exact ⟨some_missing, attempts⟩

lemma appendCapabilityReplan_none
    (run : appendCapabilityReplan contracts missing reason rows = .ok none)
    (verify : (lastOfKind .verify rows.steps).isSome = true)
    (respond : (lastOfKind .respond rows.steps).isSome = true) :
    contracts = [] ∨ rows.run.maxSteps < rows.steps.length + contracts.length := by
  obtain ⟨verifyStep, verifyFound⟩ := Option.isSome_iff_exists.1 verify
  obtain ⟨respondStep, respondFound⟩ := Option.isSome_iff_exists.1 respond
  unfold appendCapabilityReplan at run
  rw [verifyFound, respondFound] at run
  simp only at run
  split at run
  · next full => exact full.imp_left List.length_eq_zero_iff.1
  split at run
  all_goals cases run

lemma Charted.core_found (charted : Charted rows) (planned : rows.run.plan.isSome = true) :
    (lastOfKind .verify rows.steps).isSome = true ∧ (lastOfKind .respond rows.steps).isSome = true := by
  obtain ⟨capabilities, verify, reflect, respond, outlined⟩ := charted.outlined planned
  obtain ⟨front, verifyStep, reflectStep, respondStep, core, _⟩ := outlined.coreSteps
  obtain ⟨verifyLast, _, respondLast⟩ := core.lastOfKind
  rw [verifyLast, respondLast]
  exact ⟨rfl, rfl⟩

lemma respondAppends_gap (charted : Charted rows)
    (chosen : review.sourcesCurrent = true ∧ review.verified = false)
    (uninvestigated : Uninvestigated settings now review rows) :
    respondAppends settings now review rows
      = gapAppends settings review.question review.missingEvidence rows := by
  unfold respondAppends
  simp only [chosen.1, chosen.2, Bool.not_false, Bool.and_self, if_true]
  split
  · next asked =>
    split
    · rfl
    next contract proposed =>
    exfalso
    obtain ⟨access, unappended⟩ := uninvestigated asked contract proposed
    have reviewed : Reviewed settings now review rows
        (recordedRows (lastOfKind .reflect rows.steps) (verifiedRows rows)) :=
      Reviewed.recorded asked
    obtain ⟨verify, respond⟩ := (charted.review reviewed).core_found rfl
    have full := appendCapabilityReplan_none unappended verify respond
    have room : (verifiedRows rows).steps.length < (verifiedRows rows).run.maxSteps := by
      simp only [investigates, Bool.and_eq_true, decide_eq_true_eq] at asked
      exact asked.1.1.1.2
    have kept := verifiedRows_kept rows
    rw [kept.length, kept.maxSteps] at room
    rw [reviewed.noted.length, reviewed.noted.maxSteps] at full
    rcases full with empty | full
    · cases empty
    simp only [List.length_singleton] at full
    omega
  · rfl

lemma respondAppends_investigated {contract : CapabilityInput}
    (asked : investigates settings now review (verifiedRows rows) = true)
    (access : review.accessCurrent = true) (proposed : review.contract = some contract)
    (appended : Appended [investigationContract contract] ["DOCUMENT"] "knowledge_investigation"
      (recordedRows (lastOfKind .reflect rows.steps) (verifiedRows rows)) replanned verifyStep
      respondStep) :
    respondAppends settings now review rows = [investigationContract contract] := by
  have reviewed : Reviewed settings now review rows _ := Reviewed.recorded asked
  have noted := reviewed.noted
  unfold respondAppends
  simp only [asked, proposed, access, if_true]
  exact appended.appendable (reviewed_status reviewed) noted.length noted.maxSteps

lemma Responded.drawn {evidence : List String} {response : Response} (charted : Charted rows)
    (responded : Responded settings now evidence review rows rows' response) : Drawn settings rows
      (if rows.run.cancellationRequestedAt.isSome || evidence.isEmpty then []
        else respondAppends settings now review rows) rows' (response = .returned true) := by
  cases responded with
  | idle terminal => exact Drawn.noted rows (Kept.refl rows).noted
  | cancelled open_ requested => exact Drawn.noted _ (cancel_kept rows).noted
  | published open_ middle after reviewed decision run =>
    exact Drawn.noted rows' (reviewed.noted.keep (publish_kept run))
  | gap requested middle replanned reviewed grounded chosen uninvestigated run =>
    obtain ⟨bound, some_missing, verifyStep, respondStep, appended⟩ :=
      applyGapReplan_appended run
    have eq := gapAppends_eq reviewed.noted (reviewed_status reviewed) bound some_missing appended
    rw [if_neg (by simp [requested, grounded]), respondAppends_gap charted chosen uninvestigated, eq]
    exact Drawn.appended middle replanned _ _ _ verifyStep respondStep reviewed.noted
      (reviewed_moved charted reviewed)
      (AppendReason.critic "critic_verification_failed" (by decide) bound) appended
      (reopenCoreStep_change.kept _ _)
  | investigated requested contract replanned asked grounded access proposed run =>
    obtain ⟨verifyStep, respondStep, appended⟩ := appendCapabilityReplan_appended run
    have reviewed : Reviewed settings now review rows _ := Reviewed.recorded asked
    have completed := completeReflectStep_kept (lastOfKind .reflect rows.steps) .replan replanned
    rw [if_neg (by simp [requested, grounded]),
      respondAppends_investigated asked access proposed appended]
    exact Drawn.appended _ replanned _ _ _ verifyStep respondStep reviewed.noted
      (reviewed_moved charted reviewed)
      (AppendReason.investigation (recordedRows_rounds rows)) appended
      ((completed.trans (reopenCoreStep_change.kept _ _)).trans
        (reopenCoreStep_change.kept _ _))

lemma Prepared.drawn (charted : Charted rows) (prepared : Prepared rows rows') :
    Drawn settings rows contracts rows' false := by
  cases prepared with
  | kept rows' idle =>
    rcases idle with rfl | rfl
    · exact Drawn.noted rows' (Kept.refl rows').noted
    exact Drawn.noted _ (cancel_kept rows).noted
  | asked clarification rows' open_ unplanned running steps run_eq =>
    exact Drawn.clarified rows' unplanned (by rw [run_eq]; exact unplanned)
  | planned plan availableCapabilities rows' open_ unplanned steps run_eq =>
    refine Drawn.planned plan availableCapabilities rows' unplanned ?_ (by rw [run_eq])
    cases charted with
    | unplanned none shapes =>
      have eq := ensurePreparationSteps_shapes true shapes
      rw [if_pos rfl] at eq
      rw [steps]
      exact shapes_insertPlanned plan.steps eq
    | planned some capabilities verify reflect respond outlined =>
      rw [unplanned] at some
      cases some

lemma RowsStep.drawn {world : World} {action : Action} {flag : Bool}
    (charted : Charted world.rows) (step : RowsStep settings world action rows' flag) :
    Drawn settings world.rows (world.appends settings action) rows' flag := by
  cases step with
  | same => exact Drawn.noted _ (Kept.refl world.rows).noted
  | claimed workerId claimed run => exact Drawn.noted _ (claim_touched run).kept.noted
  | prepared index preparation attachments rows' run => exact (prepare_prepared run).drawn charted
  | passed index rows' wave run => exact Drawn.noted rows' (executeSteps_passed run).kept.noted
  | settled index jobIndex stepId answer rows' eq run =>
    exact Drawn.noted rows' (settleStep_kept run).noted
  | retried index rows' retry retried => exact Drawn.retried rows' retry retried
  | filled index question missing rows' run =>
    obtain ⟨bound, some_missing, verifyStep, respondStep, appended⟩ :=
      applyGapReplan_appended run
    have noted : Noted settings world.rows world.rows := (Kept.refl world.rows).noted
    have eq := gapAppends_eq noted rfl bound some_missing appended
    rw [World.appends, eq]
    exact Drawn.appended world.rows rows' rows' _ _ verifyStep respondStep noted
      (Moved.refl fun step _ => CoreOnly.refl step)
      (AppendReason.critic "critic_missing_evidence" (by decide) bound) appended
      (Kept.refl rows')
  | responded index review rows' response run => exact (respond_responded run).drawn charted
  | cancelled => exact Drawn.noted _ (cancel_kept world.rows).noted
  | failed index code => exact Drawn.noted _ (fail_touched code world.rows).kept.noted
  | decided principal access approvalId approve approvals rows' run =>
    exact Drawn.noted rows' (decide_touched run).kept.noted
  | answered access clarificationId rows' run => exact Drawn.noted rows' (answer_touched run).kept.noted
  | stopped => exact Drawn.noted _ (cancelRun_kept world.now world.rows).noted
  | requested service => exact Drawn.noted _ ⟨rfl, rfl, Or.inl rfl⟩

lemma perform_drawn {world world' : World} {timed : Timed} (charted : Charted world.rows)
    (run : perform settings world timed = some world') :
    ∃ flag, Drawn settings world.rows ((world.tick timed.elapsed).appends settings timed.action)
        world'.rows flag ∧ world'.replans = world.replans + flag.toNat := by
  obtain ⟨flag, step, replans⟩ := perform_rows run
  have ticked : Charted (world.tick timed.elapsed).rows := charted
  have drawn := step.drawn ticked
  exact ⟨flag, drawn, replans⟩

end Obsion.Harness
