import Obsion.Harness.Replans

/-! # The replanning loop terminates

A replan that returns true spends something: a transient replan the retry of a
capability step, a gap replan one of the critic's replans, an investigation one of
the investigation rounds.  None of the three is ever given back, and each has its
own bound, so `replans` never exceeds the sum of the bounds. -/

namespace Obsion.Harness

open Obsion.Lib

def retriesSpent (steps : List RunStep) : Nat := (steps.map (·.retryCount)).sum

def spent (rows : RunRows) : Nat :=
  retriesSpent rows.steps + rows.run.planOrEmpty.criticReplans +
    rows.run.planOrEmpty.investigationRounds

def capabilityCount (steps : List RunStep) : Nat :=
  (steps.filter fun step => step.kind = .capability).length

/-- Each of the three kinds of replans is within its bound. -/
structure Bounded (settings : Settings) (rows : RunRows) : Prop where
  retries : ∀ step ∈ rows.steps, step.retryCount ≤ if step.kind = .capability then 1 else 0
  critic : rows.run.planOrEmpty.criticReplans ≤ settings.runMaxCriticReplans
  investigations : rows.run.planOrEmpty.investigationRounds
    ≤ settings.runMaxKnowledgeInvestigationRounds

variable {steps : List RunStep} {settings : Settings} {after verifyStep respondStep : RunStep}
  {rows' middle : RunRows} {contracts : List NamedContract} {missing evidence : List String}
  {reason : String} {flag access : Bool} {world world' : World} {timed : Timed} {now : Time}
  {execution : Execution} {action : Action} {jobIndex : Nat} {wave : Wave}

lemma retriesSpent_le
    (retries : ∀ step ∈ steps, step.retryCount ≤ if step.kind = .capability then 1 else 0) :
    retriesSpent steps ≤ capabilityCount steps := by
  unfold retriesSpent capabilityCount
  induction steps with
  | nil => simp
  | cons step rest ih =>
    have tail := ih fun other mem => retries other (List.mem_cons_of_mem _ mem)
    have head := retries step List.mem_cons_self
    by_cases kind : step.kind = .capability
    · rw [if_pos kind] at head
      simp only [List.map_cons, List.sum_cons, List.filter_cons, kind, decide_true, if_true,
        List.length_cons]
      omega
    · rw [if_neg kind] at head
      simp only [List.map_cons, List.sum_cons, List.filter_cons, kind, decide_false,
        Bool.false_eq_true, if_false]
      omega

variable {rows : RunRows} {settles : Option Nat} {retry : List Nat} {review : Review} {index : Nat}

lemma Bounded.spent_le (bounded : Bounded settings rows) :
    spent rows ≤ capabilityCount rows.steps + settings.runMaxCriticReplans +
      settings.runMaxKnowledgeInvestigationRounds := by
  have retries := retriesSpent_le bounded.retries
  have critic := bounded.critic
  have investigations := bounded.investigations
  unfold spent
  omega

lemma StepMove.retryCount_le {step : RunStep} (move : StepMove settles step after) :
    step.retryCount ≤ after.retryCount := by
  cases move with
  | core after only => exact Nat.le_of_eq only.retryCount.symm
  | cancelled | skipped | started | recorded | waits => exact Nat.le_refl _
  | retried again =>
    simp only [RunStep.again]
    split <;> omega

lemma StepMove.retryCount_bound {step : RunStep} (move : StepMove settles step after)
    (bound : step.retryCount ≤ if step.kind = .capability then 1 else 0)
    (once : step.kind = .capability → step.maxRetries = 1) :
    after.retryCount ≤ if after.kind = .capability then 1 else 0 := by
  rw [move.identity.2]
  cases move with
  | core after only => rwa [only.retryCount]
  | cancelled | skipped | started | recorded | waits => exact bound
  | retried again =>
    simp only [RunStep.again]
    split
    · next failed =>
      rcases again with retried | skipped
      · simp only [retryable, Bool.and_eq_true, decide_eq_true_eq] at retried
        have kind := retried.1.1.1.1
        have room := retried.1.2
        rw [if_pos kind]
        have single := once kind
        omega
      · rw [skipped] at failed
        cases failed
    · exact bound

lemma retriesSpent_mono {before after : List RunStep}
    (moved : Moved (StepMove settles) before after) : retriesSpent before ≤ retriesSpent after := by
  obtain ⟨change, added, perm, moves, _⟩ := moved
  have counted : retriesSpent after
      = ((before.map change).map (·.retryCount)).sum + (added.map (·.retryCount)).sum := by
    unfold retriesSpent
    rw [(perm.map _).sum_eq, List.map_append, List.sum_append]
  have grown : retriesSpent before ≤ ((before.map change).map (·.retryCount)).sum := by
    unfold retriesSpent
    rw [List.map_map]
    exact List.sum_le_sum fun step mem => (moves step mem).retryCount_le
  omega

lemma Retried.retriesSpent_lt (retried : Retried settings rows rows' retry) :
    retriesSpent rows.steps < retriesSpent rows'.steps := by
  unfold retriesSpent
  rw [retried.steps_eq, List.map_map]
  apply List.sum_lt_sum
  · intro step _
    simp only [Function.comp_apply, retryStep]
    repeat' split
    all_goals simp
  · obtain ⟨step, mem, failed, inside⟩ := retried.failure
    refine ⟨step, mem, ?_⟩
    simp only [retryable, Bool.and_eq_true, decide_eq_true_eq] at failed
    simp only [Function.comp_apply, retryStep, inside, not_true_eq_false, if_false,
      failed.1.1.1.2, if_true]
    omega

/-! ## The plan -/

lemma Noted.counts (noted : Noted settings rows middle) :
    middle.run.planOrEmpty.criticReplans = rows.run.planOrEmpty.criticReplans ∧
      rows.run.planOrEmpty.investigationRounds ≤ middle.run.planOrEmpty.investigationRounds := by
  constructor
  · rw [Plan.criticReplans, noted.planOrEmpty.2.1, Plan.criticReplans]
  simp only [Run.planOrEmpty]
  rcases noted.plan with eq | ⟨plan, before, _, after⟩
  · rw [eq]
  rw [before, after]
  simp

lemma Noted.rounds_le (noted : Noted settings rows middle)
    (bound : rows.run.planOrEmpty.investigationRounds
      ≤ settings.runMaxKnowledgeInvestigationRounds) : middle.run.planOrEmpty.investigationRounds
      ≤ settings.runMaxKnowledgeInvestigationRounds := by
  simp only [Run.planOrEmpty] at bound ⊢
  rcases noted.plan with eq | ⟨plan, _, room, after⟩
  · rwa [eq]
  rw [after]
  exact room

lemma replanPlan_critic {plan : Plan} {ordinals : List Nat} :
    (replanPlan plan contracts missing reason ordinals).criticReplans = plan.criticReplans +
        if reason ∈ ["critic_missing_evidence", "critic_verification_failed"] then 1 else 0 := by
  unfold Plan.criticReplans
  simp only [replanPlan, List.filter_append, List.length_append, List.filter_cons, List.filter_nil,
    decide_eq_true_eq]
  split <;> simp

lemma Retried.counts (retried : Retried settings rows rows' retry) :
    rows'.run.planOrEmpty.criticReplans = rows.run.planOrEmpty.criticReplans ∧
      rows'.run.planOrEmpty.investigationRounds = rows.run.planOrEmpty.investigationRounds := by
  rw [retried.run_eq]
  constructor
  · unfold Plan.criticReplans
    simp [Run.planOrEmpty]
  rfl

lemma Appended.planOrEmpty
    (appended : Appended contracts missing reason rows rows' verifyStep respondStep) :
    rows'.run.planOrEmpty = replanPlan rows.run.planOrEmpty contracts missing reason
      ((replanSteps rows.steps verifyStep.ordinal contracts).map (·.ordinal)) := by
  rw [appended.run_eq]
  rfl

lemma Drawn.plan_counts (drawn : Drawn settings rows contracts rows' flag) :
    rows.run.planOrEmpty.criticReplans ≤ rows'.run.planOrEmpty.criticReplans ∧
      rows.run.planOrEmpty.investigationRounds ≤ rows'.run.planOrEmpty.investigationRounds := by
  cases drawn with
  | noted rows' noted =>
    obtain ⟨critic, rounds⟩ := noted.counts
    exact ⟨Nat.le_of_eq critic.symm, rounds⟩
  | planned _ _ _ unplanned | clarified _ unplanned =>
    rw [Run.planOrEmpty, unplanned]
    exact ⟨Nat.zero_le _, Nat.zero_le _⟩
  | retried rows' retry retried =>
    obtain ⟨critic, rounds⟩ := retried.counts
    exact ⟨Nat.le_of_eq critic.symm, Nat.le_of_eq rounds.symm⟩
  | appended middle replanned rows' missing reason verifyStep respondStep noted moved why appended
      kept =>
      obtain ⟨critic, rounds⟩ := noted.counts
      rw [kept.planOrEmpty, appended.planOrEmpty, replanPlan_critic]
      exact ⟨by omega, rounds⟩

lemma Drawn.spent_lt (drawn : Drawn settings rows contracts rows' flag)
    (moved : Moved (StepMove settles) rows.steps rows'.steps) :
    spent rows + flag.toNat ≤ spent rows' := by
  have retries := retriesSpent_mono moved
  obtain ⟨critic, rounds⟩ := drawn.plan_counts
  unfold spent
  cases drawn with
  | noted | planned | clarified =>
    rw [Bool.toNat_false]
    omega
  | retried rows' retry retried =>
    have more := retried.retriesSpent_lt
    rw [Bool.toNat_true]
    omega
  | appended middle replanned rows' missing reason verifyStep respondStep noted _ why appended
      kept =>
      have counts := noted.counts
      have after : rows'.run.planOrEmpty = replanPlan middle.run.planOrEmpty contracts missing reason
          ((replanSteps middle.steps verifyStep.ordinal contracts).map (·.ordinal)) := by
        rw [kept.planOrEmpty, appended.planOrEmpty]
      rw [after, replanPlan_critic] at critic ⊢
      rw [Bool.toNat_true]
      cases why with
      | critic reason isCritic bound =>
        rw [if_pos isCritic]
        rw [after] at rounds
        omega
      | investigation recorded =>
        have more : (replanPlan middle.run.planOrEmpty contracts missing "knowledge_investigation"
            ((replanSteps middle.steps verifyStep.ordinal contracts).map
              (·.ordinal))).investigationRounds
            = middle.run.planOrEmpty.investigationRounds := rfl
        omega

lemma Drawn.bounded (charted : Charted rows) (drawn : Drawn settings rows contracts rows' flag)
    (moved : Moved (StepMove settles) rows.steps rows'.steps) (bounded : Bounded settings rows) :
    Bounded settings rows' := by
  have retries : ∀ step ∈ rows'.steps, step.retryCount ≤ if step.kind = .capability then 1 else 0 := by
    intro next mem
    rcases moved.origin mem with ⟨step, stepMember, move⟩ | fresh
    · refine move.retryCount_bound (bounded.retries step stepMember) ?_
      intro kind
      have planned := charted.planned_of_mem stepMember (by rw [kind]; decide)
      obtain ⟨capabilities, verify, reflect, respond, outlined⟩ := charted.outlined planned
      exact outlined.retries step.shape (outlined.capability_bounds stepMember kind).1
    · rw [fresh.retryCount]
      exact Nat.zero_le _
  have critic := bounded.critic
  have investigations := bounded.investigations
  cases drawn with
  | noted rows' noted =>
    exact ⟨retries, noted.counts.1 ▸ critic, noted.rounds_le investigations⟩
  | planned _ _ _ unplanned _ plan_eq | clarified _ unplanned plan_eq =>
    rw [Run.planOrEmpty, unplanned] at critic investigations
    refine ⟨retries, ?_, ?_⟩
    · rw [Run.planOrEmpty, plan_eq]
      exact critic
    rw [Run.planOrEmpty, plan_eq]
    exact investigations
  | retried rows' retry retried =>
    obtain ⟨criticSame, roundsSame⟩ := retried.counts
    exact ⟨retries, criticSame ▸ critic, roundsSame ▸ investigations⟩
  | appended middle replanned rows' missing reason verifyStep respondStep noted _ why appended
      kept =>
      have rounds := noted.rounds_le investigations
      have counts := noted.counts.1
      refine ⟨retries, ?_, ?_⟩
      · rw [kept.planOrEmpty, appended.planOrEmpty, replanPlan_critic]
        cases why with
        | critic reason isCritic bound =>
          rw [if_pos isCritic]
          exact bound
        | investigation recorded =>
          rw [if_neg (by decide), counts]
          exact critic
      · rw [kept.planOrEmpty, appended.planOrEmpty]
        exact rounds

structure Budgeted (settings : Settings) (world : World) : Prop where
  charted : Charted world.rows
  bounded : Bounded settings world.rows
  replans : world.replans ≤ spent world.rows

lemma Budgeted.step (budgeted : Budgeted settings world)
    (run : perform settings world timed = some world') : Budgeted settings world' := by
  obtain ⟨flag, drawn, replans⟩ := perform_drawn budgeted.charted run
  have moved := perform_moved budgeted.charted run
  have more := drawn.spent_lt moved
  have before := budgeted.replans
  exact ⟨perform_charted budgeted.charted run,
    drawn.bounded budgeted.charted moved budgeted.bounded, by omega⟩

lemma harness_budgeted (reached : Reachable (harness settings) world) : Budgeted settings world := by
  apply reached.holds
  · rintro start ⟨maxSteps, timeoutSeconds, createdBy, modelProfileId, now, rfl⟩
    refine ⟨Charted.unplanned rfl (Or.inl rfl), ⟨?_, Nat.zero_le _, Nat.zero_le _⟩, Nat.zero_le _⟩
    intro step mem
    cases mem
  · intro before timed after budgeted step
    exact budgeted.step step

/-! ## Waves

A wave that starts steps spends `step_count`, and a wave that skips steps leaves
fewer steps active.  Only a replan, or the outcome of an invocation, makes a step
active again, and an invocation was paid for when its step was started. -/

def activeCount (steps : List RunStep) : Nat :=
  steps.countP fun step => step.status ∈ activeStepStatuses

def World.jobCount (world : World) : Nat :=
  (world.executions.map (·.jobs.length)).sum

def rowsDemand (rows : RunRows) : Nat :=
  2 * (rows.run.maxSteps - rows.run.stepCount) + activeCount rows.steps

def World.demand (world : World) : Nat := rowsDemand world.rows + world.jobCount

/-- After the wave, `_execute_steps` makes another pass. -/
def Wave.loops : Wave → Bool
  | .again => true
  | .invoke _ => true
  | .stop => false
  | .done => false

/-- A pass of `_execute_steps` that is not its last, unless an invocation waits. -/
def loops (move : Move World Timed) : Bool :=
  match move.action.action with
  | .executeSteps _ =>
    match Harness.executeSteps (move.before.tick move.action.elapsed).now move.before.rows with
    | .ok (_, wave) => wave.loops
    | .error _ => false
  | _ => false

structure Eased (before after : RunRows) : Prop where
  maxSteps : after.run.maxSteps = before.run.maxSteps
  stepCount : before.run.stepCount ≤ after.run.stepCount
  active : activeCount after.steps ≤ activeCount before.steps

lemma Eased.refl (rows : RunRows) : Eased rows rows := ⟨rfl, Nat.le_refl _, Nat.le_refl _⟩

lemma Eased.trans {first second third : RunRows} (left : Eased first second)
    (right : Eased second third) : Eased first third :=
  ⟨right.maxSteps.trans left.maxSteps, Nat.le_trans left.stepCount right.stepCount,
    Nat.le_trans right.active left.active⟩

lemma Eased.demand_le {before after : RunRows} (eased : Eased before after) :
    rowsDemand after ≤ rowsDemand before := by
  have stepCount := eased.stepCount
  have active := eased.active
  unfold rowsDemand
  rw [eased.maxSteps]
  omega

variable {change : RunStep → RunStep} {answer : GatewayAnswer} {moved : World} {next : Execution}
  {job : Job}

lemma activeCount_map_le (steps : List RunStep)
    (calms : ∀ step ∈ steps, (change step).status ∈ activeStepStatuses →
      step.status ∈ activeStepStatuses) : activeCount (steps.map change) ≤ activeCount steps := by
  unfold activeCount
  rw [List.countP_map]
  apply List.countP_mono_left
  intro step mem active
  exact decide_eq_true (calms step mem (of_decide_eq_true active))

/-! ### Core steps -/

/-- A helper that makes no step active and counts no start back. -/
structure Calming (change : Run → RunStep → Run × RunStep) : Prop where
  core : CoreChange change
  stepCount : ∀ run step, run.stepCount ≤ (change run step).1.stepCount
  active : ∀ run step, (change run step).2.status ∈ activeStepStatuses →
    step.status ∈ activeStepStatuses

lemma startCoreStep_calming : Calming startCoreStep where
  core := startCoreStep_change
  stepCount := by
    intro run step
    unfold startCoreStep
    repeat' split
    all_goals simp
  active := by
    intro run step
    unfold startCoreStep
    split
    · exact id
    next uncompleted =>
    split
    · exact id
    next started =>
    intro _
    cases status : step.status <;> simp_all [activeStepStatuses]

lemma completeCoreStep_calming (outputRef : Option String) : Calming (completeCoreStep outputRef) where
  core := completeCoreStep_change outputRef
  stepCount := by
    intro run step
    unfold completeCoreStep
    repeat' split
    all_goals exact Nat.le_refl _
  active := by
    intro run step
    unfold completeCoreStep
    repeat' split
    all_goals simp_all [activeStepStatuses]

lemma Calming.eased {change : Run → RunStep → Run × RunStep} (calming : Calming change)
    (found : Option RunStep) (rows : RunRows) : Eased rows (onCoreStep found change rows) := by
  refine ⟨(calming.core.kept found rows).maxSteps, ?_, ?_⟩
  · cases found with
    | none => exact Nat.le_refl _
    | some object =>
      simp only [onCoreStep]
      split
      · exact Nat.le_refl _
      next step _ => exact calming.stepCount rows.run step
  · cases found with
    | none => exact Nat.le_refl _
    | some object =>
      apply activeCount_map_le
      intro step _ active
      split at active
      · exact calming.active rows.run step active
      exact active

lemma reopenCoreStep_count (found : Option RunStep) (rows : RunRows) :
    rows.run.stepCount ≤ (onCoreStep found reopenCoreStep rows).run.stepCount + 1 := by
  cases found with
  | none => exact Nat.le_succ _
  | some object =>
    simp only [onCoreStep]
    split
    · exact Nat.le_succ _
    unfold reopenCoreStep
    repeat' split
    all_goals simp
    all_goals omega

lemma completeReflectStep_eased (found : Option RunStep) (decision : Decision)
    (rows : RunRows) : Eased rows (completeReflectStep found decision rows) :=
  (startCoreStep_calming.eased found rows).trans
    ((completeCoreStep_calming _).eased found _)

lemma verifiedRows_eased (rows : RunRows) : Eased rows (verifiedRows rows) :=
  (startCoreStep_calming.eased _ rows).trans ((completeCoreStep_calming _).eased _ _)

lemma reviewed_eased (reviewed : Reviewed settings now review rows middle) : Eased rows middle := by
  have verified := verifiedRows_eased rows
  cases reviewed with
  | verified => exact verified
  | recorded asked =>
    have started := startCoreStep_calming.eased (lastOfKind .reflect rows.steps) (verifiedRows rows)
    exact verified.trans ⟨started.maxSteps, started.stepCount, started.active⟩

lemma publish_eased {reflectStep respondStep : Option RunStep} {decision : Decision}
    {answerArtifactId : String}
    (run : publish reflectStep respondStep decision answerArtifactId rows = .ok rows') :
    Eased rows rows' := by
  have responding := (completeReflectStep_eased reflectStep decision rows).trans
    (startCoreStep_calming.eased respondStep _)
  obtain ⟨_, rfl⟩ := publish_ok run
  refine responding.trans (Eased.trans ?_ ((completeCoreStep_calming _).eased respondStep _))
  exact ⟨rfl, Nat.le_refl _, Nat.le_refl _⟩

lemma cancelActiveRunSteps_active (steps : List RunStep) :
    activeCount (cancelActiveRunSteps steps) ≤ activeCount steps := by
  apply activeCount_map_le
  intro step _ active
  split at active
  · assumption
  exact active

lemma cancel_eased (rows : RunRows) : Eased rows (cancel rows) := by
  simp only [cancel]
  refine ⟨?_, ?_, ?_⟩
  · split <;> rfl
  · split <;> exact Nat.le_refl _
  · repeat' split
    all_goals first
      | exact cancelActiveRunSteps_active rows.steps
      | exact Nat.le_refl _

lemma updateStep_active {id : Nat} (nodup : (steps.map (·.id)).Nodup) :
    activeCount (updateStep id change steps) ≤ activeCount steps + 1 := by
  induction steps with
  | nil => exact Nat.zero_le _
  | cons step rest ih =>
    rw [List.map_cons, List.nodup_cons] at nodup
    by_cases eq : step.id = id
    · have absent : updateStep id change rest = rest := by
        apply updateStep_absent
        intro other mem otherSame
        apply nodup.1
        rw [eq, ← otherSame]
        exact List.mem_map_of_mem mem
      have unfolded : updateStep id change (step :: rest) = change step :: rest := by
        rw [updateStep, List.map_cons, if_pos eq, ← updateStep, absent]
      rw [unfolded]
      unfold activeCount
      rw [List.countP_cons, List.countP_cons]
      split <;> split <;> omega
    · have unfolded : updateStep id change (step :: rest)
          = step :: updateStep id change rest := by
        rw [updateStep, List.map_cons, if_neg eq, ← updateStep]
      have tail := ih nodup.2
      rw [unfolded]
      unfold activeCount at tail ⊢
      rw [List.countP_cons, List.countP_cons]
      omega

lemma settleStep_demand {stepId : Nat} (nodup : (rows.steps.map (·.id)).Nodup)
    (run : settleStep stepId answer rows = .ok rows') :
    rowsDemand rows' ≤ rowsDemand rows + 1 := by
  have active : ∀ change : RunStep → RunStep,
      activeCount (updateStep stepId change rows.steps) ≤ activeCount rows.steps + 1 :=
    fun _ => updateStep_active nodup
  cases settleStep_settled run with
  | kept => exact Nat.le_succ _
  | cancelled => exact Nat.le_succ_of_le (cancel_eased rows).demand_le
  | recorded | waiting => exact Nat.add_le_add_left (active _) _

lemma sum_set {sizes : List Nat} {old : Nat} (new : Nat) (found : sizes[index]? = some old) :
    (sizes.set index new).sum + old = sizes.sum + new := by
  induction sizes generalizing index with
  | nil => cases found
  | cons size rest ih =>
    cases index with
    | zero =>
      simp only [List.getElem?_cons_zero, Option.some.injEq] at found
      rw [List.set_cons_zero, List.sum_cons, List.sum_cons, found]
      omega
    | succ index =>
      rw [List.getElem?_cons_succ] at found
      have tail := ih found
      rw [List.set_cons_succ, List.sum_cons, List.sum_cons]
      omega

lemma jobCount_set (next : Execution) (eq : moved.executions = world.executions)
    (found : world.executions[index]? = some execution) :
    (moved.setExecution index next).jobCount + execution.jobs.length
      = world.jobCount + next.jobs.length := by
  have sizes : (world.executions.map (·.jobs.length))[index]? = some execution.jobs.length := by
    rw [List.getElem?_map, found]
    rfl
  simp only [World.jobCount, World.setExecution]
  rw [eq, List.map_set]
  exact sum_set next.jobs.length sizes

lemma Turned.jobs_length (turned : Turned execution next) :
    next.jobs.length ≤ execution.jobs.length := by
  cases turned with
  | moved next working waits later => exact Nat.le_refl _
  | answered jobIndex stepId answer found => simp [Execution.answered]
  | dropped | finished => exact List.length_eraseIdx_le _ _
  | crashed => exact Nat.zero_le _

lemma ExecutionsStep.jobCount (step : ExecutionsStep world action world'.executions)
    (other : ∀ index, action ≠ .executeSteps index) : world'.jobCount ≤ world.jobCount := by
  unfold World.jobCount
  generalize world'.executions = executions at step
  cases step with
  | same => exact Nat.le_refl _
  | claimed workerId rows run => simp
  | turned _ index execution next found turned =>
    have sizes : (world.executions.map (·.jobs.length))[index]?
        = some execution.jobs.length := by
      rw [List.getElem?_map, found]
      rfl
    have total := sum_set next.jobs.length sizes
    have fewer := turned.jobs_length
    rw [List.map_set]
    omega
  | started index execution found ready => exact absurd rfl (other index)

lemma jobCount_erased (eq : moved.executions = world.executions)
    (found : world.executions[index]? = some execution)
    (located : execution.jobs[jobIndex]? = some job)
    (erased : next.jobs = execution.jobs.eraseIdx jobIndex) :
    (moved.setExecution index next).jobCount + 1 = world.jobCount := by
  have present : jobIndex < execution.jobs.length := (List.getElem?_eq_some_iff.1 located).1
  have total := jobCount_set next eq found
  rw [erased, List.length_eraseIdx_of_lt present] at total
  omega

lemma settle_demand (charted : Charted world.rows)
    (found : world.executions[index]? = some execution)
    (located : execution.jobs[jobIndex]? = some job) :
    (world.settle index execution jobIndex job answer).demand ≤ world.demand := by
  have jobs : (world.settle index execution jobIndex job answer).jobCount + 1 = world.jobCount := by
    unfold World.settle
    split <;> exact jobCount_erased rfl found located rfl
  have rows : rowsDemand (world.settle index execution jobIndex job answer).rows
      ≤ rowsDemand world.rows + 1 := by
    unfold World.settle
    split
    · exact Nat.le_succ _
    next run => exact settleStep_demand charted.nodup.2 run
  unfold World.demand
  omega

/-- The most a replan gives back: the starts of the two core steps it reopens, and
every step it may have made active. -/
structure Reopened (rows rows' : RunRows) : Prop where
  maxSteps : rows'.run.maxSteps = rows.run.maxSteps
  stepCount : rows.run.stepCount ≤ rows'.run.stepCount + 2

lemma Reopened.demand_le (reopened : Reopened rows rows') :
    rowsDemand rows' ≤ rowsDemand rows + (rows'.steps.length + 4) := by
  have stepCount := reopened.stepCount
  have active : activeCount rows'.steps ≤ rows'.steps.length := List.countP_le_length
  unfold rowsDemand
  rw [reopened.maxSteps]
  omega

lemma Appended.counters
    (appended : Appended contracts missing reason rows rows' verifyStep respondStep) :
    rows'.run.maxSteps = rows.run.maxSteps ∧ rows'.run.stepCount = rows.run.stepCount := by
  rw [appended.run_eq]
  exact ⟨rfl, rfl⟩

lemma Retried.counters (retried : Retried settings rows rows' retry) :
    rows'.run.maxSteps = rows.run.maxSteps ∧ rows'.run.stepCount = rows.run.stepCount := by
  rw [retried.run_eq]
  exact ⟨rfl, rfl⟩

lemma Responded.reopened
    (responded : Responded settings now evidence review rows rows' (.returned true)) :
    Reopened rows rows' := by
  cases responded with
  | gap requested middle replanned reviewed grounded chosen uninvestigated run =>
    obtain ⟨_, _, verifyStep, respondStep, appended⟩ := applyGapReplan_appended run
    have eased := reviewed_eased reviewed
    have before := eased.stepCount
    obtain ⟨maxSteps, stepCount⟩ := appended.counters
    have reopen := reopenCoreStep_count (lastOfKind .verify rows.steps) replanned
    refine ⟨?_, by omega⟩
    rw [(reopenCoreStep_change.kept _ replanned).maxSteps, maxSteps, eased.maxSteps]
  | investigated requested contract replanned asked grounded access proposed run =>
    obtain ⟨verifyStep, respondStep, appended⟩ := appendCapabilityReplan_appended run
    have eased := reviewed_eased (Reviewed.recorded asked)
    have before := eased.stepCount
    obtain ⟨maxSteps, stepCount⟩ := appended.counters
    have completed := completeReflectStep_eased (lastOfKind .reflect rows.steps) .replan replanned
    have finished := completed.stepCount
    have reopenVerify := reopenCoreStep_count (lastOfKind .verify rows.steps)
      (completeReflectStep (lastOfKind .reflect rows.steps) .replan replanned)
    have reopenReflect := reopenCoreStep_count (lastOfKind .reflect rows.steps)
      (onCoreStep (lastOfKind .verify rows.steps) reopenCoreStep
        (completeReflectStep (lastOfKind .reflect rows.steps) .replan replanned))
    refine ⟨?_, by omega⟩
    rw [(reopenCoreStep_change.kept _ _).maxSteps, (reopenCoreStep_change.kept _ _).maxSteps,
      completed.maxSteps, maxSteps, eased.maxSteps]

lemma RowsStep.reopened (step : RowsStep settings world action rows' true) :
    Reopened world.rows rows' := by
  generalize flag_eq : true = flag at step
  cases step with
  | retried index rows' retry retried =>
    obtain ⟨maxSteps, stepCount⟩ := retried.counters
    exact ⟨maxSteps, by omega⟩
  | filled index question missing rows' run =>
    obtain ⟨_, _, verifyStep, respondStep, appended⟩ := applyGapReplan_appended run
    obtain ⟨maxSteps, stepCount⟩ := appended.counters
    exact ⟨maxSteps, by omega⟩
  | responded index review rows' response run =>
    have replanned : response = .returned true := of_decide_eq_true flag_eq.symm
    subst replanned
    exact (respond_responded run).reopened
  | _ => cases flag_eq

lemma Responded.eased {response : Response}
    (responded : Responded settings now evidence review rows rows' response)
    (unreplanned : response ≠ .returned true) : Eased rows rows' := by
  cases responded with
  | idle terminal => exact Eased.refl _
  | cancelled open_ requested => exact cancel_eased rows
  | published open_ middle after reviewed decision run =>
    exact (reviewed_eased reviewed).trans (publish_eased run)
  | gap | investigated => exact absurd rfl unreplanned

lemma Touched.eased (touched : Touched rows rows') : Eased rows rows' :=
  ⟨touched.maxSteps, touched.stepCount.ge, by rw [touched.steps]⟩

lemma cancelRun_eased (now : Time) (rows : RunRows) : Eased rows (cancelRun now rows) := by
  unfold cancelRun
  split
  · exact Eased.refl rows
  exact ⟨rfl, Nat.le_refl _, cancelActiveRunSteps_active rows.steps⟩

lemma Prepared.eased (prepared : Prepared rows rows') (planned : rows.run.plan.isSome = true) :
    Eased rows rows' := by
  cases prepared with
  | kept rows' idle =>
    rcases idle with rfl | rfl
    · exact Eased.refl rows'
    exact cancel_eased rows
  | asked _ _ _ unplanned | planned _ _ _ _ unplanned =>
    rw [unplanned] at planned
    cases planned

lemma RowsStep.eased (step : RowsStep settings world action rows' false)
    (planned : world.rows.run.plan.isSome = true) (unpassed : ∀ index, action ≠ .executeSteps index)
    (unsettled : ∀ index jobIndex, action ≠ .settle index jobIndex) : Eased world.rows rows' := by
  generalize flag_eq : false = flag at step
  cases step with
  | same => exact Eased.refl world.rows
  | claimed workerId claimed run => exact (claim_touched run).eased
  | prepared index preparation attachments rows' run => exact (prepare_prepared run).eased planned
  | passed index rows' wave run => exact absurd rfl (unpassed index)
  | settled index jobIndex => exact absurd rfl (unsettled index jobIndex)
  | retried | filled => cases flag_eq
  | responded index review rows' response run =>
    exact (respond_responded run).eased (of_decide_eq_false flag_eq.symm)
  | cancelled => exact cancel_eased world.rows
  | failed index code => exact (fail_touched code world.rows).eased
  | decided principal access approvalId approve approvals rows' run => exact (decide_touched run).eased
  | answered access clarificationId rows' run => exact (answer_touched run).eased
  | stopped => exact cancelRun_eased world.now world.rows
  | requested service => exact ⟨rfl, Nat.le_refl _, Nat.le_refl _⟩

lemma countP_lt_of_mem {Item : Type} {items : List Item} {item : Item}
    {before after : Item → Bool} (mem : item ∈ items) (held : before item = true)
    (lost : after item = false) (fewer : ∀ other ∈ items, after other = true → before other = true) :
    items.countP after < items.countP before := by
  obtain ⟨front, rest, rfl⟩ := List.append_of_mem mem
  have frontFewer : front.countP after ≤ front.countP before :=
    List.countP_mono_left fun other otherMember =>
      fewer other (List.mem_append_left _ otherMember)
  have restFewer : rest.countP after ≤ rest.countP before :=
    List.countP_mono_left fun other otherMember =>
      fewer other (List.mem_append_right _ (List.mem_cons_of_mem _ otherMember))
  rw [List.countP_append, List.countP_append, List.countP_cons_of_pos held,
    List.countP_cons_of_neg (by rw [lost]; exact Bool.false_ne_true)]
  omega

lemma skipBlocked_active (blocked : (nextWave steps).blocked ≠ []) :
    activeCount (skipBlocked ((nextWave steps).blocked.map (·.ordinal)) steps)
      < activeCount steps := by
  obtain ⟨step, stepBlocked⟩ := List.exists_mem_of_ne_nil _ blocked
  obtain ⟨mem, active, _⟩ := mem_blocked stepBlocked
  have skipped : step.ordinal ∈ (nextWave steps).blocked.map (·.ordinal) :=
    List.mem_map_of_mem stepBlocked
  unfold activeCount skipBlocked
  rw [List.countP_map]
  apply countP_lt_of_mem mem (decide_eq_true active)
  · simp only [Function.comp_apply, if_pos skipped]
    rfl
  · intro other _ otherActive
    simp only [Function.comp_apply, decide_eq_true_eq] at otherActive ⊢
    split at otherActive
    · simp [activeStepStatuses] at otherActive
    exact otherActive

lemma startSteps_active (nodup : (steps.map (·.id)).Nodup) :
    activeCount (startSteps ((nextWave steps).ready.map (·.id)) steps) ≤ activeCount steps := by
  apply activeCount_map_le
  intro step mem active
  split at active
  · next started =>
    obtain ⟨ready, readyMember, eq⟩ := List.mem_map.1 started
    obtain ⟨isStep, wasActive, _⟩ := mem_ready readyMember
    rw [eq_of_id nodup mem isStep eq.symm]
    exact wasActive
  · exact active

def Wave.invoked : Wave → Nat
  | .invoke stepIds => stepIds.length
  | _ => 0

lemma afterPass_jobs (execution : Execution) (wave : Wave) :
    (execution.afterPass wave).jobs.length = execution.jobs.length + wave.invoked := by
  cases wave with
  | invoke stepIds => simp [Execution.afterPass, Wave.invoked]
  | _ => rfl

lemma Passed.demand (passed : Passed now rows rows' wave) (nodup : (rows.steps.map (·.id)).Nodup) :
    rowsDemand rows' + wave.invoked + wave.loops.toNat ≤ rowsDemand rows := by
  cases passed with
  | stopped | done => exact Nat.le_refl _
  | cancelled open_ requested => exact (cancel_eased rows).demand_le
  | skipped open_ blocked =>
    have fewer := skipBlocked_active blocked
    simp only [rowsDemand, Wave.invoked, Wave.loops, Bool.toNat_true]
    omega
  | invoked open_ active ready budget =>
    have fewer := startSteps_active nodup
    have some_ready := List.length_pos_iff.2 ready
    simp only [rowsDemand, Wave.invoked, Wave.loops, Bool.toNat_true, List.length_map]
    omega

lemma executeSteps_demand (charted : Charted world.rows)
    (found : world.executions[index]? = some execution)
    (run : Harness.executeSteps world.now world.rows = .ok (rows, wave)) :
    (world.executeSteps index execution).demand + wave.loops.toNat ≤ world.demand := by
  have jobs : ({ world with rows }.setExecution index (execution.afterPass wave)).jobCount
      + execution.jobs.length = world.jobCount + (execution.afterPass wave).jobs.length :=
    jobCount_set _ rfl found
  rw [afterPass_jobs] at jobs
  have passed := (executeSteps_passed run).demand charted.nodup.2
  unfold World.executeSteps
  rw [run]
  simp only [World.demand, setExecution_rows]
  omega

lemma perform_demand (charted : Charted world.rows) (planned : world.rows.run.plan.isSome = true)
    (run : perform settings world timed = some world') :
    world'.demand + (loops ⟨world, timed, world'⟩).toNat
      ≤ world.demand + (world'.rows.steps.length + 4) * (world'.replans - world.replans) := by
  obtain ⟨elapsed, action⟩ := timed
  have ticked : Charted (world.tick elapsed).rows := charted
  have tickedPlanned : (world.tick elapsed).rows.run.plan.isSome = true := planned
  have sameDemand : (world.tick elapsed).demand = world.demand := rfl
  by_cases passes : ∃ index, action = .executeSteps index
  · obtain ⟨index, rfl⟩ := passes
    obtain ⟨execution, located, rfl⟩ := Option.map_eq_some_iff.1 run
    obtain ⟨found, _⟩ := executionIn_some located
    have bound : ((world.tick elapsed).executeSteps index execution).demand
        + (loops ⟨world, ⟨elapsed, .executeSteps index⟩,
          (world.tick elapsed).executeSteps index execution⟩).toNat
          ≤ (world.tick elapsed).demand := by
      simp only [loops]
      split
      · next rows wave passed => exact executeSteps_demand ticked found passed
      next error failed =>
      have jobs : ((world.tick elapsed).setExecution index
          { execution with phase := .failing error.code }).jobCount + execution.jobs.length
            = (world.tick elapsed).jobCount + execution.jobs.length :=
        jobCount_set _ rfl found
      have unfolded : (world.tick elapsed).executeSteps index execution
          = (world.tick elapsed).setExecution index
            { execution with phase := .failing error.code } := by
        have failed' : Harness.executeSteps (world.tick elapsed).now (world.tick elapsed).rows
            = .error error := failed
        unfold World.executeSteps
        rw [failed']
      rw [unfolded]
      simp only [World.demand, setExecution_rows, Bool.toNat_false]
      omega
    rw [← sameDemand]
    exact Nat.le_add_right_of_le bound
  · have unpassed : ∀ index, action ≠ .executeSteps index := by
      intro index eq
      exact passes ⟨index, eq⟩
    have still : loops ⟨world, ⟨elapsed, action⟩, world'⟩ = false := by
      cases action with
      | executeSteps index => exact absurd rfl (unpassed index)
      | _ => rfl
    rw [still, Bool.toNat_false]
    by_cases settles : ∃ index jobIndex, action = .settle index jobIndex
    · obtain ⟨index, jobIndex, rfl⟩ := settles
      have bound : world'.demand ≤ (world.tick elapsed).demand := by
        simp only [perform, act] at run
        split at run
        · cases run
        next execution found =>
        split at run
        · next stepId answer job =>
          cases run
          exact settle_demand ticked found job
        · cases run
      omega
    · have jobs : world'.jobCount ≤ world.jobCount := (act_executions run).jobCount unpassed
      obtain ⟨flag, step, replans⟩ := perform_rows run
      have rows : rowsDemand world'.rows
          ≤ rowsDemand world.rows + (world'.rows.steps.length + 4) * flag.toNat := by
        cases flag with
        | true =>
          have bound := step.reopened.demand_le
          rw [Bool.toNat_true, Nat.mul_one]
          exact bound
        | false =>
          have bound := (step.eased tickedPlanned unpassed fun index jobIndex eq =>
            settles ⟨index, jobIndex, eq⟩).demand_le
          exact Nat.le_add_right_of_le bound
      have drawn : world'.replans - world.replans = flag.toNat := by omega
      rw [drawn]
      unfold World.demand
      omega

def stepCeiling (rows : RunRows) : Nat := max rows.run.maxSteps rows.steps.length

lemma Noted.planned (noted : Noted settings rows middle) (planned : rows.run.plan.isSome = true) :
    middle.run.plan.isSome = true := by
  rcases noted.plan with eq | ⟨earlier, _, _, after⟩
  · rw [eq, planned]
  rw [after]
  rfl

lemma length_shiftCoreSteps (verifyStep respondStep : RunStep) (reflectStep : Option RunStep)
    (added : Nat) (newOrdinals : List Nat) (steps : List RunStep) :
    (shiftCoreSteps verifyStep respondStep reflectStep added newOrdinals steps).length
      = steps.length := by
  cases reflectStep with
  | none | some => simp [shiftCoreSteps, updateStep]

lemma Appended.length
    (appended : Appended contracts missing reason rows rows' verifyStep respondStep) :
    rows'.steps.length = rows.steps.length + contracts.length := by
  rw [appended.steps_eq, (orderByOrdinal_perm _).length_eq, List.length_append, length_shiftCoreSteps]
  simp [replanSteps]

lemma Drawn.ceiling (drawn : Drawn settings rows contracts rows' flag)
    (planned : rows.run.plan.isSome = true) :
    rows'.run.plan.isSome = true ∧ stepCeiling rows' ≤ stepCeiling rows := by
  unfold stepCeiling
  cases drawn with
  | noted rows' noted =>
    refine ⟨noted.planned planned, ?_⟩
    rw [noted.maxSteps, noted.length]
  | planned _ _ _ unplanned | clarified _ unplanned =>
    rw [unplanned] at planned
    cases planned
  | retried rows' retry retried =>
    refine ⟨by rw [retried.run_eq]; rfl, ?_⟩
    rw [retried.counters.1, retried.steps_eq, List.length_map]
  | appended middle replanned rows' missing reason verifyStep respondStep noted _ why appended
      kept =>
      refine ⟨?_, ?_⟩
      · rw [kept.plan, appended.run_eq]
        rfl
      have room := appended.room
      rw [kept.maxSteps, appended.counters.1, kept.length, appended.length, noted.maxSteps]
      rw [noted.maxSteps] at room
      omega

/-- The passes of a planned Run that looped were paid for by what was left at the start
and by the replans since. -/
lemma path_demand {final : World} {moves : List (Move World Timed)}
    (path : Path (harness settings) world moves final) (charted : Charted world.rows)
    (planned : world.rows.run.plan.isSome = true) :
    world.replans ≤ final.replans ∧ stepCeiling final.rows ≤ stepCeiling world.rows ∧
      (moves.filter loops).length + final.demand
        ≤ world.demand + (stepCeiling world.rows + 4) * (final.replans - world.replans) := by
  induction path with
  | nil state => exact ⟨Nat.le_refl _, Nat.le_refl _, by simp⟩
  | @cons before after final moves timed step rest ih =>
    obtain ⟨flag, drawn, replans⟩ := perform_drawn charted step
    obtain ⟨stillPlanned, ceiling⟩ := drawn.ceiling planned
    obtain ⟨later, lower, run⟩ := ih (perform_charted charted step) stillPlanned
    have first := perform_demand charted planned step
    have short : after.rows.steps.length ≤ stepCeiling before.rows :=
      Nat.le_trans (Nat.le_max_right _ _) ceiling
    refine ⟨by omega, Nat.le_trans lower ceiling, ?_⟩
    have spentFirst : (after.rows.steps.length + 4) * (after.replans - before.replans)
        ≤ (stepCeiling before.rows + 4) * (after.replans - before.replans) :=
      Nat.mul_le_mul_right _ (Nat.add_le_add_right short 4)
    have spentLater : (stepCeiling after.rows + 4) * (final.replans - after.replans)
        ≤ (stepCeiling before.rows + 4) * (final.replans - after.replans) :=
      Nat.mul_le_mul_right _ (Nat.add_le_add_right ceiling 4)
    have split : (stepCeiling before.rows + 4) * (final.replans - before.replans)
        = (stepCeiling before.rows + 4) * (after.replans - before.replans)
          + (stepCeiling before.rows + 4) * (final.replans - after.replans) := by
      rw [← Nat.mul_add]
      congr 1
      omega
    have counted : ((⟨before, timed, after⟩ :: moves).filter loops).length
        = (loops ⟨before, timed, after⟩).toNat + (moves.filter loops).length := by
      rw [List.filter_cons]
      cases loops ⟨before, timed, after⟩ with
      | true => simp [Nat.add_comm]
      | false => simp
    omega

lemma Sound.loops_planned (sound : Sound world) (looped : loops ⟨world, timed, world'⟩ = true) :
    world.rows.run.plan.isSome = true := by
  by_contra unplanned
  have inactive : ∀ step ∈ world.rows.steps,
      step.kind ≠ .capability ∧ step.status ∉ activeStepStatuses := by
    intro step mem
    by_cases early : step.kind ∈ [StepKind.observe, .understand]
    · have prelude : step.kind ∈ preludeKinds := by
        simp only [List.mem_cons, List.not_mem_nil, or_false, preludeKinds] at early ⊢
        tauto
      rw [sound.prelude step mem prelude]
      refine ⟨?_, by decide⟩
      intro capability
      rw [capability] at early
      revert early
      decide
    · exact absurd (sound.charted.planned_of_mem mem early) unplanned
  have ready : (nextWave world.rows.steps).ready = [] := by
    rw [List.eq_nil_iff_forall_not_mem]
    intro step mem
    obtain ⟨isStep, active, _⟩ := mem_ready mem
    exact (inactive step isStep).2 active
  have blocked : (nextWave world.rows.steps).blocked = [] := by
    rw [List.eq_nil_iff_forall_not_mem]
    intro step mem
    obtain ⟨isStep, active, _⟩ := mem_blocked mem
    exact (inactive step isStep).2 active
  obtain ⟨elapsed, action⟩ := timed
  simp only [loops] at looped
  split at looped
  · split at looped
    · next wave passed =>
      cases executeSteps_passed passed with
      | stopped | cancelled | done => cases looped
      | skipped open_ some_blocked => exact some_blocked blocked
      | invoked open_ active some_ready budget => exact some_ready ready
    · cases looped
  · cases looped

def World.passesLeft (settings : Settings) (world : World) : Nat :=
  world.demand + (stepCeiling world.rows + 4)
    * (stepCeiling world.rows + settings.runMaxCriticReplans
        + settings.runMaxKnowledgeInvestigationRounds)

lemma capabilityCount_le_ceiling (rows : RunRows) : capabilityCount rows.steps ≤ stepCeiling rows :=
  Nat.le_trans (List.length_filter_le _ _) (Nat.le_max_right _ _)

/-- In every run, crashes and overlapping executions included, the replans that
returned true are bounded by the capability steps and the two settings.  A pass of
`_execute_steps` loops in a planned Run only, and from any state of a planned Run only
a bounded number of passes ever loop: so every call comes to its last pass. -/
theorem harness_terminates {settings : Settings} {world final : World}
    {moves : List (Move World Timed)} (reached : Reachable (harness settings) world)
    (path : Path (harness settings) world moves final) :
    final.replans ≤ capabilityCount final.rows.steps + settings.runMaxCriticReplans
        + settings.runMaxKnowledgeInvestigationRounds ∧
      (∀ move ∈ moves, loops move = true → move.before.rows.run.plan.isSome = true) ∧
      (world.rows.run.plan.isSome = true →
        (moves.filter loops).length ≤ world.passesLeft settings) := by
  have finish := harness_budgeted (reached.extend path)
  have replans : final.replans ≤ capabilityCount final.rows.steps + settings.runMaxCriticReplans
      + settings.runMaxKnowledgeInvestigationRounds :=
    Nat.le_trans finish.replans finish.bounded.spent_le
  refine ⟨replans, ?_, ?_⟩
  · intro move member looped
    obtain ⟨earlier, later, rfl⟩ := List.append_of_mem member
    exact (harness_sound (reached.extend path.split_move.1)).loops_planned looped
  · intro planned
    obtain ⟨_, ceiling, run⟩ := path_demand path (harness_budgeted reached).charted planned
    have capabilities := capabilityCount_le_ceiling final.rows
    have some : final.replans - world.replans
        ≤ stepCeiling world.rows + settings.runMaxCriticReplans
          + settings.runMaxKnowledgeInvestigationRounds := by
      omega
    have product := Nat.mul_le_mul_left (stepCeiling world.rows + 4) some
    unfold World.passesLeft
    omega

/-- The second step fails, its skips pass one by one, and it is retried. -/
def retriedActions : List Action :=
  [.executeSteps 0, .gateway 0 0 ⟨none, 7, .refused "capability_failed"⟩, .settle 0 0,
   .executeSteps 0, .executeSteps 0, .executeSteps 0, .executeSteps 0, .replanTransient 0,
   .executeSteps 0]

theorem harness_terminates_retry : ∃ (world final : World) (moves : List (Move World Timed)),
      Path (harness sampleSettings) world moves final ∧ final.replans = 1 ∧
        (moves.filter loops).length = 5 ∧ 5 ≤ world.passesLeft sampleSettings := by
  obtain ⟨earlier, world, run, planned, moves, final, rerun, looped, replans⟩ :
      ∃ (earlier : List (Move World Timed)) (world : World),
        replay (perform sampleSettings) (created 50 600 sampleUser none 0)
          (sampleActions.map (Timed.mk 0)) = some (earlier, world) ∧
        world.rows.run.plan.isSome = true ∧
        ∃ (moves : List (Move World Timed)) (final : World),
          replay (perform sampleSettings) world (retriedActions.map (Timed.mk 0))
            = some (moves, final) ∧
          (moves.filter loops).length = 5 ∧ final.replans = 1 :=
    ⟨_, _, rfl, rfl, _, _, rfl, rfl, rfl⟩
  have reached : Reachable (harness sampleSettings) world :=
    (Path.of_replay run).reachable ⟨50, 600, sampleUser, none, 0, rfl⟩
  have path : Path (harness sampleSettings) world moves final := Path.of_replay rerun
  have bound := (harness_terminates reached path).2.2 planned
  rw [looped] at bound
  exact ⟨world, final, moves, path, replans, looped, bound⟩

end Obsion.Harness
