import Obsion.Automation.Steps

/-! # Claims, reviews and the steps `_advance` starts

The remaining writes to the rows of one execution keep `Kept`.  A step is started by the
loop of `_advance` only when the table of the loop has its dependencies completed, and
no write takes a completed step back. -/

namespace Obsion.Automation

open Obsion.Lib
open Obsion.Harness (isTerminal)

variable {runs : Runs} {rows : ExecutionRows} {now : Time} {step : AutomationStepExecution}
  {steps : Steps} {env : AdvanceEnv}

lemma kept_claimRows (config : Config) (now : Time) (worker : String) (active : rows.Active)
    (kept : Kept runs rows) : Kept runs (claimRows config now worker rows) :=
  Kept.of_active (show AutomationStatus.running ∈ activeExecutionStatuses by decide)
    kept.tracked kept.begun kept.supported fun _ mem => kept.unrejected active mem

lemma mem_freshSteps {skip : Option String} {spec : WorkflowSpec}
    (mem : step ∈ freshSteps now skip spec) :
    ∃ origin ordinal, step = freshStep now skip origin ordinal := by
  obtain ⟨entry, -, rfl⟩ := List.mem_map.1 mem
  exact ⟨entry.1, entry.2, rfl⟩

lemma kept_freshExecution (runs : Runs) (now : Time) (workflow : WorkflowDefinition)
    (version : WorkflowVersion) (request : TriggerRequest) (skip : Option String) :
    Kept runs (freshExecution now workflow version request skip) := by
  have shape : ∀ step ∈ (freshExecution now workflow version request skip).steps,
      step.runId = none ∧ step.startedAt = none ∧
        (step.status = if skip.isNone then .pending else .skipped) ∧ step.reviewDecision = none := by
    intro step mem
    obtain ⟨origin, ordinal, rfl⟩ := mem_freshSteps mem
    exact ⟨rfl, rfl, rfl, rfl⟩
  have unstarted : ∀ step ∈ (freshExecution now workflow version request skip).steps,
      ¬ Begun step.status := by
    intro step mem
    rw [(shape step mem).2.2.1]
    cases skip <;> rintro (eq | eq | eq) <;> cases eq
  constructor
  · intro step mem id child
    rw [(shape step mem).1] at child
    cases child
  · exact fun step mem started => absurd started (unstarted step mem)
  · intro step mem started
    rw [(shape step mem).2.1] at started
    cases started
  · intro ended step mem
    rw [(shape step mem).2.2.1]
    cases skip with
    | none => exact absurd (show AutomationStatus.pending ∈ activeExecutionStatuses by decide) ended
    | some code => exact ⟨nofun, nofun⟩
  · exact fun _ step mem running => absurd (Or.inl running) (unstarted step mem)
  · intro done
    cases skip <;> cases done
  · intro step mem decision
    rw [(shape step mem).2.2.2] at decision
    cases decision

lemma reconcileStep_cases (now : Time)
    (tracked : ∀ id, step.runId = some id → Tracked runs step.status id) :
    reconcileStep now runs step = step ∨
      step.status = .running ∧ (reconcileStep now runs step).runId = step.runId ∧
        (reconcileStep now runs step).startedAt = step.startedAt ∧
        (reconcileStep now runs step).dependsOn = step.dependsOn ∧
        (reconcileStep now runs step).reviewDecision = step.reviewDecision ∧
        ((reconcileStep now runs step).status = .completed ∨
          (reconcileStep now runs step).status = .failed) ∧
        ∀ id, step.runId = some id → ∃ run ∈ runs, run.id = id ∧ isTerminal run.status = true := by
  unfold reconcileStep
  split
  · next id running child =>
    have present := tracked id child
    rw [running] at present
    obtain ⟨held, heldIn, eq⟩ := present
    split
    · next absent => exact absurd eq (Table.get?_eq_none.1 absent held heldIn)
    next run found =>
    obtain ⟨mem, keyed⟩ := Table.get?_eq_some.1 found
    have ended : isTerminal run.status = true → ∀ other, step.runId = some other →
          ∃ run ∈ runs, run.id = other ∧ isTerminal run.status = true := by
      intro terminal other eq
      rw [child] at eq
      cases eq
      exact ⟨run, mem, keyed, terminal⟩
    split
    · next status =>
      exact .inr ⟨running, rfl, rfl, rfl, rfl, Or.inl rfl, ended (by rw [status]; decide)⟩
    · next status =>
      exact .inr ⟨running, rfl, rfl, rfl, rfl, Or.inr rfl, ended (by rw [status]; decide)⟩
    · next status =>
      exact .inr ⟨running, rfl, rfl, rfl, rfl, Or.inr rfl, ended (by rw [status]; decide)⟩
    · exact .inl rfl
  · exact .inl rfl

lemma mem_reconcileRows : step ∈ (reconcileRows now runs rows).steps ↔
      ∃ former ∈ rows.steps, reconcileStep now runs former = step :=
  List.mem_map

lemma kept_reconcileRows (now : Time) (active : rows.Active) (kept : Kept runs rows) :
    Kept runs (reconcileRows now runs rows) := by
  have supported : ∀ {step}, Supported rows.steps step →
      Supported (reconcileRows now runs rows).steps step := by
    intro step before key mem
    obtain ⟨dependency, dependencyIn, eq, completed⟩ := before key mem
    have unchanged : reconcileStep now runs dependency = dependency := ?_
    · exact ⟨dependency, mem_reconcileRows.2 ⟨dependency, dependencyIn, unchanged⟩, eq, completed⟩
    rcases reconcileStep_cases now (kept.tracked dependency dependencyIn) with
      unchanged | ⟨running, -⟩
    · exact unchanged
    rw [completed] at running
    cases running
  have changed : ∀ step ∈ (reconcileRows now runs rows).steps, ∃ former ∈ rows.steps,
      step = reconcileStep now runs former := by
    intro step mem
    obtain ⟨former, formerIn, eq⟩ := mem_reconcileRows.1 mem
    exact ⟨former, formerIn, eq.symm⟩
  refine Kept.of_active (show (reconcileRows now runs rows).Active from active) ?_ ?_ ?_ ?_
  · intro step mem id child
    obtain ⟨former, formerIn, rfl⟩ := changed step mem
    rcases reconcileStep_cases now (kept.tracked former formerIn) with
      unchanged | ⟨-, runId, -, -, -, status, ended⟩
    · rw [unchanged] at child ⊢
      exact kept.tracked former formerIn id child
    rw [runId] at child
    rcases status with status | status <;> rw [status] <;> exact ended id child
  · intro step mem started
    obtain ⟨former, formerIn, rfl⟩ := changed step mem
    rcases reconcileStep_cases now (kept.tracked former formerIn) with
      unchanged | ⟨running, -, startedAt, -⟩
    · rw [unchanged] at started ⊢
      exact kept.begun former formerIn started
    rw [startedAt]
    exact kept.begun former formerIn (Or.inl running)
  · intro step mem started
    obtain ⟨former, formerIn, rfl⟩ := changed step mem
    rcases reconcileStep_cases now (kept.tracked former formerIn) with
      unchanged | ⟨-, -, startedAt, dependsOn, -⟩
    · rw [unchanged] at started ⊢
      exact supported (kept.supported former formerIn started)
    rw [startedAt] at started
    have before := supported (kept.supported former formerIn started)
    intro key dependent
    exact before key (dependsOn ▸ dependent)
  · intro step mem
    obtain ⟨former, formerIn, rfl⟩ := changed step mem
    rcases reconcileStep_cases now (kept.tracked former formerIn) with
      unchanged | ⟨-, -, -, -, reviewDecision, -⟩
    · rw [unchanged]
      exact kept.unrejected active formerIn
    rw [reviewDecision]
    exact kept.unrejected active formerIn

variable {former : AutomationStepExecution} {afterSteps : Steps} {afterRuns : Runs}
  {execution : AutomationExecution}

lemma Supported.put {other : AutomationStepExecution} (formerIn : former ∈ steps)
    (eq : step.stepKey = former.stepKey) (incomplete : former.status ≠ .completed)
    (supported : Supported steps other) : Supported (steps.put step) other := by
  intro key mem
  obtain ⟨dependency, dependencyIn, keyed, completed⟩ := supported key mem
  refine ⟨dependency, Table.mem_put.2 (Or.inr ⟨dependencyIn, ?_⟩), keyed, completed⟩
  intro clash
  have equal := Table.eq_of_key dependencyIn formerIn (clash.trans eq)
  rw [equal] at completed
  exact incomplete completed

lemma Kept.move {after : Runs} (kept : Kept runs rows) (formerly : rows.Active)
    (later : Later runs after) (formerIn : former ∈ rows.steps) (eq : step.stepKey = former.stepKey)
    (incomplete : former.status ≠ .completed)
    (tracked : ∀ id, step.runId = some id → Tracked after step.status id)
    (startedAt : step.startedAt.isSome = true) (supported : Supported rows.steps step)
    (unrejected : step.reviewDecision ≠ some .reject) {moved : ExecutionRows}
    (active : moved.Active) (steps : moved.steps = rows.steps.put step) : Kept after moved := by
  have cases_ : ∀ other ∈ moved.steps, other = step ∨ other ∈ rows.steps := by
    intro other mem
    rw [steps] at mem
    rcases Table.mem_put.1 mem with equal | ⟨stays, -⟩
    · exact .inl equal
    exact .inr stays
  apply Kept.of_active active
  · intro other mem id child
    rcases cases_ other mem with rfl | stays
    · exact tracked id child
    exact (kept.tracked other stays id child).later later
  · intro other mem started
    rcases cases_ other mem with rfl | stays
    · exact startedAt
    exact kept.begun other stays started
  · intro other mem started
    rw [steps]
    rcases cases_ other mem with rfl | stays
    · exact supported.put formerIn eq incomplete
    exact (kept.supported other stays started).put formerIn eq incomplete
  · intro other mem
    rcases cases_ other mem with rfl | stays
    · exact unrejected
    exact kept.unrejected formerly stays

lemma supported_of_dependenciesCompleted (run : dependenciesCompleted steps step = .ok true) :
    Supported steps step := by
  unfold dependenciesCompleted at run
  split at run
  · injection run with all
    intro key mem
    obtain ⟨dependency, found, completed⟩ :=
      (Option.any_eq_true _ _).1 (List.all_eq_true.1 all key mem)
    obtain ⟨stored, keyed⟩ := Table.get?_eq_some.1 found
    exact ⟨dependency, stored, keyed, of_decide_eq_true completed⟩
  · cases run

lemma startStep_spec (run : startStep now env step steps runs = .ok (afterSteps, afterRuns))
    (unassigned : step.runId = none) : Later runs afterRuns ∧ ∃ started : AutomationStepExecution,
      afterSteps = steps.put started ∧ started.stepKey = step.stepKey ∧
        started.dependsOn = step.dependsOn ∧ started.startedAt.isSome = true ∧
        started.reviewDecision = step.reviewDecision ∧
        ∀ id, started.runId = some id → Tracked afterRuns started.status id := by
  unfold startStep at run
  split at run
  · obtain ⟨id, -, run⟩ := of_bind_ok run
    split at run
    · cases run
    next inserted =>
    injection run with eq
    obtain ⟨rfl, rfl⟩ := Prod.mk.inj eq
    refine ⟨later_insert inserted, _, rfl, rfl, rfl, rfl, rfl, ?_⟩
    intro other child
    injection child with child
    subst child
    obtain ⟨-, rows⟩ := Table.insert?_spec inserted
    refine ⟨{ id := id, status := .pending }, ?_, rfl⟩
    rw [Table.mem_iff, rows]
    exact List.mem_append_right _ List.mem_cons_self
  · obtain ⟨delivered, -, run⟩ := of_bind_ok run
    injection run with eq
    obtain ⟨rfl, rfl⟩ := Prod.mk.inj eq
    refine ⟨.refl runs, _, rfl, rfl, rfl, rfl, rfl, ?_⟩
    intro other child
    rw [unassigned] at child
    cases child
  · injection run with eq
    obtain ⟨rfl, rfl⟩ := Prod.mk.inj eq
    refine ⟨.refl runs, _, rfl, rfl, rfl, rfl, rfl, ?_⟩
    intro other child
    rw [unassigned] at child
    cases child

/-- The loop of `_advance`.  The rows still to be visited are the stored ones. -/
lemma startSteps_kept (active : execution.status ∈ activeExecutionStatuses)
    {rest : List AutomationStepExecution}
    (distinct : (rest.map AutomationStepExecution.stepKey).Nodup)
    (stored : ∀ step ∈ rest, step ∈ steps) (kept : Kept runs ⟨execution, steps⟩)
    (run : startSteps now env rest steps runs = .ok (afterSteps, afterRuns)) :
    Later runs afterRuns ∧ Kept afterRuns ⟨execution, afterSteps⟩ := by
  induction rest generalizing steps runs with
  | nil =>
    injection run with eq
    obtain ⟨rfl, rfl⟩ := Prod.mk.inj eq
    exact ⟨.refl runs, kept⟩
  | cons step rest ih =>
    obtain ⟨apart, distinct⟩ := List.nodup_cons.1 distinct
    have restStored : ∀ other ∈ rest, other ∈ steps :=
      fun other mem => stored other (List.mem_cons_of_mem _ mem)
    have stepIn := stored step List.mem_cons_self
    rw [startSteps] at run
    split at run
    · exact ih distinct restStored kept run
    next pending =>
    rw [not_not] at pending
    obtain ⟨ready, checked, run⟩ := of_bind_ok run
    cases ready with
    | false => exact ih distinct restStored kept run
    | true =>
      obtain ⟨⟨middleSteps, middleRuns⟩, performed, run⟩ := of_bind_ok run
      have unassigned : step.runId = none := by
        cases child : step.runId with
        | none => rfl
        | some id =>
          have impossible := kept.tracked step stepIn id child
          rw [pending] at impossible
          exact impossible.elim
      obtain ⟨later, started, rfl, keyed, dependsOn, startedAt, decision, tracked⟩ :=
        startStep_spec performed unassigned
      have supported : Supported steps started := by
        have before := supported_of_dependenciesCompleted checked
        intro key mem
        exact before key (dependsOn ▸ mem)
      have moved : Kept middleRuns ⟨execution, steps.put started⟩ :=
        kept.move active later stepIn keyed (by rw [pending]; decide) tracked startedAt
          supported (decision ▸ kept.unrejected active stepIn) active rfl
      have stays : ∀ other ∈ rest, other ∈ steps.put started := by
        intro other mem
        refine Table.mem_put.2 (Or.inr ⟨restStored other mem, ?_⟩)
        intro clash
        exact apart (keyed ▸ clash ▸ List.mem_map_of_mem mem)
      obtain ⟨more, final⟩ := ih distinct stays moved run
      exact ⟨later.trans more, final⟩

lemma concludedStatus_cases (steps : Steps) :
    (concludedStatus steps = .completed ∧ ∀ step ∈ steps, step.status = .completed) ∨
      (concludedStatus steps ∈ activeExecutionStatuses ∧ ∃ step ∈ steps, step.status ≠ .completed) := by
  unfold concludedStatus
  split
  · next all =>
    refine .inl ⟨rfl, fun step mem => ?_⟩
    exact of_decide_eq_true (List.all_eq_true.1 all step mem)
  · next open_ =>
    have missing : ∃ step ∈ steps, step.status ≠ .completed := by
      by_contra none_
      refine open_ (List.all_eq_true.2 fun step mem => decide_eq_true ?_)
      by_contra incomplete
      exact none_ ⟨step, mem, incomplete⟩
    split
    · exact .inr ⟨by decide, missing⟩
    exact .inr ⟨by decide, missing⟩

lemma kept_concluded (config : Config) (now : Time)
    (formerly : execution.status ∈ activeExecutionStatuses) (kept : Kept runs ⟨execution, steps⟩) :
    Kept runs (concluded config now execution steps) := by
  have unrejected : ∀ step ∈ steps, step.reviewDecision ≠ some .reject :=
    fun step mem => kept.unrejected formerly mem
  rcases concludedStatus_cases steps with ⟨-, all⟩ | ⟨active, -⟩
  · refine ⟨kept.tracked, kept.begun, kept.supported, ?_, ?_, fun _ => all,
      fun step mem decision => absurd decision (unrejected step mem)⟩
    · intro _ step mem
      rw [all step mem]
      decide
    · intro _ step mem running
      rw [all step mem] at running
      cases running
  · exact Kept.of_active active kept.tracked kept.begun kept.supported unrejected

inductive Advanced (config : Config) (now : Time) (env : AdvanceEnv) (id : Uuid)
    (database : Database) : Database → Prop
  | idle (ended : ∀ rows ∈ database.executions, rows.id = id → ¬ rows.Active) :
      Advanced config now env id database database
  | failed {rows failing : ExecutionRows} (stored : rows ∈ database.executions)
      (keyed : rows.id = id) (active : rows.Active)
      (same : failing = rows ∨ failing = reconcileRows now database.runs rows)
      (code message : String) :
      Advanced config now env id database (failExecution now code message failing database)
  | concluded {rows : ExecutionRows} (stored : rows ∈ database.executions) (keyed : rows.id = id)
      (active : rows.Active) (inTime : now < rows.execution.deadlineAt) {steps : Steps} {runs : Runs}
      (started : startSteps now env (reconcileRows now database.runs rows).steps.rows
        (reconcileRows now database.runs rows).steps database.runs = .ok (steps, runs)) :
      Advanced config now env id database
        { database with
          executions := writeRows database.executions (concluded config now rows.execution steps)
          runs := runs }

lemma advanced_of_advance {config : Config} {id : Uuid} {database after : Database}
    (run : advance config now env id database = .ok after) :
    Advanced config now env id database after := by
  unfold advance at run
  split at run
  · next absent =>
    cases run
    exact .idle fun rows mem keyed => absurd keyed (Table.get?_eq_none.1 absent rows mem)
  · next rows found =>
    obtain ⟨stored, keyed⟩ := Table.get?_eq_some.1 found
    split at run
    · next ended =>
      cases run
      refine .idle fun other mem eq active => ?_
      rw [Table.eq_of_key mem stored (eq.trans keyed.symm)] at active
      exact mem_active_iff_not_terminal.1 active ended
    · next open_ =>
      have active : rows.Active := mem_active_iff_not_terminal.2 open_
      split at run
      · cases run
        exact .failed stored keyed active (Or.inl rfl) _ _
      next early =>
      obtain ⟨owner, -, run⟩ := of_bind_ok run
      split at run
      · cases run
        exact .failed stored keyed active (Or.inl rfl) _ _
      obtain ⟨granted, -, run⟩ := of_bind_ok run
      split at run
      · cases run
        exact .failed stored keyed active (Or.inl rfl) _ _
      unfold advanceSteps at run
      split at run
      · cases run
        exact .failed stored keyed active (Or.inr rfl) _ _
      obtain ⟨started, performed, run⟩ := of_bind_ok run
      cases run
      exact .concluded stored keyed active (not_le.1 early) performed

lemma active_of_waitingReview (kept : Kept runs rows) (mem : step ∈ rows.steps)
    (waiting : step.status = .waitingReview) : rows.Active := by
  by_contra ended
  exact (kept.closed ended step mem).2 waiting

lemma runId_of_waitingReview (kept : Kept runs rows) (mem : step ∈ rows.steps)
    (waiting : step.status = .waitingReview) : step.runId = none := by
  cases child : step.runId with
  | none => rfl
  | some id =>
    have impossible := kept.tracked step mem id child
    rw [waiting] at impossible
    exact impossible.elim

lemma kept_approveRows (now : Time) (principal : Principal) (request : ReviewRequest)
    (approved : request.decision = .approve) (kept : Kept runs rows) (mem : step ∈ rows.steps)
    (waiting : step.status = .waitingReview) :
    Kept runs (approveRows now principal request step rows) := by
  have started := kept.begun step mem (Or.inr (Or.inl waiting))
  let after : AutomationStepExecution :=
    { decided now principal request step with status := .completed }
  have unassigned : ∀ id, after.runId = some id → Tracked runs after.status id := by
    intro id child
    exact nomatch (runId_of_waitingReview kept mem waiting).symm.trans child
  have supported : Supported rows.steps after := kept.supported step mem started
  have active : (approveRows now principal request step rows).Active :=
    show AutomationStatus.running ∈ activeExecutionStatuses by decide
  have incomplete : step.status ≠ .completed := by
    rw [waiting]
    decide
  have unrejected : after.reviewDecision ≠ some .reject := by
    change some request.decision ≠ some .reject
    rw [approved]
    decide
  exact kept.move (active_of_waitingReview kept mem waiting) (.refl runs) mem
    (show after.stepKey = step.stepKey from rfl) incomplete unassigned started supported unrejected
    active rfl

lemma mem_cancelPendingSteps {errorCode : String} {stored session : Steps}
    {after : AutomationStepExecution} :
    after ∈ cancelPendingSteps now errorCode stored session ↔ ∃ step ∈ session,
      (if (stored.get? step.stepKey).any fun row =>
          row.status = .pending || row.status = .waitingReview then
        { step with status := .skipped, completedAt := some now, errorCode := some errorCode }
      else step) = after :=
  List.mem_map

/-- The rows of a rejected execution: a step that waited or was pending is skipped,
whatever the session had made of it. -/
lemma mem_rejectRows (now : Time) (principal : Principal) (request : ReviewRequest)
    (mem : step ∈ rows.steps) (waiting : step.status = .waitingReview)
    (after : AutomationStepExecution)
    (afterIn : after ∈ (rejectRows now principal request step rows).steps) :
    (after ∈ rows.steps ∧ after.status ≠ .pending ∧ after.status ≠ .waitingReview) ∨
      ∃ former ∈ rows.steps, (former.status = .pending ∨ former.status = .waitingReview) ∧
        after.status = .skipped ∧ after.runId = former.runId ∧
        after.dependsOn = former.dependsOn ∧ after.startedAt = former.startedAt := by
  obtain ⟨session, sessionIn, rfl⟩ := mem_cancelPendingSteps.1 afterIn
  rcases Table.mem_put.1 sessionIn with rfl | ⟨stored, apart⟩
  · refine .inr ⟨step, mem, Or.inr waiting, ?_⟩
    have found : rows.steps.get? step.stepKey = some step := Table.get?_eq_some.2 ⟨mem, rfl⟩
    simp [decided, found, waiting]
  · have found : rows.steps.get? session.stepKey = some session :=
      Table.get?_eq_some.2 ⟨stored, rfl⟩
    by_cases swept : session.status = .pending ∨ session.status = .waitingReview
    · refine .inr ⟨session, stored, swept, ?_⟩
      simp [found, swept]
    rw [not_or] at swept
    refine .inl ?_
    simp [found, swept, stored]

lemma kept_rejectRows (now : Time) (principal : Principal) (request : ReviewRequest)
    (rejected : request.decision = .reject) (kept : Kept runs rows) (mem : step ∈ rows.steps)
    (waiting : step.status = .waitingReview) :
    Kept runs (rejectRows now principal request step rows) := by
  have cases_ := fun after afterIn =>
    mem_rejectRows now principal request mem waiting after afterIn
  have supported : ∀ {other}, Supported rows.steps other →
      Supported (rejectRows now principal request step rows).steps other := by
    intro other before key dependent
    obtain ⟨dependency, dependencyIn, keyed, completed⟩ := before key dependent
    have apart : dependency.stepKey ≠ step.stepKey := by
      intro clash
      have equal := Table.eq_of_key dependencyIn mem clash
      rw [equal, waiting] at completed
      cases completed
    have found : rows.steps.get? dependency.stepKey = some dependency :=
      Table.get?_eq_some.2 ⟨dependencyIn, rfl⟩
    refine ⟨dependency, mem_cancelPendingSteps.2 ⟨dependency, ?_, ?_⟩, keyed, completed⟩
    · exact Table.mem_put.2 (Or.inr ⟨dependencyIn, apart⟩)
    simp [found, completed]
  have reviewed : ∃ reviewed ∈ (rejectRows now principal request step rows).steps,
      reviewed.reviewDecision = some .reject := by
    refine ⟨_, mem_cancelPendingSteps.2 ⟨_, Table.mem_put_self, rfl⟩, ?_⟩
    split <;> exact congrArg some rejected
  constructor
  · intro after afterIn id child
    rcases cases_ after afterIn with ⟨stays, -⟩ | ⟨former, formerIn, swept, -, runId, -⟩
    · exact kept.tracked after stays id child
    rw [runId] at child
    have impossible := kept.tracked former formerIn id child
    rcases swept with eq | eq <;> rw [eq] at impossible <;> exact impossible.elim
  · intro after afterIn started
    rcases cases_ after afterIn with ⟨stays, -⟩ | ⟨former, -, -, skipped, -⟩
    · exact kept.begun after stays started
    rw [skipped] at started
    rcases started with eq | eq | eq <;> cases eq
  · intro after afterIn started
    rcases cases_ after afterIn with
      ⟨stays, -⟩ | ⟨former, formerIn, -, -, -, dependsOn, startedAt⟩
    · exact supported (kept.supported after stays started)
    rw [startedAt] at started
    have before := supported (kept.supported former formerIn started)
    intro key dependent
    exact before key (dependsOn ▸ dependent)
  · intro _ after afterIn
    rcases cases_ after afterIn with ⟨-, notPending, notWaiting⟩ | ⟨former, -, -, skipped, -⟩
    · exact ⟨notPending, notWaiting⟩
    rw [skipped]
    decide
  · exact fun _ _ _ _ => reviewed
  · intro done
    cases done
  · exact fun _ _ _ => rfl

end Obsion.Automation
