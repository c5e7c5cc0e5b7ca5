import Obsion.Automation.Ends

/-! # Executions that no one tends

A worker claims an execution that is pending or running, and only the `_advance` of a
claimed execution compares its deadline with the clock.  An execution that waits for a
review is claimed by nobody until the review: while reviews are decided before the
deadline no execution is stuck, but a review that stays open past it keeps the execution
where it is. -/

namespace Obsion.Automation

open Obsion.Lib

/-- The query of `_claim_execution` selects the execution once its lease has expired. -/
def ClaimableOnExpiry (now : Time) (execution : AutomationExecution) : Prop :=
  ∀ later, now ≤ later → (∀ expiry, execution.leaseExpiresAt = some expiry → expiry < later) →
    claimable later execution = true

/-- Whoever may review the step can do so, and the review hands the execution back to the
workers or ends it. -/
structure Releases (database : Database) (rows : ExecutionRows)
    (step : AutomationStepExecution) : Prop where
  reviewable : ∀ now (caller : Caller) request, caller.principal.can "automation.review" = true →
    caller.access rows.execution.workspaceId = .ok () →
    ¬ (step.disallowSelfReview = true ∧ caller.principal.id = rows.execution.ownerId) →
    ∃ after, reviewStep now caller rows.id step.stepKey request database = .ok after
  released : ∀ now caller request after,
    reviewStep now caller rows.id step.stepKey request database = .ok after →
    ∀ next ∈ after.executions, next.id = rows.id →
      claimable now next.execution = true ∨ next.execution.status ∈ terminalExecutionStatuses

structure NotStuck (config : Config) (world : World) (rows : ExecutionRows) : Prop where
  tended : ClaimableOnExpiry world.now rows.execution ∨ (rows.execution.status = .waitingReview ∧
      ∃ step ∈ rows.steps, step.status = .waitingReview ∧ Releases world.database rows step)
  overdue : rows.execution.deadlineAt ≤ world.now → ClaimableOnExpiry world.now rows.execution
  timesOut : ∀ later env, rows.execution.deadlineAt ≤ later →
    advance config later env rows.id world.database =
      .ok (failExecution later "automation_timeout" "Workflow execution exceeded its deadline" rows
        world.database)

def elapsed : Action → Option Nat
  | .elapse duration => some duration
  | _ => none

/-- The clock does not reach the deadline of an execution that waits for a review. -/
def Timely (move : Move World Action) : Prop :=
  ∀ duration ∈ elapsed move.action, ∀ rows ∈ move.before.database.executions.rows,
    rows.execution.status = .waitingReview → move.before.now + duration < rows.execution.deadlineAt

instance (move : Move World Action) : Decidable (Timely move) :=
  inferInstanceAs (Decidable (∀ duration ∈ elapsed move.action, _))

/-! ## The invariant -/

structure Tended (now : Time) (rows : ExecutionRows) : Prop where
  uncancelled : rows.Active → rows.execution.cancellationRequestedAt = none
  waiting : rows.execution.status = .waitingReview → ∃ step ∈ rows.steps, step.status = .waitingReview
  inTime : rows.execution.status = .waitingReview → now < rows.execution.deadlineAt

def AllTended (now : Time) (database : Database) : Prop :=
  ∀ rows ∈ database.executions, Tended now rows

variable {rows : ExecutionRows} {now : Time} {database after : Database} {config : Config}

lemma active_of_waiting (waiting : rows.execution.status = .waitingReview) : rows.Active := by
  rw [ExecutionRows.Active, waiting]
  decide

lemma Tended.of_ended (now : Time) (ended : ¬ rows.Active) : Tended now rows where
  uncancelled active := absurd active ended
  waiting waiting := absurd (active_of_waiting waiting) ended
  inTime waiting := absurd (active_of_waiting waiting) ended

lemma Tended.of_apart (now : Time) (apart : rows.execution.status ≠ .waitingReview)
    (uncancelled : rows.execution.cancellationRequestedAt = none) : Tended now rows where
  uncancelled _ := uncancelled
  waiting waiting := absurd waiting apart
  inTime waiting := absurd waiting apart

lemma AllTended.writeRows (tended : AllTended now database) (written : Tended now rows)
    {runs : Runs} : AllTended now
      { database with executions := writeRows database.executions rows, runs := runs } := by
  intro other mem
  have within : other ∈ Automation.writeRows database.executions rows := mem
  obtain ⟨former, formerIn, rfl⟩ := Table.mem_update.1 within
  split
  · exact written
  exact tended former formerIn

lemma tended_failExecution (tended : AllTended now database) (code message : String)
    (rows : ExecutionRows) : AllTended now (failExecution now code message rows database) := by
  refine tended.writeRows (.of_ended now ?_)
  change AutomationStatus.failed ∉ activeExecutionStatuses
  decide

lemma tended_cancelExecutionRows (tended : AllTended now database) (id : Uuid) :
    AllTended now (cancelExecutionRows now database id) := by
  unfold cancelExecutionRows
  split
  · exact tended
  split
  · exact tended
  refine tended.writeRows (.of_ended now ?_)
  change AutomationStatus.cancelled ∉ activeExecutionStatuses
  decide

lemma tended_clearExecutions (workflow : WorkflowDefinition) (active : List ExecutionRows)
    (tended : AllTended now database) :
    AllTended now (clearExecutions now workflow active database) := by
  unfold clearExecutions
  split
  · induction active generalizing database with
    | nil => exact tended
    | cons rows rest ih => exact ih (tended_cancelExecutionRows tended rows.id)
  · exact tended

lemma tended_freshExecution (now : Time) (workflow : WorkflowDefinition)
    (version : WorkflowVersion) (request : TriggerRequest) (skip : Option String) :
    Tended now (freshExecution now workflow version request skip) := by
  refine .of_apart now ?_ rfl
  cases skip <;> exact nofun

lemma Admission.tended {workflow : WorkflowDefinition} {version : WorkflowVersion}
    {request : TriggerRequest} {before : Database} {fresh : ExecutionRows}
    (admission : Admission now workflow version request before after fresh)
    (tended : AllTended now before) : AllTended now after := by
  obtain ⟨rfl, executions, inserted, rfl⟩ := admitExecution_spec admission.admitted
  obtain ⟨-, rows⟩ := Table.insert?_spec inserted
  have cleared := tended_clearExecutions workflow (activeExecutions before workflow.id) tended
  intro other mem
  rw [Table.mem_iff, rows] at mem
  rcases List.mem_append.1 mem with stays | added
  · exact cleared other stays
  rw [List.mem_singleton.1 added]
  exact tended_freshExecution now workflow version request _

lemma tended_failAfterException (tended : AllTended now database) (code message : String)
    (id : Uuid) : AllTended now (failAfterException now code message id database) := by
  unfold failAfterException
  split
  · exact tended
  split
  · exact tended
  exact tended_failExecution tended code message _

lemma tended_claimRows {worker : String} (claim : claimable now rows.execution = true) :
    Tended now (claimRows config now worker rows) := by
  simp only [claimable, Bool.and_eq_true, Option.isNone_iff_eq_none] at claim
  exact .of_apart now (show AutomationStatus.running ≠ .waitingReview by decide) claim.1.2

lemma exists_waiting_of_concludedStatus {steps : Steps}
    (waiting : concludedStatus steps = .waitingReview) :
    ∃ step ∈ steps, step.status = .waitingReview := by
  unfold concludedStatus at waiting
  split at waiting
  · cases waiting
  split at waiting
  · next some_ =>
    obtain ⟨step, mem, status⟩ := List.any_eq_true.1 some_
    exact ⟨step, mem, of_decide_eq_true status⟩
  · cases waiting

lemma tended_advance {env : AdvanceEnv} {id : Uuid}
    (run : advance config now env id database = .ok after) (tended : AllTended now database) :
    AllTended now after := by
  cases advanced_of_advance run with
  | idle ended => exact tended
  | failed stored keyed active eq code message => exact tended_failExecution tended code message _
  | @concluded rows stored keyed active inTime steps runs started =>
    have uncancelled := (tended rows stored).uncancelled active
    have written : Tended now (concluded config now rows.execution steps) :=
      ⟨fun _ => uncancelled, exists_waiting_of_concludedStatus, fun _ => inTime⟩
    exact tended.writeRows written

lemma tended_reviewStep {caller : Caller} {id : Uuid} {stepKey : String} {request : ReviewRequest}
    (sound : Sound database) (run : reviewStep now caller id stepKey request database = .ok after)
    (tended : AllTended now database) : AllTended now after := by
  obtain ⟨rows, stored, -, step, stepIn, -, waiting, rfl⟩ := reviewStep_spec run
  have active := active_of_waitingReview (sound rows stored) stepIn waiting
  refine tended.writeRows ?_
  split
  · exact .of_apart now (show AutomationStatus.running ≠ .waitingReview by decide)
      ((tended rows stored).uncancelled active)
  exact .of_ended now (show AutomationStatus.failed ∉ activeExecutionStatuses by decide)

lemma Tended.elapse {later : Time} (tended : Tended now rows)
    (inTime : rows.execution.status = .waitingReview → later < rows.execution.deadlineAt) :
    Tended later rows :=
  { tended with inTime := inTime }

lemma tended_of_perform {world after : World} {action : Action} (sound : Sound world.database)
    (timely : Timely ⟨world, action, after⟩) (run : perform config world action = some after)
    (tended : AllTended world.now world.database) : AllTended after.now after.database := by
  cases action with
  | elapse duration =>
    cases run
    exact fun rows mem => (tended rows mem).elapse (timely duration rfl rows mem)
  | tick scheduleId owner executionId =>
    obtain ⟨schedule, -, run⟩ := Option.bind_eq_some_iff.1 run
    split at run
    · split at run
      · next performed =>
        cases run
        have holds : AllTended world.now _ :=
          tickSchedule_keeps (fun _ admission => admission.tended)
            (fun _ holds => holds) performed tended
        exact holds
      · cases run
        exact tended
    · cases run
  | trigger caller workflowId inputPayload idempotencyKey trigger newId executionId =>
    simp only [perform] at run
    split at run
    · cases run
    split at run
    · next performed =>
      cases run
      have holds : AllTended world.now _ :=
        triggerWorkflow_keeps (fun admission => admission.tended) performed tended
      exact holds
    · cases run
      exact tended
  | claim token worker executionId =>
    simp only [perform] at run
    split at run
    · cases run
    obtain ⟨rows, -, run⟩ := Option.bind_eq_some_iff.1 run
    split at run
    · next claim =>
      cases run
      exact tended.writeRows (tended_claimRows claim)
    · cases run
  | advance token env =>
    obtain ⟨task, -, run⟩ := Option.bind_eq_some_iff.1 run
    split at run
    · cases run
      split
      · next performed => exact tended_advance performed tended
      exact tended
    · cases run
  | abort token fault =>
    obtain ⟨task, -, run⟩ := Option.bind_eq_some_iff.1 run
    split at run
    · cases run
      exact tended
    cases run
  | fail token =>
    obtain ⟨task, -, run⟩ := Option.bind_eq_some_iff.1 run
    split at run
    · cases run
    cases run
    exact tended_failAfterException tended _ _ _
  | crash token =>
    obtain ⟨task, -, rfl⟩ := Option.map_eq_some_iff.1 run
    exact tended
  | review caller executionId stepKey request =>
    obtain ⟨database, performed, rfl⟩ := Option.map_eq_some_iff.1 run
    exact tended_reviewStep sound (ok_of_toOption performed) tended
  | cancel caller executionId =>
    obtain ⟨database, performed, rfl⟩ := Option.map_eq_some_iff.1 run
    rcases cancelExecution_spec (ok_of_toOption performed) with rfl | rfl
    · exact tended
    exact tended_cancelExecutionRows tended executionId
  | moveRun | requestRunCancellation =>
    cases run
    exact tended

lemma Tended.claimableOnExpiry (tended : Tended now rows) (active : rows.Active)
    (apart : rows.execution.status ≠ .waitingReview) : ClaimableOnExpiry now rows.execution := by
  intro later _ expired
  have status : rows.execution.status = .pending ∨ rows.execution.status = .running := by
    rw [ExecutionRows.Active] at active
    cases status : rows.execution.status <;> rw [status] at active apart
    case pending => exact .inl rfl
    case running => exact .inr rfl
    case waitingReview => exact absurd rfl apart
    all_goals exact absurd active (by decide)
  simp only [claimable, tended.uncancelled active, Bool.and_eq_true, Bool.or_eq_true,
    decide_eq_true_eq, Option.isNone_none, and_true]
  refine ⟨status, ?_⟩
  cases lease : rows.execution.leaseExpiresAt with
  | none => rfl
  | some expiry => exact decide_eq_true (expired expiry lease)

lemma releases_of_tended {step : AutomationStepExecution} (stored : rows ∈ database.executions)
    (tended : Tended now rows) (active : rows.Active) (stepIn : step ∈ rows.steps)
    (waiting : step.status = .waitingReview) : Releases database rows step := by
  constructor
  · intro now caller request permitted granted independent
    have found : database.executions.get? rows.id = some rows :=
      Table.get?_eq_some.2 ⟨stored, rfl⟩
    have stepFound : rows.steps.get? step.stepKey = some step :=
      Table.get?_eq_some.2 ⟨stepIn, rfl⟩
    simp only [reviewStep, require, permitted, found, stepFound, granted, waiting]
    exact ⟨_, if_neg independent⟩
  · intro now caller request after run next mem keyed
    obtain ⟨other, otherIn, eq, reviewed, reviewedIn, -, -, rfl⟩ := reviewStep_spec run
    cases Table.eq_of_key otherIn stored eq
    have uncancelled := tended.uncancelled active
    cases decision : request.decision with
    | approve =>
      simp only [decision] at mem
      rw [status_of_writeRows mem keyed]
      refine .inl ?_
      simp [claimable, approveRows, uncancelled]
    | reject =>
      simp only [decision] at mem
      rw [status_of_writeRows mem keyed]
      exact .inr (show AutomationStatus.failed ∈ terminalExecutionStatuses by decide)

lemma Tended.notStuck {world : World} (stored : rows ∈ world.database.executions)
    (active : rows.Active) (tended : Tended world.now rows) : NotStuck config world rows where
  tended := by
    by_cases waiting : rows.execution.status = .waitingReview
    · obtain ⟨step, stepIn, open_⟩ := tended.waiting waiting
      exact .inr ⟨waiting, step, stepIn, open_, releases_of_tended stored tended active stepIn open_⟩
    exact .inl (tended.claimableOnExpiry active waiting)
  overdue passed := by
    refine tended.claimableOnExpiry active fun waiting => ?_
    exact absurd passed (not_le.2 (tended.inTime waiting))
  timesOut later env passed := by
    have found : world.database.executions.get? rows.id = some rows := Table.get?_eq_some.2 ⟨stored, rfl⟩
    simp only [advance, found]
    rw [if_neg (mem_active_iff_not_terminal.1 active), if_pos passed]

theorem executions_not_stuck (config : Config) {start world : World}
    {moves : List (Move World Action)} (registered : Registered start)
    (path : Path (automation config) start moves world) (timely : ∀ move ∈ moves, Timely move) :
    ∀ rows ∈ world.database.executions, rows.Active → NotStuck config world rows := by
  have step : ∀ before action after, Sound before.database ∧ AllTended before.now before.database →
      (automation config).step before action after → Timely ⟨before, action, after⟩ →
      Sound after.database ∧ AllTended after.now after.database := by
    rintro before action after ⟨sound, tended⟩ performed allowed
    exact ⟨sound_of_perform sound performed, tended_of_perform sound allowed performed tended⟩
  have initially : AllTended start.now start.database := by
    intro rows member
    rw [registered.1] at member
    exact absurd member (Table.notMem_empty rows)
  obtain ⟨-, tended⟩ := path.preservedWhere step timely ⟨sound_of_registered registered, initially⟩
  exact fun rows stored active => (tended rows stored).notStuck stored active

def sampleWaiting (duration : Nat) : List Action :=
  [.trigger sampleCaller (sampleId 2) [] none .manual (sampleId 6) (sampleId 7),
    .claim (sampleId 8) "worker" (sampleId 7),
    .advance (sampleId 8) sampleEnv,
    .elapse duration]

/-- A review that is open for half an hour of the hour its execution has. -/
theorem executions_not_stuck_sample : ∃ moves world,
    Path (automation sampleConfig) sampleStart moves world ∧
      (∃ rows ∈ world.database.executions, rows.execution.status = .waitingReview) ∧
      ∀ rows ∈ world.database.executions, rows.Active → NotStuck sampleConfig world rows := by
  obtain ⟨moves, world, rows, replayed, stored, waiting, timely⟩ : ∃ moves world rows,
      replay (perform sampleConfig) sampleStart (sampleWaiting 1800000000) = some (moves, world) ∧
        world.database.executions.rows = [rows] ∧ rows.execution.status = .waitingReview ∧
        ∀ move ∈ moves, Timely move :=
    ⟨_, _, _, rfl, rfl, rfl, by decide⟩
  have path : Path (automation sampleConfig) sampleStart moves world := Path.of_replay replayed
  refine ⟨moves, world, path, ⟨rows, ?_, waiting⟩,
    executions_not_stuck sampleConfig ⟨rfl, rfl, rfl⟩ path timely⟩
  rw [Table.mem_iff, stored]
  exact List.mem_cons_self

/-- After the hour no worker will ever claim the execution. -/
theorem open_review_outlives_deadline : ∃ world rows, Reachable (automation sampleConfig) world ∧
    rows ∈ world.database.executions ∧ rows.Active ∧ rows.execution.deadlineAt ≤ world.now ∧
      (∀ later, claimable later rows.execution = false) ∧ ¬ NotStuck sampleConfig world rows := by
  obtain ⟨moves, world, rows, replayed, stored, waiting, passed⟩ : ∃ moves world rows,
      replay (perform sampleConfig) sampleStart (sampleWaiting 3600000000) = some (moves, world) ∧
        world.database.executions.rows = [rows] ∧ rows.execution.status = .waitingReview ∧
        rows.execution.deadlineAt ≤ world.now :=
    ⟨_, _, _, rfl, rfl, rfl, by decide⟩
  have member : rows ∈ world.database.executions := by
    rw [Table.mem_iff, stored]
    exact List.mem_cons_self
  have unclaimed : ∀ later, claimable later rows.execution = false := by
    intro later
    simp [claimable, waiting]
  refine ⟨world, rows, ⟨sampleStart, moves, ⟨rfl, rfl, rfl⟩, Path.of_replay replayed⟩, member,
    active_of_waiting waiting, passed, unclaimed, ?_⟩
  intro notStuck
  have claimed := notStuck.overdue passed (max world.now
    (rows.execution.leaseExpiresAt.elim 0 (· + 1))) (le_max_left _ _) (by
      intro expiry lease
      rw [lease, lt_max_iff]
      exact .inr (lt_add_one expiry))
  rw [unclaimed] at claimed
  cases claimed

end Obsion.Automation
