import Obsion.Automation.Changes

/-! # How executions end

In every state that is reached, an execution that has ended has no step left to start or
to review; unless a review was rejected none of its steps runs either, and its child Runs
are terminal or have their cancellation requested.  A completed execution has completed
steps only, while the converse waits for the next `_advance`: the approval of the last
review leaves a running execution whose steps are all completed. -/

namespace Obsion.Automation

open Obsion.Lib
open Obsion.Harness (isTerminal)

structure EndsConsistently (runs : Runs) (rows : ExecutionRows) : Prop where
  closed : rows.execution.status ∈ terminalExecutionStatuses →
    ∀ step ∈ rows.steps, step.status ≠ .pending ∧ step.status ≠ .waitingReview
  drained : rows.execution.status ∈ terminalExecutionStatuses →
    (∀ step ∈ rows.steps, step.reviewDecision ≠ some .reject) →
      ∀ step ∈ rows.steps, step.status ≠ .running ∧
        ∀ id, step.runId = some id → ∃ run ∈ runs, run.id = id ∧ SettledRun run
  completed : rows.execution.status = .completed → ∀ step ∈ rows.steps, step.status = .completed
  rejected : ∀ step ∈ rows.steps, step.reviewDecision = some .reject → rows.execution.status = .failed
  supported : ∀ step ∈ rows.steps, step.startedAt.isSome = true ∨ Begun step.status →
    Supported rows.steps step

/-- An `_advance` that returns completes its execution or ends it otherwise, where it
finds all of its steps completed. -/
def DecidesCompletion (config : Config) (move : Move World Action) : Prop :=
  ∀ token env task, move.action = .advance token env → move.before.tasks.get? token = some task →
    advance config move.before.now env task.executionId move.before.database = .ok move.after.database →
    ∀ rows ∈ move.after.database.executions, rows.id = task.executionId →
      (∀ step ∈ rows.steps, step.status = .completed) → rows.execution.status ∈ terminalExecutionStatuses

variable {rows : ExecutionRows} {runs : Runs} {id : Uuid}

lemma not_active_of_terminal (ended : rows.execution.status ∈ terminalExecutionStatuses) :
    ¬ rows.Active :=
  fun active => mem_active_iff_not_terminal.1 active ended

lemma settled_of_tracked {status : AutomationStepStatus} (tracked : Tracked runs status id)
    (idle : status ≠ .running) :
    ∃ run ∈ runs, run.id = id ∧ SettledRun run := by
  have ended : (∃ run ∈ runs, run.id = id ∧ isTerminal run.status = true) →
      ∃ run ∈ runs, run.id = id ∧ SettledRun run := by
    rintro ⟨run, mem, eq, terminal⟩
    exact ⟨run, mem, eq, Or.inl terminal⟩
  cases status with
  | pending | waitingReview => exact tracked.elim
  | running => exact absurd rfl idle
  | completed | failed => exact ended tracked
  | cancelled | skipped => exact tracked

lemma Kept.endsConsistently (kept : Kept runs rows) : EndsConsistently runs rows where
  closed ended := kept.closed (not_active_of_terminal ended)
  drained ended unrejected step mem := by
    have idle : step.status ≠ .running := by
      intro running
      obtain ⟨reviewed, reviewedIn, decision⟩ :=
        kept.drained (not_active_of_terminal ended) step mem running
      exact unrejected reviewed reviewedIn decision
    exact ⟨idle, fun id child => settled_of_tracked (kept.tracked step mem id child) idle⟩
  completed := kept.completed
  rejected := kept.rejected
  supported step mem started :=
    kept.supported step mem (started.elim (fun set => set) (kept.begun step mem))

lemma status_of_writeRows {executions : Executions} {other : ExecutionRows}
    (mem : other ∈ writeRows executions rows) (eq : other.id = rows.id) : other = rows := by
  obtain ⟨former, -, rfl⟩ := Table.mem_update.1 mem
  split at eq
  · next chosen => exact if_pos chosen
  next apart => exact absurd eq apart

lemma terminal_of_advance {config : Config} {now : Time} {env : AdvanceEnv}
    {database after : Database} (run : advance config now env id database = .ok after)
    (mem : rows ∈ after.executions) (keyed : rows.id = id)
    (all : ∀ step ∈ rows.steps, step.status = .completed) :
    rows.execution.status ∈ terminalExecutionStatuses := by
  cases advanced_of_advance run with
  | idle ended =>
    rw [← not_not (a := _ ∈ _), ← mem_active_iff_not_terminal]
    exact ended rows mem keyed
  | @failed former failing stored eq active which code message =>
    have named : failing.id = id := by rcases which with rfl | rfl <;> exact eq
    rw [status_of_writeRows mem (keyed.trans named.symm)]
    exact (show AutomationStatus.failed ∈ terminalExecutionStatuses by decide)
  | @concluded former stored eq active inTime steps runs started =>
    have written := status_of_writeRows mem (keyed.trans eq.symm)
    rw [written] at all ⊢
    rcases concludedStatus_cases steps with ⟨done, -⟩ | ⟨-, step, stepIn, open_⟩
    · change concludedStatus steps ∈ terminalExecutionStatuses
      rw [done]
      decide
    · exact absurd (all step stepIn) open_

theorem executions_end_consistently (config : Config) {start world : World}
    {moves : List (Move World Action)} (registered : Registered start)
    (path : Path (automation config) start moves world) :
    (∀ rows ∈ world.database.executions, EndsConsistently world.database.runs rows) ∧
      ∀ move ∈ moves, DecidesCompletion config move := by
  constructor
  · intro rows member
    have keeps : Keeps (fun _ => True) world :=
      keeps_of_path (fun _ _ _ _ _ _ => trivial) path ⟨sound_of_registered registered, trivial⟩
    exact (keeps.1 rows member).endsConsistently
  · intro move member token env task action held run rows rowsIn keyed all
    exact terminal_of_advance run rowsIn keyed all

/-! ## Ended executions -/

section
variable {config : Config} {now : Time} {before after : Database} {rows : ExecutionRows}

lemma Rewrite.ended (step : Rewrite before after) (ended : ¬ rows.Active)
    (stored : rows ∈ before.executions) : rows ∈ after.executions := by
  cases step with
  | runs later => exact stored
  | @rows former written runs formerIn active same later kept =>
    refine (mem_writeRows formerIn same.id).2 (.inr ⟨stored, fun eq => ended ?_⟩)
    rwa [before.executions.eq_of_key stored formerIn eq]

/-- A rewrite is of an active execution, and a new execution is added to the others. -/
lemma Change.ended (change : Change config now before after) (sound : Sound before) (ended : ¬ rows.Active)
    (stored : rows ∈ before.executions) : rows ∈ after.executions := by
  cases change with
  | rewrite step => exact step.ended ended stored
  | schedule => exact stored
  | @admitted _ workflow version request fresh labelled admission =>
    obtain ⟨-, executions, inserted, rfl⟩ := admitExecution_spec admission.admitted
    rw [Table.mem_iff, (Table.insert?_spec inserted).2]
    refine List.mem_append_left _ ?_
    clear inserted admission
    unfold clearExecutions
    split
    · generalize activeExecutions before workflow.id = active
      induction active generalizing before with
      | nil => exact stored
      | cons other rest ih =>
        have step := rewrite_cancelExecutionRows now sound other.id
        exact ih (step.sound sound) (step.ended ended stored)
    · exact stored

end

/-- Once an execution has ended, no move of any run changes it or its steps again. -/
theorem ended_execution_kept {config : Config} {world later : World} {moves : List (Move World Action)}
    {rows : ExecutionRows} (reached : Reachable (automation config) world)
    (path : Path (automation config) world moves later) (stored : rows ∈ world.database.executions)
    (ended : rows.execution.status ∈ terminalExecutionStatuses) : rows ∈ later.database.executions := by
  obtain ⟨start, earlier, registered, begun⟩ := reached
  have sound := keeps_of_path (fun _ _ _ _ _ _ => trivial) begun ⟨sound_of_registered registered, trivial⟩
  have keeps : Keeps (fun database => rows ∈ database.executions) later :=
    keeps_of_path (fun _ _ _ change sound => change.ended sound (not_active_of_terminal ended)) path ⟨sound.1, stored⟩
  exact keeps.2

/-! ## A sample workflow -/

def sampleId (digit : Fin 16) : Uuid := .repeating digit

lemma isLeast_next_multiple (after period : Int) (positive : 0 < period) :
    IsLeast {time | after < time ∧ time % period = 0} ((after / period + 1) * period) := by
  constructor
  · exact ⟨Int.lt_ediv_add_one_mul_self after positive, Int.mul_emod_left _ _⟩
  rintro time ⟨later, occurs⟩
  obtain ⟨count, rfl⟩ := Int.dvd_of_emod_eq_zero occurs
  rw [mul_comm period count] at later ⊢
  have below : after / period < count := Int.ediv_lt_of_lt_mul positive later
  exact Int.mul_le_mul_of_nonneg_right below positive.le

def everyMinute : Cron where
  occurs _ _ time := time % seconds 60 = 0
  nextCronOccurrence _ _ after := .ok ((after / seconds 60 + 1) * seconds 60)
  least := by
    intro expression timezone after occurrence found
    cases found
    exact isLeast_next_multiple after (seconds 60) (by decide)

def digitPair (count : Int) : String := toString (count / 10) ++ toString (count % 10)

def sampleIsoformat (time : Time) : String :=
  "1970-01-01T00:" ++ digitPair (time / seconds 60) ++ ":" ++
    digitPair (time % seconds 60 / seconds 1) ++ "+00:00"

def sampleConfig : Config where
  leaseSeconds := 30
  pollInterval := 500000
  cron := everyMinute
  isoformat := sampleIsoformat

def sampleCaller : Caller :=
  ⟨⟨sampleId 1, sampleId 0, ["automation.trigger", "automation.review"]⟩, fun _ => .ok ()⟩

def sampleSpec : WorkflowSpec where
  steps := [⟨"gate", "Gate", .humanReview, [], false⟩]
  nonempty := by decide
  unique := by decide
  known := by simp
  acyclic := ⟨fun _ => 0, by simp⟩

def sampleWorkflow : WorkflowDefinition where
  id := sampleId 2
  workspaceId := sampleId 3
  status := .active
  ownerId := sampleId 1
  activeVersion := some 1
  concurrencyPolicy := .forbid
  maxConcurrency := 1
  timeoutSeconds := 3600

def sampleVersion : WorkflowVersion := ⟨sampleId 4, sampleId 2, 1, sampleSpec, some 0⟩

def sampleSchedule : WorkflowSchedule where
  id := sampleId 5
  workspaceId := sampleId 3
  workflowId := sampleId 2
  workflowVersionId := sampleId 4
  cronExpression := "* * * * *"
  timezone := "UTC"
  misfirePolicy := .fireOnce
  misfireGraceSeconds := 300
  inputPayload := []
  enabled := true
  nextFireAt := 0
  lastFireAt := none
  lastErrorCode := none

def sampleStart : World where
  now := 0
  database :=
    { workflows := Table.empty.put sampleWorkflow, versions := Table.empty.put sampleVersion
      schedules := Table.empty.put sampleSchedule, executions := .empty, runs := .empty }
  tasks := .empty

def sampleEnv : AdvanceEnv where
  principal := .ok sampleCaller
  analysis _ := .ok (sampleId 9)
  notification _ := .ok ()

def sampleApproved : List Action :=
  [.trigger sampleCaller (sampleId 2) [] none .manual (sampleId 6) (sampleId 7),
    .claim (sampleId 8) "worker" (sampleId 7),
    .advance (sampleId 8) sampleEnv,
    .review sampleCaller (sampleId 7) "gate" ⟨.approve, "checked"⟩]

/-- A run without a rejected review, and what the theorem says of it. -/
theorem executions_end_consistently_sample : ∃ moves world,
    Path (automation sampleConfig) sampleStart moves world ∧ world.database.executions.rows ≠ [] ∧
      (∀ rows ∈ world.database.executions, EndsConsistently world.database.runs rows) ∧
        ∀ move ∈ moves, DecidesCompletion sampleConfig move := by
  obtain ⟨moves, world, replayed, present⟩ : ∃ moves world,
      replay (perform sampleConfig) sampleStart sampleApproved = some (moves, world) ∧
        world.database.executions.rows ≠ [] :=
    ⟨_, _, rfl, List.cons_ne_nil _ _⟩
  have path : Path (automation sampleConfig) sampleStart moves world := Path.of_replay replayed
  exact ⟨moves, world, path, present, executions_end_consistently sampleConfig ⟨rfl, rfl, rfl⟩ path⟩

/-- After the approval of its only step the execution is running. -/
theorem approved_not_completed : ∃ world rows, Reachable (automation sampleConfig) world ∧
    rows ∈ world.database.executions ∧ (∀ step ∈ rows.steps, step.status = .completed) ∧
      rows.execution.status ≠ .completed := by
  obtain ⟨moves, world, rows, replayed, stored, all, status⟩ : ∃ moves world rows,
      replay (perform sampleConfig) sampleStart sampleApproved = some (moves, world) ∧
        world.database.executions.rows = [rows] ∧
        (rows.steps.rows.all fun step => step.status = .completed) = true ∧
        rows.execution.status = .running :=
    ⟨_, _, _, rfl, rfl, rfl, rfl⟩
  refine ⟨world, rows, ⟨sampleStart, moves, ⟨rfl, rfl, rfl⟩, Path.of_replay replayed⟩, ?_, ?_, ?_⟩
  · rw [Table.mem_iff, stored]
    exact List.mem_cons_self
  · intro step member
    exact of_decide_eq_true (List.all_eq_true.1 all step member)
  · rw [status]
    decide

theorem ended_execution_kept_sample : ∃ moves world later rows,
    Path (automation sampleConfig) world moves later ∧ moves.length = 2 ∧ rows ∈ later.database.executions := by
  obtain ⟨earlier, world, rows, moves, later, first, second, stored, status, length⟩ : ∃ earlier world rows moves later,
      replay (perform sampleConfig) sampleStart
          [.trigger sampleCaller (sampleId 2) [] none .manual (sampleId 6) (sampleId 7),
            .cancel sampleCaller (sampleId 7)] = some (earlier, world) ∧
        replay (perform sampleConfig) world
          [.elapse 1, .trigger sampleCaller (sampleId 2) [] none .manual (sampleId 8) (sampleId 9)] = some (moves, later) ∧
        world.database.executions.rows = [rows] ∧ rows.execution.status = .cancelled ∧ moves.length = 2 :=
    ⟨_, _, _, _, _, rfl, rfl, rfl, rfl, rfl⟩
  have path : Path (automation sampleConfig) world moves later := Path.of_replay second
  refine ⟨moves, world, later, rows, path, length, ended_execution_kept
    ((Path.of_replay first).reachable ⟨rfl, rfl, rfl⟩) path ?_ (by rw [status]; decide)⟩
  rw [Table.mem_iff, stored]
  exact List.mem_cons_self

end Obsion.Automation
