import Obsion.Automation.Advances
import Obsion.Automation.Machine

/-! # What a transaction does to the database

A transaction is a sequence of changes of three kinds: the rows of one active execution
are rewritten, an execution is admitted, or a schedule is written.  `perform_changes`
says so of every action, and invariants are proved for each kind of change. -/

namespace Obsion.Automation

open Obsion.Lib
open Obsion.Harness (isTerminal allowedRunTransitions)

def Sound (database : Database) : Prop :=
  ∀ rows ∈ database.executions, Kept database.runs rows

/-- The columns of an execution that no write changes. -/
structure SameOrigin (before after : ExecutionRows) : Prop where
  id : after.id = before.id
  workflowId : after.execution.workflowId = before.execution.workflowId
  scheduleId : after.execution.scheduleId = before.execution.scheduleId
  scheduledFor : after.execution.scheduledFor = before.execution.scheduledFor
  idempotencyKey : after.execution.idempotencyKey = before.execution.idempotencyKey

lemma SameOrigin.refl (rows : ExecutionRows) : SameOrigin rows rows := ⟨rfl, rfl, rfl, rfl, rfl⟩

/-- The rows of one active execution are written, or only Run rows are. -/
inductive Rewrite (database : Database) : Database → Prop
  | runs {runs : Runs} (later : Later database.runs runs) :
      Rewrite database { database with runs := runs }
  | rows {former rows : ExecutionRows} {runs : Runs} (stored : former ∈ database.executions)
      (active : former.Active) (same : SameOrigin former rows) (later : Later database.runs runs)
      (kept : Kept runs rows) :
      Rewrite database
        { database with executions := writeRows database.executions rows, runs := runs }

lemma Rewrite.refl (database : Database) : Rewrite database database :=
  Rewrite.runs (.refl database.runs)

variable {rows : ExecutionRows} {database before after : Database} {id : Uuid} {caller : Caller}
  {request : TriggerRequest} {world : World}

variable {former fresh : ExecutionRows} {stepKey : String} {workflowId : Uuid} {action : Action}
  {workflow : WorkflowDefinition} {version : WorkflowVersion}

lemma mem_writeRows {executions : Executions} {other : ExecutionRows} (stored : former ∈ executions)
    (eq : rows.id = former.id) : other ∈ writeRows executions rows ↔
      other = rows ∨ (other ∈ executions ∧ other.id ≠ former.id) := by
  rw [writeRows, Table.mem_update]
  constructor
  · rintro ⟨origin, mem, rfl⟩
    split
    · exact .inl rfl
    next apart => exact .inr ⟨mem, eq ▸ apart⟩
  · rintro (rfl | ⟨mem, apart⟩)
    · exact ⟨former, stored, if_pos eq.symm⟩
    · exact ⟨other, mem, if_neg (eq ▸ apart)⟩

lemma Sound.later (sound : Sound database) {runs : Runs} (later : Later database.runs runs) :
    Sound { database with runs := runs } :=
  fun rows mem => (sound rows mem).later later

lemma Rewrite.sound (step : Rewrite before after) (sound : Sound before) : Sound after := by
  cases step with
  | runs later => exact sound.later later
  | rows stored active eq later kept =>
    intro rows mem
    rcases (mem_writeRows stored eq.id).1 mem with rfl | ⟨stays, -⟩
    · exact kept
    exact (sound rows stays).later later

/-! ## Executions -/

lemma rewrite_cancelExecutionRows (now : Time) (sound : Sound database) (id : Uuid) :
    Rewrite database (cancelExecutionRows now database id) := by
  unfold cancelExecutionRows
  split
  · exact .refl database
  next rows found =>
  obtain ⟨stored, -⟩ := Table.get?_eq_some.1 found
  split
  · exact .refl database
  next open_ =>
  exact .rows stored (mem_active_iff_not_terminal.2 open_) ⟨rfl, rfl, rfl, rfl, rfl⟩
    (later_changeRuns (laterRun_cancelRun now) _ _) 
    (kept_cancelRows now (mem_active_iff_not_terminal.2 open_) (sound rows stored))

lemma rewrite_failExecution (now : Time) (code message : String)
    (stored : former ∈ database.executions) (active : former.Active) (eq : SameOrigin former rows)
    (still : rows.Active) (kept : Kept database.runs rows) :
    Rewrite database (failExecution now code message rows database) :=
  .rows stored active ⟨eq.id, eq.workflowId, eq.scheduleId, eq.scheduledFor,
      eq.idempotencyKey⟩ (later_changeRuns (laterRun_requestRun now) _ _)
    (kept_failRows now code message still kept)

lemma rewrite_failAfterException (now : Time) (code message : String) (sound : Sound database)
    (id : Uuid) : Rewrite database (failAfterException now code message id database) := by
  unfold failAfterException
  split
  · exact .refl database
  next rows found =>
  obtain ⟨stored, -⟩ := Table.get?_eq_some.1 found
  split
  · exact .refl database
  next open_ =>
  exact rewrite_failExecution now code message stored (mem_active_iff_not_terminal.2 open_)
    (.refl rows) (mem_active_iff_not_terminal.2 open_) (sound rows stored)

lemma rewrite_advance {config : Config} {now : Time} {env : AdvanceEnv} (sound : Sound database)
    (run : advance config now env id database = .ok after) : Rewrite database after := by
  cases advanced_of_advance run with
  | idle ended => exact .refl database
  | @failed rows failing stored keyed active eq code message =>
    rcases eq with rfl | rfl
    · exact rewrite_failExecution now code message stored active (.refl _) active (sound _ stored)
    exact rewrite_failExecution now code message stored active ⟨rfl, rfl, rfl, rfl, rfl⟩ active
      (kept_reconcileRows now active (sound rows stored))
  | @concluded rows stored keyed active inTime steps runs started =>
    have kept := kept_reconcileRows now active (sound rows stored)
    obtain ⟨later, final⟩ := startSteps_kept active (reconcileRows now database.runs rows).steps.unique
      (fun step mem => mem) kept started
    exact .rows stored active ⟨rfl, rfl, rfl, rfl, rfl⟩ later
      (kept_concluded config now active final)

lemma reviewStep_spec {now : Time} {request : ReviewRequest}
    (run : reviewStep now caller id stepKey request database = .ok after) :
    ∃ rows ∈ database.executions, rows.id = id ∧ ∃ step ∈ rows.steps,
      step.stepKey = stepKey ∧ step.status = .waitingReview ∧ after = { database with
        executions := writeRows database.executions (match request.decision with
          | .approve => approveRows now caller.principal request step rows
          | .reject => rejectRows now caller.principal request step rows) } := by
  obtain ⟨permitted, -, run⟩ := of_bind_ok run
  split at run
  · cases run
  next rows found =>
  obtain ⟨stored, keyed⟩ := Table.get?_eq_some.1 found
  split at run
  · cases run
  next step stepFound =>
  obtain ⟨stepIn, named⟩ := Table.get?_eq_some.1 stepFound
  obtain ⟨granted, -, run⟩ := of_bind_ok run
  split at run
  · cases run
  next waiting =>
  rw [not_not] at waiting
  split at run
  · cases run
  cases run
  exact ⟨rows, stored, keyed, step, stepIn, named, waiting, rfl⟩

lemma rewrite_reviewStep {now : Time} {request : ReviewRequest} (sound : Sound database)
    (run : reviewStep now caller id stepKey request database = .ok after) :
    Rewrite database after := by
  obtain ⟨rows, stored, -, step, stepIn, -, waiting, rfl⟩ := reviewStep_spec run
  have kept := sound rows stored
  refine .rows stored (active_of_waitingReview kept stepIn waiting) ?_ (.refl _) ?_
  · split <;> exact ⟨rfl, rfl, rfl, rfl, rfl⟩
  split
  · next approved => exact kept_approveRows now _ request approved kept stepIn waiting
  next rejected => exact kept_rejectRows now _ request rejected kept stepIn waiting

lemma cancelExecution_spec {now : Time} (run : cancelExecution now caller id database = .ok after) :
    after = database ∨ after = cancelExecutionRows now database id := by
  obtain ⟨permitted, -, run⟩ := of_bind_ok run
  obtain ⟨rows, -, run⟩ := of_bind_ok run
  split at run
  · cases run
  split at run
  · cases run
    exact .inl rfl
  cases run
  exact .inr rfl

lemma rewrite_cancelExecution {now : Time} (sound : Sound database)
    (run : cancelExecution now caller id database = .ok after) : Rewrite database after := by
  rcases cancelExecution_spec run with rfl | rfl
  · exact .refl after
  exact rewrite_cancelExecutionRows now sound id

lemma laterRun_moveRun (target : Harness.RunStatus) (errorCode errorMessage : Option String)
    (run : ChildRun) : LaterRun run (moveRun target errorCode errorMessage run) := by
  unfold moveRun
  split
  · next allowed =>
    refine ⟨rfl, ?_, fun set => set⟩
    intro ended
    cases status : run.status <;> rw [status] at ended allowed
    case completed => cases allowed
    case failed => cases allowed
    case cancelled => cases allowed
    all_goals exact absurd ended (by decide)
  · exact .refl run

/-- A trigger under a new key: the workflow is active and no execution has the key. -/
structure Admission (now : Time) (workflow : WorkflowDefinition) (version : WorkflowVersion)
    (request : TriggerRequest) (before after : Database) (fresh : ExecutionRows) : Prop where
  stored : workflow ∈ before.workflows
  active : workflow.status = .active
  newKey : ∀ rows ∈ before.executions, rows.execution.idempotencyKey ≠ request.key workflow.id
  admitted : admitExecution now workflow version request before = .ok (after, fresh)

lemma triggerWorkflow_cases {now : Time}
    (run : triggerWorkflow now caller workflowId request before = .ok (after, rows)) :
    (after = before ∧ rows ∈ before.executions ∧
      rows.execution.idempotencyKey = request.key workflowId ∧
        rows.execution.workflowId = workflowId) ∨ ∃ workflow version, workflow.id = workflowId ∧
        Admission now workflow version request before after rows := by
  obtain ⟨permitted, -, run⟩ := of_bind_ok run
  obtain ⟨workflow, loaded, run⟩ := of_bind_ok run
  have found : before.workflows.get? workflowId = some workflow := by
    unfold getWorkflow at loaded
    split at loaded
    · cases loaded
    next stored =>
    cases granted : caller.access _ with
    | error error =>
      rw [granted] at loaded
      cases loaded
    | ok granted_ =>
      rw [granted] at loaded
      cases loaded
      exact stored
  obtain ⟨stored, keyed⟩ := Table.get?_eq_some.1 found
  split at run
  · next active _ =>
    split at run
    · cases run
    obtain ⟨version, -, run⟩ := of_bind_ok run
    split at run
    · next existing held =>
      have holds := List.find?_some held
      have key : existing.execution.idempotencyKey = request.key workflow.id :=
        of_decide_eq_true holds
      split at run
      · cases run
      next eq =>
      rw [not_not] at eq
      cases run
      exact .inl ⟨rfl, List.mem_of_find?_eq_some held, keyed ▸ key, eq.trans keyed⟩
    · next free =>
      refine .inr ⟨workflow, version, keyed, stored, active, ?_, run⟩
      intro other mem clash
      exact List.find?_eq_none.1 free other mem (decide_eq_true clash)
  · cases run

def occurrenceKey (config : Config) (scheduleId : Uuid) (occurrence : Time) : String :=
  "schedule:" ++ scheduleId.str ++ ":" ++ config.isoformat occurrence

/-- A request for an occurrence of a schedule carries the key of the occurrence. -/
def Labelled (config : Config) (request : TriggerRequest) : Prop :=
  ∀ scheduleId occurrence, request.schedule = some scheduleId → request.scheduledFor = some occurrence →
    request.idempotencyKey = some (occurrenceKey config scheduleId occurrence)

lemma labelled_of_unscheduled (config : Config) (unscheduled : request.schedule = none) :
    Labelled config request := by
  intro scheduleId occurrence scheduled
  rw [unscheduled] at scheduled
  cases scheduled

inductive Change (config : Config) (now : Time) (before : Database) : Database → Prop
  | rewrite {after : Database} (step : Rewrite before after) : Change config now before after
  | admitted {after : Database} {workflow : WorkflowDefinition} {version : WorkflowVersion}
      {request : TriggerRequest} {fresh : ExecutionRows} (labelled : Labelled config request)
      (admission : Admission now workflow version request before after fresh) :
      Change config now before after
  | schedule (schedule : WorkflowSchedule) : Change config now before (writeSchedule before schedule)

abbrev Changes (config : Config) (now : Time) : Database → Database → Prop :=
  Relation.ReflTransGen (Change config now)

section
variable {config : Config} {now : Time} {Holds : Database → Prop}

variable {before after : Database}

lemma triggerWorkflow_keeps {caller : Caller} {workflowId : Uuid} {request : TriggerRequest}
    {rows : ExecutionRows} (admits : ∀ {workflow version before after fresh},
      Admission now workflow version request before after fresh → Holds before → Holds after)
    (run : triggerWorkflow now caller workflowId request before = .ok (after, rows))
    (holds : Holds before) : Holds after := by
  rcases triggerWorkflow_cases run with ⟨rfl, -⟩ | ⟨workflow, version, -, admission⟩
  · exact holds
  exact admits admission holds

variable (admits : ∀ {request workflow version before after fresh}, Labelled config request →
    Admission now workflow version request before after fresh → Holds before → Holds after)

include admits

variable {owner : Except Fault Caller} {executionId : Uuid} {schedule : WorkflowSchedule}

lemma fireSchedule_keeps
    (run : fireSchedule config now owner executionId schedule before = .ok after)
    (holds : Holds before) : Holds after := by
  obtain ⟨caller, -, run⟩ := of_bind_ok run
  split at run
  · cases run
  obtain ⟨granted, -, run⟩ := of_bind_ok run
  split at run
  · cases run
  obtain ⟨fired, triggered, run⟩ := of_bind_ok run
  cases run
  refine triggerWorkflow_keeps (admits ?_) triggered holds
  rintro scheduleId occurrence eq for_
  cases eq
  cases for_
  rfl

lemma tickSchedule_keeps (writes : ∀ {database} schedule, Holds database →
      Holds (writeSchedule database schedule))
    (run : tickSchedule config now owner executionId schedule before = .ok after)
    (holds : Holds before) : Holds after := by
  unfold tickSchedule at run
  split at run
  · split at run
    · cases run
    dsimp only at run
    split at run
    · cases run
      exact writes _ holds
    split at run
    · next fired performed =>
      cases run
      exact writes _ (fireSchedule_keeps admits performed holds)
    · cases run
      exact writes _ holds
    · cases run
  · cases run
    exact writes _ holds

end

lemma changes_triggerWorkflow {config : Config} {now : Time} (labelled : Labelled config request)
    (run : triggerWorkflow now caller workflowId request before = .ok (after, rows)) :
    Changes config now before after := by
  have admits : ∀ {workflow version middle later fresh},
      Admission now workflow version request middle later fresh →
        Changes config now before middle → Changes config now before later :=
    fun admission earlier => earlier.tail (.admitted labelled admission)
  exact triggerWorkflow_keeps admits run .refl

lemma changes_tickSchedule {config : Config} {current : Time} {owner : Except Fault Caller}
    {executionId : Uuid} {schedule : WorkflowSchedule}
    (run : tickSchedule config current owner executionId schedule before = .ok after) :
    Changes config current before after := by
  refine tickSchedule_keeps ?_ ?_ run .refl
  · exact fun labelled admission earlier => earlier.tail (.admitted labelled admission)
  exact fun schedule earlier => earlier.tail (.schedule schedule)

lemma perform_changes {config : Config} {after : World} (sound : Sound world.database)
    (run : perform config world action = some after) :
    Changes config world.now world.database after.database := by
  have rewritten : ∀ {database}, Rewrite world.database database →
      Changes config world.now world.database database := fun step => .single (.rewrite step)
  cases action with
  | elapse duration =>
    cases run
    exact .refl
  | tick scheduleId owner executionId =>
    obtain ⟨schedule, -, run⟩ := Option.bind_eq_some_iff.1 run
    split at run
    · split at run
      · next performed =>
        cases run
        exact changes_tickSchedule performed
      · cases run
        exact .refl
    · cases run
  | trigger caller workflowId inputPayload idempotencyKey trigger newId executionId =>
    simp only [perform] at run
    split at run
    · cases run
    split at run
    · next performed =>
      cases run
      exact changes_triggerWorkflow (labelled_of_unscheduled config rfl) performed
    · cases run
      exact .refl
  | claim token worker executionId =>
    simp only [perform] at run
    split at run
    · cases run
    obtain ⟨rows, found, run⟩ := Option.bind_eq_some_iff.1 run
    obtain ⟨stored, -⟩ := Table.get?_eq_some.1 found
    split at run
    · next claim =>
      cases run
      have active : rows.Active := by
        simp only [claimable, Bool.and_eq_true, Bool.or_eq_true, decide_eq_true_eq] at claim
        rcases claim.1.1 with status | status <;> rw [ExecutionRows.Active, status] <;> decide
      exact rewritten (.rows stored active ⟨rfl, rfl, rfl, rfl, rfl⟩ (.refl _)
        (kept_claimRows config _ _ active (sound rows stored)))
    · cases run
  | advance token env =>
    obtain ⟨task, -, run⟩ := Option.bind_eq_some_iff.1 run
    split at run
    · cases run
      split
      · next performed => exact rewritten (rewrite_advance sound performed)
      exact .refl
    · cases run
  | abort token fault =>
    obtain ⟨task, -, run⟩ := Option.bind_eq_some_iff.1 run
    split at run
    · cases run
      exact .refl
    cases run
  | fail token =>
    obtain ⟨task, -, run⟩ := Option.bind_eq_some_iff.1 run
    split at run
    · cases run
    cases run
    exact rewritten (rewrite_failAfterException _ _ _ sound _)
  | crash token =>
    obtain ⟨task, -, rfl⟩ := Option.map_eq_some_iff.1 run
    exact .refl
  | review caller executionId stepKey request =>
    obtain ⟨database, performed, rfl⟩ := Option.map_eq_some_iff.1 run
    exact rewritten (rewrite_reviewStep sound (ok_of_toOption performed))
  | cancel caller executionId =>
    obtain ⟨database, performed, rfl⟩ := Option.map_eq_some_iff.1 run
    exact rewritten (rewrite_cancelExecution sound (ok_of_toOption performed))
  | moveRun runId target errorCode errorMessage =>
    cases run
    exact rewritten (.runs (later_changeRuns (laterRun_moveRun _ _ _) _ _))
  | requestRunCancellation runId =>
    cases run
    exact rewritten (.runs (later_changeRuns (laterRun_requestRun _) _ _))

lemma sound_clearExecutions (now : Time) (workflow : WorkflowDefinition)
    (active : List ExecutionRows) (sound : Sound database) :
    Sound (clearExecutions now workflow active database) := by
  unfold clearExecutions
  split
  · induction active generalizing database with
    | nil => exact sound
    | cons rows rest ih => exact ih ((rewrite_cancelExecutionRows now sound rows.id).sound sound)
  · exact sound

lemma admitExecution_spec {now : Time}
    (run : admitExecution now workflow version request before = .ok (after, fresh)) :
    fresh = freshExecution now workflow version request
        (skipCode workflow (activeExecutions before workflow.id).length) ∧
      ∃ executions, (clearExecutions now workflow (activeExecutions before workflow.id)
          before).executions.insert? fresh = some executions ∧
        after = { clearExecutions now workflow (activeExecutions before workflow.id) before with
          executions := executions } := by
  simp only [admitExecution] at run
  split at run
  · cases run
  next executions inserted =>
  cases run
  exact ⟨rfl, executions, inserted, rfl⟩

lemma Admission.sound {now : Time}
    (admission : Admission now workflow version request before after fresh) (sound : Sound before) :
    Sound after := by
  obtain ⟨rfl, executions, inserted, rfl⟩ := admitExecution_spec admission.admitted
  obtain ⟨-, rows⟩ := Table.insert?_spec inserted
  have cleared := sound_clearExecutions now workflow (activeExecutions before workflow.id) sound
  intro other mem
  rw [Table.mem_iff, rows] at mem
  rcases List.mem_append.1 mem with stays | added
  · exact cleared other stays
  rw [List.mem_singleton.1 added]
  exact kept_freshExecution _ now workflow version request _

lemma Change.sound {config : Config} {now : Time} (change : Change config now before after)
    (sound : Sound before) : Sound after := by
  cases change with
  | rewrite step | admitted _ step => exact step.sound sound
  | schedule schedule => exact sound

lemma Changes.sound {config : Config} {now : Time} (changes : Changes config now before after)
    (sound : Sound before) : Sound after := by
  induction changes with
  | refl => exact sound
  | tail _ change ih => exact change.sound ih

lemma sound_of_perform {config : Config} {after : World} (sound : Sound world.database)
    (run : perform config world action = some after) :
    Sound after.database :=
  (perform_changes sound run).sound sound

lemma Changes.kept {config : Config} {now : Time} {Holds : Database → Prop}
    (kept : ∀ before after, Change config now before after → Sound before → Holds before → Holds after)
    (changes : Changes config now before after) (sound : Sound before) (holds : Holds before) :
    Holds after := by
  induction changes with
  | refl => exact holds
  | tail earlier change ih => exact kept _ _ change (Changes.sound earlier sound) ih

lemma sound_of_registered (registered : Registered world) : Sound world.database := by
  intro rows mem
  rw [registered.1] at mem
  exact absurd mem (Table.notMem_empty rows)

def Keeps (Holds : Database → Prop) (world : World) : Prop :=
  Sound world.database ∧ Holds world.database

lemma keeps_of_path {config : Config} {Holds : Database → Prop}
    (kept : ∀ now before after, Change config now before after → Sound before → Holds before →
      Holds after)
    {start : World} {moves : List (Move World Action)}
    (path : Path (automation config) start moves world) (keeps : Keeps Holds start) :
    Keeps Holds world := by
  have step : ∀ before action after, Keeps Holds before →
      (automation config).step before action after → Keeps Holds after := by
    rintro before action after ⟨sound, holds⟩ performed
    exact ⟨sound_of_perform sound performed,
      (perform_changes sound performed).kept (kept _) sound holds⟩
  exact path.preserved step keeps

end Obsion.Automation
