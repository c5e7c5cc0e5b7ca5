import Obsion.Automation.Admission

/-! # What the ticks do to a schedule

A tick that writes a schedule either disables it or moves `next_fire_at` forward.  The
occurrences it passes over are the one it fires for, unless it found that one overdue by
more than the grace: then the next occurrence is computed from the time of the tick. -/

namespace Obsion.Automation

open Obsion.Lib

/-- The columns of a schedule that no write changes. -/
structure SameSchedule (before after : WorkflowSchedule) : Prop where
  id : after.id = before.id
  workflowId : after.workflowId = before.workflowId
  cronExpression : after.cronExpression = before.cronExpression
  timezone : after.timezone = before.timezone
  misfireGraceSeconds : after.misfireGraceSeconds = before.misfireGraceSeconds

lemma SameSchedule.refl (schedule : WorkflowSchedule) : SameSchedule schedule schedule :=
  ⟨rfl, rfl, rfl, rfl, rfl⟩

/-- An execution answers for an occurrence: a tick found it under the key of the
occurrence, or has created it for the schedule. -/
def Fired (config : Config) (before after : Database) (schedule : WorkflowSchedule) : Prop :=
  ∃ rows ∈ after.executions,
    rows.execution.idempotencyKey = occurrenceKey config schedule.id schedule.nextFireAt ∧
    rows.execution.workflowId = schedule.workflowId ∧
    (rows ∈ before.executions ∨ (rows.execution.scheduleId = some schedule.id ∧
        rows.execution.scheduledFor = some schedule.nextFireAt))

variable {now : Time} {request : TriggerRequest} {before after : Database} {config : Config}
  {schedule : WorkflowSchedule} {world : World}

variable {workflow : WorkflowDefinition} {version : WorkflowVersion} {fresh : ExecutionRows}
  {current occurrence : Time} {owner : Except Fault Caller} {executionId : Uuid}
  {move : Move World Action}

lemma Admission.schedules (admission : Admission now workflow version request before after fresh)
    (sound : Sound before) : after.schedules = before.schedules := by
  obtain ⟨-, executions, -, rfl⟩ := admitExecution_spec admission.admitted
  exact (clearExecutions_tables now workflow _ sound).2

lemma Admission.mem_fresh (admission : Admission now workflow version request before after fresh) :
    fresh ∈ after.executions := by
  obtain ⟨-, executions, inserted, rfl⟩ := admitExecution_spec admission.admitted
  obtain ⟨-, rows⟩ := Table.insert?_spec inserted
  rw [Table.mem_iff, rows]
  exact List.mem_append_right _ List.mem_cons_self

lemma fired_of_triggerWorkflow {caller : Caller} {rows : ExecutionRows} (sound : Sound before)
    (given : request.idempotencyKey = some (occurrenceKey config schedule.id schedule.nextFireAt))
    (scheduled : request.schedule = some schedule.id)
    (for_ : request.scheduledFor = some schedule.nextFireAt)
    (run : triggerWorkflow now caller schedule.workflowId request before = .ok (after, rows)) :
    after.schedules = before.schedules ∧ Fired config before after schedule := by
  have key : request.key schedule.workflowId = occurrenceKey config schedule.id schedule.nextFireAt :=
    TriggerRequest.key_of_some _ given (occurrenceKey_ne_empty config _ _)
  rcases triggerWorkflow_cases run with ⟨rfl, stored, held, named⟩ | ⟨workflow, version, keyed, admission⟩
  · exact ⟨rfl, rows, stored, held.trans key, named, Or.inl stored⟩
  obtain ⟨shape, -⟩ := admitExecution_spec admission.admitted
  refine ⟨admission.schedules sound, rows, admission.mem_fresh, ?_, ?_, Or.inr ⟨?_, ?_⟩⟩
  · rw [shape, ← key, ← keyed]
    rfl
  · rw [shape, ← keyed]
    rfl
  · rw [shape, ← scheduled]
    rfl
  · rw [shape, ← for_]
    rfl

lemma fired_of_fireSchedule (sound : Sound before)
    (run : fireSchedule config current owner executionId schedule before = .ok after) :
    after.schedules = before.schedules ∧ Fired config before after schedule := by
  obtain ⟨caller, -, run⟩ := of_bind_ok run
  split at run
  · cases run
  obtain ⟨granted, -, run⟩ := of_bind_ok run
  split at run
  · cases run
  obtain ⟨⟨database, rows⟩, triggered, run⟩ := of_bind_ok run
  cases run
  exact fired_of_triggerWorkflow sound rfl rfl rfl triggered

lemma tickSchedule_spec (sound : Sound before)
    (run : tickSchedule config current owner executionId schedule before = .ok after) :
    ∃ middle later, after = writeSchedule middle later ∧ middle.schedules = before.schedules ∧
      SameSchedule schedule later ∧
      ((later.enabled = false ∧ later.nextFireAt = schedule.nextFireAt) ∨
        (config.cron.nextCronOccurrence schedule.cronExpression schedule.timezone
            (if misfired current schedule then current else schedule.nextFireAt) =
              .ok later.nextFireAt ∧ (misfired current schedule = true ∨ later.enabled = false ∨
            Fired config before after schedule))) := by
  unfold tickSchedule at run
  split at run
  · split at run
    · cases run
    next next_ found =>
    dsimp only at run
    split at run
    · next skips =>
      rw [Bool.and_eq_true] at skips
      cases run
      exact ⟨before, _, rfl, rfl, ⟨rfl, rfl, rfl, rfl, rfl⟩, Or.inr ⟨found, Or.inl skips.1⟩⟩
    · split at run
      · next fired performed =>
        cases run
        obtain ⟨schedules, answered⟩ := fired_of_fireSchedule sound performed
        exact ⟨fired, _, rfl, schedules, ⟨rfl, rfl, rfl, rfl, rfl⟩,
          Or.inr ⟨found, Or.inr (Or.inr answered)⟩⟩
      · cases run
        exact ⟨before, _, rfl, rfl, ⟨rfl, rfl, rfl, rfl, rfl⟩, Or.inr ⟨found, Or.inr (Or.inl rfl)⟩⟩
      · cases run
  · cases run
    exact ⟨before, _, rfl, rfl, ⟨rfl, rfl, rfl, rfl, rfl⟩, Or.inl ⟨rfl, rfl⟩⟩

/-- What a move does to a schedule: nothing, or it is a tick of the schedule. -/
inductive Ticked (config : Config) (move : Move World Action) (before after : WorkflowSchedule) : Prop
  | idle (same : after = before)
  | disabled (due : due move.before.now before = true) (disabled : after.enabled = false)
      (still : after.nextFireAt = before.nextFireAt)
  | fired (due : due move.before.now before = true)
      (next : config.cron.nextCronOccurrence before.cronExpression before.timezone
        (if misfired move.before.now before then move.before.now else before.nextFireAt) =
          .ok after.nextFireAt)
      (outcome : misfired move.before.now before = true ∨ after.enabled = false ∨
        Fired config move.before.database move.after.database before)

lemma Rewrite.schedules (step : Rewrite before after) :
    after.schedules = before.schedules := step.workflows.2

lemma ticked_of_perform {after : World} {action : Action} (sound : Sound world.database)
    (run : perform config world action = some after) (stored : schedule ∈ world.database.schedules) :
    ∃ later ∈ after.database.schedules, SameSchedule schedule later ∧
      Ticked config ⟨world, action, after⟩ schedule later := by
  have unchanged : after.database.schedules = world.database.schedules →
      ∃ later ∈ after.database.schedules, SameSchedule schedule later ∧
        Ticked config ⟨world, action, after⟩ schedule later := by
    intro eq
    exact ⟨schedule, eq ▸ stored, .refl schedule, .idle rfl⟩
  cases action with
  | tick scheduleId owner executionId =>
    obtain ⟨chosen, found, run⟩ := Option.bind_eq_some_iff.1 run
    obtain ⟨chosenIn, -⟩ := Table.get?_eq_some.1 found
    split at run
    · next isDue =>
      split at run
      · next database performed =>
        cases run
        obtain ⟨middle, later, rfl, eq, columns, outcome⟩ :=
          tickSchedule_spec sound performed
        by_cases ticked : schedule.id = chosen.id
        · cases Table.eq_of_key stored chosenIn ticked
          refine ⟨later, Table.mem_put_self, columns, ?_⟩
          rcases outcome with ⟨disabled, still⟩ | ⟨next, outcome⟩
          · exact .disabled isDue disabled still
          exact .fired isDue next outcome
        · refine ⟨schedule, Table.mem_put.2 (Or.inr ⟨eq ▸ stored, ?_⟩), .refl schedule, .idle rfl⟩
          rw [columns.id]
          exact ticked
      · cases run
        exact unchanged rfl
    · cases run
  | elapse | moveRun | requestRunCancellation =>
    cases run
    exact unchanged rfl
  | trigger caller workflowId inputPayload idempotencyKey trigger newId executionId =>
    simp only [perform] at run
    split at run
    · cases run
    split at run
    · next performed =>
      cases run
      rcases triggerWorkflow_cases performed with ⟨eq, -⟩ | ⟨workflow, version, -, admission⟩
      · exact unchanged (congrArg Database.schedules eq)
      exact unchanged (admission.schedules sound)
    · cases run
      exact unchanged rfl
  | claim token worker executionId =>
    simp only [perform] at run
    split at run
    · cases run
    obtain ⟨rows, -, run⟩ := Option.bind_eq_some_iff.1 run
    split at run
    · cases run
      exact unchanged rfl
    cases run
  | advance token env =>
    obtain ⟨task, -, run⟩ := Option.bind_eq_some_iff.1 run
    split at run
    · cases run
      apply unchanged
      split
      · next performed => exact (rewrite_advance sound performed).schedules
      rfl
    · cases run
  | abort token fault =>
    obtain ⟨task, -, run⟩ := Option.bind_eq_some_iff.1 run
    split at run
    · cases run
      exact unchanged rfl
    cases run
  | fail token =>
    obtain ⟨task, -, run⟩ := Option.bind_eq_some_iff.1 run
    split at run
    · cases run
    cases run
    exact unchanged (rewrite_failAfterException _ _ _ sound _).schedules
  | crash token =>
    obtain ⟨task, -, rfl⟩ := Option.map_eq_some_iff.1 run
    exact unchanged rfl
  | review caller executionId stepKey request =>
    obtain ⟨database, performed, rfl⟩ := Option.map_eq_some_iff.1 run
    exact unchanged (rewrite_reviewStep sound (ok_of_toOption performed)).schedules
  | cancel caller executionId =>
    obtain ⟨database, performed, rfl⟩ := Option.map_eq_some_iff.1 run
    exact unchanged (rewrite_cancelExecution sound (ok_of_toOption performed)).schedules

lemma Ticked.forward {before after : WorkflowSchedule} (ticked : Ticked config move before after) :
    before.nextFireAt ≤ after.nextFireAt ∧
      (after = before ∨ after.enabled = false ∨ before.nextFireAt < after.nextFireAt) := by
  cases ticked with
  | idle eq =>
    rw [eq]
    exact ⟨le_refl _, Or.inl rfl⟩
  | disabled due disabled still => exact ⟨still.ge, Or.inr (Or.inl disabled)⟩
  | fired due next outcome =>
    have reached : before.nextFireAt ≤ move.before.now := by
      rw [Automation.due, Bool.and_eq_true, decide_eq_true_eq] at due
      exact due.2
    have later := (config.cron.least next).1.1
    have forward : before.nextFireAt < after.nextFireAt := by
      split at later
      · exact lt_of_le_of_lt reached later
      exact later
    exact ⟨forward.le, Or.inr (Or.inr forward)⟩

def Passes (config : Config) (scheduleId : Uuid) (occurrence : Time) (move : Move World Action) :
    Prop :=
  ∃ before ∈ move.before.database.schedules, ∃ after ∈ move.after.database.schedules,
    before.id = scheduleId ∧ after.id = scheduleId ∧
    before.nextFireAt ≤ occurrence ∧ occurrence < after.nextFireAt ∧
    (after.enabled = false ∨ seconds before.misfireGraceSeconds < move.before.now - before.nextFireAt ∨
      (before.nextFireAt = occurrence ∧ Fired config move.before.database move.after.database before))

lemma Ticked.passes {before after : WorkflowSchedule} (ticked : Ticked config move before after)
    (eq : SameSchedule before after) (beforeIn : before ∈ move.before.database.schedules)
    (afterIn : after ∈ move.after.database.schedules)
    (occurs : config.cron.occurs before.cronExpression before.timezone occurrence)
    (ahead : before.nextFireAt ≤ occurrence) (passed : occurrence < after.nextFireAt) :
    Passes config before.id occurrence move := by
  refine ⟨before, beforeIn, after, afterIn, rfl, eq.id, ahead, passed, ?_⟩
  cases ticked with
  | idle equal =>
    rw [equal] at passed
    exact absurd ahead (not_le.2 passed)
  | disabled due disabled still => exact .inl disabled
  | fired due next outcome =>
    have late : misfired move.before.now before = true →
        seconds before.misfireGraceSeconds < move.before.now - before.nextFireAt := by
      intro overdue
      have positive : 0 ≤ seconds before.misfireGraceSeconds := by
        unfold seconds
        positivity
      have beyond := of_decide_eq_true overdue
      rcases lt_max_iff.1 beyond with negative | later
      · exact absurd positive (not_le.2 negative)
      exact later
    cases overdue : misfired move.before.now before with
    | true => exact .inr (Or.inl (late overdue))
    | false =>
      rw [overdue] at next outcome
      have least := (config.cron.least next).2
      have exact_ : before.nextFireAt = occurrence := by
        refine ahead.eq_of_not_lt ?_
        intro later
        exact absurd (least ⟨later, occurs⟩) (not_le.2 passed)
      rcases outcome with impossible | disabled | answered
      · cases impossible
      · exact .inl disabled
      · exact .inr (Or.inr ⟨exact_, answered⟩)

/-- Every occurrence that `next_fire_at` has passed was passed by a tick. -/
lemma passes_of_path {start : World} {moves : List (Move World Action)}
    (path : Path (automation config) start moves world) (sound : Sound start.database)
    {first last : WorkflowSchedule} (firstIn : first ∈ start.database.schedules)
    (lastIn : last ∈ world.database.schedules) (eq : last.id = first.id)
    (occurs : config.cron.occurs first.cronExpression first.timezone occurrence)
    (ahead : first.nextFireAt ≤ occurrence) (passed : occurrence < last.nextFireAt) :
    ∃ move ∈ moves, Passes config first.id occurrence move := by
  induction path generalizing first with
  | nil state =>
    rw [Table.eq_of_key lastIn firstIn eq] at passed
    exact absurd ahead (not_le.2 passed)
  | @cons before after final moves action step rest ih =>
    obtain ⟨later, laterIn, columns, ticked⟩ := ticked_of_perform sound step firstIn
    by_cases beyond : occurrence < later.nextFireAt
    · exact ⟨_, List.mem_cons_self, ticked.passes columns firstIn laterIn occurs ahead beyond⟩
    obtain ⟨move, mem, passes⟩ := ih (sound_of_perform sound step) laterIn lastIn (eq.trans columns.id.symm)
      (columns.cronExpression ▸ columns.timezone ▸ occurs) (not_lt.1 beyond)
    exact ⟨move, List.mem_cons_of_mem _ mem, columns.id ▸ passes⟩

lemma Change.admitted_of (change : Change config now before after) (sound : Sound before)
    (admitted : Admitted config before) : Admitted config after := by
  cases change with
  | rewrite step => exact admitted.traces step.traces step.workflows.1
  | admitted labelled admission => exact admission.admitted_of labelled sound admitted
  | schedule schedule => exact ⟨admitted.bounded, admitted.distinct, admitted.labelled⟩

lemma admitted_of_registered (config : Config) (registered : Registered world) :
    Admitted config world.database := by
  have absent : ∀ rows, rows ∉ world.database.executions := by
    intro rows
    rw [registered.1]
    exact Table.notMem_empty rows
  constructor
  · intro workflow _
    have idle : activeExecutions world.database workflow.id = [] := by
      rw [List.eq_nil_iff_forall_not_mem]
      exact fun rows mem => absent rows (mem_activeExecutions.1 mem).1
    rw [idle]
    exact Nat.zero_le _
  · exact fun left leftIn => absurd leftIn (absent left)
  · exact fun rows mem => absurd mem (absent rows)

/-- `next_fire_at` of a schedule never falls, and rises where a write leaves it enabled. -/
def MovesForward (move : Move World Action) : Prop :=
  ∀ before ∈ move.before.database.schedules, ∃ after ∈ move.after.database.schedules,
    after.id = before.id ∧ before.nextFireAt ≤ after.nextFireAt ∧
      (after = before ∨ after.enabled = false ∨ before.nextFireAt < after.nextFireAt)

theorem automation_admits (config : Config) {start world : World} {moves : List (Move World Action)}
    (registered : Registered start) (path : Path (automation config) start moves world) :
    (∀ workflow ∈ world.database.workflows,
      (activeExecutions world.database workflow.id).length ≤ capacity workflow) ∧
    (∀ left ∈ world.database.executions, ∀ right ∈ world.database.executions, ∀ scheduleId occurrence,
        left.execution.scheduleId = some scheduleId → right.execution.scheduleId = some scheduleId →
        left.execution.scheduledFor = some occurrence →
        right.execution.scheduledFor = some occurrence → left = right) ∧
    (∀ move ∈ moves, MovesForward move) ∧
    ∀ first ∈ start.database.schedules, ∀ last ∈ world.database.schedules, last.id = first.id →
      ∀ occurrence, config.cron.occurs first.cronExpression first.timezone occurrence →
        first.nextFireAt ≤ occurrence → occurrence < last.nextFireAt →
        ∃ move ∈ moves, Passes config first.id occurrence move := by
  have initially := sound_of_registered registered
  have keeps : Keeps (Admitted config) world :=
    keeps_of_path (fun _ _ _ change sound admitted => change.admitted_of sound admitted) path
      ⟨initially, admitted_of_registered config registered⟩
  refine ⟨keeps.2.bounded, ?_, ?_, ?_⟩
  · intro left leftIn right rightIn scheduleId occurrence leftId rightId leftFor rightFor
    apply keeps.2.distinct left leftIn right rightIn
    rw [keeps.2.labelled left leftIn scheduleId occurrence leftId leftFor,
      keeps.2.labelled right rightIn scheduleId occurrence rightId rightFor]
  · intro move member before beforeIn
    obtain ⟨earlier, later, rfl⟩ := List.append_of_mem member
    obtain ⟨first, step, -⟩ := path.split_move
    have sound : Sound move.before.database :=
      (keeps_of_path (fun _ _ _ _ _ _ => trivial) first
        (show Keeps (fun _ => True) start from ⟨initially, trivial⟩)).1
    obtain ⟨after, afterIn, columns, ticked⟩ := ticked_of_perform sound step beforeIn
    exact ⟨after, afterIn, columns.id, ticked.forward⟩
  · intro first firstIn last lastIn same occurrence occurs ahead passed
    exact passes_of_path path initially firstIn lastIn same occurs ahead passed

/-- A tick of the schedule 301 seconds after its first occurrence. -/
def sampleLate : List Action :=
  [.elapse 301000000, .tick (sampleId 5) (.ok sampleCaller) (sampleId 7)]

theorem automation_admits_sample : ∃ moves world,
    Path (automation sampleConfig) sampleStart moves world ∧
      ∃ rows ∈ world.database.executions, rows.execution.scheduledFor = some 0 ∧
        ∀ workflow ∈ world.database.workflows,
          (activeExecutions world.database workflow.id).length ≤ capacity workflow := by
  obtain ⟨moves, world, rows, replayed, stored, scheduled⟩ : ∃ moves world rows,
      replay (perform sampleConfig) sampleStart sampleLate = some (moves, world) ∧
        world.database.executions.rows = [rows] ∧ rows.execution.scheduledFor = some 0 :=
    ⟨_, _, _, rfl, rfl, rfl⟩
  have path : Path (automation sampleConfig) sampleStart moves world := Path.of_replay replayed
  refine ⟨moves, world, path, rows, ?_, scheduled,
    (automation_admits sampleConfig ⟨rfl, rfl, rfl⟩ path).1⟩
  rw [Table.mem_iff, stored]
  exact List.mem_cons_self

/-- The occurrence at 300 seconds is one second old when the tick passes over it. -/
theorem occurrence_passed_over : ∃ moves world schedule,
    Path (automation sampleConfig) sampleStart moves world ∧
      sampleSchedule ∈ sampleStart.database.schedules ∧ schedule ∈ world.database.schedules ∧
      schedule.id = sampleSchedule.id ∧ schedule.enabled = true ∧
      sampleConfig.cron.occurs sampleSchedule.cronExpression sampleSchedule.timezone (seconds 300) ∧
      sampleSchedule.nextFireAt ≤ seconds 300 ∧ seconds 300 < schedule.nextFireAt ∧
      (∀ rows ∈ world.database.executions, rows.execution.scheduledFor ≠ some (seconds 300)) ∧
      ∀ move ∈ moves, move.after.now - seconds 300 ≤ seconds sampleSchedule.misfireGraceSeconds := by
  obtain ⟨moves, world, schedule, replayed, stored, enabled, same, ahead, none_, early⟩ :
      ∃ moves world schedule,
        replay (perform sampleConfig) sampleStart sampleLate = some (moves, world) ∧
          world.database.schedules.rows = [schedule] ∧ schedule.enabled = true ∧
          schedule.id = sampleSchedule.id ∧ schedule.nextFireAt = seconds 360 ∧
          (world.database.executions.rows.all fun rows =>
            rows.execution.scheduledFor ≠ some (seconds 300)) = true ∧
          (moves.all fun move => move.after.now - seconds 300 ≤
            seconds sampleSchedule.misfireGraceSeconds) = true :=
    ⟨_, _, _, rfl, rfl, rfl, rfl, rfl, rfl, rfl⟩
  refine ⟨moves, world, schedule, Path.of_replay replayed, Table.mem_put_self, ?_, same, enabled,
    show seconds 300 % seconds 60 = 0 by decide, by decide, ?_, ?_, ?_⟩
  · rw [Table.mem_iff, stored]
    exact List.mem_cons_self
  · rw [ahead]
    decide
  · intro rows member
    exact of_decide_eq_true (List.all_eq_true.1 none_ rows member)
  · intro move member
    exact of_decide_eq_true (List.all_eq_true.1 early move member)

end Obsion.Automation
