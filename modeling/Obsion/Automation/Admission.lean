import Obsion.Automation.Ends

/-! # Admission

How many executions of a workflow are active, which execution belongs to an occurrence of
a schedule, and which occurrences a tick passes over.  `Traces` is what a rewrite keeps of
the executions: none is added, none changes its origin and none becomes active again. -/

namespace Obsion.Automation

open Obsion.Lib

/-! ## Active executions -/

def capacity (workflow : WorkflowDefinition) : Nat :=
  match workflow.concurrencyPolicy with
  | .allow => workflow.maxConcurrency
  | .forbid | .replace => 1

def Traces (before after : Database) : Prop :=
  ∀ rows ∈ after.executions, ∃ former ∈ before.executions,
    SameOrigin former rows ∧ (rows.Active → former.Active)

lemma SameOrigin.trans {first second third : ExecutionRows} (left : SameOrigin first second)
    (right : SameOrigin second third) : SameOrigin first third :=
  ⟨right.id.trans left.id, right.workflowId.trans left.workflowId,
    right.scheduleId.trans left.scheduleId, right.scheduledFor.trans left.scheduledFor,
    right.idempotencyKey.trans left.idempotencyKey⟩

lemma Traces.refl (database : Database) : Traces database database :=
  fun rows mem => ⟨rows, mem, .refl rows, fun active => active⟩

lemma Traces.trans {first second third : Database} (left : Traces first second)
    (right : Traces second third) : Traces first third := by
  intro rows mem
  obtain ⟨middle, middleIn, eq, active⟩ := right rows mem
  obtain ⟨former, formerIn, earlier, formerly⟩ := left middle middleIn
  exact ⟨former, formerIn, earlier.trans eq, fun still => formerly (active still)⟩

variable {before after database : Database} {rows : ExecutionRows} {now : Time}
  {workflow : WorkflowDefinition}

lemma Rewrite.traces (step : Rewrite before after) : Traces before after := by
  cases step with
  | runs later => exact fun rows mem => Traces.refl before rows mem
  | rows stored active eq later kept =>
    intro rows mem
    rcases (mem_writeRows stored eq.id).1 mem with rfl | ⟨stays, -⟩
    · exact ⟨_, stored, eq, fun _ => active⟩
    exact ⟨rows, stays, .refl rows, fun still => still⟩

variable {workflowId : Uuid} {config : Config} {fresh : ExecutionRows} {request : TriggerRequest}

lemma mem_activeExecutions : rows ∈ activeExecutions database workflowId ↔
      rows ∈ database.executions ∧ rows.execution.workflowId = workflowId ∧ rows.Active := by
  rw [activeExecutions, Table.mem_select, Bool.and_eq_true, decide_eq_true_eq, decide_eq_true_eq]

lemma length_activeExecutions_le (formerly : ∀ rows ∈ activeExecutions after workflowId,
      ∃ former ∈ activeExecutions before workflowId, former.id = rows.id) :
    (activeExecutions after workflowId).length ≤ (activeExecutions before workflowId).length := by
  have distinct : ((activeExecutions after workflowId).map ExecutionRows.id).Nodup :=
    after.executions.unique.sublist (List.filter_sublist.map _)
  have contained : (activeExecutions after workflowId).map ExecutionRows.id ⊆
      (activeExecutions before workflowId).map ExecutionRows.id := by
    intro id mem
    obtain ⟨rows, rowsIn, rfl⟩ := List.mem_map.1 mem
    obtain ⟨former, formerIn, eq⟩ := formerly rows rowsIn
    exact List.mem_map.2 ⟨former, formerIn, eq⟩
  have bounded := (List.subperm_of_subset distinct contained).length_le
  rwa [List.length_map, List.length_map] at bounded

lemma Traces.length_le (traces : Traces before after) (workflowId : Uuid) :
    (activeExecutions after workflowId).length ≤ (activeExecutions before workflowId).length := by
  apply length_activeExecutions_le
  intro rows mem
  obtain ⟨rowsIn, named, active⟩ := mem_activeExecutions.1 mem
  obtain ⟨former, formerIn, eq, formerly⟩ := traces rows rowsIn
  exact ⟨former, mem_activeExecutions.2 ⟨formerIn, eq.workflowId ▸ named, formerly active⟩,
    eq.id.symm⟩

lemma active_of_cancelExecutionRows {id : Uuid}
    (mem : rows ∈ (cancelExecutionRows now database id).executions) (active : rows.Active) :
    rows ∈ database.executions ∧ rows.id ≠ id := by
  unfold cancelExecutionRows at mem
  split at mem
  · next absent => exact ⟨mem, Table.get?_eq_none.1 absent rows mem⟩
  next former found =>
  obtain ⟨stored, keyed⟩ := Table.get?_eq_some.1 found
  split at mem
  · next ended =>
    refine ⟨mem, ?_⟩
    intro eq
    rw [Table.eq_of_key mem stored (eq.trans keyed.symm)] at active
    exact not_active_of_terminal ended active
  · have eq : (cancelRows now former).id = former.id := rfl
    rcases (mem_writeRows stored eq).1 mem with rfl | ⟨stays, apart⟩
    · exact absurd active (show AutomationStatus.cancelled ∉ activeExecutionStatuses by decide)
    exact ⟨stays, keyed ▸ apart⟩

lemma traces_clearExecutions (now : Time) (workflow : WorkflowDefinition)
    (active : List ExecutionRows) (sound : Sound database) :
    Traces database (clearExecutions now workflow active database) := by
  unfold clearExecutions
  split
  · induction active generalizing database with
    | nil => exact .refl database
    | cons rows rest ih =>
      have step := rewrite_cancelExecutionRows now sound rows.id
      exact step.traces.trans (ih (step.sound sound))
  · exact .refl database

lemma active_of_clearExecutions (replaces : workflow.concurrencyPolicy = .replace)
    {cleared : List ExecutionRows}
    (mem : rows ∈ (clearExecutions now workflow cleared database).executions)
    (active : rows.Active) : rows ∈ database.executions ∧ ∀ other ∈ cleared, rows.id ≠ other.id := by
  rw [clearExecutions, if_pos replaces] at mem
  induction cleared generalizing database with
  | nil => exact ⟨mem, fun other none_ => absurd none_ List.not_mem_nil⟩
  | cons first rest ih =>
    obtain ⟨stays, apart⟩ := ih mem
    obtain ⟨before, other⟩ := active_of_cancelExecutionRows stays active
    refine ⟨before, ?_⟩
    intro entry entryIn
    rcases List.mem_cons.1 entryIn with rfl | tail
    · exact other
    exact apart entry tail

lemma activeExecutions_clearExecutions (replaces : workflow.concurrencyPolicy = .replace)
    (database : Database) :
    activeExecutions (clearExecutions now workflow (activeExecutions database workflow.id) database)
      workflow.id = [] := by
  rw [List.eq_nil_iff_forall_not_mem]
  intro rows mem
  obtain ⟨rowsIn, named, active⟩ := mem_activeExecutions.1 mem
  obtain ⟨before, apart⟩ := active_of_clearExecutions replaces rowsIn active
  exact apart rows (mem_activeExecutions.2 ⟨before, named, active⟩) rfl

structure Admitted (config : Config) (database : Database) : Prop where
  bounded : ∀ workflow ∈ database.workflows,
    (activeExecutions database workflow.id).length ≤ capacity workflow
  distinct : ∀ left ∈ database.executions, ∀ right ∈ database.executions,
    left.execution.idempotencyKey = right.execution.idempotencyKey → left = right
  labelled : ∀ rows ∈ database.executions, ∀ scheduleId occurrence,
    rows.execution.scheduleId = some scheduleId → rows.execution.scheduledFor = some occurrence →
    rows.execution.idempotencyKey = occurrenceKey config scheduleId occurrence

lemma Admitted.traces (admitted : Admitted config before) (traces : Traces before after)
    (workflows : after.workflows = before.workflows) :
    Admitted config after := by
  constructor
  · intro workflow mem
    rw [workflows] at mem
    exact (traces.length_le workflow.id).trans (admitted.bounded workflow mem)
  · intro left leftIn right rightIn eq
    obtain ⟨formerLeft, formerLeftIn, leftSame, -⟩ := traces left leftIn
    obtain ⟨formerRight, formerRightIn, rightSame, -⟩ := traces right rightIn
    have keys : formerLeft.execution.idempotencyKey = formerRight.execution.idempotencyKey := by
      rw [← leftSame.idempotencyKey, ← rightSame.idempotencyKey, eq]
    have equal := admitted.distinct formerLeft formerLeftIn formerRight formerRightIn keys
    exact Table.eq_of_key leftIn rightIn
      (leftSame.id.trans ((congrArg ExecutionRows.id equal).trans rightSame.id.symm))
  · intro rows mem scheduleId occurrence scheduled for_
    obtain ⟨former, formerIn, eq, -⟩ := traces rows mem
    rw [eq.idempotencyKey]
    rw [eq.scheduleId] at scheduled
    rw [eq.scheduledFor] at for_
    exact admitted.labelled former formerIn scheduleId occurrence scheduled for_

lemma Rewrite.workflows (step : Rewrite before after) :
    after.workflows = before.workflows ∧ after.schedules = before.schedules := by
  cases step with
  | runs | rows => exact ⟨rfl, rfl⟩

lemma clearExecutions_tables (now : Time) (workflow : WorkflowDefinition)
    (active : List ExecutionRows) (sound : Sound database) :
    (clearExecutions now workflow active database).workflows = database.workflows ∧
      (clearExecutions now workflow active database).schedules = database.schedules := by
  unfold clearExecutions
  split
  · induction active generalizing database with
    | nil => exact ⟨rfl, rfl⟩
    | cons rows rest ih =>
      have step := rewrite_cancelExecutionRows now sound rows.id
      obtain ⟨workflows, schedules⟩ := ih (step.sound sound)
      exact ⟨workflows.trans step.workflows.1, schedules.trans step.workflows.2⟩
  · exact ⟨rfl, rfl⟩

lemma skipCode_room (sound : Sound database)
    (admits : skipCode workflow (activeExecutions database workflow.id).length = none) :
    (activeExecutions (clearExecutions now workflow (activeExecutions database workflow.id) database)
      workflow.id).length + 1 ≤ capacity workflow := by
  have fewer := (traces_clearExecutions now workflow
    (activeExecutions database workflow.id) sound).length_le workflow.id
  unfold skipCode at admits
  split at admits
  · cases admits
  next forbids =>
  split at admits
  · cases admits
  next allows =>
  unfold capacity
  cases policy : workflow.concurrencyPolicy with
  | allow =>
    have room : ¬ workflow.maxConcurrency ≤ (activeExecutions database workflow.id).length :=
      fun full => allows ⟨policy, full⟩
    dsimp only
    omega
  | forbid =>
    have idle : ¬ 0 < (activeExecutions database workflow.id).length :=
      fun busy => forbids ⟨policy, busy⟩
    dsimp only
    omega
  | replace =>
    rw [activeExecutions_clearExecutions policy]
    exact le_refl 1

lemma length_activeExecutions_append {executions : Executions}
    (rows : executions.rows = database.executions.rows ++ [fresh]) (workflowId : Uuid) :
    (activeExecutions { database with executions := executions } workflowId).length =
      (activeExecutions database workflowId).length +
        if fresh.execution.workflowId = workflowId ∧ fresh.Active then 1 else 0 := by
  rw [activeExecutions, activeExecutions, Table.select, Table.select, rows, List.filter_append,
    List.length_append]
  congr 1
  by_cases counted : fresh.execution.workflowId = workflowId ∧ fresh.Active
  · rw [if_pos counted]
    simp [counted]
  rw [if_neg counted]
  simpa using counted

lemma TriggerRequest.key_of_some {key : String} (workflowId : Uuid)
    (given : request.idempotencyKey = some key) (nonempty : key ≠ "") :
    request.key workflowId = key := by
  simp only [TriggerRequest.key, given, if_neg nonempty]

lemma occurrenceKey_ne_empty (config : Config) (scheduleId : Uuid) (occurrence : Time) :
    occurrenceKey config scheduleId occurrence ≠ "" := by
  intro empty
  have chars := congrArg String.toList empty
  simp [occurrenceKey, String.toList_append] at chars

lemma Admission.admitted_of {version : WorkflowVersion} (labelled : Labelled config request)
    (admission : Admission now workflow version request before after fresh) (sound : Sound before)
    (admitted : Admitted config before) : Admitted config after := by
  obtain ⟨shape, executions, inserted, rfl⟩ := admitExecution_spec admission.admitted
  obtain ⟨unused, rows⟩ := Table.insert?_spec inserted
  have traces := traces_clearExecutions now workflow (activeExecutions before workflow.id) sound
  have tables := clearExecutions_tables now workflow (activeExecutions before workflow.id) sound
  have cleared := admitted.traces traces tables.1
  have key : fresh.execution.idempotencyKey = request.key workflow.id := by
    rw [shape]
    rfl
  have added : ∀ other, other ∈ executions → other = fresh ∨ other ∈
      (clearExecutions now workflow (activeExecutions before workflow.id) before).executions := by
    intro other mem
    rw [Table.mem_iff, rows] at mem
    rcases List.mem_append.1 mem with stays | last
    · exact .inr stays
    exact .inl (List.mem_singleton.1 last)
  have newKey : ∀ other ∈
      (clearExecutions now workflow (activeExecutions before workflow.id) before).executions,
      other.execution.idempotencyKey ≠ fresh.execution.idempotencyKey := by
    intro other mem eq
    obtain ⟨former, formerIn, origin, -⟩ := traces other mem
    exact admission.newKey former formerIn (origin.idempotencyKey.symm.trans (eq.trans key))
  constructor
  · intro other otherIn
    rw [tables.1] at otherIn
    rw [length_activeExecutions_append rows]
    split
    · next counted =>
      obtain ⟨named, active⟩ := counted
      have eq : workflow.id = other.id := by
        rw [← named, shape]
        rfl
      rw [← Table.eq_of_key admission.stored otherIn eq]
      apply skipCode_room sound
      cases skip : skipCode workflow (activeExecutions before workflow.id).length with
      | none => rfl
      | some code =>
        rw [shape, skip] at active
        exact absurd active (show AutomationStatus.skipped ∉ activeExecutionStatuses by decide)
    · exact cleared.bounded other (tables.1 ▸ otherIn)
  · intro left leftIn right rightIn eq
    rcases added left leftIn with rfl | leftStays <;> rcases added right rightIn with rfl | rightStays
    · rfl
    · exact absurd eq.symm (newKey right rightStays)
    · exact absurd eq (newKey left leftStays)
    · exact cleared.distinct left leftStays right rightStays eq
  · intro other mem scheduleId occurrence scheduled for_
    rcases added other mem with rfl | stays
    · rw [shape] at scheduled for_
      rw [key, TriggerRequest.key_of_some workflow.id (labelled scheduleId occurrence scheduled for_)
        (occurrenceKey_ne_empty config scheduleId occurrence)]
    · exact cleared.labelled other stays scheduleId occurrence scheduled for_

end Obsion.Automation
