import Obsion.Automation.Worker

/-! # What holds of the steps of one execution

`Later` is how the Run rows may change: no row is removed, a terminal status is kept and
a request to cancel is not withdrawn.  `Kept` is the invariant of one execution and its
steps; every write of the service and of the worker keeps it. -/

namespace Obsion.Automation

open Obsion.Lib
open Obsion.Harness (isTerminal)

/-! ## Child Runs -/

structure LaterRun (before after : ChildRun) : Prop where
  id : after.id = before.id
  terminal : isTerminal before.status = true → after.status = before.status
  requested : before.cancellationRequestedAt.isSome = true → after.cancellationRequestedAt.isSome = true

def Later (before after : Runs) : Prop := ∀ run ∈ before, ∃ next ∈ after, LaterRun run next

lemma LaterRun.refl (run : ChildRun) : LaterRun run run := ⟨rfl, fun _ => rfl, fun set => set⟩

lemma LaterRun.trans {first second third : ChildRun} (left : LaterRun first second)
    (right : LaterRun second third) : LaterRun first third := by
  refine ⟨right.id.trans left.id, ?_, fun set => right.requested (left.requested set)⟩
  intro ended
  have eq := left.terminal ended
  exact (right.terminal (eq ▸ ended)).trans eq

lemma Later.refl (runs : Runs) : Later runs runs := fun run mem => ⟨run, mem, .refl run⟩

lemma Later.trans {first second third : Runs} (left : Later first second)
    (right : Later second third) : Later first third := by
  intro run mem
  obtain ⟨next, nextIn, step⟩ := left run mem
  obtain ⟨last, lastIn, more⟩ := right next nextIn
  exact ⟨last, lastIn, step.trans more⟩

variable {change : ChildRun → ChildRun} {run : ChildRun} {before : Runs}
  {step : AutomationStepExecution}

lemma later_changeRuns {keeps : ∀ run, (change run).id = run.id}
    (allowed : ∀ run, LaterRun run (change run)) (ids : List Uuid) (runs : Runs) :
    Later runs (changeRuns change keeps ids runs) := by
  intro run mem
  refine ⟨_, Table.mem_update.2 ⟨run, mem, rfl⟩, ?_⟩
  split
  · exact allowed run
  exact .refl run

variable {runs after : Runs} {rows : ExecutionRows}

lemma later_insert (inserted : runs.insert? run = some after) : Later runs after := by
  obtain ⟨-, rows⟩ := Table.insert?_spec inserted
  intro former mem
  refine ⟨former, ?_, .refl former⟩
  rw [Table.mem_iff, rows]
  exact List.mem_append_left _ mem

lemma laterRun_cancelRun (now : Time) (run : ChildRun) : LaterRun run (cancelRun now run) := by
  unfold cancelRun
  split
  · exact .refl run
  next open_ => exact ⟨rfl, fun ended => absurd ended open_, fun _ => rfl⟩

lemma laterRun_requestRun (now : Time) (run : ChildRun) : LaterRun run (requestRun now run) := by
  unfold requestRun
  split
  · exact .refl run
  exact ⟨rfl, fun _ => rfl, fun _ => rfl⟩

def SettledRun (run : ChildRun) : Prop :=
  isTerminal run.status = true ∨ run.cancellationRequestedAt.isSome = true

lemma settled_cancelRun (now : Time) (run : ChildRun) : SettledRun (cancelRun now run) := by
  unfold cancelRun
  split
  · next ended => exact .inl ended
  exact .inr rfl

lemma settled_requestRun (now : Time) (run : ChildRun) : SettledRun (requestRun now run) := by
  unfold requestRun
  split
  · next ended => exact .inl ended
  exact .inr rfl

lemma LaterRun.settled {before after : ChildRun} (later : LaterRun before after)
    (settled : SettledRun before) : SettledRun after := by
  rcases settled with ended | set
  · exact .inl (later.terminal ended ▸ ended)
  exact .inr (later.requested set)

lemma exists_settled_changeRuns {keeps : ∀ run, (change run).id = run.id}
    (settles : ∀ run, SettledRun (change run)) {ids : List Uuid} (mem : run ∈ runs)
    (chosen : run.id ∈ ids) :
    ∃ next ∈ changeRuns change keeps ids runs, next.id = run.id ∧ SettledRun next :=
  ⟨_, Table.mem_update.2 ⟨run, mem, if_pos chosen⟩, keeps run, settles run⟩

/-- What the Runs say of the child of a step with the given status. -/
def Tracked (runs : Runs) : AutomationStepStatus → Uuid → Prop
  | .pending, _ | .waitingReview, _ => False
  | .running, id => ∃ run ∈ runs, run.id = id
  | .completed, id | .failed, id => ∃ run ∈ runs, run.id = id ∧ isTerminal run.status = true
  | .cancelled, id | .skipped, id => ∃ run ∈ runs, run.id = id ∧ SettledRun run

lemma Tracked.later (later : Later before after) {status : AutomationStepStatus} {id : Uuid}
    (tracked : Tracked before status id) : Tracked after status id := by
  have found : ∀ {Holds : ChildRun → Prop}, (∀ run next, LaterRun run next → Holds run → Holds next) →
      (∃ run ∈ before, run.id = id ∧ Holds run) → ∃ run ∈ after, run.id = id ∧ Holds run := by
    rintro Holds kept ⟨run, mem, eq, holds⟩
    obtain ⟨next, nextIn, step⟩ := later run mem
    exact ⟨next, nextIn, step.id.trans eq, kept run next step holds⟩
  have ended : ∀ run next, LaterRun run next → isTerminal run.status = true →
      isTerminal next.status = true := fun run next step terminal => step.terminal terminal ▸ terminal
  cases status with
  | pending | waitingReview => exact tracked
  | running =>
    obtain ⟨run, mem, eq⟩ := tracked
    obtain ⟨next, nextIn, step⟩ := later run mem
    exact ⟨next, nextIn, step.id.trans eq⟩
  | completed | failed => exact found ended tracked
  | cancelled | skipped => exact found (fun run next step => step.settled) tracked

def Begun (status : AutomationStepStatus) : Prop :=
  status = .running ∨ status = .waitingReview ∨ status = .completed

def Supported (steps : Steps) (step : AutomationStepExecution) : Prop :=
  ∀ key ∈ step.dependsOn, ∃ dependency ∈ steps,
    dependency.stepKey = key ∧ dependency.status = .completed

structure Kept (runs : Runs) (rows : ExecutionRows) : Prop where
  tracked : ∀ step ∈ rows.steps, ∀ id, step.runId = some id → Tracked runs step.status id
  begun : ∀ step ∈ rows.steps, Begun step.status → step.startedAt.isSome = true
  supported : ∀ step ∈ rows.steps, step.startedAt.isSome = true → Supported rows.steps step
  closed : ¬ rows.Active → ∀ step ∈ rows.steps, step.status ≠ .pending ∧ step.status ≠ .waitingReview
  drained : ¬ rows.Active → ∀ step ∈ rows.steps, step.status = .running →
    ∃ reviewed ∈ rows.steps, reviewed.reviewDecision = some .reject
  completed : rows.execution.status = .completed → ∀ step ∈ rows.steps, step.status = .completed
  rejected : ∀ step ∈ rows.steps, step.reviewDecision = some .reject → rows.execution.status = .failed

lemma Kept.later (later : Later before after) (kept : Kept before rows) : Kept after rows :=
  { kept with tracked := fun step mem id child => (kept.tracked step mem id child).later later }

lemma not_completed_of_active (active : rows.Active) : rows.execution.status ≠ .completed := by
  intro completed
  rw [ExecutionRows.Active, completed] at active
  exact absurd active (by decide)

lemma Kept.unrejected (kept : Kept runs rows) (active : rows.Active) (mem : step ∈ rows.steps) :
    step.reviewDecision ≠ some .reject := by
  intro decision
  rw [ExecutionRows.Active, kept.rejected step mem decision] at active
  exact absurd active (by decide)

lemma Kept.of_active (active : rows.Active)
    (tracked : ∀ step ∈ rows.steps, ∀ id, step.runId = some id → Tracked runs step.status id)
    (begun : ∀ step ∈ rows.steps, Begun step.status → step.startedAt.isSome = true)
    (supported : ∀ step ∈ rows.steps, step.startedAt.isSome = true → Supported rows.steps step)
    (unrejected : ∀ step ∈ rows.steps, step.reviewDecision ≠ some .reject) : Kept runs rows where
  tracked := tracked
  begun := begun
  supported := supported
  closed ended := absurd active ended
  drained ended := absurd active ended
  completed done := absurd done (not_completed_of_active active)
  rejected step mem decision := absurd decision (unrejected step mem)

structure SweptStep (before after : AutomationStepExecution) : Prop where
  status : after.status = .cancelled ∨ after.status = .skipped
  runId : after.runId = before.runId
  dependsOn : after.dependsOn = before.dependsOn
  startedAt : after.startedAt = before.startedAt
  reviewDecision : after.reviewDecision = before.reviewDecision

def Sweeps (change : AutomationStepExecution → AutomationStepExecution) : Prop :=
  ∀ step, if step.status ∈ stepTerminal then change step = step else SweptStep step (change step)

lemma sweeps_cancelStep (now : Time) : Sweeps (cancelStep now) := by
  intro step
  unfold cancelStep
  split
  · rfl
  exact ⟨Or.inl rfl, rfl, rfl, rfl, rfl⟩

lemma sweeps_failStep (now : Time) (code : String) : Sweeps (failStep now code) := by
  intro step
  unfold failStep
  split
  · rfl
  exact ⟨Or.inr rfl, rfl, rfl, rfl, rfl⟩

lemma Supported.sweep {steps : Steps} {change : AutomationStepExecution → AutomationStepExecution}
    (keeps : ∀ step, (change step).stepKey = step.stepKey) (sweeps : Sweeps change)
    (supported : Supported steps step) :
    Supported (steps.update change keeps) step := by
  intro key mem
  obtain ⟨dependency, dependencyIn, eq, completed⟩ := supported key mem
  have unchanged := sweeps dependency
  rw [if_pos (by rw [completed]; decide)] at unchanged
  exact ⟨dependency, Table.mem_update.2 ⟨dependency, dependencyIn, unchanged⟩, eq, completed⟩

lemma Kept.sweep {swept : ExecutionRows} (kept : Kept runs rows) (active : rows.Active)
    {change : AutomationStepExecution → AutomationStepExecution}
    (keeps : ∀ step, (change step).stepKey = step.stepKey) (sweeps : Sweeps change)
    (steps : swept.steps = rows.steps.update change keeps)
    (incomplete : swept.execution.status ≠ .completed) (later : Later runs after)
    (settled : ∀ run ∈ runs, run.id ∈ openChildren rows →
      ∃ next ∈ after, next.id = run.id ∧ SettledRun next) : Kept after swept := by
  have cases_ : ∀ step ∈ swept.steps, (step ∈ rows.steps ∧ step.status ∈ stepTerminal) ∨
      ∃ former ∈ rows.steps, former.status ∉ stepTerminal ∧ SweptStep former step := by
    intro step mem
    rw [steps] at mem
    obtain ⟨former, formerIn, rfl⟩ := Table.mem_update.1 mem
    have effect := sweeps former
    split at effect
    · next ended =>
      rw [effect]
      exact .inl ⟨formerIn, ended⟩
    · next open_ => exact .inr ⟨former, formerIn, open_, effect⟩
  have unbegun : ∀ {former step : AutomationStepExecution}, SweptStep former step →
      ¬ Begun step.status := by
    rintro former step effect (running | waiting | completed)
    · rcases effect.status with eq | eq <;> rw [eq] at running <;> cases running
    · rcases effect.status with eq | eq <;> rw [eq] at waiting <;> cases waiting
    · rcases effect.status with eq | eq <;> rw [eq] at completed <;> cases completed
  constructor
  · intro step mem id child
    rcases cases_ step mem with ⟨stays, -⟩ | ⟨former, formerIn, open_, effect⟩
    · exact (kept.tracked step stays id child).later later
    rw [effect.runId] at child
    have found : ∃ run ∈ runs, run.id = id := by
      have before := kept.tracked former formerIn id child
      rw [mem_stepTerminal_iff] at open_
      cases status : former.status <;> rw [status] at before open_
      case running => exact before
      all_goals first | exact before.elim | simp at open_
    obtain ⟨run, runIn, rfl⟩ := found
    have chosen : run.id ∈ openChildren rows :=
      List.mem_filterMap.2 ⟨former, formerIn, by rw [if_neg open_]; exact child⟩
    have done := settled run runIn chosen
    rcases effect.status with eq | eq <;> rw [eq] <;> exact done
  · intro step mem started
    rcases cases_ step mem with ⟨stays, -⟩ | ⟨former, -, -, effect⟩
    · exact kept.begun step stays started
    exact absurd started (unbegun effect)
  · intro step mem started
    rw [steps]
    rcases cases_ step mem with ⟨stays, -⟩ | ⟨former, formerIn, -, effect⟩
    · exact (kept.supported step stays started).sweep keeps sweeps
    rw [effect.startedAt] at started
    have before := (kept.supported former formerIn started).sweep keeps sweeps
    intro key dependent
    exact before key (effect.dependsOn ▸ dependent)
  · intro _ step mem
    rcases cases_ step mem with ⟨-, ended⟩ | ⟨former, -, -, effect⟩
    · rw [mem_stepTerminal_iff] at ended
      exact ⟨ended.1, ended.2.2⟩
    rcases effect.status with eq | eq <;> rw [eq] <;> decide
  · intro _ step mem running
    rcases cases_ step mem with ⟨-, ended⟩ | ⟨former, -, -, effect⟩
    · rw [running] at ended
      exact absurd ended (by decide)
    exact absurd (Or.inl running) (unbegun effect)
  · exact fun done => absurd done incomplete
  · intro step mem decision
    rcases cases_ step mem with ⟨stays, -⟩ | ⟨former, formerIn, -, effect⟩
    · exact absurd decision (kept.unrejected active stays)
    rw [effect.reviewDecision] at decision
    exact absurd decision (kept.unrejected active formerIn)

lemma kept_cancelRows (now : Time) (active : rows.Active) (kept : Kept runs rows) :
    Kept (changeRuns (cancelRun now) (cancelRun_id now) (openChildren rows) runs)
      (cancelRows now rows) :=
  kept.sweep active (cancelStep_stepKey now) (sweeps_cancelStep now) rfl (by simp [cancelRows])
    (later_changeRuns (laterRun_cancelRun now) _ runs)
    fun _ mem chosen => exists_settled_changeRuns (settled_cancelRun now) mem chosen

lemma kept_failRows (now : Time) (code message : String) (active : rows.Active)
    (kept : Kept runs rows) :
    Kept (changeRuns (requestRun now) (requestRun_id now) (openChildren rows) runs)
      (failRows now code message rows) :=
  kept.sweep active (failStep_stepKey now code) (sweeps_failStep now code) rfl (by simp [failRows])
    (later_changeRuns (laterRun_requestRun now) _ runs)
    fun _ mem chosen => exists_settled_changeRuns (settled_requestRun now) mem chosen

end Obsion.Automation
