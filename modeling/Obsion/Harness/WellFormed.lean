import Obsion.Harness.Planner
import Obsion.Harness.Turns

/-! # Replanning keeps the step graph well formed

`Sound` adds to the chart of the steps what the scheduler needs: the preparation
steps are completed, and only capability steps are invoked.  Every dependency of a
capability step is then on a completed step or on an earlier capability step, so
among the capability steps that wait, the first one is ready. -/

namespace Obsion.Harness

open Obsion.Lib

lemma not_core_of_prelude {kind : StepKind} (prelude : kind ∈ preludeKinds) : kind ∉ coreKinds := by
  cases kind <;> simp_all [preludeKinds, coreKinds]

structure Sound (world : World) : Prop where
  charted : Charted world.rows
  prelude : ∀ step ∈ world.rows.steps, step.kind ∈ preludeKinds → step.status = .completed
  invoking : ∀ stepId, world.invoking stepId →
    ∃ step ∈ world.rows.steps, step.id = stepId ∧ step.kind = .capability

lemma created_sound {maxSteps timeoutSeconds : Nat} {createdBy : Uuid}
    {modelProfileId : Option Nat} {now : Time} :
    Sound (created maxSteps timeoutSeconds createdBy modelProfileId now) where
  charted := Charted.unplanned rfl (Or.inl rfl)
  prelude := by
    intro step mem
    cases mem
  invoking := by
    rintro stepId ⟨execution, mem, _⟩
    cases mem

variable {world : World} {settings : Settings} {steps : List RunStep}

lemma Sound.settled (sound : Sound world) {action : Action} {step : RunStep}
    (mem : step ∈ world.rows.steps) (settles : world.settles action = some step.id) :
    step.kind = .capability := by
  obtain ⟨invoked, invokedMember, eq, kind⟩ :=
    sound.invoking step.id (World.settles_invoking settles)
  rw [eq_of_id sound.charted.nodup.2 mem invokedMember eq.symm]
  exact kind

variable {world' : World} {timed : Timed} {capabilities : List StepShape}
  {verify reflect respond : StepShape}

lemma Sound.step (sound : Sound world) (run : perform settings world timed = some world') :
    Sound world' := by
  have moved := perform_moved sound.charted run
  refine ⟨perform_charted sound.charted run, ?_, ?_⟩
  · intro next mem kind
    have notCore : next.kind ∉ coreKinds := not_core_of_prelude kind
    rcases moved.origin mem with ⟨step, stepMember, move⟩ | fresh
    · have stepKind : step.kind ∈ preludeKinds := move.identity.2 ▸ kind
      have completed := sound.prelude step stepMember stepKind
      have unsettled : world.settles timed.action ≠ some step.id := by
        intro settles
        have capability := sound.settled stepMember settles
        simp [capability, preludeKinds] at stepKind
      rw [move.completed completed (not_core_of_prelude stepKind) unsettled]
      exact completed
    · rcases fresh.status notCore with ⟨capability, _⟩ | ⟨_, completed⟩
      · simp [capability, preludeKinds] at kind
      exact completed
  · intro stepId invoking
    have persists : ∀ step ∈ world.rows.steps, step.kind = .capability →
        ∃ next ∈ world'.rows.steps, next.id = step.id ∧ next.kind = .capability := by
      intro step mem kind
      obtain ⟨next, nextMember, move⟩ := moved.step mem
      exact ⟨next, nextMember, move.identity.1, move.identity.2.trans kind⟩
    rcases (act_executions run).invoking invoking with old | ⟨step, ready, eq⟩
    · obtain ⟨step, mem, eq, kind⟩ := sound.invoking stepId old
      obtain ⟨next, nextMember, id, nextKind⟩ := persists step mem kind
      exact ⟨next, nextMember, id.trans eq, nextKind⟩
    · obtain ⟨mem, _, kind⟩ := mem_ready ready
      obtain ⟨next, nextMember, id, nextKind⟩ := persists step mem kind
      exact ⟨next, nextMember, id.trans eq, nextKind⟩

lemma harness_sound (reached : Reachable (harness settings) world) : Sound world := by
  apply reached.holds
  · rintro start ⟨maxSteps, timeoutSeconds, createdBy, modelProfileId, now, rfl⟩
    exact created_sound
  · intro before timed after sound step
    exact sound.step step

/-- A capability step waits for completed steps and for capability steps before it. -/
def Grounded (steps : List RunStep) : Prop :=
  ∀ step ∈ steps, step.kind = .capability → ∀ dependency ∈ step.dependsOn,
    ∃ earlier ∈ steps, earlier.ordinal = dependency ∧ earlier.ordinal < step.ordinal ∧
      (earlier.kind = .capability ∨ earlier.status = .completed)

lemma status_cases (status : StepStatus) :
    status ∈ activeStepStatuses ∨ status = .completed ∨ status ∈ blockingStepStatuses := by
  cases status <;> decide

/-- Where no step is blocked or ready, no capability step waits, by induction on the
ordinal: the dependencies of the first one are completed. -/
lemma no_waiting_capability (nodup : (steps.map (·.ordinal)).Nodup) (grounded : Grounded steps)
    (ready : (nextWave steps).ready = []) (blocked : (nextWave steps).blocked = []) (bound : Nat) :
    ∀ step ∈ steps, step.ordinal < bound → step.kind = .capability →
      step.status ∉ activeStepStatuses := by
  induction bound with
  | zero =>
    intro step _ below
    omega
  | succ bound ih =>
    intro step mem below kind active
    have completed : ∀ dependency ∈ step.dependsOn,
        statusByOrdinal steps dependency = some .completed := by
      intro dependency depends
      obtain ⟨earlier, earlierMember, eq, before, origin⟩ :=
        grounded step mem kind dependency depends
      have status := statusByOrdinal_of_mem nodup earlierMember
      rw [eq] at status
      rcases status_cases earlier.status with waiting | done | blocking
      · rcases origin with capability | done
        · exact absurd waiting (ih earlier earlierMember (by omega) capability)
        rw [status, done]
      · rw [status, done]
      · have isBlocked := blocked_of_dependency mem active depends
          (by rw [status]; exact decide_eq_true blocking)
        rw [blocked] at isBlocked
        cases isBlocked
    have isReady : step ∈ (nextWave steps).ready := by
      have unblocked := blocked
      simp only [nextWave] at unblocked ⊢
      rw [unblocked]
      simp only [List.map_nil, List.not_mem_nil, not_false_eq_true, decide_true, Bool.true_and,
        List.mem_filter, Bool.and_eq_true, List.all_eq_true, decide_eq_true_eq]
      exact ⟨⟨mem, active⟩, kind, completed⟩
    rw [ready] at isReady
    cases isReady

lemma nextWave_flows (nodup : (steps.map (·.ordinal)).Nodup) (grounded : Grounded steps) :
    (nextWave steps).deadlocked = false := by
  by_contra stuck
  rw [Bool.not_eq_false] at stuck
  have parts : (nextWave steps).ready = [] ∧ (nextWave steps).blocked = [] ∧
      ∃ step ∈ steps, step.status ∈ activeStepStatuses ∧ step.kind = .capability := by
    simp only [nextWave, Bool.and_eq_true, List.isEmpty_iff, Bool.not_eq_true',
      List.isEmpty_eq_false_iff_exists_mem] at stuck ⊢
    obtain ⟨⟨ready, blocked⟩, step, mem⟩ := stuck
    simp only [List.mem_filter, Bool.and_eq_true, decide_eq_true_eq] at mem
    exact ⟨ready, blocked, step, mem.1.1, mem.1.2, mem.2.2⟩
  obtain ⟨ready, blocked, step, mem, active, kind⟩ := parts
  exact no_waiting_capability nodup grounded ready blocked (step.ordinal + 1) step mem
    (Nat.lt_succ_self _) kind active

structure WellFormed (steps : List RunStep) : Prop where
  ordinals : steps.map (·.ordinal) = List.range' 1 steps.length
  tail : ∃ front verifyStep reflectStep respondStep,
    steps = front ++ [verifyStep, reflectStep, respondStep] ∧
      verifyStep.kind = .verify ∧ reflectStep.kind = .reflect ∧ respondStep.kind = .respond ∧
      ∀ step ∈ steps, step.kind = .capability → step.ordinal ∈ verifyStep.dependsOn
  backward : ∀ step ∈ steps, ∀ dependency ∈ step.dependsOn,
    dependency < step.ordinal ∧ ∃ earlier ∈ steps, earlier.ordinal = dependency
  flows : (nextWave steps).deadlocked = false

lemma exists_of_ordinal (ordinals : steps.map (·.ordinal) = List.range' 1 steps.length)
    {step : RunStep} (mem : step ∈ steps) {ordinal : Nat} (positive : 1 ≤ ordinal)
    (below : ordinal ≤ step.ordinal) : ∃ earlier ∈ steps, earlier.ordinal = ordinal := by
  have upper : step.ordinal ∈ steps.map (·.ordinal) := List.mem_map_of_mem mem
  rw [ordinals, List.mem_range'_1] at upper
  have inside : ordinal ∈ steps.map (·.ordinal) := by
    rw [ordinals, List.mem_range'_1]
    omega
  exact List.mem_map.1 inside

lemma Outlined.backward_steps
    (outlined : Outlined (shapes steps) capabilities verify reflect respond) {step : RunStep}
    (mem : step ∈ steps) {dependency : Nat} (depends : dependency ∈ step.dependsOn) :
    dependency < step.ordinal ∧ ∃ earlier ∈ steps, earlier.ordinal = dependency := by
  have bounds : 1 ≤ dependency ∧ dependency < step.ordinal :=
    outlined.backward step.shape (mem_shapes mem) dependency depends
  have ordinals := outlined.ordinals
  rw [shapes_ordinals, length_shapes] at ordinals
  exact ⟨bounds.2, exists_of_ordinal ordinals mem bounds.1 (Nat.le_of_lt bounds.2)⟩

lemma Outlined.kind_of_before
    (outlined : Outlined (shapes steps) capabilities verify reflect respond) {step : RunStep}
    (mem : step ∈ steps) (before : step.ordinal < verify.ordinal) :
    step.kind ∈ [StepKind.observe, .understand, .plan, .capability] := by
  obtain ⟨front, verifyStep, reflectStep, respondStep, core, verifyShape, reflectShape,
    respondShape, _, _, positions⟩ := outlined.coreSteps
  have verifyOrdinal : verifyStep.ordinal = verify.ordinal := by rw [← verifyShape]; rfl
  have reflectOrdinal : reflectStep.ordinal = reflect.ordinal := by rw [← reflectShape]; rfl
  have respondOrdinal : respondStep.ordinal = respond.ordinal := by rw [← respondShape]; rfl
  rw [core.split] at mem
  rcases List.mem_append.1 mem with inFront | inCore
  · exact core.front step inFront
  simp only [List.mem_cons, List.not_mem_nil, or_false] at inCore
  rcases inCore with rfl | rfl | rfl
  all_goals omega

lemma Sound.grounded (sound : Sound world) : Grounded world.rows.steps := by
  intro step mem kind dependency depends
  have planned := sound.charted.planned_of_mem mem (by rw [kind]; decide)
  obtain ⟨capabilities, verify, reflect, respond, outlined⟩ := sound.charted.outlined planned
  obtain ⟨below, earlier, earlierMember, eq⟩ := outlined.backward_steps mem depends
  have beforeVerify := (outlined.capability_bounds mem kind).2.2
  have kinds := outlined.kind_of_before earlierMember (by omega)
  refine ⟨earlier, earlierMember, eq, by omega, ?_⟩
  by_cases capability : earlier.kind = .capability
  · exact .inl capability
  refine .inr (sound.prelude earlier earlierMember ?_)
  simp only [List.mem_cons, List.not_mem_nil, or_false, preludeKinds] at kinds ⊢
  tauto

lemma Sound.wellFormed (sound : Sound world) (planned : world.rows.run.plan.isSome = true) :
    WellFormed world.rows.steps := by
  obtain ⟨capabilities, verify, reflect, respond, outlined⟩ := sound.charted.outlined planned
  refine ⟨?_, ?_, ?_, nextWave_flows sound.charted.nodup.1 sound.grounded⟩
  · have ordinals := outlined.ordinals
    rwa [shapes_ordinals, length_shapes] at ordinals
  · obtain ⟨front, verifyStep, reflectStep, respondStep, core, verifyShape, _⟩ :=
      outlined.coreSteps
    obtain ⟨verifyKind, reflectKind, respondKind⟩ := core.kinds
    refine ⟨front, verifyStep, reflectStep, respondStep, core.split, verifyKind, reflectKind,
      respondKind, ?_⟩
    intro step mem kind
    have depends := outlined.verifies step.shape (outlined.capability_bounds mem kind).1
    rw [← verifyShape] at depends
    exact depends
  · intro step mem dependency depends
    exact outlined.backward_steps mem depends

lemma StepMove.not_reset {settles : Option Nat} {step after : RunStep}
    (move : StepMove settles step after) (completed : step.status = .completed)
    (other : step.kind ∉ coreKinds) : after.status ≠ .pending := by
  cases move with
  | core after only => rw [only.others other, completed]; decide
  | cancelled | skipped | started | waits => simp
  | recorded eq outcome ended =>
    rcases ended with status | status
    all_goals
      simp only [StepOutcome.record, status]
      decide
  | retried again => simp [retryable, completed] at again

lemma Sound.completed_kept (sound : Sound world) (run : perform settings world timed = some world')
    {step : RunStep} (mem : step ∈ world.rows.steps) (kind : step.kind = .capability)
    (completed : step.status = .completed) :
    (world.settles timed.action ≠ some step.id → step ∈ world'.rows.steps) ∧
      ∀ next ∈ world'.rows.steps, next.id = step.id → next.status ≠ .pending := by
  have moved := perform_moved sound.charted run
  have charted := perform_charted sound.charted run
  have other : step.kind ∉ coreKinds := by rw [kind]; decide
  obtain ⟨after, afterMember, move⟩ := moved.step mem
  constructor
  · intro unsettled
    rw [← move.completed completed other unsettled]
    exact afterMember
  · intro next nextMember eq
    have isAfter : next = after :=
      eq_of_id charted.nodup.2 nextMember afterMember (eq.trans move.identity.1.symm)
    rw [isAfter]
    exact move.not_reset completed other

/-- In every reachable state of a Run with a plan the step graph is well formed, and
whatever happens next, a COMPLETED capability step stays as it is unless it is the
outcome of an invocation of that very step that is recorded; even then it is not
set back to PENDING. -/
theorem harness_wellFormed {settings : Settings} {world : World}
    (reached : Reachable (harness settings) world)
    (planned : world.rows.run.plan.isSome = true) :
    WellFormed world.rows.steps ∧ ∀ timed world', perform settings world timed = some world' →
        ∀ step ∈ world.rows.steps, step.kind = .capability → step.status = .completed →
          (world.settles timed.action ≠ some step.id → step ∈ world'.rows.steps) ∧
            ∀ next ∈ world'.rows.steps, next.id = step.id → next.status ≠ .pending := by
  have sound := harness_sound reached
  refine ⟨sound.wellFormed planned, ?_⟩
  intro timed world' run step member kind completed
  exact sound.completed_kept run member kind completed

def sampleSettings : Settings := ⟨1, 1, [7], fun _ => ""⟩

def sampleUser : Uuid := .repeating 1

def sampleIncident : Understanding :=
  { route := "INCIDENT", question := "why do orders fail"
    timeRange := .obj [("start", .str "09:00")], organizationSearchAllowed := true
    selectedDocuments := [], repository := none, service := some (.str "orders")
    metrics := none }

def samplePlan : ExecutionPlan :=
  Planner.create sampleSettings sampleIncident none (some ["metric.query", "metric.compare"])

def sampleActions : List Action :=
  [.claim "worker-1", .record 0,
   .prepare 0 (.plan samplePlan ["log.search", "metric.query", "metric.compare"]) [],
   .executeSteps 0,
   .gateway 0 0 ⟨none, 7, .completed "evidence-1"⟩,
   .settle 0 0]

theorem harness_wellFormed_step : ∃ world world' step, WellFormed world.rows.steps ∧
      perform sampleSettings world ⟨0, .executeSteps 0⟩ = some world' ∧
      step.kind = .capability ∧ step.status = .completed ∧ step ∈ world'.rows.steps := by
  obtain ⟨moves, world, world', run, planned, performed, completed, settles⟩ :
      ∃ moves world world', replay (perform sampleSettings) (created 50 600 sampleUser none 0)
          (sampleActions.map (Timed.mk 0)) = some (moves, world) ∧
        world.rows.run.plan.isSome = true ∧
        perform sampleSettings world ⟨0, .executeSteps 0⟩ = some world' ∧
        world.rows.steps[3]?.map (fun step => (step.kind, step.status))
          = some (.capability, .completed) ∧
        world.settles (.executeSteps 0) = none :=
    ⟨_, _, _, rfl, rfl, rfl, rfl, rfl⟩
  have reached : Reachable (harness sampleSettings) world :=
    (Path.of_replay run).reachable ⟨50, 600, sampleUser, none, 0, rfl⟩
  obtain ⟨step, located, same⟩ := Option.map_eq_some_iff.1 completed
  simp only [Prod.mk.injEq] at same
  have graph := harness_wellFormed reached planned
  have kept := graph.2 ⟨0, .executeSteps 0⟩ world' performed step (List.mem_of_getElem? located)
    same.1 same.2
  refine ⟨world, world', step, graph.1, performed, same.1, same.2, kept.1 ?_⟩
  rw [settles]
  simp

end Obsion.Harness
