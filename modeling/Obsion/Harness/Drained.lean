import Obsion.Harness.Terminates

/-! # Waves over a whole graph

What `StepExecutor.next_wave` says about any graph of steps, and how the graph of a plan empties
wave by wave. -/

namespace Obsion.Harness

variable {steps : List RunStep} {kinds : List StepKind} {step : RunStep}

/-- `executable_kinds or frozenset({StepKind.CAPABILITY})` -/
def executableKinds (given : Option (List StepKind)) : List StepKind :=
  match given with
  | none | some [] => [.capability]
  | some kinds => kinds

/-- `next_wave` of an executor for some kinds of steps -/
def nextWaveOf (kinds : List StepKind) (steps : List RunStep) : StepExecutionWave :=
  let active := steps.filter fun step => step.status ∈ activeStepStatuses
  let blocked := active.filter fun step =>
    step.dependsOn.any fun ordinal => isBlocking (statusByOrdinal steps ordinal)
  let blockedOrdinals := blocked.map (·.ordinal)
  let ready := active.filter fun step =>
    step.ordinal ∉ blockedOrdinals && step.kind ∈ kinds &&
      step.dependsOn.all fun ordinal => statusByOrdinal steps ordinal = some .completed
  let waitingExecutable := active.filter fun step =>
    step.ordinal ∉ blockedOrdinals && step.kind ∈ kinds
  { ready, blocked, deadlocked := ready.isEmpty && blocked.isEmpty && !waitingExecutable.isEmpty }

lemma nextWaveOf_default (steps : List RunStep) : nextWaveOf (executableKinds none) steps = nextWave steps := by
  simp only [nextWaveOf, nextWave, executableKinds, List.mem_singleton]

lemma mem_blockedOf : step ∈ (nextWaveOf kinds steps).blocked ↔
    step ∈ steps ∧ step.status ∈ activeStepStatuses ∧
      ∃ ordinal ∈ step.dependsOn, isBlocking (statusByOrdinal steps ordinal) = true := by
  simp only [nextWaveOf, List.mem_filter, decide_eq_true_eq, List.any_eq_true, and_assoc]

lemma mem_readyOf : step ∈ (nextWaveOf kinds steps).ready ↔
    step ∈ steps ∧ step.status ∈ activeStepStatuses ∧
      step.ordinal ∉ (nextWaveOf kinds steps).blocked.map (·.ordinal) ∧ step.kind ∈ kinds ∧
      ∀ ordinal ∈ step.dependsOn, statusByOrdinal steps ordinal = some .completed := by
  simp only [nextWaveOf, List.mem_filter, decide_eq_true_eq, Bool.and_eq_true, List.all_eq_true, and_assoc]

lemma deadlockedOf : (nextWaveOf kinds steps).deadlocked = true ↔
    (nextWaveOf kinds steps).ready = [] ∧ (nextWaveOf kinds steps).blocked = [] ∧
      ∃ step ∈ steps, step.status ∈ activeStepStatuses ∧ step.kind ∈ kinds := by
  constructor
  · intro stuck
    simp only [nextWaveOf, Bool.and_eq_true, List.isEmpty_iff, Bool.not_eq_true',
      List.isEmpty_eq_false_iff_exists_mem] at stuck ⊢
    obtain ⟨⟨ready, blocked⟩, step, mem⟩ := stuck
    simp only [List.mem_filter, Bool.and_eq_true, decide_eq_true_eq] at mem
    exact ⟨ready, blocked, step, mem.1.1, mem.1.2, mem.2.2⟩
  · rintro ⟨ready, blocked, step, mem, active, kind⟩
    simp only [nextWaveOf, Bool.and_eq_true, List.isEmpty_iff, Bool.not_eq_true',
      List.isEmpty_eq_false_iff_exists_mem] at ready blocked ⊢
    refine ⟨⟨ready, blocked⟩, step, ?_⟩
    rw [blocked]
    simp only [List.mem_filter, Bool.and_eq_true, decide_eq_true_eq, List.map_nil, List.not_mem_nil,
      not_false_eq_true, true_and]
    exact ⟨⟨mem, active⟩, kind⟩

def Waits (steps : List RunStep) (waiting ordinal : Nat) : Prop :=
  ∃ step ∈ steps, step.ordinal = waiting ∧ ordinal ∈ step.dependsOn

def Missing (steps : List RunStep) (ordinal : Nat) : Prop := ∀ step ∈ steps, step.ordinal ≠ ordinal

/-- An active step that the executor does not execute has the ordinal. -/
def Foreign (kinds : List StepKind) (steps : List RunStep) (ordinal : Nat) : Prop :=
  ∃ step ∈ steps, step.ordinal = ordinal ∧ step.status ∈ activeStepStatuses ∧ step.kind ∉ kinds

def executable (kinds : List StepKind) (steps : List RunStep) : List RunStep :=
  steps.filter fun step => step.status ∈ activeStepStatuses && step.kind ∈ kinds

lemma mem_executable : step ∈ executable kinds steps ↔
    step ∈ steps ∧ step.status ∈ activeStepStatuses ∧ step.kind ∈ kinds := by
  simp only [executable, List.mem_filter, Bool.and_eq_true, decide_eq_true_eq]

def activeSteps (steps : List RunStep) : List RunStep := steps.filter fun step => step.status ∈ activeStepStatuses

lemma waits_of_active {waiting ordinal : Nat} (waits : Waits (activeSteps steps) waiting ordinal) :
    Waits steps waiting ordinal := by
  obtain ⟨step, mem, eq, depends⟩ := waits
  exact ⟨step, (List.mem_filter.1 mem).1, eq, depends⟩

/-- A step that is neither ready nor blocked waits for a missing or foreign ordinal, or for another
step of its kind. -/
lemma exists_waits (distinct : (steps.map (·.ordinal)).Nodup) (ready : (nextWaveOf kinds steps).ready = [])
    (blocked : (nextWaveOf kinds steps).blocked = []) (mem : step ∈ executable kinds steps) :
    ∃ ordinal, Waits (activeSteps steps) step.ordinal ordinal ∧
      (Missing steps ordinal ∨ Foreign kinds steps ordinal ∨
        ∃ other ∈ executable kinds steps, other.ordinal = ordinal) := by
  obtain ⟨inside, active, kind⟩ := mem_executable.1 mem
  have open_ : ¬ ∀ ordinal ∈ step.dependsOn, statusByOrdinal steps ordinal = some .completed := by
    intro completed
    have isReady : step ∈ (nextWaveOf kinds steps).ready :=
      mem_readyOf.2 ⟨inside, active, by rw [blocked]; exact List.not_mem_nil, kind, completed⟩
    rw [ready] at isReady
    cases isReady
  push Not at open_
  obtain ⟨ordinal, depends, unfinished⟩ := open_
  refine ⟨ordinal, ⟨step, List.mem_filter.2 ⟨inside, decide_eq_true active⟩, rfl, depends⟩, ?_⟩
  by_cases missing : Missing steps ordinal
  · exact .inl missing
  unfold Missing at missing
  push Not at missing
  obtain ⟨other, otherInside, rfl⟩ := missing
  have status := statusByOrdinal_of_mem distinct otherInside
  rw [status] at unfinished
  rcases status_cases other.status with waiting | done | blocking
  · by_cases otherKind : other.kind ∈ kinds
    · exact .inr (Or.inr ⟨other, mem_executable.2 ⟨otherInside, waiting, otherKind⟩, rfl⟩)
    exact .inr (Or.inl ⟨other, otherInside, rfl, waiting, otherKind⟩)
  · exact absurd (congrArg some done) unfinished
  · have isBlocked : step ∈ (nextWaveOf kinds steps).blocked :=
      mem_blockedOf.2 ⟨inside, active, other.ordinal, depends, by rw [status]; exact decide_eq_true blocking⟩
    rw [blocked] at isBlocked
    cases isBlocked

/-- By induction on the waiting steps, which is well-founded where they are on no cycle. -/
lemma deadlock_cause (distinct : (steps.map (·.ordinal)).Nodup)
    (deadlocked : (nextWaveOf kinds steps).deadlocked = true) :
    ∃ step ∈ steps, step.status ∈ activeStepStatuses ∧ step.kind ∈ kinds ∧
      ∃ ordinal, Relation.TransGen (Waits (activeSteps steps)) step.ordinal ordinal ∧
        (Missing steps ordinal ∨ Foreign kinds steps ordinal ∨
          Relation.TransGen (Waits (activeSteps steps)) ordinal ordinal) := by
  obtain ⟨ready, blocked, first, firstInside, firstActive, firstKind⟩ := deadlockedOf.1 deadlocked
  by_contra! none_
  have acyclic : ∀ step ∈ executable kinds steps,
      ¬ Relation.TransGen (Waits (activeSteps steps)) step.ordinal step.ordinal := by
    intro step mem cycle
    obtain ⟨inside, active, kind⟩ := mem_executable.1 mem
    exact (none_ step inside active kind step.ordinal cycle).2.2 cycle
  let After (later earlier : {step // step ∈ executable kinds steps}) : Prop :=
    Relation.TransGen (Waits (activeSteps steps)) earlier.val.ordinal later.val.ordinal
  have finite : Finite {step // step ∈ executable kinds steps} := (List.finite_toSet _).to_subtype
  have isTrans : IsTrans _ After := ⟨fun _ _ _ upper lower => lower.trans upper⟩
  have irrefl : Std.Irrefl After := ⟨fun step => acyclic step.val step.property⟩
  have founded := Finite.wellFounded_of_trans_of_irrefl After
  have stuck : ∀ step : {step // step ∈ executable kinds steps}, False := by
    intro step
    induction step using founded.induction with
    | _ step ih =>
      obtain ⟨inside, active, kind⟩ := mem_executable.1 step.property
      obtain ⟨ordinal, waits, missing | foreign | ⟨other, otherMember, rfl⟩⟩ :=
        exists_waits distinct ready blocked step.property
      · exact (none_ step.val inside active kind ordinal (.single waits)).1 missing
      · exact (none_ step.val inside active kind ordinal (.single waits)).2.1 foreign
      · exact ih ⟨other, otherMember⟩ (.single waits)
  exact stuck ⟨first, mem_executable.2 ⟨firstInside, firstActive, firstKind⟩⟩

/-- Ready steps are those whose dependencies are completed, no step is ready and blocked, and a
deadlock is a missing ordinal, a step of another kind or a cycle that some step waits for. -/
theorem next_wave_complete (given : Option (List StepKind)) (steps : List RunStep)
    (distinct : (steps.map (·.ordinal)).Nodup) :
    (∀ step ∈ (nextWaveOf (executableKinds given) steps).ready,
        step ∉ (nextWaveOf (executableKinds given) steps).blocked) ∧
      (∀ step, step ∈ (nextWaveOf (executableKinds given) steps).ready ↔
        step ∈ steps ∧ step.status ∈ activeStepStatuses ∧ step.kind ∈ executableKinds given ∧
          ∀ ordinal ∈ step.dependsOn, statusByOrdinal steps ordinal = some .completed) ∧
      ((∀ step ∈ steps, step.status ∈ activeStepStatuses → step.kind ∈ executableKinds given) →
        (∀ step ∈ steps, ∀ ordinal ∈ step.dependsOn, ¬ Missing steps ordinal) →
        (∀ ordinal, ¬ Relation.TransGen (Waits steps) ordinal ordinal) →
        (nextWaveOf (executableKinds given) steps).deadlocked = false) ∧
      ((nextWaveOf (executableKinds given) steps).deadlocked = true →
        ∃ step ∈ steps, step.status ∈ activeStepStatuses ∧ step.kind ∈ executableKinds given ∧
          ∃ ordinal, Relation.TransGen (Waits (activeSteps steps)) step.ordinal ordinal ∧
            (Missing steps ordinal ∨ Foreign (executableKinds given) steps ordinal ∨
              Relation.TransGen (Waits (activeSteps steps)) ordinal ordinal)) := by
  refine ⟨fun step ready blocked => ?_, fun step => ⟨fun ready => ?_, ?_⟩, ?_, deadlock_cause distinct⟩
  · exact (mem_readyOf.1 ready).2.2.1 (List.mem_map_of_mem blocked)
  · obtain ⟨inside, active, -, kind, completed⟩ := mem_readyOf.1 ready
    exact ⟨inside, active, kind, completed⟩
  · rintro ⟨inside, active, kind, completed⟩
    refine mem_readyOf.2 ⟨inside, active, fun blocked => ?_, kind, completed⟩
    obtain ⟨other, otherBlocked, same⟩ := List.mem_map.1 blocked
    obtain ⟨otherInside, -, ordinal, depends, blocking⟩ := mem_blockedOf.1 otherBlocked
    obtain rfl := List.inj_on_of_nodup_map distinct otherInside inside same
    rw [completed ordinal depends] at blocking
    cases blocking
  · intro executables named acyclic
    rw [← Bool.not_eq_true]
    intro deadlocked
    obtain ⟨step, -, -, -, ordinal, waits, missing | foreign | cycle⟩ := deadlock_cause distinct deadlocked
    · obtain ⟨waiting, ⟨last, inside, -, depends⟩⟩ := (Relation.TransGen.tail'_iff.1 waits).imp fun _ => And.right
      exact named last (List.mem_filter.1 inside).1 ordinal depends missing
    · obtain ⟨other, inside, -, active, kind⟩ := foreign
      exact kind (executables other inside active)
    · exact acyclic ordinal (cycle.lift id fun _ _ => waits_of_active)

def sampleStep (ordinal : Nat) (status : StepStatus) (dependsOn : List Nat) : RunStep :=
  { id := ordinal, ordinal, name := "", kind := .capability, status, dependsOn }

/-- One of two steps is ready, and the other one waits for it. -/
theorem next_wave_complete_sample : sampleStep 1 .pending [] ∈
      (nextWaveOf (executableKinds none) [sampleStep 2 .pending [1], sampleStep 1 .pending []]).ready := by
  have complete := next_wave_complete none [sampleStep 2 .pending [1], sampleStep 1 .pending []] (by decide)
  exact (complete.2.1 _).2 ⟨by simp, by decide, by decide, by simp [sampleStep]⟩

/-! ## The graph of a plan -/

inductive Outcome
  | completed
  | failed
  | skipped
  | cancelled
  deriving DecidableEq, Repr

def Outcome.status : Outcome → StepStatus
  | .completed => .completed
  | .failed => .failed
  | .skipped => .skipped
  | .cancelled => .cancelled

def planSteps (plan : ExecutionPlan) : List RunStep :=
  plan.steps.mapIdx fun index planned =>
    { id := index, ordinal := index + 1, name := planned.name, kind := .capability
      status := .pending, dependsOn := planned.dependsOn
      inputPayload := some planned.toCapabilityInput }

def settle (outcome : Nat → Outcome) (wave : StepExecutionWave) (step : RunStep) : RunStep :=
  if step.ordinal ∈ wave.ready.map (·.ordinal) then { step with status := (outcome step.ordinal).status }
  else if step.ordinal ∈ wave.blocked.map (·.ordinal) then { step with status := .skipped }
  else step

/-- The steps after some waves, where each step has the outcome of its wave. -/
def waves (outcomes : Nat → Nat → Outcome) (steps : List RunStep) : Nat → List RunStep
  | 0 => steps
  | count + 1 =>
    (waves outcomes steps count).map (settle (outcomes count) (nextWave (waves outcomes steps count)))

variable {outcome : Nat → Outcome} {wave : StepExecutionWave} {outcomes : Nat → Nat → Outcome} {plan : ExecutionPlan}

lemma Outcome.ended (outcome : Outcome) : outcome.status ∉ activeStepStatuses := by
  cases outcome <;> decide

lemma settle_shape (step : RunStep) : (settle outcome wave step).ordinal = step.ordinal ∧
    (settle outcome wave step).kind = step.kind ∧ (settle outcome wave step).dependsOn = step.dependsOn := by
  unfold settle
  split
  · exact ⟨rfl, rfl, rfl⟩
  split <;> exact ⟨rfl, rfl, rfl⟩

lemma settle_active (active : (settle outcome wave step).status ∈ activeStepStatuses) :
    settle outcome wave step = step ∧ step.ordinal ∉ wave.ready.map (·.ordinal) ∧
      step.ordinal ∉ wave.blocked.map (·.ordinal) := by
  unfold settle at active ⊢
  split at active
  · exact absurd active (Outcome.ended _)
  next unready =>
  split at active
  · exact absurd active (Outcome.ended .skipped)
  next unblocked => exact ⟨by rw [if_neg unready, if_neg unblocked], unready, unblocked⟩

/-- Distinct steps, each of which may be executed and waits for earlier ones. -/
structure Planned (steps : List RunStep) : Prop where
  distinct : (steps.map (·.ordinal)).Nodup
  kind : ∀ step ∈ steps, step.kind = .capability
  earlier : ∀ step ∈ steps, ∀ dependency ∈ step.dependsOn,
    dependency < step.ordinal ∧ ∃ other ∈ steps, other.ordinal = dependency

lemma Planned.grounded (planned : Planned steps) : Grounded steps := by
  intro step mem _ dependency depends
  obtain ⟨below, other, otherMember, rfl⟩ := planned.earlier step mem dependency depends
  exact ⟨other, otherMember, rfl, below, Or.inl (planned.kind other otherMember)⟩

lemma planned_planSteps (plan : ExecutionPlan) : Planned (planSteps plan) := by
  have ordinals : (planSteps plan).map (·.ordinal) = List.range' 1 plan.steps.length := by
    refine List.ext_getElem (by simp [planSteps]) fun index _ _ => ?_
    simp only [planSteps, List.getElem_map, List.getElem_mapIdx, List.getElem_range', Nat.one_mul]
    omega
  refine ⟨ordinals ▸ List.nodup_range', fun step mem => ?_, fun step mem dependency depends => ?_⟩
  · obtain ⟨index, inside, rfl⟩ := List.mem_mapIdx.1 mem
    rfl
  obtain ⟨index, inside, rfl⟩ := List.mem_mapIdx.1 mem
  have bounds := plan.backward index _ (List.getElem?_eq_getElem inside) dependency depends
  refine ⟨Nat.lt_succ_of_le bounds.2, List.mem_map.1 ?_⟩
  rw [ordinals, List.mem_range'_1]
  omega

lemma Planned.settled (planned : Planned steps) : Planned (steps.map (settle outcome wave)) := by
  have ordinals : (steps.map (settle outcome wave)).map (·.ordinal) = steps.map (·.ordinal) := by
    rw [List.map_map]
    exact List.map_congr_left fun step _ => (settle_shape step).1
  refine ⟨ordinals ▸ planned.distinct, fun step mem => ?_, fun step mem dependency depends => ?_⟩
  · obtain ⟨old, inside, rfl⟩ := List.mem_map.1 mem
    exact (settle_shape old).2.1.trans (planned.kind old inside)
  obtain ⟨old, inside, rfl⟩ := List.mem_map.1 mem
  rw [(settle_shape old).2.2] at depends
  obtain ⟨below, other, otherInside, rfl⟩ := planned.earlier old inside dependency depends
  refine ⟨(settle_shape old).1 ▸ below, _, List.mem_map_of_mem otherInside, (settle_shape other).1⟩

lemma planned_waves (planned : Planned steps) (count : Nat) : Planned (waves outcomes steps count) := by
  induction count with
  | zero => exact planned
  | succ count ih => exact ih.settled

lemma settled_fewer (planned : Planned steps) (some_ : activeCount steps ≠ 0) :
    activeCount (steps.map (settle outcome (nextWave steps))) < activeCount steps := by
  obtain ⟨step, mem, active⟩ := List.countP_pos_iff.1 (Nat.pos_of_ne_zero some_)
  have found : ∃ step ∈ steps, step.status ∈ activeStepStatuses ∧
      (step.ordinal ∈ (nextWave steps).ready.map (·.ordinal) ∨
        step.ordinal ∈ (nextWave steps).blocked.map (·.ordinal)) := by
    by_contra! none_
    have ready : (nextWave steps).ready = [] := by
      refine List.eq_nil_iff_forall_not_mem.2 fun other isReady => ?_
      obtain ⟨inside, waiting, -⟩ := mem_ready isReady
      exact (none_ other inside waiting).1 (List.mem_map_of_mem isReady)
    have blocked : (nextWave steps).blocked = [] := by
      refine List.eq_nil_iff_forall_not_mem.2 fun other isBlocked => ?_
      obtain ⟨inside, waiting, -⟩ := mem_blocked isBlocked
      exact (none_ other inside waiting).2 (List.mem_map_of_mem isBlocked)
    exact no_waiting_capability planned.distinct planned.grounded ready blocked (step.ordinal + 1) step mem
      (Nat.lt_succ_self _) (planned.kind step mem) (of_decide_eq_true active)
  obtain ⟨step, mem, active, ends⟩ := found
  unfold activeCount
  rw [List.countP_map]
  refine countP_lt_of_mem mem (decide_eq_true active) ?_ fun other _ still => ?_
  · rw [Function.comp_apply, decide_eq_false_iff_not]
    intro still
    have kept := settle_active still
    exact ends.elim kept.2.1 kept.2.2
  · have kept := settle_active (of_decide_eq_true still)
    rw [Function.comp_apply, kept.1] at still
    exact still

lemma waves_empty (planned : Planned steps) (count : Nat) :
    activeCount (waves outcomes steps count) ≤ steps.length - count := by
  induction count with
  | zero => exact List.countP_le_length
  | succ count ih =>
    by_cases none_ : activeCount (waves outcomes steps count) = 0
    · have fewer : activeCount (waves outcomes steps (count + 1)) ≤ activeCount (waves outcomes steps count) :=
        activeCount_map_le _ fun step _ active => by
          rw [(settle_active active).1] at active
          exact active
      omega
    · have fewer : activeCount (waves outcomes steps (count + 1)) < activeCount (waves outcomes steps count) :=
        settled_fewer (planned_waves planned count) none_
      omega

lemma waves_once {ordinal first : Nat} (ready : ordinal ∈ (nextWave (waves outcomes steps first)).ready.map (·.ordinal))
    (later : Nat) : ∀ step ∈ waves outcomes steps (first + 1 + later), step.ordinal = ordinal →
      step.status ∉ activeStepStatuses := by
  induction later with
  | zero =>
    intro step mem eq active
    obtain ⟨old, inside, rfl⟩ := List.mem_map.1 mem
    rw [(settle_shape old).1] at eq
    exact (settle_active active).2.1 (eq ▸ ready)
  | succ later ih =>
    intro step mem eq active
    obtain ⟨old, inside, rfl⟩ := List.mem_map.1 mem
    have kept := (settle_active active).1
    rw [kept] at active
    exact ih old inside ((settle_shape old).1 ▸ eq) active

/-- Every plan depends on earlier steps only, and whatever the outcomes are, its steps empty wave by
wave without a deadlock, each executed once at most and behind its dependencies. -/
theorem planned_graph_drains (settings : Settings) (understanding : Understanding)
    (compiledDataQuery : Option CompiledDataQuery) (available : Option (List String)) :
    (∀ index step, (Planner.create settings understanding compiledDataQuery available).steps[index]? = some step →
      ∀ dependency ∈ step.dependsOn, 1 ≤ dependency ∧ dependency ≤ index) ∧
    ∀ (outcomes : Nat → Nat → Outcome) (steps : List RunStep),
      steps = planSteps (Planner.create settings understanding compiledDataQuery available) →
        (∀ count, (nextWave (waves outcomes steps count)).deadlocked = false) ∧
        (∀ count, ∀ step ∈ (nextWave (waves outcomes steps count)).ready, ∀ dependency ∈ step.dependsOn,
          statusByOrdinal (waves outcomes steps count) dependency = some .completed) ∧
        (∀ first second, first < second → ∀ step ∈ (nextWave (waves outcomes steps first)).ready,
          ∀ other ∈ (nextWave (waves outcomes steps second)).ready, other.ordinal ≠ step.ordinal) ∧
        ∀ count, steps.length ≤ count → ∀ step ∈ waves outcomes steps count, step.status ∉ activeStepStatuses := by
  generalize Planner.create settings understanding compiledDataQuery available = plan
  refine ⟨plan.backward, ?_⟩
  rintro outcomes steps rfl
  have planned : ∀ count, Planned (waves outcomes (planSteps plan) count) := planned_waves (planned_planSteps plan)
  refine ⟨fun count => nextWave_flows (planned count).distinct (planned count).grounded,
    fun count step ready => ?_, fun first second before step ready other again same => ?_,
    fun count enough step member active => ?_⟩
  · rw [← nextWaveOf_default] at ready
    exact (mem_readyOf.1 ready).2.2.2.2
  · obtain ⟨later, rfl⟩ := Nat.exists_eq_add_of_lt before
    obtain ⟨inside, active, -⟩ := mem_ready again
    rw [Nat.add_right_comm] at inside
    exact waves_once (List.mem_map_of_mem ready) later other inside same active
  · have empty : activeCount (waves outcomes (planSteps plan) count) ≤ (planSteps plan).length - count :=
      waves_empty (planned_planSteps plan) count
    have some_ : 0 < activeCount (waves outcomes (planSteps plan) count) :=
      List.countP_pos_iff.2 ⟨step, member, decide_eq_true active⟩
    omega

end Obsion.Harness
