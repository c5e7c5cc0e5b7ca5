import Obsion.Harness.Moves

/-! # How one action turns an execution

An action starts an execution, turns one of them, or leaves them as they are. -/

namespace Obsion.Harness

open Obsion.Lib

inductive Turned (execution : Execution) : Execution → Prop
  | moved (next : Phase) (working : execution.phase ≠ .ended) (waits : execution.phase ≠ .invoking)
      (later : next ≠ .recording ∧ next ≠ .invoking) :
      Turned execution { execution with phase := next }
  | answered (jobIndex stepId : Nat) (answer : GatewayAnswer)
      (found : execution.jobs[jobIndex]? = some ⟨stepId, none⟩) :
      Turned execution (execution.answered jobIndex ⟨stepId, none⟩ answer)
  | dropped (jobIndex : Nat) (job : Job) (code : String)
      (found : execution.jobs[jobIndex]? = some job) :
      Turned execution
        { execution.raised code with jobs := execution.jobs.eraseIdx jobIndex }
  | finished (jobIndex : Nat) (job : Job) (waits : Bool)
      (found : execution.jobs[jobIndex]? = some job) :
      Turned execution (execution.jobEnded jobIndex waits)
  | crashed : Turned execution { execution with phase := .ended, jobs := [] }

def Execution.invokes (execution : Execution) (steps : List RunStep) : Execution :=
  { execution with
    phase := .invoking
    jobs := execution.jobs ++ (nextWave steps).ready.map fun step => ⟨step.id, none⟩
    waiting := false }

inductive ExecutionsStep (world : World) : Action → List Execution → Prop
  | same (action : Action) : ExecutionsStep world action world.executions
  | claimed (workerId : String) (rows : RunRows)
      (run : claim workerId world.now world.rows = some (rows, true)) :
      ExecutionsStep world (.claim workerId)
        (world.executions ++
          [{ workerId
             leaseUntil := world.now + seconds (world.rows.run.timeoutSeconds + 30)
             phase := .recording, jobs := [], waiting := false }])
  | turned (action : Action) (index : Nat) (execution next : Execution)
      (found : world.executions[index]? = some execution) (turned : Turned execution next) :
      ExecutionsStep world action (world.executions.set index next)
  | started (index : Nat) (execution : Execution)
      (found : world.executions[index]? = some execution) (ready : execution.phase = .steps) :
      ExecutionsStep world (.executeSteps index)
        (world.executions.set index (execution.invokes world.rows.steps))

variable {world : World} {index jobIndex stepId : Nat} {execution : Execution} {action : Action}

lemma executionIn_some {phase : Phase} (found : world.executionIn index phase = some execution) :
    world.executions[index]? = some execution ∧ execution.phase = phase := by
  obtain ⟨located, eq⟩ := Option.filter_eq_some_iff.1 found
  exact ⟨located, of_decide_eq_true eq⟩

variable {moved world' : World} {next : Execution} {turn : GatewayTurn} {settings : Settings}

lemma setExecution_executions (eq : moved.executions = world.executions)
    (found : world.executions[index]? = some execution) (turned : Turned execution next) :
    ExecutionsStep world action (moved.setExecution index next).executions := by
  rw [World.setExecution, eq]
  exact ExecutionsStep.turned action index execution next found turned

lemma moved_executions {next : Phase} (eq : moved.executions = world.executions)
    (found : world.executions[index]? = some execution)
    (working : execution.phase ≠ .ended ∧ execution.phase ≠ .invoking)
    (later : next ≠ .recording ∧ next ≠ .invoking) : ExecutionsStep world action
      (moved.setExecution index { execution with phase := next }).executions :=
  setExecution_executions eq found (Turned.moved next working.1 working.2 later)

lemma executeSteps_executions (found : world.executions[index]? = some execution)
    (phase : execution.phase = .steps) :
    ExecutionsStep world (.executeSteps index) (world.executeSteps index execution).executions := by
  have working : execution.phase ≠ .ended ∧ execution.phase ≠ .invoking := by
    rw [phase]
    decide
  unfold World.executeSteps
  split
  · exact moved_executions rfl found working ⟨by simp, by simp⟩
  next rows wave run =>
  cases executeSteps_passed run with
  | stopped | cancelled | skipped | done => exact moved_executions rfl found working (by decide)
  | invoked open_ active ready budget =>
    simp only [Execution.afterPass, List.map_map]
    exact ExecutionsStep.started index execution found phase

lemma runCapability_executions (approvals : List Approval)
    (found : world.executions[index]? = some execution)
    (job : execution.jobs[jobIndex]? = some ⟨stepId, none⟩) : ExecutionsStep world action
      ({ world with approvals }.runCapability index execution jobIndex ⟨stepId, none⟩
        turn).executions := by
  unfold World.runCapability
  split
  · exact setExecution_executions rfl found (Turned.answered jobIndex stepId _ job)
  · exact setExecution_executions rfl found (Turned.answered jobIndex stepId _ job)
  · exact ExecutionsStep.same _
  · exact ExecutionsStep.same _

lemma gateway_executions (found : world.executions[index]? = some execution)
    (job : execution.jobs[jobIndex]? = some ⟨stepId, none⟩) : ExecutionsStep world action
      (world.gateway index execution jobIndex ⟨stepId, none⟩ turn).executions := by
  unfold World.gateway
  split
  · exact setExecution_executions rfl found (Turned.answered jobIndex stepId _ job)
  · exact setExecution_executions rfl found (Turned.dropped jobIndex _ _ job)
  · split
    · exact runCapability_executions world.approvals found job
    split
    · exact runCapability_executions _ found job
    exact setExecution_executions rfl found (Turned.answered jobIndex stepId _ job)

lemma replan_executions {next : Phase} {result : Except ObsionError (RunRows × Bool)}
    (found : world.executions[index]? = some execution)
    (working : execution.phase ≠ .ended ∧ execution.phase ≠ .invoking)
    (later : next ≠ .recording ∧ next ≠ .invoking) :
    ExecutionsStep world action (world.replan index execution next result).executions := by
  unfold World.replan
  split
  · exact moved_executions rfl found working ⟨by simp, by simp⟩
  · exact moved_executions rfl found working (by decide)
  · exact moved_executions rfl found working later

lemma respond_executions {review : Review} (found : world.executions[index]? = some execution)
    (phase : execution.phase = .responding) :
    ExecutionsStep world action (world.respond settings index execution review).executions := by
  have working : execution.phase ≠ .ended ∧ execution.phase ≠ .invoking := by
    rw [phase]
    decide
  unfold World.respond
  split
  · exact moved_executions rfl found working ⟨by simp, by simp⟩
  all_goals exact moved_executions rfl found working (by decide)

lemma act_executions (run : act settings world action = some world') :
    ExecutionsStep world action world'.executions := by
  cases action with
  | claim workerId =>
    obtain ⟨⟨rows, executes⟩, claimed, rfl⟩ := Option.map_eq_some_iff.1 run
    cases executes with
    | true => exact ExecutionsStep.claimed workerId rows claimed
    | false => exact ExecutionsStep.same _
  | record index =>
    obtain ⟨execution, located, rfl⟩ := Option.map_eq_some_iff.1 run
    obtain ⟨found, phase⟩ := executionIn_some located
    exact moved_executions rfl found (by rw [phase]; decide) (by decide)
  | prepare index preparation attachments =>
    obtain ⟨execution, located, rfl⟩ := Option.map_eq_some_iff.1 run
    obtain ⟨found, phase⟩ := executionIn_some located
    have working : execution.phase ≠ .ended ∧ execution.phase ≠ .invoking := by
      rw [phase]
      decide
    split
    · exact moved_executions rfl found working ⟨by simp, by simp⟩
    exact moved_executions rfl found working (by decide)
  | executeSteps index =>
    obtain ⟨execution, located, rfl⟩ := Option.map_eq_some_iff.1 run
    obtain ⟨found, phase⟩ := executionIn_some located
    exact executeSteps_executions found phase
  | gateway index jobIndex turn =>
    simp only [act] at run
    split at run
    · cases run
    next execution found =>
    split at run
    · next stepId job =>
      cases run
      exact gateway_executions found job
    · cases run
  | settle index jobIndex =>
    obtain ⟨execution, stepId, answer, found, job, rfl⟩ := settle_answer run
    unfold World.settle
    split
    · exact setExecution_executions rfl found (Turned.dropped jobIndex _ _ job)
    exact setExecution_executions rfl found (Turned.finished jobIndex _ _ job)
  | replanTransient index =>
    obtain ⟨execution, located, rfl⟩ := Option.map_eq_some_iff.1 run
    obtain ⟨found, phase⟩ := executionIn_some located
    exact replan_executions found (by rw [phase]; decide) (by decide)
  | replanMissing index question missing =>
    obtain ⟨execution, located, rfl⟩ := Option.map_eq_some_iff.1 run
    obtain ⟨found, phase⟩ := executionIn_some located
    exact replan_executions found (by rw [phase]; decide) (by decide)
  | respond index review =>
    obtain ⟨execution, located, rfl⟩ := Option.map_eq_some_iff.1 run
    obtain ⟨found, phase⟩ := executionIn_some located
    exact respond_executions found phase
  | raise index code =>
    simp only [act] at run
    split at run
    · cases run
    next execution found =>
    split at run
    · next raising =>
      cases run
      have working : execution.phase ≠ .ended ∧ execution.phase ≠ .invoking := by
        constructor
        all_goals
          intro phase
          rw [phase] at raising
          revert raising
          decide
      exact moved_executions rfl found working ⟨by simp, by simp⟩
    · cases run
  | fail | abandon =>
    simp only [act] at run
    split at run
    · cases run
    next execution found =>
    split at run
    · next code phase =>
      cases run
      exact moved_executions rfl found (by rw [phase]; simp) (by decide)
    · cases run
  | crash index =>
    simp only [act] at run
    split at run
    · cases run
    next execution found =>
    cases run
    exact setExecution_executions rfl found Turned.crashed
  | decide | answer =>
    simp only [act] at run
    split at run
    · cases run
    cases run
    exact ExecutionsStep.same _
  | cancelRun | requestCancellation =>
    cases run
    exact ExecutionsStep.same _

lemma Turned.job (turned : Turned execution next) {job : Job} (mem : job ∈ next.jobs) :
    ∃ earlier ∈ execution.jobs, earlier.stepId = job.stepId := by
  cases turned with
  | moved next working waits later => exact ⟨job, mem, rfl⟩
  | answered jobIndex stepId answer found =>
    rcases List.mem_or_eq_of_mem_set mem with old | rfl
    · exact ⟨job, old, rfl⟩
    exact ⟨_, List.mem_of_getElem? found, rfl⟩
  | dropped | finished => exact ⟨_, List.mem_of_mem_eraseIdx mem, rfl⟩
  | crashed => cases mem

lemma ExecutionsStep.invoking (step : ExecutionsStep world action world'.executions)
    (invoking : world'.invoking stepId) :
    world.invoking stepId ∨ ∃ step ∈ (nextWave world.rows.steps).ready, step.id = stepId := by
  obtain ⟨execution, mem, job, jobMember, eq⟩ := invoking
  generalize world'.executions = executions at step mem
  cases step with
  | same => exact .inl ⟨execution, mem, job, jobMember, eq⟩
  | claimed workerId rows run =>
    rcases List.mem_append.1 mem with old | new
    · exact .inl ⟨execution, old, job, jobMember, eq⟩
    rw [List.mem_singleton.1 new] at jobMember
    cases jobMember
  | turned _ index earlier next found turned =>
    rcases List.mem_or_eq_of_mem_set mem with old | rfl
    · exact .inl ⟨execution, old, job, jobMember, eq⟩
    obtain ⟨older, olderMember, olderSame⟩ := turned.job jobMember
    exact .inl ⟨earlier, List.mem_of_getElem? found, older, olderMember, olderSame.trans eq⟩
  | started index earlier found ready =>
    rcases List.mem_or_eq_of_mem_set mem with old | rfl
    · exact .inl ⟨execution, old, job, jobMember, eq⟩
    rcases List.mem_append.1 jobMember with old | new
    · exact .inl ⟨earlier, List.mem_of_getElem? found, job, old, eq⟩
    obtain ⟨step, stepReady, rfl⟩ := List.mem_map.1 new
    exact .inr ⟨step, stepReady, eq⟩

end Obsion.Harness
