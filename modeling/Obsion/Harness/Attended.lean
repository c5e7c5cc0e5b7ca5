import Obsion.Harness.WellFormed

/-! # A requested cancellation and who ends the Run

`cancel_run` writes the request and the terminal state together.  The automation
writes the request alone and leaves the rest to the worker of the Run, and `_claim`
passes over a Run with a request: where no worker holds the Run, nobody ends it.
`Attending` is what keeps a worker on every Run that was asked to stop. -/

namespace Obsion.Harness

open Obsion.Lib

def Run.held (run : Run) (now : Time) : Prop :=
  run.leaseOwner.isSome = true ∧ run.leaseExpiresAt.any (now ≤ ·) = true

instance (run : Run) (now : Time) : Decidable (run.held now) := instDecidableAnd

/-- A Run that was asked to stop has stopped, is held, or can be claimed. -/
def Tended (world : World) : Prop :=
  world.rows.run.cancellationRequestedAt.isSome = true →
    isTerminal world.rows.run.status = true ∨ world.rows.run.held world.now ∨
      ∃ workerId, (claim workerId world.now world.rows).isSome = true

/-- The outcome that is recorded puts the RUNNING Run to wait for an approval. -/
def World.waits (world : World) (index jobIndex : Nat) : Bool :=
  match world.executions[index]?.bind fun execution => execution.jobs[jobIndex]? with
  | some ⟨stepId, some answer⟩ =>
    answer.waits && world.rows.run.status = .running &&
      world.rows.steps.any fun step => step.id = stepId
  | _ => false

/-- Time does not pass the lease of a Run that was asked to stop, the automation asks
only Runs that a worker holds (its service also those that no worker has claimed),
and no Run that was asked to stop goes waiting for an approval. -/
def Attending (world : World) (action : Action) : Prop :=
  (world.rows.run.cancellationRequestedAt.isSome = true → isTerminal world.rows.run.status = false →
      world.rows.run.leaseExpiresAt.all (world.now ≤ ·) = true) ∧
  match action with
  | .requestCancellation service =>
    isTerminal world.rows.run.status = true ∨ world.rows.run.held world.now ∨
      service = true ∧ world.rows.run.status = .pending
  | .settle index jobIndex =>
    world.waits index jobIndex = true → world.rows.run.cancellationRequestedAt = none
  | _ => True

instance (world : World) (action : Action) : Decidable (Attending world action) := by
  unfold Attending
  cases action <;> infer_instance

/-! ## The lease columns -/

/-- A transaction that leaves the lease, the request and the status alone. -/
structure Held (before after : Run) : Prop where
  status : after.status = before.status
  requested : after.cancellationRequestedAt = before.cancellationRequestedAt
  owner : after.leaseOwner = before.leaseOwner
  expiry : after.leaseExpiresAt = before.leaseExpiresAt

/-- A transaction that ends the Run and gives up its lease. -/
structure Ended (after : Run) : Prop where
  terminal : isTerminal after.status = true
  released : after.leaseExpiresAt = none

lemma Held.refl (run : Run) : Held run run := ⟨rfl, rfl, rfl, rfl⟩

lemma Held.trans {first second third : Run} (left : Held first second)
    (right : Held second third) : Held first third :=
  ⟨right.status.trans left.status, right.requested.trans left.requested,
    right.owner.trans left.owner, right.expiry.trans left.expiry⟩

lemma CoreChange.held {change : Run → RunStep → Run × RunStep} (core : CoreChange change)
    (found : Option RunStep) (rows : RunRows) : Held rows.run (onCoreStep found change rows).run := by
  obtain ⟨count, starts, eq⟩ := core.run_eq found rows
  rw [eq]
  exact ⟨rfl, rfl, rfl, rfl⟩

lemma completeReflectStep_held (found : Option RunStep) (decision : Decision) (rows : RunRows) :
    Held rows.run (completeReflectStep found decision rows).run :=
  (startCoreStep_change.held found rows).trans ((completeCoreStep_change _).held found _)

lemma verifiedRows_held (rows : RunRows) : Held rows.run (verifiedRows rows).run :=
  (startCoreStep_change.held _ rows).trans ((completeCoreStep_change _).held _ _)

variable {rows : RunRows}

variable {review : Review} {missing : List String} {reason : String}

lemma reviewed_held {settings : Settings} {now : Time} {middle : RunRows}
    (reviewed : Reviewed settings now review rows middle) : Held rows.run middle.run := by
  cases reviewed with
  | verified => exact verifiedRows_held rows
  | recorded asked =>
    have started := startCoreStep_change.held (lastOfKind .reflect rows.steps) (verifiedRows rows)
    exact (verifiedRows_held rows).trans
      ⟨started.status, started.requested, started.owner, started.expiry⟩

lemma Appended.held {contracts : List NamedContract} {rows' : RunRows}
    {verifyStep respondStep : RunStep}
    (appended : Appended contracts missing reason rows rows' verifyStep respondStep) :
    Held rows.run rows'.run := by
  rw [appended.run_eq]
  exact ⟨appended.running.symm, rfl, rfl, rfl⟩

lemma applyGapReplan_held {settings : Settings} {question : String} {rows' : RunRows}
    (run : applyGapReplan settings question missing reason rows = .ok (some rows')) :
    Held rows.run rows'.run := by
  obtain ⟨_, _, _, _, appended⟩ := applyGapReplan_appended run
  exact appended.held

lemma cancel_held (rows : RunRows) : Held rows.run (cancel rows).run ∨ Ended (cancel rows).run := by
  by_cases terminal : isTerminal rows.run.status = true
  · left
    simp only [cancel, terminal, if_true]
    exact Held.refl rows.run
  · right
    simp only [cancel, terminal]
    exact ⟨rfl, rfl⟩

lemma publish_ended {reflectStep respondStep : Option RunStep} {decision : Decision}
    {answerArtifactId : String} {rows' : RunRows}
    (run : publish reflectStep respondStep decision answerArtifactId rows = .ok rows') :
    Ended rows'.run := by
  obtain ⟨_, rfl⟩ := publish_ok run
  have closed := (completeCoreStep_change (some answerArtifactId)).held respondStep
    (onCoreStep respondStep startCoreStep (completeReflectStep reflectStep decision rows)).closed
  exact ⟨by rw [closed.status]; rfl, closed.expiry⟩

lemma responded_held {settings : Settings} {now : Time} {evidence : List String} {rows' : RunRows}
    {response : Response} (responded : Responded settings now evidence review rows rows' response) :
    Held rows.run rows'.run ∨ Ended rows'.run := by
  cases responded with
  | idle terminal => exact .inl (Held.refl rows.run)
  | cancelled open_ requested => exact cancel_held rows
  | published open_ middle after reviewed decision run => exact .inr (publish_ended run)
  | gap requested middle replanned reviewed grounded chosen uninvestigated run =>
    exact .inl (((reviewed_held reviewed).trans (applyGapReplan_held run)).trans
      (reopenCoreStep_change.held _ _))
  | investigated requested contract replanned asked grounded access proposed run =>
    obtain ⟨_, _, appended⟩ := appendCapabilityReplan_appended run
    have redrawn := (reviewed_held (Reviewed.recorded asked)).trans appended.held
    have completed := redrawn.trans
      (completeReflectStep_held (lastOfKind .reflect rows.steps) .replan replanned)
    exact .inl ((completed.trans (reopenCoreStep_change.held _ _)).trans
      (reopenCoreStep_change.held _ _))

lemma passed_held {now : Time} {rows' : RunRows} {wave : Wave}
    (passed : Passed now rows rows' wave) : Held rows.run rows'.run ∨ Ended rows'.run := by
  cases passed with
  | cancelled open_ requested => exact cancel_held rows
  | stopped | skipped | done => exact .inl (Held.refl rows.run)
  | invoked open_ active ready budget => exact .inl ⟨rfl, rfl, rfl, rfl⟩

lemma finishStep_held {stepId : Nat} {outcome : StepOutcome} {rows' : RunRows}
    (run : finishStep stepId outcome rows = .ok rows') :
    Held rows.run rows'.run ∨ Ended rows'.run := by
  unfold finishStep at run
  split at run
  · split at run
    · cases run
      exact cancel_held rows
    cases run
    exact .inl (Held.refl rows.run)
  · split at run
    · cases run
    cases run
    exact .inl (Held.refl rows.run)

lemma fail_held (code : String) (rows : RunRows) :
    Held rows.run (fail code rows).run ∨ Ended (fail code rows).run := by
  unfold fail
  split
  · exact .inl (Held.refl rows.run)
  exact .inr ⟨rfl, rfl⟩

/-- A leased Run is not waiting, and one that was asked to stop has stopped or is held. -/
structure Attended (now : Time) (run : Run) : Prop where
  leased : ∀ expiry, run.leaseExpiresAt = some expiry →
    run.leaseOwner.isSome = true ∧ run.status ∉ [RunStatus.waitingApproval, .waitingUser]
  tended : run.cancellationRequestedAt.isSome = true → isTerminal run.status = true ∨ run.held now

section
variable {now : Time} {before after : Run}

lemma Attended.held (attended : Attended now before) (held : Held before after) :
    Attended now after := by
  refine ⟨?_, ?_⟩
  · rw [held.expiry, held.owner, held.status]
    exact attended.leased
  rw [held.requested, held.status, Run.held, held.owner, held.expiry]
  exact attended.tended

lemma Ended.attended (ended : Ended after) : Attended now after where
  leased := by
    intro expiry leased
    rw [ended.released] at leased
    cases leased
  tended := fun _ => Or.inl ended.terminal

lemma Attended.of_progress (attended : Attended now before)
    (progress : Held before after ∨ Ended after) : Attended now after :=
  progress.elim attended.held Ended.attended

lemma Attended.of_unrequested (leased : ∀ expiry, after.leaseExpiresAt = some expiry →
      after.leaseOwner.isSome = true ∧ after.status ∉ [RunStatus.waitingApproval, .waitingUser])
    (unrequested : after.cancellationRequestedAt = none) : Attended now after := by
  refine ⟨leased, ?_⟩
  intro requested
  rw [unrequested] at requested
  cases requested

lemma Attended.not_waiting (attended : Attended now before)
    (requested : before.cancellationRequestedAt.isSome = true) :
    before.status ∉ [RunStatus.waitingApproval, .waitingUser] := by
  rcases attended.tended requested with terminal | ⟨_, unexpired⟩
  · intro waiting
    rcases List.mem_pair.1 waiting with eq | eq
    all_goals
      rw [eq] at terminal
      cases terminal
  · obtain ⟨expiry, leased, _⟩ := (Option.any_eq_true _ _).1 unexpired
    exact (attended.leased expiry leased).2

end

/-! ## One action -/

section
variable {settings : Settings} {world world' : World} {rows' : RunRows}

variable {run : Run} {rows : RunRows} {stepId index jobIndex : Nat}

lemma Attended.later {now later : Time} (attended : Attended now run)
    (leased : run.cancellationRequestedAt.isSome = true → isTerminal run.status = false →
      run.leaseExpiresAt.all (later ≤ ·) = true) : Attended later run := by
  refine ⟨attended.leased, ?_⟩
  intro requested
  by_cases terminal : isTerminal run.status = true
  · exact .inl terminal
  rcases attended.tended requested with ended | ⟨owner, unexpired⟩
  · exact .inl ended
  rw [Bool.not_eq_true] at terminal
  obtain ⟨expiry, eq, _⟩ := (Option.any_eq_true _ _).1 unexpired
  have kept := leased requested terminal
  rw [eq, Option.all_some] at kept
  refine .inr ⟨owner, ?_⟩
  rw [eq, Option.any_some]
  exact kept

variable {workerId : String} {access service : Bool} {timed : Timed}

lemma claim_attended {now : Time} {claimed : RunRows × Bool} (attended : Attended now rows.run)
    (run : claim workerId now rows = some claimed) :
    Attended now claimed.1.run := by
  unfold claim at run
  split at run
  · next claimable =>
    obtain ⟨_, unrequested, _⟩ := claimable
    split at run
    · cases run
      apply Attended.of_unrequested
      · intro expiry leased
        exact ⟨(attended.leased expiry leased).1, by simp⟩
      · exact unrequested
    · cases run
      apply Attended.of_unrequested
      · intro expiry _
        exact ⟨rfl, by simp⟩
      · exact unrequested
  · cases run

lemma prepare_attended {preparation : Preparation} {now : Time} (attended : Attended now rows.run)
    (run : prepare preparation rows = .ok rows') : Attended now rows'.run := by
  by_cases requested : rows.run.cancellationRequestedAt.isSome = true
  · unfold prepare at run
    rw [if_pos requested] at run
    split at run
    · cases run
      exact attended
    cases run
    exact attended.of_progress (cancel_held rows)
  · rw [Option.not_isSome_iff_eq_none] at requested
    cases prepare_prepared run with
    | kept _ idle =>
      rcases idle with rfl | rfl
      · exact attended
      exact attended.of_progress (cancel_held rows)
    | asked clarification _ open_ unplanned running steps run_eq =>
      rw [run_eq]
      apply Attended.of_unrequested
      · intro expiry leased
        cases leased
      · exact requested
    | planned plan availableCapabilities _ open_ unplanned steps run_eq =>
      rw [run_eq]
      exact attended.held ⟨rfl, rfl, rfl, rfl⟩

def Run.waiting (run : Run) : Run :=
  { run with status := .waitingApproval, leaseOwner := none, leaseExpiresAt := none }

lemma waitStep_cases {capabilityVersionId : Option Nat}
    (run : waitStep stepId capabilityVersionId rows = .ok rows') :
    rows' = rows ∨ (rows.steps.any (fun step => step.id = stepId) = true ∧
      rows.run.status ∈ [RunStatus.running, .waitingApproval] ∧ rows'.run = rows.run.waiting) := by
  unfold waitStep at run
  split at run
  · cases run
    exact .inl rfl
  next stored =>
  have listed : rows.steps.any (fun step => step.id = stepId) = true := by
    simpa using stored
  simp only at run
  by_cases waits : rows.run.status = .waitingApproval
  · rw [if_neg (not_not.2 waits)] at run
    cases run
    exact .inr ⟨listed, by simp [waits], rfl⟩
  · rw [if_pos waits] at run
    split at run
    · cases run
    next allowed =>
    cases run
    have running := running_of_allowed (validateRunTransition_ok allowed) (by simp)
    exact .inr ⟨listed, by simp [running], rfl⟩

lemma waitStep_running (capabilityVersionId : Nat) (running : rows.run.status = .running)
    (listed : rows.steps.any (fun step => step.id = stepId) = true) :
    ∃ steps, waitStep stepId (some capabilityVersionId) rows = .ok ⟨rows.run.waiting, steps⟩ := by
  have stored : (rows.steps.all fun step => step.id ≠ stepId) = false := by
    simpa using listed
  have allowed : validateRunTransition .running .waitingApproval = .ok () :=
    validateRunTransition_of_mem (by decide)
  refine ⟨updateStep stepId (fun step =>
    { step with status := .waitingApproval, capabilityVersionId := some capabilityVersionId })
      rows.steps, ?_⟩
  unfold waitStep
  rw [stored, if_neg Bool.false_ne_true]
  simp only [running, ne_eq, reduceCtorEq, not_false_eq_true, if_true, allowed]
  rfl

lemma waiting_attended {now : Time} (unrequested : run.cancellationRequestedAt = none) :
    Attended now run.waiting := by
  refine Attended.of_unrequested ?_ unrequested
  intro expiry leased
  cases leased

lemma waits_eq {execution : Execution} {answer : GatewayAnswer}
    (found : world.executions[index]? = some execution)
    (job : execution.jobs[jobIndex]? = some ⟨stepId, some answer⟩) :
    world.waits index jobIndex = (answer.waits && world.rows.run.status = .running &&
      world.rows.steps.any fun step => step.id = stepId) := by
  simp only [World.waits, found, Option.bind_some, job]

lemma settle_attended (attended : Attended world.now world.rows.run)
    (unwaiting : world.waits index jobIndex = true → world.rows.run.cancellationRequestedAt = none)
    (run : act settings world (.settle index jobIndex) = some world') :
    Attended world.now world'.rows.run := by
  obtain ⟨execution, stepId, answer, found, job, rfl⟩ := settle_answer run
  rw [waits_eq found job] at unwaiting
  unfold World.settle
  split
  · exact attended
  next rows settled =>
  change Attended world.now rows.run
  cases answer with
  | completed | failed => exact attended.of_progress (finishStep_held settled)
  | waitingApproval approvalId version =>
    rcases waitStep_cases settled with rfl | ⟨listed, active, eq⟩
    · exact attended
    rw [eq]
    apply waiting_attended
    by_contra requested
    rcases List.mem_pair.1 active with running | waits
    · exact requested (unwaiting (by simp [GatewayAnswer.waits, running, listed]))
    refine attended.not_waiting (Option.isSome_iff_ne_none.2 requested) ?_
    rw [waits]
    decide

lemma settle_waiting (waits : world.waits index jobIndex = true)
    (run : act settings world (.settle index jobIndex) = some world') :
    world.rows.run.status = .running ∧ world'.rows.run = world.rows.run.waiting := by
  obtain ⟨execution, stepId, answer, found, job, rfl⟩ := settle_answer run
  rw [waits_eq found job] at waits
  simp only [Bool.and_eq_true, decide_eq_true_eq] at waits
  obtain ⟨⟨waiting, running⟩, listed⟩ := waits
  refine ⟨running, ?_⟩
  cases answer with
  | completed | failed => cases waiting
  | waitingApproval approvalId version =>
    obtain ⟨steps, settled⟩ := waitStep_running version running listed
    simp only [World.settle, settleStep, settled]
    rfl

lemma decide_attended {principal : Principal} {approvalId : Nat} {approve : Bool} {now : Time}
    {approvals approvals' : List Approval} (attended : Attended now rows.run)
    (run : Harness.decide principal access approvalId approve now approvals rows
      = .ok (approvals', rows')) : Attended now rows'.run := by
  unfold Harness.decide at run
  split at run
  · cases run
  split at run
  · cases run
  split at run
  · cases run
  split at run
  · cases run
  split at run
  · cases run
    exact attended
  split at run
  · cases run
  split at run
  · cases run
    split
    · next waiting =>
      have unrequested : rows.run.cancellationRequestedAt = none := by
        by_contra asked
        refine attended.not_waiting (Option.isSome_iff_ne_none.2 asked) ?_
        rw [waiting]
        decide
      apply Attended.of_unrequested
      · intro expiry leased
        cases leased
      · exact unrequested
    · exact attended
  · cases run
    split
    · exact attended
    refine ⟨?_, fun _ => Or.inl rfl⟩
    intro expiry leased
    exact ⟨(attended.leased expiry leased).1, by simp⟩

lemma answer_attended {clarificationId : Nat} {now : Time} (attended : Attended now rows.run)
    (run : answer access clarificationId now rows = .ok rows') :
    Attended now rows'.run := by
  unfold answer at run
  split at run
  · cases run
  split at run
  · cases run
  next waiting =>
  have unrequested : rows.run.cancellationRequestedAt = none := by
    by_contra asked
    refine attended.not_waiting (Option.isSome_iff_ne_none.2 asked) ?_
    rw [not_not.1 waiting]
    decide
  split at run
  · cases run
  split at run
  · cases run
  split at run
  · cases run
    exact Ended.attended ⟨rfl, rfl⟩
  split at run
  · cases run
  cases run
  apply Attended.of_unrequested
  · intro expiry leased
    cases leased
  · exact unrequested

lemma cancelRun_attended {now : Time} (attended : Attended now rows.run) :
    Attended now (cancelRun now rows).run := by
  unfold cancelRun
  split
  · exact attended
  exact Ended.attended ⟨rfl, rfl⟩

lemma requestCancellation_attended {now : Time} (attended : Attended now rows.run)
    (asked : isTerminal rows.run.status = true ∨ rows.run.held now ∨
      service = true ∧ rows.run.status = .pending) :
    Attended now (requestCancellation service now rows).run := by
  unfold requestCancellation
  refine ⟨?_, ?_⟩
  · intro expiry leased
    obtain ⟨owner, active⟩ := attended.leased expiry leased
    refine ⟨owner, ?_⟩
    simp only
    split
    · simp
    exact active
  · intro _
    simp only
    split
    · exact .inl rfl
    next unclaimed =>
    rcases asked with terminal | held | pending
    · exact .inl terminal
    · exact .inr held
    · exact absurd pending unclaimed

lemma act_attended {action : Action} (attended : Attended world.now world.rows.run)
    (attending : Attending world action) (run : act settings world action = some world') :
    Attended world.now world'.rows.run := by
  obtain ⟨flag, step, _⟩ := act_rows run
  generalize eq : world'.rows = next at step
  cases step with
  | same => exact attended
  | claimed workerId claimed claim => exact claim_attended attended claim
  | prepared index preparation attachments _ prepared => exact prepare_attended attended prepared
  | passed index _ wave passed =>
    exact attended.of_progress (passed_held (executeSteps_passed passed))
  | settled index jobIndex stepId answer _ _ _ =>
    exact eq ▸ settle_attended attended attending.2 run
  | retried index _ retry retried =>
    rw [retried.run_eq]
    exact attended.held ⟨retried.running.symm, rfl, rfl, rfl⟩
  | filled index question missing _ filled => exact attended.held (applyGapReplan_held filled)
  | responded index review _ response responded =>
    exact attended.of_progress (responded_held (respond_responded responded))
  | cancelled => exact attended.of_progress (cancel_held world.rows)
  | failed index code => exact attended.of_progress (fail_held code world.rows)
  | decided principal access approvalId approve approvals _ decided =>
    exact decide_attended attended decided
  | answered access clarificationId _ answered => exact answer_attended attended answered
  | stopped => exact cancelRun_attended attended
  | requested service => exact requestCancellation_attended attended attending.2

lemma claim_requested {now : Time} (requested : rows.run.cancellationRequestedAt.isSome = true) :
    claim workerId now rows = none := by
  unfold claim
  rw [if_neg]
  rintro ⟨_, unrequested, _⟩
  rw [unrequested] at requested
  cases requested

lemma tended_iff : Tended world ↔ (world.rows.run.cancellationRequestedAt.isSome = true →
    isTerminal world.rows.run.status = true ∨ world.rows.run.held world.now) := by
  apply imp_congr_right
  intro requested
  simp [claim_requested requested]

lemma created_attended {world : World} (initial : Created world) :
    Attended world.now world.rows.run := by
  obtain ⟨maxSteps, timeoutSeconds, createdBy, modelProfileId, now, rfl⟩ := initial
  refine Attended.of_unrequested ?_ rfl
  intro expiry leased
  cases leased

lemma not_tended_waiting {world : World} (eq : world.rows.run = run.waiting)
    (requested : run.cancellationRequestedAt.isSome = true) : ¬ Tended world := by
  rw [tended_iff, eq]
  intro tended
  rcases tended requested with terminal | ⟨owner, _⟩
  · cases terminal
  cases owner

lemma requested_tended
    (tended : Tended { world with rows := requestCancellation service world.now world.rows }) :
    isTerminal world.rows.run.status = true ∨ world.rows.run.held world.now ∨
      service = true ∧ world.rows.run.status = .pending := by
  by_cases unclaimed : service = true ∧ world.rows.run.status = .pending
  · exact .inr (Or.inr unclaimed)
  have kept := tended_iff.1 tended rfl
  simp only [requestCancellation, if_neg unclaimed] at kept
  exact kept.imp_right Or.inl

lemma perform_attended (attended : Attended world.now world.rows.run)
    (attending : Attending (world.tick timed.elapsed) timed.action)
    (run : perform settings world timed = some world') :
    Attended (world.tick timed.elapsed).now world.rows.run ∧ Attended world'.now world'.rows.run := by
  have ticked : Attended (world.tick timed.elapsed).now world.rows.run :=
    attended.later attending.1
  refine ⟨ticked, ?_⟩
  rw [(act_quiet run).1]
  exact act_attended ticked attending run

lemma attending_iff (attended : Attended world.now world.rows.run)
    (run : perform settings world timed = some world') :
    (Tended (world.tick timed.elapsed) ∧ Tended world') ↔
      Attending (world.tick timed.elapsed) timed.action := by
  constructor
  · rintro ⟨before, after⟩
    rw [tended_iff] at before
    have unexpired : world.rows.run.cancellationRequestedAt.isSome = true →
        isTerminal world.rows.run.status = false →
          world.rows.run.leaseExpiresAt.all ((world.tick timed.elapsed).now ≤ ·) = true := by
      intro requested open_
      rcases before requested with terminal | ⟨_, unexpired⟩
      · rw [show isTerminal world.rows.run.status = true from terminal] at open_
        cases open_
      obtain ⟨expiry, eq, kept⟩ := (Option.any_eq_true _ _).1 unexpired
      rw [show world.rows.run.leaseExpiresAt = some expiry from eq]
      exact kept
    refine ⟨unexpired, ?_⟩
    split
    · next service eq =>
      rw [perform, eq] at run
      cases run
      exact requested_tended after
    · next index jobIndex eq =>
      intro waits
      by_contra requested
      rw [perform, eq] at run
      obtain ⟨_, waiting⟩ := settle_waiting waits run
      exact not_tended_waiting waiting (Option.isSome_iff_ne_none.2 requested) after
    · trivial
  · intro attending
    obtain ⟨ticked, attended'⟩ := perform_attended attended attending run
    exact ⟨tended_iff.2 ticked.tended, tended_iff.2 attended'.tended⟩

end

end Obsion.Harness
