import Obsion.Actions.Duties

/-! # An executed action stays compensable

While a rollback waits or was approved, `cancel` ends the action, where a rejection or
an expiry only ends the rollback. -/

namespace Obsion.Actions

open Obsion.Lib

/-- The statuses an action may have once its execution is complete. -/
def ActionStatus.executed (status : ActionStatus) : Bool :=
  status ∈ [ActionStatus.completed, .waitingRollbackApproval, .rollbackApproved, .rollingBack,
    .rolledBack, .rollbackFailed, .rollbackRejected]

def ActionStatus.rollingUnderway (status : ActionStatus) : Bool :=
  status ∈ [ActionStatus.waitingRollbackApproval, .rollbackApproved, .rollingBack]

def Done (rows : Rows) (purpose : Purpose) : Prop :=
  ∃ attempt ∈ rows.attempts, attempt.purpose = purpose ∧ attempt.status = .completed

/-- Whoever may request the rollback of the action can request it now. -/
def RollbackAccepted (rows : Rows) : Prop :=
  ∀ now principal approvalId reason ttlMinutes, principal.can "action.rollback" = true →
    rows.request.organizationId = principal.organizationId →
    (rows.request.ownerId = principal.id ∨ principal.can "action.rollback.all" = true) →
    rows.approvals.get? approvalId = none →
    ∃ rows', requestRollback now principal (.ok ()) approvalId reason ttlMinutes rows = .ok rows'

def Compensable (rows : Rows) : Prop :=
  Done rows .execute → ¬ Done rows .rollback →
    RollbackAccepted rows ∨ rows.request.status.rollingUnderway = true

def KeepsRollback (move : Move World Action) : Prop :=
  ∀ principal access rows, move.action = .cancel principal access → move.before.rows = some rows →
    rows.request.status ∈ [ActionStatus.waitingRollbackApproval, .rollbackApproved] →
    ¬ Done rows .execute

/-! ## The statuses of an executed action -/

/-- What the attempts that are complete say of the status. -/
structure Executed (rows : Rows) : Prop where
  execute : Done rows .execute → rows.request.status.executed = true
  rollback : Done rows .rollback → rows.request.status = .rolledBack
  rolledBack : rows.request.status = .rolledBack → Done rows .rollback

variable {status : ActionStatus}

lemma apart_of_open (open_ : status.open_ = true) :
    status.executed = false ∧ status ≠ .rolledBack := by
  revert open_
  cases status <;> decide

lemma apart_of_rollbackable (rollbackable : status.rollbackable = true) : status ≠ .rolledBack := by
  revert rollbackable
  cases status <;> decide

lemma apart_of_claimable (claimable : status.claimable = true) : status ≠ .rolledBack := by
  revert claimable
  cases status <;> decide

lemma executed_of_claimable (claimable : status.claimable = true)
    (executed : status.executed = true) : status ∉ [ActionStatus.approved, .executing] := by
  revert claimable executed
  cases status <;> decide

lemma Purpose.executed_of_waiting {purpose : Purpose}
    (executed : purpose.waiting.executed = true) : purpose = .rollback := by
  cases purpose with
  | execute => cases executed
  | rollback => rfl

section
variable {digest : PlanSpec → String} {world world' : World} {action : Action} {rows rows' : Rows}

lemma Executed.kept (executed : Executed rows) (attempts : rows'.attempts = rows.attempts)
    (before : rows.request.status ≠ .rolledBack) (after : rows'.request.status ≠ .rolledBack)
    (step : Done rows .execute → rows.request.status.executed = true →
      rows'.request.status.executed = true) : Executed rows' := by
  have eq : ∀ purpose, Done rows' purpose → Done rows purpose := by
    intro purpose done
    rw [Done, attempts] at done
    exact done
  refine ⟨fun done => ?_, fun done => ?_, fun rolled => absurd rolled after⟩
  · exact step (eq _ done) (executed.execute (eq _ done))
  exact absurd (executed.rollback (eq _ done)) before

lemma Executed.fail (executed : Executed rows) {attempts : Table ActionAttempt.purpose}
    (failure : Failure) (underway : rows.request.status.underway = true)
    (done : ∀ purpose, (∃ attempt ∈ attempts, attempt.purpose = purpose ∧
      attempt.status = .completed) → Done rows purpose) :
    Executed (fail failure { rows with attempts }) := by
  have claimable := claimable_of_underway underway
  refine ⟨fun finished => ?_, fun finished => ?_, fun rolled => ?_⟩
  · have status := executed.execute (done _ finished)
    have rolling : rows.request.status = .rollingBack := by
      revert underway status
      cases rows.request.status <;> decide
    rw [Actions.fail, if_pos rolling]
    rfl
  · exact absurd (executed.rollback (done _ finished)) (apart_of_claimable claimable)
  · simp only [Actions.fail] at rolled
    split at rolled <;> cases rolled

variable {attempt : ActionAttempt}

lemma done_put_failed (failed : attempt.status ≠ .completed) (purpose : Purpose)
    (done : ∃ other ∈ rows.attempts.put attempt, other.purpose = purpose ∧
      other.status = .completed) : Done rows purpose := by
  obtain ⟨other, mem, ofPurpose, completed⟩ := done
  rcases Table.mem_put.1 mem with rfl | ⟨former, _⟩
  · exact absurd completed failed
  exact ⟨other, former, ofPurpose, completed⟩

lemma Executed.settled (executed : Executed rows) {purpose : Purpose} (output : Fields)
    (running : rows.request.status = purpose.running) (own : attempt.purpose = purpose)
    (completed : attempt.status = .completed) :
    Executed (complete purpose output { rows with attempts := rows.attempts.put attempt }) := by
  cases purpose with
  | execute =>
    refine ⟨fun _ => rfl, fun done => ?_, fun rolled => by cases rolled⟩
    obtain ⟨other, mem, ofPurpose, finished⟩ := done
    rcases Table.mem_put.1 mem with rfl | ⟨former, _⟩
    · rw [own] at ofPurpose
      cases ofPurpose
    have rolled := executed.rollback ⟨other, former, ofPurpose, finished⟩
    rw [running] at rolled
    cases rolled
  | rollback =>
    exact ⟨fun _ => rfl, fun _ => rfl, fun _ => ⟨attempt, Table.mem_put_self, own, completed⟩⟩

lemma executed_write (executed : Executed rows) (sound : Sound rows) (held : Held world)
    (before : world.rows = some rows) (keeps : KeepsRollback ⟨world, action, world'⟩)
    (write : Write digest world action rows rows') : Executed rows' := by
  cases write with
  | preflightFailed failure unsealed openStatus =>
    obtain ⟨closed, apart⟩ := apart_of_open openStatus
    refine executed.kept rfl apart ActionStatus.noConfusion fun _ done => ?_
    rw [closed] at done
    cases done
  | «sealed» principal access resolved approvalId reason ttlMinutes spec approvals byPreflight
      unsealed openStatus inserted =>
      obtain ⟨closed, apart⟩ := apart_of_open openStatus
      refine executed.kept rfl apart ActionStatus.noConfusion fun _ done => ?_
      rw [closed] at done
      cases done
  | decided principal access approvalId approve reason approval byDecision decides =>
    have status := sound.pending approval (Table.get?_eq_some.1 decides.stored).1 decides.pending
    refine executed.kept ?_ ?_ ?_ ?_
    · rfl
    · rw [status]
      cases approval.purpose <;> exact ActionStatus.noConfusion
    · cases approve <;> cases approval.purpose <;> exact ActionStatus.noConfusion
    · intro _ done
      rw [status] at done
      rw [Purpose.executed_of_waiting done]
      cases approve <;> rfl
  | requested principal access approvalId reason ttlMinutes planChecksum approvals byRequest plan
      rollbackable inserted =>
      exact executed.kept rfl (apart_of_rollbackable rollbackable) ActionStatus.noConfusion
        fun _ _ => rfl
  | cancelled byCancel cancellable =>
    obtain ⟨principal, access, byCancel⟩ := byCancel
    obtain ⟨apart, waiting⟩ : rows.request.status ≠ .rolledBack ∧ (rows.request.status.executed = true →
        rows.request.status ∈ [ActionStatus.waitingRollbackApproval, .rollbackApproved]) := by
      revert cancellable
      cases rows.request.status <;> decide
    refine executed.kept rfl apart ActionStatus.noConfusion fun done status => ?_
    exact absurd done (keeps principal access rows byCancel before (waiting status))
  | expired approvalId approval stored pending =>
    have status := sound.pending approval (Table.get?_eq_some.1 stored).1 pending
    refine executed.kept ?_ ?_ ?_ ?_
    · rfl
    · rw [status]
      cases approval.purpose <;> exact ActionStatus.noConfusion
    · cases approval.purpose <;> exact ActionStatus.noConfusion
    · intro _ done
      rw [status] at done
      rw [Purpose.executed_of_waiting done]
      rfl
  | claimed worker leaseSeconds claimable =>
    refine executed.kept rfl (apart_of_claimable claimable) ?_ ?_
    · simp only
      split <;> exact ActionStatus.noConfusion
    intro _ done
    simp only [if_neg (executed_of_claimable claimable done)]
    rfl
  | failed failure underway => exact executed.fail failure underway fun purpose done => done
  | refused plan purpose approval attempt failure running planned found unfinished =>
    exact executed.fail failure (underway_of_running running)
      (done_put_failed AttemptStatus.noConfusion)
  | resumed plan purpose approval attempt running found finished =>
    -- the attempt of a running purpose is never complete
    unfold attemptOf at found
    split at found
    · cases found
      cases finished
    next recorded stored =>
    split at found
    · cases found
    cases found
    obtain ⟨mem, key⟩ := Table.get?_eq_some.1 stored
    have done : Done rows purpose := ⟨attempt, mem, key, finished⟩
    cases purpose with
    | execute =>
      have status := executed.execute done
      rw [running] at status
      cases status
    | rollback =>
      have status := executed.rollback done
      rw [running] at status
      cases status
  | settled token job call checkedAt outcome found phase =>
    obtain ⟨plan, recorded, ready⟩ := held.ready before found phase
    have purpose : call.attempt.purpose = call.purpose := by
      rw [ready.attempt]
      exact (sound.attemptOf ready.found).1
    cases outcome with
    | error failure =>
      exact executed.fail failure (underway_of_running ready.running)
        (done_put_failed AttemptStatus.noConfusion)
    | ok output =>
      exact executed.settled output ready.running purpose rfl

lemma executed_create {id : Uuid} {principal : Principal} {access : Except ObsionError Unit}
    {request : CreateActionRequest} (run : create id principal access request = .ok rows) :
    Executed rows := by
  obtain ⟨_, _, run⟩ := of_bind_ok run
  obtain ⟨_, _, run⟩ := of_bind_ok run
  simp only at run
  split at run
  · cases run
  cases run
  have fresh : ∀ purpose : Purpose, ¬ ∃ attempt ∈ (Table.empty : Table ActionAttempt.purpose),
      attempt.purpose = purpose ∧ attempt.status = .completed := by
    rintro purpose ⟨attempt, mem, _⟩
    exact Table.notMem_empty attempt mem
  exact ⟨fun done => absurd done (fresh _), fun done => absurd done (fresh _),
    fun rolled => by cases rolled⟩

lemma Sound.rollbackAccepted (sound : Sound rows)
    (rollbackable : rows.request.status.rollbackable = true) : RollbackAccepted rows := by
  intro now principal approvalId reason ttlMinutes permitted own owner fresh
  obtain ⟨plan, planned⟩ : ∃ plan, rows.plan = some plan := by
    refine Option.ne_none_iff_exists'.1 (sound.planned_of_closed ?_ ?_)
    · revert rollbackable
      cases rows.request.status <;> decide
    intro cancelled
    rw [cancelled] at rollbackable
    cases rollbackable
  have recorded : rows.request.planChecksum = some plan.checksum := by
    rw [sound.planChecksum, planned, Option.map_some]
  have inserted : ∃ approvals, rows.approvals.insert?
      (pendingApproval now approvalId .rollback reason ttlMinutes plan.checksum rows)
        = some approvals := by
    have absent : ∀ approval ∈ rows.approvals, approval.id ≠ approvalId :=
      Table.get?_eq_none.1 fresh
    exact Table.exists_insert? absent
  obtain ⟨approvals, inserted⟩ := inserted
  have allowed : ¬ (rows.request.ownerId ≠ principal.id ∧
      principal.can "action.rollback.all" = false) := by
    rintro ⟨other, denied⟩
    rcases owner with eq | all
    · exact other eq
    rw [all] at denied
    cases denied
  have created : createApproval now approvalId .rollback reason ttlMinutes rows
      = .ok { rows with approvals } := by
    simp only [createApproval, recorded, inserted]
  refine ⟨{ rows with
    approvals
    request := { rows.request with status := .waitingRollbackApproval, error := none } }, ?_⟩
  unfold requestRollback
  rw [requirePermission, if_pos permitted, getAction, if_pos own, if_neg allowed,
    if_neg (by rw [rollbackable]; exact Bool.noConfusion), created]
  rfl

lemma Executed.compensable (executed : Executed rows) (sound : Sound rows) : Compensable rows := by
  intro done undone
  have kept : rows.request.status ≠ .rolledBack := fun rolled => undone (executed.rolledBack rolled)
  have cases_ : rows.request.status.rollbackable = true ∨ rows.request.status.rollingUnderway = true := by
    have ran := executed.execute done
    revert ran kept
    cases rows.request.status <;> decide
  rcases cases_ with rollbackable | underway
  · exact .inl (sound.rollbackAccepted rollbackable)
  exact .inr underway

end

section
variable {digest : PlanSpec → String} {world world' : World} {action : Action}

structure Reversible (world : World) : Prop where
  orderly : Orderly world
  executed : ∀ rows, world.rows = some rows → Executed rows

lemma reversible_step (reversible : Reversible world)
    (run : perform digest world action = some world')
    (keeps : KeepsRollback ⟨world, action, world'⟩) : Reversible world' := by
  refine ⟨orderly_step reversible.orderly run, fun stored present => ?_⟩
  cases perform_change run with
  | kept eq => exact reversible.executed stored (eq ▸ present)
  | created id principal access request rows absent run after =>
    have equal := Option.some.inj (after.symm.trans present)
    subst equal
    exact executed_create run
  | wrote rows rows' before after write =>
    have equal := Option.some.inj (after.symm.trans present)
    subst equal
    exact executed_write (reversible.executed rows before) (reversible.orderly.sound rows before)
      reversible.orderly.held before keeps write

/-- In every state of a run that cancels no rollback of a completed execution, the executed
action can be rolled back. -/
theorem stays_compensable (reached : ReachableWhere (lifecycle digest) KeepsRollback world)
    {rows : Rows} (present : world.rows = some rows) : Compensable rows := by
  have reversible : Reversible world := by
    refine reached.holds (fun start blank => ?_) fun _ _ _ => reversible_step
    refine ⟨orderly_blank blank, fun rows present => ?_⟩
    rw [blank.1] at present
    cases present
  exact (reversible.executed rows present).compensable (reversible.orderly.sound rows present)

end

def sampleExecuted : List Action :=
  sampleApproved ++
    [.begin_ sampleToken sampleEnv 0, .post sampleToken, .answer sampleToken (.ok [])]

theorem stays_compensable_executed : ∃ world rows,
    ReachableWhere (lifecycle sampleDigest) KeepsRollback world ∧ world.rows = some rows ∧
    Done rows .execute ∧ Compensable rows := by
  obtain ⟨moves, world, rows, attempt, replayed, present, stored, quiet⟩ :
      ∃ (moves : List (Move World Action)) (world : World) (rows : Rows) (attempt : ActionAttempt),
        replay (perform sampleDigest) sampleStart sampleExecuted = some (moves, world) ∧
        world.rows = some rows ∧
        (rows.attempts.get? .execute = some attempt ∧ attempt.status = .completed) ∧
        ∀ move ∈ moves, KeepsRollback move := by
    refine ⟨_, _, _, _, rfl, rfl, ⟨rfl, rfl⟩, ?_⟩
    intro move member principal access rows cancels
    simp only [List.mem_cons, List.not_mem_nil, or_false] at member
    rcases member with rfl | rfl | rfl | rfl | rfl | rfl | rfl <;> cases cancels
  have reached : ReachableWhere (lifecycle sampleDigest) KeepsRollback world :=
    ⟨sampleStart, moves, ⟨rfl, rfl, rfl⟩, Path.of_replay replayed, quiet⟩
  obtain ⟨member, purpose⟩ := Table.get?_eq_some.1 stored.1
  exact ⟨world, rows, reached, present, ⟨attempt, member, purpose, stored.2⟩,
    stays_compensable reached present⟩

lemma cancelled_not_accepted {now : Time} {principal : Principal}
    {access : Except ObsionError Unit} {approvalId : Uuid} {reason : String} {ttlMinutes : Nat}
    {rows rows' : Rows} (cancelled : rows.request.status = .cancelled) :
    requestRollback now principal access approvalId reason ttlMinutes rows ≠ .ok rows' := by
  intro run
  obtain ⟨_, _, _, rollbackable, _⟩ := requestRollback_ok run
  rw [cancelled] at rollbackable
  cases rollbackable

def sampleWithdrawn : List Action :=
  sampleExecuted ++ [.requestRollback sampleCreator (.ok ()) (sampleId 6) "undo it" 5,
      .cancel sampleCreator (.ok ())]

theorem cancelled_rollback : ∃ world rows, Reachable (lifecycle sampleDigest) world ∧
    world.rows = some rows ∧ ¬ Compensable rows := by
  obtain ⟨moves, world, rows, replayed, present, status, done, undone, fresh⟩ :
      ∃ (moves : List (Move World Action)) (world : World) (rows : Rows),
        replay (perform sampleDigest) sampleStart sampleWithdrawn = some (moves, world) ∧
        world.rows = some rows ∧ rows.request.status = .cancelled ∧
        (∃ attempt, rows.attempts.get? .execute = some attempt ∧ attempt.status = .completed) ∧
        rows.attempts.get? .rollback = none ∧ rows.approvals.get? (sampleId 7) = none ∧
        rows.request.organizationId = sampleCreator.organizationId ∧
        rows.request.ownerId = sampleCreator.id := by
    exact ⟨_, _, _, rfl, rfl, rfl, ⟨_, rfl, rfl⟩, rfl, rfl, rfl, rfl⟩
  refine ⟨world, rows, ⟨sampleStart, moves, ⟨rfl, rfl, rfl⟩, Path.of_replay replayed⟩, present, ?_⟩
  obtain ⟨attempt, stored, completed⟩ := done
  obtain ⟨member, purpose⟩ := Table.get?_eq_some.1 stored
  intro compensable
  have nothing : ¬ Done rows .rollback := by
    rintro ⟨other, otherIn, rolled, _⟩
    exact Table.get?_eq_none.1 undone other otherIn rolled
  rcases compensable ⟨attempt, member, purpose, completed⟩ nothing with accepted | underway
  · obtain ⟨rows', run⟩ := accepted 0 sampleCreator (sampleId 7) "" 0 rfl fresh.2.1
      (Or.inl fresh.2.2) fresh.1
    exact cancelled_not_accepted status run
  · rw [status] at underway
    cases underway

end Obsion.Actions
