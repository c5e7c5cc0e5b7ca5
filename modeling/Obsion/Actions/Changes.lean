import Obsion.Actions.Machine

/-! # What one transaction writes

`Write` says once what a transaction that commits does to the rows; every invariant of an
action follows from its cases. -/

namespace Obsion.Actions

open Obsion.Lib

def ActionStatus.open_ (status : ActionStatus) : Bool :=
  status ∈ [ActionStatus.draft, .preflightFailed]

/-- The request waits for the approval, which is a new one. -/
structure Inserted (now : Time) (rows : Rows) (id : Uuid) (purpose : Purpose) (reason : String)
    (ttlMinutes : Nat) (planChecksum : String) (approvals : Table ActionApproval.id) : Prop where
  run : rows.approvals.insert?
    (pendingApproval now id purpose reason ttlMinutes planChecksum rows) = some approvals

structure Decides (now : Time) (principal : Principal) (approvalId : Uuid) (rows : Rows)
    (approval : ActionApproval) : Prop where
  permitted : principal.can "action.approve" = true
  stored : rows.approvals.get? approvalId = some approval
  pending : approval.status = .pending
  current : now < approval.expiresAt
  independent : approval.requestedBy ≠ principal.id
  plan : rows.request.planChecksum = some approval.planChecksum

inductive Write (digest : PlanSpec → String) (world : World) (action : Action) (rows : Rows) :
    Rows → Prop
  | preflightFailed (failure : Failure) (unsealed : rows.plan = none)
      (openStatus : rows.request.status.open_ = true) :
      Write digest world action rows
        { rows with
          request := { rows.request with status := .preflightFailed, error := some failure } }
  | sealed (principal : Principal) (access : Except ObsionError Unit) (resolved : Resolved)
      (approvalId : Uuid) (reason : String) (ttlMinutes : Nat) (spec : PlanSpec)
      (approvals : Table ActionApproval.id)
      (byPreflight : action = .preflight principal access resolved approvalId reason ttlMinutes)
      (unsealed : rows.plan = none) (openStatus : rows.request.status.open_ = true)
      (inserted : Inserted world.now rows approvalId .execute reason ttlMinutes (digest spec)
        approvals) :
      Write digest world action rows
        { rows with
          plan := some ⟨spec, digest spec, principal.id⟩
          request := { rows.request with
            planChecksum := some (digest spec), status := .waitingApproval, error := none }
          approvals }
  | decided (principal : Principal) (access : Except ObsionError Unit) (approvalId : Uuid)
      (approve : Bool) (reason : String) (approval : ActionApproval)
      (byDecision : action = .decide_ principal access approvalId approve reason)
      (decides : Decides world.now principal approvalId rows approval) :
      Write digest world action rows
        { rows with
          approvals := rows.approvals.put (decided world.now principal approve reason approval)
          request := decidedRequest world.now approve approval.purpose rows.request }
  | requested (principal : Principal) (access : Except ObsionError Unit) (approvalId : Uuid)
      (reason : String) (ttlMinutes : Nat) (planChecksum : String)
      (approvals : Table ActionApproval.id)
      (byRequest : action = .requestRollback principal access approvalId reason ttlMinutes)
      (plan : rows.request.planChecksum = some planChecksum)
      (rollbackable : rows.request.status.rollbackable = true)
      (inserted : Inserted world.now rows approvalId .rollback reason ttlMinutes planChecksum
        approvals) :
      Write digest world action rows
        { rows with
          approvals
          request := { rows.request with status := .waitingRollbackApproval, error := none } }
  | cancelled (byCancel : ∃ principal access, action = .cancel principal access)
      (cancellable : rows.request.status.cancellable = true) :
      Write digest world action rows
        { rows with
          request := { rows.request with
            status := .cancelled, cancellationRequestedAt := some world.now }
          approvals := rows.approvals.update (withdrawn world.now) (id_withdrawn world.now) }
  | expired (approvalId : Uuid) (approval : ActionApproval)
      (stored : rows.approvals.get? approvalId = some approval)
      (pending : approval.status = .pending) :
      Write digest world action rows
        { rows with
          approvals := rows.approvals.put
            { approval with status := .expired, decidedAt := some world.now }
          request := { rows.request with
            status := match approval.purpose with
              | .execute => .expired
              | .rollback => .rollbackRejected
            error := some expiredFailure } }
  | claimed (worker : String) (leaseSeconds : Nat)
      (claimable : rows.request.status.claimable = true) :
      Write digest world action rows
        { rows with
          request := { rows.request with
            status := if rows.request.status ∈ [ActionStatus.approved, .executing] then .executing
              else .rollingBack
            lease := some ⟨worker, world.now + seconds leaseSeconds⟩ } }
  | failed (failure : Failure) (underway : rows.request.status.underway = true) :
      Write digest world action rows (fail failure rows)
  | refused (plan : ActionPlan) (purpose : Purpose) (approval : ActionApproval)
      (attempt : ActionAttempt) (failure : Failure) (running : rows.request.status = purpose.running)
      (planned : rows.plan = some plan)
      (found : attemptOf plan purpose approval rows = .ok attempt)
      (unfinished : attempt.status ≠ .completed) :
      Write digest world action rows (refused attempt failure rows)
  | resumed (plan : ActionPlan) (purpose : Purpose) (approval : ActionApproval)
      (attempt : ActionAttempt) (running : rows.request.status = purpose.running)
      (found : attemptOf plan purpose approval rows = .ok attempt)
      (finished : attempt.status = .completed) :
      Write digest world action rows (complete purpose attempt.output rows)
  | settled (token : Uuid) (job : Job) (call : Call) (checkedAt : Time)
      (outcome : Except Failure Fields) (found : world.jobs.get? token = some job)
      (phase : job.phase = .posting call checkedAt) :
      Write digest world action rows (settle call outcome rows)

inductive Change (digest : PlanSpec → String) (world : World) (action : Action) (world' : World) :
    Prop
  | kept (same : world'.rows = world.rows)
  | created (id : Uuid) (principal : Principal) (access : Except ObsionError Unit)
      (request : CreateActionRequest) (rows : Rows) (absent : world.rows = none)
      (run : create id principal access request = .ok rows) (after : world'.rows = some rows)
  | wrote (rows rows' : Rows) (before : world.rows = some rows) (after : world'.rows = some rows')
      (write : Write digest world action rows rows')

section
variable {digest : PlanSpec → String} {now : Time} {principal : Principal}
  {access : Except ObsionError Unit} {approvalId : Uuid} {reason : String} {ttlMinutes : Nat}
  {rows rows' : Rows}

lemma createApproval_ok {purpose : Purpose}
    (run : createApproval now approvalId purpose reason ttlMinutes rows = .ok rows') :
    ∃ planChecksum approvals, rows.request.planChecksum = some planChecksum ∧
      Inserted now rows approvalId purpose reason ttlMinutes planChecksum approvals ∧
      rows' = { rows with approvals } := by
  unfold createApproval at run
  split at run
  · cases run
  next planChecksum plan =>
  split at run
  · cases run
  next approvals inserted =>
  cases run
  exact ⟨planChecksum, approvals, plan, ⟨inserted⟩, rfl⟩

lemma preflight_ok {resolved : Resolved}
    (run : preflight digest now principal access resolved approvalId reason ttlMinutes rows
      = .ok rows') : rows.plan = none ∧ rows.request.status.open_ = true ∧
      ((∃ failure, rows' = { rows with
          request := { rows.request with status := .preflightFailed, error := some failure } }) ∨
        ∃ spec approvals, planSpec resolved rows.request = .ok spec ∧
          Inserted now rows approvalId .execute reason ttlMinutes (digest spec) approvals ∧
          rows' = { rows with
            plan := some ⟨spec, digest spec, principal.id⟩
            request := { rows.request with
              planChecksum := some (digest spec), status := .waitingApproval, error := none }
            approvals }) := by
  obtain ⟨_, _, run⟩ := of_bind_ok run
  obtain ⟨_, _, run⟩ := of_bind_ok run
  split at run
  · cases run
  next openStatus =>
  split at run
  · cases run
  next unsealed =>
  rw [Bool.not_eq_true, Option.isSome_eq_false_iff, Option.isNone_iff_eq_none] at unsealed
  refine ⟨unsealed, ?_, ?_⟩
  · simp only [ActionStatus.open_, List.mem_cons, List.not_mem_nil, or_false, decide_eq_true_eq]
    by_contra neither
    exact openStatus (not_or.1 neither)
  · split at run
    · next error _ =>
      cases run
      exact .inl ⟨_, rfl⟩
    · next spec valid =>
      obtain ⟨planChecksum, approvals, plan, inserted, rfl⟩ := createApproval_ok run
      cases plan
      exact .inr ⟨spec, approvals, valid, ⟨inserted.run⟩, rfl⟩

lemma decideApproval_ok {approve : Bool}
    (run : decideApproval now principal access approvalId approve reason rows = .ok rows') :
    ∃ approval, Decides now principal approvalId rows approval ∧ rows' = { rows with
        approvals := rows.approvals.put (decided now principal approve reason approval)
        request := decidedRequest now approve approval.purpose rows.request } := by
  obtain ⟨_, permitted, run⟩ := of_bind_ok run
  split at run
  · cases run
  next approval stored =>
  split at run
  · cases run
  next pending =>
  obtain ⟨_, _, run⟩ := of_bind_ok run
  split at run
  · cases run
  next current =>
  split at run
  · cases run
  next independent =>
  split at run
  · cases run
  next plan =>
  cases run
  refine ⟨approval, ⟨?_, stored, ?_, ?_, independent, ?_⟩, rfl⟩
  · unfold requirePermission at permitted
    split at permitted
    · next can => exact can
    cases permitted
  · exact Decidable.not_not.1 pending
  · exact Int.not_le.1 current
  · exact Decidable.not_not.1 plan

lemma requestRollback_ok
    (run : requestRollback now principal access approvalId reason ttlMinutes rows = .ok rows') :
    ∃ planChecksum approvals, rows.request.planChecksum = some planChecksum ∧
      rows.request.status.rollbackable = true ∧
      Inserted now rows approvalId .rollback reason ttlMinutes planChecksum approvals ∧
      rows' = { rows with
        approvals
        request := { rows.request with status := .waitingRollbackApproval, error := none } } := by
  obtain ⟨_, _, run⟩ := of_bind_ok run
  obtain ⟨_, _, run⟩ := of_bind_ok run
  split at run
  · cases run
  split at run
  · cases run
  next rollbackable =>
  obtain ⟨requested, created, run⟩ := of_bind_ok run
  cases run
  obtain ⟨planChecksum, approvals, plan, inserted, rfl⟩ := createApproval_ok created
  exact ⟨planChecksum, approvals, plan, Bool.not_eq_false _ ▸ rollbackable, inserted, rfl⟩

lemma cancel_ok (run : cancel now principal access rows = .ok rows') :
    rows.request.status.cancellable = true ∧ rows' = { rows with
      request := { rows.request with
        status := .cancelled, cancellationRequestedAt := some now }
      approvals := rows.approvals.update (withdrawn now) (id_withdrawn now) } := by
  obtain ⟨_, _, run⟩ := of_bind_ok run
  split at run
  · cases run
  split at run
  · cases run
  next cancellable =>
  cases run
  exact ⟨Bool.not_eq_false _ ▸ cancellable, rfl⟩

structure Ready (checkedAt : Time) (rows : Rows) (plan : ActionPlan) (recorded : ActionAttempt)
    (call : Call) : Prop where
  running : rows.request.status = call.purpose.running
  planned : rows.plan = some plan
  sealed : rows.request.planChecksum = some plan.checksum
  granted : call.approval ∈ rows.approvals ∧ call.approval.purpose = call.purpose ∧
    call.approval.status = .approved ∧ call.approval.planChecksum = plan.checksum
  unexpired : checkedAt < call.approval.expiresAt
  found : attemptOf plan call.purpose call.approval rows = .ok recorded
  unfinished : recorded.status ≠ .completed
  attempt : call.attempt = { recorded with status := .running }
  payload : call.payload = plannedPayload rows.request plan call.purpose

inductive Ends (rows : Rows) : Rows → Prop
  | failed (failure : Failure) : Ends rows (fail failure rows)
  | refused (plan : ActionPlan) (purpose : Purpose) (approval : ActionApproval)
      (attempt : ActionAttempt) (failure : Failure) (running : rows.request.status = purpose.running)
      (planned : rows.plan = some plan)
      (found : attemptOf plan purpose approval rows = .ok attempt)
      (unfinished : attempt.status ≠ .completed) : Ends rows (refused attempt failure rows)
  | resumed (plan : ActionPlan) (purpose : Purpose) (approval : ActionApproval)
      (attempt : ActionAttempt) (running : rows.request.status = purpose.running)
      (found : attemptOf plan purpose approval rows = .ok attempt)
      (finished : attempt.status = .completed) :
      Ends rows (complete purpose attempt.output rows)

lemma grantedApproval_some {purpose : Purpose} {planChecksum : String}
    {approvals : Table ActionApproval.id} {approval : ActionApproval}
    (found : grantedApproval purpose planChecksum approvals = some approval) :
    approval ∈ approvals ∧ approval.purpose = purpose ∧ approval.status = .approved ∧
      approval.planChecksum = planChecksum := by
  have chosen := Table.mem_select.1 (List.argmax_mem found)
  simp only [Bool.and_eq_true, decide_eq_true_eq] at chosen
  exact ⟨chosen.1, chosen.2.1.1, chosen.2.1.2, chosen.2.2⟩

inductive BeginSpec (checkedAt : Time) (rows : Rows) : Begun → Prop
  | ignored : BeginSpec checkedAt rows .ignored
  | raised (error : ObsionError) : BeginSpec checkedAt rows (.raised error)
  | committed (rows' : Rows) (underway : rows.request.status.underway = true)
      (ends : Ends rows rows') : BeginSpec checkedAt rows (.committed rows')
  | call (call : Call) (plan : ActionPlan) (recorded : ActionAttempt)
      (ready : Ready checkedAt rows plan recorded call) : BeginSpec checkedAt rows (.call call)

lemma begin_spec (checkedAt : Time) (env : InvokeEnv) :
    BeginSpec checkedAt rows (begin_ now checkedAt env rows) := by
  unfold begin_
  split
  · exact .ignored
  next active =>
  have underway : rows.request.status.underway = true := Bool.not_eq_false _ ▸ active
  split
  · exact .committed _ underway (.failed _)
  simp only
  generalize purposeEq :
    (if rows.request.status = .executing then Purpose.execute else .rollback) = purpose
  have running : rows.request.status = purpose.running := by
    rw [← purposeEq]
    simp only [ActionStatus.underway, List.mem_cons, List.not_mem_nil, or_false,
      decide_eq_true_eq] at underway
    rcases underway with executing | rolling
    · rw [executing]
      rfl
    rw [rolling]
    rfl
  split
  · exact .raised _
  · exact .raised _
  · next plan owner planned =>
    split
    · exact .raised _
    next sealed =>
    split
    · exact .raised _
    next approval chosen =>
    obtain ⟨found, _⟩ := Option.filter_eq_some_iff.1 chosen
    split
    · exact .raised _
    next attempt recorded =>
    split
    · next finished =>
      exact .committed _ underway (.resumed plan purpose approval attempt running recorded finished)
    · next unfinished =>
      have ends : ∀ failure, Ends rows (refused attempt failure rows) :=
        fun failure => .refused plan purpose approval attempt failure running
          planned recorded unfinished
      unfold askGateway
      split
      · exact .raised _
      split
      · exact .committed _ underway (ends _)
      next unexpired =>
      split
      · exact .committed _ underway (ends _)
      exact .call _ plan attempt ⟨running, planned, Decidable.not_not.1 sealed,
          grantedApproval_some found, Int.not_le.1 unexpired,
          recorded, unfinished, rfl, rfl⟩

end

section
variable {digest : PlanSpec → String} {world world' : World} {action : Action}

lemma commit_some {transaction : Rows → Except ObsionError Rows}
    (run : world.commit transaction = some world') :
    world.locked = none ∧ ∃ rows rows', world.rows = some rows ∧ transaction rows = .ok rows' ∧
      world' = { world with rows := some rows' } := by
  unfold World.commit at run
  split at run
  · cases run
  next free =>
  rw [Bool.not_eq_true, Option.isSome_eq_false_iff, Option.isNone_iff_eq_none] at free
  obtain ⟨rows, before, run⟩ := Option.bind_eq_some_iff.1 run
  obtain ⟨rows', written, rfl⟩ := Option.map_eq_some_iff.1 run
  exact ⟨free, rows, rows', before, ok_of_toOption written, rfl⟩

lemma perform_change (run : perform digest world action = some world') :
    Change digest world action world' := by
  cases action with
  | elapse duration =>
    cases run
    exact .kept rfl
  | create id principal access request =>
    simp only [perform] at run
    split at run
    · cases run
      exact .kept rfl
    next absent =>
    rw [Bool.not_eq_true, Option.isSome_eq_false_iff, Option.isNone_iff_eq_none] at absent
    obtain ⟨rows, created, rfl⟩ := Option.map_eq_some_iff.1 run
    exact .created id principal access request rows absent (ok_of_toOption created) rfl
  | preflight principal access resolved approvalId reason ttlMinutes =>
    obtain ⟨_, rows, rows', before, ok, rfl⟩ := commit_some run
    obtain ⟨unsealed, openStatus, ⟨failure, rfl⟩ | ⟨spec, approvals, _, inserted, rfl⟩⟩ :=
      preflight_ok ok
    · exact .wrote rows _ before rfl (.preflightFailed failure unsealed openStatus)
    exact .wrote rows _ before rfl (.sealed principal access resolved approvalId reason
      ttlMinutes spec approvals rfl unsealed openStatus inserted)
  | decide_ principal access approvalId approve reason =>
    obtain ⟨_, rows, rows', before, ok, rfl⟩ := commit_some run
    obtain ⟨approval, decides, rfl⟩ := decideApproval_ok ok
    exact .wrote rows _ before rfl
      (.decided principal access approvalId approve reason approval rfl decides)
  | requestRollback principal access approvalId reason ttlMinutes =>
    obtain ⟨_, rows, rows', before, ok, rfl⟩ := commit_some run
    obtain ⟨planChecksum, approvals, plan, rollbackable, inserted, rfl⟩ := requestRollback_ok ok
    exact .wrote rows _ before rfl (.requested principal access approvalId reason ttlMinutes
      planChecksum approvals rfl plan rollbackable inserted)
  | cancel principal access =>
    obtain ⟨_, rows, rows', before, ok, rfl⟩ := commit_some run
    obtain ⟨cancellable, rfl⟩ := cancel_ok ok
    exact .wrote rows _ before rfl (.cancelled ⟨principal, access, rfl⟩ cancellable)
  | expire approvalId =>
    simp only [perform] at run
    split at run
    · cases run
    obtain ⟨rows, before, run⟩ := Option.bind_eq_some_iff.1 run
    obtain ⟨rows', expired, rfl⟩ := Option.map_eq_some_iff.1 run
    obtain ⟨approval, stored, expired⟩ := Option.bind_eq_some_iff.1 expired
    split at expired
    · next due =>
      cases expired
      exact .wrote rows _ before rfl (.expired approvalId approval stored due.1)
    · cases expired
  | claim token worker leaseSeconds =>
    simp only [perform] at run
    split at run
    · cases run
    obtain ⟨rows, before, run⟩ := Option.bind_eq_some_iff.1 run
    obtain ⟨rows', claiming, rfl⟩ := Option.map_eq_some_iff.1 run
    unfold claimAction at claiming
    split at claiming
    · next free =>
      cases claiming
      simp only [Bool.and_eq_true] at free
      exact .wrote rows _ before rfl (.claimed worker leaseSeconds free.1.1)
    · cases claiming
  | begin_ token env elapsed =>
    simp only [perform] at run
    split at run
    · cases run
    obtain ⟨rows, before, run⟩ := Option.bind_eq_some_iff.1 run
    obtain ⟨job, found, run⟩ := Option.bind_eq_some_iff.1 run
    split at run
    · simp only [Option.some.injEq] at run
      have spec : BeginSpec (world.now + elapsed) rows
        (begin_ world.now (world.now + elapsed) env rows) := begin_spec _ env
      generalize begin_ world.now (world.now + elapsed) env rows = begun at run spec
      cases spec with
      | ignored =>
        subst run
        exact .kept rfl
      | raised error =>
        subst run
        exact .kept rfl
      | committed rows' underway ends =>
        subst run
        refine .wrote rows rows' before rfl ?_
        cases ends with
        | failed failure => exact .failed failure underway
        | refused plan purpose approval attempt failure running planned found unfinished =>
          exact .refused plan purpose approval attempt failure running planned found unfinished
        | resumed plan purpose approval attempt running found finished =>
          exact .resumed plan purpose approval attempt running found finished
      | call call plan recorded ready =>
        subst run
        exact .kept rfl
    · cases run
  | post token =>
    obtain ⟨job, _, run⟩ := Option.bind_eq_some_iff.1 run
    split at run
    · cases run
      exact .kept rfl
    cases run
  | answer token outcome =>
    obtain ⟨rows, before, run⟩ := Option.bind_eq_some_iff.1 run
    obtain ⟨job, found, run⟩ := Option.bind_eq_some_iff.1 run
    split at run
    · next call checkedAt phase =>
      cases run
      exact .wrote rows _ before rfl (.settled token job call checkedAt outcome found phase)
    · cases run
  | abort token failure =>
    obtain ⟨job, _, run⟩ := Option.bind_eq_some_iff.1 run
    split at run
    · cases run
      exact .kept rfl
    · cases run
      exact .kept rfl
    · cases run
  | fail token =>
    simp only [perform] at run
    split at run
    · cases run
    obtain ⟨rows, before, run⟩ := Option.bind_eq_some_iff.1 run
    obtain ⟨job, _, run⟩ := Option.bind_eq_some_iff.1 run
    split at run
    · next failure _ =>
      cases run
      by_cases underway : rows.request.status.underway = true
      · exact .wrote rows _ before (by rw [failAfterException, if_pos underway])
          (.failed failure underway)
      refine .kept ?_
      rw [failAfterException, if_neg underway]
      exact before.symm
    · cases run
  | crash token =>
    obtain ⟨job, _, rfl⟩ := Option.map_eq_some_iff.1 run
    exact .kept rfl

end

end Obsion.Actions
