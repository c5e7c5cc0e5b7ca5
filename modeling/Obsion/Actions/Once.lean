import Obsion.Actions.Lifecycle

/-! # One logical write for each purpose

A POST is the step of a tick that enters `_post`: from there on the provider may have
done the write, whatever becomes of the transaction. -/

namespace Obsion.Actions

open Obsion.Lib

structure Post where
  purpose : Purpose
  idempotencyKey : String
  payload : Fields

def posted (move : Move World Action) : Option Post :=
  match move.action with
  | .post token =>
    (move.before.jobs.get? token).bind fun job =>
      match job.phase with
      | .checked call _ => some ⟨call.purpose, call.attempt.idempotencyKey, call.payload⟩
      | _ => none
  | _ => none

structure Licensed (time : Time) (rows : Rows) (purpose : Purpose) (approval : ActionApproval) :
    Prop where
  running : rows.request.status = purpose.running
  stored : approval ∈ rows.approvals
  purpose : approval.purpose = purpose
  granted : approval.status = .approved
  checksum : rows.plan.map ActionPlan.checksum = some approval.planChecksum
  unexpired : time < approval.expiresAt

lemma Ready.licensed {checkedAt : Time} {rows : Rows} {plan : ActionPlan}
    {recorded : ActionAttempt} {call : Call} (ready : Ready checkedAt rows plan recorded call) :
    Licensed checkedAt rows call.purpose call.approval where
  running := ready.running
  stored := ready.granted.1
  purpose := ready.granted.2.1
  granted := ready.granted.2.2.1
  checksum := by rw [ready.planned, Option.map_some, ready.granted.2.2.2]
  unexpired := ready.unexpired

def ActionStatus.late (status : ActionStatus) : Bool :=
  status ∉ [ActionStatus.draft, .preflightFailed, .waitingApproval, .approved, .executing]

lemma ActionStatus.apart_of_late {status : ActionStatus} (late : status.late = true) :
    status.open_ = false ∧ status ∉ [ActionStatus.approved, .executing] := by
  revert late
  cases status <;> decide

section
variable {digest : PlanSpec → String} {world world' : World} {action : Action} {rows rows' : Rows}

variable {post : Post} {plan : ActionPlan} {status : ActionStatus} {purpose : Purpose}

lemma posted_some {move : Move World Action} (sent : posted move = some post) :
    ∃ token job call checkedAt, move.action = .post token ∧
      job ∈ move.before.jobs ∧ job.token = token ∧ job.phase = .checked call checkedAt ∧
      post = ⟨call.purpose, call.attempt.idempotencyKey, call.payload⟩ := by
  unfold posted at sent
  split at sent
  · next token byPost =>
    obtain ⟨job, found, sent⟩ := Option.bind_eq_some_iff.1 sent
    split at sent
    · next call checkedAt phase =>
      cases sent
      obtain ⟨mem, named⟩ := Table.get?_eq_some.1 found
      exact ⟨token, job, call, checkedAt, byPost, mem, named, phase, rfl⟩
    · cases sent
  · cases sent

/-- The tick of a job began its call in a move after which the rows have not changed. -/
def Cleared (moves : List (Move World Action)) (world : World) (token : Uuid) (checkedAt : Time) :
    Prop :=
  ∃ earlier begun between env elapsed, moves = earlier ++ begun :: between ∧
    begun.action = .begin_ token env elapsed ∧ begun.after.now = checkedAt ∧
    ∀ move ∈ begun :: between, move.after.rows = world.rows

structure Calls (moves : List (Move World Action)) (world : World) : Prop where
  held : Held world
  cleared : ∀ job ∈ world.jobs, ∀ call checkedAt, job.phase.call? = some (call, checkedAt) →
    Cleared moves world job.token checkedAt

lemma calls_blank (blank : Blank world) : Calls [] world := by
  refine ⟨(orderly_blank blank).held, fun job mem => ?_⟩
  rw [blank.2.2] at mem
  exact absurd mem (Table.notMem_empty _)

lemma calls_step {moves : List (Move World Action)} (calls : Calls moves world)
    (run : perform digest world action = some world') :
    Calls (moves ++ [⟨world, action, world'⟩]) world' := by
  refine ⟨held_step calls.held run, fun job mem call checkedAt engaged => ?_⟩
  cases engages_step calls.held run job mem call checkedAt engaged with
  | former former formerIn token wasEngaged rows locked later =>
    obtain ⟨earlier, begun, between, env, elapsed, split, byBegin, checked, eq⟩ :=
      calls.cleared former formerIn call checkedAt wasEngaged
    refine ⟨earlier, begun, between ++ [⟨world, action, world'⟩], env, elapsed, ?_,
      token ▸ byBegin, checked, fun move moveIn => ?_⟩
    · rw [split, List.append_assoc, List.cons_append]
    rw [← List.cons_append, List.mem_append, List.mem_singleton] at moveIn
    rcases moveIn with old | rfl
    · exact (eq move old).trans rows.symm
    rfl
  | begun env elapsed byBegin current checked =>
    refine ⟨moves, ⟨world, action, world'⟩, [], env, elapsed, rfl, byBegin, checked,
      fun move moveIn => ?_⟩
    rw [List.mem_singleton.1 moveIn]

/-! ## What a purpose sends stays what it is -/

/-- The rows give the key and the payload that was sent, and no write changes what they give. -/
structure Fixed (rows : Rows) (post : Post) : Prop where
  key : post.idempotencyKey = attemptKey rows.request post.purpose
  payload : ∃ plan, rows.plan = some plan ∧ post.payload = plannedPayload rows.request plan post.purpose
  late : post.purpose = .rollback → rows.request.status.late = true

lemma write_plan (write : Write digest world action rows rows') (planned : rows.plan = some plan) :
    rows'.plan = some plan := by
  cases write with
  | «sealed» principal access resolved approvalId reason ttlMinutes spec approvals byPreflight
      unsealed openStatus inserted =>
      rw [unsealed] at planned
      cases planned
  | settled token job call checkedAt outcome found phase => cases outcome <;> exact planned
  | _ => exact planned

lemma Purpose.late_of_waiting (waiting : status = purpose.waiting) (late : status.late = true) :
    purpose = .rollback := by
  cases purpose with
  | execute =>
    rw [waiting] at late
    cases late
  | rollback => rfl

lemma Purpose.late_of_running (running : status = purpose.running) (late : status.late = true) :
    purpose = .rollback := by
  cases purpose with
  | execute =>
    rw [running] at late
    cases late
  | rollback => rfl

lemma late_fail (failure : Failure) (rows : Rows) : (fail failure rows).request.status.late = true := by
  unfold fail
  simp only
  split <;> rfl

lemma write_late (sound : Sound rows) (held : Held world) (before : world.rows = some rows)
    (write : Write digest world action rows rows') (late : rows.request.status.late = true) :
    rows'.request.status.late = true ∧ rows'.request.result.execute = rows.request.result.execute := by
  obtain ⟨closed, finished⟩ := ActionStatus.apart_of_late late
  cases write with
  | preflightFailed failure unsealed openStatus => exact absurd openStatus (by rw [closed]; exact Bool.false_ne_true)
  | «sealed» principal access resolved approvalId reason ttlMinutes spec approvals byPreflight
      unsealed openStatus inserted => exact absurd openStatus (by rw [closed]; exact Bool.false_ne_true)
  | decided principal access approvalId approve reason approval byDecision decides =>
    obtain ⟨mem, _⟩ := Table.get?_eq_some.1 decides.stored
    rw [Purpose.late_of_waiting (sound.pending approval mem decides.pending) late]
    cases approve <;> exact ⟨rfl, rfl⟩
  | requested | cancelled => exact ⟨rfl, rfl⟩
  | expired approvalId approval stored pending =>
    obtain ⟨mem, _⟩ := Table.get?_eq_some.1 stored
    rw [Purpose.late_of_waiting (sound.pending approval mem pending) late]
    exact ⟨rfl, rfl⟩
  | claimed worker leaseSeconds claimable =>
    refine ⟨?_, rfl⟩
    simp only [if_neg finished]
    rfl
  | failed failure underway => exact ⟨late_fail failure rows, rfl⟩
  | refused plan purpose approval attempt failure running planned found unfinished =>
    exact ⟨late_fail failure _, rfl⟩
  | resumed plan purpose approval attempt running found finished =>
    rw [Purpose.late_of_running running late]
    exact ⟨rfl, rfl⟩
  | settled token job call checkedAt outcome found phase =>
    obtain ⟨plan, recorded, ready⟩ := held.ready before found phase
    cases outcome with
    | error failure => exact ⟨late_fail failure _, rfl⟩
    | ok output =>
      rw [settle, Purpose.late_of_running ready.running late]
      exact ⟨rfl, rfl⟩

lemma plannedPayload_same {request request' : ActionRequest} (eq : SameRequest request request')
    (plan : ActionPlan)
    (result : purpose = .rollback → request'.result.execute = request.result.execute) :
    plannedPayload request' plan purpose = plannedPayload request plan purpose := by
  cases purpose with
  | execute =>
    simp only [plannedPayload, actionProviderPayload, eq.id, eq.actionType, eq.target]
  | rollback =>
    simp only [plannedPayload, actionProviderPayload, eq.id, eq.actionType, eq.target, result rfl]

lemma fixed_write (sound : Sound rows) (held : Held world) (before : world.rows = some rows)
    (write : Write digest world action rows rows') (fixed : Fixed rows post) :
    Fixed rows' post := by
  have eq := write_same write
  obtain ⟨plan, planned, payload⟩ := fixed.payload
  refine ⟨fixed.key.trans (eq.key _).symm, ⟨plan, write_plan write planned, ?_⟩, ?_⟩
  · exact payload.trans (plannedPayload_same eq plan fun purpose =>
      (write_late sound held before write (fixed.late purpose)).2).symm
  exact fun purpose => (write_late sound held before write (fixed.late purpose)).1

structure Traced (moves : List (Move World Action)) (world : World) : Prop where
  orderly : Orderly world
  fixed : ∀ move ∈ moves, ∀ post, posted move = some post →
    ∃ rows, world.rows = some rows ∧ Fixed rows post

lemma Ready.fixed {checkedAt : Time} {recorded : ActionAttempt} {call : Call} (sound : Sound rows)
    (ready : Ready checkedAt rows plan recorded call) :
    Fixed rows ⟨call.purpose, call.attempt.idempotencyKey, call.payload⟩ where
  key := by
    rw [ready.attempt]
    exact (sound.attemptOf ready.found).2
  payload := ⟨plan, ready.planned, ready.payload⟩
  late purpose := by
    rw [ready.running, show call.purpose = .rollback from purpose]
    rfl

lemma traced_step {moves : List (Move World Action)} (traced : Traced moves world)
    (run : perform digest world action = some world') :
    Traced (moves ++ [⟨world, action, world'⟩]) world' := by
  refine ⟨orderly_step traced.orderly run, fun move mem post sent => ?_⟩
  -- what was fixed before the move, with the POST that the move itself may be
  have before : ∃ rows, world.rows = some rows ∧ Fixed rows post := by
    rw [List.mem_append, List.mem_singleton] at mem
    rcases mem with old | rfl
    · exact traced.fixed move old post sent
    obtain ⟨token, job, call, checkedAt, byPost, jobIn, named, phase, rfl⟩ := posted_some sent
    obtain ⟨rows, plan, recorded, present, ready⟩ :=
      (traced.orderly.held job jobIn call checkedAt (by rw [phase]; rfl)).ready
    exact ⟨rows, present, ready.fixed (traced.orderly.sound rows present)⟩
  obtain ⟨rows, present, fixed⟩ := before
  cases perform_change run with
  | kept eq => exact ⟨rows, eq.trans present, fixed⟩
  | created id principal access request created absent run after =>
    rw [absent] at present
    cases present
  | wrote stored rows' wasPresent after write =>
    have equal := Option.some.inj (wasPresent.symm.trans present)
    subst equal
    exact ⟨rows', after,
      fixed_write (traced.orderly.sound stored present) traced.orderly.held present write fixed⟩

lemma Fixed.unique {left right : Post} (leftFixed : Fixed rows left)
    (rightFixed : Fixed rows right) (eq : left.purpose = right.purpose) : left = right := by
  obtain ⟨leftPlan, leftPlanned, leftPayload⟩ := leftFixed.payload
  obtain ⟨rightPlan, rightPlanned, rightPayload⟩ := rightFixed.payload
  have plans := Option.some.inj (leftPlanned.symm.trans rightPlanned)
  subst plans
  have keys := leftFixed.key
  rw [eq, ← rightFixed.key] at keys
  rw [eq, ← rightPayload] at leftPayload
  cases left
  cases right
  simp only [Post.mk.injEq]
  exact ⟨eq, keys, leftPayload⟩

end

section
variable {digest : PlanSpec → String} {start world : World} {moves : List (Move World Action)}

lemma calls_run (blank : Blank start) (path : Path (lifecycle digest) start moves world) :
    Calls moves world :=
  path.tracked (fun _ _ _ _ calls step => calls_step calls step) (calls_blank blank)

lemma traced_run (blank : Blank start) (path : Path (lifecycle digest) start moves world) :
    Traced moves world := by
  refine path.tracked (fun _ _ _ _ traced step => traced_step traced step) ?_
  exact ⟨orderly_blank blank, fun _ mem => absurd mem List.not_mem_nil⟩

/-- The gateway checked the approval in the transaction that makes the POST, and no other has
committed since. -/
structure ClearedPost (earlier : List (Move World Action)) (move : Move World Action)
    (rows : Rows) (checkedAt : Time) : Prop where
  cleared : ∃ first begun between token env elapsed, earlier = first ++ begun :: between ∧
    begun.action = .begin_ token env elapsed ∧ move.action = .post token ∧
    begun.after.now = checkedAt ∧ ∀ step ∈ begun :: between, step.after.rows = some rows

lemma posted_licensed (blank : Blank start) {earlier later : List (Move World Action)}
    {move : Move World Action}
    (path : Path (lifecycle digest) start (earlier ++ move :: later) world) {post : Post}
    (sent : posted move = some post) : ∃ rows approval checkedAt, move.before.rows = some rows ∧
      Licensed checkedAt rows post.purpose approval ∧ ClearedPost earlier move rows checkedAt := by
  obtain ⟨first, step, _⟩ := path.split_move
  obtain ⟨held, cleared⟩ := calls_run blank first
  obtain ⟨token, job, call, checkedAt, byPost, mem, named, phase, rfl⟩ := posted_some sent
  have engaged : job.phase.call? = some (call, checkedAt) := by
    rw [phase]
    rfl
  obtain ⟨rows, plan, recorded, present, ready⟩ := (held job mem call checkedAt engaged).ready
  obtain ⟨before, begun, between, env, elapsed, split, byBegin, checked, eq⟩ :=
    cleared job mem call checkedAt engaged
  refine ⟨rows, call.approval, checkedAt, present, ready.licensed, before, begun, between, token,
    env, elapsed, split, named ▸ byBegin, byPost, checked, fun other otherIn => ?_⟩
  exact (eq other otherIn).trans present

lemma posted_equal (blank : Blank start) (path : Path (lifecycle digest) start moves world)
    {left right : Move World Action} (leftIn : left ∈ moves) (rightIn : right ∈ moves)
    {leftPost rightPost : Post} (leftSent : posted left = some leftPost)
    (rightSent : posted right = some rightPost) (eq : leftPost.purpose = rightPost.purpose) :
    leftPost = rightPost := by
  obtain ⟨_, fixed⟩ := traced_run blank path
  obtain ⟨rows, present, leftFixed⟩ := fixed left leftIn leftPost leftSent
  obtain ⟨rows', present', rightFixed⟩ := fixed right rightIn rightPost rightSent
  have equal := Option.some.inj (present.symm.trans present')
  subst equal
  exact leftFixed.unique rightFixed eq

def Phase.posting? : Phase → Bool
  | .posting _ _ => true
  | _ => false

lemma posting_alone (held : Held world) {left right : Job} (leftIn : left ∈ world.jobs)
    (rightIn : right ∈ world.jobs) (leftPosting : left.phase.posting? = true)
    (rightPosting : right.phase.posting? = true) : left = right := by
  have locked : ∀ job ∈ world.jobs, job.phase.posting? = true → world.locked = some job.token := by
    intro job mem posting
    cases phase : job.phase with
    | posting call checkedAt => exact (held job mem call checkedAt (by rw [phase]; rfl)).locked
    | claimed | checked | failing =>
      rw [phase] at posting
      cases posting
  have eq := (locked left leftIn leftPosting).symm.trans (locked right rightIn rightPosting)
  exact Table.eq_of_key leftIn rightIn (Option.some.inj eq)

lemma Sound.pending_iff {rows : Rows} (sound : Sound rows) :
    (∃ approval ∈ rows.approvals, approval.status = .pending) ↔
      rows.request.status = .waitingApproval ∨ rows.request.status = .waitingRollbackApproval := by
  constructor
  · rintro ⟨approval, mem, pending⟩
    have status := sound.pending approval mem pending
    cases purpose : approval.purpose with
    | execute => exact .inl (by rw [status, purpose]; rfl)
    | rollback => exact .inr (by rw [status, purpose]; rfl)
  · rintro (waiting | waiting)
    · exact sound.awaited .execute waiting
    · exact sound.awaited .rollback waiting

/-- In every run: each POST is made by a transaction that has checked an approval of its
purpose, POSTs of one purpose are equal, no two of them overlap, and exactly one approval is
pending while the action waits for one. -/
theorem one_logical_write (blank : Blank start) (path : Path (lifecycle digest) start moves world) :
    (∀ earlier move later post, moves = earlier ++ move :: later → posted move = some post →
      ∃ rows approval checkedAt, move.before.rows = some rows ∧
        Licensed checkedAt rows post.purpose approval ∧
        ClearedPost earlier move rows checkedAt) ∧
    (∀ left ∈ moves, ∀ right ∈ moves, ∀ leftPost rightPost, posted left = some leftPost →
      posted right = some rightPost → leftPost.purpose = rightPost.purpose →
      leftPost = rightPost) ∧
    (∀ left ∈ world.jobs, ∀ right ∈ world.jobs, left.phase.posting? = true →
      right.phase.posting? = true → left = right) ∧
    ∀ rows, world.rows = some rows → ((∃ approval ∈ rows.approvals, approval.status = .pending) ↔
        rows.request.status = .waitingApproval ∨ rows.request.status = .waitingRollbackApproval) ∧
      ∀ left ∈ rows.approvals, ∀ right ∈ rows.approvals, left.status = .pending →
        right.status = .pending → left = right := by
  obtain ⟨⟨sound, held⟩, _⟩ := traced_run blank path
  refine ⟨?_, ?_, ?_, ?_⟩
  · rintro earlier move later post rfl sent
    exact posted_licensed blank path sent
  · exact fun left leftIn right rightIn leftPost rightPost leftSent rightSent =>
      posted_equal blank path leftIn rightIn leftSent rightSent
  · exact fun left leftIn right rightIn => posting_alone held leftIn rightIn
  · exact fun rows present => ⟨(sound rows present).pending_iff, (sound rows present).single⟩

end

/-! ## A sample action -/

def sampleId (digit : Fin 16) : Uuid := .repeating digit

def sampleOrganization : Uuid := sampleId 0

def sampleCreator : Principal :=
  ⟨sampleId 1, sampleOrganization, ["action.request", "action.rollback"]⟩

def sampleApprover : Principal := ⟨sampleId 2, sampleOrganization, ["action.approve"]⟩

def sampleRequest : CreateActionRequest where
  actionType := .createTicket
  environment := "staging"
  target := [("project", .str "OPS")]
  parameters := [("title", .str "Rotate the key")]
  rollbackParameters := []
  ownerId := none
  timeoutSeconds := 600

def sampleReference : Reference := ⟨sampleId 8, sampleId 9⟩

def sampleEnv : InvokeEnv := ⟨.ok (), .ok (), none⟩

def sampleDigest (_ : PlanSpec) : String := "sealed"

def sampleStart : World := ⟨0, none, none, .empty⟩

def sampleToken : Uuid := sampleId 10

def sampleApproved : List Action :=
  [.create (sampleId 3) sampleCreator (.ok ()) sampleRequest,
    .preflight sampleCreator (.ok ()) (.ok (sampleReference, sampleReference)) (sampleId 4)
      "please" 5,
    .decide_ sampleApprover (.ok ()) (sampleId 4) true "fine",
    .claim sampleToken "worker-1" 60]

def sampleRetried : List Action :=
  sampleApproved ++ [.begin_ sampleToken sampleEnv 0, .post sampleToken, .crash sampleToken,
      .elapse 61000000, .claim (sampleId 11) "worker-2" 60,
      .begin_ (sampleId 11) sampleEnv 0, .post (sampleId 11), .answer (sampleId 11) (.ok [])]

theorem one_logical_write_retried : ∃ moves world,
    Path (lifecycle sampleDigest) sampleStart moves world ∧
    moves.filterMap posted ≠ [] ∧
    ∀ left ∈ moves, ∀ right ∈ moves, ∀ leftPost rightPost, posted left = some leftPost →
      posted right = some rightPost → leftPost.purpose = rightPost.purpose →
      leftPost = rightPost := by
  obtain ⟨moves, world, replayed, sent⟩ : ∃ (moves : List (Move World Action)) (world : World),
        replay (perform sampleDigest) sampleStart sampleRetried = some (moves, world) ∧
        (moves.filterMap posted).length = 2 :=
    ⟨_, _, rfl, rfl⟩
  have path : Path (lifecycle sampleDigest) sampleStart moves world := Path.of_replay replayed
  refine ⟨moves, world, path, ?_, (one_logical_write ⟨rfl, rfl, rfl⟩ path).2.1⟩
  intro none
  rw [none] at sent
  cases sent

/-- The approval lapses between the check of the gateway and the POST. -/
def sampleLapsed : List Action :=
  sampleApproved ++ [.begin_ sampleToken sampleEnv 0, .elapse 300000000, .post sampleToken]

/-- An approval may expire before the POST that it allows is made. -/
theorem licence_lapses : ∃ moves world, Path (lifecycle sampleDigest) sampleStart moves world ∧
    ∃ move ∈ moves, ∃ post, posted move = some post ∧ ∀ rows approval, move.before.rows = some rows →
        ¬ Licensed move.before.now rows post.purpose approval := by
  obtain ⟨moves, world, move, post, rows, replayed, last, sent, present, lapsed⟩ :
      ∃ (moves : List (Move World Action)) (world : World) (move : Move World Action) (post : Post)
        (rows : Rows),
        replay (perform sampleDigest) sampleStart sampleLapsed = some (moves, world) ∧
        moves.getLast? = some move ∧ posted move = some post ∧ move.before.rows = some rows ∧
        (rows.approvals.rows.all fun approval => approval.expiresAt ≤ move.before.now) = true :=
    ⟨_, _, _, _, _, rfl, rfl, rfl, rfl, rfl⟩
  refine ⟨moves, world, Path.of_replay replayed, move, List.mem_of_getLast? last, post, sent, ?_⟩
  intro stored approval before licensed
  have equal := Option.some.inj (present.symm.trans before)
  subst equal
  have expired := of_decide_eq_true (List.all_eq_true.1 lapsed approval licensed.stored)
  exact absurd licensed.unexpired (Int.not_lt.2 expired)

/-! ## Sealed plans and decided approvals -/

section
variable {digest : PlanSpec → String} {world world' : World} {action : Action} {rows rows' : Rows}

/-- Only a pending approval is decided, withdrawn or expired. -/
lemma write_decided (write : Write digest world action rows rows') {approval : ActionApproval}
    (stored : approval ∈ rows.approvals) (closed : approval.status ≠ .pending) : approval ∈ rows'.approvals := by
  have put {other next : ActionApproval} {id : Uuid} (found : rows.approvals.get? id = some other)
      (pending : other.status = .pending) (same : next.id = other.id) : approval ∈ rows.approvals.put next := by
    obtain ⟨otherIn, -⟩ := Table.get?_eq_some.1 found
    refine Table.mem_put.2 (.inr ⟨stored, fun eq => closed ?_⟩)
    rwa [rows.approvals.eq_of_key stored otherIn (eq.trans same)]
  cases write with
  | «sealed» principal access resolved approvalId reason ttlMinutes spec approvals byPreflight unsealed openStatus
      inserted =>
    rw [Table.mem_iff, (Table.insert?_spec inserted.run).2]
    exact List.mem_append_left _ stored
  | requested principal access approvalId reason ttlMinutes planChecksum approvals byRequest plan rollbackable inserted =>
    rw [Table.mem_iff, (Table.insert?_spec inserted.run).2]
    exact List.mem_append_left _ stored
  | decided principal access approvalId approve reason other byDecision decides => exact put decides.stored decides.pending rfl
  | expired approvalId other found pending => exact put found pending rfl
  | cancelled =>
    rw [Table.mem_update]
    exact ⟨approval, stored, if_neg closed⟩
  | settled token job call checkedAt outcome found phase => cases outcome <;> exact stored
  | _ => exact stored

/-- The action is the one that was sealed, and what was decided about it stands. -/
def KeepsSealed (plan : ActionPlan) (rows : Rows) (world : World) : Prop :=
  ∃ rows', world.rows = some rows' ∧ rows'.plan = some plan ∧ SameRequest rows.request rows'.request ∧
    ∀ approval ∈ rows.approvals, approval.status ≠ .pending → approval ∈ rows'.approvals

/-- Over any further run a sealed plan stays as it was approved, for the same request, and no decided
approval is decided again or dropped. -/
theorem sealed_plan_kept {moves : List (Move World Action)} {plan : ActionPlan}
    (path : Path (lifecycle digest) world moves world') (before : world.rows = some rows)
    (planned : rows.plan = some plan) : KeepsSealed plan rows world' := by
  refine path.preserved ?_ (show KeepsSealed plan rows world from
    ⟨rows, before, planned, ⟨rfl, rfl, rfl, rfl⟩, fun _ mem _ => mem⟩)
  rintro state action next ⟨rows', held, planned, same, kept⟩ step
  cases perform_change step with
  | kept eq => exact ⟨rows', eq.trans held, planned, same, kept⟩
  | created id principal access request fresh absent => cases absent.symm.trans held
  | wrote from_ after stored written write =>
    cases held.symm.trans stored
    have later := write_same write
    exact ⟨after, written, write_plan write planned, ⟨later.id.trans same.id, later.actionType.trans same.actionType,
      later.target.trans same.target, later.requestedBy.trans same.requestedBy⟩,
      fun approval mem closed => write_decided write (kept approval mem closed) closed⟩
end

theorem sealed_plan_kept_sample : ∃ moves world later rows, Path (lifecycle sampleDigest) world moves later ∧
    moves.length = 2 ∧ world.rows = some rows ∧ ∃ rows', later.rows = some rows' ∧ rows'.plan = rows.plan := by
  obtain ⟨earlier, world, moves, later, rows, plan, first, second, length, before, planned⟩ :
      ∃ earlier world moves later rows plan,
        replay (perform sampleDigest) sampleStart sampleApproved = some (earlier, world) ∧
        replay (perform sampleDigest) world [.begin_ sampleToken sampleEnv 0, .post sampleToken] = some (moves, later) ∧
        moves.length = 2 ∧ world.rows = some rows ∧ rows.plan = some plan :=
    ⟨_, _, _, _, _, _, rfl, rfl, rfl, rfl, rfl⟩
  have path : Path (lifecycle sampleDigest) world moves later := Path.of_replay second
  obtain ⟨rows', after, kept, -⟩ := sealed_plan_kept path before planned
  exact ⟨moves, world, later, rows, path, length, before, rows', after, kept.trans planned.symm⟩

end Obsion.Actions
