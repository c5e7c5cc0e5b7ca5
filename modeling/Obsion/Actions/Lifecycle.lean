import Obsion.Actions.Changes

/-! # The lifecycle of an action

`Sound` holds of the rows in every committed state; `Held` says that a call of the provider
holds the lock and that the rows are still those it was checked against. -/

namespace Obsion.Actions

open Obsion.Lib

structure Sound (rows : Rows) : Prop where
  planChecksum : rows.request.planChecksum = rows.plan.map ActionPlan.checksum
  opened : rows.request.status.open_ = true → rows.plan = none
  planned : rows.plan = none → rows.request.status.open_ = true ∨ rows.request.status = .cancelled
  sealed : ∀ approval ∈ rows.approvals, rows.request.planChecksum = some approval.planChecksum
  pending : ∀ approval ∈ rows.approvals, approval.status = .pending →
    rows.request.status = approval.purpose.waiting
  awaited : ∀ purpose : Purpose, rows.request.status = purpose.waiting →
    ∃ approval ∈ rows.approvals, approval.status = .pending
  single : ∀ left ∈ rows.approvals, ∀ right ∈ rows.approvals, left.status = .pending →
    right.status = .pending → left = right
  keys : ∀ attempt ∈ rows.attempts, attempt.idempotencyKey = attemptKey rows.request attempt.purpose

/-- The columns of a request that no transaction changes. -/
structure SameRequest (request request' : ActionRequest) : Prop where
  id : request'.id = request.id
  actionType : request'.actionType = request.actionType
  target : request'.target = request.target
  requestedBy : request'.requestedBy = request.requestedBy

lemma SameRequest.key {request request' : ActionRequest} (eq : SameRequest request request')
    (purpose : Purpose) : attemptKey request' purpose = attemptKey request purpose := by
  rw [attemptKey, attemptKey, eq.id]

section
variable {digest : PlanSpec → String} {world world' : World} {action : Action} {rows rows' : Rows}

lemma decidedRequest_same (now : Time) (approve : Bool) (purpose : Purpose)
    (request : ActionRequest) : SameRequest request (decidedRequest now approve purpose request) := by
  cases approve <;> cases purpose <;> exact ⟨rfl, rfl, rfl, rfl⟩

lemma write_same (write : Write digest world action rows rows') :
    SameRequest rows.request rows'.request := by
  cases write with
  | decided principal access approvalId approve reason approval byDecision decides =>
    exact decidedRequest_same _ _ _ _
  | settled token job call checkedAt outcome found phase =>
    cases outcome <;> exact ⟨rfl, rfl, rfl, rfl⟩
  | _ => exact ⟨rfl, rfl, rfl, rfl⟩

variable {approval : ActionApproval} {attempts : Table ActionAttempt.purpose} {purpose : Purpose}

lemma Sound.idle (sound : Sound rows) (mem : approval ∈ rows.approvals)
    (apart : ∀ purpose : Purpose, rows.request.status ≠ purpose.waiting) :
    approval.status ≠ .pending :=
  fun pending => apart approval.purpose (sound.pending approval mem pending)

/-- A write of the request that keeps the plan and the approvals, between statuses in which
nothing is waited for. -/
lemma Sound.request (sound : Sound rows) {request : ActionRequest} (planned : rows.plan ≠ none)
    (checksum : request.planChecksum = rows.request.planChecksum)
    (closed : request.status.open_ = false)
    (idle : ∀ purpose : Purpose, rows.request.status ≠ purpose.waiting)
    (idle' : ∀ purpose : Purpose, request.status ≠ purpose.waiting)
    (keys : ∀ attempt ∈ attempts, attempt.idempotencyKey = attemptKey request attempt.purpose) :
    Sound { rows with request, attempts } where
  planChecksum := checksum.trans sound.planChecksum
  opened open_ := by
    rw [show request.status.open_ = true from open_] at closed
    cases closed
  planned absent := absurd absent planned
  sealed approval mem := checksum.trans (sound.sealed approval mem)
  pending approval mem pending := absurd pending (sound.idle mem idle)
  awaited purpose waiting := absurd waiting (idle' purpose)
  single left leftIn _ _ pending := absurd pending (sound.idle leftIn idle)
  keys := keys

lemma Sound.planned_of_closed (sound : Sound rows) (closed : rows.request.status.open_ = false)
    (live : rows.request.status ≠ .cancelled) : rows.plan ≠ none := by
  intro absent
  rcases sound.planned absent with open_ | cancelled
  · rw [open_] at closed
    cases closed
  exact live cancelled

lemma Sound.closes (sound : Sound rows) {next : ActionApproval} {request : ActionRequest}
    (mem : approval ∈ rows.approvals) (pending : approval.status = .pending)
    (id : next.id = approval.id) (planChecksum : next.planChecksum = approval.planChecksum)
    (decided : next.status ≠ .pending) (eq : SameRequest rows.request request)
    (checksum : request.planChecksum = rows.request.planChecksum)
    (closed : request.status.open_ = false)
    (idle : ∀ purpose : Purpose, request.status ≠ purpose.waiting) :
    Sound { rows with approvals := rows.approvals.put next, request } := by
  have status := sound.pending approval mem pending
  have planned : rows.plan ≠ none := by
    apply sound.planned_of_closed
    · rw [status]
      cases approval.purpose <;> rfl
    · rw [status]
      cases approval.purpose <;> exact ActionStatus.noConfusion
  -- the only approval that was pending is the one that is replaced
  have others : ∀ other ∈ rows.approvals.put next, other.status ≠ .pending := by
    intro other otherIn
    rcases Table.mem_put.1 otherIn with rfl | ⟨former, apart⟩
    · exact decided
    intro otherPending
    have equal := sound.single other former approval mem otherPending pending
    exact apart (by rw [equal, id])
  refine ⟨checksum.trans sound.planChecksum, ?_, fun absent => absurd absent planned, ?_, ?_, ?_, ?_,
    ?_⟩
  · intro open_
    rw [show request.status.open_ = true from open_] at closed
    cases closed
  · intro other otherIn
    rcases Table.mem_put.1 otherIn with rfl | ⟨former, _⟩
    · rw [planChecksum]
      exact checksum.trans (sound.sealed approval mem)
    exact checksum.trans (sound.sealed other former)
  · exact fun other otherIn otherPending => absurd otherPending (others other otherIn)
  · exact fun purpose waiting => absurd waiting (idle purpose)
  · exact fun left leftIn _ _ leftPending => absurd leftPending (others left leftIn)
  · intro attempt attemptIn
    rw [eq.key]
    exact sound.keys attempt attemptIn

variable {id token : Uuid} {plan : ActionPlan} {attempt : ActionAttempt} {job : Job}

lemma Sound.inserts (sound : Sound rows) {now : Time} {reason : String} {ttlMinutes : Nat}
    {planChecksum : String} {approvals : Table ActionApproval.id} {request : ActionRequest}
    (inserted : Inserted now rows id purpose reason ttlMinutes planChecksum approvals)
    (idle : ∀ purpose : Purpose, rows.request.status ≠ purpose.waiting)
    (former : ∀ approval ∈ rows.approvals, approval.planChecksum = planChecksum)
    (eq : SameRequest rows.request request) (checksum : request.planChecksum = some planChecksum)
    (status : request.status = purpose.waiting) (sealed : plan.checksum = planChecksum) :
    Sound { rows with approvals, request, plan := some plan } := by
  obtain ⟨_, grown⟩ := Table.insert?_spec inserted.run
  have members : ∀ approval ∈ approvals, approval ∈ rows.approvals
      ∨ approval = pendingApproval now id purpose reason ttlMinutes planChecksum rows := by
    intro approval mem
    rw [Table.mem_iff, grown, List.mem_append, List.mem_singleton] at mem
    exact mem
  have pendings : ∀ approval ∈ approvals, approval.status = .pending →
      approval = pendingApproval now id purpose reason ttlMinutes planChecksum rows := by
    intro approval mem pending
    rcases members approval mem with old | new
    · exact absurd pending (sound.idle old idle)
    exact new
  have stored : pendingApproval now id purpose reason ttlMinutes planChecksum rows ∈ approvals := by
    rw [Table.mem_iff, grown]
    exact List.mem_append_right _ List.mem_cons_self
  refine ⟨?_, ?_, (nomatch ·), ?_, ?_, ?_, ?_, ?_⟩
  · rw [checksum, Option.map_some, sealed]
  · intro open_
    rw [show request.status = purpose.waiting from status] at open_
    cases purpose <;> cases open_
  · intro approval mem
    rcases members approval mem with old | rfl
    · rw [former approval old]
      exact checksum
    exact checksum
  · intro approval mem pending
    rw [pendings approval mem pending]
    exact status
  · exact fun _ _ => ⟨_, stored, rfl⟩
  · intro left leftIn right rightIn leftPending rightPending
    rw [pendings left leftIn leftPending, pendings right rightIn rightPending]
  · intro attempt attemptIn
    rw [eq.key]
    exact sound.keys attempt attemptIn

lemma idle_of_open (open_ : rows.request.status.open_ = true) (purpose : Purpose) :
    rows.request.status ≠ purpose.waiting := by
  intro waiting
  rw [waiting] at open_
  cases purpose <;> cases open_

lemma idle_of_rollbackable (rollbackable : rows.request.status.rollbackable = true)
    (purpose : Purpose) : rows.request.status ≠ purpose.waiting := by
  intro waiting
  rw [waiting] at rollbackable
  cases purpose <;> cases rollbackable

lemma idle_of_claimable (claimable : rows.request.status.claimable = true) (purpose : Purpose) :
    rows.request.status ≠ purpose.waiting := by
  intro waiting
  rw [waiting] at claimable
  cases purpose <;> cases claimable

lemma claimable_of_underway (underway : rows.request.status.underway = true) :
    rows.request.status.claimable = true := by
  cases status : rows.request.status <;> rw [status] at underway <;> first | rfl | cases underway

lemma underway_of_running (running : rows.request.status = purpose.running) :
    rows.request.status.underway = true := by
  rw [running]
  cases purpose <;> rfl

lemma Sound.planned_of_claimable (sound : Sound rows)
    (claimable : rows.request.status.claimable = true) : rows.plan ≠ none := by
  apply sound.planned_of_closed
  · cases status : rows.request.status <;> rw [status] at claimable <;> first | rfl | cases claimable
  · intro cancelled
    rw [cancelled] at claimable
    cases claimable

lemma Sound.fail (sound : Sound rows) (failure : Failure)
    (underway : rows.request.status.underway = true) (keys : ∀ attempt ∈ attempts,
      attempt.idempotencyKey = attemptKey rows.request attempt.purpose) :
    Sound (fail failure { rows with attempts }) := by
  have claimable := claimable_of_underway underway
  have ended : ∀ status : ActionStatus,
      status = (if rows.request.status = .rollingBack then ActionStatus.rollbackFailed else .failed) →
      status.open_ = false ∧ ∀ purpose : Purpose, status ≠ purpose.waiting := by
    rintro status rfl
    split <;> exact ⟨rfl, fun purpose => by cases purpose <;> exact ActionStatus.noConfusion⟩
  exact sound.request (sound.planned_of_claimable claimable) rfl (ended _ rfl).1
    (idle_of_claimable claimable) (ended _ rfl).2 keys

lemma Sound.complete (sound : Sound rows) (purpose : Purpose) (output : Fields)
    (underway : rows.request.status.underway = true) (keys : ∀ attempt ∈ attempts,
      attempt.idempotencyKey = attemptKey rows.request attempt.purpose) :
    Sound (complete purpose output { rows with attempts }) := by
  have claimable := claimable_of_underway underway
  refine sound.request (sound.planned_of_claimable claimable) rfl ?_
    (idle_of_claimable claimable) ?_ keys
  · cases purpose <;> rfl
  intro waited
  cases purpose <;> cases waited <;> exact ActionStatus.noConfusion

lemma Sound.keys_put (sound : Sound rows)
    (key : attempt.idempotencyKey = attemptKey rows.request attempt.purpose) :
    ∀ other ∈ rows.attempts.put attempt,
      other.idempotencyKey = attemptKey rows.request other.purpose := by
  intro other mem
  rcases Table.mem_put.1 mem with rfl | ⟨former, _⟩
  · exact key
  exact sound.keys other former

lemma Sound.attemptOf (sound : Sound rows)
    (found : attemptOf plan purpose approval rows = .ok attempt) :
    attempt.purpose = purpose ∧ attempt.idempotencyKey = attemptKey rows.request purpose := by
  unfold Actions.attemptOf at found
  split at found
  · cases found
    exact ⟨rfl, rfl⟩
  next recorded stored =>
  split at found
  · cases found
  cases found
  obtain ⟨mem, key⟩ := Table.get?_eq_some.1 stored
  exact ⟨key, key ▸ sound.keys _ mem⟩

/-! ## The call of the provider -/

/-- The call that a tick has been cleared to make or is making. -/
def Phase.call? : Phase → Option (Call × Time)
  | .checked call checkedAt | .posting call checkedAt => some (call, checkedAt)
  | .claimed | .failing _ => none

/-- The rows are those that the call was checked against. -/
structure Current (world : World) (token : Uuid) (call : Call) (checkedAt : Time) : Prop where
  locked : world.locked = some token
  past : checkedAt ≤ world.now
  ready : ∃ rows plan recorded, world.rows = some rows ∧ Ready checkedAt rows plan recorded call

def Held (world : World) : Prop :=
  ∀ job ∈ world.jobs, ∀ call checkedAt, job.phase.call? = some (call, checkedAt) →
    Current world job.token call checkedAt

lemma Held.ready (held : Held world) (before : world.rows = some rows) {call : Call}
    {checkedAt : Time} (found : world.jobs.get? token = some job)
    (phase : job.phase = .posting call checkedAt) :
    ∃ plan recorded, Ready checkedAt rows plan recorded call := by
  obtain ⟨mem, rfl⟩ := Table.get?_eq_some.1 found
  obtain ⟨stored, plan, recorded, present, ready⟩ :=
    (held job mem call checkedAt (by rw [phase]; rfl)).ready
  rw [present] at before
  cases before
  exact ⟨plan, recorded, ready⟩

lemma Held.free (held : Held world) (free : world.locked = none) :
    ∀ job ∈ world.jobs, job.phase.call? = none := by
  intro job mem
  cases engaged : job.phase.call? with
  | none => rfl
  | some pair =>
    have locked := (held job mem pair.1 pair.2 engaged).locked
    rw [free] at locked
    cases locked

lemma held_of_idle (idle : ∀ job ∈ world.jobs, job.phase.call? = none) : Held world := by
  intro job mem call checkedAt engaged
  rw [idle job mem] at engaged
  cases engaged

lemma Held.alone (held : Held world) (locked : world.locked = some token) :
    ∀ job ∈ world.jobs, job.token ≠ token → job.phase.call? = none := by
  intro job mem apart
  cases engaged : job.phase.call? with
  | none => rfl
  | some pair =>
    have eq := (held job mem pair.1 pair.2 engaged).locked
    rw [locked] at eq
    exact absurd (Option.some.inj eq).symm apart

lemma mem_endJob :
    job ∈ (world.endJob token).jobs ↔ job ∈ world.jobs ∧ job.token ≠ token := by
  rw [World.endJob, Table.mem_delete, decide_eq_false_iff_not]

lemma Held.released (held : Held world) (locked : world.locked = some token)
    {jobs : Table Job.token}
    (kept : ∀ job ∈ jobs, job ∈ world.jobs ∧ job.token ≠ token ∨ job.phase.call? = none) :
    ∀ job ∈ jobs, job.phase.call? = none := by
  intro job mem
  rcases kept job mem with ⟨former, apart⟩ | idle
  · exact held.alone locked job former apart
  exact idle

lemma idle_put {phase : Phase} (idle : ∀ job ∈ world.jobs, job.phase.call? = none)
    (quiet : phase.call? = none) :
    ∀ job ∈ world.jobs.put ⟨token, phase⟩, job.phase.call? = none := by
  intro job mem
  rcases Table.mem_put.1 mem with rfl | ⟨former, _⟩
  · exact quiet
  exact idle job former

/-- Where the call of a tick comes from: it was there before, or the tick has begun it. -/
inductive Engaged (world : World) (action : Action) (world' : World) (job : Job) (call : Call)
    (checkedAt : Time) : Prop
  | former (former : Job) (member : former ∈ world.jobs) (token : former.token = job.token)
      (engaged : former.phase.call? = some (call, checkedAt)) (rows : world'.rows = world.rows)
      (locked : world'.locked = world.locked) (later : world.now ≤ world'.now)
  | begun (env : InvokeEnv) (elapsed : Nat) (byBegin : action = .begin_ job.token env elapsed)
      (current : Current world' job.token call checkedAt) (checked : world'.now = checkedAt)

def Engages (world : World) (action : Action) (world' : World) : Prop :=
  ∀ job ∈ world'.jobs, ∀ call checkedAt, job.phase.call? = some (call, checkedAt) →
    Engaged world action world' job call checkedAt

lemma engages_of_idle (idle : ∀ job ∈ world'.jobs, job.phase.call? = none) :
    Engages world action world' := by
  intro job mem call checkedAt engaged
  rw [idle job mem] at engaged
  cases engaged

lemma engages_commit {transaction : Rows → Except ObsionError Rows} (held : Held world)
    (run : world.commit transaction = some world') : Engages world action world' := by
  obtain ⟨free, _, _, _, _, rfl⟩ := commit_some run
  exact engages_of_idle (held.free free)

lemma engages_step (held : Held world) (run : perform digest world action = some world') :
    Engages world action world' := by
  cases action with
  | elapse duration =>
    cases run
    intro job mem call checkedAt engaged
    exact .former job mem rfl engaged rfl rfl (Int.le_add_of_nonneg_right (Int.natCast_nonneg _))
  | create id principal access request =>
    simp only [perform] at run
    split at run
    · cases run
      exact fun job mem call checkedAt engaged =>
        .former job mem rfl engaged rfl rfl le_rfl
    · next absent =>
      obtain ⟨rows, _, rfl⟩ := Option.map_eq_some_iff.1 run
      refine engages_of_idle fun job mem => ?_
      cases engaged : job.phase.call? with
      | none => rfl
      | some pair =>
        obtain ⟨_, _, _, present, _⟩ := (held job mem pair.1 pair.2 engaged).ready
        rw [present] at absent
        exact absurd rfl absent
  | preflight | decide_ | requestRollback | cancel => exact engages_commit held run
  | expire approvalId =>
    simp only [perform] at run
    split at run
    · cases run
    next free =>
    obtain ⟨rows, _, run⟩ := Option.bind_eq_some_iff.1 run
    obtain ⟨_, _, rfl⟩ := Option.map_eq_some_iff.1 run
    exact engages_of_idle (held.free (Option.not_isSome_iff_eq_none.1 free))
  | claim token worker leaseSeconds =>
    simp only [perform] at run
    split at run
    · cases run
    next free =>
    obtain ⟨rows, _, run⟩ := Option.bind_eq_some_iff.1 run
    obtain ⟨_, _, rfl⟩ := Option.map_eq_some_iff.1 run
    rw [Bool.or_eq_true, not_or] at free
    exact engages_of_idle (idle_put (held.free (Option.not_isSome_iff_eq_none.1 free.1)) rfl)
  | begin_ token env elapsed =>
    simp only [perform] at run
    split at run
    · cases run
    next free =>
    have idle := held.free (Option.not_isSome_iff_eq_none.1 free)
    obtain ⟨rows, before, run⟩ := Option.bind_eq_some_iff.1 run
    obtain ⟨job, found, run⟩ := Option.bind_eq_some_iff.1 run
    split at run
    · simp only [Option.some.injEq] at run
      have spec : BeginSpec (world.now + elapsed) rows
        (begin_ world.now (world.now + elapsed) env rows) := begin_spec _ env
      generalize begin_ world.now (world.now + elapsed) env rows = begun at run spec
      cases spec with
      | ignored =>
        subst run
        exact engages_of_idle fun job mem => idle job (mem_endJob.1 mem).1
      | raised error =>
        subst run
        exact engages_of_idle (idle_put idle rfl)
      | committed rows' underway ends =>
        subst run
        exact engages_of_idle fun job mem => idle job (mem_endJob.1 mem).1
      | call call plan recorded ready =>
        subst run
        intro other mem calling checkedAt engaged
        rcases Table.mem_put.1 mem with rfl | ⟨former, _⟩
        · cases engaged
          exact .begun env elapsed rfl ⟨rfl, le_rfl, rows, plan, recorded, before, ready⟩ rfl
        · rw [idle other former] at engaged
          cases engaged
    · cases run
  | post token =>
    obtain ⟨job, found, run⟩ := Option.bind_eq_some_iff.1 run
    split at run
    · next call checkedAt phase =>
      cases run
      intro other mem calling checkedAt' engaged
      rcases Table.mem_put.1 mem with rfl | ⟨former, _⟩
      · obtain ⟨jobIn, rfl⟩ := Table.get?_eq_some.1 found
        exact .former job jobIn rfl (by rw [phase]; exact engaged) rfl rfl le_rfl
      exact .former other former rfl engaged rfl rfl le_rfl
    · cases run
  | answer token outcome =>
    obtain ⟨rows, before, run⟩ := Option.bind_eq_some_iff.1 run
    obtain ⟨job, found, run⟩ := Option.bind_eq_some_iff.1 run
    split at run
    · next call checkedAt phase =>
      cases run
      obtain ⟨jobIn, rfl⟩ := Table.get?_eq_some.1 found
      have locked := (held job jobIn call checkedAt (by rw [phase]; rfl)).locked
      exact engages_of_idle (held.released locked fun _ mem => Or.inl (mem_endJob.1 mem))
    · cases run
  | abort token failure =>
    obtain ⟨job, found, run⟩ := Option.bind_eq_some_iff.1 run
    obtain ⟨jobIn, rfl⟩ := Table.get?_eq_some.1 found
    have dropped : ∀ call checkedAt, job.phase.call? = some (call, checkedAt) →
        ∀ other ∈ world.jobs.put ⟨job.token, .failing failure⟩, other.phase.call? = none := by
      intro call checkedAt engaged
      refine held.released (held job jobIn call checkedAt engaged).locked fun other mem => ?_
      rcases Table.mem_put.1 mem with rfl | former
      · exact .inr rfl
      exact .inl former
    split at run
    · next call checkedAt phase =>
      cases run
      exact engages_of_idle (dropped call checkedAt (by rw [phase]; rfl))
    · next call checkedAt phase =>
      cases run
      exact engages_of_idle (dropped call checkedAt (by rw [phase]; rfl))
    · cases run
  | fail token =>
    simp only [perform] at run
    split at run
    · cases run
    next free =>
    obtain ⟨rows, before, run⟩ := Option.bind_eq_some_iff.1 run
    obtain ⟨job, _, run⟩ := Option.bind_eq_some_iff.1 run
    split at run
    · cases run
      exact engages_of_idle fun job mem =>
        held.free (Option.not_isSome_iff_eq_none.1 free) job (mem_endJob.1 mem).1
    · cases run
  | crash token =>
    obtain ⟨job, found, rfl⟩ := Option.map_eq_some_iff.1 run
    intro other mem call checkedAt engaged
    obtain ⟨former, apart⟩ := mem_endJob.1 mem
    refine .former other former rfl engaged rfl ?_ le_rfl
    rw [World.endJob, if_neg]
    rw [(held other former call checkedAt engaged).locked]
    exact fun eq => apart (Option.some.inj eq)

lemma held_step (held : Held world) (run : perform digest world action = some world') :
    Held world' := by
  intro job mem call checkedAt engaged
  cases engages_step held run job mem call checkedAt engaged with
  | former former formerIn token wasEngaged rows locked later =>
    obtain ⟨wasLocked, past, stored, plan, recorded, present, ready⟩ :=
      held former formerIn call checkedAt wasEngaged
    exact ⟨locked.trans (wasLocked.trans (congrArg some token)), past.trans later, stored, plan,
      recorded, rows.trans present, ready⟩
  | begun env elapsed byBegin current checked => exact current

lemma sound_create {principal : Principal} {access : Except ObsionError Unit}
    {request : CreateActionRequest} (run : create id principal access request = .ok rows) :
    Sound rows := by
  obtain ⟨_, _, run⟩ := of_bind_ok run
  obtain ⟨_, _, run⟩ := of_bind_ok run
  simp only at run
  split at run
  · cases run
  cases run
  refine ⟨rfl, fun _ => rfl, fun _ => Or.inl rfl, ?_, ?_, ?_, ?_, ?_⟩
  · exact fun _ mem => absurd mem (Table.notMem_empty _)
  · exact fun _ mem => absurd mem (Table.notMem_empty _)
  · exact fun purpose waiting => by cases purpose <;> cases waiting
  · exact fun _ mem => absurd mem (Table.notMem_empty _)
  · exact fun _ mem => absurd mem (Table.notMem_empty _)

lemma withdrawn_ne_pending (now : Time) (approval : ActionApproval) :
    (withdrawn now approval).status ≠ .pending := by
  unfold withdrawn
  split
  · exact ApprovalStatus.noConfusion
  next other => exact other

lemma planChecksum_withdrawn (now : Time) (approval : ActionApproval) :
    (withdrawn now approval).planChecksum = approval.planChecksum := by
  unfold withdrawn
  split <;> rfl

lemma Sound.cancelled (sound : Sound rows) (now : Time) : Sound { rows with
      request := { rows.request with status := .cancelled, cancellationRequestedAt := some now }
      approvals := rows.approvals.update (withdrawn now) (id_withdrawn now) } := by
  have stopped : ∀ approval ∈ rows.approvals.update (withdrawn now) (id_withdrawn now),
      approval.status ≠ .pending := by
    intro approval mem
    obtain ⟨former, _, rfl⟩ := Table.mem_update.1 mem
    exact withdrawn_ne_pending now former
  have checksums : ∀ approval ∈ rows.approvals.update (withdrawn now) (id_withdrawn now),
      rows.request.planChecksum = some approval.planChecksum := by
    intro approval mem
    obtain ⟨former, formerIn, rfl⟩ := Table.mem_update.1 mem
    rw [planChecksum_withdrawn]
    exact sound.sealed former formerIn
  refine ⟨sound.planChecksum, (nomatch ·), fun _ => Or.inr rfl, checksums, ?_, ?_, ?_, ?_⟩
  · exact fun approval mem pending => absurd pending (stopped approval mem)
  · exact fun purpose waiting => by cases purpose <;> cases waiting
  · exact fun left leftIn _ _ pending => absurd pending (stopped left leftIn)
  · exact sound.keys

lemma decidedRequest_closed (now : Time) (approve : Bool) (purpose : Purpose)
    (request : ActionRequest) : (decidedRequest now approve purpose request).status.open_ = false ∧
      (decidedRequest now approve purpose request).planChecksum = request.planChecksum ∧
      ∀ other : Purpose, (decidedRequest now approve purpose request).status ≠ other.waiting := by
  refine ⟨?_, ?_, fun other => ?_⟩
  · cases approve <;> cases purpose <;> rfl
  · cases approve <;> cases purpose <;> rfl
  · cases approve <;> cases purpose <;> cases other <;> exact ActionStatus.noConfusion

lemma sound_write (sound : Sound rows) (held : Held world) (before : world.rows = some rows)
    (write : Write digest world action rows rows') : Sound rows' := by
  have eq := write_same write
  cases write with
  | preflightFailed failure unsealed openStatus =>
    have idle := idle_of_open openStatus
    refine ⟨sound.planChecksum, fun _ => unsealed, fun _ => Or.inl rfl, sound.sealed, ?_, ?_, ?_,
      sound.keys⟩
    · exact fun approval mem pending => absurd pending (sound.idle mem idle)
    · exact fun purpose waiting => by cases purpose <;> cases waiting
    · exact fun left leftIn _ _ pending => absurd pending (sound.idle leftIn idle)
  | «sealed» principal access resolved approvalId reason ttlMinutes spec approvals byPreflight
      unsealed openStatus inserted =>
      refine sound.inserts inserted (idle_of_open openStatus) ?_ eq rfl rfl rfl
      intro approval mem
      have recorded := (sound.planChecksum.symm.trans (sound.sealed approval mem))
      rw [unsealed] at recorded
      cases recorded
  | decided principal access approvalId approve reason approval byDecision decides =>
    obtain ⟨mem, _⟩ := Table.get?_eq_some.1 decides.stored
    obtain ⟨closed, checksum, idle⟩ :=
      decidedRequest_closed world.now approve approval.purpose rows.request
    refine sound.closes mem decides.pending rfl rfl ?_ eq checksum closed idle
    cases approve <;> exact ApprovalStatus.noConfusion
  | requested principal access approvalId reason ttlMinutes planChecksum approvals byRequest plan
      rollbackable inserted =>
      have recorded := sound.planChecksum.symm.trans plan
      obtain ⟨stored, planned, checksum⟩ := Option.map_eq_some_iff.1 recorded
      have inserts := sound.inserts inserted (idle_of_rollbackable rollbackable)
        (fun approval mem => Option.some.inj ((sound.sealed approval mem).symm.trans plan))
        eq plan rfl checksum
      rw [← planned] at inserts
      exact inserts
  | cancelled byCancel cancellable => exact sound.cancelled world.now
  | expired approvalId approval stored pending =>
    obtain ⟨mem, _⟩ := Table.get?_eq_some.1 stored
    refine sound.closes mem pending rfl rfl ApprovalStatus.noConfusion eq rfl ?_ ?_
    · cases approval.purpose <;> rfl
    intro other
    cases approval.purpose <;> cases other <;> exact ActionStatus.noConfusion
  | claimed worker leaseSeconds claimable =>
    refine sound.request (sound.planned_of_claimable claimable) rfl ?_
      (idle_of_claimable claimable) ?_ sound.keys
    · simp only
      split <;> rfl
    intro other
    simp only
    split <;> cases other <;> exact ActionStatus.noConfusion
  | failed failure underway => exact sound.fail failure underway sound.keys
  | refused plan purpose approval attempt failure running planned found unfinished =>
    obtain ⟨rfl, key⟩ := sound.attemptOf found
    exact sound.fail failure (underway_of_running running) (sound.keys_put key)
  | resumed plan purpose approval attempt running found finished =>
    exact sound.complete purpose attempt.output (underway_of_running running) sound.keys
  | settled token job call checkedAt outcome found phase =>
    obtain ⟨plan, recorded, ready⟩ := held.ready before found phase
    have underway := underway_of_running ready.running
    obtain ⟨purpose, key⟩ := sound.attemptOf ready.found
    have keyed : call.attempt.idempotencyKey = attemptKey rows.request call.attempt.purpose := by
      rw [ready.attempt]
      exact key.trans (by rw [purpose])
    cases outcome with
    | error failure => exact sound.fail failure underway (sound.keys_put keyed)
    | ok output => exact sound.complete call.purpose output underway (sound.keys_put keyed)

/-- The rows of every committed state are sound, and a call holds the lock. -/
structure Orderly (world : World) : Prop where
  sound : ∀ rows, world.rows = some rows → Sound rows
  held : Held world

lemma orderly_blank (blank : Blank world) : Orderly world := by
  obtain ⟨absent, _, idle⟩ := blank
  refine ⟨fun rows present => ?_, held_of_idle fun job mem => ?_⟩
  · rw [absent] at present
    cases present
  rw [idle] at mem
  exact absurd mem (Table.notMem_empty _)

lemma orderly_step (orderly : Orderly world) (run : perform digest world action = some world') :
    Orderly world' := by
  refine ⟨fun stored present => ?_, held_step orderly.held run⟩
  cases perform_change run with
  | kept eq => exact orderly.sound stored (eq ▸ present)
  | created id principal access request rows absent run after =>
    cases after.symm.trans present
    exact sound_create run
  | wrote rows rows' before after write =>
    cases after.symm.trans present
    exact sound_write (orderly.sound rows before) orderly.held before write

end

end Obsion.Actions
