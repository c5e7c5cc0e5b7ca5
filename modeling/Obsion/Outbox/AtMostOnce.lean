import Obsion.Outbox.Service

/-! # At most one POST for each Outbox row

`Safe` ties the ghosts to the row: once the POST was attempted the row is closed,
or it is DISPATCHING under a token that no remaining claim carries.  Every action
keeps it except an `enqueue_next` that writes over a row which left BLOCKED after
the scan; `outbox_postsTwice` is such a run. -/

namespace Obsion.Outbox

open Obsion.Lib

def Closed (status : DingTalkOutboxStatus) : Prop :=
  status = .accepted ∨ status = .rejected ∨ status = .unknown

/-- What the actions that neither claim nor enqueue can do to a row without a POST. -/
structure Kept (row next : DingTalkRobotOutbox) : Prop where
  token : next.fencingToken = row.fencingToken
  status : next.status = row.status ∨ Closed next.status

/-! ## One spec lemma for each operation -/

section
variable {settings : Settings} {row : DingTalkRobotOutbox}

lemma Kept.refl (row : DingTalkRobotOutbox) : Kept row row := ⟨rfl, Or.inl rfl⟩

lemma expireClaims_kept (now : Time) : Kept row (expireClaims now row) := by
  unfold expireClaims
  split
  · exact ⟨rfl, Or.inr (Or.inr (Or.inr rfl))⟩
  exact Kept.refl row

lemma claimReconciliation_kept (now : Time) : Kept row (claimReconciliation settings now row) := by
  unfold claimReconciliation
  split
  · exact ⟨rfl, Or.inl rfl⟩
  exact Kept.refl row

lemma reconcile_kept (args : ReconcileArgs) : Kept row (reconcile args row) := by
  unfold reconcile
  split
  · exact Kept.refl row
  split
  · exact ⟨rfl, Or.inl rfl⟩
  next query decision _ =>
  unfold reconcileQuery
  cases query.state with
  | success | unknown => exact ⟨rfl, Or.inl rfl⟩
  | failure => exact ⟨rfl, Or.inr (Or.inr (Or.inl rfl))⟩

lemma claimable_queued {now : Time} (selected : claimable now row = true) :
    row.status = .queued := by
  simp only [claimable, Bool.and_eq_true, beq_iff_eq] at selected
  exact selected.1

lemma prepareQueue_spec (args : EnqueueArgs) (row : DingTalkRobotOutbox) :
    (prepareQueue settings args row).fencingToken = row.fencingToken ∧
      ((prepareQueue settings args row).status = .blocked ∨
        (prepareQueue settings args row).status = .queued) := by
  have ready : ∀ group text classification,
      (queueIfReady settings args group text classification row).fencingToken = row.fencingToken ∧
        ((queueIfReady settings args group text classification row).status = .blocked ∨
          (queueIfReady settings args group text classification row).status = .queued) := by
    intro group text classification
    unfold queueIfReady
    split
    · exact ⟨rfl, Or.inr rfl⟩
    exact ⟨rfl, Or.inl rfl⟩
  unfold prepareQueue
  split
  · exact ⟨rfl, Or.inl rfl⟩
  split
  · split
    · exact ⟨rfl, Or.inl rfl⟩
    exact ready _ _ _
  · exact ready _ _ _

/-- The UPDATE of `enqueue_next` over a row that is still BLOCKED. -/
lemma flush_prepareQueue_spec (args : EnqueueArgs) (loaded : DingTalkRobotOutbox)
    (blocked : row.status = .blocked) :
    (flush loaded (prepareQueue settings args loaded) row).fencingToken = row.fencingToken ∧
      ((flush loaded (prepareQueue settings args loaded) row).status = .blocked ∨
        (flush loaded (prepareQueue settings args loaded) row).status = .queued) := by
  obtain ⟨token, status⟩ := @prepareQueue_spec settings args loaded
  constructor
  · simp only [flush, column, token, if_true]
  simp only [flush, column]
  split
  · exact .inl blocked
  exact status

lemma recordSend_spec (now : Time) (result : DingTalkRobotOutboxResult)
    (row : DingTalkRobotOutbox) :
    (recordSend settings now result row).fencingToken = row.fencingToken ∧
      (result.send.state ≠ .notAttempted → Closed (recordSend settings now result row).status) := by
  unfold recordSend
  simp only
  split
  · exact ⟨rfl, fun _ => Or.inl rfl⟩
  · exact ⟨rfl, fun _ => Or.inr (Or.inl rfl)⟩
  · exact ⟨rfl, fun _ => Or.inr (Or.inr rfl)⟩
  · next state =>
    refine ⟨?_, fun attempted => absurd state attempted⟩
    split <;> rfl

variable {args : DispatchArgs} {claim : OutboxClaim}

lemma dispatch_attempted (attempted : (dispatch settings args claim row).messageAttempted = true) :
    row.status = .dispatching ∧ row.fencingToken = claim.fencingToken ∧
      ∀ next, (dispatch settings args claim row).outcome = .ok next → Closed next.status := by
  unfold dispatch at attempted ⊢
  split at attempted
  · cases attempted
  next held =>
  push Not at held
  refine ⟨held.2.1, held.2.2, ?_⟩
  rw [if_neg (by simp [held])]
  split at attempted
  · split at attempted <;> cases attempted
  · cases attempted
  · split at attempted
    · cases attempted
    · cases attempted
    · intro next committed
      obtain ⟨result, returned, rfl⟩ := of_map_ok committed
      exact (recordSend_spec args.now result row).2
        (invokeDingtalkRobotOutbox_honest _ _ attempted result returned)

lemma dispatch_stale (stale : row.status ≠ .dispatching ∨ row.fencingToken ≠ claim.fencingToken) :
    dispatch settings args claim row = ⟨false, .ok row⟩ := by
  unfold dispatch
  rw [if_pos (Or.inr stale)]

lemma dispatch_token {next : DingTalkRobotOutbox}
    (committed : (dispatch settings args claim row).outcome = .ok next) :
    next.fencingToken = row.fencingToken := by
  unfold dispatch at committed
  split at committed
  · cases committed
    rfl
  split at committed
  · split at committed
    · cases committed
    cases committed
    rfl
  · cases committed
  · split at committed
    · cases committed
    · cases committed
      rfl
    · obtain ⟨result, _, rfl⟩ := of_map_ok committed
      exact (recordSend_spec args.now result row).1

end

structure Safe (world : World) : Prop where
  held : ∀ claim ∈ world.claims, ∃ row, world.row = some row ∧ claim.fencingToken ≤ row.fencingToken
  distinct : (world.claims.map OutboxClaim.fencingToken).Nodup
  once : world.posts ≤ 1
  posted : 0 < world.posts → ∃ row, world.row = some row ∧
    (Closed row.status ∨ row.status = .dispatching ∧
      ∀ claim ∈ world.claims, claim.fencingToken ≠ row.fencingToken)

lemma safe_fresh : Safe fresh :=
  { held := nofun
    distinct := List.nodup_nil, once := Nat.zero_le 1
    posted := fun attempted => absurd attempted (Nat.lt_irrefl 0) }

lemma Safe.of_same {world next : World} (safe : Safe world) (row : next.row = world.row)
    (posts : next.posts = world.posts) (claims : next.claims = world.claims) : Safe next := by
  refine ⟨?_, ?_, ?_, ?_⟩
  · rw [claims, row]
    exact safe.held
  · rw [claims]
    exact safe.distinct
  · rw [posts]
    exact safe.once
  · rw [posts, row, claims]
    exact safe.posted

lemma Safe.erase {world : World} (safe : Safe world) (claim : OutboxClaim) :
    Safe { world with claims := world.claims.erase claim } := by
  have fewer : (world.claims.erase claim).Sublist world.claims := List.erase_sublist
  refine ⟨?_, ?_, safe.once, ?_⟩
  · intro other mem
    exact safe.held other (fewer.subset mem)
  · exact safe.distinct.sublist (fewer.map _)
  · intro attempted
    obtain ⟨row, stored, status⟩ := safe.posted attempted
    refine ⟨row, stored, ?_⟩
    rcases status with closed | ⟨dispatching, free⟩
    · exact .inl closed
    exact .inr ⟨dispatching, fun other mem => free other (fewer.subset mem)⟩

/-- Replacing the row keeps the invariant when the token does not sink and a row
whose POST was attempted keeps its status or closes. -/
lemma Safe.update {world : World} (safe : Safe world) {row next : DingTalkRobotOutbox}
    (stored : world.row = some row) (token : next.fencingToken = row.fencingToken)
    (status : 0 < world.posts → next.status = row.status ∨ Closed next.status) :
    Safe { world with row := some next } := by
  refine ⟨?_, safe.distinct, safe.once, ?_⟩
  · intro claim mem
    obtain ⟨found, eq, bound⟩ := safe.held claim mem
    rw [stored] at eq
    cases eq
    exact ⟨next, rfl, token ▸ bound⟩
  · intro attempted
    obtain ⟨found, eq, state⟩ := safe.posted attempted
    rw [stored] at eq
    cases eq
    refine ⟨next, rfl, ?_⟩
    rcases status attempted with kept | closed
    · rw [kept, token]
      exact state
    exact .inl closed

lemma Safe.map {world : World} (safe : Safe world)
    {change : DingTalkRobotOutbox → DingTalkRobotOutbox} (kept : ∀ row, Kept row (change row)) :
    Safe { world with row := world.row.map change } := by
  cases stored : world.row with
  | none => exact safe.of_same stored.symm rfl rfl
  | some row => exact safe.update stored (kept row).token fun _ => (kept row).status

lemma Safe.unposted {world : World} (safe : Safe world) {row : DingTalkRobotOutbox}
    (stored : world.row = some row) (status : row.status = .blocked ∨ row.status = .queued) :
    world.posts = 0 := by
  by_contra some
  obtain ⟨found, eq, state⟩ := safe.posted (Nat.pos_of_ne_zero some)
  rw [stored] at eq
  cases eq
  rcases status with blocked | queued
  · simp [Closed, blocked] at state
  simp [Closed, queued] at state

/-- The action is an `enqueue_next` commit that updates the row its scan saw. -/
def updatesRow (world : World) : Action → Bool
  | .enqueueCommit _ =>
    match world.locked with
    | some (some _) => true
    | _ => false
  | _ => false

/-- An `enqueue_next` that updates a row finds it still BLOCKED. -/
def FreshEnqueue (move : Move World Action) : Prop :=
  updatesRow move.before move.action = true →
    move.before.row.any (fun row => row.status == .blocked) = true

instance (move : Move World Action) : Decidable (FreshEnqueue move) :=
  inferInstanceAs (Decidable (_ → _))

section
variable {settings : Settings} {world : World}

lemma enqueueCommit_safe (safe : Safe world) {args : EnqueueArgs}
    {seen : Option DingTalkRobotOutbox} (current : ∀ loaded, seen = some loaded →
      ∃ row, world.row = some row ∧ row.status = .blocked) :
    Safe { world with row := enqueueWrite settings args seen world.row, locked := none } := by
  cases seen with
  | none =>
    cases stored : world.row with
    | none =>
      have unclaimed : world.claims = [] := by
        refine List.eq_nil_iff_forall_not_mem.2 fun claim mem => ?_
        obtain ⟨row, eq, _⟩ := safe.held claim mem
        rw [stored] at eq
        cases eq
      have unposted : ¬ 0 < world.posts := by
        intro attempted
        obtain ⟨row, eq, _⟩ := safe.posted attempted
        rw [stored] at eq
        cases eq
      refine ⟨?_, safe.distinct, safe.once, fun attempted => absurd attempted unposted⟩
      intro claim mem
      rw [show ({ world with
        row := enqueueWrite settings args none none, locked := none } : World).claims
          = world.claims from rfl, unclaimed] at mem
      cases mem
    | some row => exact safe.of_same stored.symm rfl rfl
  | some loaded =>
    obtain ⟨row, stored, blocked⟩ := current loaded rfl
    obtain ⟨token, -⟩ := @flush_prepareQueue_spec settings row args loaded blocked
    have unposted := safe.unposted stored (Or.inl blocked)
    have updated := safe.update stored token fun attempted => by
      rw [unposted] at attempted
      exact absurd attempted (Nat.lt_irrefl 0)
    rw [stored]
    exact updated.of_same rfl rfl rfl

lemma claimNext_safe (safe : Safe world) {now : Time} {row : DingTalkRobotOutbox}
    (stored : world.row = some row) (selected : claimable now row = true) : Safe { world with
      row := some (claimNext settings now row).1
      claims := (claimNext settings now row).2 :: world.claims } := by
  have unposted := safe.unposted stored (Or.inr (claimable_queued selected))
  have below : ∀ claim ∈ world.claims, claim.fencingToken ≤ row.fencingToken := by
    intro claim mem
    obtain ⟨found, eq, bound⟩ := safe.held claim mem
    rw [stored] at eq
    cases eq
    exact bound
  refine ⟨?_, ?_, safe.once, ?_⟩
  · intro claim mem
    refine ⟨_, rfl, ?_⟩
    rcases List.mem_cons.1 mem with rfl | older
    · exact le_refl _
    have bound := below claim older
    have raised : (claimNext settings now row).1.fencingToken = row.fencingToken + 1 := rfl
    omega
  · simp only [List.map_cons, List.nodup_cons]
    refine ⟨?_, safe.distinct⟩
    intro mem
    obtain ⟨claim, older, eq⟩ := List.mem_map.1 mem
    have bound := below claim older
    have raised : (claimNext settings now row).2.fencingToken = row.fencingToken + 1 := rfl
    omega
  · intro attempted
    have none : world.posts = 0 := unposted
    simp only [none] at attempted
    exact absurd attempted (Nat.lt_irrefl 0)

variable {args : DispatchArgs} {claim : OutboxClaim}

lemma dispatch_posted (safe : Safe world) {row : DingTalkRobotOutbox}
    (stored : world.row = some row) (mem : claim ∈ world.claims)
    (attempted : (dispatch settings args claim row).messageAttempted = true) :
    Safe { world with claims := world.claims.erase claim, posts := world.posts + 1 } := by
  obtain ⟨dispatching, current, -⟩ := dispatch_attempted attempted
  have first : world.posts = 0 := by
    by_contra some
    obtain ⟨found, eq, state⟩ := safe.posted (Nat.pos_of_ne_zero some)
    rw [stored] at eq
    cases eq
    rcases state with closed | ⟨-, free⟩
    · simp [Closed, dispatching] at closed
    exact free claim mem current.symm
  have erased := safe.erase claim
  refine ⟨erased.held, erased.distinct, by simp [first], ?_⟩
  intro _
  refine ⟨row, stored, Or.inr ⟨dispatching, ?_⟩⟩
  intro other remaining eq
  have unique : claim = other := List.inj_on_of_nodup_map safe.distinct mem
    (List.mem_of_mem_erase remaining) (by rw [eq, current])
  subst unique
  have nodup : world.claims.Nodup := safe.distinct.of_map _
  exact nodup.not_mem_erase remaining

lemma Safe.dispatch_eq (safe : Safe world) {row : DingTalkRobotOutbox}
    (stored : world.row = some row) (mem : claim ∈ world.claims) (attempted : 0 < world.posts) :
    dispatch settings args claim row = ⟨false, .ok row⟩ := by
  obtain ⟨found, eq, state⟩ := safe.posted attempted
  rw [stored] at eq
  cases eq
  apply dispatch_stale
  rcases state with closed | ⟨-, free⟩
  · left
    intro dispatching
    simp [Closed, dispatching] at closed
  · exact .inr fun eq => free claim mem eq.symm

lemma dispatchStep_safe (safe : Safe world) {crash : Crash} {next : World}
    (step : dispatchStep settings world claim args crash = some next) : Safe next := by
  unfold dispatchStep at step
  split at step
  · next mem =>
    cases stored : world.row with
    | none =>
      rw [stored] at step
      cases step
      exact (safe.erase claim).of_same stored.symm rfl rfl
    | some row =>
      rw [stored] at step
      simp only at step
      split at step
      · cases step
        exact (safe.erase claim).of_same stored.symm rfl rfl
      by_cases attempted : (dispatch settings args claim row).messageAttempted = true
      · have posted := dispatch_posted safe stored mem attempted
        have closed := (dispatch_attempted attempted).2.2
        simp only [attempted, if_true] at step
        split at step
        · cases step
          exact posted.of_same stored.symm rfl rfl
        next final committed =>
        split at step
        · cases step
          exact posted.of_same stored.symm rfl rfl
        cases step
        exact posted.update stored (dispatch_token committed)
          fun _ => Or.inr (closed final committed)
      · have erased := safe.erase claim
        simp only [attempted, Bool.false_eq_true, if_false] at step
        split at step
        · cases step
          exact erased.of_same stored.symm rfl rfl
        next final committed =>
        split at step
        · cases step
          exact erased.of_same stored.symm rfl rfl
        cases step
        have unchanged : 0 < world.posts → final.status = row.status := by
          intro posted
          rw [safe.dispatch_eq stored mem posted] at committed
          exact congrArg _ (Except.ok.inj committed).symm
        exact erased.update stored (dispatch_token committed)
          fun posted => Or.inl (unchanged posted)
  · cases step

lemma perform_safe (safe : Safe world) {action : Action} {next : World}
    (step : perform settings world action = some next)
    (current : FreshEnqueue ⟨world, action, next⟩) : Safe next := by
  cases action with
  | enqueueScan | enqueueLock =>
    simp only [perform] at step
    split at step
    · cases step
      exact safe.of_same rfl rfl rfl
    cases step
  | enqueueSkip | enqueueRollback =>
    cases step
    exact safe.of_same rfl rfl rfl
  | enqueueCommit args =>
    obtain ⟨seen, locked, rfl⟩ := Option.map_eq_some_iff.1 step
    apply enqueueCommit_safe safe
    intro loaded eq
    have blocked := current (by simp only [updatesRow, locked, eq])
    cases stored : world.row with
    | none => simp [stored] at blocked
    | some row => exact ⟨row, rfl, by simpa [stored] using blocked⟩
  | expireClaims now =>
    cases step
    exact safe.map fun row => expireClaims_kept now
  | claimNext now =>
    simp only [perform] at step
    split at step
    · cases step
    next row stored =>
    split at step
    · next selected =>
      cases step
      exact claimNext_safe safe stored selected
    · cases step
  | dropClaim claim =>
    cases step
    exact safe.erase claim
  | dispatch claim args crash => exact dispatchStep_safe safe step
  | claimReconciliation now =>
    cases step
    exact safe.map fun row => claimReconciliation_kept now
  | reconcile args =>
    cases step
    exact safe.map fun row => reconcile_kept args

end

/-- In every run whose enqueue transactions find the row they write still BLOCKED,
the POST is attempted at most once, and never again is such a row QUEUED. -/
theorem outbox_postsAtMostOnce (settings : Settings) {world : World}
    (reached : ReachableWhere (outbox settings) FreshEnqueue world) :
    world.posts ≤ 1 ∧ (0 < world.posts → ∀ row, world.row = some row → row.status ≠ .queued) := by
  have safe : Safe world := by
    refine reached.holds ?_ ?_
    · intro start initial
      have same : start = fresh := initial
      rw [same]
      exact safe_fresh
    · intro before action after safe step current
      exact perform_safe safe step current
  refine ⟨safe.once, fun attempted row stored queued => ?_⟩
  have unposted := safe.unposted stored (Or.inr queued)
  omega

def sampleSettings : Settings :=
  { leaseSeconds := 60, maxAttempts := 3
    sha256 := fun text =>
      if text = "" then "e3b0c44298fc1c149afbf4c8996fb92427ae41e4649b934ca495991b7852b855"
      else "73475cb40a568e8da8a045ced110137e159f890ac4da883b6b17dc651b3a8049" }

def sampleId (digit : Fin 16) : Uuid := .repeating digit

def sampleEnqueue (ready : Bool) (now : Time) : EnqueueArgs :=
  { newId := sampleId 1, runId := sampleId 2, bindingId := sampleId 3, subjectUserId := sampleId 4
    senderId := "staff-1", conversationType := "direct", conversationId := "cid-1"
    scannedAudience := none, connectorId := sampleId 5
    connectorFingerprint := "9f86d081884c7d659a2feaa0c55ad015a3bf4f1b2b0b822cd15d6c15b0f00a08"
    answer := some ("42", "INTERNAL"), groupDelivery := none
    capabilityVersionId := some (sampleId 6), ready := ready, now := now }

def sampleInputs : DispatchInputs := ⟨"staff-1", "app-key", "robot-1", "42", sampleId 6⟩

def vendorReply (fields : Fields) : Except Fault VendorReply :=
  .ok ⟨200, "identity", 64, .ok (.obj fields)⟩

def sampleDispatch (now : Time) : DispatchArgs :=
  { fence := .ok (), inputs := .ok (some sampleInputs), authorizedAt := now
    currentInputs := .ok (some sampleInputs), now := now
    gateway :=
      { resolve := .ok (), contractValid := true, decision := .ok ⟨sampleId 7, true⟩
        connectorGrantAllows := true, rateAllowed := some true
        credential := .ok (some "app-secret")
        io :=
          { token := vendorReply [("accessToken", .str "token-1"), ("expireIn", .int 7200)]
            authorizeSend := none, message := vendorReply [("processQueryKey", .str "pqk-1")]
            close := none } } }

def deliver (token : Nat) (now : Time) : List Action :=
  [.claimNext now, .dispatch ⟨sampleId 1, token⟩ (sampleDispatch now) .none]

def sampleActions : List Action :=
  [.enqueueScan, .enqueueLock 0, .enqueueCommit (sampleEnqueue false 0),
    .enqueueScan, .enqueueLock 0, .enqueueCommit (sampleEnqueue true 1)] ++ deliver 1 2

theorem outbox_postsAtMostOnce_delivery :
    ∃ world, world.posts = 1 ∧ ReachableWhere (outbox sampleSettings) FreshEnqueue world ∧
      world.posts ≤ 1 ∧
      (0 < world.posts → ∀ row, world.row = some row → row.status ≠ .queued) := by
  obtain ⟨moves, world, run, posts, unraced⟩ : ∃ moves world,
      replay (perform sampleSettings) fresh sampleActions = some (moves, world) ∧
        world.posts = 1 ∧ ∀ move ∈ moves, FreshEnqueue move :=
    ⟨_, _, rfl, rfl, by decide⟩
  have reached : ReachableWhere (outbox sampleSettings) FreshEnqueue world :=
    ⟨fresh, moves, rfl, Path.of_replay run, unraced⟩
  exact ⟨world, posts, reached, outbox_postsAtMostOnce sampleSettings reached⟩

/-- Two workers scan the BLOCKED row before either locks the Inbox message; the
second commits over the first one's claim and POST. -/
def racingActions : List Action :=
  [.enqueueScan, .enqueueLock 0, .enqueueCommit (sampleEnqueue false 0),
    .enqueueScan, .enqueueScan, .enqueueLock 0, .enqueueCommit (sampleEnqueue true 1),
    .enqueueLock 0] ++ deliver 1 2 ++ [.enqueueCommit (sampleEnqueue true 3)] ++ deliver 2 4

theorem outbox_postsTwice : ¬ ∀ world, Reachable (outbox sampleSettings) world → world.posts ≤ 1 ∧
        (0 < world.posts → ∀ row, world.row = some row → row.status ≠ .queued) := by
  intro claim
  obtain ⟨moves, world, run, posts⟩ : ∃ moves world,
      replay (perform sampleSettings) fresh racingActions = some (moves, world) ∧ world.posts = 2 :=
    ⟨_, _, rfl, rfl⟩
  have once := (claim world ⟨fresh, moves, rfl, Path.of_replay run⟩).1
  omega

end Obsion.Outbox
