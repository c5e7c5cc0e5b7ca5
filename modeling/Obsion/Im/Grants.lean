import Obsion.Im.Delivery
import Obsion.Lib.Permit

/-! # Send grants of an IM delivery

`Change` says once what a committed operation can do to the delivery row.  The
row is read as a permit: FAILED and PENDING are idle, PROCESSING is outstanding,
UNKNOWN is outstanding once the delivery was claimed, SENT is settled with the
vendor receipt.  Every operation is a permit step, so a grant after a grant needs
a close in between, and the only operations that close are a fail report that
holds the current lease and a CONFIRMED_UNSENT reconciliation. -/

namespace Obsion.Im

open Obsion.Lib

/-- What a committed operation can do to the delivery row. -/
inductive Change (settings : Settings) (action : Action) : Option ImDelivery → Option ImDelivery → Prop
  | unchanged (row : Option ImDelivery) : Change settings action row row
  | created (next : ImDelivery) (status : next.status = .pending)
      (generation : next.claimGeneration = 0) (sends : next.sendAttemptCount = 0) :
      Change settings action none (some next)
  | createdGranted (next : ImDelivery) (status : next.status = .processing)
      (generation : next.claimGeneration = 1) (sends : next.sendAttemptCount = 1) :
      Change settings action none (some next)
  | refreshed (row next : ImDelivery)
      (ready : row.status = .sent ∨ row.sendAttemptCount = 0
        ∧ (row.status = .pending ∨ row.status = .failed))
      (status : next.status = if row.status = .failed then .pending else row.status)
      (generation : next.claimGeneration = row.claimGeneration)
      (sends : next.sendAttemptCount = row.sendAttemptCount)
      (receipt : next.vendorMessageId = row.vendorMessageId) :
      Change settings action (some row) (some next)
  | granted (row next : ImDelivery) (ready : row.status = .pending ∨ row.status = .failed)
      (status : next.status = .processing)
      (generation : next.claimGeneration = row.claimGeneration + 1)
      (sends : next.sendAttemptCount = row.sendAttemptCount + 1) :
      Change settings action (some row) (some next)
  | refused (row next : ImDelivery) (ready : row.status = .pending ∨ row.status = .failed)
      (status : next.status = .failed) (generation : next.claimGeneration = row.claimGeneration)
      (sends : next.sendAttemptCount = row.sendAttemptCount) :
      Change settings action (some row) (some next)
  | held (row next : ImDelivery) (open_ : row.status = .processing
        ∨ row.claimGeneration = 0 ∧ (row.status = .pending ∨ row.status = .failed))
      (status : next.status = .unknown) (generation : next.claimGeneration = row.claimGeneration)
      (sends : next.sendAttemptCount = row.sendAttemptCount) :
      Change settings action (some row) (some next)
  | sent (row next : ImDelivery) (unsent : row.status ≠ .sent) (status : next.status = .sent)
      (generation : next.claimGeneration = row.claimGeneration)
      (sends : next.sendAttemptCount = row.sendAttemptCount) :
      Change settings action (some row) (some next)
  | failed (row next : ImDelivery) (args : FailArgs) (byFail : action = .fail args)
      (processing : row.status = .processing)
      (worker : String) (expires : Time)
      (reported : args.report.claimGeneration = some row.claimGeneration)
      (named : args.report.workerId = some worker) (owner : row.leaseOwner = some (strip worker))
      (lease : row.leaseExpiresAt = some expires) (unexpired : args.report.utcNow < expires)
      (status : next.status = .failed) (generation : next.claimGeneration = row.claimGeneration)
      (sends : next.sendAttemptCount = row.sendAttemptCount) :
      Change settings action (some row) (some next)
  | confirmedUnsent (row next : ImDelivery) (args : ReconcileArgs)
      (byReconcile : action = .reconcile args) (unknown : row.status = .unknown)
      (outcome : args.normalizedOutcome = "CONFIRMED_UNSENT")
      (status : next.status = .failed) (generation : next.claimGeneration = row.claimGeneration)
      (sends : next.sendAttemptCount = row.sendAttemptCount) :
      Change settings action (some row) (some next)

/-! ## One inversion lemma for each operation -/

section
variable {settings : Settings} {ledger after : Ledger}

lemma prepareExisting_cases {stableWorker : Option String} {payload : AuthorizedPayload}
    {row next : ImDelivery} (run : prepareExisting stableWorker payload row = .ok next) :
    (row.status = .sent ∨ row.sendAttemptCount = 0
        ∧ (row.status = .pending ∨ row.status = .failed)) ∧
      next.status = (if row.status = .failed then .pending else row.status) ∧
      next.claimGeneration = row.claimGeneration ∧ next.sendAttemptCount = row.sendAttemptCount ∧
      next.vendorMessageId = row.vendorMessageId := by
  unfold prepareExisting at run
  split at run
  · cases run
  split_ifs at run with _ unknown processing managed
  · have ready : row.status = .sent ∨ row.sendAttemptCount = 0
        ∧ (row.status = .pending ∨ row.status = .failed) := by
      cases status : row.status <;> simp_all
    cases run
    refine ⟨ready, ?_⟩
    unfold reopenFailed
    split_ifs with failed <;> simp

lemma prepare_cases {args : PrepareArgs} {result : Option PreparedDelivery}
    (run : prepare settings args ledger = .ok (after, result)) :
    Change settings (.prepare args) ledger.delivery after.delivery := by
  unfold prepare at run
  simp only at run
  split_ifs at run with emptyWorker
  split at run
  · cases run
  split_ifs at run with foreign
  split at run
  · cases run
  split at run
  · cases run
  next row prepared =>
  have eq := (Prod.mk.inj (Except.ok.inj run)).1
  subst eq
  unfold prepareRow at prepared
  cases existing : ledger.delivery with
  | none =>
    rw [existing] at prepared
    cases prepared
    cases worker : args.workerId.map strip with
    | none => exact Change.created _ rfl rfl rfl
    | some name => exact Change.createdGranted _ rfl rfl rfl
  | some delivery =>
    rw [existing] at prepared
    obtain ⟨ready, status, generation, sends, receipt⟩ := prepareExisting_cases prepared
    cases worker : args.workerId.map strip with
    | none => exact Change.refreshed _ _ ready status generation sends receipt
    | some name =>
      simp only [prepareClaim]
      split_ifs with isSent
      · exact Change.refreshed _ _ ready status generation sends receipt
      · refine Change.granted _ _ ?_ rfl ?_ ?_
        · rcases ready with sent | ⟨_, open_⟩
          · rw [sent] at status
            exact absurd status isSent
          exact open_
        · simp [grant, generation]
        · simp [grant, sends]

lemma expireOneClaim_cases (organizationId : Uuid) (channel : String) (now : Time)
    (returnsRow : Bool) (action : Action) :
    (expireOneClaim organizationId channel now returnsRow ledger) = ledger ∨
      ∃ row next, ledger.delivery = some row ∧ row.status = .processing ∧
        (expireOneClaim organizationId channel now returnsRow ledger).delivery = some next ∧
        next.status = .unknown ∧ Change settings action (some row) (some next) := by
  unfold expireOneClaim
  cases existing : ledger.delivery with
  | none => exact .inl rfl
  | some row =>
    simp only
    split_ifs with expired
    · have processing : row.status = .processing := by
        have := expired.2
        simp only [claimExpired, Bool.and_eq_true, beq_iff_eq] at this
        exact this.1.2
      exact .inr ⟨row, _, rfl, processing, rfl, rfl, Change.held row _ (Or.inl processing) rfl rfl rfl⟩
    · exact .inl rfl

lemma claimable_ready {organizationId : Uuid} {channel : String} {now : Time}
    {row : ImDelivery} (selected : claimable settings organizationId channel now row = true) :
    row.status = .pending ∨ row.status = .failed := by
  simp only [claimable, Bool.and_eq_true, Bool.or_eq_true, beq_iff_eq] at selected
  rcases selected.2 with pending | ⟨failed, _⟩
  · exact .inl pending
  exact .inr failed

variable {attempts : List ImDeliveryAttempt} {args : ReportArgs}

variable {result : Option ClaimedDelivery} {claimGeneration : Option Nat} {workerId : Option String}
  {utcNow : Time} {attempt : Option ImDeliveryAttempt}

lemma claimRow_cases {args : ClaimArgs} {stableWorker : String} {row : ImDelivery}
    (ready : row.status = .pending ∨ row.status = .failed)
    (run : claimRow settings args stableWorker row attempts = .ok (after, result)) :
    Change settings (.claim args) (some row) after.delivery := by
  unfold claimRow at run
  split at run
  · split_ifs at run with refused
    have eq := (Prod.mk.inj (Except.ok.inj run)).1
    subst eq
    exact Change.refused row _ ready rfl rfl rfl
  · have eq := (Prod.mk.inj (Except.ok.inj run)).1
    subst eq
    exact Change.granted row _ ready rfl rfl rfl

lemma claim_cases {args : ClaimArgs} (run : claim settings args ledger = .ok (after, result)) :
    Change settings (.claim args) ledger.delivery after.delivery := by
  unfold claim at run
  simp only at run
  split_ifs at run with denied invalid limited
  · have eq := (Prod.mk.inj (Except.ok.inj run)).1
    rcases @expireOneClaim_cases settings ledger
      args.principal.organizationId (lower (strip args.channel)) args.now args.expiryReturnsRow
      (.claim args) with kept | ⟨row, next, existing, _, moved, _, change⟩
    · rw [← eq, kept]
      exact Change.unchanged _
    rw [← eq, moved, existing]
    exact change
  · rcases @expireOneClaim_cases settings ledger
      args.principal.organizationId (lower (strip args.channel)) args.now args.expiryReturnsRow
      (.claim args) with kept | ⟨row, next, existing, _, moved, unknown, change⟩
    · rw [kept] at run
      cases existing : ledger.delivery with
      | none =>
        rw [existing] at run
        rw [← (Prod.mk.inj (Except.ok.inj run)).1, existing]
        exact Change.unchanged _
      | some row =>
        rw [existing] at run
        simp only at run
        split_ifs at run with selected
        · exact claimRow_cases (claimable_ready selected.2) run
        · rw [← (Prod.mk.inj (Except.ok.inj run)).1, existing]
          exact Change.unchanged _
    · -- a row that just expired is UNKNOWN, so the claim query cannot return it
      rw [moved] at run
      simp only at run
      split_ifs at run with selected
      · rcases claimable_ready selected.2 with pending | failed
        · rw [unknown] at pending
          cases pending
        rw [unknown] at failed
        cases failed
      · rw [← (Prod.mk.inj (Except.ok.inj run)).1, moved, existing]
        exact change

lemma getForUpdate_delivery {principal : Principal} {deliveryId : Uuid} {row : ImDelivery}
    (found : getForUpdate principal deliveryId ledger = .ok row) : ledger.delivery = some row := by
  unfold getForUpdate at found
  split at found
  · cases found
  next delivery existing =>
  split_ifs at found
  rw [existing, Except.ok.inj found]

lemma openReport_delivery {row : ImDelivery} (opened : openReport args ledger = .ok row) :
    ledger.delivery = some row := by
  unfold openReport at opened
  split at opened
  · cases opened
  next delivery found =>
  split at opened
  · cases opened
  cases opened
  exact getForUpdate_delivery found

/-- `_require_claim` on a report: the legacy path needs a delivery that was never
claimed, the other path the current generation, its owner and a live lease. -/
lemma requireClaim_cases {row : ImDelivery}
    (run : requireClaim row attempts claimGeneration workerId utcNow = .ok attempt) :
    (attempt = none ∧ row.status ≠ .processing ∧ row.claimGeneration = 0
        ∧ (row.status = .pending ∨ row.status = .failed ∨ row.status = .unknown)) ∨
      ∃ found worker expires, attempt = some found ∧ row.status = .processing ∧
        claimGeneration = some row.claimGeneration ∧ workerId = some worker ∧
        row.leaseOwner = some (strip worker) ∧ row.leaseExpiresAt = some expires ∧
        utcNow < expires := by
  unfold requireClaim at run
  split_ifs at run with unclaimed legacy
  · exact .inl ⟨(Except.ok.inj run).symm, unclaimed, legacy.2⟩
  · have processing : row.status = .processing := not_not.1 unclaimed
    split at run
    · next generation worker expires lease =>
      split_ifs at run with stale
      push Not at stale
      split at run
      · cases run
      split_ifs at run with mismatch
      exact .inr ⟨_, worker, expires, (Except.ok.inj run).symm, processing,
        by rw [stale.1], rfl, stale.2.1, lease, stale.2.2⟩
    · cases run

lemma complete_cases {vendorMessageId : String}
    (run : complete args vendorMessageId ledger = .ok after) :
    Change settings (.complete args vendorMessageId) ledger.delivery after.delivery := by
  unfold complete at run
  split at run
  · cases run
  next row opened =>
  rw [openReport_delivery opened]
  simp only at run
  split_ifs at run with invalid isSent other
  · cases run
    rw [openReport_delivery opened]
    exact Change.unchanged _
  · split at run
    · cases run
    cases run
    exact Change.sent row _ isSent rfl rfl rfl

/-- The row of a report that found a claim, or no claim to find, is not SENT and is
UNKNOWN only if it was never claimed. -/
lemma requireClaim_open {row : ImDelivery}
    (run : requireClaim row attempts claimGeneration workerId utcNow = .ok attempt)
    (known : row.status ≠ .unknown) : row.status = .processing
      ∨ row.claimGeneration = 0 ∧ (row.status = .pending ∨ row.status = .failed) := by
  rcases requireClaim_cases run with ⟨_, _, zero, status⟩ | ⟨_, _, _, _, processing, _⟩
  · rcases status with pending | failed | unknown
    · exact .inr ⟨zero, Or.inl pending⟩
    · exact .inr ⟨zero, Or.inr failed⟩
    · exact absurd unknown known
  · exact .inl processing

lemma markUnknown_cases (run : markUnknown args ledger = .ok after) :
    Change settings (.markUnknown args) ledger.delivery after.delivery := by
  unfold markUnknown at run
  split at run
  · cases run
  next row opened =>
  rw [openReport_delivery opened]
  split_ifs at run with settled
  · cases run
    rw [openReport_delivery opened]
    exact Change.unchanged _
  · push Not at settled
    split at run
    · cases run
    next attempt required =>
    cases run
    exact Change.held row _ (requireClaim_open required settled.2) rfl rfl rfl

lemma fail_cases {args : FailArgs} (run : fail settings args ledger = .ok after) :
    Change settings (.fail args) ledger.delivery after.delivery := by
  unfold fail at run
  split at run
  · cases run
  next row opened =>
  rw [openReport_delivery opened]
  split_ifs at run with isSent isUnknown
  · cases run
    rw [openReport_delivery opened]
    exact Change.unchanged _
  · split at run
    · cases run
    · next required =>
      cases run
      exact Change.held row _ (requireClaim_open required isUnknown) rfl rfl rfl
    · next attempt required =>
      cases run
      rcases requireClaim_cases required with ⟨missing, _⟩ | found
      · cases missing
      obtain ⟨_, worker, expires, _, processing, reported, named, owner, lease, unexpired⟩ := found
      exact Change.failed row _ args rfl processing worker expires reported named owner
        lease unexpired rfl rfl rfl

lemma reconcile_cases {args : ReconcileArgs} (run : reconcile settings args ledger = .ok after) :
    Change settings (.reconcile args) ledger.delivery after.delivery := by
  unfold reconcile at run
  split_ifs at run with denied
  split at run
  · cases run
  next row found =>
  have existing := getForUpdate_delivery found
  split at run
  · cases run
  unfold reconcileRow at run
  split_ifs at run with invalid known eq missing extra
  · cases run
    exact Change.unchanged _
  · have unknown : row.status = .unknown := not_not.1 known
    simp only at run
    cases run
    rw [existing]
    by_cases sent : args.normalizedOutcome = "SENT"
    · refine Change.sent row _ (by simp [unknown]) ?_ ?_ ?_ <;> simp [reconcileDelivery, sent]
    push Not at invalid
    refine Change.confirmedUnsent row _ args rfl unknown
      (invalid.2.resolve_left sent) ?_ ?_ ?_ <;> simp [reconcileDelivery, sent]

lemma perform_cases {action : Action} (run : perform settings ledger action = .ok after) :
    Change settings action ledger.delivery after.delivery := by
  cases action with
  | prepare args =>
    obtain ⟨⟨next, result⟩, prepared, rfl⟩ := of_map_ok run
    exact prepare_cases prepared
  | claim args =>
    obtain ⟨⟨next, result⟩, claimed, rfl⟩ := of_map_ok run
    exact claim_cases claimed
  | complete args vendorMessageId => exact complete_cases run
  | markUnknown args => exact markUnknown_cases run
  | fail args => exact fail_cases run
  | reconcile args => exact reconcile_cases run

end

/-! ## The row read as a permit -/

/-- The row invariant behind the permit: both counters count the same claims, and a
PROCESSING row was claimed. -/
def RowWF : Option ImDelivery → Prop
  | none => True
  | some row => row.claimGeneration = row.sendAttemptCount
      ∧ (row.status = .processing → 0 < row.claimGeneration)

def WellFormed (ledger : Ledger) : Prop := RowWF ledger.delivery

def rowPermit : Option ImDelivery → Permit (Option String)
  | none => .idle 0
  | some row =>
    match row.status with
    | .sent => .settled row.claimGeneration row.vendorMessageId
    | .processing => .outstanding row.claimGeneration
    | .unknown =>
      if row.claimGeneration = 0 then .idle 0 else .outstanding row.claimGeneration
    | _ => .idle row.claimGeneration

def permit (ledger : Ledger) : Permit (Option String) := rowPermit ledger.delivery

def generation (ledger : Ledger) : Nat := ledger.delivery.elim 0 (·.claimGeneration)

lemma permit_generation (ledger : Ledger) : (permit ledger).generation = generation ledger := by
  unfold permit generation
  cases ledger.delivery with
  | none => rfl
  | some row =>
    cases status : row.status <;> simp only [rowPermit, status, Option.elim] <;> try rfl
    split_ifs with zero
    · exact zero.symm
    · rfl

section
variable {settings : Settings} {action : Action} {row next : Option ImDelivery}

lemma change_preserves_rowWF (change : Change settings action row next) (wf : RowWF row) :
    RowWF next := by
  cases change with
  | unchanged => exact wf
  | created next status generation sends => exact ⟨by omega, fun h => by simp [status] at h⟩
  | createdGranted next status generation sends => exact ⟨by omega, fun _ => by omega⟩
  | refreshed row next ready status generation sends receipt =>
    obtain ⟨eq, claimed⟩ := wf
    refine ⟨by omega, fun processing => ?_⟩
    rw [status] at processing
    split_ifs at processing
    rw [generation]
    exact claimed processing
  | granted row next ready status generation sends =>
    obtain ⟨eq, _⟩ := wf
    exact ⟨by omega, fun _ => by omega⟩
  | refused _ _ _ status | held _ _ _ status | sent _ _ _ status =>
    obtain ⟨eq, _⟩ := wf
    exact ⟨by omega, fun h => by simp [status] at h⟩
  | failed row next args byFail processing worker expires reported named owner lease unexpired
      status generation sends =>
      obtain ⟨eq, _⟩ := wf
      exact ⟨by omega, fun h => by simp [status] at h⟩
  | confirmedUnsent row next args byReconcile unknown outcome status generation sends =>
    obtain ⟨eq, _⟩ := wf
    exact ⟨by omega, fun h => by simp [status] at h⟩

lemma rowPermit_idle {row : ImDelivery} (ready : row.status = .pending ∨ row.status = .failed) :
    rowPermit (some row) = .idle row.claimGeneration := by
  rcases ready with status | status <;> simp [rowPermit, status]

lemma rowPermit_unsettled {row : ImDelivery} (unsent : row.status ≠ .sent) :
    ¬ (rowPermit (some row)).Settled := by
  cases status : row.status with
  | sent => exact absurd status unsent
  | unknown => by_cases zero : row.claimGeneration = 0 <;> simp [rowPermit, status, zero, Permit.Settled]
  | pending | processing | failed => simp [rowPermit, status, Permit.Settled]

lemma rowPermit_generation (row : ImDelivery) :
    (rowPermit (some row)).generation = row.claimGeneration :=
  permit_generation ⟨some row, []⟩

lemma change_permitStep (change : Change settings action row next) (wf : RowWF row) :
    PermitStep (rowPermit row) (rowPermit next) := by
  cases change with
  | unchanged => exact PermitStep.stay _
  | created next status generation sends =>
    rw [rowPermit_idle (Or.inl status), generation]
    exact PermitStep.stay _
  | createdGranted next status generation sends =>
    have outstanding : rowPermit (some next) = .outstanding (0 + 1) := by
      simp [rowPermit, status, generation]
    rw [outstanding]
    exact PermitStep.issue 0
  | refreshed row next ready status generation sends receipt =>
    rcases ready with sent | ⟨_, open_⟩
    · have eq : rowPermit (some next) = rowPermit (some row) := by
        simp [rowPermit, status, sent, generation, receipt]
      rw [eq]
      exact PermitStep.stay _
    · have nextOpen : next.status = .pending ∨ next.status = .failed := by
        rcases open_ with pending | failed
        · simp [status, pending]
        simp [status, failed]
      rw [rowPermit_idle open_, rowPermit_idle nextOpen, generation]
      exact PermitStep.stay _
  | granted row next ready status generation sends =>
    have outstanding : rowPermit (some next) = .outstanding (row.claimGeneration + 1) := by
      simp [rowPermit, status, generation]
    rw [rowPermit_idle ready, outstanding]
    exact PermitStep.issue _
  | refused row next ready status generation sends =>
    rw [rowPermit_idle ready, rowPermit_idle (Or.inr status), generation]
    exact PermitStep.stay _
  | held row next open_ status generation sends =>
    rcases open_ with processing | ⟨zero, ready⟩
    · have positive := wf.2 processing
      have eq : rowPermit (some next) = rowPermit (some row) := by
        simp [rowPermit, status, processing, generation, Nat.pos_iff_ne_zero.1 positive]
      rw [eq]
      exact PermitStep.stay _
    · have idle : rowPermit (some next) = .idle 0 := by
        simp [rowPermit, status, generation, zero]
      rw [rowPermit_idle ready, idle, zero]
      exact PermitStep.stay _
  | sent row next unsent status generation sends =>
    have settled : rowPermit (some next) =
        .settled (rowPermit (some row)).generation next.vendorMessageId := by
      rw [rowPermit_generation]
      simp [rowPermit, status, generation]
    rw [settled]
    exact PermitStep.settle _ _ (rowPermit_unsettled unsent)
  | failed row next args byFail processing worker expires reported named owner lease unexpired
      status generation sends =>
      have outstanding : rowPermit (some row) = .outstanding row.claimGeneration := by
        simp [rowPermit, processing]
      rw [outstanding, rowPermit_idle (Or.inr status), generation]
      exact PermitStep.close _
  | confirmedUnsent row next args byReconcile unknown outcome status generation sends =>
    by_cases zero : row.claimGeneration = 0
    · have idle : rowPermit (some row) = .idle row.claimGeneration := by
        simp [rowPermit, unknown, zero]
      rw [idle, rowPermit_idle (Or.inr status), generation]
      exact PermitStep.stay _
    · have outstanding : rowPermit (some row) = .outstanding row.claimGeneration := by
        simp [rowPermit, unknown, zero]
      rw [outstanding, rowPermit_idle (Or.inr status), generation]
      exact PermitStep.close _

end

section
variable {settings : Settings}

variable {before : Ledger} {moves : List (Move Ledger Action)} {granted : Nat}
  {receipt : Option String}

lemma step_change {after : Ledger} {action : Action}
    (step : (service settings).step before action after) :
    Change settings action before.delivery after.delivery := by
  rcases step with committed | rolledBack
  · exact perform_cases committed
  rw [rolledBack]
  exact Change.unchanged _

lemma step_preserves_wellFormed (before : Ledger) (action : Action) (after : Ledger)
    (wf : WellFormed before) (step : (service settings).step before action after) :
    WellFormed after :=
  change_preserves_rowWF (step_change step) wf

lemma step_permitStep (before : Ledger) (action : Action) (after : Ledger)
    (wf : WellFormed before) (step : (service settings).step before action after) :
    (permits (Option String)).step (permit before) () (permit after) :=
  change_permitStep (step_change step) wf

variable {first last : Ledger}

lemma permit_path (path : Path (service settings) first moves last) (wf : WellFormed first) :
    Path (permits (Option String)) (permit first)
      (moves.map (Move.map permit fun _ => ())) (permit last) :=
  path.simulate step_preserves_wellFormed step_permitStep wf

def IsGrant (move : Move Ledger Action) : Prop :=
  generation move.before < generation move.after

/-- A fail report that carries the generation of the grant, the current lease owner
and a lease that has not expired. -/
def FailsGrant (granted : Nat) (move : Move Ledger Action) : Prop :=
  ∃ args row worker expires, move.action = .fail args ∧ move.before.delivery = some row ∧
    row.status = .processing ∧ row.claimGeneration = granted ∧
    args.report.claimGeneration = some granted ∧ args.report.workerId = some worker ∧
    row.leaseOwner = some (strip worker) ∧ row.leaseExpiresAt = some expires ∧
    args.report.utcNow < expires

/-- A reconciliation of the grant with outcome CONFIRMED_UNSENT. -/
def ReconcilesUnsent (granted : Nat) (move : Move Ledger Action) : Prop :=
  ∃ args row, move.action = .reconcile args ∧ move.before.delivery = some row ∧
    row.status = .unknown ∧ row.claimGeneration = granted ∧
    args.normalizedOutcome = "CONFIRMED_UNSENT"

def ClosesGrant (settings : Settings) (granted : Nat) (move : Move Ledger Action) : Prop :=
  perform settings move.before move.action = .ok move.after ∧
    (FailsGrant granted move ∨ ReconcilesUnsent granted move)

lemma closesGrant_of_permit {move : Move Ledger Action} (wf : WellFormed move.before)
    (step : (service settings).step move.before move.action move.after)
    (outstanding : permit move.before = .outstanding granted)
    (idle : permit move.after = .idle granted) : ClosesGrant settings granted move := by
  obtain ⟨before, action, after⟩ := move
  have committed : perform settings before action = .ok after := by
    rcases step with committed | rolledBack
    · exact committed
    dsimp only at outstanding idle rolledBack
    rw [rolledBack, outstanding] at idle
    cases idle
  refine ⟨committed, ?_⟩
  have change := perform_cases committed
  have generationSame : generation before = granted := by
    rw [← permit_generation, outstanding]
    rfl
  unfold permit at outstanding idle
  unfold WellFormed at wf
  dsimp only at outstanding idle wf
  generalize rowBefore : before.delivery = row at change outstanding wf
  generalize rowAfter : after.delivery = next at change idle
  have rowGeneration : ∀ delivery : ImDelivery, row = some delivery →
      delivery.claimGeneration = granted := by
    intro delivery eq
    rw [generation, rowBefore, eq] at generationSame
    exact generationSame
  cases change with
  | unchanged =>
    rw [outstanding] at idle
    cases idle
  | created | createdGranted => cases outstanding
  | refreshed row next ready status generation sends receipt =>
    rcases ready with sent | ⟨_, open_⟩
    · simp [rowPermit, sent] at outstanding
    rw [rowPermit_idle open_] at outstanding
    cases outstanding
  | granted _ _ ready | refused _ _ ready =>
    rw [rowPermit_idle ready] at outstanding
    cases outstanding
  | held row next open_ status nextGeneration =>
    -- an outstanding row that is held stays outstanding
    rcases open_ with processing | ⟨_, ready⟩
    · have positive := wf.2 processing
      rw [← nextGeneration] at positive
      simp [rowPermit, status, Nat.pos_iff_ne_zero.1 positive] at idle
    · rw [rowPermit_idle ready] at outstanding
      cases outstanding
  | sent row next unsent status =>
    simp [rowPermit, status] at idle
  | failed row next args byFail processing worker expires reported named owner lease unexpired =>
    have eq := rowGeneration row rfl
    exact .inl ⟨args, row, worker, expires, byFail, rowBefore, processing, eq,
      by rw [reported, eq], named, owner, lease, unexpired⟩
  | confirmedUnsent row next args byReconcile unknown outcome =>
    exact .inr ⟨args, row, byReconcile, rowBefore, unknown, rowGeneration row rfl, outcome⟩

lemma grant_permits {after : Ledger} {action : Action} (wf : WellFormed before)
    (step : (service settings).step before action after) (grant : IsGrant ⟨before, action, after⟩) :
    permit before = .idle (generation before) ∧ permit after = .outstanding (generation after) := by
  have raised : (permit before).generation < (permit after).generation := by
    rw [permit_generation, permit_generation]
    exact grant
  obtain ⟨idle, outstanding⟩ :=
    PermitStep.of_generation_lt (step_permitStep before action after wf step) raised
  have issued : generation after = generation before + 1 := by
    rw [← permit_generation, ← permit_generation, outstanding]
    rfl
  rw [permit_generation] at idle outstanding
  exact ⟨idle, by rw [outstanding, issued]⟩

lemma exists_close_between {earlier between later : List (Move Ledger Action)}
    {grant regrant : Move Ledger Action} (wf : WellFormed first)
    (path : Path (service settings) first (earlier ++ grant :: between ++ regrant :: later) last)
    (issued : IsGrant grant) (reissued : IsGrant regrant) :
    ∃ close ∈ between, ClosesGrant settings (generation grant.after) close := by
  obtain ⟨leading, regrantStep, -⟩ := path.split_move
  obtain ⟨before, grantStep, middle⟩ := leading.split_move
  have wfGrant : WellFormed grant.before := before.preserved step_preserves_wellFormed wf
  have wfAfter : WellFormed grant.after := step_preserves_wellFormed _ _ _ wfGrant grantStep
  have wfRegrant : WellFormed regrant.before := middle.preserved step_preserves_wellFormed wfAfter
  have outstanding := (grant_permits wfGrant grantStep issued).2
  have idle : permit regrant.before = .idle (permit regrant.before).generation := by
    rw [permit_generation]
    exact (grant_permits wfRegrant regrantStep reissued).1
  obtain ⟨abstract, mem, opened, closed⟩ :=
    (permit_path middle wfAfter).exists_close outstanding idle
  obtain ⟨close, closeMember, rfl⟩ := List.mem_map.1 mem
  have wfClose : WellFormed close.before := by
    obtain ⟨left, right, rfl⟩ := List.append_of_mem closeMember
    exact middle.split_move.1.preserved step_preserves_wellFormed wfAfter
  exact ⟨close, closeMember, closesGrant_of_permit wfClose (middle.step_of_mem closeMember)
    opened closed⟩

def Sent (ledger : Ledger) (receipt : Option String) : Prop :=
  ∃ row, ledger.delivery = some row ∧ row.status = .sent ∧ row.vendorMessageId = receipt

lemma sent_of_settled {ledger : Ledger} (settled : permit ledger = .settled granted receipt) :
    Sent ledger receipt := by
  unfold permit at settled
  cases existing : ledger.delivery with
  | none =>
    rw [existing] at settled
    cases settled
  | some row =>
    rw [existing] at settled
    cases status : row.status with
    | sent =>
      simp only [rowPermit, status, Permit.settled.injEq] at settled
      exact ⟨row, existing, status, settled.2⟩
    | pending => simp [rowPermit, status] at settled
    | processing => simp [rowPermit, status] at settled
    | failed => simp [rowPermit, status] at settled
    | unknown => by_cases zero : row.claimGeneration = 0 <;> simp [rowPermit, status, zero] at settled

lemma sent_final (wf : WellFormed first) (path : Path (service settings) first moves last)
    (sent : Sent first receipt) : Sent last receipt ∧ ∀ move ∈ moves, ¬ IsGrant move := by
  have settled : permit first = .settled (generation first) receipt := by
    obtain ⟨row, existing, status, eq⟩ := sent
    simp [permit, generation, existing, rowPermit, status, eq]
  have final : ∀ {target : Ledger} {steps : List (Move Ledger Action)},
      Path (service settings) first steps target →
      permit target = .settled (generation first) receipt :=
    fun run => (permit_path run wf).settled_final settled
  refine ⟨sent_of_settled (final path), fun move mem grant => ?_⟩
  obtain ⟨left, right, rfl⟩ := List.append_of_mem mem
  obtain ⟨before, step, -⟩ := path.split_move
  have wfBefore : WellFormed move.before := before.preserved step_preserves_wellFormed wf
  have idle := (grant_permits wfBefore step grant).1
  rw [final before] at idle
  cases idle

/-- At-most-once send grants, over every run of the service on one delivery. -/
theorem sendGrants_atMostOnce (settings : Settings) {start final : Ledger}
    {moves : List (Move Ledger Action)} (initial : (service settings).init start)
    (path : Path (service settings) start moves final) :
    (∀ earlier grant between regrant later, moves = earlier ++ grant :: between ++ regrant :: later →
      IsGrant grant → (∀ move ∈ between, ¬ IsGrant move) → IsGrant regrant →
      ∃ close ∈ between, ClosesGrant settings (generation grant.after) close) ∧
    (∀ before after middle receipt, moves = before ++ after →
      Path (service settings) start before middle → Path (service settings) middle after final →
      Sent middle receipt → Sent final receipt ∧ ∀ move ∈ after, ¬ IsGrant move) := by
  have wf : WellFormed start := by
    rw [initial]
    trivial
  constructor
  · rintro earlier grant between regrant later rfl issued - reissued
    exact exists_close_between wf path issued reissued
  intro before after middle receipt _ leading trailing sent
  exact sent_final (leading.preserved step_preserves_wellFormed wf) trailing sent

instance (move : Move Ledger Action) : Decidable (IsGrant move) :=
  inferInstanceAs (Decidable (_ < _))

end

def sampleSettings : Settings := ⟨60, 5, 120, seconds 1, seconds 60⟩

def sampleUser : Principal := ⟨.repeating 0, .repeating 1, ["*"]⟩

def samplePayload : AuthorizedPayload :=
  { channel := "feishu", conversationId := "oc_1", text := "42"
    fingerprint := "73475cb40a568e8da8a045ced110137e159f890ac4da883b6b17dc651b3a8049"
    snapshot := ⟨.legacy, none, none, none, none, sampleUser.id, "oc_1", some "ou_1", false⟩
    decisionId := .repeating 2 }

def sampleRun : RunTurn :=
  ⟨.repeating 3, .repeating 4, sampleUser.id⟩

def samplePrepare : Action :=
  .prepare ⟨sampleUser, none, some sampleRun, .ok samplePayload, .repeating 5, 0⟩

def sampleClaim (now : Time) : Action :=
  .claim ⟨sampleUser, "Feishu", "worker-1 ", now, true, 0, true, some sampleRun, .ok sampleUser,
    .ok sampleUser, .ok samplePayload⟩

def sampleFail : Action :=
  .fail
    { report := ⟨sampleUser, .repeating 5, true, some 1, some "worker-1", 2, 2⟩
      failureCode := "vendor_rate_limited" }

def sampleActions : List Action :=
  [samplePrepare, sampleClaim 1, sampleFail, sampleClaim (seconds 10)]

theorem sendGrants_atMostOnce_retry : ∃ earlier grant between regrant,
      trace sampleSettings ⟨none, []⟩ sampleActions
        = earlier ++ grant :: between ++ regrant :: [] ∧
      IsGrant grant ∧ IsGrant regrant ∧
      ∃ close ∈ between, ClosesGrant sampleSettings (generation grant.after) close :=
  ⟨[_], _, [_], _, rfl, by decide, by decide,
    (sendGrants_atMostOnce sampleSettings rfl (trace_path sampleSettings _ sampleActions)).1
      [_] _ [_] _ [] rfl (by decide) (by simp only [List.forall_mem_singleton]; decide) (by decide)⟩

end Obsion.Im
