import Obsion.Im.Grants

/-! # A delivery and its attempts

Every operation appends the attempt of a new grant, or closes the current attempt
together with its delivery, or writes a delivery that no attempt is open for. -/

namespace Obsion.Im

open Obsion.Lib

structure Consistent (settings : Settings) (delivery : ImDelivery)
    (attempts : List ImDeliveryAttempt) : Prop where
  generation : delivery.claimGeneration = delivery.sendAttemptCount
  ordinals : attempts.map ImDeliveryAttempt.ordinal = List.range' 1 delivery.sendAttemptCount
  last : ∀ attempt ∈ attempts, attempt.status = .processing →
    attempt.ordinal = delivery.sendAttemptCount
  leased : (∃ attempt ∈ attempts, attempt.status = .processing) ↔
    delivery.status = .processing ∧ delivery.leaseOwner.isSome ∧ delivery.leaseExpiresAt.isSome
  processing : delivery.status = .processing →
    delivery.leaseOwner.isSome ∧ delivery.leaseExpiresAt.isSome
  bounded : delivery.sendAttemptCount ≤ settings.imDeliveryMaxAttempts
  receipt : delivery.status = .sent ↔ delivery.vendorMessageId.isSome

def Ledger.Consistent (settings : Settings) (ledger : Ledger) : Prop :=
  (ledger.delivery = none → ledger.attempts = []) ∧ ∀ delivery, ledger.delivery = some delivery →
      Im.Consistent settings delivery ledger.attempts

section
variable {settings : Settings} {ledger after : Ledger} {delivery next : ImDelivery}
  {attempts : List ImDeliveryAttempt}

lemma Ledger.Consistent.of_some (consistent : Im.Consistent settings delivery attempts) :
    Ledger.Consistent settings ⟨some delivery, attempts⟩ := by
  refine ⟨fun missing => absurd missing (Option.some_ne_none _), fun found eq => ?_⟩
  cases eq
  exact consistent

lemma Consistent.idle (consistent : Consistent settings delivery attempts)
    (status : delivery.status ≠ .processing) : ∀ attempt ∈ attempts, attempt.status ≠ .processing :=
  fun attempt mem open_ => status (consistent.leased.1 ⟨attempt, mem, open_⟩).1

/-- What is written of a delivery that no attempt is open for. -/
structure Closing (delivery next : ImDelivery) : Prop where
  status : next.status ≠ .processing
  generation : next.claimGeneration = delivery.claimGeneration
  sends : next.sendAttemptCount = delivery.sendAttemptCount
  receipt : next.status = .sent ↔ next.vendorMessageId.isSome

section
variable (consistent : Consistent settings delivery attempts)
include consistent

lemma Consistent.close {written : List ImDeliveryAttempt}
    (ordinals : written.map ImDeliveryAttempt.ordinal = attempts.map ImDeliveryAttempt.ordinal)
    (closed : ∀ attempt ∈ written, attempt.status ≠ .processing) (closing : Closing delivery next) :
    Consistent settings next written where
  generation := by rw [closing.generation, closing.sends, consistent.generation]
  ordinals := by rw [ordinals, closing.sends, consistent.ordinals]
  last attempt mem open_ := absurd open_ (closed attempt mem)
  leased := ⟨fun ⟨attempt, mem, open_⟩ => absurd open_ (closed attempt mem),
    fun leased => absurd leased.1 closing.status⟩
  processing open_ := absurd open_ closing.status
  bounded := by rw [closing.sends]; exact consistent.bounded
  receipt := closing.receipt

lemma Consistent.update (idle : delivery.status ≠ .processing) (closing : Closing delivery next) :
    Consistent settings next attempts :=
  consistent.close rfl (consistent.idle idle) closing

lemma Consistent.closeCurrent {change : ImDeliveryAttempt → ImDeliveryAttempt}
    (ordinal : ∀ attempt, (change attempt).ordinal = attempt.ordinal)
    (closed : ∀ attempt ∈ attempts, (change attempt).status ≠ .processing)
    (closing : Closing delivery next) : Consistent settings next
      (saveAttempt? ((currentAttempt delivery attempts).map change) attempts) := by
  cases current : currentAttempt delivery attempts with
  | none =>
    refine consistent.close rfl (fun attempt mem open_ => ?_) closing
    have eq := consistent.last attempt mem open_
    have numbered : attempt.ordinal ∈ List.range' 1 delivery.sendAttemptCount :=
      consistent.ordinals ▸ List.mem_map_of_mem mem
    have counted := List.mem_range'_1.1 numbered
    unfold currentAttempt at current
    rw [if_neg (by omega), List.find?_eq_none] at current
    exact current attempt mem (beq_iff_eq.2 eq)
  | some attempt =>
    unfold currentAttempt at current
    split_ifs at current
    have eq : attempt.ordinal = delivery.sendAttemptCount := by
      simpa using List.find?_some current
    have present := List.mem_of_find?_eq_some current
    refine consistent.close ?_ ?_ closing
    · simp only [Option.map_some, saveAttempt?, saveAttempt, List.map_map]
      refine List.map_congr_left fun row mem => ?_
      simp only [Function.comp_apply]
      split_ifs with found
      · exact found.symm
      · rfl
    · intro row mem
      obtain ⟨before, stored, rfl⟩ := List.mem_map.1 mem
      split_ifs with found
      · exact closed attempt present
      · intro open_
        exact found (by rw [ordinal, eq]; exact consistent.last before stored open_)

lemma Consistent.unsent (status : delivery.status = .pending ∨ delivery.status = .failed) :
    delivery.status ≠ .processing ∧ ¬ delivery.vendorMessageId.isSome := by
  rw [← consistent.receipt]
  rcases status with pending | failed
  · simp [pending]
  · simp [failed]

lemma Consistent.grant (status : delivery.status = .pending ∨ delivery.status = .failed)
    (left : delivery.sendAttemptCount < settings.imDeliveryMaxAttempts) (workerId : String)
    (decisionId : Uuid) (snapshot : RecipientSnapshot) (now : Time) : Ledger.Consistent settings
      (claimPreparedDelivery settings delivery attempts workerId decisionId snapshot now) := by
  obtain ⟨known, unsent⟩ := consistent.unsent status
  refine Ledger.Consistent.of_some ⟨congrArg (· + 1) consistent.generation, ?_, ?_, ?_,
    fun _ => ⟨rfl, rfl⟩, left, ?_⟩
  · rw [List.map_append, consistent.ordinals]
    simp only [Im.grant, List.range'_1_concat, List.map_cons, List.map_nil, grantAttempt,
      Nat.add_comm 1]
  · intro attempt mem open_
    rcases List.mem_append.1 mem with older | newest
    · exact absurd open_ (consistent.idle known attempt older)
    · rw [List.mem_singleton.1 newest]
      rfl
  · refine ⟨fun _ => ⟨rfl, rfl, rfl⟩, fun _ => ⟨_, List.mem_append_right _ List.mem_cons_self, rfl⟩⟩
  · simpa [Im.grant] using unsent

end

lemma prepare_consistent (positive : 1 ≤ settings.imDeliveryMaxAttempts)
    (consistent : ledger.Consistent settings) {args : PrepareArgs} {result : Option PreparedDelivery}
    (run : prepare settings args ledger = .ok (after, result)) : after.Consistent settings := by
  have claimed : ∀ {worker : Option String} {row : ImDelivery} {decisionId : Uuid}
      {snapshot : RecipientSnapshot}, Im.Consistent settings row ledger.attempts →
      (row.status = .sent ∨ row.sendAttemptCount = 0 ∧ row.status = .pending) →
      Ledger.Consistent settings
        (prepareClaim settings worker decisionId snapshot args.now row ledger.attempts) := by
    intro worker row decisionId snapshot kept ready
    unfold prepareClaim
    split
    · exact Ledger.Consistent.of_some kept
    split_ifs with sent
    · exact Ledger.Consistent.of_some kept
    · obtain ⟨zero, pending⟩ := ready.resolve_left sent
      exact kept.grant (Or.inl pending) (by omega) _ _ _ _
  unfold prepare at run
  simp only at run
  split_ifs at run
  split at run
  · cases run
  split_ifs at run
  split at run
  · cases run
  split at run
  · cases run
  next row prepared =>
  rw [← (Prod.mk.inj (Except.ok.inj run)).1]
  unfold prepareRow at prepared
  cases existing : ledger.delivery with
  | none =>
    rw [existing] at prepared
    cases prepared
    apply claimed _ (Or.inr ⟨rfl, rfl⟩)
    rw [consistent.1 existing]
    exact
      { generation := rfl, ordinals := rfl, last := fun _ mem => absurd mem List.not_mem_nil
        leased := by simp [newDelivery]
        processing := by simp [newDelivery]
        bounded := Nat.zero_le _, receipt := by simp [newDelivery] }
  | some delivery =>
    rw [existing] at prepared
    have kept := consistent.2 delivery existing
    obtain ⟨ready, status, generation, sends, receipt⟩ := prepareExisting_cases prepared
    have known : delivery.status ≠ .processing := by
      rcases ready with sent | ⟨-, pending | failed⟩
      · simp [sent]
      · simp [pending]
      · simp [failed]
    have settled : row.status ≠ .processing ∧ (row.status = .sent ↔ delivery.status = .sent) := by
      rw [status]
      split_ifs with failed
      · simp [failed]
      · exact ⟨known, Iff.rfl⟩
    apply claimed
    · exact kept.update known ⟨settled.1, generation, sends, by rw [settled.2, receipt]; exact kept.receipt⟩
    · rcases ready with sent | ⟨zero, open_⟩
      · exact .inl (settled.2.2 sent)
      · refine .inr ⟨sends.trans zero, ?_⟩
        rcases open_ with pending | failed
        · simp [status, pending]
        · simp [status, failed]

lemma expireOneClaim_consistent (consistent : ledger.Consistent settings) {organizationId : Uuid}
    {channel : String} {now : Time} {returnsRow : Bool} :
    (expireOneClaim organizationId channel now returnsRow ledger).Consistent settings := by
  unfold expireOneClaim
  split
  · exact consistent
  next delivery existing =>
  split_ifs with expired
  · have kept := consistent.2 delivery existing
    have processing : delivery.status = .processing := by
      have selected := expired.2
      simp only [claimExpired, Bool.and_eq_true, beq_iff_eq] at selected
      exact selected.1.2
    have unsent : ¬ delivery.vendorMessageId.isSome := by
      rw [← kept.receipt, processing]
      decide
    refine Ledger.Consistent.of_some (kept.closeCurrent ?_ ?_
      ⟨by simp [expireDelivery], rfl, rfl, by simpa [expireDelivery] using unsent⟩)
    · intro attempt
      unfold expireAttempt
      split <;> rfl
    · intro attempt _
      unfold expireAttempt
      split
      · exact fun eq => by cases eq
      · assumption
  · exact consistent

lemma claim_consistent (consistent : ledger.Consistent settings) {args : ClaimArgs}
    {result : Option ClaimedDelivery}
    (run : claim settings args ledger = .ok (after, result)) : after.Consistent settings := by
  unfold claim at run
  simp only at run
  have expired := @expireOneClaim_consistent settings ledger consistent
    args.principal.organizationId (lower (strip args.channel)) args.now args.expiryReturnsRow
  split_ifs at run
  · rwa [← (Prod.mk.inj (Except.ok.inj run)).1]
  split at run
  · rwa [← (Prod.mk.inj (Except.ok.inj run)).1]
  next delivery existing =>
  split_ifs at run with selected
  · have ready := claimable_ready selected.2
    have kept := expired.2 delivery existing
    unfold claimRow at run
    split at run
    · split_ifs at run
      rw [← (Prod.mk.inj (Except.ok.inj run)).1]
      obtain ⟨known, unsent⟩ := kept.unsent ready
      exact Ledger.Consistent.of_some (kept.update known
        ⟨by simp [rejectClaim], rfl, rfl, by simpa [rejectClaim] using unsent⟩)
    · rw [← (Prod.mk.inj (Except.ok.inj run)).1]
      have left := selected.2
      simp only [claimable, Bool.and_eq_true, decide_eq_true_eq] at left
      exact kept.grant ready left.1.2 _ _ _ _
  · rwa [← (Prod.mk.inj (Except.ok.inj run)).1]

lemma Consistent.required (consistent : Consistent settings delivery attempts)
    {claimGeneration : Option Nat} {workerId : Option String} {utcNow : Time}
    {attempt : Option ImDeliveryAttempt}
    (run : requireClaim delivery attempts claimGeneration workerId utcNow = .ok attempt) :
    attempt = currentAttempt delivery attempts := by
  unfold requireClaim at run
  split_ifs at run with unclaimed legacy
  · cases run
    unfold currentAttempt
    rw [if_pos (consistent.generation ▸ legacy.2.1)]
  split at run
  · split_ifs at run
    split at run
    · cases run
    next found =>
    split_ifs at run
    cases run
    exact found.symm
  · cases run

lemma complete_consistent (consistent : ledger.Consistent settings) {args : ReportArgs}
    {vendorMessageId : String} (run : complete args vendorMessageId ledger = .ok after) :
    after.Consistent settings := by
  unfold complete at run
  split at run
  · cases run
  next delivery opened =>
  have kept := consistent.2 delivery (openReport_delivery opened)
  simp only at run
  split_ifs at run
  · cases run
    exact consistent
  split at run
  · cases run
  next attempt required =>
  cases run
  rw [kept.required required]
  exact Ledger.Consistent.of_some
    (kept.closeCurrent (fun _ => rfl) (fun _ _ => by simp) ⟨by simp, rfl, rfl, by simp⟩)

lemma markUnknown_consistent (consistent : ledger.Consistent settings) {args : ReportArgs}
    (run : markUnknown args ledger = .ok after) : after.Consistent settings := by
  unfold markUnknown at run
  split at run
  · cases run
  next delivery opened =>
  have kept := consistent.2 delivery (openReport_delivery opened)
  split_ifs at run with settled
  · cases run
    exact consistent
  split at run
  · cases run
  next attempt required =>
  cases run
  rw [kept.required required]
  have unsent : ¬ delivery.vendorMessageId.isSome :=
    fun some => settled (Or.inl (kept.receipt.2 some))
  exact Ledger.Consistent.of_some (kept.closeCurrent (fun _ => rfl) (fun _ _ => by simp)
      ⟨by simp, rfl, rfl, by simpa using unsent⟩)

lemma fail_consistent (consistent : ledger.Consistent settings) {args : FailArgs}
    (run : fail settings args ledger = .ok after) : after.Consistent settings := by
  unfold fail at run
  split at run
  · cases run
  next delivery opened =>
  have kept := consistent.2 delivery (openReport_delivery opened)
  split_ifs at run with sent unknown
  · cases run
    exact consistent
  have unsent : ¬ delivery.vendorMessageId.isSome := fun some => sent (kept.receipt.2 some)
  split at run
  · cases run
  · next required =>
    cases run
    rcases requireClaim_cases required with ⟨-, idle, -⟩ | ⟨_, _, _, missing, _⟩
    · exact Ledger.Consistent.of_some (kept.update idle
          ⟨by simp [holdLegacyFailure], rfl, rfl, by simpa [holdLegacyFailure] using unsent⟩)
    · cases missing
  · next attempt required =>
    cases run
    change Ledger.Consistent settings ⟨_, saveAttempt? ((some attempt).map fun row =>
      { row with
        status := .failed, failureCode := some args.failureCode
        completedAt := some args.report.now }) ledger.attempts⟩
    rw [kept.required required]
    exact Ledger.Consistent.of_some (kept.closeCurrent (fun _ => rfl) (fun _ _ => by simp)
      ⟨by simp [closeClaim], rfl, rfl, by simpa [closeClaim] using unsent⟩)

lemma reconcileAttempt_status (args : ReconcileArgs) (status : ImDeliveryStatus)
    (attempt : ImDeliveryAttempt) : (reconcileAttempt args status attempt).status =
      if attempt.status = .unknown then status else attempt.status := by
  unfold reconcileAttempt
  split <;> rfl

lemma reconcile_consistent (consistent : ledger.Consistent settings) {args : ReconcileArgs}
    (run : reconcile settings args ledger = .ok after) : after.Consistent settings := by
  unfold reconcile at run
  split_ifs at run
  split at run
  · cases run
  next delivery found =>
  have kept := consistent.2 delivery (getForUpdate_delivery found)
  split at run
  · cases run
  unfold reconcileRow at run
  split_ifs at run with invalid known eq missing extra
  · cases run
    exact consistent
  have unknown : delivery.status = .unknown := not_not.1 known
  cases run
  have closing : Closing delivery (reconcileDelivery settings args delivery) := by
    unfold reconcileDelivery
    split_ifs <;> constructor <;> simp
  refine Ledger.Consistent.of_some (kept.closeCurrent ?_ ?_ closing)
  · intro attempt
    unfold reconcileAttempt
    split <;> rfl
  · intro attempt mem
    rw [reconcileAttempt_status]
    split
    · exact closing.status
    · exact kept.idle (by simp [unknown]) attempt mem

lemma perform_consistent (positive : 1 ≤ settings.imDeliveryMaxAttempts)
    (consistent : ledger.Consistent settings) {action : Action}
    (run : perform settings ledger action = .ok after) : after.Consistent settings := by
  cases action with
  | prepare args =>
    obtain ⟨⟨next, result⟩, prepared, rfl⟩ := of_map_ok run
    exact prepare_consistent positive consistent prepared
  | claim args =>
    obtain ⟨⟨next, result⟩, claimed, rfl⟩ := of_map_ok run
    exact claim_consistent consistent claimed
  | complete args vendorMessageId => exact complete_consistent consistent run
  | markUnknown args => exact markUnknown_consistent consistent run
  | fail args => exact fail_consistent consistent run
  | reconcile args => exact reconcile_consistent consistent run

end

/-- Deliveries and attempts in every reachable state. -/
theorem deliveries_consistent (settings : Settings)
    (positive : 1 ≤ settings.imDeliveryMaxAttempts) {ledger : Ledger}
    (reached : Reachable (service settings) ledger) : ledger.Consistent settings := by
  refine reached.holds ?_ ?_
  · intro start initial
    rw [show start = ⟨none, []⟩ from initial]
    exact ⟨fun _ => rfl, fun delivery stored => absurd stored (Option.some_ne_none _).symm⟩
  · intro before action after consistent step
    rcases step with committed | rolledBack
    · exact perform_consistent positive consistent committed
    · rwa [rolledBack]

theorem deliveries_consistent_retry :
    ∃ (ledger : Ledger) (delivery : ImDelivery), ledger.delivery = some delivery ∧ delivery.sendAttemptCount = 2 ∧
      ledger.Consistent sampleSettings :=
  ⟨_, _, rfl, rfl, deliveries_consistent sampleSettings (by decide)
    ((trace_path sampleSettings ⟨none, []⟩ sampleActions).reachable rfl)⟩

end Obsion.Im
