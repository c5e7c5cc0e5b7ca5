import Obsion.Base.Python
import Obsion.Lib.Transition

/-! # The IM delivery ledger

`ImDeliveryService`: one `ImDelivery` row, its attempt rows, and the operations
that change them.  Every operation runs in one transaction that holds the row
lock, so it is a function of the row it reads; `.error` is a rolled-back
transaction.  What the operation reads elsewhere (the Run and Turn, the policy
decision, the other deliveries of the channel) is an argument. -/

namespace Obsion.Im

inductive ImDeliveryStatus
  | pending
  | processing
  | unknown
  | sent
  | failed
  deriving DecidableEq, Repr

inductive SnapshotKind
  | legacy
  | trusted
  deriving DecidableEq, Repr

structure RecipientSnapshot where
  kind : SnapshotKind
  inboxEventId : Option Uuid
  installationId : Option Uuid
  bindingId : Option Uuid
  audienceId : Option Uuid
  subjectUserId : Uuid
  conversationId : String
  senderId : Option String
  statusOnly : Bool
  deriving DecidableEq, Repr

structure ImDelivery where
  id : Uuid
  organizationId : Uuid
  runId : Uuid
  channel : String
  conversationId : String
  contentFingerprint : String
  status : ImDeliveryStatus
  policyDecisionId : Uuid
  requestedBy : Uuid
  attemptCount : Nat
  sendAttemptCount : Nat
  claimGeneration : Nat
  recipientSnapshot : Option RecipientSnapshot
  leaseOwner : Option String := none
  leaseExpiresAt : Option Time := none
  lastAttemptAt : Option Time := none
  nextAttemptAt : Option Time := none
  failureCode : Option String := none
  vendorMessageId : Option String := none
  deliveredAt : Option Time := none
  reconciliationRequiredAt : Option Time := none
  reconciledAt : Option Time := none
  reconciledBy : Option Uuid := none
  reconciliationOutcome : Option String := none
  reconciliationEvidence : Option String := none
  deriving DecidableEq, Repr

structure ImDeliveryAttempt where
  ordinal : Nat
  claimGeneration : Nat
  channel : String
  status : ImDeliveryStatus
  claimedBy : String
  leaseExpiresAt : Time
  policyDecisionId : Uuid
  recipientSnapshot : RecipientSnapshot
  contentFingerprint : String
  idempotencyKey : String
  vendorMessageId : Option String := none
  failureCode : Option String := none
  completedAt : Option Time := none
  reconciledAt : Option Time := none
  reconciledBy : Option Uuid := none
  reconciliationOutcome : Option String := none
  reconciliationEvidence : Option String := none
  deriving DecidableEq, Repr

structure Ledger where
  delivery : Option ImDelivery
  attempts : List ImDeliveryAttempt
  deriving DecidableEq, Repr

structure Settings where
  imDeliveryLeaseSeconds : Nat
  imDeliveryMaxAttempts : Nat
  imDeliveryRateLimitPerMinute : Nat
  imDeliveryBaseBackoff : Time
  imDeliveryMaxBackoff : Time
  deriving DecidableEq, Repr

structure RunTurn where
  runId : Uuid
  threadId : Uuid
  createdBy : Uuid
  deriving DecidableEq, Repr

structure AuthorizedPayload where
  channel : String
  conversationId : String
  text : String
  fingerprint : String
  snapshot : RecipientSnapshot
  decisionId : Uuid
  deriving DecidableEq, Repr

/-! ## Checks shared by the operations -/

def requireLineage (delivery : ImDelivery) (payload : AuthorizedPayload) :
    Except ObsionError Unit :=
  if delivery.channel ≠ payload.channel
      ∨ delivery.conversationId ≠ payload.conversationId
      ∨ delivery.contentFingerprint ≠ payload.fingerprint
      ∨ (delivery.recipientSnapshot.isSome
          ∧ delivery.recipientSnapshot ≠ some payload.snapshot) then
    .error (conflictError "im_delivery_lineage_changed"
      "The persisted IM delivery lineage does not match the completed Run")
  else .ok ()

def getForUpdate (principal : Principal) (deliveryId : Uuid) (ledger : Ledger) :
    Except ObsionError ImDelivery :=
  match ledger.delivery with
  | none => .error (notFoundError "IM delivery")
  | some delivery =>
    if delivery.id = deliveryId ∧ delivery.organizationId = principal.organizationId then
      .ok delivery
    else .error (notFoundError "IM delivery")

def authorizeReport (principal : Principal) (allowed : Bool) (delivery : ImDelivery) :
    Except ObsionError Unit :=
  if delivery.requestedBy ≠ principal.id then
    .error (authorizationError "im_delivery_denied"
      "Only the delivery requester can report its receipt")
  else if allowed then .ok ()
  else .error (authorizationError "im_delivery_denied"
      "IM delivery receipt reporting is not permitted")

def currentAttempt (delivery : ImDelivery) (attempts : List ImDeliveryAttempt) :
    Option ImDeliveryAttempt :=
  if delivery.sendAttemptCount = 0 then none
  else attempts.find? fun attempt => attempt.ordinal == delivery.sendAttemptCount

def saveAttempt (attempt : ImDeliveryAttempt) (attempts : List ImDeliveryAttempt) :
    List ImDeliveryAttempt :=
  attempts.map fun row => if row.ordinal = attempt.ordinal then attempt else row

def saveAttempt? (attempt : Option ImDeliveryAttempt) (attempts : List ImDeliveryAttempt) :
    List ImDeliveryAttempt :=
  match attempt with
  | none => attempts
  | some row => saveAttempt row attempts

/-- `none` is the legacy path: the delivery was never claimed. -/
def requireClaim (delivery : ImDelivery) (attempts : List ImDeliveryAttempt)
    (claimGeneration : Option Nat) (workerId : Option String) (utcNow : Time) :
    Except ObsionError (Option ImDeliveryAttempt) :=
  if delivery.status ≠ .processing then
    if claimGeneration.isNone ∧ delivery.claimGeneration = 0
        ∧ (delivery.status = .pending ∨ delivery.status = .failed ∨ delivery.status = .unknown)
    then .ok none
    else .error (conflictError "im_delivery_claim_stale"
      "The IM delivery claim is no longer current")
  else
    match claimGeneration, workerId, delivery.leaseExpiresAt with
    | some generation, some worker, some expires =>
      if delivery.claimGeneration ≠ generation
          ∨ delivery.leaseOwner ≠ some (strip worker) ∨ expires ≤ utcNow then
        .error (conflictError "im_delivery_claim_stale"
          "The IM delivery claim is missing, stale, or expired")
      else
        match currentAttempt delivery attempts with
        | none => .error (conflictError "im_delivery_claim_stale"
            "The IM delivery attempt does not match its claim")
        | some attempt =>
          if attempt.status ≠ .processing
              ∨ attempt.claimGeneration ≠ delivery.claimGeneration
              ∨ some attempt.claimedBy ≠ delivery.leaseOwner then
            .error (conflictError "im_delivery_claim_stale"
              "The IM delivery attempt does not match its claim")
          else .ok (some attempt)
    | _, _, _ => .error (conflictError "im_delivery_claim_stale"
        "The IM delivery claim is missing, stale, or expired")

def retryDelay (settings : Settings) (attempt : Nat) (retryAfter : Option Time) : Time :=
  let exponential := min settings.imDeliveryMaxBackoff
    (settings.imDeliveryBaseBackoff * 2 ^ (attempt - 1))
  let requested := max 0 (retryAfter.getD 0)
  min settings.imDeliveryMaxBackoff (max exponential requested)

/-- The lease of a new send grant, as `claim` and `_claim_prepared_delivery` write it. -/
def grant (settings : Settings) (delivery : ImDelivery) (workerId : String)
    (decisionId : Uuid) (snapshot : RecipientSnapshot) (now : Time) : ImDelivery :=
  { delivery with
    status := .processing, sendAttemptCount := delivery.sendAttemptCount + 1
    claimGeneration := delivery.claimGeneration + 1, leaseOwner := some workerId
    leaseExpiresAt := some (now + seconds settings.imDeliveryLeaseSeconds)
    lastAttemptAt := some now, nextAttemptAt := none, failureCode := none
    reconciliationRequiredAt := none
    recipientSnapshot := some (delivery.recipientSnapshot.getD snapshot)
    policyDecisionId := decisionId }

def grantAttempt (settings : Settings) (granted : ImDelivery) (workerId : String)
    (decisionId : Uuid) (snapshot : RecipientSnapshot) (now : Time) : ImDeliveryAttempt :=
  { ordinal := granted.sendAttemptCount, claimGeneration := granted.claimGeneration
    channel := granted.channel, status := .processing, claimedBy := workerId
    leaseExpiresAt := now + seconds settings.imDeliveryLeaseSeconds
    policyDecisionId := decisionId, recipientSnapshot := snapshot
    contentFingerprint := granted.contentFingerprint, idempotencyKey := granted.id.str }

def claimPreparedDelivery (settings : Settings) (delivery : ImDelivery)
    (attempts : List ImDeliveryAttempt) (workerId : String) (decisionId : Uuid)
    (snapshot : RecipientSnapshot) (now : Time) : Ledger :=
  let granted := grant settings delivery workerId decisionId snapshot now
  { delivery := some granted
    attempts := attempts ++ [grantAttempt settings granted workerId decisionId snapshot now] }

structure PrepareArgs where
  principal : Principal
  workerId : Option String
  runTurn : Option RunTurn
  payload : Except ObsionError AuthorizedPayload
  newId : Uuid
  now : Time

structure PreparedDelivery where
  id : Uuid
  runId : Uuid
  channel : String
  conversationId : String
  text : String
  contentFingerprint : String
  idempotencyKey : String
  status : ImDeliveryStatus
  attemptCount : Nat
  sendAttemptCount : Nat
  claimGeneration : Nat
  deriving DecidableEq, Repr

def preparedDelivery (delivery : ImDelivery) (text : String) : PreparedDelivery :=
  { id := delivery.id, runId := delivery.runId, channel := delivery.channel
    conversationId := delivery.conversationId, text := text
    contentFingerprint := delivery.contentFingerprint, idempotencyKey := delivery.id.str
    status := delivery.status, attemptCount := delivery.attemptCount
    sendAttemptCount := delivery.sendAttemptCount, claimGeneration := delivery.claimGeneration }

def newDelivery (args : PrepareArgs) (runTurn : RunTurn) (payload : AuthorizedPayload) :
    ImDelivery :=
  { id := args.newId, organizationId := args.principal.organizationId, runId := runTurn.runId
    channel := payload.channel, conversationId := payload.conversationId
    contentFingerprint := payload.fingerprint, status := .pending
    policyDecisionId := payload.decisionId, requestedBy := args.principal.id, attemptCount := 1
    sendAttemptCount := 0, claimGeneration := 0, recipientSnapshot := some payload.snapshot }

def trustedPending (delivery : ImDelivery) : Bool :=
  delivery.recipientSnapshot.any (fun snapshot => snapshot.kind == .trusted)
    && delivery.status == .pending && delivery.sendAttemptCount == 0

def reopenFailed (delivery : ImDelivery) : ImDelivery :=
  if delivery.status = .failed then
    { delivery with
      status := .pending, attemptCount := delivery.attemptCount + 1, failureCode := none
      nextAttemptAt := none }
  else delivery

/-- The `else` branch of `prepare`: a delivery row exists already. -/
def prepareExisting (stableWorker : Option String) (payload : AuthorizedPayload)
    (delivery : ImDelivery) : Except ObsionError ImDelivery :=
  match requireLineage delivery payload with
  | .error error => .error error
  | .ok () =>
    if stableWorker.isNone ∧ delivery.status ≠ .sent ∧ ¬ trustedPending delivery then
      .error (conflictError "im_delivery_receipt_conflict"
        "IM delivery requires receipt reconciliation before any further send")
    else if delivery.status = .unknown then
      .error (conflictError "operator_invocation_outcome_unknown"
        "The IM delivery outcome is unknown and requires reconciliation")
    else if delivery.status = .processing then
      .error (conflictError "im_delivery_in_progress"
        "The IM delivery is owned by an active Outbox claim")
    else if 0 < delivery.sendAttemptCount ∧ delivery.status ≠ .sent then
      .error (conflictError "im_delivery_managed_by_outbox"
        "The IM delivery retry is managed by the durable Outbox")
    else
      .ok { reopenFailed delivery with
        policyDecisionId := payload.decisionId
        recipientSnapshot := some (delivery.recipientSnapshot.getD payload.snapshot) }

def prepareRow (args : PrepareArgs) (stableWorker : Option String) (runTurn : RunTurn)
    (payload : AuthorizedPayload) (ledger : Ledger) : Except ObsionError ImDelivery :=
  match ledger.delivery with
  | none => .ok (newDelivery args runTurn payload)
  | some delivery => prepareExisting stableWorker payload delivery

def prepareClaim (settings : Settings) (stableWorker : Option String) (decisionId : Uuid)
    (snapshot : RecipientSnapshot) (now : Time) (delivery : ImDelivery)
    (attempts : List ImDeliveryAttempt) : Ledger :=
  match stableWorker with
  | none => ⟨some delivery, attempts⟩
  | some worker =>
    if delivery.status = .sent then ⟨some delivery, attempts⟩
    else claimPreparedDelivery settings delivery attempts worker decisionId snapshot now

def prepare (settings : Settings) (args : PrepareArgs) (ledger : Ledger) :
    Except ObsionError (Ledger × Option PreparedDelivery) :=
  let stableWorker := args.workerId.map strip
  if stableWorker = some "" then
    .error (conflictError "im_delivery_claim_invalid"
      "IM delivery claims require worker identity")
  else
    match args.runTurn with
    | none => .error (notFoundError "Run")
    | some runTurn =>
      if runTurn.createdBy ≠ args.principal.id ∧ ¬ args.principal.can "im.delegate" then
        .error (notFoundError "Run")
      else
        match args.payload with
        | .error error => .error error
        | .ok payload =>
          match prepareRow args stableWorker runTurn payload ledger with
          | .error error => .error error
          | .ok delivery =>
            let after := prepareClaim settings stableWorker payload.decisionId
              payload.snapshot args.now delivery ledger.attempts
            .ok (after, after.delivery.map fun row => preparedDelivery row payload.text)

/-! ## `claim` -/

structure ClaimArgs where
  principal : Principal
  channel : String
  workerId : String
  now : Time
  /-- The expiry query, ordered and skipping locked rows, returns this row if it matches. -/
  expiryReturnsRow : Bool
  /-- Attempts of the channel created in the last minute, over all deliveries. -/
  recentAttempts : Nat
  /-- The claim query, ordered and skipping locked rows, returns this row if it matches. -/
  queryReturnsRow : Bool
  runTurn : Option RunTurn
  creator : Except ObsionError Principal
  requester : Except ObsionError Principal
  payload : Except ObsionError AuthorizedPayload

structure ClaimedDelivery where
  id : Uuid
  runId : Uuid
  threadId : Uuid
  channel : String
  conversationId : String
  replyToSenderId : Option String
  text : String
  contentFingerprint : String
  idempotencyKey : String
  status : ImDeliveryStatus
  attemptCount : Nat
  sendAttemptCount : Nat
  claimGeneration : Nat
  leaseExpiresAt : Option Time
  deriving DecidableEq, Repr

def expireDelivery (delivery : ImDelivery) (now : Time) : ImDelivery :=
  { delivery with
    status := .unknown, failureCode := some "delivery_lease_expired"
    reconciliationRequiredAt := some now, nextAttemptAt := none, leaseOwner := none
    leaseExpiresAt := none }

def expireAttempt (attempt : ImDeliveryAttempt) (now : Time) : ImDeliveryAttempt :=
  if attempt.status = .processing then
    { attempt with
      status := .unknown, failureCode := some "delivery_lease_expired", completedAt := some now }
  else attempt

def claimExpired (organizationId : Uuid) (channel : String) (now : Time)
    (delivery : ImDelivery) : Bool :=
  delivery.organizationId == organizationId && delivery.channel == channel
    && delivery.status == .processing && delivery.leaseExpiresAt.any (fun expires => expires ≤ now)

def expireOneClaim (organizationId : Uuid) (channel : String) (now : Time)
    (returnsRow : Bool) (ledger : Ledger) : Ledger :=
  match ledger.delivery with
  | none => ledger
  | some delivery =>
    if returnsRow ∧ claimExpired organizationId channel now delivery then
      { delivery := some (expireDelivery delivery now)
        attempts := saveAttempt?
          ((currentAttempt delivery ledger.attempts).map fun attempt => expireAttempt attempt now)
          ledger.attempts }
    else ledger

def claimable (settings : Settings) (organizationId : Uuid) (channel : String) (now : Time)
    (delivery : ImDelivery) : Bool :=
  delivery.organizationId == organizationId && delivery.channel == channel
    && delivery.sendAttemptCount < settings.imDeliveryMaxAttempts
    && (delivery.status == .pending
      || (delivery.status == .failed && delivery.nextAttemptAt.any (fun next => next ≤ now)))

def authorizeClaim (args : ClaimArgs) (delivery : ImDelivery) :
    Except ObsionError (RunTurn × AuthorizedPayload) :=
  match args.runTurn with
  | none => .error (notFoundError "Run")
  | some runTurn =>
    match args.creator with
    | .error error => .error error
    | .ok _ =>
      match args.requester with
      | .error error => .error error
      | .ok requester =>
        if requester.id ≠ runTurn.createdBy ∧ ¬ requester.can "im.delegate" then
          .error (notFoundError "Run")
        else
          match args.payload with
          | .error error => .error error
          | .ok payload =>
            match requireLineage delivery payload with
            | .error error => .error error
            | .ok () => .ok (runTurn, payload)

/-- The exception classes that the `except` clause of `claim` turns into a refusal. -/
def refusesClaim (error : ObsionError) : Bool :=
  error.kind == .authorization || error.kind == .conflict || error.kind == .notFound

def rejectClaim (delivery : ImDelivery) (code : String) : ImDelivery :=
  { delivery with status := .failed, failureCode := some code, nextAttemptAt := none }

def claimedDelivery (delivery : ImDelivery) (runTurn : RunTurn) (payload : AuthorizedPayload) :
    ClaimedDelivery :=
  { id := delivery.id, runId := delivery.runId, threadId := runTurn.threadId
    channel := delivery.channel, conversationId := delivery.conversationId
    replyToSenderId := payload.snapshot.senderId, text := payload.text
    contentFingerprint := delivery.contentFingerprint, idempotencyKey := delivery.id.str
    status := delivery.status, attemptCount := delivery.attemptCount
    sendAttemptCount := delivery.sendAttemptCount, claimGeneration := delivery.claimGeneration
    leaseExpiresAt := delivery.leaseExpiresAt }

/-- `claim` after the expiry of one lease: refuse or grant the selected row. -/
def claimRow (settings : Settings) (args : ClaimArgs) (stableWorker : String)
    (delivery : ImDelivery) (attempts : List ImDeliveryAttempt) :
    Except ObsionError (Ledger × Option ClaimedDelivery) :=
  match authorizeClaim args delivery with
  | .error error =>
    if refusesClaim error then
      .ok (⟨some (rejectClaim delivery error.code), attempts⟩, none)
    else .error error
  | .ok (runTurn, payload) =>
    let granted := grant settings delivery stableWorker payload.decisionId payload.snapshot
      args.now
    let attempt := grantAttempt settings granted stableWorker payload.decisionId
      payload.snapshot args.now
    .ok (⟨some granted, attempts ++ [attempt]⟩, some (claimedDelivery granted runTurn payload))

def claim (settings : Settings) (args : ClaimArgs) (ledger : Ledger) :
    Except ObsionError (Ledger × Option ClaimedDelivery) :=
  if ¬ args.principal.can "im.delegate" then
    .error (authorizationError "im_delivery_denied" "IM Outbox claiming is not permitted")
  else
    let normalizedChannel := lower (strip args.channel)
    let stableWorker := strip args.workerId
    if normalizedChannel = "" ∨ stableWorker = "" then
      .error (conflictError "im_delivery_claim_invalid"
        "IM Outbox claims require channel and worker identity")
    else
      let expired := expireOneClaim args.principal.organizationId normalizedChannel args.now
        args.expiryReturnsRow ledger
      if settings.imDeliveryRateLimitPerMinute ≤ args.recentAttempts then .ok (expired, none)
      else
        match expired.delivery with
        | none => .ok (expired, none)
        | some delivery =>
          if args.queryReturnsRow ∧ claimable settings args.principal.organizationId
              normalizedChannel args.now delivery then
            claimRow settings args stableWorker delivery expired.attempts
          else .ok (expired, none)

structure ReportArgs where
  principal : Principal
  deliveryId : Uuid
  allowed : Bool
  claimGeneration : Option Nat
  workerId : Option String
  /-- `utc_now()` inside `_require_claim`. -/
  utcNow : Time
  now : Time

/-- The prologue of every report: lock the row, then authorize the reporter. -/
def openReport (args : ReportArgs) (ledger : Ledger) : Except ObsionError ImDelivery :=
  match getForUpdate args.principal args.deliveryId ledger with
  | .error error => .error error
  | .ok delivery =>
    match authorizeReport args.principal args.allowed delivery with
    | .error error => .error error
    | .ok () => .ok delivery

def complete (args : ReportArgs) (vendorMessageId : String) (ledger : Ledger) :
    Except ObsionError Ledger :=
  match openReport args ledger with
  | .error error => .error error
  | .ok delivery =>
    let messageId := strip vendorMessageId
    if messageId = "" ∨ messageId = delivery.id.str then
      .error (conflictError "im_delivery_receipt_conflict"
        "A real vendor receipt is required; local delivery ids are not receipts")
    else if delivery.status = .sent then
      if delivery.vendorMessageId ≠ some messageId then
        .error (conflictError "im_delivery_receipt_conflict"
          "The IM delivery already has a different vendor receipt")
      else .ok ledger
    else
      match requireClaim delivery ledger.attempts args.claimGeneration args.workerId
          args.utcNow with
      | .error error => .error error
      | .ok attempt =>
        .ok
          { delivery := some
              { delivery with
                status := .sent, vendorMessageId := some messageId, failureCode := none
                deliveredAt := some args.now, nextAttemptAt := none
                reconciliationRequiredAt := none, leaseOwner := none, leaseExpiresAt := none }
            attempts := saveAttempt?
              (attempt.map fun row =>
                { row with
                  status := .sent, vendorMessageId := some messageId, failureCode := none
                  completedAt := some args.now })
              ledger.attempts }

def markUnknown (args : ReportArgs) (ledger : Ledger) : Except ObsionError Ledger :=
  match openReport args ledger with
  | .error error => .error error
  | .ok delivery =>
    if delivery.status = .sent ∨ delivery.status = .unknown then .ok ledger
    else
      match requireClaim delivery ledger.attempts args.claimGeneration args.workerId
          args.utcNow with
      | .error error => .error error
      | .ok attempt =>
        .ok
          { delivery := some
              { delivery with
                status := .unknown, failureCode := some "vendor_outcome_unknown"
                lastAttemptAt := some args.now, nextAttemptAt := none
                reconciliationRequiredAt := some args.now, leaseOwner := none
                leaseExpiresAt := none }
            attempts := saveAttempt?
              (attempt.map fun row =>
                { row with
                  status := .unknown, failureCode := some "vendor_outcome_unknown"
                  completedAt := some args.now })
              ledger.attempts }

structure FailArgs where
  report : ReportArgs
  failureCode : String
  retryable : Bool := true
  retryAfter : Option Time := none

/-- `fail` on a delivery that was never claimed: the vendor request may have had a
side effect, so the result is held. -/
def holdLegacyFailure (args : FailArgs) (delivery : ImDelivery) : ImDelivery :=
  { delivery with
    status := .unknown, failureCode := some args.failureCode
    lastAttemptAt := some args.report.now, nextAttemptAt := none
    reconciliationRequiredAt := some args.report.now }

def closeClaim (settings : Settings) (args : FailArgs) (delivery : ImDelivery) : ImDelivery :=
  { delivery with
    status := .failed, failureCode := some args.failureCode, lastAttemptAt := some args.report.now
    leaseOwner := none, leaseExpiresAt := none
    nextAttemptAt :=
      if args.retryable ∧ delivery.sendAttemptCount < settings.imDeliveryMaxAttempts then
        some (args.report.now + retryDelay settings delivery.sendAttemptCount args.retryAfter)
      else none }

def fail (settings : Settings) (args : FailArgs) (ledger : Ledger) : Except ObsionError Ledger :=
  match openReport args.report ledger with
  | .error error => .error error
  | .ok delivery =>
    if delivery.status = .sent then .ok ledger
    else if delivery.status = .unknown then
      .error (conflictError "operator_invocation_outcome_unknown"
        "The IM delivery outcome is unknown and requires reconciliation")
    else
      match requireClaim delivery ledger.attempts args.report.claimGeneration
          args.report.workerId args.report.utcNow with
      | .error error => .error error
      | .ok none => .ok ⟨some (holdLegacyFailure args delivery), ledger.attempts⟩
      | .ok (some attempt) =>
        .ok
          { delivery := some (closeClaim settings args delivery)
            attempts := saveAttempt
              { attempt with
                status := .failed, failureCode := some args.failureCode
                completedAt := some args.report.now }
              ledger.attempts }

structure ReconcileArgs where
  principal : Principal
  deliveryId : Uuid
  allowed : Bool
  outcome : String
  evidence : String
  vendorMessageId : Option String
  now : Time

def ReconcileArgs.normalizedOutcome (args : ReconcileArgs) : String := upper (strip args.outcome)

def ReconcileArgs.proof (args : ReconcileArgs) : String := strip args.evidence

def ReconcileArgs.receipt (args : ReconcileArgs) : String :=
  strip (args.vendorMessageId.getD "")

def reconcileDelivery (settings : Settings) (args : ReconcileArgs) (delivery : ImDelivery) :
    ImDelivery :=
  let recorded :=
    { delivery with
      reconciledAt := some args.now, reconciledBy := some args.principal.id
      reconciliationOutcome := some args.normalizedOutcome
      reconciliationEvidence := some args.proof, reconciliationRequiredAt := none }
  if args.normalizedOutcome = "SENT" then
    { recorded with
      status := .sent, vendorMessageId := some args.receipt, deliveredAt := some args.now
      failureCode := none, nextAttemptAt := none }
  else
    { recorded with
      status := .failed, vendorMessageId := none, deliveredAt := none
      failureCode := some "vendor_confirmed_unsent"
      nextAttemptAt :=
        if delivery.sendAttemptCount < settings.imDeliveryMaxAttempts then some args.now
        else none }

def reconcileAttempt (args : ReconcileArgs) (status : ImDeliveryStatus)
    (attempt : ImDeliveryAttempt) : ImDeliveryAttempt :=
  if attempt.status = .unknown then
    { attempt with
      status := status, vendorMessageId := if args.receipt = "" then none else some args.receipt
      failureCode := if args.receipt = "" then some "vendor_confirmed_unsent" else none
      reconciledAt := some args.now, reconciledBy := some args.principal.id
      reconciliationOutcome := some args.normalizedOutcome
      reconciliationEvidence := some args.proof }
  else attempt

/-- `reconcile` once the row is locked and the caller authorized. -/
def reconcileRow (settings : Settings) (args : ReconcileArgs) (delivery : ImDelivery)
    (ledger : Ledger) : Except ObsionError Ledger :=
  if args.proof = ""
      ∨ ¬ (args.normalizedOutcome = "SENT" ∨ args.normalizedOutcome = "CONFIRMED_UNSENT") then
    .error (conflictError "im_delivery_reconciliation_invalid"
      "Reconciliation requires a supported outcome and evidence reference")
  else if delivery.status ≠ .unknown then
    if delivery.reconciliationOutcome = some args.normalizedOutcome
        ∧ delivery.reconciliationEvidence = some args.proof
        ∧ (args.normalizedOutcome ≠ "SENT" ∨ delivery.vendorMessageId = some args.receipt) then
      .ok ledger
    else .error (conflictError "im_delivery_reconciliation_invalid"
      "Only an UNKNOWN IM delivery can be reconciled")
  else if args.normalizedOutcome = "SENT" ∧ args.receipt = "" then
    .error (conflictError "im_delivery_receipt_missing"
      "A vendor-issued receipt is required to reconcile a sent delivery")
  else if args.normalizedOutcome = "CONFIRMED_UNSENT" ∧ args.receipt ≠ "" then
    .error (conflictError "im_delivery_reconciliation_invalid"
      "A confirmed-unsent reconciliation cannot include a vendor receipt")
  else
    let reconciled := reconcileDelivery settings args delivery
    .ok
      { delivery := some reconciled
        attempts := saveAttempt?
          ((currentAttempt delivery ledger.attempts).map
            (reconcileAttempt args reconciled.status))
          ledger.attempts }

def reconcile (settings : Settings) (args : ReconcileArgs) (ledger : Ledger) :
    Except ObsionError Ledger :=
  if ¬ args.principal.can "identity.write" then
    .error (authorizationError "admin_access_denied"
      "IM delivery reconciliation requires an administrator")
  else
    match getForUpdate args.principal args.deliveryId ledger with
    | .error error => .error error
    | .ok delivery =>
      match authorizeReport args.principal args.allowed delivery with
      | .error error => .error error
      | .ok () => reconcileRow settings args delivery ledger

inductive Action
  | prepare (args : PrepareArgs)
  | claim (args : ClaimArgs)
  | complete (args : ReportArgs) (vendorMessageId : String)
  | markUnknown (args : ReportArgs)
  | fail (args : FailArgs)
  | reconcile (args : ReconcileArgs)

def perform (settings : Settings) (ledger : Ledger) : Action → Except ObsionError Ledger
  | .prepare args => (prepare settings args ledger).map Prod.fst
  | .claim args => (claim settings args ledger).map Prod.fst
  | .complete args vendorMessageId => complete args vendorMessageId ledger
  | .markUnknown args => markUnknown args ledger
  | .fail args => fail settings args ledger
  | .reconcile args => reconcile settings args ledger

/-- A transaction either commits what the operation computes or leaves no trace:
the operation raised, or its transaction was rolled back. -/
def service (settings : Settings) : Lib.System Ledger Action where
  init ledger := ledger = ⟨none, []⟩
  step before action after := perform settings before action = .ok after ∨ after = before

/-- The move an action makes when its transaction is not rolled back by a crash. -/
def execute (settings : Settings) (ledger : Ledger) (action : Action) : Ledger :=
  match perform settings ledger action with
  | .ok after => after
  | .error _ => ledger

def trace (settings : Settings) : Ledger → List Action → List (Lib.Move Ledger Action)
  | _, [] => []
  | ledger, action :: rest =>
    ⟨ledger, action, execute settings ledger action⟩
      :: trace settings (execute settings ledger action) rest

lemma execute_step (settings : Settings) (ledger : Ledger) (action : Action) :
    (service settings).step ledger action (execute settings ledger action) := by
  unfold execute
  cases outcome : perform settings ledger action with
  | ok after => exact .inl outcome
  | error error => exact .inr rfl

lemma trace_path (settings : Settings) (ledger : Ledger) (actions : List Action) :
    Lib.Path (service settings) ledger (trace settings ledger actions)
      (actions.foldl (execute settings) ledger) := by
  induction actions generalizing ledger with
  | nil => exact Lib.Path.nil ledger
  | cons action rest ih => exact Lib.Path.cons action (execute_step settings ledger action) (ih _)

end Obsion.Im
