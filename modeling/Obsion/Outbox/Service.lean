import Obsion.Base.Orm
import Obsion.Lib.Transition
import Obsion.Outbox.Robot

/-! # The robot Outbox

`DingTalkOutboxService`: one Inbox message with a completed Run, and its Outbox
row.  `claim_next`, `expire_claims`, `claim_reconciliation`, `reconcile` and
`dispatch` hold the row lock from their read to the end of their transaction, so
each is one step.  `enqueue_next` is three: the statement scan reads the row
without locking it, then the Inbox row is locked, then the transaction writes.
`World` carries three ghosts: how often the vendor POST was attempted, the
committed claims that no worker has dispatched yet, and the scans in flight. -/

namespace Obsion.Outbox

inductive DingTalkOutboxStatus
  | blocked
  | queued
  | dispatching
  | accepted
  | rejected
  | unknown
  deriving DecidableEq, Repr

structure DingTalkRobotOutbox where
  id : Uuid
  bindingId : Uuid
  runId : Uuid
  recipientUserId : Uuid
  recipientSenderId : String
  conversationType : String
  recipientConversationId : Option String
  audienceId : Option Uuid
  audienceMemberFingerprint : Option String
  deliveryMode : String
  answerClassification : Option String
  connectorId : Uuid
  capabilityVersionId : Option Uuid
  connectorFingerprint : String
  contentFingerprint : String
  status : DingTalkOutboxStatus
  attemptCount : Nat
  fencingToken : Nat
  nextAttemptAt : Option Time
  leaseExpiresAt : Option Time
  acceptedProcessQueryKey : Option String
  vendorSendStatus : Option String
  vendorReadStatus : Option String
  vendorReadAt : Option Time
  lastReconciledAt : Option Time
  reconciliationAttemptCount : Nat
  policyDecisionId : Option Uuid
  blockedReason : Option String
  lastErrorCode : Option String
  deriving DecidableEq, Repr

structure OutboxClaim where
  outboxId : Uuid
  fencingToken : Nat
  deriving DecidableEq, Repr

structure OutboxReconciliationClaim where
  outboxId : Uuid
  attemptCount : Nat
  deriving DecidableEq, Repr

structure Settings where
  leaseSeconds : Nat
  maxAttempts : Nat
  /-- `hashlib.sha256(text.encode()).hexdigest()` -/
  sha256 : String → String

def Settings.maxReconciliationAttempts (settings : Settings) : Nat := max 1 settings.maxAttempts

/-- The catalog code that `_set_last_error` maps a reason to. -/
def errorCode : String → String
  | "delivery_lease_expired" => "im_delivery_receipt_conflict"
  | "delivery_preconditions_changed" => "im_delivery_lineage_changed"
  | "delivery_retry_exhausted" => "dependency_failed"
  | "delivery_answer_or_access_missing" => "im_delivery_answer_missing"
  | "delivery_configuration_missing" => "credential_unavailable"
  | "group_audience_denied" => "im_delivery_denied"
  | "reconciliation_unavailable" => "im_delivery_receipt_conflict"
  | "reconciliation_response_invalid" => "im_delivery_receipt_conflict"
  | "reconciliation_status_unknown" => "im_delivery_receipt_conflict"
  | "capability_rate_limited" => "capability_rate_limited"
  | "authorization_fence_unavailable" => "authorization_fence_unavailable"
  | "connector_grant_missing" => "connector_grant_missing"
  | "credential_unavailable" => "credential_unavailable"
  | "capability_unavailable" => "dependency_failed"
  | "delivery_configuration_invalid" => "connector_egress_invalid"
  | "delivery_not_authorized" => "im_delivery_denied"
  | "delivery_gateway_unavailable" => "dependency_failed"
  | "delivery_precondition_failed" => "im_delivery_lineage_changed"
  | "unverified_send_response" => "im_delivery_receipt_conflict"
  | "recipient_rejected" => "im_delivery_denied"
  | "credential_in_text" => "inline_secret_denied"
  | "authentication_failed" => "credential_unavailable"
  | _ => "dependency_failed"

def setLastError (value : Option String) (outbox : DingTalkRobotOutbox) : DingTalkRobotOutbox :=
  { outbox with lastErrorCode := value.map errorCode }

def block (reason : String) (code : Option String) (outbox : DingTalkRobotOutbox) :
    DingTalkRobotOutbox :=
  { outbox with
    status := .blocked, blockedReason := some reason
    lastErrorCode := some (errorCode (code.getD reason)), nextAttemptAt := none
    leaseExpiresAt := none }

def retryDelay (attemptCount : Nat) : Nat := min 300 (5 * 2 ^ min (attemptCount - 1) 5)

def enqueueable : Option DingTalkRobotOutbox → Bool
  | none => true
  | some row =>
    row.status == .blocked && row.blockedReason.any fun reason => reason != "delivery_retry_exhausted"

structure GroupDelivery where
  audienceId : Uuid
  memberFingerprint : String
  deliveryMode : String
  text : String

/-- The Inbox message and its joined rows, and what `_prepare_queue` reads. -/
structure EnqueueArgs where
  newId : Uuid
  runId : Uuid
  bindingId : Uuid
  subjectUserId : Uuid
  senderId : String
  conversationType : String
  conversationId : String
  scannedAudience : Option (Uuid × String)
  connectorId : Uuid
  connectorFingerprint : String
  /-- The answer and its classification; `none` where reading them or the access
  check raised one of the handled errors. -/
  answer : Option (String × String)
  groupDelivery : Option GroupDelivery
  capabilityVersionId : Option Uuid
  /-- `_queue_is_ready` on the joined rows, its capability version test apart. -/
  ready : Bool
  now : Time

def newOutbox (settings : Settings) (args : EnqueueArgs) : DingTalkRobotOutbox :=
  { id := args.newId, bindingId := args.bindingId, runId := args.runId
    recipientUserId := args.subjectUserId, recipientSenderId := args.senderId
    conversationType := args.conversationType
    recipientConversationId :=
      if args.conversationType = "group" then some args.conversationId else none
    audienceId := args.scannedAudience.map Prod.fst
    audienceMemberFingerprint := args.scannedAudience.map Prod.snd, deliveryMode := "FINAL"
    answerClassification := none, connectorId := args.connectorId, capabilityVersionId := none
    connectorFingerprint := args.connectorFingerprint, contentFingerprint := settings.sha256 ""
    status := .blocked, attemptCount := 0, fencingToken := 0, nextAttemptAt := none
    leaseExpiresAt := none, acceptedProcessQueryKey := none, vendorSendStatus := none
    vendorReadStatus := none, vendorReadAt := none, lastReconciledAt := none
    reconciliationAttemptCount := 0, policyDecisionId := none, blockedReason := none
    lastErrorCode := none }

def queue (settings : Settings) (args : EnqueueArgs) (group : Option GroupDelivery)
    (text classification : String) (outbox : DingTalkRobotOutbox) : DingTalkRobotOutbox :=
  { outbox with
    bindingId := args.bindingId, recipientUserId := args.subjectUserId
    recipientSenderId := args.senderId, conversationType := args.conversationType
    recipientConversationId :=
      if args.conversationType = "group" then some args.conversationId else none
    audienceId := group.map GroupDelivery.audienceId
    audienceMemberFingerprint := group.map GroupDelivery.memberFingerprint
    deliveryMode := (group.map GroupDelivery.deliveryMode).getD "FINAL"
    answerClassification := some classification, connectorId := args.connectorId
    capabilityVersionId := args.capabilityVersionId
    connectorFingerprint := args.connectorFingerprint, contentFingerprint := settings.sha256 text
    status := .queued, blockedReason := none, lastErrorCode := none
    nextAttemptAt := some args.now, leaseExpiresAt := none }

/-- `_prepare_queue` after the audience of a group message is settled. -/
def queueIfReady (settings : Settings) (args : EnqueueArgs) (group : Option GroupDelivery)
    (text classification : String) (outbox : DingTalkRobotOutbox) : DingTalkRobotOutbox :=
  if args.ready && args.capabilityVersionId.isSome then
    queue settings args group text classification outbox
  else block "delivery_configuration_missing" none outbox

def prepareQueue (settings : Settings) (args : EnqueueArgs) (outbox : DingTalkRobotOutbox) :
    DingTalkRobotOutbox :=
  match args.answer with
  | none => block "delivery_answer_or_access_missing" none outbox
  | some (text, classification) =>
    if args.conversationType = "group" then
      match args.groupDelivery with
      | none => block "group_audience_denied" none outbox
      | some group => queueIfReady settings args (some group) group.text classification outbox
    else queueIfReady settings args none text classification outbox

/-- The UPDATE of an object that was loaded, changed and flushed, by primary key. -/
def flush (loaded written stored : DingTalkRobotOutbox) : DingTalkRobotOutbox where
  id := stored.id
  bindingId := column loaded.bindingId written.bindingId stored.bindingId
  runId := stored.runId
  recipientUserId := column loaded.recipientUserId written.recipientUserId stored.recipientUserId
  recipientSenderId :=
    column loaded.recipientSenderId written.recipientSenderId stored.recipientSenderId
  conversationType :=
    column loaded.conversationType written.conversationType stored.conversationType
  recipientConversationId := column loaded.recipientConversationId
    written.recipientConversationId stored.recipientConversationId
  audienceId := column loaded.audienceId written.audienceId stored.audienceId
  audienceMemberFingerprint := column loaded.audienceMemberFingerprint
    written.audienceMemberFingerprint stored.audienceMemberFingerprint
  deliveryMode := column loaded.deliveryMode written.deliveryMode stored.deliveryMode
  answerClassification :=
    column loaded.answerClassification written.answerClassification stored.answerClassification
  connectorId := column loaded.connectorId written.connectorId stored.connectorId
  capabilityVersionId :=
    column loaded.capabilityVersionId written.capabilityVersionId stored.capabilityVersionId
  connectorFingerprint :=
    column loaded.connectorFingerprint written.connectorFingerprint stored.connectorFingerprint
  contentFingerprint :=
    column loaded.contentFingerprint written.contentFingerprint stored.contentFingerprint
  status := column loaded.status written.status stored.status
  attemptCount := column loaded.attemptCount written.attemptCount stored.attemptCount
  fencingToken := column loaded.fencingToken written.fencingToken stored.fencingToken
  nextAttemptAt := column loaded.nextAttemptAt written.nextAttemptAt stored.nextAttemptAt
  leaseExpiresAt := column loaded.leaseExpiresAt written.leaseExpiresAt stored.leaseExpiresAt
  acceptedProcessQueryKey := column loaded.acceptedProcessQueryKey
    written.acceptedProcessQueryKey stored.acceptedProcessQueryKey
  vendorSendStatus :=
    column loaded.vendorSendStatus written.vendorSendStatus stored.vendorSendStatus
  vendorReadStatus :=
    column loaded.vendorReadStatus written.vendorReadStatus stored.vendorReadStatus
  vendorReadAt := column loaded.vendorReadAt written.vendorReadAt stored.vendorReadAt
  lastReconciledAt :=
    column loaded.lastReconciledAt written.lastReconciledAt stored.lastReconciledAt
  reconciliationAttemptCount := column loaded.reconciliationAttemptCount
    written.reconciliationAttemptCount stored.reconciliationAttemptCount
  policyDecisionId :=
    column loaded.policyDecisionId written.policyDecisionId stored.policyDecisionId
  blockedReason := column loaded.blockedReason written.blockedReason stored.blockedReason
  lastErrorCode := column loaded.lastErrorCode written.lastErrorCode stored.lastErrorCode

/-- What `enqueue_next` commits, from the row its scan saw and the row that is stored. -/
def enqueueWrite (settings : Settings) (args : EnqueueArgs)
    (seen stored : Option DingTalkRobotOutbox) : Option DingTalkRobotOutbox :=
  match seen, stored with
  | none, none => some (prepareQueue settings args (newOutbox settings args))
  -- The insert violates the unique run: "Its durable state is authoritative."
  | none, some row => some row
  | some loaded, some row => some (flush loaded (prepareQueue settings args loaded) row)
  | some _, none => none

/-! ## `expire_claims`, `claim_next` and reconciliation -/

def expired (now : Time) (row : DingTalkRobotOutbox) : Bool :=
  row.status == .dispatching && row.leaseExpiresAt.any fun expires => expires < now

def expireClaims (now : Time) (row : DingTalkRobotOutbox) : DingTalkRobotOutbox :=
  if expired now row then
    setLastError (some "delivery_lease_expired")
      { row with status := .unknown, leaseExpiresAt := none }
  else row

def claimable (now : Time) (row : DingTalkRobotOutbox) : Bool :=
  row.status == .queued && row.nextAttemptAt.any fun next => next ≤ now

def claimNext (settings : Settings) (now : Time) (row : DingTalkRobotOutbox) :
    DingTalkRobotOutbox × OutboxClaim :=
  let claimed := setLastError none
    { row with
      status := .dispatching, fencingToken := row.fencingToken + 1
      attemptCount := row.attemptCount + 1
      leaseExpiresAt := some (now + seconds settings.leaseSeconds), nextAttemptAt := none }
  (claimed, ⟨claimed.id, claimed.fencingToken⟩)

def reconcilable (settings : Settings) (now : Time) (row : DingTalkRobotOutbox) : Bool :=
  row.status == .accepted && row.acceptedProcessQueryKey.isSome
    && decide (row.reconciliationAttemptCount < settings.maxReconciliationAttempts)
    && row.lastReconciledAt.all fun last => last ≤ now - seconds settings.leaseSeconds

def claimReconciliation (settings : Settings) (now : Time) (row : DingTalkRobotOutbox) :
    DingTalkRobotOutbox :=
  if reconcilable settings now row then
    { row with
      reconciliationAttemptCount := row.reconciliationAttemptCount + 1
      lastReconciledAt := some now }
  else row

inductive RobotQueryState
  | success
  | failure
  | unknown
  deriving DecidableEq, Repr

structure RobotQueryResult where
  state : RobotQueryState
  sendStatus : Option String
  readStatus : Option String
  readTimestamp : Option Time
  reason : Option String

/-- The answer of `reconcile_dingtalk_robot_outbox`, or `none` where
`_reconciliation_inputs` returns `None`. -/
structure ReconcileArgs where
  claim : OutboxReconciliationClaim
  query : Option (RobotQueryResult × Option Uuid)

def reconcileQuery (query : RobotQueryResult) (decision : Option Uuid)
    (row : DingTalkRobotOutbox) : DingTalkRobotOutbox :=
  let seen :=
    { row with
      policyDecisionId := if decision.isSome then decision else row.policyDecisionId
      vendorSendStatus := query.sendStatus, vendorReadStatus := query.readStatus
      vendorReadAt := query.readTimestamp }
  match query.state with
  | .success => setLastError none seen
  | .failure => setLastError (some "delivery_gateway_unavailable") { seen with status := .rejected }
  | .unknown => setLastError (some (query.reason.getD "reconciliation_status_unknown")) seen

def reconcile (args : ReconcileArgs) (row : DingTalkRobotOutbox) : DingTalkRobotOutbox :=
  if row.id ≠ args.claim.outboxId ∨ row.status ≠ .accepted
      ∨ row.reconciliationAttemptCount ≠ args.claim.attemptCount
      ∨ row.acceptedProcessQueryKey.getD "" = "" then row
  else
    match args.query with
    | none => setLastError (some "delivery_preconditions_changed") row
    | some (query, decision) => reconcileQuery query decision row

structure DispatchInputs where
  senderId : String
  appKey : String
  robotCode : String
  text : String
  capabilityVersionId : Uuid

structure DispatchArgs where
  fence : Except Raised Unit
  inputs : Except Raised (Option DispatchInputs)
  /-- The clock and the inputs when the transport calls `authorize_send`. -/
  authorizedAt : Time
  currentInputs : Except Raised (Option DispatchInputs)
  gateway : GatewayArgs
  now : Time

def authorizeSend (args : DispatchArgs) (text : String) (row : DingTalkRobotOutbox) :
    Except Raised Bool :=
  match row.leaseExpiresAt with
  | none => .ok false
  | some expires =>
    if expires ≤ args.authorizedAt then .ok false
    else args.currentInputs.map fun current => current.any fun found => found.text == text

def robotRequest (inputs : DispatchInputs) (row : DingTalkRobotOutbox) :
    DingTalkRobotOutboxRequest :=
  { recipientSenderId := inputs.senderId, appKey := inputs.appKey, robotCode := inputs.robotCode
    text := inputs.text, capabilityVersionId := inputs.capabilityVersionId
    conversationType := row.conversationType
    recipientConversationId := row.recipientConversationId }

def recordSend (settings : Settings) (now : Time) (result : DingTalkRobotOutboxResult)
    (row : DingTalkRobotOutbox) : DingTalkRobotOutbox :=
  let decided := { row with policyDecisionId := result.policyDecisionId }
  match result.send.state with
  | .accepted => setLastError none
      { decided with
        status := .accepted, acceptedProcessQueryKey := result.send.processQueryKey
        leaseExpiresAt := none }
  | .rejected => setLastError result.send.reason
      { decided with status := .rejected, leaseExpiresAt := none }
  | .unknown => setLastError result.send.reason
      { decided with status := .unknown, leaseExpiresAt := none }
  | .notAttempted =>
    if settings.maxAttempts ≤ row.attemptCount then
      block "delivery_retry_exhausted" result.send.reason decided
    else
      setLastError result.send.reason
        { decided with
          status := .queued, leaseExpiresAt := none
          nextAttemptAt := some (now + seconds (retryDelay row.attemptCount)) }

structure DispatchRun where
  messageAttempted : Bool
  /-- The row that the transaction would commit, or the exception that rolls it back. -/
  outcome : Except Raised DingTalkRobotOutbox

def dispatchSend (settings : Settings) (args : DispatchArgs) (inputs : DispatchInputs)
    (row : DingTalkRobotOutbox) : DispatchRun :=
  let io := { args.gateway.io with authorizeSend := some (authorizeSend args inputs.text row) }
  let sent := invokeDingtalkRobotOutbox (robotRequest inputs row) { args.gateway with io := io }
  ⟨sent.messageAttempted, sent.outcome.map fun result => recordSend settings args.now result row⟩

def dispatch (settings : Settings) (args : DispatchArgs) (claim : OutboxClaim)
    (row : DingTalkRobotOutbox) : DispatchRun :=
  if row.id ≠ claim.outboxId ∨ row.status ≠ .dispatching
      ∨ row.fencingToken ≠ claim.fencingToken then ⟨false, .ok row⟩
  else
    match args.fence with
    | .error (.obsion error) =>
      if error.code ≠ "authorization_fence_unavailable" then ⟨false, .error (.obsion error)⟩
      else ⟨false, .ok (block "authorization_fence_unavailable" none row)⟩
    | .error raised => ⟨false, .error raised⟩
    | .ok () =>
      match args.inputs with
      | .error raised => ⟨false, .error raised⟩
      | .ok none => ⟨false, .ok (block "delivery_preconditions_changed" none row)⟩
      | .ok (some inputs) => dispatchSend settings args inputs row

structure World where
  row : Option DingTalkRobotOutbox
  /-- Ghost: the message POSTs attempted for the row. -/
  posts : Nat
  /-- Ghost: committed claims that no worker has dispatched. -/
  claims : List OutboxClaim
  /-- Ghost: rows seen by scans that have not locked the Inbox message yet. -/
  scans : List (Option DingTalkRobotOutbox)
  /-- Ghost: the row seen by the transaction that holds the Inbox lock. -/
  locked : Option (Option DingTalkRobotOutbox)

/-- Where a crash or a rollback hits a dispatch transaction. -/
inductive Crash
  | none
  | beforePost
  | beforeCommit
  deriving DecidableEq, Repr

inductive Action
  | enqueueScan
  | enqueueLock (index : Nat)
  | enqueueSkip (index : Nat)
  | enqueueCommit (args : EnqueueArgs)
  | enqueueRollback
  | expireClaims (now : Time)
  | claimNext (now : Time)
  | dropClaim (claim : OutboxClaim)
  | dispatch (claim : OutboxClaim) (args : DispatchArgs) (crash : Crash)
  | claimReconciliation (now : Time)
  | reconcile (args : ReconcileArgs)

/-- The worker that made the claim dispatches it once, in a transaction of its own. -/
def dispatchStep (settings : Settings) (world : World) (claim : OutboxClaim)
    (args : DispatchArgs) (crash : Crash) : Option World :=
  if claim ∈ world.claims then
    let undone := { world with claims := world.claims.erase claim }
    match world.row with
    | none => some undone
    | some row =>
      if crash = .beforePost then some undone
      else
        let run := dispatch settings args claim row
        let posts := if run.messageAttempted then world.posts + 1 else world.posts
        let posted := { undone with posts := posts }
        match run.outcome with
        | .error _ => some posted
        | .ok next =>
          if crash = .beforeCommit then some posted else some { posted with row := some next }
  else none

/-- A transaction other than a dispatch leaves no trace when it is rolled back, so
only its commit is a step. -/
def perform (settings : Settings) (world : World) : Action → Option World
  | .enqueueScan =>
    if enqueueable world.row then some { world with scans := world.row :: world.scans } else none
  | .enqueueLock index =>
    match world.locked, world.scans[index]? with
    | none, some seen =>
      some { world with scans := world.scans.eraseIdx index, locked := some seen }
    | _, _ => none
  -- SKIP LOCKED, or a crash before the lock.
  | .enqueueSkip index => some { world with scans := world.scans.eraseIdx index }
  | .enqueueCommit args =>
    world.locked.map fun seen =>
      { world with row := enqueueWrite settings args seen world.row, locked := none }
  | .enqueueRollback => some { world with locked := none }
  | .expireClaims now => some { world with row := world.row.map (expireClaims now) }
  | .claimNext now =>
    match world.row with
    | none => none
    | some row =>
      if claimable now row then
        let claimed := claimNext settings now row
        some { world with row := some claimed.1, claims := claimed.2 :: world.claims }
      else none
  | .dropClaim claim => some { world with claims := world.claims.erase claim }
  | .dispatch claim args crash => dispatchStep settings world claim args crash
  | .claimReconciliation now =>
    some { world with row := world.row.map (claimReconciliation settings now) }
  | .reconcile args => some { world with row := world.row.map (reconcile args) }

def fresh : World := ⟨none, 0, [], [], none⟩

def outbox (settings : Settings) : Lib.System World Action :=
  Lib.System.ofPartial (· = fresh) (perform settings)

end Obsion.Outbox
