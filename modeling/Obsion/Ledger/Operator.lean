import Obsion.Ledger.Store
import Obsion.Lib.Transition

/-! # Durable operator invocations

`CapabilityGateway._invoke_operator_durable` for idempotent writes.  The first
transaction claims the key and checks the rate limit, the second one runs the
connector executor and completes the record, and a transaction of its own marks
the record UNKNOWN when the second one raised.  `World` is the row of one key,
the calls that hold a committed NEW claim, and what the current period (since the
last retention deletion) has seen. -/

namespace Obsion.Ledger

inductive GatewayStatus
  | completed
  | denied
  | waitingApproval
  | failed
  deriving DecidableEq, Repr

def GatewayStatus.value : GatewayStatus → String
  | .completed => "COMPLETED"
  | .denied => "DENIED"
  | .waitingApproval => "WAITING_APPROVAL"
  | .failed => "FAILED"

def GatewayStatus.parse? : String → Option GatewayStatus
  | "COMPLETED" => some .completed
  | "DENIED" => some .denied
  | "WAITING_APPROVAL" => some .waitingApproval
  | "FAILED" => some .failed
  | _ => none

structure GatewayResult where
  status : GatewayStatus
  policyDecisionId : Uuid
  output : Option Fields := none
  errorCode : Option String := none
  errorMessage : Option String := none
  capabilityVersionId : Option Uuid := none
  connectorId : Option Uuid := none

/-! ## The stored result -/

def optionalText : Option String → Json
  | none => .null
  | some text => .str text

def operatorResultRecord (result : GatewayResult) : Fields :=
  [("status", .str result.status.value), ("output", (result.output.map Json.obj).getD .null),
    ("error_code", optionalText result.errorCode),
    ("error_message", optionalText result.errorMessage),
    ("capability_version_id", optionalText (result.capabilityVersionId.map Uuid.str)),
    ("connector_id", optionalText (result.connectorId.map Uuid.str))]

/-- `UUID(str(value)) if value else None`; `none` is a raised ValueError. -/
def storedUuid : Option Json → Option (Option Uuid)
  | none => some none
  | some .null => some none
  | some (.str text) => if text = "" then some none else (Uuid.parse? text).map some
  | some _ => none

def storedOutput : Option Json → Option Fields
  | some (.obj fields) => some fields
  | _ => none

/-- `none` is a raised exception. -/
def operatorResultFromRecord (stored : Fields) (record : OperatorCapabilityInvocation)
    (policyDecisionId : Uuid) : Option GatewayResult :=
  match stored.get? "status" with
  | some (.str status) =>
    match GatewayStatus.parse? status, storedUuid (stored.get? "capability_version_id"),
        storedUuid (stored.get? "connector_id") with
    | some status, some capabilityVersionId, some connectorId =>
      some
        { status := status, policyDecisionId := policyDecisionId
          output := storedOutput (stored.get? "output"), errorCode := record.errorCode
          errorMessage := record.errorMessage, capabilityVersionId := capabilityVersionId
          connectorId := connectorId }
    | _, _, _ => none
  | _ => none

lemma GatewayStatus.parse?_value (status : GatewayStatus) :
    GatewayStatus.parse? status.value = some status := by
  cases status <;> rfl

lemma Uuid.str_ne_empty (value : Uuid) : value.str ≠ "" := by
  intro empty
  have parsed := Uuid.parse?_str value
  rw [empty] at parsed
  cases parsed

lemma storedUuid_optionalText (value : Option Uuid) :
    storedUuid (some (optionalText (value.map Uuid.str))) = some value := by
  cases value with
  | none => rfl
  | some id =>
    simp only [Option.map_some, optionalText, storedUuid, Uuid.str_ne_empty, if_false,
      Uuid.parse?_str]

lemma storedOutput_record (output : Option Fields) :
    storedOutput (some ((output.map Json.obj).getD .null)) = output := by
  cases output with
  | none | some => rfl

/-- Decoding the stored result beside its error columns gives back the result that
was recorded, under the new policy decision. -/
lemma operatorResultFromRecord_record (result : GatewayResult)
    (record : OperatorCapabilityInvocation) (policyDecisionId : Uuid)
    (code : record.errorCode = result.errorCode)
    (message : record.errorMessage = result.errorMessage) :
    operatorResultFromRecord (operatorResultRecord result) record policyDecisionId
      = some { result with policyDecisionId := policyDecisionId } := by
  have status : (operatorResultRecord result).get? "status" = some (.str result.status.value) :=
    rfl
  have output : (operatorResultRecord result).get? "output"
      = some ((result.output.map Json.obj).getD .null) := rfl
  have version : (operatorResultRecord result).get? "capability_version_id"
      = some (optionalText (result.capabilityVersionId.map Uuid.str)) := rfl
  have connector : (operatorResultRecord result).get? "connector_id"
      = some (optionalText (result.connectorId.map Uuid.str)) := rfl
  simp only [operatorResultFromRecord, status, output, version, connector,
    GatewayStatus.parse?_value, storedUuid_optionalText, storedOutput_record, code, message]

/-- The version, connector and policy decision of `_prepare_operator`. -/
structure OperatorPreparedInvocation where
  versionId : Uuid
  timeoutSeconds : Nat
  connectorId : Uuid
  decisionId : Uuid

inductive RateOutcome
  | allowed
  | limited
  | unavailable
  deriving DecidableEq, Repr

def resultOf (prepared : OperatorPreparedInvocation) (status : GatewayStatus)
    (code message : String) : GatewayResult :=
  { status := status, policyDecisionId := prepared.decisionId, errorCode := some code
    errorMessage := some message, capabilityVersionId := some prepared.versionId
    connectorId := some prepared.connectorId }

def operatorRateResult (prepared : OperatorPreparedInvocation) : RateOutcome → Option GatewayResult
  | .unavailable => some (resultOf prepared .failed "rate_limit_unavailable"
      "The capability safety service is temporarily unavailable")
  | .allowed => none
  | .limited => some (resultOf prepared .denied "capability_rate_limited"
      "The capability rate limit has been reached")

/-- How the `try` block of `_execute_operator` ends: the connector data under the
obligations, or an exception. -/
inductive ConnectorOutcome
  | output (output : Fields)
  | timeout
  | raised (error : ObsionError)
  | other

def executeOperator (prepared : OperatorPreparedInvocation) : ConnectorOutcome → GatewayResult
  | .output output =>
    { status := .completed, policyDecisionId := prepared.decisionId, output := some output
      capabilityVersionId := some prepared.versionId, connectorId := some prepared.connectorId }
  | .timeout => resultOf prepared .failed "capability_timeout"
      "The connector exceeded the capability timeout"
  | .raised error => resultOf prepared .failed error.code error.message
  | .other => resultOf prepared .failed "capability_failed"
      "The connector could not complete the request"

def completion (result : GatewayResult) (now : Time) : Completion :=
  { result := operatorResultRecord result, succeeded := result.status = .completed
    errorCode := result.errorCode, errorMessage := result.errorMessage, now := now }

structure InvokeArgs where
  capabilityName : String
  /-- `operator_request_fingerprint` of the request. -/
  fingerprint : String
  prepared : OperatorPreparedInvocation
  newId : Uuid
  now : Time
  insertConflicted : Bool
  rate : RateOutcome

def claimArgs (retentionHours : Nat) (args : InvokeArgs) : ClaimArgs :=
  { newId := args.newId, capabilityName := args.capabilityName
    capabilityVersionId := args.prepared.versionId, connectorId := args.prepared.connectorId
    policyDecisionId := args.prepared.decisionId, fingerprint := args.fingerprint
    leaseSeconds := max 60 (args.prepared.timeoutSeconds + 30), retentionHours := retentionHours
    now := args.now, insertConflicted := args.insertConflicted }

inductive Reply
  /-- A NEW claim that the second transaction executes. -/
  | execute (record : OperatorCapabilityInvocation)
  /-- A NEW claim that the rate limit completed at once. -/
  | limited (result : GatewayResult)
  | replay (result : GatewayResult)
  | pending (result : GatewayResult)
  | conflict (result : GatewayResult)

def conflictResult (prepared : OperatorPreparedInvocation) (error : ObsionError) : GatewayResult :=
  resultOf prepared .denied error.code error.message

def pendingResult (args : InvokeArgs) (claim : OperatorInvocationClaim) : GatewayResult :=
  let unknown := claim.state = .unknown
  { status := .failed, policyDecisionId := args.prepared.decisionId
    errorCode := some (if unknown then "operator_invocation_outcome_unknown"
      else "idempotency_request_in_progress")
    errorMessage := some (if unknown then
        "The previous operator Capability outcome requires reconciliation"
      else "The original operator Capability request is still in progress")
    capabilityVersionId := some claim.record.capabilityVersionId
    connectorId := some claim.record.connectorId }

/-- The rate limit of a NEW claim, in the transaction of the claim. -/
def limitNew (args : InvokeArgs) (record : OperatorCapabilityInvocation) :
    Except LedgerError (OperatorCapabilityInvocation × Reply) :=
  match operatorRateResult args.prepared args.rate with
  | none => .ok (record, .execute record)
  | some result =>
    (complete record (completion result args.now) (some record)).map fun completed =>
      (completed, .limited result)

def replyTo (args : InvokeArgs) (record : OperatorCapabilityInvocation)
    (claim : OperatorInvocationClaim) :
    Except LedgerError (OperatorCapabilityInvocation × Reply) :=
  match claim.state with
  | .new => limitNew args record
  | .replay =>
    match operatorResultFromRecord (claim.replayedResult.getD []) claim.record
        args.prepared.decisionId with
    | none => .error .database
    | some result => .ok (record, .replay result)
  | .inProgress => .ok (record, .pending (pendingResult args claim))
  | .unknown => .ok (record, .pending (pendingResult args claim))

/-- The row that the first transaction leaves, and its reply.  A `ConflictError`
is audited and answered; any other exception rolls the transaction back. -/
def firstTransaction (retentionHours : Nat) (key : Key) (args : InvokeArgs)
    (row : Option OperatorCapabilityInvocation) :
    Except LedgerError (Option OperatorCapabilityInvocation × Reply) :=
  match claim key (claimArgs retentionHours args) row with
  | .ok (record, found) => (replyTo args record found).map fun answer => (some answer.1, answer.2)
  | .error (.obsion error) => .ok (row, .conflict (conflictResult args.prepared error))
  | .error .database => .error .database

def returnsNew (retentionHours : Nat) (key : Key) (args : InvokeArgs)
    (row : Option OperatorCapabilityInvocation) : Bool :=
  match claim key (claimArgs retentionHours args) row with
  | .ok (_, found) => found.state == .new
  | .error _ => false

/-! ## The ledger as a transition system -/

inductive Phase
  | claimed
  | started
  | interrupted
  deriving DecidableEq, Repr

/-- A call that holds a committed NEW claim: the object in its identity map, what it
prepared, and how far it is. -/
structure Call where
  record : OperatorCapabilityInvocation
  prepared : OperatorPreparedInvocation
  phase : Phase

/-- Ghost counters of the time since the last retention deletion. -/
structure Period where
  number : Nat
  /-- Claims that returned NEW, their transaction committed or not. -/
  returnedNew : Nat
  /-- Claims that returned NEW in a committed transaction. -/
  committedNew : Nat
  /-- Executor starts. -/
  starts : Nat
  /-- The result that was stored in the record. -/
  recorded : Option GatewayResult

structure World where
  row : Option OperatorCapabilityInvocation
  calls : List Call
  period : Period
  /-- Ghost: the ids of all committed NEW claims. -/
  issued : List Uuid
  /-- Ghost: the ids whose executor was started, in order. -/
  started : List Uuid

/-- Whether a transaction commits, or is rolled back by a crash or a failing write. -/
inductive Ending
  | commits
  | rollsBack
  deriving DecidableEq, Repr

inductive Action
  | invoke (args : InvokeArgs) (ending : Ending)
  | start (id : Uuid)
  | finish (id : Uuid) (outcome : ConnectorOutcome) (now : Time) (ending : Ending)
  | interrupt (id : Uuid)
  | markUnknown (id : Uuid) (now : Time)
  | crash (id : Uuid)

def World.find (world : World) (id : Uuid) : Option Call :=
  world.calls.find? fun call => call.record.id == id

def World.drop (world : World) (id : Uuid) : List Call :=
  world.calls.filter fun call => call.record.id != id

def Period.next (period : Period) : Period := ⟨period.number + 1, 0, 0, 0, none⟩

def countNew (new : Bool) (period : Period) : Period :=
  if new then { period with returnedNew := period.returnedNew + 1 } else period

def settle (world : World) (period : Period) (args : InvokeArgs)
    (row : Option OperatorCapabilityInvocation) : Reply → World
  | .execute record =>
    { world with
      row := row, calls := ⟨record, args.prepared, .claimed⟩ :: world.calls
      period := { period with committedNew := period.committedNew + 1 }
      issued := record.id :: world.issued }
  | .limited result =>
    { world with
      row := row
      period := { period with
        committedNew := period.committedNew + 1, recorded := some result }
      issued := args.newId :: world.issued }
  | _ => { world with row := row, period := period }

def invoke (retentionHours : Nat) (key : Key) (world : World) (args : InvokeArgs)
    (ending : Ending) : World :=
  let new := returnsNew retentionHours key args world.row
  match firstTransaction retentionHours key args world.row, ending with
  | .ok (row, reply), .commits =>
    let period :=
      if deletes (claimArgs retentionHours args) world.row then world.period.next
      else world.period
    settle world (countNew new period) args row reply
  | _, _ => { world with period := countNew new world.period }

/-- The second transaction: the executor has run, the record is completed. -/
def finish (world : World) (call : Call) (outcome : ConnectorOutcome) (now : Time)
    (ending : Ending) : World :=
  let result := executeOperator call.prepared outcome
  match complete call.record (completion result now) world.row, ending with
  | .ok row, .commits =>
    { world with
      row := some row, calls := world.drop call.record.id
      period := { world.period with recorded := some result } }
  | _, _ =>
    { world with calls := { call with phase := .interrupted } :: world.drop call.record.id }

def perform (retentionHours : Nat) (key : Key) (world : World) : Action → Option World
  | .invoke args ending =>
    if args.newId ∈ world.issued then none
    else some (invoke retentionHours key world args ending)
  | .start id =>
    match world.find id with
    | none => none
    | some call =>
      if call.phase = .claimed then
        some { world with
          calls := { call with phase := .started } :: world.drop id
          period := { world.period with starts := world.period.starts + 1 }
          started := id :: world.started }
      else none
  | .finish id outcome now ending =>
    match world.find id with
    | none => none
    | some call =>
      if call.phase = .started then some (finish world call outcome now ending) else none
  | .interrupt id =>
    (world.find id).map fun call =>
      { world with calls := { call with phase := .interrupted } :: world.drop id }
  | .markUnknown id now =>
    match world.find id with
    | none => none
    | some call =>
      if call.phase = .interrupted then
        match world.row with
        | none => some { world with calls := world.drop id }
        | some stored =>
          match Ledger.markUnknown id now stored with
          | .error _ => some { world with calls := world.drop id }
          | .ok row => some { world with row := some row, calls := world.drop id }
      else none
  | .crash id => some { world with calls := world.drop id }

def fresh : World := ⟨none, [], ⟨0, 0, 0, 0, none⟩, [], []⟩

def ledger (retentionHours : Nat) (key : Key) : Lib.System World Action :=
  Lib.System.ofPartial (· = fresh) (perform retentionHours key)

end Obsion.Ledger
