import Obsion.AppServer.Handlers

/-! # `AppServerApplication._mutate`

The claim of a key, the handler, and the recorded outcome in one transaction.  A domain
error of the handler is caught inside the transaction and recorded; an error of the claim
and an error of the database are not.  What a caller gets back is projected again, outside
the transaction, for the access that it has at that moment. -/

namespace Obsion.AppServer

open Obsion.Lib

inductive Mutation
  | createThread (args : CreateThread)
  | archiveThread (args : MoveThread)
  | resumeThread (args : MoveThread)
  | forkThread (args : ForkThread)
  | createTurn (args : CreateTurn)
  | cancelRun (args : CancelRun)
  | replayRun (args : ReplayRun)
  | answerClarification (args : AnswerClarification)
  | decideApproval (args : DecideApproval)

def Mutation.method : Mutation → Method
  | .createThread _ => .threadCreate
  | .archiveThread _ => .threadArchive
  | .resumeThread _ => .threadResume
  | .forkThread _ => .threadFork
  | .createTurn _ => .turnCreate
  | .cancelRun _ => .runCancel
  | .replayRun _ => .runReplay
  | .answerClarification _ => .runClarificationAnswer
  | .decideApproval _ => .approvalDecide

def handler (views : Views) (context : Context) : Mutation → Body Json
  | .createThread args => createThread views context args
  | .archiveThread args => archiveThread views context args
  | .resumeThread args => resumeThread views context args
  | .forkThread args => forkThread views context args
  | .createTurn args => createTurn views context args
  | .cancelRun args => cancelRun views context args
  | .replayRun args => replayRun views context args
  | .answerClarification args => answerClarification views context args
  | .decideApproval args => decideApproval views context args

structure Settings where
  /-- `hashlib.sha256(text.encode("utf-8")).hexdigest()` -/
  sha256 : String → String
  retentionHours : Nat
  views : Views
  /-- `application_error_code(exc.status_code)` -/
  applicationErrorCode : ObsionError → Int
  statusCode : ObsionError → Nat
  details : ObsionError → Fields

structure Call where
  context : Context
  clientRequestId : String
  correlationId : Uuid
  /-- The validated params without the client request id. -/
  params : Json
  mutation : Mutation
  newId : Uuid
  completedAt : Time

def Call.key (call : Call) : Key :=
  ⟨call.context.principal.organizationId, call.context.principal.id, call.clientRequestId⟩

def paramsFingerprint (settings : Settings) (params : Json) : String := settings.sha256 params.dumps

/-! ## `claim` and `complete` -/

def retired (now : Time) (row : AppServerRequest) : Bool := decide (row.expiresAt ≤ now)

def deleteRetired (now : Time) : Body Unit :=
  Script.update fun entry => .ok { entry with row := entry.row.filter fun row => !retired now row }

def newRecord (settings : Settings) (call : Call) : AppServerRequest :=
  { id := call.newId, method := call.mutation.method
    paramsFingerprint := paramsFingerprint settings call.params, response := none
    createdAt := call.context.now, completedAt := none
    expiresAt := call.context.now + seconds (3600 * settings.retentionHours) }

def keyReused : ObsionError :=
  conflictError "idempotency_key_reused"
    "The client request ID is already bound to another operation"

def inProgress : ObsionError :=
  conflictError "idempotency_request_in_progress" "The original request is still in progress"

def claimExisting (settings : Settings) (call : Call) (existing : AppServerRequest) :
    Except Fault Outcome :=
  if existing.method ≠ call.mutation.method
      ∨ existing.paramsFingerprint ≠ paramsFingerprint settings call.params then
    .error (.refused keyReused)
  else match existing.response with
    | none => .error (.refused inProgress)
    | some response => .ok response

/-- `claim`: the recorded outcome, or `none` after the insert of a new record. -/
def claim (settings : Settings) (call : Call) : Body (Option Outcome) := do
  deleteRetired call.context.now
  Script.execute fun entry =>
    match entry.row with
    | none => .ok (none, { entry with row := some (newRecord settings call) })
    | some existing => (claimExisting settings call existing).map fun outcome => (some outcome, entry)

def complete (call : Call) (outcome : Outcome) : Body Unit :=
  Script.update fun entry =>
    match entry.row with
    | none => .error .database
    | some record =>
      if record.response.isSome then
        .error (.refused (conflictError "idempotency_already_completed"
          "The idempotency outcome is immutable"))
      else .ok { entry with
        row := some { record with
          response := some outcome, completedAt := some call.completedAt } }

def domainError (settings : Settings) (error : ObsionError) (correlationId : Uuid) : Fields :=
  [("code", .int (settings.applicationErrorCode error)), ("message", .str error.message),
    ("data", .obj
      [("code", .str error.code), ("status", .int (settings.statusCode error)),
        ("correlation_id", .str correlationId.str),
        ("details", .obj (settings.details error))])]

def caught : Fault → Option ObsionError
  | .refused error => some error
  | .database => none

def outcomeOf (settings : Settings) (call : Call) : Except ObsionError Json → Outcome
  | .ok result => .result result
  | .error error => .error (domainError settings error call.correlationId)

def mutate (settings : Settings) (call : Call) : Body Outcome := do
  let replayed ← claim settings call
  match replayed with
  | some outcome => pure outcome
  | none =>
    let result ← (handler settings.views call.context call.mutation).rescue caught
    let outcome := outcomeOf settings call result
    complete call outcome
    pure outcome

def Method.projects : Method → Bool
  | .turnCreate => true
  | .runCancel => true
  | .runReplay => true
  | .runClarificationAnswer => true
  | _ => false

structure Projection where
  runFound : Bool
  guard : Except ObsionError Bool

/-- What `_mutate` raises or returns in the end. -/
inductive Delivery
  | result (value : Json)
  | recordedError (value : Fields)
  | refused (error : ObsionError)

def withheld (method : Method) (result : Json) : Json :=
  match result with
  | .obj fields =>
    if method = .turnCreate then
      .obj (Fields.set fields "run" (.obj (withheldRun
        (((Fields.get? fields "run").bind Json.fields?).getD []))))
    else .obj (withheldRun fields)
  | other => other

def projectContent (projection : Projection) (method : Method) (result : Json) : Delivery :=
  if !method.projects then .result result
  else if !projection.runFound then .refused (notFoundError "Run")
  else match projection.guard with
    | .error error => .refused error
    | .ok available => .result (if available then result else withheld method result)

def deliver (projection : Projection) (method : Method) : Outcome → Delivery
  | .error value => .recordedError value
  | .result value => projectContent projection method value

def appServer (settings : Settings) : Service Key Entry Call Fault Outcome where
  key := Call.key
  script := mutate settings

def Blank (entry : Entry) : Prop := entry.row = none ∧ entry.effects = []

abbrev World := Shared Key Entry Call Fault Outcome

def mutations (settings : Settings) : System World (SessionAction Call) :=
  (appServer settings).system fun committed => ∀ key, Blank (committed key)

end Obsion.AppServer
