import Obsion.AppServer.Rows
import Obsion.Base.Wide

/-! # The connection of the App Server

`AppServerConnection._process` and what it calls: the parser of a frame, the two ladders of
handlers around a request, and the sending of the answer, which raises like everything
else. -/

namespace Obsion.AppServer.Frames

open Obsion.Wide
open Obsion.Harness (RunStatus)

/-! ## Messages -/

def str (value : String) : Value := .str (text value)

/-- A `dict` with literal keys. -/
def members (fields : List (String × Value)) : Members := fields.map fun field => (text field.1, field.2)

inductive RequestId
  | str (value : Text)
  | int (value : Int)

def RequestId.value : RequestId → Value
  | .str value => .str value
  | .int value => .int value

structure JsonRpcRequest where
  requestId : Option RequestId
  method : Text
  params : Members

structure ProtocolFailure where
  code : Int
  message : String
  requestId : Option RequestId := none
  data : Members := []

def parseError : Int := -32700
def invalidRequest : Int := -32600
def methodNotFound : Int := -32601
def invalidParams : Int := -32602
def internalError : Int := -32603

def idValue (requestId : Option RequestId) : Value := (requestId.map RequestId.value).getD .null

def errorMessage (id error : Value) : Value :=
  .obj (members [("jsonrpc", str "2.0"), ("id", id), ("error", error)])

def successResponse (id : RequestId) (result : Value) : Value :=
  .obj (members [("jsonrpc", str "2.0"), ("id", id.value), ("result", result)])

def errorResponse (requestId : Option RequestId) (code : Int) (message : String) (data : Members) : Value :=
  errorMessage (idValue requestId) (.obj (members [("code", .int code), ("message", str message)] ++
    if data.isEmpty then [] else members [("data", .obj data)]))

def notification (method : String) (params : Members) : Value :=
  .obj (members [("jsonrpc", str "2.0"), ("method", str method), ("params", .obj params)])

/-- What `parse_request` raises: a `ProtocolFailure`, or what `json.loads` raised. -/
inductive ParseError
  | failure (failure : ProtocolFailure)
  | undecoded (error : Undecoded)

/-- `none` for an id that is refused. -/
def readId (body : Members) : Option (Option RequestId) :=
  match get? body "id" with
  | none => some none
  | some (.str value) => some (some (.str value))
  | some (.int value) => some (some (.int value))
  | some _ => none

def readVersion (body : Members) : Bool :=
  match get? body "jsonrpc" with
  | some (.str version) => version = text "2.0"
  | _ => false

def readMethod (body : Members) : Option Text :=
  match get? body "method" with
  | some (.str method) => if method = [] ∨ 120 < method.length then none else some method
  | _ => none

def readParams (body : Members) : Option Members :=
  match get? body "params" with
  | none => some []
  | some (.obj params) => some params
  | some _ => none

def allowed : List Text := ["jsonrpc", "id", "method", "params"].map text

def unknownFields (body : Members) : List Text :=
  ((body.map Prod.fst).filter fun key => key ∉ allowed).insertionSort fun left right =>
    left.map CodePoint.code ≤ right.map CodePoint.code

def readRequest (body : Members) : Except ProtocolFailure JsonRpcRequest :=
  match readId body with
  | none => .error { code := invalidRequest, message := "Request id must be a non-null string or integer" }
  | some requestId =>
    if readVersion body = false then
      .error { code := invalidRequest, message := "jsonrpc must be exactly '2.0'", requestId }
    else
      match readMethod body with
      | none => .error { code := invalidRequest, message := "method must be a non-empty string", requestId }
      | some method =>
        match readParams body with
        | none => .error { code := invalidParams, message := "params must be an object", requestId }
        | some params =>
          if unknownFields body ≠ [] then
            .error
              { code := invalidRequest, message := "Request contains unknown fields"
                requestId
                data := members [("fields", .arr ((unknownFields body).map Value.str))] }
          else .ok ⟨requestId, method, params⟩

def parseRequest (depth : Nat) (raw : List Char) : Except ParseError JsonRpcRequest :=
  match loads depth raw with
  | .error .decode => .error (.failure { code := parseError, message := "Parse error" })
  | .error error => .error (.undecoded error)
  | .ok (.obj body) => (readRequest body).mapError .failure
  | .ok _ => .error (.failure { code := invalidRequest, message := "Request must be one JSON object" })

/-! ## The dispatcher -/

structure ObsionError where
  code : Text
  message : Text
  statusCode : Int
  details : Members

def conflictError (code message : String) (details : List (String × Value)) : ObsionError :=
  ⟨text code, text message, 409, members details⟩

def notFoundError (resource id : String) : ObsionError :=
  ⟨text "resource_not_found", text (resource ++ " was not found"), 404,
    members [("resource", str resource), ("id", str id)]⟩

def applicationErrorCode (statusCode : Int) : Int :=
  if statusCode = 401 ∨ statusCode = 403 then -32003
  else if statusCode = 404 then -32004
  else if statusCode = 409 then -32009
  else if statusCode = 422 then -32022
  else if statusCode = 429 then -32029
  else if 500 ≤ statusCode then -32050
  else -32000

def domainError (error : ObsionError) (correlationId : Uuid) : Value :=
  .obj (members [("code", .int (applicationErrorCode error.statusCode)), ("message", .str error.message),
    ("data", .obj (members [("code", .str error.code), ("status", .int error.statusCode),
      ("correlation_id", str correlationId.str), ("details", .obj error.details)]))])

def domainErrorResponse (id : RequestId) (error : ObsionError) (correlationId : Uuid) : Value :=
  errorMessage id.value (domainError error correlationId)

inductive Raised
  /-- `PydanticValidationError`, with its `errors(...)` -/
  | validation (issues : Value)
  | protocol (failure : ProtocolFailure)
  /-- `RecordedAppServerError` -/
  | recorded (error : Members)
  | obsion (error : ObsionError)
  | other

inductive Model
  | workspaceList
  | threadList
  | threadCreate
  | threadMutation
  | threadFork
  | threadRead
  | threadEvents
  | turnCreate
  | createTurnRequest
  | runRead
  | runMutation
  | runClarificationAnswer
  | clarificationAnswerSubmission
  | runEvents
  | approvalList
  | approvalDecide
  | artifactList
  | artifactGet

def operations : List (String × Model) :=
  [("workspace.list", .workspaceList), ("thread.list", .threadList), ("thread.create", .threadCreate),
    ("thread.archive", .threadMutation), ("thread.resume", .threadMutation), ("thread.fork", .threadFork),
    ("thread.turns", .threadRead), ("thread.runs", .threadRead), ("thread.events", .threadEvents),
    ("turn.create", .turnCreate), ("run.get", .runRead), ("run.cancel", .runMutation),
    ("run.replay", .runMutation), ("run.clarification.answer", .runClarificationAnswer),
    ("run.events", .runEvents), ("approval.list", .approvalList), ("approval.decide", .approvalDecide),
    ("artifact.list", .artifactList), ("artifact.get", .artifactGet)]

structure RunSubscribeParams where
  runId : Uuid
  afterSequence : Nat

structure Host where
  /-- the nesting that `json.loads` and `json.dumps` bear -/
  loadsDepth : Nat
  dumpsDepth : Nat
  roomy : 8 ≤ dumpsDepth
  /-- `model_validate`: the fields of the model, or the issues -/
  validate : Model → Members → Except Value Members
  emptyParams : Members → Except Value Unit
  runSubscribeParams : Members → Except Value RunSubscribeParams
  runUnsubscribeParams : Members → Except Value String
  maxMessageBytes : Nat
  maxSubscriptions : Nat
  fewSubscriptions : maxSubscriptions ≤ 256

/-- What the application layer answers; `invoke` takes the method and the validated models. -/
structure Application where
  runStatus : Uuid → Except Raised RunStatus
  invoke : Text → List Members → Except Raised Value

def Host.validated (host : Host) (model : Model) (params : Members) : Except Raised Members :=
  (host.validate model params).mapError .validation

def invoke (host : Host) (application : Application) (method : Text) (params : Members) :
    Except Raised Value :=
  match operations.find? fun operation => method = text operation.1 with
  | none =>
    .error (.protocol
      { code := methodNotFound, message := "Method not found", data := members [("method", .str method)] })
  | some (_, .turnCreate) => do
      let turn ← host.validated .turnCreate params
      let request ← host.validated .createTurnRequest
        (turn.filter fun field => field.1 ∉ ["client_request_id", "thread_id"].map text)
      application.invoke method [turn, request]
  | some (_, .runClarificationAnswer) => do
      let answer ← host.validated .runClarificationAnswer params
      let submission ← host.validated .clarificationAnswerSubmission
        (answer.filter fun field => field.1 ∈ ["expected_intent_revision", "answers"].map text)
      application.invoke method [answer, submission]
  | some (_, model) => do
      let validated ← host.validated model params
      application.invoke method [validated]

def dispatch (host : Host) (application : Application) (correlationId : Uuid) (id : RequestId)
    (method : Text) (params : Members) : Except Raised Value :=
  match invoke host application method params with
  | .ok result => .ok (successResponse id result)
  | .error (.validation issues) =>
    .ok (errorResponse id invalidParams "Invalid method params" (members [("issues", issues)]))
  | .error (.protocol failure) => .ok (errorResponse id failure.code failure.message failure.data)
  | .error (.recorded error) => .ok (errorMessage id.value (.obj error))
  | .error (.obsion error) => .ok (domainErrorResponse id error correlationId)
  | .error .other => .error .other

/-! ## The connection -/

structure RunSubscription where
  id : Uuid
  runId : Uuid
  cursor : Nat

structure Connection where
  subscriptions : List RunSubscription
  /-- what `_process` sent -/
  sent : List Value
  open_ : Bool

/-- A frame, with what the application answers while it is processed. -/
structure Arrival where
  raw : List Char
  application : Application
  correlationId : Uuid
  subscriptionId : Uuid
  /-- `utc_now().isoformat()` -/
  serverTime : String

/-- A coroutine of the connection: what it sent stays sent when it raises. -/
abbrev Io := ExceptT Raised (StateM Connection)

def ofExcept {α : Type} : Except Raised α → Io α
  | .ok value => pure value
  | .error raised => throw raised

def validated {α : Type} (result : Except Value α) : Io α := ofExcept (result.mapError .validation)

def sendJson (body : Value) : Io Unit :=
  modify fun connection => { connection with sent := connection.sent ++ [body] }

def send (host : Host) (body : Value) : Io Unit :=
  if writes host.dumpsDepth body then sendJson body else throw .other

def subscriptionResult (subscription : RunSubscription) : List (String × Value) :=
  [("subscription_id", str subscription.id.str), ("run_id", str subscription.runId.str),
    ("after_sequence", .int subscription.cursor)]

def subscribe (host : Host) (arrival : Arrival) (id : RequestId) (params : Members) : Io Unit := do
  let params ← validated (host.runSubscribeParams params)
  let connection ← get
  if host.maxSubscriptions ≤ connection.subscriptions.length then
    throw (.obsion (conflictError "subscription_limit_reached"
      "The connection subscription limit has been reached" [("limit", .int host.maxSubscriptions)]))
  else
    let status ← ofExcept (arrival.application.runStatus params.runId)
    let subscription : RunSubscription := ⟨arrival.subscriptionId, params.runId, params.afterSequence⟩
    send host (successResponse id
      (.obj (members (subscriptionResult subscription ++ [("run_status", str status.str)]))))
    modify fun connection =>
      { connection with subscriptions := connection.subscriptions ++ [subscription] }

def unsubscribe (host : Host) (id : RequestId) (params : Members) : Io Unit := do
  let subscriptionId ← validated (host.runUnsubscribeParams params)
  let connection ← get
  match connection.subscriptions.find? fun subscription => subscription.id.str = subscriptionId with
  | none => throw (.obsion (notFoundError "Run subscription" subscriptionId))
  | some subscription =>
    send host (successResponse id (.obj (members (subscriptionResult subscription))))
    modify fun connection => { connection with
      subscriptions := connection.subscriptions.filter fun other => other.id ≠ subscription.id }

def answer (host : Host) (arrival : Arrival) (id : RequestId) (method : Text) (params : Members) :
    Io Unit :=
  if method = text "server.initialize" then
    throw (.obsion (conflictError "connection_already_initialized"
      "The connection principal and protocol are already initialized" []))
  else if method = text "server.ping" then do
    validated (host.emptyParams params)
    send host (successResponse id (.obj (members [("server_time", str arrival.serverTime)])))
  else if method = text "run.subscribe" then subscribe host arrival id params
  else if method = text "run.unsubscribe" then unsubscribe host id params
  else do
    let response ← ofExcept (dispatch host arrival.application arrival.correlationId id method params)
    send host response

def recover (host : Host) (arrival : Arrival) (id : RequestId) : Raised → Io Unit
  | .validation issues =>
    send host (errorResponse id invalidParams "Invalid method params" (members [("issues", issues)]))
  | .obsion error => send host (domainErrorResponse id error arrival.correlationId)
  | _ =>
    send host (errorResponse id internalError "Internal error"
      (members [("correlation_id", str arrival.correlationId.str)]))

def process (host : Host) (arrival : Arrival) : Io Unit :=
  match parseRequest host.loadsDepth arrival.raw with
  | .error (.undecoded _) => throw .other
  | .error (.failure failure) =>
    send host (errorResponse failure.requestId failure.code failure.message failure.data)
  | .ok request =>
    match request.requestId with
    | none =>
      if request.method = text "server.ping" then
        send host (notification "server.pong" (members [("server_time", str arrival.serverTime)]))
      else
        send host (notification "server.warning"
          (members [("code", str "client_notification_ignored"), ("method", .str request.method)]))
    | some id =>
      tryCatch (answer host arrival id request.method request.params) (recover host arrival id)

inductive Action
  | frame (arrival : Arrival)
  /-- the poller moves cursors and drops subscriptions -/
  | poll (subscriptions : List RunSubscription)

/-- The loop of `run` around one frame: an exception ends the connection. -/
def receive (host : Host) (arrival : Arrival) (before : Connection) : Connection :=
  match process host arrival before with
  | (.ok _, after) => after
  | (.error _, after) => { after with subscriptions := [], open_ := false }

inductive Step (host : Host) (before : Connection) : Action → Connection → Prop
  | frame {arrival : Arrival} (isOpen : before.open_ = true)
      (small : (arrival.raw.map Char.utf8Size).sum ≤ host.maxMessageBytes) :
      Step host before (.frame arrival) (receive host arrival before)
  | poll {subscriptions : List RunSubscription} (isOpen : before.open_ = true)
      (known : (subscriptions.map RunSubscription.id).Sublist (before.subscriptions.map RunSubscription.id)) :
      Step host before (.poll subscriptions) { before with subscriptions }

def Initialized (connection : Connection) : Prop :=
  connection.subscriptions = [] ∧ connection.sent = [] ∧ connection.open_ = true

def connectionSystem (host : Host) : Lib.System Connection Action where
  init := Initialized
  step before action after := Step host before action after

end Obsion.AppServer.Frames
