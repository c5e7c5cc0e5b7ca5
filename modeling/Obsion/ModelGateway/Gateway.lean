import Obsion.Base.Decimal
import Obsion.ModelGateway.Responses

/-! # The attempts of a completion

`complete` asks the endpoints of a profile in turn.  Each attempt that sent its request
writes a row in a `finally` block, whatever became of the response. -/

namespace Obsion.ModelGateway

structure ModelTool where
  name : String
  inputSchema : Fields

structure Endpoint where
  id : Uuid
  /-- `provider_adapters.get(provider.casefold())` -/
  adapter : Option Adapter
  maxOutputTokens : Nat
  inputPrice : ℚ
  outputPrice : ℚ

/-- The arguments of `_complete`; the messages only matter by their estimated length. -/
structure CompletionRequest where
  profileId : Uuid
  fallback : Bool
  jsonMode : Bool
  tools : List ModelTool
  toolChoice : Option String
  estimatedInputTokens : Nat
  maxInputTokens : Option Nat
  maxOutputTokens : Option Nat
  maxCostAmount : Option ℚ

inductive Reply
  | success (response : Body)
  | failure
  | timeout
  | cancelled

/-- How the credential is resolved and the request built. -/
inductive Preparation
  | ready
  /-- an `ObsionError` -/
  | denied
  /-- a `ValueError` -/
  | invalid
  deriving DecidableEq

/-- An endpoint as `_complete` meets it. -/
structure Candidate where
  endpoint : Endpoint
  callId : Uuid
  /-- no time is left for the attempt -/
  expired : Bool
  /-- `validate_model_endpoint` accepts the address -/
  allowed : Bool
  preparation : Preparation
  reply : Reply

inductive Outcome
  | success
  | failed
  | timeout
  | cancelled
  deriving DecidableEq

structure ModelCall where
  id : Uuid
  profileId : Uuid
  endpointId : Uuid
  inputTokens : Int
  outputTokens : Int
  costAmount : ℚ
  outcome : Outcome

structure ModelResult where
  content : String
  profileId : Uuid
  endpointId : Uuid
  inputTokens : Int
  outputTokens : Int
  costAmount : ℚ
  finishReason : Option String
  toolCalls : List ModelToolCall
  callId : Uuid
  callIds : List Uuid

/-- The exceptions that leave `complete`. -/
inductive Failure
  /-- `ModelUnavailableError` -/
  | unavailable (timedOut : Bool) (callIds : List Uuid)
  /-- `BudgetExceededError` -/
  | budget (field : String)
  | cancelled
  /-- the address, the credential or the request was refused -/
  | refused (valueError : Bool)
  /-- the row has no room in its table -/
  | database
  | raised (raised : Raised)

/-- The parts of the gateway that are not its own code: Python, and whether arguments match a
schema. -/
structure Host where
  python : Python
  valid : Fields → Fields → Bool

/-! ## One attempt -/

def price (endpoint : Endpoint) (inputTokens outputTokens : Int) : ℚ :=
  Decimal.div
    (Decimal.add (Decimal.mul inputTokens endpoint.inputPrice)
      (Decimal.mul outputTokens endpoint.outputPrice)) 1000000

def outputLimit (request : CompletionRequest) (endpoint : Endpoint) : Nat :=
  min (request.maxOutputTokens.getD endpoint.maxOutputTokens) endpoint.maxOutputTokens

def estimatedCost (request : CompletionRequest) (endpoint : Endpoint) : ℚ :=
  price endpoint request.estimatedInputTokens (outputLimit request endpoint)

def checkCalls (host : Host) (tools : List ModelTool) :
    List String → List ModelToolCall → Checked Unit
  | _, [] => .ok ()
  | seen, call :: rest =>
    if call.id ∈ seen then .error "tool call ids must be unique"
    else
      match tools.find? fun tool => tool.name = call.name with
      | none => .error "provider requested an undeclared tool"
      | some tool =>
        if host.valid tool.inputSchema call.arguments then
          checkCalls host tools (call.id :: seen) rest
        else .error "tool call arguments do not match the declared schema"

def checkChoice (calls : List ModelToolCall) : Option String → Checked Unit
  | none => .ok ()
  | some choice =>
    if choice = "none" ∧ calls ≠ [] then
      .error "provider returned a tool call when tool_choice was none"
    else if choice = "required" ∧ calls = [] then .error "provider omitted a required tool call"
    else if choice ∉ ["auto", "none", "required"] ∧
        (calls = [] ∨ calls.any fun call => call.name ≠ choice) then
      .error "provider did not honor the selected tool"
    else .ok ()

def validateToolCalls (host : Host) (calls : List ModelToolCall) (tools : List ModelTool)
    (toolChoice : Option String) : Checked Unit := do
  checkCalls host tools [] calls
  checkChoice calls toolChoice

def jsonContent (python : Python) (content : String) : Except Raised Unit :=
  match python.loads content with
  | .ok (.obj _) => .ok ()
  | .ok _ => .error (.protocol "JSON mode must return a JSON object")
  | .error error => .error error.raised

def acceptCompletion (host : Host) (request : CompletionRequest) (completion : ProviderCompletion) :
    Except Raised Unit := do
  checked (validateToolCalls host completion.toolCalls request.tools request.toolChoice)
  if request.jsonMode && completion.toolCalls.isEmpty then
    jsonContent host.python completion.content
  else .ok ()

/-- How the `try` block of an attempt ends. -/
inductive Ending
  | completed (completion : ProviderCompletion)
  | cancelled
  | timeout
  | httpError
  | raised (raised : Raised)

/-- The usage that the `finally` block finds. -/
structure Usage where
  inputTokens : Int
  outputTokens : Int
  costAmount : ℚ

def Usage.zero : Usage := ⟨0, 0, 0⟩

def usageOf (endpoint : Endpoint) (completion : ProviderCompletion) : Usage where
  inputTokens := completion.inputTokens
  outputTokens := completion.outputTokens
  costAmount := price endpoint completion.inputTokens completion.outputTokens

/-- The `try` block: the usage it leaves and how it ends. -/
def converse (host : Host) (request : CompletionRequest) (endpoint : Endpoint) (adapter : Adapter) :
    Reply → Usage × Ending
  | .cancelled => (.zero, .cancelled)
  | .timeout => (.zero, .timeout)
  | .failure => (.zero, .httpError)
  | .success response =>
    match adapter.parseCompletionResponse host.python response with
    | .error raised => (.zero, .raised raised)
    | .ok completion =>
      match acceptCompletion host request completion with
      | .error raised => (usageOf endpoint completion, .raised raised)
      | .ok () => (usageOf endpoint completion, .completed completion)

def Raised.expected : Raised → Bool
  | .protocol _ | .decode => true
  | _ => false

/-- An exception that no clause expects leaves the outcome as it was. -/
def Ending.outcome : Ending → Outcome
  | .completed _ => .success
  | .cancelled => .cancelled
  | .timeout => .timeout
  | .httpError => .failed
  | .raised error => if error.expected then .failed else .success

def finish (request : CompletionRequest) (endpoint : Endpoint) (callId : Uuid) (usage : Usage) :
    Ending → Except Failure ModelResult
  | .completed completion =>
    .ok ⟨completion.content, request.profileId, endpoint.id, usage.inputTokens, usage.outputTokens,
      usage.costAmount, completion.finishReason, completion.toolCalls, callId, [callId]⟩
  | .cancelled => .error .cancelled
  | .timeout => .error (.unavailable true [callId])
  | .httpError => .error (.unavailable false [callId])
  | .raised raised =>
    .error (if raised.expected then .unavailable false [callId] else .raised raised)

def ModelCall.fits (call : ModelCall) : Bool :=
  fitsInteger call.inputTokens && fitsInteger call.outputTokens && fitsNumeric8 call.costAmount

def callRow (request : CompletionRequest) (candidate : Candidate) (usage : Usage) (ending : Ending) :
    ModelCall where
  id := candidate.callId
  profileId := request.profileId
  endpointId := candidate.endpoint.id
  inputTokens := usage.inputTokens
  outputTokens := usage.outputTokens
  costAmount := usage.costAmount
  outcome := ending.outcome

/-- The request is sent, and the row flushed in the `finally` block. -/
def send (host : Host) (request : CompletionRequest) (candidate : Candidate) (adapter : Adapter) :
    List ModelCall × Except Failure ModelResult :=
  let (usage, ending) := converse host request candidate.endpoint adapter candidate.reply
  let row := callRow request candidate usage ending
  if row.fits then ([row], finish request candidate.endpoint candidate.callId usage ending)
  else ([], .error .database)

def completeWithEndpoint (host : Host) (request : CompletionRequest) (candidate : Candidate) :
    List ModelCall × Except Failure ModelResult :=
  if candidate.allowed = false then ([], .error (.refused false))
  else
    match candidate.endpoint.adapter with
    | none => ([], .error (.unavailable false []))
    | some adapter =>
      if request.maxCostAmount.any (· < estimatedCost request candidate.endpoint) then
        ([], .error (.budget "cost_amount"))
      else
        match candidate.preparation with
        | .denied => ([], .error (.refused false))
        | .invalid => ([], .error (.refused true))
        | .ready => send host request candidate adapter

def tryEndpoints (host : Host) (request : CompletionRequest) (attempted : List Uuid)
    (timedOut : Bool) : List Candidate → List ModelCall × Except Failure ModelResult
  | [] => ([], .error (.unavailable timedOut attempted))
  | candidate :: rest =>
    if candidate.expired then ([], .error (.unavailable true attempted))
    else
      match completeWithEndpoint host request candidate with
      | (rows, .ok result) => (rows, .ok { result with callIds := attempted ++ result.callIds })
      | (rows, .error (.unavailable late callIds)) =>
        if request.fallback then
          let later := tryEndpoints host request (attempted ++ callIds) late rest
          (rows ++ later.1, later.2)
        else (rows, .error (.unavailable late callIds))
      | (rows, .error failure) => (rows, .error failure)

/-- `_complete`, from the endpoints that `_routes` returned. -/
def complete (host : Host) (request : CompletionRequest) (endpoints : List Candidate) :
    List ModelCall × Except Failure ModelResult :=
  if request.maxInputTokens.any (· < request.estimatedInputTokens) then
    ([], .error (.budget "input_tokens"))
  else
    tryEndpoints host request [] false (if request.fallback then endpoints else endpoints.take 1)

end Obsion.ModelGateway
