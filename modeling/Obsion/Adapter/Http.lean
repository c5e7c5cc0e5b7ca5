import Obsion.Ingress.Signatures
import Obsion.Lib.Program

/-! # The environment of the delivery adapters

What `obsion_im` asks of the vendor's HTTP service and of the control plane while
it delivers, the exceptions it classifies, and the parts that the Feishu and the
DingTalk client share: the access token cache and the bounded retries of a
request without side effects. -/

namespace Obsion.Adapter

open Obsion.Lib
open Obsion.Ingress (Runtime utf8 hexDigest normalizeChannel)

/-- The exception classes that the delivery ladders tell apart. -/
inductive Raised
  | imError (message : String)
  /-- `FeishuDeniedError` -/
  | denied (message : String)
  /-- `ImDeliveryRejectedError` -/
  | rejected (message : String)
  /-- `ImDeliveryPreSendError` -/
  | preSend (message : String)
  /-- `ImDeliveryOutcomeUnknownError` -/
  | outcomeUnknown (message : String)
  /-- `ImDeliveryRetryableError` -/
  | retryable (message : String) (retryAfterSeconds : Rat)
  /-- An exception that is not an `ImError`. -/
  | other

def Raised.isImError : Raised → Bool
  | .other => false
  | _ => true

def Raised.message : Raised → String
  | .imError message => message
  | .denied message => message
  | .rejected message => message
  | .preSend message => message
  | .outcomeUnknown message => message
  | .retryable message _ => message
  | .other => ""

/-! ## Requests and their answers -/

inductive Vendor
  | feishu
  | dingtalk
  deriving DecidableEq

inductive Body
  /-- It raises `ValueError`. -/
  | invalid
  /-- It raises another exception. -/
  | broken
  | value (json : Json)

structure Response where
  status : Nat
  retryAfter : Option String
  contentLength : Nat
  body : Body

inductive HttpOutcome
  /-- `httpx.TransportError` -/
  | transportError
  /-- Another exception of the request. -/
  | otherError
  | response (response : Response)

structure MessagePost where
  vendor : Vendor
  token : String
  receiver : String
  text : String
  /-- `uuid`, which only Feishu accepts. -/
  idempotencyKey : Option String

inductive Report
  | complete (deliveryId vendorMessageId : String) (claimGeneration : Option Int)
      (workerId : Option String)
  | fail (deliveryId failureCode : String) (claimGeneration : Option Int)
      (workerId : Option String) (retryable : Bool) (retryAfterSeconds : Option Rat)
  | unknown (deliveryId : String) (claimGeneration : Option Int) (workerId : Option String)

inductive Reply (α : Type)
  | returned (value : α)
  | raised

inductive Op
  | clock
  | sleep (seconds : Rat)
  /-- The authentication request of a client. -/
  | token (vendor : Vendor) (identity secret : String)
  | message (post : MessagePost)
  | stopped
  | claim (channel workerId : String)
  | report (report : Report)
  | createImMessage (channel senderId conversationId text : String)
      (senderDisplay : Option String)
  /-- `wait_for_run`, `list_run_artifacts` and `_answer_from`. -/
  | answer (runId : String)
  | prepare (runId workerId : String)

abbrev Answer : Op → Type
  | .clock => Time
  | .sleep _ => Unit
  | .token _ _ _ => HttpOutcome
  | .message _ => HttpOutcome
  | .stopped => Bool
  | .claim _ _ => Reply (Option Fields)
  | .report _ => Reply Unit
  | .createImMessage _ _ _ _ _ => Reply Fields
  | .answer _ => Reply String
  | .prepare _ _ => Reply Fields

/-- `_tenant_token` or `_access_token`, with its expiry. -/
structure TokenCache where
  token : Option String := none
  expiresAt : Time := 0

abbrev Act := Action Op Answer TokenCache Raised

abbrev Trace := List (Event Answer)

def returned {α : Type} : Reply α → Act α
  | .returned value => pure value
  | .raised => .raise .other

def report (report : Report) : Act Unit := do
  returned (← .ask (Op.report report))

/-! ## JSON fields -/

structure Library extends Runtime where
  /-- `min(5.0, max(0.0, float(text)))`; `none` where `float` raises `ValueError`. -/
  clampSeconds : String → Option Rat

def isZero : Json → Bool
  | .int value => value == 0
  | .bool value => !value
  | .float text => !(Json.float text).truthy
  | _ => false

def intValue? : Json → Option Int
  | .int value => some value
  | .bool value => some (if value then 1 else 0)
  | _ => none

/-- `safe_code`: the number, or `unknown`. -/
def safeCode (library : Library) (code : Option Json) : String :=
  match code with
  | some (.int value) => library.str (.int value)
  | some (.bool value) => library.str (.bool value)
  | _ => "unknown"

def redactVendorMessage (message : String) (secrets : List String) : String :=
  let line := (message.replace "\r" " ").replace "\n" " "
  let safe := secrets.foldl
    (fun safe secret => if secret = "" then safe else safe.replace secret "[redacted]") line
  String.ofList (safe.toList.take 240)

def maxResponseBytes : Nat := 1048576

def maxAttempts : Nat := 3

def retryableStatusCodes : List Nat := [429, 500, 502, 503, 504]

def succeeded (response : Response) : Bool := 200 ≤ response.status && response.status < 300

def retryDelay (library : Library) (response : Response) (attempt : Nat) : Rat :=
  match (response.retryAfter.filter (· != "")).bind library.clampSeconds with
  | some delay => delay
  | none => 1 / 4 * 2 ^ attempt

def sleep (seconds : Rat) : Act Unit := .ask (Op.sleep seconds)

/-- `_request_json`: the attempts from the given one on. -/
def requestJson (library : Library) (request : Act HttpOutcome)
    (classify : Response → Except Raised Fields) (exhausted : String) (attempt : Nat) :
    (remaining : Nat) → Act Fields
  | 0 => .raise (.imError exhausted)
  | remaining + 1 => do
      match ← request with
      | .otherError => .raise .other
      | .transportError =>
        if remaining = 0 then .raise (.imError exhausted)
        else
          sleep (1 / 4 * 2 ^ attempt)
          requestJson library request classify exhausted (attempt + 1) remaining
      | .response response =>
        if response.status ∈ retryableStatusCodes ∧ remaining ≠ 0 then
          sleep (retryDelay library response attempt)
          requestJson library request classify exhausted (attempt + 1) remaining
        else .ofExcept (classify response)

def cachedToken : Act (Option String) := do
  let cache ← .read
  match cache.token.filter (· != "") with
  | none => pure none
  | some token =>
    let now ← .ask Op.clock
    if now < cache.expiresAt then pure (some token) else pure none

def storeToken (token : String) (expire : Int) : Act String := do
  let now ← .ask Op.clock
  .write { token := some token, expiresAt := now + seconds (max 1 (expire - 60)) }
  pure token

/-- The token and its lifetime in the answer to an authentication. -/
def issuedToken (payload : Fields) (tokenKey expireKey tokenMissing expireInvalid : String) :
    Except Raised (String × Int) :=
  match payload.get? tokenKey with
  | some (.str token) =>
    if token = "" then .error (.imError tokenMissing)
    else
      match (payload.get? expireKey).bind intValue? with
      | none => .error (.imError expireInvalid)
      | some expire =>
        if expire ≤ 0 then .error (.imError expireInvalid) else .ok (token, expire)
  | _ => .error (.imError tokenMissing)

/-- The token, from the cache or from a fresh authentication; the cache is looked at
again once the lock is held. -/
def accessToken (authenticate : Act (String × Int)) : Act String := do
  match ← cachedToken with
  | some token => pure token
  | none =>
    match ← cachedToken with
    | some token => pure token
    | none =>
      let (token, expire) ← authenticate
      storeToken token expire

def preSendToken (token : Act String) : Act String := do
  match ← token.attempt with
  | .ok token => pure token
  | .error error =>
    if error.isImError then .raise (.preSend "Authentication failed before sending the message")
    else .raise error

end Obsion.Adapter
