import Obsion.Adapter.Http

/-! # The Feishu client

`obsion_im.feishu`: authentication, the one write of a message and the
classification of its answer. -/

namespace Obsion.Adapter

open Obsion.Lib

structure FeishuCredentials where
  appId : String
  appSecret : String

namespace Feishu

def deniedVendorCodes : List Int := [99991663, 99991664, 99991668, 99991672]

def requireSuccess (library : Library) (credentials : FeishuCredentials) (payload : Fields)
    (operation : String) (token : Option String) : Except Raised Unit :=
  let code := payload.get? "code"
  if code.any isZero then .ok ()
  else
    let rawMessage := library.text payload ["msg"]
    let safeMessage := redactVendorMessage
      (if rawMessage = "" then "request rejected" else rawMessage)
      [credentials.appId, credentials.appSecret, token.getD ""]
    if (code.bind intValue?).any (· ∈ deniedVendorCodes) then
      .error (.denied ("Feishu " ++ operation ++ " was denied (code " ++ safeCode library code ++
        ")"))
    else
      .error (.imError ("Feishu " ++ operation ++ " failed (code " ++ safeCode library code ++
        "): " ++ safeMessage))

/-- The object of a response; one that is not a success may have none. -/
def payloadObject (response : Response) : Except Raised Fields :=
  match response.body with
  | .broken => .error .other
  | .invalid =>
    if succeeded response then .error (.imError "Feishu HTTP response was not valid JSON")
    else .ok []
  | .value (.obj payload) => .ok payload
  | .value _ =>
    if succeeded response then .error (.imError "Feishu HTTP response must be a JSON object")
    else .ok []

/-- `payload.get("code") not in {None, 0}`, which raises on a container. -/
def hasVendorCode (payload : Fields) : Except Raised Bool :=
  match payload.get? "code" with
  | none => .ok false
  | some .null => .ok false
  | some (.arr _) => .error .other
  | some (.obj _) => .error .other
  | some code => .ok (!isZero code)

def classify (library : Library) (credentials : FeishuCredentials) (response : Response) :
    Except Raised Fields := do
  if maxResponseBytes < response.contentLength then
    .error (.imError "Feishu HTTP response exceeded the size limit")
  else
    let payload ← payloadObject response
    if response.status = 401 ∨ response.status = 403 then
      .error (.denied "Feishu denied the request")
    else if succeeded response then .ok payload
    else
      if ← hasVendorCode payload then
        requireSuccess library credentials payload "request" none
      .error (.imError ("Feishu HTTP request failed with status " ++ toString response.status))

def requestJson (library : Library) (credentials : FeishuCredentials)
    (request : Act HttpOutcome) : Act Fields :=
  Adapter.requestJson library request (classify library credentials)
    "Feishu HTTP request failed after bounded retries" 0 maxAttempts

def authenticate (library : Library) (credentials : FeishuCredentials) : Act (String × Int) := do
  let payload ← requestJson library credentials
    (.ask (Op.token .feishu credentials.appId credentials.appSecret))
  .ofExcept (requireSuccess library credentials payload "authenticate" none)
  .ofExcept (issuedToken payload "tenant_access_token" "expire"
    "Feishu authentication response did not contain a tenant token"
    "Feishu authentication response did not contain a valid expiry")

def tenantAccessToken (library : Library) (credentials : FeishuCredentials) : Act String :=
  accessToken (authenticate library credentials)

/-- `ImDeliveryRejectedError` for an answer that is not a success. -/
def rejectedStatus {α : Type} (response : Response) : Except Raised α :=
  .error (.rejected ("Feishu delivery was rejected with status " ++ toString response.status))

/-- The end of `_send_json_once`: the object in the body of the answer. -/
def writtenBody (library : Library) (credentials : FeishuCredentials) (token : String)
    (response : Response) : Except Raised Fields :=
  match response.body with
  | .broken => .error .other
  | .invalid =>
    if succeeded response then
      .error (.outcomeUnknown "Feishu delivery response was not valid JSON")
    else rejectedStatus response
  | .value (.obj payload) =>
    if succeeded response then .ok payload
    else
      match requireSuccess library credentials payload "send message" (some token) with
      | .error error => .error (.rejected error.message)
      | .ok () => rejectedStatus response
  | .value _ =>
    if succeeded response then
      .error (.outcomeUnknown "Feishu delivery response must be a JSON object")
    else rejectedStatus response

/-- The classification in `_send_json_once`. -/
def writeResult (library : Library) (credentials : FeishuCredentials) (token : String) :
    HttpOutcome → Except Raised Fields
  | .transportError => .error (.outcomeUnknown "Feishu delivery transport outcome is unknown")
  | .otherError => .error .other
  | .response response =>
    if response.status = 429 then
      .error (.retryable "Feishu rate limited the delivery before accepting it"
        (retryDelay library response 0))
    else if 500 ≤ response.status then
      .error (.outcomeUnknown "Feishu delivery returned an ambiguous server failure")
    else if response.status = 401 ∨ response.status = 403 then
      .error (.rejected "Feishu denied the delivery request")
    else if maxResponseBytes < response.contentLength then
      .error (.outcomeUnknown "Feishu delivery response exceeded the size limit")
    else writtenBody library credentials token response

def messageId (library : Library) (payload : Fields) : String :=
  match payload.get? "data" with
  | some (.obj data) => library.text data ["message_id"]
  | _ => ""

def receipt (library : Library) (credentials : FeishuCredentials) (token : String)
    (outcome : HttpOutcome) : Except Raised String := do
  let payload ← writeResult library credentials token outcome
  match requireSuccess library credentials payload "send message" (some token) with
  | .error error => .error (.rejected error.message)
  | .ok () =>
    if messageId library payload = "" then
      .error (.outcomeUnknown "Feishu send message response did not contain a message_id")
    else .ok (messageId library payload)

def sendText (library : Library) (credentials : FeishuCredentials)
    (chatId text idempotencyKey : String) : Act String := do
  if strip chatId = "" then .raise (.imError "Feishu delivery requires a chat_id")
  else if strip text = "" then .raise (.imError "Feishu delivery requires non-empty text")
  else
    let token ← preSendToken (tenantAccessToken library credentials)
    let outcome ← .ask (Op.message
      { vendor := .feishu, token := token, receiver := strip chatId, text := strip text
        idempotencyKey := some idempotencyKey })
    .ofExcept (receipt library credentials token outcome)

end Feishu

end Obsion.Adapter
