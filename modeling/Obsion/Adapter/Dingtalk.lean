import Obsion.Adapter.Http

/-! # The DingTalk client

`obsion_im.dingtalk`: authentication, the one write of a message and the
classification of its answer. -/

namespace Obsion.Adapter

open Obsion.Lib
open Obsion.Ingress (DingTalkCredentials)

namespace Dingtalk

def isSuccessCode : Json → Bool
  | .str text => text == "0"
  | code => isZero code

def requireSuccess (library : Library) (credentials : DingTalkCredentials) (payload : Fields)
    (operation : String) (token : Option String) : Except Raised Unit :=
  let code := (payload.get? "errcode").filter fun code => !(code matches .null)
  if code.any isSuccessCode then .ok ()
  else if code.isNone ∧ (payload.get? "access_token").any Json.truthy then .ok ()
  else
    let rawMessage := library.text payload ["errmsg"]
    let safeMessage := redactVendorMessage
      (if rawMessage = "" then "request rejected" else rawMessage)
      [credentials.appKey, credentials.appSecret, token.getD ""]
    .error (.imError ("DingTalk " ++ operation ++ " failed (code " ++ safeCode library code ++
      "): " ++ safeMessage))

/-- The answer to a request of `_request_json` that is not retried. -/
def classify (response : Response) : Except Raised Fields :=
  if ¬ succeeded response then
    .error (.imError ("DingTalk HTTP request failed with status " ++ toString response.status))
  else if maxResponseBytes < response.contentLength then
    .error (.imError "DingTalk HTTP response exceeded the size limit")
  else
    match response.body with
    | .broken => .error .other
    | .invalid => .error (.imError "DingTalk HTTP response was not valid JSON")
    | .value (.obj payload) => .ok payload
    | .value _ => .error (.imError "DingTalk HTTP response must be a JSON object")

def requestJson (library : Library) (request : Act HttpOutcome) : Act Fields :=
  Adapter.requestJson library request classify
    "DingTalk HTTP request failed after bounded retries" 0 maxAttempts

def authenticate (library : Library) (credentials : DingTalkCredentials) : Act (String × Int) := do
  let payload ← requestJson library
    (.ask (Op.token .dingtalk credentials.appKey credentials.appSecret))
  .ofExcept (requireSuccess library credentials payload "authenticate" none)
  .ofExcept (issuedToken payload "access_token" "expires_in"
    "DingTalk authentication response did not contain an access token"
    "DingTalk authentication response did not contain a valid expiry")

def accessTokenValue (library : Library) (credentials : DingTalkCredentials) : Act String :=
  accessToken (authenticate library credentials)

/-- The end of `_send_json_once`: the object in the body of a success. -/
def writtenBody (response : Response) : Except Raised Fields :=
  match response.body with
  | .broken => .error .other
  | .invalid => .error (.outcomeUnknown "DingTalk delivery response was not valid JSON")
  | .value (.obj payload) => .ok payload
  | .value _ => .error (.outcomeUnknown "DingTalk delivery response must be a JSON object")

def writeResult (library : Library) : HttpOutcome → Except Raised Fields
  | .transportError => .error (.outcomeUnknown "DingTalk delivery transport outcome is unknown")
  | .otherError => .error .other
  | .response response =>
    if response.status = 429 then
      .error (.retryable "DingTalk rate limited the delivery before accepting it"
        (retryDelay library response 0))
    else if 500 ≤ response.status then
      .error (.outcomeUnknown "DingTalk delivery returned an ambiguous server failure")
    else if ¬ succeeded response then
      .error (.rejected
        ("DingTalk delivery was rejected with status " ++ toString response.status))
    else if maxResponseBytes < response.contentLength then
      .error (.outcomeUnknown "DingTalk delivery response exceeded the size limit")
    else writtenBody response

/-- `payload.get("messageId") or payload.get("message_id")`, stripped text only. -/
def messageId (payload : Fields) : String :=
  match ["messageId", "message_id"].findSome? fun key =>
      (payload.get? key).filter Json.truthy with
  | some (.str id) => strip id
  | _ => ""

/-- The receipt in the answer to the write, as `send_text` reads it. -/
def receipt (library : Library) (credentials : DingTalkCredentials) (token idempotencyKey : String)
    (outcome : HttpOutcome) : Except Raised String := do
  let payload ← writeResult library outcome
  match requireSuccess library credentials payload "send message" (some token) with
  | .error error => .error (.rejected error.message)
  | .ok () =>
    let id := messageId payload
    if id = "" then
      .error (.outcomeUnknown "DingTalk delivery did not return a vendor message receipt")
    else if 500 < id.length ∨ id = strip idempotencyKey then
      .error (.outcomeUnknown "DingTalk delivery returned an invalid vendor message receipt")
    else .ok id

def sendText (library : Library) (credentials : DingTalkCredentials)
    (chatId text idempotencyKey : String) : Act String := do
  if strip chatId = "" then .raise (.imError "DingTalk delivery requires a conversation id")
  else if strip text = "" then .raise (.imError "DingTalk delivery requires non-empty text")
  else if strip idempotencyKey = "" then
    .raise (.imError "DingTalk delivery requires an idempotency key")
  else
    let token ← preSendToken (accessTokenValue library credentials)
    let outcome ← .ask (Op.message
      { vendor := .dingtalk, token := token, receiver := strip chatId, text := strip text
        idempotencyKey := none })
    .ofExcept (receipt library credentials token idempotencyKey outcome)

end Dingtalk

end Obsion.Adapter
