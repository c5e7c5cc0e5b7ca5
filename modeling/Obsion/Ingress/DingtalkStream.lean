import Obsion.Ingress.Envelopes

/-! # Trusted DingTalk events

`parse_dingtalk_http_event`: the tenant identity of a DingTalk callback, once the
webhook has verified its signature. -/

namespace Obsion.Ingress

structure DingTalkCredentials where
  appKey : String
  appSecret : String
  unifiedAppId : Option String := none
  robotCode : Option String := none

/-- Header names and values, in the order of the mapping. -/
abbrev Headers := List (String × String)

def maxEventBytes : Nat := 1048576

def eventIdKeys : List String :=
  ["eventId", "event_id", "messageId", "message_id", "id", "msgId"]

def installationIdKeys : List String :=
  ["installationId", "installation_id", "robotCode", "robot_code", "chatbotUserId"]

def corpIdKeys : List String := ["corpId", "corp_id", "chatbotCorpId", "senderCorpId"]

def appKeyKeys : List String := ["appKey", "app_key"]

def unifiedAppIdKeys : List String :=
  ["unifiedAppId", "unified_app_id", "eventUnifiedAppId", "event_unified_app_id"]

def robotCodeKeys : List String := ["robotCode", "robot_code"]

/-- `dict(headers)` as a source of identifiers. -/
def headerFields (headers : Headers) : Fields :=
  headers.map fun header => (header.1, .str header.2)

def identifier? : Option Json → Option String
  | some (.str value) => if strip value = "" then none else some (strip value)
  | _ => none

def firstIdentifier (sources : List Fields) (keys : List String) : Option String :=
  sources.findSome? fun source => keys.findSome? fun key => identifier? (source.get? key)

def requiredIdentifier (label : String) (sources : List Fields) (keys : List String) :
    Except Failure String :=
  match firstIdentifier sources keys with
  | some value => .ok value
  | none => im ("DingTalk Stream event requires a stable " ++ label)

def payloadObject (runtime : Runtime) : Payload → Except Failure Fields
  | .object fields => .ok fields
  | .text body =>
    if maxEventBytes < body.utf8ByteSize then
      im "DingTalk Stream event exceeded the size limit"
    else
      match runtime.jsonLoads body with
      | none => im "DingTalk Stream event was not valid JSON"
      | some (.obj fields) => .ok fields
      | some _ => im "DingTalk Stream event must be a JSON object"

def nonEmptyString? : Option Json → Option String
  | some (.str value) => if strip value = "" then none else some (strip value)
  | _ => none

def withText (payload : Fields) (content : String) : Fields :=
  ("text", .obj [("content", .str content)]) :: payload.filter fun field => field.1 != "text"

def normalizeChatbotPayload (runtime : Runtime) (payload : Fields) : Fields :=
  let messageType := runtime.text payload ["msgtype", "messageType"]
  if lower (if messageType = "" then "text" else messageType) ≠ "text" then payload
  else
    let block := object (payload.get? "text")
    let content :=
      match payload.get? "content" with
      | some (.obj content) => (Fields.get? content "content").orElse fun _ =>
        Fields.get? content "text"
      | other => other
    match ((nonEmptyString? (block.get? "content")).orElse fun _ =>
        nonEmptyString? (payload.get? "text")).orElse fun _ => nonEmptyString? content with
    | some text => withText payload text
    | none => payload

def vendorEventId (payload headers : Fields) : Except Failure String :=
  match firstIdentifier [payload] ["msgId"] with
  | some id => .ok id
  | none =>
    requiredIdentifier "vendor event id"
      [headers, payload, [("data", .obj payload), ("headers", .obj headers)]] eventIdKeys

def parseTrustedDingtalkEvent (runtime : Runtime) (payload headers : Fields) (appKey : String) :
    Except Failure InboundMessage := do
  let configuredAppKey := strip appKey
  if configuredAppKey = "" then im "DingTalk HTTP requires a configured app key"
  else
    let eventId ← vendorEventId payload headers
    let installationId ←
      requiredIdentifier "installation id" [payload, headers] installationIdKeys
    let corpId ← requiredIdentifier "corp id" [payload, headers] corpIdKeys
    let eventAppKey := firstIdentifier [payload, headers] appKeyKeys
    if eventAppKey.any fun key => key != configuredAppKey then
      im "DingTalk Stream event app key does not match the configured app key"
    else
      let inbound ← parseDingtalkObject runtime (normalizeChatbotPayload runtime payload)
      .ok { inbound with
        installationId := some installationId, corpId := some corpId
        appKey := some configuredAppKey, vendorEventId := some eventId }

/-- `source[key] != expected` on a present value. -/
def differs (value : Option Json) (expected : String) : Bool :=
  match value with
  | none => false
  | some (.str text) => text != expected
  | some _ => true

def validateDingtalkApplicationIdentity (data headers : Fields) (credentials : DingTalkCredentials)
    (inbound : InboundMessage) : Except Failure InboundMessage :=
  let expectedUnified := strip (credentials.unifiedAppId.getD "")
  let expectedRobot := strip (credentials.robotCode.getD "")
  if expectedUnified ≠ "" ∧ [headers, data].any (fun source =>
      unifiedAppIdKeys.any fun key => differs (source.get? key) expectedUnified) then
    im "DingTalk event unified application id does not match the configured robot"
  else if expectedRobot = "" then .ok inbound
  else
    match requiredIdentifier "robot code" [data, headers] robotCodeKeys with
    | .error failure => .error failure
    | .ok actual =>
      if actual ≠ expectedRobot then
        im "DingTalk event robot code does not match the configured robot"
      else .ok inbound

def parseDingtalkHttpEvent (runtime : Runtime) (payload : Payload) (appKey : String)
    (headers : Headers) (credentials : Option DingTalkCredentials) :
    Except Failure InboundMessage :=
  match payloadObject runtime payload with
  | .error failure => .error failure
  | .ok body =>
    match parseTrustedDingtalkEvent runtime body (headerFields headers) appKey with
    | .error failure => .error failure
    | .ok inbound =>
      match credentials with
      | none => .ok inbound
      | some found =>
        validateDingtalkApplicationIdentity body (headerFields headers) found inbound

end Obsion.Ingress
