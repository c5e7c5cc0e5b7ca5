import Obsion.Base.Json

/-! # Inbound envelopes

`obsion_im.envelopes`: the vendor payloads of Feishu, DingTalk and WeCom.  JSON
parsing and dumping, the `repr` of containers and the cryptographic primitives
come from the runtime and are an argument. -/

namespace Obsion.Ingress

/-- `ImError`, or another exception that also ends the request. -/
inductive Failure
  | imError (message : String)
  | other
  deriving DecidableEq, Repr

abbrev Bytes := List UInt8

/-- What the standard library and the cryptography package compute. -/
structure Runtime where
  /-- `json.loads`; `none` is a decoding error. -/
  jsonLoads : String → Option Json
  /-- `json.dumps` with sorted keys and compact separators. -/
  jsonDumps : Json → String
  /-- `str()` of a list or a dict. -/
  repr : Json → String
  sha256 : Bytes → Bytes
  sha1 : Bytes → Bytes
  hmacSha256 : Bytes → Bytes → Bytes
  base64Decode : String → Option Bytes
  base64Encode : Bytes → String
  /-- AES-CBC decryption: key, initialization vector, data. -/
  aesCbcDecrypt : Bytes → Bytes → Bytes → Bytes
  utf8Decode : Bytes → Option String

def utf8 (text : String) : Bytes := text.toUTF8.toList

def im {α : Type} (message : String) : Except Failure α := .error (.imError message)

def Runtime.str (runtime : Runtime) : Json → String
  | .null => "None"
  | .bool true => "True"
  | .bool false => "False"
  | .int value => toString value
  | .float text => text
  | .str text => text
  | .arr values => runtime.repr (.arr values)
  | .obj fields => runtime.repr (.obj fields)

/-- `str(fields.get(first) or fields.get(second) or ... or "")` -/
def Runtime.text (runtime : Runtime) (fields : Fields) (keys : List String) : String :=
  match keys.findSome? fun key => (fields.get? key).filter Json.truthy with
  | none => ""
  | some value => runtime.str value

def object : Option Json → Fields
  | some (.obj fields) => fields
  | _ => []

def optionalText (runtime : Runtime) (value : Option Json) : Option String :=
  match value with
  | none => none
  | some .null => none
  | some value =>
    let text := strip (runtime.str value)
    if text = "" then none else some text

/-- The case folding of `re.IGNORECASE` on the letters of the tags. -/
def foldChar (char : Char) : Char :=
  match char.toNat with
  | 0x17F => 's'
  | 0x212A => 'k'
  | 0x130 => 'i'
  | 0x131 => 'i'
  | _ => char.toLower

def after? (pattern : List Char) : List Char → Option (List Char)
  | [] => if pattern.isEmpty then some [] else none
  | char :: rest =>
    if pattern.isPrefixOf ((char :: rest).map foldChar) then
      some ((char :: rest).drop pattern.length)
    else after? pattern rest

def before? (pattern : List Char) : List Char → Option (List Char)
  | [] => if pattern.isEmpty then some [] else none
  | char :: rest =>
    if pattern.isPrefixOf ((char :: rest).map foldChar) then some []
    else (before? pattern rest).map (char :: ·)

/-- `_xml_field`: the shortest text between the first pair of tags. -/
def xmlField (document tag : String) : String :=
  let fold := fun text : String => text.toList.map foldChar
  match (after? (fold ("<" ++ tag ++ ">")) document.toList).bind
      (before? (fold ("</" ++ tag ++ ">"))) with
  | none => ""
  | some matched =>
    let value := strip (String.ofList matched)
    if startsWith value "<![CDATA[" && endsWith value "]]>" then
      strip (String.ofList ((value.toList.drop 9).take (value.length - 12)))
    else value

/-! ## Messages -/

structure InboundMessage where
  conversationId : String
  text : String
  senderId : String
  senderDisplay : Option String
  channel : String
  installationId : Option String := none
  corpId : Option String := none
  appKey : Option String := none
  vendorEventId : Option String := none

inductive Inbound
  | message (message : InboundMessage)
  | urlVerification (challenge channel : String)

inductive Payload
  | object (fields : Fields)
  | text (body : String)

def requireObject (label : String) : Payload → Except Failure Fields
  | .object fields => .ok fields
  | .text _ => im (label ++ " must be a JSON object")

def signatureKeys : List String := ["timestamp", "nonce", "signature", "sign", "msg_signature"]

def eventKeys : List String :=
  ["schema", "header", "senderStaffId", "senderId", "FromUserName", "message"]

def signedEvent? (body : Fields) : Option Fields :=
  match body.get? "event" with
  | some (.obj event) =>
    if signatureKeys.any body.has && eventKeys.any (Fields.has event) then some event else none
  | _ => none

def unwrapSigned (body : Fields) : Fields := (signedEvent? body).getD body

def feishuMessageType (runtime : Runtime) (message : Fields) : String :=
  runtime.text message ["message_type", "msg_type"]

def feishuContent (runtime : Runtime) (message : Fields) : String :=
  match message.get? "content" with
  | some (.obj content) => strip (runtime.text content ["text"])
  | some (.str raw) =>
    if strip raw = "" then ""
    else
      match runtime.jsonLoads raw with
      | some (.obj parsed) => strip (runtime.text parsed ["text"])
      | _ => strip raw
  | _ => ""

def feishuText (runtime : Runtime) (message : Fields) : Except Failure String :=
  if feishuMessageType runtime message ≠ "" ∧ feishuMessageType runtime message ≠ "text" then
    im "Feishu inbound only accepts text messages"
  else .ok (feishuContent runtime message)

def feishuEventType (runtime : Runtime) (body : Fields) : String :=
  let headerType := runtime.text (object (body.get? "header")) ["event_type"]
  if headerType = "" then runtime.text body ["event_type"] else headerType

def feishuNested (body : Fields) (key : String) : Fields :=
  let event := object (body.get? "event")
  object (((event.get? key).filter Json.truthy).orElse fun _ => body.get? key)

def feishuSenderId (runtime : Runtime) (body : Fields) : String :=
  let sender := feishuNested body "sender"
  let ids := runtime.text (object (sender.get? "sender_id")) ["open_id", "user_id"]
  strip (if ids = "" then runtime.text sender ["open_id"] else ids)

def feishuConversationId (runtime : Runtime) (body : Fields) : String :=
  strip (runtime.text (feishuNested body "message") ["chat_id"])

/-- The message of a Feishu event that is not a URL verification. -/
def feishuMessage (runtime : Runtime) (body : Fields) : Except Failure Inbound :=
  if feishuEventType runtime body ≠ ""
      ∧ feishuEventType runtime body ≠ "im.message.receive_v1" then
    im "Feishu inbound only accepts im.message.receive_v1"
  else
    match feishuText runtime (feishuNested body "message") with
    | .error failure => .error failure
    | .ok text =>
      if feishuSenderId runtime body = "" then
        im "Feishu inbound requires a stable open_id or user_id"
      else if feishuConversationId runtime body = "" then im "Feishu inbound requires chat_id"
      else if text = "" then im "Feishu inbound requires text message content"
      else .ok (.message
        { conversationId := feishuConversationId runtime body, text := text
          senderId := feishuSenderId runtime body, senderDisplay := none, channel := "feishu" })

def parseFeishuBody (runtime : Runtime) (body : Fields) : Except Failure Inbound :=
  if runtime.text body ["type"] = "url_verification" then
    let challenge := strip (runtime.text body ["challenge"])
    if challenge = "" then im "Feishu URL verification requires a challenge"
    else .ok (.urlVerification challenge "feishu")
  else feishuMessage runtime body

def parseFeishu (runtime : Runtime) (body : Fields) : Except Failure Inbound :=
  parseFeishuBody runtime (unwrapSigned body)

def dingtalkText (runtime : Runtime) (body : Fields) : String :=
  match body.get? "text" with
  | some (.obj block) => strip (runtime.text block ["content"])
  | some (.str text) => strip text
  | _ => ""

def dingtalkSenderId (runtime : Runtime) (body : Fields) : String :=
  strip (runtime.text body ["senderStaffId", "senderId"])

def dingtalkConversationId (runtime : Runtime) (body : Fields) : String :=
  strip (runtime.text body ["conversationId"])

def parseDingtalkObject (runtime : Runtime) (envelope : Fields) : Except Failure InboundMessage :=
  let body := unwrapSigned envelope
  if dingtalkSenderId runtime body = "" then
    im "DingTalk inbound requires senderStaffId. Nicknames cannot authorize."
  else if dingtalkConversationId runtime body = "" then
    im "DingTalk inbound requires conversationId"
  else if dingtalkText runtime body = "" then im "DingTalk inbound requires text content"
  else .ok
    { conversationId := dingtalkConversationId runtime body, text := dingtalkText runtime body
      senderId := dingtalkSenderId runtime body
      senderDisplay := optionalText runtime (body.get? "senderNick"), channel := "dingtalk" }

def parseDingtalk (runtime : Runtime) (payload : Payload) : Except Failure InboundMessage :=
  match requireObject "Vendor inbound" payload with
  | .error failure => .error failure
  | .ok envelope => parseDingtalkObject runtime envelope

/-- The message of a WeCom text, from its type, sender, chat and content fields. -/
def wecomMessage (msgType senderId conversationId text : String) : Except Failure Inbound :=
  if msgType ≠ "" ∧ msgType ≠ "text" then im "WeCom inbound only accepts text messages"
  else if senderId = "" then im "WeCom inbound requires FromUserName"
  else if text = "" then im "WeCom inbound requires Content"
  else .ok (.message
    { conversationId := conversationId, text := text, senderId := senderId, senderDisplay := none
      channel := "wecom" })

def parseWecomXml (document : String) : Except Failure Inbound :=
  let senderId := xmlField document "FromUserName"
  let chat := xmlField document "ChatId"
  wecomMessage (lower (xmlField document "MsgType")) senderId
    (if chat = "" then senderId else chat) (xmlField document "Content")

def parseWecomObject (runtime : Runtime) (fields : Fields) : Except Failure Inbound :=
  if runtime.text fields ["type"] = "url_verification" then
    let challenge := strip (runtime.text fields ["challenge"])
    if challenge = "" then im "WeCom URL verification requires a challenge"
    else .ok (.urlVerification challenge "wecom")
  else
    let body := unwrapSigned fields
    let msgType := runtime.text body ["MsgType"]
    wecomMessage (lower (strip (if msgType = "" then "text" else msgType)))
      (strip (runtime.text body ["FromUserName"]))
      (strip (runtime.text body ["ChatId", "FromUserName"]))
      (strip (runtime.text body ["Content"]))

def parseWecom (runtime : Runtime) : Payload → Except Failure Inbound
  | .object fields => parseWecomObject runtime fields
  | .text body =>
    if startsWith (lstrip body) "<" then parseWecomXml body
    else im "Vendor inbound must be a JSON object"

def wecomFields (runtime : Runtime) : Payload → String × String × String
  | .text body => (xmlField body "Encrypt", xmlField body "Content", xmlField body "FromUserName")
  | .object fields =>
    (strip (runtime.text fields ["Encrypt", "encrypt"]), strip (runtime.text fields ["Content"]),
      strip (runtime.text fields ["FromUserName"]))

def rejectWecomCiphertext (runtime : Runtime) (payload : Payload) : Except Failure Unit :=
  let (encrypt, content, sender) := wecomFields runtime payload
  if encrypt = "" then .ok ()
  else if content ≠ "" ∨ sender ≠ "" then
    im "WeCom inbound must not mix Encrypt with plaintext message fields"
  else im "WeCom AES ciphertext decrypt requires OBSION_WECOM_ENCODING_AES_KEY"

def parseDevelopment (runtime : Runtime) (payload : Payload) : Except Failure Inbound :=
  match requireObject "Development inbound" payload with
  | .error failure => .error failure
  | .ok body => .ok (.message
      { conversationId := runtime.text body ["conversation_id"]
        text := runtime.text body ["text"], senderId := runtime.text body ["sender_id"]
        senderDisplay := optionalText runtime (body.get? "sender_display")
        channel := "development" })

def normalizeChannel (channel : String) : String :=
  match lower (strip channel) with
  | "lark" => "feishu"
  | "dingding" => "dingtalk"
  | "wechat_work" => "wecom"
  | other => other

def parseInbound (runtime : Runtime) (channel : String) (payload : Payload) :
    Except Failure Inbound :=
  match normalizeChannel channel with
  | "wecom" =>
    match rejectWecomCiphertext runtime payload with
    | .error failure => .error failure
    | .ok () => parseWecom runtime payload
  | "development" => parseDevelopment runtime payload
  | "feishu" =>
    match requireObject "Vendor inbound" payload with
    | .error failure => .error failure
    | .ok body => parseFeishu runtime body
  | "dingtalk" => (parseDingtalk runtime payload).map .message
  | _ => im "IM channel is not a supported identity namespace"

end Obsion.Ingress
