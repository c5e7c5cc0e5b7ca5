import Obsion.Ingress.Signatures

/-! # The public webhook

`obsion_im.webhook`: which security settings a public listener needs, and how a
posted request becomes an inbound message. -/

namespace Obsion.Ingress

/-- The settings of the adapter; `load_im_settings` normalizes the channel. -/
structure ImSettings where
  channel : String
  normalized : normalizeChannel channel = channel
  feishuSecurity : FeishuEventSecurity
  wecomSecurity : WeComEventSecurity
  dingtalkCredentials : Option DingTalkCredentials

abbrev Environ := String → Option String

def setting (environ : Environ) (name : String) : String := strip ((environ name).getD "")

def webhookSecret (environ : Environ) : Option String :=
  match environ "OBSION_IM_WEBHOOK_SECRET" with
  | none => none
  | some value => if strip value = "" then none else some (strip value)

/-- The secret that `main` passes to the webhook. -/
def ingressSecret (settings : ImSettings) (environ : Environ) : Option String :=
  match webhookSecret environ, settings.dingtalkCredentials with
  | some secret, _ => some secret
  | none, some credentials =>
    if settings.channel = "dingtalk" then some credentials.appSecret else none
  | none, none => none

structure PublicIngress where
  certPath : String
  keyPath : String
  hosts : List String

def normalizeHost (value : String) : String :=
  let host := lower (strip value)
  if startsWith host "[" ∧ ']' ∈ host.toList then
    String.ofList ((host.toList.drop 1).takeWhile (· != ']'))
  else if host.toList.count ':' = 1 then String.ofList (host.toList.takeWhile (· != ':'))
  else host

def parsePublicHosts (raw : Option String) : List String :=
  match raw with
  | none => []
  | some raw =>
    let items := (raw.toList.splitOn ',').map String.ofList
    ((items.filter fun item => strip item != "").map normalizeHost).filter (· != "")

def nonEmpty (value : Option String) : Bool := value.any fun text => text != ""

def channelSecurity (settings : ImSettings) (environ : Environ) : Except Failure Unit :=
  match normalizeChannel settings.channel with
  | "feishu" =>
    if nonEmpty settings.feishuSecurity.encryptKey then .ok ()
    else im "Public Feishu webhook requires OBSION_FEISHU_ENCRYPT_KEY"
  | "wecom" =>
    if ¬ nonEmpty settings.wecomSecurity.encodingAesKey then
      im "Public WeCom webhook requires OBSION_WECOM_ENCODING_AES_KEY"
    else if ¬ nonEmpty settings.wecomSecurity.token then
      im "Public WeCom webhook requires OBSION_WECOM_TOKEN"
    else .ok ()
  | "dingtalk" =>
    if settings.dingtalkCredentials.isNone ∧ setting environ "OBSION_IM_WEBHOOK_SECRET" = "" then
      im ("Public DingTalk webhook requires OBSION_DINGTALK_APP_SECRET " ++
        "or OBSION_IM_WEBHOOK_SECRET")
    else .ok ()
  | _ => im "Public IM webhook is implemented for feishu, dingtalk, and wecom only"

def resolvePublicIngress (isFile : String → Bool) (isPublic : Bool) (settings : ImSettings)
    (environ : Environ) : Except Failure (Option PublicIngress) :=
  if ¬ isPublic then .ok none
  else
    match channelSecurity settings environ with
    | .error failure => .error failure
    | .ok () =>
      let cert := setting environ "OBSION_IM_TLS_CERT"
      let key := setting environ "OBSION_IM_TLS_KEY"
      if cert = "" ∨ key = "" ∨ ¬ isFile cert ∨ ¬ isFile key then
        im "Public IM webhook requires OBSION_IM_TLS_CERT and OBSION_IM_TLS_KEY files"
      else
        let hosts := parsePublicHosts (environ "OBSION_IM_PUBLIC_HOSTS")
        if hosts = [] then im "Public IM webhook requires OBSION_IM_PUBLIC_HOSTS"
        else .ok (some ⟨cert, key, hosts⟩)

structure Request where
  body : String
  contentType : String
  headers : Headers

/-- The media type of the request is XML, or its body looks like XML. -/
def looksXml (request : Request) : Bool :=
  let mediaType := lower (strip (String.ofList (request.contentType.toList.takeWhile (· != ';'))))
  isIn "xml" mediaType || startsWith (lstrip request.body) "<"

def parsePostedFeishu (runtime : Runtime) (security : FeishuEventSecurity)
    (secret : Option String) (request : Request) : Except Failure Inbound := do
  let payload ← prepareFeishuHttpPayload runtime request.body request.headers security
  let official ← officialFeishuHeaders request.headers
  if official.isNone then verifyInboundSignature runtime "feishu" payload secret
  parseInbound runtime "feishu" (.object payload)

/-- The payload of a DingTalk or WeCom request, with the DingTalk signature verified
where the body is read as JSON. -/
def postedPayload (runtime : Runtime) (channel : String) (security : WeComEventSecurity)
    (secret : Option String) (request : Request) : Except Failure Payload := do
  if looksXml request then
    if secret.isSome ∧ security.encodingAesKey.isNone then
      im "Signed WeCom XML must be wrapped in a JSON object"
    else .ok (.text request.body)
  else
    match runtime.jsonLoads request.body with
    | none => im "Envelope must be valid JSON"
    | some (.obj fields) =>
      if channel ≠ "wecom" then verifyInboundSignature runtime channel fields secret
      .ok (.object fields)
    | some _ => im "Envelope must be a JSON object"

/-- The WeCom part of `parse_posted`: decryption, or no ciphertext at all. -/
def wecomPayload (runtime : Runtime) (security : WeComEventSecurity) (secret : Option String)
    (payload : Payload) : Except Failure Payload := do
  if security.token.isSome ∨ security.encodingAesKey.isSome then
    prepareWecomPayload runtime payload security (secret.isSome || security.token.isSome)
  else
    rejectWecomCiphertext runtime payload
    match payload with
    | .object fields =>
      verifyInboundSignature runtime "wecom" fields secret
      .ok payload
    | .text _ => .ok payload

/-- `parse_posted`, called as `run_webhook` calls it. -/
def parsePosted (runtime : Runtime) (settings : ImSettings) (secret : Option String)
    (request : Request) : Except Failure Inbound := do
  let channel := normalizeChannel settings.channel
  if channel = "feishu" then
    parsePostedFeishu runtime settings.feishuSecurity secret request
  else
    let posted ← postedPayload runtime channel settings.wecomSecurity secret request
    if channel = "wecom" then
      let payload ← wecomPayload runtime settings.wecomSecurity secret posted
      parseInbound runtime channel payload
    else
      match settings.dingtalkCredentials with
      | some credentials =>
        if channel = "dingtalk" then
          (parseDingtalkHttpEvent runtime posted credentials.appKey request.headers
            (some credentials)).map .message
        else parseInbound runtime channel posted
      | none => parseInbound runtime channel posted

end Obsion.Ingress
