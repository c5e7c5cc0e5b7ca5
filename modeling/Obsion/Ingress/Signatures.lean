import Obsion.Ingress.DingtalkStream

/-! # Inbound signatures

`obsion_im.signatures`: the official Feishu headers and encryption, the WeCom
encrypted envelope, and the webhook signatures of the three vendors. -/

namespace Obsion.Ingress

structure FeishuEventSecurity where
  encryptKey : Option String := none
  verificationToken : Option String := none

structure WeComEventSecurity where
  token : Option String := none
  encodingAesKey : Option String := none
  corpId : Option String := none

def hexByte (byte : UInt8) : List Char :=
  [hexChar (Fin.ofNat 16 (byte.toNat / 16)), hexChar (Fin.ofNat 16 (byte.toNat % 16))]

def hexDigest (digest : Bytes) : String := String.ofList (digest.flatMap hexByte)

/-- `hmac.compare_digest`, which accepts ASCII text only. -/
def compareDigest (expected received : String) : Except Failure Bool :=
  if received.toList.all fun char => char.toNat < 128 then .ok (expected == received)
  else .error .other

def requireDigest (expected received message : String) : Except Failure Unit :=
  match compareDigest expected received with
  | .error failure => .error failure
  | .ok true => .ok ()
  | .ok false => im message

structure OfficialHeaders where
  timestamp : String
  nonce : String
  signature : String

/-- The value of a header, names compared in lower case; the last one wins. -/
def header (headers : Headers) (name : String) : String :=
  match headers.reverse.find? fun entry => lower entry.1 == name with
  | none => ""
  | some entry => strip entry.2

def officialFeishuHeaders (headers : Headers) : Except Failure (Option OfficialHeaders) :=
  let timestamp := header headers "x-lark-request-timestamp"
  let nonce := header headers "x-lark-request-nonce"
  let signature := header headers "x-lark-signature"
  if timestamp = "" ∧ nonce = "" ∧ signature = "" then .ok none
  else if timestamp = "" ∨ nonce = "" ∨ signature = "" then
    im "Official Feishu headers require timestamp, nonce, and signature"
  else .ok (some ⟨timestamp, nonce, signature⟩)

def officialFeishuSignature (runtime : Runtime) (timestamp nonce encryptKey : String)
    (body : Bytes) : String :=
  hexDigest (runtime.sha256 (utf8 timestamp ++ utf8 nonce ++ utf8 encryptKey ++ body))

/-- The received signature without its optional `sha256=` prefix, in lower case. -/
def receivedSignature (official : OfficialHeaders) : String :=
  let received := official.signature
  lower (if startsWith (lower received) "sha256=" then String.ofList (received.toList.drop 7)
    else received)

def verifyOfficialFeishuSignature (runtime : Runtime) (official : OfficialHeaders) (body : Bytes)
    (encryptKey : String) : Except Failure Unit :=
  requireDigest
    (officialFeishuSignature runtime official.timestamp official.nonce encryptKey body)
    (receivedSignature official) "Official Feishu signature is invalid"

/-- Remove the padding of a decrypted text; `none` where it is invalid. -/
def unpad (limit : Nat) (padded : Bytes) : Option Bytes :=
  match padded.getLast? with
  | none => none
  | some last =>
    let pad := last.toNat
    if pad < 1 ∨ limit < pad ∨ padded.drop (padded.length - pad) ≠ List.replicate pad last then
      none
    else some (padded.take (padded.length - pad))

def decode (runtime : Runtime) (bytes : Bytes) : Except Failure String :=
  match runtime.utf8Decode bytes with
  | none => .error .other
  | some text => .ok text

def decryptFeishuEvent (runtime : Runtime) (ciphertext encryptKey : String) :
    Except Failure String :=
  match runtime.base64Decode ciphertext with
  | none => im "Feishu encrypted event was not valid base64"
  | some raw =>
    if raw.length < 32 ∨ raw.length % 16 ≠ 0 then im "Feishu encrypted event is too short"
    else
      let key := runtime.sha256 (utf8 encryptKey)
      match unpad 16 (runtime.aesCbcDecrypt key (raw.take 16) (raw.drop 16)) with
      | none => im "Feishu encrypted event padding is invalid"
      | some plain => decode runtime plain

def wecomAesKey (runtime : Runtime) (encodingAesKey : String) : Except Failure Bytes :=
  if encodingAesKey.length ≠ 43 then im "WeCom EncodingAESKey must be 43 characters"
  else
    match runtime.base64Decode (encodingAesKey ++ "=") with
    | none => im "WeCom EncodingAESKey was not valid base64"
    | some key =>
      if key.length ≠ 32 then im "WeCom EncodingAESKey must decode to 32 bytes" else .ok key

def bigEndian (bytes : Bytes) : Nat := bytes.foldl (fun value byte => value * 256 + byte.toNat) 0

/-- The message and the receive id of a decrypted WeCom package. -/
def wecomPackage (runtime : Runtime) (plain : Bytes) : Except Failure (String × String) := do
  if plain.length < 20 then im "WeCom encrypted content is missing the message header"
  else
    let content := plain.drop 16
    let size := bigEndian (content.take 4)
    if content.length < 4 + size then im "WeCom encrypted content length is invalid"
    else
      let message ← decode runtime ((content.drop 4).take size)
      let receiveId ← decode runtime (content.drop (4 + size))
      .ok (message, receiveId)

def decryptWecomCipher (runtime : Runtime) (ciphertext encodingAesKey : String) :
    Except Failure (String × String) := do
  let key ← wecomAesKey runtime encodingAesKey
  match runtime.base64Decode ciphertext with
  | none => im "WeCom encrypted content was not valid base64"
  | some raw =>
    if raw.length < 32 ∨ raw.length % 16 ≠ 0 then im "WeCom encrypted content is too short"
    else
      match unpad 32 (runtime.aesCbcDecrypt key (key.take 16) raw) with
      | none => im "WeCom encrypted content padding is invalid"
      | some plain => wecomPackage runtime plain

/-! ## Feishu payloads -/

def plainKeys : List String := ["schema", "header", "event", "type", "challenge"]

def feishuCiphertext (runtime : Runtime) (payload : Fields) : Option String :=
  let encrypted := strip (runtime.text payload ["encrypt"])
  if encrypted ≠ "" ∧ ¬ plainKeys.any payload.has then some encrypted else none

/-- The payload that the parser sees: the decrypted event, or the body itself. -/
def feishuPayload (runtime : Runtime) (official : Option OfficialHeaders)
    (security : FeishuEventSecurity) (payload : Fields) : Except Failure Fields :=
  match feishuCiphertext runtime payload with
  | some encrypted =>
    match security.encryptKey with
    | none => im "Feishu encrypted events require OBSION_FEISHU_ENCRYPT_KEY"
    | some encryptKey =>
      if official.isNone then im "Encrypted Feishu events require official signature headers"
      else
        match decryptFeishuEvent runtime encrypted encryptKey with
        | .error failure => .error failure
        | .ok text =>
          match runtime.jsonLoads text with
          | none => im "Decrypted Feishu event was not valid JSON"
          | some (.obj decrypted) => .ok decrypted
          | some _ => im "Decrypted Feishu event must be a JSON object"
  | none =>
    if security.encryptKey.isSome ∧ official.isNone
        ∧ runtime.text payload ["type"] ≠ "url_verification" then
      im "Feishu encrypt key is set; official X-Lark-Signature headers are required"
    else .ok payload

def feishuToken (runtime : Runtime) (payload : Fields) : String :=
  let token := strip (runtime.text payload ["token"])
  match payload.get? "header" with
  | some (.obj header) => if token = "" then strip (runtime.text header ["token"]) else token
  | _ => token

/-- The verification token, when one is configured, is the one of the payload. -/
def TokenMatches (runtime : Runtime) (security : FeishuEventSecurity) (payload : Fields) : Prop :=
  ∀ token, security.verificationToken = some token → feishuToken runtime payload = token

instance (runtime : Runtime) (security : FeishuEventSecurity) (payload : Fields) :
    Decidable (TokenMatches runtime security payload) :=
  match found : security.verificationToken with
  | none => isTrue fun token same => by
      rw [found] at same
      cases same
  | some expected => decidable_of_iff (feishuToken runtime payload = expected) (by
      constructor
      · intro equal token same
        rw [found] at same
        rw [← Option.some.inj same]
        exact equal
      · intro holds
        exact holds expected found)

/-- The official headers of a request, verified over its body when they are present. -/
def verifiedHeaders (runtime : Runtime) (body : Bytes) (headers : Headers)
    (security : FeishuEventSecurity) : Except Failure (Option OfficialHeaders) :=
  match officialFeishuHeaders headers with
  | .error failure => .error failure
  | .ok none => .ok none
  | .ok (some official) =>
    match security.encryptKey with
    | none => im "Official Feishu signature headers require OBSION_FEISHU_ENCRYPT_KEY"
    | some encryptKey =>
      (verifyOfficialFeishuSignature runtime official body encryptKey).map fun _ => some official

def prepareFeishuHttpPayload (runtime : Runtime) (body : String) (headers : Headers)
    (security : FeishuEventSecurity) : Except Failure Fields :=
  match verifiedHeaders runtime (utf8 body) headers security with
  | .error failure => .error failure
  | .ok official =>
    match runtime.jsonLoads body with
    | none => im "Envelope must be valid JSON"
    | some (.obj payload) =>
      match feishuPayload runtime official security payload with
      | .error failure => .error failure
      | .ok prepared =>
        if TokenMatches runtime security prepared then .ok prepared
        else im "Feishu verification token does not match"
    | some _ => im "Envelope must be a JSON object"

def wecomSignature (runtime : Runtime) (token timestamp nonce echostr : String) : String :=
  let ordered := [token, timestamp, nonce, echostr].mergeSort (· ≤ ·)
  hexDigest (runtime.sha1 (utf8 (String.join ordered)))

/-- The check of `msg_signature` over the `Encrypt` value of a JSON envelope. -/
def verifyWecomEnvelope (runtime : Runtime) (token encrypt : String) (payload : Fields) :
    Except Failure Unit :=
  let timestamp := strip (runtime.text payload ["timestamp", "TimeStamp"])
  let nonce := strip (runtime.text payload ["nonce", "Nonce"])
  let signature := strip (runtime.text payload ["msg_signature", "MsgSignature", "signature"])
  if timestamp = "" ∨ nonce = "" ∨ signature = "" then
    im "WeCom encrypted inbound requires timestamp, nonce, and msg_signature"
  else
    requireDigest (wecomSignature runtime token timestamp nonce encrypt) signature
      "WeCom inbound signature is invalid"

def verifyWecomPayload (runtime : Runtime) (security : WeComEventSecurity)
    (requireSignature : Bool) (encrypt : String) : Payload → Except Failure Unit
  | .text _ =>
    if security.token.isSome then
      im "WeCom encrypted inbound requires timestamp, nonce, and msg_signature"
    else if requireSignature then im "WeCom encrypted inbound requires OBSION_WECOM_TOKEN"
    else .ok ()
  | .object payload =>
    match security.token with
    | some token => verifyWecomEnvelope runtime token encrypt payload
    | none =>
      if requireSignature then im "WeCom encrypted inbound requires OBSION_WECOM_TOKEN"
      else .ok ()

def wecomDecrypted (security : WeComEventSecurity) (message receiveId : String) :
    Except Failure Payload :=
  if security.corpId.any (fun corp => receiveId ≠ "" ∧ receiveId ≠ corp) then
    im "WeCom encrypted receive id does not match OBSION_WECOM_CORP_ID"
  else if startsWith (lstrip message) "<" then .ok (.text message)
  else if strip message = "" then im "WeCom decrypted content was empty"
  else .ok (.object [("type", .str "url_verification"), ("challenge", .str message)])

def prepareWecomPayload (runtime : Runtime) (payload : Payload) (security : WeComEventSecurity)
    (requireSignature : Bool) : Except Failure Payload := do
  let (encrypt, content, sender) := wecomFields runtime payload
  if encrypt ≠ "" ∧ (content ≠ "" ∨ sender ≠ "") then
    im "WeCom inbound must not mix Encrypt with plaintext message fields"
  else if encrypt = "" then
    if security.token.isSome ∨ security.encodingAesKey.isSome then
      im "Configured WeCom event security requires an encrypted inbound envelope"
    else .ok payload
  else
    match security.encodingAesKey with
    | none => im "WeCom AES ciphertext decrypt requires OBSION_WECOM_ENCODING_AES_KEY"
    | some encodingAesKey =>
      verifyWecomPayload runtime security requireSignature encrypt payload
      let (message, receiveId) ← decryptWecomCipher runtime encrypt encodingAesKey
      wecomDecrypted security message receiveId

def canonicalEventBody (runtime : Runtime) (payload : Fields) : String :=
  match payload.get? "event" with
  | some (.obj event) => runtime.jsonDumps (.obj event)
  | _ => runtime.jsonDumps (.obj payload)

def verifyFeishu (runtime : Runtime) (payload : Fields) (secret : String) : Except Failure Unit :=
  let timestamp := runtime.text payload ["timestamp"]
  let nonce := runtime.text payload ["nonce"]
  let signature := runtime.text payload ["signature"]
  if timestamp = "" ∨ nonce = "" ∨ signature = "" then
    im "Feishu inbound is missing timestamp, nonce, or signature"
  else
    requireDigest
      (hexDigest (runtime.sha256
        (utf8 (timestamp ++ nonce ++ secret ++ canonicalEventBody runtime payload))))
      signature "Feishu inbound signature is invalid"

def dingtalkSignature (runtime : Runtime) (timestamp secret : String) : String :=
  runtime.base64Encode (runtime.hmacSha256 (utf8 secret) (utf8 timestamp))

def verifyDingtalk (runtime : Runtime) (payload : Fields) (secret : String) : Except Failure Unit :=
  let timestamp := runtime.text payload ["timestamp"]
  let signature := runtime.text payload ["sign", "signature"]
  if timestamp = "" ∨ signature = "" then im "DingTalk inbound is missing timestamp or sign"
  else
    requireDigest (dingtalkSignature runtime timestamp secret) signature
      "DingTalk inbound signature is invalid"

def verifyWecom (runtime : Runtime) (payload : Fields) (secret : String) : Except Failure Unit :=
  let timestamp := runtime.text payload ["timestamp"]
  let nonce := runtime.text payload ["nonce"]
  let echostr := runtime.text payload ["echostr", "encrypt"]
  let signature := runtime.text payload ["msg_signature", "signature"]
  if timestamp = "" ∨ nonce = "" ∨ signature = "" then
    im "WeCom inbound is missing timestamp, nonce, or signature"
  else
    requireDigest (wecomSignature runtime secret timestamp nonce echostr) signature
      "WeCom inbound signature is invalid"

/-- `verify_inbound_signature` of an object, for a normalized channel. -/
def verifyInboundSignature (runtime : Runtime) (channel : String) (payload : Fields)
    (secret : Option String) : Except Failure Unit :=
  match secret with
  | none => .ok ()
  | some secret =>
    match channel with
    | "development" => im "Development inbound does not accept webhook signatures"
    | "feishu" => verifyFeishu runtime payload secret
    | "dingtalk" => verifyDingtalk runtime payload secret
    | _ => verifyWecom runtime payload secret

end Obsion.Ingress
