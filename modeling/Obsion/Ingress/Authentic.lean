import Obsion.Ingress.Accepted

/-! # Which posted messages are authenticated

`Authenticated` says for each channel which check stands behind a message.  The
webhook fails to give it on two kinds of request only: a Feishu body that calls
itself a URL verification and nests a message event (`FeishuSmuggled`), and a
DingTalk body that is read as XML because the WeCom key is configured
(`DingtalkSmuggled`). -/

namespace Obsion.Ingress

section
variable (runtime : Runtime) (settings : ImSettings) (secret : Option String)
  (request : Request)

/-- The X-Lark signature holds over the body of the request, and the verification
token is the one of the payload that the message was parsed from. -/
def FeishuAuthenticated (message : InboundMessage) : Prop :=
  ∃ official encryptKey fields payload, officialFeishuHeaders request.headers = .ok (some official) ∧
    settings.feishuSecurity.encryptKey = some encryptKey ∧
    verifyOfficialFeishuSignature runtime official (utf8 request.body) encryptKey = .ok () ∧
    runtime.jsonLoads request.body = some (.obj fields) ∧
    feishuPayload runtime (some official) settings.feishuSecurity fields = .ok payload ∧
    TokenMatches runtime settings.feishuSecurity payload ∧
    parseFeishu runtime payload = .ok (.message message)

/-- `msg_signature` holds over the ciphertext that the message was decrypted from. -/
def WecomAuthenticated (message : InboundMessage) : Prop :=
  ∃ token encodingAesKey fields document receiveId, settings.wecomSecurity.token = some token ∧
    settings.wecomSecurity.encodingAesKey = some encodingAesKey ∧
    runtime.jsonLoads request.body = some (.obj fields) ∧
    verifyWecomEnvelope runtime token (wecomFields runtime (.object fields)).1 fields = .ok () ∧
    decryptWecomCipher runtime (wecomFields runtime (.object fields)).1 encodingAesKey
      = .ok (document, receiveId) ∧
    parseWecomXml document = .ok (.message message)

/-- `sign` holds for the timestamp of the body under the secret. -/
def DingtalkAuthenticated : Prop :=
  ∃ key fields, secret = some key ∧ runtime.jsonLoads request.body = some (.obj fields) ∧
    verifyDingtalk runtime fields key = .ok ()

def Authenticated (message : InboundMessage) : Prop :=
  match settings.channel with
  | "feishu" => FeishuAuthenticated runtime settings request message
  | "wecom" => WecomAuthenticated runtime settings request message
  | "dingtalk" => DingtalkAuthenticated runtime secret request
  | _ => False

/-- Without signature headers, a URL verification whose nested event is a message. -/
def FeishuSmuggled : Prop :=
  officialFeishuHeaders request.headers = .ok none ∧
    ∃ payload event, runtime.jsonLoads request.body = some (.obj payload) ∧
      runtime.text payload ["type"] = "url_verification" ∧
      TokenMatches runtime settings.feishuSecurity payload ∧
      verifyInboundSignature runtime "feishu" payload secret = .ok () ∧
      signedEvent? payload = some event ∧
      runtime.text event ["type"] ≠ "url_verification" ∧ FeishuTextMessage runtime event

/-- A JSON event without a valid sign, posted as XML while the WeCom key is configured. -/
def DingtalkSmuggled : Prop :=
  looksXml request = true ∧ settings.wecomSecurity.encodingAesKey.isSome ∧
    ¬DingtalkAuthenticated runtime secret request ∧
    ∃ credentials, settings.dingtalkCredentials = some credentials ∧
      ∃ fields, request.body.utf8ByteSize ≤ maxEventBytes ∧
        runtime.jsonLoads request.body = some (.obj fields) ∧
        DingtalkEvent runtime fields (headerFields request.headers) credentials.appKey ∧
        DingtalkIdentity fields (headerFields request.headers) credentials

def Smuggled : Prop :=
  match settings.channel with
  | "feishu" => FeishuSmuggled runtime settings secret request
  | "dingtalk" => DingtalkSmuggled runtime settings secret request
  | _ => False

end

@[simp] lemma normalizeChannel_feishu : normalizeChannel "feishu" = "feishu" := by decide

@[simp] lemma normalizeChannel_wecom : normalizeChannel "wecom" = "wecom" := by decide

@[simp] lemma normalizeChannel_dingtalk : normalizeChannel "dingtalk" = "dingtalk" := by decide

section
variable {isFile : String → Bool} {settings : ImSettings} {environ : Environ}

lemma exists_of_nonEmpty {value : Option String} (present : nonEmpty value = true) :
    ∃ text, value = some text := by
  cases value with
  | none => cases present
  | some text => exact ⟨text, rfl⟩

lemma channelSecurity_of_public {ingress : PublicIngress}
    (accepted : resolvePublicIngress isFile true settings environ = .ok (some ingress)) :
    channelSecurity settings environ = .ok () := by
  unfold resolvePublicIngress at accepted
  simp only [not_true_eq_false, if_false] at accepted
  split at accepted
  · cases accepted
  next secured => exact secured

lemma ingressSecret_of_dingtalk (channel : settings.channel = "dingtalk")
    (configured : ¬(settings.dingtalkCredentials.isNone ∧
      setting environ "OBSION_IM_WEBHOOK_SECRET" = "")) :
    ∃ key, ingressSecret settings environ = some key := by
  unfold ingressSecret
  cases found : webhookSecret environ with
  | some key => exact ⟨key, rfl⟩
  | none =>
    cases credentials : settings.dingtalkCredentials with
    | some found => exact ⟨found.appSecret, by simp [channel]⟩
    | none =>
      refine absurd ⟨by simp [credentials], ?_⟩ configured
      unfold webhookSecret at found
      unfold setting
      split at found
      · next absent =>
        rw [absent]
        decide
      · next value present =>
        rw [present]
        split at found
        · next empty => exact empty
        cases found

/-- What a public listener may rely on for its channel. -/
inductive PublicChannel (settings : ImSettings) (environ : Environ) : Prop
  | feishu (channel : settings.channel = "feishu") (encryptKey : String)
      (configured : settings.feishuSecurity.encryptKey = some encryptKey)
  | wecom (channel : settings.channel = "wecom") (token encodingAesKey : String)
      (signed : settings.wecomSecurity.token = some token)
      (encrypted : settings.wecomSecurity.encodingAesKey = some encodingAesKey)
  | dingtalk (channel : settings.channel = "dingtalk") (key : String)
      (configured : ingressSecret settings environ = some key)

lemma publicChannel {ingress : PublicIngress}
    (accepted : resolvePublicIngress isFile true settings environ = .ok (some ingress)) :
    PublicChannel settings environ := by
  have secured := channelSecurity_of_public accepted
  unfold channelSecurity at secured
  rw [settings.normalized] at secured
  split at secured
  · next channel =>
    split at secured
    · next present =>
      obtain ⟨encryptKey, configured⟩ := exists_of_nonEmpty present
      exact .feishu channel encryptKey configured
    · cases secured
  · next channel =>
    split at secured
    · cases secured
    next encrypted =>
    split at secured
    · cases secured
    next signed =>
    obtain ⟨encodingAesKey, encrypted⟩ := exists_of_nonEmpty (not_not.1 encrypted)
    obtain ⟨token, signed⟩ := exists_of_nonEmpty (not_not.1 signed)
    exact .wecom channel token encodingAesKey signed encrypted
  · next channel =>
    split at secured
    · cases secured
    next configured =>
    obtain ⟨key, configured⟩ := ingressSecret_of_dingtalk channel configured
    exact .dingtalk channel key configured
  · cases secured

end

section
variable {runtime : Runtime} {security : FeishuEventSecurity} {body : String}
  {headers : Headers} {fields payload : Fields}

lemma has_of_text {key : String} (present : runtime.text fields [key] ≠ "") :
    fields.has key = true := by
  unfold Fields.has
  cases found : fields.get? key with
  | none => simp [Runtime.text, found] at present
  | some value => rfl

lemma verifiedHeaders_spec {official : Option OfficialHeaders} {bytes : Bytes}
    (run : verifiedHeaders runtime bytes headers security = .ok official) :
    officialFeishuHeaders headers = .ok official ∧
      ∀ found, official = some found → ∃ encryptKey, security.encryptKey = some encryptKey ∧
        verifyOfficialFeishuSignature runtime found bytes encryptKey = .ok () := by
  unfold verifiedHeaders at run
  split at run
  · cases run
  · next absent =>
    cases run
    refine ⟨absent, ?_⟩
    intro found eq
    cases eq
  · next received present =>
    split at run
    · cases run
    next encryptKey configured =>
    obtain ⟨_, verified, eq⟩ := of_map_ok run
    cases eq
    refine ⟨present, ?_⟩
    intro found eq
    cases eq
    exact ⟨encryptKey, configured, verified⟩

lemma prepareFeishuHttpPayload_spec
    (run : prepareFeishuHttpPayload runtime body headers security = .ok payload) :
    ∃ official fields, verifiedHeaders runtime (utf8 body) headers security = .ok official ∧
      runtime.jsonLoads body = some (.obj fields) ∧
      feishuPayload runtime official security fields = .ok payload ∧
      TokenMatches runtime security payload := by
  unfold prepareFeishuHttpPayload at run
  split at run
  · cases run
  next official verified =>
  split at run
  · cases run
  · next fields loaded =>
    split at run
    · cases run
    next prepared unwrapped =>
    split at run
    · next matched =>
      cases run
      exact ⟨official, fields, verified, loaded, unwrapped, matched⟩
    · cases run
  · cases run

lemma feishuPayload_unsigned {encryptKey : String}
    (configured : security.encryptKey = some encryptKey) :
    feishuPayload runtime none security fields = .ok payload ↔
      payload = fields ∧ runtime.text fields ["type"] = "url_verification" := by
  constructor
  · intro run
    unfold feishuPayload at run
    split at run
    · rw [configured] at run
      cases run
    split at run
    · cases run
    next accepted =>
    cases run
    refine ⟨rfl, ?_⟩
    by_contra other
    exact accepted ⟨by rw [configured]; rfl, rfl, other⟩
  · rintro ⟨rfl, verification⟩
    have typed : payload.has "type" = true := by
      apply @has_of_text runtime
      rw [verification]
      decide
    have plain : plainKeys.any payload.has = true :=
      List.any_eq_true.2 ⟨"type", by decide, typed⟩
    have unencrypted : feishuCiphertext runtime payload = none := by
      unfold feishuCiphertext
      simp [plain]
    simp [feishuPayload, unencrypted, verification]

lemma parseFeishu_verification (verification : runtime.text payload ["type"] = "url_verification") :
    (∃ message, parseFeishu runtime payload = .ok (.message message)) ↔
      ∃ event, signedEvent? payload = some event ∧
        runtime.text event ["type"] ≠ "url_verification" ∧ FeishuTextMessage runtime event := by
  unfold parseFeishu unwrapSigned
  cases nested : signedEvent? payload with
  | none =>
    constructor
    · rintro ⟨message, run⟩
      exact absurd run (parseFeishuBody_verification verification)
    rintro ⟨event, eq, _⟩
    cases eq
  | some event =>
    rw [Option.getD_some, parseFeishuBody_isMessage]
    constructor
    · intro accepted
      exact ⟨event, rfl, accepted⟩
    rintro ⟨found, eq, accepted⟩
    cases eq
    exact accepted

lemma parseInbound_feishu :
    parseInbound runtime "feishu" (.object payload) = parseFeishu runtime payload := by
  simp only [parseInbound, normalizeChannel_feishu, requireObject]

end

section
variable {runtime : Runtime} {settings : ImSettings} {secret : Option String}
  {request : Request}

variable {encryptKey : String}

lemma feishu_message {message : InboundMessage}
    (configured : settings.feishuSecurity.encryptKey = some encryptKey)
    (run : parsePostedFeishu runtime settings.feishuSecurity secret request
      = .ok (.message message)) : FeishuAuthenticated runtime settings request message ∨
      FeishuSmuggled runtime settings secret request := by
  obtain ⟨payload, prepared, run⟩ := of_bind_ok run
  obtain ⟨received, official, run⟩ := of_bind_ok run
  obtain ⟨found, fields, verified, loaded, unwrapped, matched⟩ :=
    prepareFeishuHttpPayload_spec prepared
  obtain ⟨present, signed⟩ := verifiedHeaders_spec verified
  have eq : received = found := by
    rw [official] at present
    exact Except.ok.inj present
  subst eq
  cases received with
  | some headers =>
    left
    obtain ⟨key, keyed, valid⟩ := signed headers rfl
    simp only [Option.isNone_some, Bool.false_eq_true, if_false] at run
    rw [parseInbound_feishu] at run
    exact ⟨headers, key, fields, payload, official, keyed, valid, loaded, unwrapped, matched, run⟩
  | none =>
    right
    obtain ⟨rfl, verification⟩ := (feishuPayload_unsigned configured).1 unwrapped
    simp only [Option.isNone_none, if_true] at run
    obtain ⟨_, locally, run⟩ := of_bind_ok run
    rw [parseInbound_feishu] at run
    obtain ⟨event, nested, other, accepted⟩ :=
      (parseFeishu_verification verification).1 ⟨message, run⟩
    exact ⟨official, payload, event, loaded, verification, matched, locally, nested, other, accepted⟩

lemma feishu_smuggled (configured : settings.feishuSecurity.encryptKey = some encryptKey)
    (smuggled : FeishuSmuggled runtime settings secret request) :
    ∃ message, parsePostedFeishu runtime settings.feishuSecurity secret request
      = .ok (.message message) := by
  obtain ⟨official, payload, event, loaded, verification, matched, locally, nested, other,
    accepted⟩ := smuggled
  obtain ⟨message, parsed⟩ :=
    (parseFeishu_verification verification).2 ⟨event, nested, other, accepted⟩
  have verified : verifiedHeaders runtime (utf8 request.body) request.headers
      settings.feishuSecurity = .ok none := by
    rw [verifiedHeaders, official]
  have unwrapped : feishuPayload runtime none settings.feishuSecurity payload = .ok payload :=
    (feishuPayload_unsigned configured).2 ⟨rfl, verification⟩
  have prepared : prepareFeishuHttpPayload runtime request.body request.headers
      settings.feishuSecurity = .ok payload := by
    simp only [prepareFeishuHttpPayload, verified, loaded, unwrapped, if_pos matched]
  refine ⟨message, ?_⟩
  simp only [parsePostedFeishu, prepared, official, locally, bind, Except.bind,
    Option.isNone_none, if_true, parseInbound_feishu]
  exact parsed

lemma feishu_authenticated_iff (channel : settings.channel = "feishu")
    (configured : settings.feishuSecurity.encryptKey = some encryptKey) :
    (∀ message, parsePosted runtime settings secret request = .ok (.message message) →
      FeishuAuthenticated runtime settings request message) ↔
      ¬FeishuSmuggled runtime settings secret request := by
  simp only [parsePosted, channel, normalizeChannel_feishu, if_true]
  constructor
  · intro authentic smuggled
    obtain ⟨message, run⟩ := feishu_smuggled configured smuggled
    obtain ⟨official, _, _, _, present, _⟩ := authentic message run
    rw [smuggled.1] at present
    cases present
  · intro honest message run
    exact (feishu_message configured run).resolve_right honest

end

/-! ## WeCom -/

section
variable {runtime : Runtime} {security : WeComEventSecurity} {payload prepared : Payload}
  {token encodingAesKey : String}

lemma prepareWecomPayload_spec {requireSignature : Bool} (signed : security.token = some token)
    (encrypted : security.encodingAesKey = some encodingAesKey)
    (run : prepareWecomPayload runtime payload security requireSignature = .ok prepared) :
    ∃ fields document receiveId, payload = .object fields ∧
      verifyWecomEnvelope runtime token (wecomFields runtime (.object fields)).1 fields = .ok () ∧
      decryptWecomCipher runtime (wecomFields runtime (.object fields)).1 encodingAesKey
        = .ok (document, receiveId) ∧
      wecomDecrypted security document receiveId = .ok prepared := by
  unfold prepareWecomPayload at run
  simp only [encrypted] at run
  split at run
  · cases run
  split at run
  · rw [signed] at run
    cases run
  obtain ⟨_, verified, rest⟩ := of_bind_ok run
  obtain ⟨⟨document, receiveId⟩, decrypted, unpacked⟩ := of_bind_ok rest
  cases payload with
  | text body =>
    simp only [verifyWecomPayload, signed, Option.isSome_some, if_true] at verified
    cases verified
  | object fields =>
    simp only [verifyWecomPayload, signed] at verified
    exact ⟨fields, document, receiveId, rfl, verified, decrypted, unpacked⟩

lemma wecomDecrypted_spec {document receiveId : String}
    (run : wecomDecrypted security document receiveId = .ok prepared) :
    (prepared = .text document ∧ startsWith (lstrip document) "<" = true) ∨
      prepared = .object [("type", .str "url_verification"), ("challenge", .str document)] := by
  unfold wecomDecrypted at run
  split at run
  · cases run
  split at run
  · next markup =>
    cases run
    exact .inl ⟨rfl, markup⟩
  · split at run
    · cases run
    cases run
    exact .inr rfl

lemma parseInbound_wecom {message : InboundMessage}
    (run : parseInbound runtime "wecom" payload = .ok (.message message)) :
    parseWecom runtime payload = .ok (.message message) := by
  simp only [parseInbound, normalizeChannel_wecom] at run
  split at run
  · cases run
  exact run

lemma parseWecom_challenge {challenge : String} {message : InboundMessage} : parseWecom runtime
      (.object [("type", .str "url_verification"), ("challenge", .str challenge)])
      ≠ .ok (.message message) := by
  intro run
  have verification : runtime.text
      [("type", .str "url_verification"), ("challenge", .str challenge)] ["type"]
      = "url_verification" := rfl
  simp only [parseWecom, parseWecomObject, verification, if_true] at run
  split at run
  · cases run
  cases run

end

section
variable {runtime : Runtime} {settings : ImSettings} {secret : Option String}
  {request : Request} {message : InboundMessage}

variable {channel key : String}

lemma postedPayload_xml {security : WeComEventSecurity} {payload : Payload}
    (xml : looksXml request = true)
    (run : postedPayload runtime channel security secret request = .ok payload) :
    payload = .text request.body ∧ (secret.isSome → security.encodingAesKey.isSome) := by
  unfold postedPayload at run
  rw [if_pos xml] at run
  split at run
  · cases run
  next keyed =>
  cases run
  refine ⟨rfl, ?_⟩
  intro present
  rw [Option.isSome_iff_ne_none]
  intro absent
  exact keyed ⟨present, by rw [absent]; rfl⟩

lemma postedPayload_json {security : WeComEventSecurity} {payload : Payload}
    (json : looksXml request = false)
    (run : postedPayload runtime channel security secret request = .ok payload) :
    ∃ fields, runtime.jsonLoads request.body = some (.obj fields) ∧ payload = .object fields ∧
      (channel ≠ "wecom" → verifyInboundSignature runtime channel fields secret = .ok ()) := by
  unfold postedPayload at run
  simp only [json, Bool.false_eq_true, if_false] at run
  split at run
  · cases run
  · next fields loaded =>
    split at run
    · obtain ⟨_, verified, run⟩ := of_bind_ok run
      cases run
      exact ⟨fields, loaded, rfl, fun _ => verified⟩
    · next wecom =>
      cases run
      exact ⟨fields, loaded, rfl, fun other => absurd other wecom⟩
  · cases run

lemma wecom_authenticated {token encodingAesKey : String} (channel : settings.channel = "wecom")
    (signed : settings.wecomSecurity.token = some token)
    (encrypted : settings.wecomSecurity.encodingAesKey = some encodingAesKey)
    (run : parsePosted runtime settings secret request = .ok (.message message)) :
    WecomAuthenticated runtime settings request message := by
  unfold parsePosted at run
  rw [settings.normalized, channel] at run
  obtain ⟨posted, read, run⟩ := of_bind_ok run
  obtain ⟨payload, prepared, run⟩ := of_bind_ok run
  have parsed := parseInbound_wecom run
  unfold wecomPayload at prepared
  simp only [signed, Option.isSome_some, true_or, if_true] at prepared
  obtain ⟨fields, document, receiveId, rfl, verified, decrypted, unpacked⟩ :=
    prepareWecomPayload_spec signed encrypted prepared
  cases xml : looksXml request with
  | true =>
    obtain ⟨eq, _⟩ := postedPayload_xml xml read
    cases eq
  | false =>
    obtain ⟨found, loaded, eq, _⟩ := postedPayload_json xml read
    cases eq
    obtain ⟨rfl, markup⟩ | rfl := wecomDecrypted_spec unpacked
    · simp only [parseWecom, markup, if_true] at parsed
      exact ⟨token, encodingAesKey, fields, document, receiveId, signed, encrypted, loaded,
        verified, decrypted, parsed⟩
    · exact absurd parsed parseWecom_challenge

lemma parsePosted_dingtalk (channel : settings.channel = "dingtalk") :
    parsePosted runtime settings secret request =
      (postedPayload runtime "dingtalk" settings.wecomSecurity secret request >>= fun posted =>
        match settings.dingtalkCredentials with
        | some credentials =>
          (parseDingtalkHttpEvent runtime posted credentials.appKey request.headers
            (some credentials)).map .message
        | none => parseInbound runtime "dingtalk" posted) := by
  unfold parsePosted
  rw [settings.normalized, channel]
  rfl

lemma parseInbound_dingtalk_text {body : String} {inbound : Inbound} :
    parseInbound runtime "dingtalk" (.text body) ≠ .ok inbound := by
  intro run
  simp only [parseInbound, normalizeChannel_dingtalk, parseDingtalk, requireObject] at run
  cases run

lemma dingtalk_message (channel : settings.channel = "dingtalk") (configured : secret = some key)
    (run : parsePosted runtime settings secret request = .ok (.message message)) :
    DingtalkAuthenticated runtime secret request ∨
      DingtalkSmuggled runtime settings secret request := by
  rw [parsePosted_dingtalk channel] at run
  obtain ⟨posted, read, run⟩ := of_bind_ok run
  cases xml : looksXml request with
  | false =>
    obtain ⟨fields, loaded, _, verified⟩ := postedPayload_json xml read
    left
    refine ⟨key, fields, configured, loaded, ?_⟩
    rw [configured] at verified
    exact verified (by decide)
  | true =>
    obtain ⟨rfl, keyed⟩ := postedPayload_xml xml read
    by_cases authentic : DingtalkAuthenticated runtime secret request
    · exact .inl authentic
    right
    split at run
    · next credentials found =>
      obtain ⟨inbound, parsed, _⟩ := of_map_ok run
      exact ⟨xml, keyed (by rw [configured]; rfl), authentic, credentials, found,
        parseDingtalkHttpEvent_text_isOk.1 ⟨inbound, parsed⟩⟩
    · exact absurd run parseInbound_dingtalk_text

lemma dingtalk_smuggled (channel : settings.channel = "dingtalk")
    (smuggled : DingtalkSmuggled runtime settings secret request) :
    ∃ message, parsePosted runtime settings secret request = .ok (.message message) := by
  obtain ⟨xml, keyed, _, credentials, found, accepted⟩ := smuggled
  obtain ⟨message, parsed⟩ := parseDingtalkHttpEvent_text_isOk.2 accepted
  have unsigned : ¬(secret.isSome ∧ settings.wecomSecurity.encodingAesKey.isNone) := by
    rintro ⟨_, absent⟩
    rw [Option.isNone_iff_eq_none] at absent
    rw [absent] at keyed
    cases keyed
  have read : postedPayload runtime "dingtalk" settings.wecomSecurity secret request
      = .ok (.text request.body) := by
    unfold postedPayload
    rw [if_pos xml, if_neg unsigned]
  refine ⟨message, ?_⟩
  rw [parsePosted_dingtalk channel, read]
  simp only [bind, Except.bind, found, parsed, Except.map]

lemma dingtalk_authenticated_iff (channel : settings.channel = "dingtalk")
    (configured : secret = some key) :
    (∀ message, parsePosted runtime settings secret request = .ok (.message message) →
      DingtalkAuthenticated runtime secret request) ↔
      ¬DingtalkSmuggled runtime settings secret request := by
  constructor
  · intro authentic smuggled
    obtain ⟨message, run⟩ := dingtalk_smuggled channel smuggled
    exact smuggled.2.2.1 (authentic message run)
  · intro honest message run
    exact (dingtalk_message channel configured run).resolve_right honest

end

/-- On a public listener, every message of a request is authenticated exactly when the
request smuggles none. -/
theorem publicIngress_authenticated (runtime : Runtime) {isFile : String → Bool}
    {settings : ImSettings} {environ : Environ} {ingress : PublicIngress}
    (accepted : resolvePublicIngress isFile true settings environ = .ok (some ingress))
    (request : Request) :
    (∀ message, parsePosted runtime settings (ingressSecret settings environ) request
        = .ok (.message message) →
      Authenticated runtime settings (ingressSecret settings environ) request message) ↔
      ¬Smuggled runtime settings (ingressSecret settings environ) request := by
  cases publicChannel accepted with
  | feishu channel encryptKey configured =>
    simp only [Authenticated, Smuggled, channel]
    exact feishu_authenticated_iff channel configured
  | wecom channel token encodingAesKey signed encrypted =>
    simp only [Authenticated, Smuggled, channel]
    constructor
    · intro _ smuggled
      exact smuggled
    intro _ message run
    exact wecom_authenticated channel signed encrypted run
  | dingtalk channel key configured =>
    simp only [Authenticated, Smuggled, channel]
    exact dingtalk_authenticated_iff channel configured

/-! ## A DingTalk body posted as XML -/

namespace Sample

/-- A library that decodes one document; no digest or cipher is computed in the samples. -/
def runtime (body : String) (value : Fields) : Runtime where
  jsonLoads := fun text => if text = body then some (.obj value) else none
  jsonDumps := fun _ => ""
  repr := fun _ => ""
  sha256 := fun _ => []
  sha1 := fun _ => []
  hmacSha256 := fun _ _ => []
  base64Decode := fun _ => none
  base64Encode := fun _ => ""
  aesCbcDecrypt := fun _ _ _ => []
  utf8Decode := fun _ => none

lemma runtime_jsonLoads (body : String) (value : Fields) :
    (runtime body value).jsonLoads body = some (.obj value) := if_pos rfl

def environ : Environ
  | "OBSION_IM_TLS_CERT" => some "/etc/obsion/tls.crt"
  | "OBSION_IM_TLS_KEY" => some "/etc/obsion/tls.key"
  | "OBSION_IM_PUBLIC_HOSTS" => some "im.example"
  | _ => none

def ingress : PublicIngress := ⟨"/etc/obsion/tls.crt", "/etc/obsion/tls.key", ["im.example"]⟩

def dingtalkBody : String :=
  "\x7b\"msgId\":\"m1\",\"robotCode\":\"r1\",\"chatbotCorpId\":\"c1\",\"senderStaffId\":\"u1\",\"conversationId\":\"cid1\",\"msgtype\":\"text\",\"text\":\x7b\"content\":\"deploy\"\x7d\x7d"

def dingtalkFields : Fields :=
  [("msgId", .str "m1"), ("robotCode", .str "r1"), ("chatbotCorpId", .str "c1"),
    ("senderStaffId", .str "u1"), ("conversationId", .str "cid1"), ("msgtype", .str "text"),
    ("text", .obj [("content", .str "deploy")])]

def dingtalk : ImSettings where
  channel := "dingtalk"
  normalized := by decide
  feishuSecurity := {}
  wecomSecurity := { encodingAesKey := some "abcdefghijklmnopqrstuvwxyz0123456789ABCDEFG" }
  dingtalkCredentials := some { appKey := "app", appSecret := "secret" }

def dingtalkRequest : Request := ⟨dingtalkBody, "application/xml", []⟩

lemma dingtalk_accepted :
    resolvePublicIngress (fun _ => true) true dingtalk environ = .ok (some ingress) := by
  rfl

set_option maxRecDepth 2000 in
lemma dingtalk_smuggled : DingtalkSmuggled (runtime dingtalkBody dingtalkFields) dingtalk
      (ingressSecret dingtalk environ) dingtalkRequest := by
  refine ⟨by decide, rfl, ?_, { appKey := "app", appSecret := "secret" }, rfl, dingtalkFields,
    by decide, runtime_jsonLoads _ _, ?_, ?_⟩
  · rintro ⟨key, fields, _, loaded, verified⟩
    have eq : some (Json.obj dingtalkFields) = some (.obj fields) :=
      (runtime_jsonLoads dingtalkBody dingtalkFields).symm.trans loaded
    cases eq
    cases verified
  · exact ⟨by decide, by decide, by decide, by decide, by decide, by decide, by decide, by decide⟩
  · exact ⟨by decide, by decide⟩

end Sample

theorem publicIngress_authenticated_dingtalk :
    resolvePublicIngress (fun _ => true) true Sample.dingtalk Sample.environ
        = .ok (some Sample.ingress) ∧
      ¬∀ message, parsePosted (Sample.runtime Sample.dingtalkBody Sample.dingtalkFields) Sample.dingtalk
            (ingressSecret Sample.dingtalk Sample.environ) Sample.dingtalkRequest
          = .ok (.message message) →
        Authenticated (Sample.runtime Sample.dingtalkBody Sample.dingtalkFields) Sample.dingtalk
          (ingressSecret Sample.dingtalk Sample.environ) Sample.dingtalkRequest message := by
  refine ⟨Sample.dingtalk_accepted, ?_⟩
  intro authentic
  exact (publicIngress_authenticated _ Sample.dingtalk_accepted _).1 authentic
    Sample.dingtalk_smuggled

namespace Sample

def feishuBody : String :=
  "\x7b\"type\":\"url_verification\",\"timestamp\":\"1\",\"event\":\x7b\"message\":\x7b\"chat_id\":\"oc_1\",\"content\":\x7b\"text\":\"deploy\"\x7d\x7d,\"sender\":\x7b\"open_id\":\"ou_1\"\x7d\x7d\x7d"

def feishuFields : Fields :=
  [("type", .str "url_verification"), ("timestamp", .str "1"), ("event", .obj
      [("message", .obj [("chat_id", .str "oc_1"), ("content", .obj [("text", .str "deploy")])]),
        ("sender", .obj [("open_id", .str "ou_1")])])]

def feishu : ImSettings where
  channel := "feishu"
  normalized := by decide
  feishuSecurity := { encryptKey := some "key" }
  wecomSecurity := {}
  dingtalkCredentials := none

def feishuRequest : Request := ⟨feishuBody, "application/json", []⟩

def feishuInbound : InboundMessage where
  conversationId := "oc_1"
  text := "deploy"
  senderId := "ou_1"
  senderDisplay := none
  channel := "feishu"

end Sample

set_option maxRecDepth 2000 in
/-- A public Feishu listener takes a message from a request without any signature. -/
theorem publicIngress_smuggled : resolvePublicIngress (fun _ => true) true Sample.feishu Sample.environ
        = .ok (some Sample.ingress) ∧
      parsePosted (Sample.runtime Sample.feishuBody Sample.feishuFields) Sample.feishu
          (ingressSecret Sample.feishu Sample.environ) Sample.feishuRequest
        = .ok (.message Sample.feishuInbound) ∧
      ¬Authenticated (Sample.runtime Sample.feishuBody Sample.feishuFields) Sample.feishu
        (ingressSecret Sample.feishu Sample.environ) Sample.feishuRequest
        Sample.feishuInbound := by
  refine ⟨rfl, rfl, ?_⟩
  rintro ⟨official, _, _, _, present, _⟩
  cases present

end Obsion.Ingress
