import Obsion.Ingress.Webhook

/-! # The messages that the parsers accept

A Feishu or DingTalk event becomes an inbound message exactly when it is well
formed; no parser turns another kind of event into a message. -/

namespace Obsion.Ingress

lemma absent_or_eq {text value : String} : ¬(text ≠ "" ∧ text ≠ value) ↔ text = "" ∨ text = value := by
  rw [not_and_or, not_not, not_not]

/-- A text message event with a sender and a chat. -/
structure FeishuTextMessage (runtime : Runtime) (body : Fields) : Prop where
  event : feishuEventType runtime body = "" ∨ feishuEventType runtime body = "im.message.receive_v1"
  kind : feishuMessageType runtime (feishuNested body "message") = "" ∨
    feishuMessageType runtime (feishuNested body "message") = "text"
  sender : feishuSenderId runtime body ≠ ""
  conversation : feishuConversationId runtime body ≠ ""
  text : feishuContent runtime (feishuNested body "message") ≠ ""

section
variable {runtime : Runtime} {body : Fields}

lemma feishuMessage_of_text (accepted : FeishuTextMessage runtime body) :
    ∃ message, feishuMessage runtime body = .ok (.message message) := by
  obtain ⟨event, kind, sender, conversation, text⟩ := accepted
  rw [feishuMessage, if_neg (absent_or_eq.2 event), feishuText, if_neg (absent_or_eq.2 kind)]
  simp only [if_neg sender, if_neg conversation, if_neg text]
  exact ⟨_, rfl⟩

variable {message : InboundMessage}

lemma text_of_feishuMessage (run : feishuMessage runtime body = .ok (.message message)) :
    FeishuTextMessage runtime body := by
  unfold feishuMessage at run
  split at run
  · cases run
  next known =>
  unfold feishuText at run
  split at run
  · cases run
  next text found =>
  split at found
  · cases found
  next textual =>
  cases found
  split at run
  · cases run
  next sender =>
  split at run
  · cases run
  next conversation =>
  split at run
  · cases run
  next text =>
  exact ⟨absent_or_eq.1 known, absent_or_eq.1 textual, sender, conversation, text⟩

lemma feishuMessage_isMessage : (∃ message, feishuMessage runtime body = .ok (.message message)) ↔
      FeishuTextMessage runtime body := by
  constructor
  · rintro ⟨message, run⟩
    exact text_of_feishuMessage run
  exact feishuMessage_of_text

lemma parseFeishuBody_verification (verification : runtime.text body ["type"] = "url_verification") :
    parseFeishuBody runtime body ≠ .ok (.message message) := by
  intro run
  rw [parseFeishuBody, if_pos verification] at run
  simp only at run
  split at run
  · cases run
  cases run

lemma parseFeishuBody_isMessage : (∃ message, parseFeishuBody runtime body = .ok (.message message)) ↔
      runtime.text body ["type"] ≠ "url_verification" ∧ FeishuTextMessage runtime body := by
  by_cases verification : runtime.text body ["type"] = "url_verification"
  · constructor
    · rintro ⟨message, run⟩
      exact absurd run (parseFeishuBody_verification verification)
    rintro ⟨other, _⟩
    exact absurd verification other
  · rw [parseFeishuBody, if_neg verification, feishuMessage_isMessage]
    exact ⟨fun accepted => ⟨verification, accepted⟩, fun accepted => accepted.2⟩

end

structure DingtalkTextMessage (runtime : Runtime) (body : Fields) : Prop where
  sender : dingtalkSenderId runtime body ≠ ""
  conversation : dingtalkConversationId runtime body ≠ ""
  text : dingtalkText runtime body ≠ ""

def HasVendorEventId (payload headers : Fields) : Prop :=
  (firstIdentifier [payload] ["msgId"]).isSome ∨
    (firstIdentifier [headers, payload, [("data", .obj payload), ("headers", .obj headers)]]
      eventIdKeys).isSome

instance (payload headers : Fields) : Decidable (HasVendorEventId payload headers) :=
  inferInstanceAs (Decidable (_ ∨ _))

structure DingtalkEvent (runtime : Runtime) (payload headers : Fields) (appKey : String) : Prop where
  configured : strip appKey ≠ ""
  vendorEvent : HasVendorEventId payload headers
  installation : (firstIdentifier [payload, headers] installationIdKeys).isSome
  corp : (firstIdentifier [payload, headers] corpIdKeys).isSome
  application : (firstIdentifier [payload, headers] appKeyKeys).any
    (fun key => key != strip appKey) = false
  message : DingtalkTextMessage runtime
    (unwrapSigned (normalizeChatbotPayload runtime payload))

/-- The event names no other application and, when one is configured, the robot. -/
structure DingtalkIdentity (data headers : Fields) (credentials : DingTalkCredentials) : Prop where
  unified : strip (credentials.unifiedAppId.getD "") ≠ "" →
    [headers, data].any (fun source => unifiedAppIdKeys.any fun key =>
      differs (source.get? key) (strip (credentials.unifiedAppId.getD ""))) = false
  robot : strip (credentials.robotCode.getD "") ≠ "" →
    firstIdentifier [data, headers] robotCodeKeys = some (strip (credentials.robotCode.getD ""))

section
variable {runtime : Runtime} {payload headers : Fields} {appKey : String}

lemma parseDingtalkObject_isOk : (∃ message, parseDingtalkObject runtime payload = .ok message) ↔
      DingtalkTextMessage runtime (unwrapSigned payload) := by
  constructor
  · rintro ⟨message, run⟩
    unfold parseDingtalkObject at run
    simp only at run
    split at run
    · cases run
    next sender =>
    split at run
    · cases run
    next conversation =>
    split at run
    · cases run
    next text => exact ⟨sender, conversation, text⟩
  · rintro ⟨sender, conversation, text⟩
    rw [parseDingtalkObject]
    simp only [if_neg sender, if_neg conversation, if_neg text]
    exact ⟨_, rfl⟩

lemma requiredIdentifier_isOk {label : String} {sources : List Fields} {keys : List String} :
    (∃ value, requiredIdentifier label sources keys = .ok value) ↔
      (firstIdentifier sources keys).isSome := by
  unfold requiredIdentifier
  cases firstIdentifier sources keys with
  | none => simp [im]
  | some value => simp

lemma vendorEventId_isOk :
    (∃ id, vendorEventId payload headers = .ok id) ↔ HasVendorEventId payload headers := by
  unfold vendorEventId HasVendorEventId
  cases firstIdentifier [payload] ["msgId"] with
  | some id => simp
  | none => simpa using requiredIdentifier_isOk

lemma parseTrustedDingtalkEvent_isOk :
    (∃ message, parseTrustedDingtalkEvent runtime payload headers appKey = .ok message) ↔
      DingtalkEvent runtime payload headers appKey := by
  constructor
  · rintro ⟨message, run⟩
    unfold parseTrustedDingtalkEvent at run
    simp only at run
    split at run
    · cases run
    next configured =>
    obtain ⟨eventId, identified, run⟩ := of_bind_ok run
    obtain ⟨installationId, installed, run⟩ := of_bind_ok run
    obtain ⟨corpId, incorporated, run⟩ := of_bind_ok run
    split at run
    · cases run
    next application =>
    obtain ⟨inbound, parsed, run⟩ := of_bind_ok run
    exact ⟨configured, vendorEventId_isOk.1 ⟨_, identified⟩, requiredIdentifier_isOk.1 ⟨_, installed⟩,
      requiredIdentifier_isOk.1 ⟨_, incorporated⟩, Bool.eq_false_iff.2 application,
      parseDingtalkObject_isOk.1 ⟨_, parsed⟩⟩
  · rintro ⟨configured, vendorEvent, installation, corp, application, message⟩
    obtain ⟨eventId, identified⟩ := vendorEventId_isOk.2 vendorEvent
    obtain ⟨installationId, installed⟩ :=
      (@requiredIdentifier_isOk "installation id" [payload, headers] installationIdKeys).2
        installation
    obtain ⟨corpId, incorporated⟩ :=
      (@requiredIdentifier_isOk "corp id" [payload, headers] corpIdKeys).2 corp
    obtain ⟨inbound, parsed⟩ := parseDingtalkObject_isOk.2 message
    unfold parseTrustedDingtalkEvent
    simp only [if_neg configured, identified, installed, incorporated, application, parsed,
      bind, Except.bind, Bool.false_eq_true, if_false]
    exact ⟨_, rfl⟩

variable {credentials : DingTalkCredentials}

lemma validateDingtalkApplicationIdentity_isOk {data : Fields} {inbound : InboundMessage} : (∃ message,
      validateDingtalkApplicationIdentity data headers credentials inbound = .ok message) ↔
      DingtalkIdentity data headers credentials := by
  constructor
  · rintro ⟨message, run⟩
    unfold validateDingtalkApplicationIdentity at run
    simp only at run
    split at run
    · cases run
    next unified =>
    have unified : strip (credentials.unifiedAppId.getD "") ≠ "" →
        [headers, data].any (fun source => unifiedAppIdKeys.any fun key =>
          differs (source.get? key) (strip (credentials.unifiedAppId.getD ""))) = false := by
      intro expected
      rw [Bool.eq_false_iff]
      intro other
      exact unified ⟨expected, other⟩
    split at run
    · next absent => exact ⟨unified, fun present => absurd absent present⟩
    split at run
    · cases run
    next actual found =>
    split at run
    · cases run
    next eq =>
    refine ⟨unified, fun _ => ?_⟩
    rw [← not_not.1 eq]
    unfold requiredIdentifier at found
    split at found
    · next value first =>
      cases found
      exact first
    · cases found
  · rintro ⟨unified, robot⟩
    unfold validateDingtalkApplicationIdentity
    have known : ¬(strip (credentials.unifiedAppId.getD "") ≠ "" ∧
        [headers, data].any (fun source => unifiedAppIdKeys.any fun key =>
          differs (source.get? key) (strip (credentials.unifiedAppId.getD ""))) = true) := by
      rintro ⟨expected, other⟩
      rw [unified expected] at other
      cases other
    simp only [if_neg known]
    split
    · exact ⟨_, rfl⟩
    next present =>
    rw [requiredIdentifier, robot present]
    simp only [ne_eq, not_true_eq_false, if_false]
    exact ⟨_, rfl⟩

lemma parseDingtalkHttpEvent_text_isOk {headers : Headers} {body : String} :
    (∃ message, parseDingtalkHttpEvent runtime (.text body) appKey headers (some credentials)
        = .ok message) ↔
      ∃ fields, body.utf8ByteSize ≤ maxEventBytes ∧ runtime.jsonLoads body = some (.obj fields) ∧
        DingtalkEvent runtime fields (headerFields headers) appKey ∧
        DingtalkIdentity fields (headerFields headers) credentials := by
  unfold parseDingtalkHttpEvent payloadObject
  by_cases large : maxEventBytes < body.utf8ByteSize
  · simp [large, im, Nat.not_le.2 large]
  simp only [if_neg large]
  cases loaded : runtime.jsonLoads body with
  | none => simp [im]
  | some value =>
    cases value with
    | obj fields =>
      constructor
      · rintro ⟨message, run⟩
        simp only at run
        split at run
        · cases run
        next inbound parsed =>
        exact ⟨fields, Nat.not_lt.1 large, rfl, parseTrustedDingtalkEvent_isOk.1 ⟨_, parsed⟩,
          validateDingtalkApplicationIdentity_isOk.1 ⟨_, run⟩⟩
      · rintro ⟨found, _, eq, event, identity⟩
        cases eq
        obtain ⟨inbound, parsed⟩ := parseTrustedDingtalkEvent_isOk.2 event
        simp only [parsed]
        exact validateDingtalkApplicationIdentity_isOk.2 identity
    | _ => simp [im]

end

end Obsion.Ingress
