import Obsion.Adapter.Bridge

/-! # Honest reports

`Honest` says what the reports of one delivery may claim about its write.  Every
delivery of the worker and of the bridge is honest: the ladder of exceptions is
read off `Attempted`, which ties the exception to what the vendor answered. -/

namespace Obsion.Adapter

open Obsion.Lib
open Obsion.Ingress (InboundMessage hexDigest)

def post? : Event Answer → Option (MessagePost × HttpOutcome)
  | ⟨.message post, outcome⟩ => some (post, outcome)
  | _ => none

def report? : Event Answer → Option (Report × Reply Unit)
  | ⟨.report report, reply⟩ => some (report, reply)
  | _ => none

def posts (events : Trace) : List (MessagePost × HttpOutcome) := events.filterMap post?

def reports (events : Trace) : List (Report × Reply Unit) := events.filterMap report?

@[simp] lemma posts_append (first second : Trace) :
    posts (first ++ second) = posts first ++ posts second := List.filterMap_append

@[simp] lemma reports_append (first second : Trace) :
    reports (first ++ second) = reports first ++ reports second := List.filterMap_append

def Quiet : Op → Prop
  | .message _ => False
  | .report _ => False
  | _ => True

lemma nothing_quiet {events : Trace} (quiet : ∀ event ∈ events, Quiet event.op) :
    posts events = [] ∧ reports events = [] := by
  constructor
  all_goals
    apply List.filterMap_eq_nil_iff.2
    intro event mem
    have silent := quiet event mem
    obtain ⟨op, answer⟩ := event
    cases op <;> first | rfl | cases silent

def Vendor.codeKey : Vendor → String
  | .feishu => "code"
  | .dingtalk => "errcode"

def rejects (vendor : Vendor) (response : Response) : Bool :=
  match response.body with
  | .value (.obj payload) =>
    ((Fields.get? payload vendor.codeKey).bind intValue?).any (· != 0)
  | _ => false

/-- The transport failed, or the answer is a server failure or a success that is not an
explicit rejection. -/
def PossiblyAccepted (vendor : Vendor) : HttpOutcome → Prop
  | .transportError => True
  | .otherError => True
  | .response response =>
    (500 ≤ response.status ∧ response.status < 600) ∨
      (succeeded response = true ∧ rejects vendor response = false)

def Channel.vendor : Channel → Vendor
  | .feishu _ => .feishu
  | .dingtalk _ => .dingtalk

def Channel.requireSuccess (library : Library) (channel : Channel) (payload : Fields)
    (token : String) : Except Raised Unit :=
  match channel with
  | .feishu credentials =>
    Feishu.requireSuccess library credentials payload "send message" (some token)
  | .dingtalk credentials =>
    Dingtalk.requireSuccess library credentials payload "send message" (some token)

def Channel.messageId (library : Library) (channel : Channel) (payload : Fields) : String :=
  match channel with
  | .feishu _ => Feishu.messageId library payload
  | .dingtalk _ => Dingtalk.messageId payload

def SuccessAnswer (library : Library) (channel : Channel) (token : String)
    (outcome : HttpOutcome) (id : String) : Prop :=
  ∃ response payload, outcome = .response response ∧ succeeded response = true ∧
    response.body = .value (.obj payload) ∧
    channel.requireSuccess library payload token = .ok () ∧
    channel.messageId library payload = id

/-! ## Honest deliveries -/

/-- A retryable failure, other than the unfenced report of a lost completion, which the
control plane holds for reconciliation. -/
def RetryableReport : Report → Prop
  | .fail _ failureCode generation _ retryable _ =>
    retryable = true ∧ ¬(failureCode = "delivery_audit_failed" ∧ generation = none)
  | _ => False

structure Honest (library : Library) (channel : Channel) (text : String) (events : Trace) : Prop where
  single : (posts events).length ≤ 1
  text : ∀ sent ∈ posts events, sent.1.text = text
  retryable : ∀ entry ∈ reports events, RetryableReport entry.1 →
    ∀ sent ∈ posts events, ¬PossiblyAccepted channel.vendor sent.2
  completed : ∀ deliveryId id generation workerId reply,
    (Report.complete deliveryId id generation workerId, reply) ∈ reports events →
    ∃ sent ∈ posts events, SuccessAnswer library channel sent.1.token sent.2 id

lemma Honest.of_quiet {library : Library} {channel : Channel} {text : String} {events : Trace}
    (quiet : ∀ event ∈ events, Quiet event.op) : Honest library channel text events := by
  obtain ⟨sent, reported⟩ := nothing_quiet quiet
  constructor
  · simp [sent]
  · simp [sent]
  · simp [reported]
  · simp [reported]

def ReportLost (events : Trace) : Prop :=
  ∃ lost, reports events = [(lost, .raised)] ∧
    ∀ deliveryId id generation workerId, lost ≠ .complete deliveryId id generation workerId

/-- The exceptions that a ladder may answer with a retryable failure. -/
def Raised.claimsUnsent : Raised → Bool
  | .imError _ => true
  | .denied _ => true
  | .preSend _ => true
  | .retryable _ _ => true
  | .rejected _ => false
  | .outcomeUnknown _ => false
  | .other => false

/-- What a reply tried: nothing was sent, or one write whose outcome fits the result. -/
inductive Attempted (library : Library) (channel : Channel) (text : String) :
    Trace → Except Raised String → Prop
  | unsent {events : Trace} (error : Raised) (quiet : ∀ event ∈ events, Quiet event.op) :
      Attempted library channel text events (.error error)
  | sent {before : Trace} {result : Except Raised String} (post : MessagePost)
      (outcome : HttpOutcome) (quiet : ∀ event ∈ before, Quiet event.op)
      (same : post.text = text)
      (success : ∀ id, result = .ok id → SuccessAnswer library channel post.token outcome id)
      (failure : ∀ error, result = .error error → error.claimsUnsent = true →
        ¬PossiblyAccepted channel.vendor outcome) :
      Attempted library channel text (before ++ [⟨.message post, outcome⟩]) result

def Supported (result : Except Raised String) : Report → Prop
  | .complete _ id _ _ => result = .ok id
  | report => RetryableReport report → ∃ error, result = .error error ∧ error.claimsUnsent = true

section
variable {library : Library} {channel : Channel} {text : String} {events : Trace}
  {result : Except Raised String}

def reporting (tail : List (Report × Reply Unit)) : Trace :=
  tail.map fun entry => ⟨.report entry.1, entry.2⟩

lemma reports_reporting (tail : List (Report × Reply Unit)) : reports (reporting tail) = tail := by
  simp [reports, reporting, List.filterMap_map, Function.comp_def, report?]

lemma posts_reporting (tail : List (Report × Reply Unit)) : posts (reporting tail) = [] := by
  simp [posts, reporting, List.filterMap_map, Function.comp_def, post?]

section
variable (attempted : Attempted library channel text events result)
include attempted

lemma Attempted.reports_tail (tail : List (Report × Reply Unit)) :
    reports (events ++ reporting tail) = tail := by
  rw [reports_append, reports_reporting]
  cases attempted with
  | unsent error quiet => rw [(nothing_quiet quiet).2, List.nil_append]
  | sent post outcome quiet eq success failure =>
    rw [reports_append, (nothing_quiet quiet).2]
    rfl

lemma Attempted.honest (tail : List (Report × Reply Unit))
    (supported : ∀ entry ∈ tail, Supported result entry.1) :
    Honest library channel text (events ++ reporting tail) := by
  have noted := attempted.reports_tail tail
  cases attempted with
  | unsent error quiet =>
    have sent : posts (events ++ reporting tail) = [] := by
      rw [posts_append, (nothing_quiet quiet).1, posts_reporting]
      rfl
    constructor
    · simp [sent]
    · simp [sent]
    · simp [sent]
    · rw [noted]
      intro deliveryId id generation workerId reply mem
      cases supported _ mem
  | @sent before _ post outcome quiet eq success failure =>
    have sent : posts ((before ++ [⟨.message post, outcome⟩]) ++ reporting tail)
        = [(post, outcome)] := by
      rw [posts_append, posts_append, (nothing_quiet quiet).1, posts_reporting]
      rfl
    constructor
    · rw [sent]
      exact le_refl 1
    · rw [sent]
      intro entry mem
      rw [List.mem_singleton.1 mem]
      exact eq
    · rw [sent, noted]
      intro entry mem retry found here
      rw [List.mem_singleton.1 here]
      have fits := supported entry mem
      obtain ⟨report, reply⟩ := entry
      cases report with
      | complete deliveryId id generation workerId => cases retry
      | fail deliveryId failureCode generation workerId retryable retryAfterSeconds =>
        obtain ⟨error, raised, unsent⟩ := fits retry
        exact failure error raised unsent
      | unknown deliveryId generation workerId => cases retry
    · rw [sent, noted]
      intro deliveryId id generation workerId reply mem
      exact ⟨(post, outcome), List.mem_singleton.2 rfl, success id (supported _ mem)⟩

lemma Attempted.reportLost {lost : Report} (failure : ∀ deliveryId id generation workerId,
      lost ≠ .complete deliveryId id generation workerId) :
    ReportLost (events ++ reporting [(lost, .raised)]) :=
  ⟨lost, attempted.reports_tail _, failure⟩

end

end

/-! ## One spec lemma for each client -/

section
variable {library : Library} {token idempotencyKey id : String} {outcome : HttpOutcome}
  {error : Raised}

variable {vendor : Vendor} {response : Response}

lemma rateLimited_unaccepted (limited : response.status = 429) :
    ¬PossiblyAccepted vendor (.response response) := by
  rintro (⟨low, _⟩ | ⟨success, _⟩)
  · omega
  · simp [succeeded, limited] at success

structure Classified (vendor : Vendor) (outcome : HttpOutcome) (result : Except Raised Fields) :
    Prop where
  ok : ∀ payload, result = .ok payload → ∃ response, outcome = .response response ∧
    succeeded response = true ∧ response.body = .value (.obj payload)
  error : ∀ error, result = .error error → error.claimsUnsent = true → ¬PossiblyAccepted vendor outcome

lemma Classified.of_error (ambiguous : error.claimsUnsent = false) :
    Classified vendor outcome (.error error) := by
  constructor
  · intro payload eq
    cases eq
  intro found eq unsent
  cases eq
  rw [ambiguous] at unsent
  cases unsent

lemma Classified.of_limited {message : String} {delay : Rat} (limited : response.status = 429) :
    Classified vendor (.response response) (.error (.retryable message delay)) := by
  constructor
  · intro payload eq
    cases eq
  intro found eq unsent
  exact rateLimited_unaccepted limited

lemma Classified.of_ok {payload : Fields} (success : succeeded response = true)
    (body : response.body = .value (.obj payload)) :
    Classified vendor (.response response) (.ok payload) := by
  constructor
  · intro found eq
    cases eq
    exact ⟨response, rfl, success, body⟩
  · intro found eq
    cases eq

variable {credentials : FeishuCredentials}

lemma Feishu.writtenBody_classified (response : Response) :
    Classified .feishu (.response response) (writtenBody library credentials token response) := by
  unfold writtenBody
  split
  · exact Classified.of_error rfl
  · split
    · exact Classified.of_error rfl
    exact Classified.of_error rfl
  · next payload body =>
    split
    · next success => exact Classified.of_ok success body
    split
    · exact Classified.of_error rfl
    exact Classified.of_error rfl
  · split
    · exact Classified.of_error rfl
    exact Classified.of_error rfl

lemma Feishu.writeResult_classified (outcome : HttpOutcome) :
    Classified .feishu outcome (writeResult library credentials token outcome) := by
  cases outcome with
  | transportError | otherError => exact Classified.of_error rfl
  | response response =>
    unfold writeResult
    simp only
    split
    · next limited => exact Classified.of_limited limited
    split
    · exact Classified.of_error rfl
    split
    · exact Classified.of_error rfl
    split
    · exact Classified.of_error rfl
    exact writtenBody_classified response

lemma Dingtalk.writtenBody_classified (success : succeeded response = true) :
    Classified .dingtalk (.response response) (writtenBody response) := by
  unfold writtenBody
  split
  · exact Classified.of_error rfl
  · exact Classified.of_error rfl
  · next payload body => exact Classified.of_ok success body
  · exact Classified.of_error rfl

lemma Dingtalk.writeResult_classified (outcome : HttpOutcome) :
    Classified .dingtalk outcome (writeResult library outcome) := by
  cases outcome with
  | transportError | otherError => exact Classified.of_error rfl
  | response response =>
    unfold writeResult
    simp only
    split
    · next limited => exact Classified.of_limited limited
    split
    · exact Classified.of_error rfl
    split
    · exact Classified.of_error rfl
    next success =>
    split
    · exact Classified.of_error rfl
    exact writtenBody_classified (not_not.1 success)

structure Receipted (library : Library) (channel : Channel) (token : String)
    (outcome : HttpOutcome) (result : Except Raised String) : Prop where
  success : ∀ id, result = .ok id → SuccessAnswer library channel token outcome id
  failure : ∀ error, result = .error error → error.claimsUnsent = true →
    ¬PossiblyAccepted channel.vendor outcome

lemma Receipted.of_error {channel : Channel} (ambiguous : error.claimsUnsent = false) :
    Receipted library channel token outcome (.error error) := by
  constructor
  · intro found eq
    cases eq
  intro found eq unsent
  cases eq
  rw [ambiguous] at unsent
  cases unsent

lemma Receipted.of_ok {channel : Channel} (answer : SuccessAnswer library channel token outcome id) :
    Receipted library channel token outcome (.ok id) :=
  ⟨fun _ eq => Except.ok.inj eq ▸ answer, fun _ eq => by cases eq⟩

lemma Receipted.of_written {channel : Channel} {written : Except Raised Fields}
    {next : Fields → Except Raised String} (classified : Classified channel.vendor outcome written)
    (read : ∀ response payload, outcome = .response response → succeeded response = true →
      response.body = .value (.obj payload) →
      Receipted library channel token outcome (next payload)) :
    Receipted library channel token outcome (written >>= next) := by
  cases written with
  | error error =>
    refine ⟨fun _ eq => (by cases eq), fun found eq => ?_⟩
    cases eq
    exact classified.error error rfl
  | ok payload =>
    obtain ⟨response, answered, success, body⟩ := classified.ok payload rfl
    exact read response payload answered success body

lemma Feishu.receipt_receipted (credentials : FeishuCredentials) (outcome : HttpOutcome) :
    Receipted library (.feishu credentials) token outcome
      (receipt library credentials token outcome) := by
  unfold receipt
  refine Receipted.of_written (Feishu.writeResult_classified outcome)
    fun response payload answered success body => ?_
  split
  · exact Receipted.of_error rfl
  next required =>
  split
  · exact Receipted.of_error rfl
  exact Receipted.of_ok ⟨response, payload, answered, success, body, required, rfl⟩

lemma Dingtalk.receipt_receipted (credentials : Ingress.DingTalkCredentials)
    (outcome : HttpOutcome) : Receipted library (.dingtalk credentials) token outcome
      (receipt library credentials token idempotencyKey outcome) := by
  unfold receipt
  refine Receipted.of_written (Dingtalk.writeResult_classified outcome)
    fun response payload answered success body => ?_
  split
  · exact Receipted.of_error rfl
  next required =>
  dsimp only
  split
  · exact Receipted.of_error rfl
  split
  · exact Receipted.of_error rfl
  exact Receipted.of_ok ⟨response, payload, answered, success, body, required, rfl⟩

end

section
variable {library : Library}

lemma quiet_requestJson {request : Act HttpOutcome}
    {classify : Response → Except Raised Fields} {exhausted : String}
    (quiet : Action.Only Quiet request) (attempt remaining : Nat) : Action.Only Quiet
      (requestJson library request classify exhausted attempt remaining) := by
  induction remaining generalizing attempt with
  | zero => exact Action.only_raise _
  | succ remaining ih =>
    apply Action.only_bind quiet
    intro outcome
    cases outcome with
    | otherError => exact Action.only_raise _
    | transportError =>
      simp only
      split
      · exact Action.only_raise _
      exact Action.only_bind (Action.only_ask trivial) fun _ => ih (attempt + 1)
    | response response =>
      simp only
      split
      · exact Action.only_bind (Action.only_ask trivial) fun _ => ih (attempt + 1)
      exact Action.only_ofExcept _

lemma quiet_cachedToken : Action.Only Quiet cachedToken := by
  refine Action.only_bind Action.only_read ?_
  intro cache
  split
  · exact Action.only_pure _
  refine Action.only_bind (Action.only_ask trivial) ?_
  intro now
  split
  · exact Action.only_pure _
  exact Action.only_pure _

lemma quiet_storeToken (token : String) (expire : Int) :
    Action.Only Quiet (storeToken token expire) := by
  refine Action.only_bind (Action.only_ask trivial) ?_
  intro now
  exact Action.only_bind (Action.only_write _) fun _ => Action.only_pure _

lemma quiet_accessToken {authenticate : Act (String × Int)}
    (quiet : Action.Only Quiet authenticate) : Action.Only Quiet (accessToken authenticate) := by
  apply Action.only_bind quiet_cachedToken
  intro first
  cases first with
  | some token => exact Action.only_pure _
  | none =>
    apply Action.only_bind quiet_cachedToken
    intro second
    cases second with
    | some token => exact Action.only_pure _
    | none => exact Action.only_bind quiet fun issued => quiet_storeToken issued.1 issued.2

lemma quiet_preSendToken {token : Act String} (quiet : Action.Only Quiet token) :
    Action.Only Quiet (preSendToken token) := by
  apply Action.only_bind (Action.only_attempt quiet)
  intro result
  cases result with
  | ok token => exact Action.only_pure _
  | error error =>
    simp only
    split
    · exact Action.only_raise _
    exact Action.only_raise _

lemma quiet_feishuToken (credentials : FeishuCredentials) :
    Action.Only Quiet (Feishu.tenantAccessToken library credentials) := by
  apply quiet_accessToken
  apply Action.only_bind (quiet_requestJson (Action.only_ask trivial) _ _)
  intro payload
  exact Action.only_bind (Action.only_ofExcept _) fun _ => Action.only_ofExcept _

lemma quiet_dingtalkToken (credentials : Ingress.DingTalkCredentials) :
    Action.Only Quiet (Dingtalk.accessTokenValue library credentials) := by
  apply quiet_accessToken
  apply Action.only_bind (quiet_requestJson (Action.only_ask trivial) _ _)
  intro payload
  exact Action.only_bind (Action.only_ofExcept _) fun _ => Action.only_ofExcept _

end

/-! ## The reply of a channel -/

section
variable {library : Library} {channel : Channel} {before after : TokenCache} {events : Trace}
  {result : Except Raised String}

lemma attempted_raise {text : String} {error : Raised}
    (run : (Action.raise error : Act String).Runs before events result after) :
    Attempted library channel text events result := by
  obtain ⟨rfl, rfl, _⟩ := Action.runs_raise.1 run
  exact Attempted.unsent error (nofun)

lemma attempted_write {text : String} {token : Act String} {post : String → MessagePost}
    {receipt : String → HttpOutcome → Except Raised String} (quiet : Action.Only Quiet token)
    (eq : ∀ value, (post value).text = text) (receipted : ∀ value outcome,
      Receipted library channel (post value).token outcome (receipt value outcome)) (run : (do
      let value ← token
      let outcome ← Action.ask (Op.message (post value))
      Action.ofExcept (receipt value outcome) : Act String).Runs before events result after) :
    Attempted library channel text events result := by
  obtain ⟨error, head, rfl⟩ | ⟨value, middle, first, second, head, tail, rfl⟩ :=
    Action.runs_bind.1 run
  · exact Attempted.unsent error (quiet _ _ _ _ head)
  obtain ⟨error, asked, _⟩ | ⟨outcome, last, third, fourth, asked, done, rfl⟩ :=
    Action.runs_bind.1 tail
  · obtain ⟨_, _, impossible, _⟩ := Action.runs_ask.1 asked
    cases impossible
  obtain ⟨answer, rfl, answered, rfl⟩ := Action.runs_ask.1 asked
  cases answered
  obtain ⟨rfl, rfl, rfl⟩ := Action.runs_ofExcept.1 done
  have fits := receipted value outcome
  exact Attempted.sent (post value) outcome (quiet _ _ _ _ head) (eq value) fits.success
    fits.failure

variable {chatId : String} {message : OutboundMessage}

lemma Feishu.sendText_attempted {credentials : FeishuCredentials} {text idempotencyKey : String}
    (run : (sendText library credentials chatId text idempotencyKey).Runs before events result
      after) : Attempted library (.feishu credentials) (strip text) events result := by
  unfold sendText at run
  split at run
  · exact attempted_raise run
  split at run
  · exact attempted_raise run
  have quiet := quiet_preSendToken (@quiet_feishuToken library credentials)
  apply attempted_write quiet _ _ run
  · intro token
    rfl
  · intro token outcome
    exact receipt_receipted credentials outcome

lemma Dingtalk.sendText_attempted {credentials : Ingress.DingTalkCredentials}
    {text idempotencyKey : String}
    (run : (sendText library credentials chatId text idempotencyKey).Runs before events result
      after) : Attempted library (.dingtalk credentials) (strip text) events result := by
  unfold sendText at run
  split at run
  · exact attempted_raise run
  split at run
  · exact attempted_raise run
  split at run
  · exact attempted_raise run
  have quiet := quiet_preSendToken (@quiet_dingtalkToken library credentials)
  apply attempted_write quiet _ _ run
  · intro token
    rfl
  · intro token outcome
    exact receipt_receipted credentials outcome

lemma reply_attempted (run : (channel.reply library message).Runs before events result after) :
    Attempted library channel (strip message.text) events result := by
  unfold Channel.reply at run
  split at run
  · exact attempted_raise run
  split at run
  · exact attempted_raise run
  cases channel with
  | feishu credentials => exact Feishu.sendText_attempted run
  | dingtalk credentials => exact Dingtalk.sendText_attempted run

lemma Attempted.ambiguous {text : String} {value : String} {error : Raised}
    (attempted : Attempted library channel text events (.ok value))
    (silent : error.claimsUnsent = false) :
    Attempted library channel text events (.error error) := by
  cases attempted with
  | sent post outcome quiet eq success failure =>
    apply Attempted.sent post outcome quiet eq
    · intro id impossible
      cases impossible
    · intro found equal unsent
      cases equal
      rw [silent] at unsent
      cases unsent

lemma liveReply_attempted
    (run : (liveReply library channel message).Runs before events result after) :
    Attempted library channel (strip message.text) events result := by
  obtain ⟨error, head, rfl⟩ | ⟨receipt, middle, first, second, head, tail, rfl⟩ :=
    Action.runs_bind.1 run
  · exact reply_attempted head
  have attempted := reply_attempted head
  split at tail
  · obtain ⟨rfl, rfl, _⟩ := Action.runs_raise.1 tail
    rw [List.append_nil]
    exact attempted.ambiguous rfl
  · obtain ⟨rfl, rfl, _⟩ := Action.runs_pure.1 tail
    rw [List.append_nil]
    exact attempted

lemma runs_returned {α : Type} {reply : Reply α} {events : Trace} {result : Except Raised α}
    (run : (returned reply).Runs before events result after) :
    events = [] ∧ ((∃ value, reply = .returned value ∧ result = .ok value) ∨
      (reply = .raised ∧ result = .error .other)) := by
  cases reply with
  | returned value =>
    obtain ⟨rfl, rfl, _⟩ := Action.runs_pure.1 run
    exact ⟨rfl, Or.inl ⟨value, rfl, rfl⟩⟩
  | raised =>
    obtain ⟨rfl, rfl, _⟩ := Action.runs_raise.1 run
    exact ⟨rfl, Or.inr ⟨rfl, rfl⟩⟩

lemma runs_call {α : Type} {op : Op} {read : Answer op → Reply α} {events : Trace}
    {result : Except Raised α}
    (run : (do returned (read (← Action.ask op)) : Act α).Runs before events result after) :
    ∃ answer, events = [⟨op, answer⟩] ∧ ((∃ value, read answer = .returned value ∧ result = .ok value) ∨
        (read answer = .raised ∧ result = .error .other)) := by
  obtain ⟨error, asked, _⟩ | ⟨answer, middle, first, second, asked, tail, rfl⟩ :=
    Action.runs_bind.1 run
  · obtain ⟨_, _, impossible, _⟩ := Action.runs_ask.1 asked
    cases impossible
  obtain ⟨found, rfl, eq, rfl⟩ := Action.runs_ask.1 asked
  cases eq
  obtain ⟨rfl, outcome⟩ := runs_returned tail
  exact ⟨answer, rfl, outcome⟩

lemma runs_report {entry : Report} {events : Trace} {result : Except Raised Unit}
    (run : (report entry).Runs before events result after) :
    ∃ reply : Reply Unit, events = [⟨.report entry, reply⟩] ∧
      ((reply = .returned () ∧ result = .ok ()) ∨ (reply = .raised ∧ result = .error .other)) := by
  obtain ⟨reply, rfl, outcome⟩ := @runs_call _ _ _ (Op.report entry) id _ _ run
  refine ⟨reply, rfl, ?_⟩
  obtain ⟨_, replied, eq⟩ | raised := outcome
  · exact .inl ⟨replied, eq⟩
  exact .inr raised

lemma runs_call_then {α β : Type} {op : Op} {read : Answer op → Reply α} {next : α → Act β}
    {result : Except Raised β} (run : (do
      let answer ← Action.ask op
      let value ← returned (read answer)
      next value : Act β).Runs before events result after) :
    (∃ answer, read answer = .raised ∧ events = [⟨op, answer⟩]) ∨
      ∃ answer value middle rest, read answer = .returned value ∧
        (next value).Runs middle rest result after ∧ events = ⟨op, answer⟩ :: rest := by
  obtain ⟨_, impossible, _⟩ | ⟨answer, _, _, _, asked, noted, rfl⟩ := Action.runs_bind.1 run
  · obtain ⟨_, _, raised, _⟩ := Action.runs_ask.1 impossible
    cases raised
  obtain ⟨found, rfl, eq, rfl⟩ := Action.runs_ask.1 asked
  cases eq
  obtain ⟨_, failed, _⟩ | ⟨value, middle, _, second, called, rest, rfl⟩ :=
    Action.runs_bind.1 noted
  · obtain ⟨rfl, ⟨_, _, impossible⟩ | ⟨raised, _⟩⟩ := runs_returned failed
    · cases impossible
    exact .inl ⟨answer, raised, rfl⟩
  · obtain ⟨rfl, ⟨_, replied, eq⟩ | ⟨_, impossible⟩⟩ := runs_returned called
    · cases eq
      exact .inr ⟨answer, value, middle, second, replied, rest, rfl⟩
    cases impossible

end

def claimedText (claim : Fields) : String :=
  match claim.get? "text" with
  | some (.str text) => strip text
  | _ => ""

section
variable {library : Library} {worker : Worker} {claim : Fields} {before after : TokenCache}
  {events : Trace}

lemma requiredText_ok {key value : String} (run : requiredText claim key = .ok value) :
    ∃ text, claim.get? key = some (.str text) ∧ value = strip text := by
  unfold requiredText at run
  simp only at run
  split at run
  · next text found =>
    split at run
    · cases run
    cases run
    exact ⟨text, found, rfl⟩
  · cases run

lemma claimedDelivery_text {message : OutboundMessage} {deliveryId : String} {generation : Int}
    (run : claimedDelivery library worker claim = .ok (message, deliveryId, generation)) :
    message.text = claimedText claim := by
  obtain ⟨_, _, run⟩ := of_bind_ok run
  obtain ⟨_, _, run⟩ := of_bind_ok run
  obtain ⟨_, _, run⟩ := of_bind_ok run
  obtain ⟨_, _, run⟩ := of_bind_ok run
  obtain ⟨text, required, run⟩ := of_bind_ok run
  obtain ⟨_, _, run⟩ := of_bind_ok run
  obtain ⟨_, _, run⟩ := of_bind_ok run
  obtain ⟨raw, found, rfl⟩ := requiredText_ok required
  split at run
  · cases run
  split at run
  · cases run
  split at run
  · cases run
  split at run
  · cases run
  cases run
  simp only [claimedText, found]

lemma strip_claimedText (claim : Fields) : strip (claimedText claim) = claimedText claim := by
  unfold claimedText
  split
  · exact strip_strip _
  decide

lemma workerReport_supported {error : Raised} {result : Except Raised String}
    (failed : result = .error error) (deliveryId : String) (generation : Int) :
    Supported result (workerReport worker deliveryId generation error) := by
  cases error with
  | retryable | preSend => exact fun _ => ⟨_, failed, rfl⟩
  | rejected message => exact fun retry => absurd retry.1 Bool.false_ne_true
  | outcomeUnknown | imError | denied | other => exact False.elim

lemma deliver_spec {result : Except Raised Bool}
    (run : (deliver library worker claim).Runs before events result after) :
    Honest library worker.channel (claimedText claim) events ∧ ∀ error, result = .error error →
        (events = [] ∧ claimedDelivery library worker claim = .error error) ∨ ReportLost events := by
  obtain ⟨error, refused, rfl⟩ | ⟨⟨message, deliveryId, generation⟩, _, _, _, claimed, sent, rfl⟩ :=
    Action.runs_bind.1 run
  · obtain ⟨rfl, eq, _⟩ := Action.runs_ofExcept.1 refused
    refine ⟨Honest.of_quiet (nofun), ?_⟩
    intro found equal
    cases equal
    exact .inl ⟨rfl, eq.symm⟩
  · obtain ⟨rfl, eq, rfl⟩ := Action.runs_ofExcept.1 claimed
    have text := claimedDelivery_text eq.symm
    obtain ⟨outcome, _, first, second, replied, noted, rfl⟩ := Action.runs_attempt_bind sent
    have attempted := liveReply_attempted replied
    rw [text, strip_claimedText] at attempted
    cases outcome with
    | error error =>
      have fits := @workerReport_supported worker error _ rfl deliveryId generation
      obtain ⟨_, failed, rfl⟩ | ⟨_, _, _, _, reported, done, rfl⟩ := Action.runs_bind.1 noted
      · obtain ⟨reply, rfl, ⟨_, impossible⟩ | ⟨rfl, _⟩⟩ := runs_report failed
        · cases impossible
        refine ⟨attempted.honest [(_, .raised)] (List.forall_mem_singleton.2 fits), ?_⟩
        intro found _
        refine .inr (attempted.reportLost fun _ _ _ _ => ?_)
        cases error <;> exact Report.noConfusion
      · obtain ⟨reply, rfl, _⟩ := runs_report reported
        obtain ⟨rfl, rfl, _⟩ := Action.runs_pure.1 done
        refine ⟨?_, fun _ impossible => by cases impossible⟩
        exact attempted.honest [(_, reply)] (List.forall_mem_singleton.2 fits)
    | ok receipt =>
      obtain ⟨completed, _, _, _, reported, done, rfl⟩ := Action.runs_attempt_bind noted
      obtain ⟨reply, rfl, _⟩ := runs_report reported
      cases completed with
      | ok _ =>
        obtain ⟨rfl, rfl, _⟩ := Action.runs_pure.1 done
        refine ⟨?_, fun _ impossible => by cases impossible⟩
        exact attempted.honest [(_, reply)] (List.forall_mem_singleton.2 rfl)
      | error _ =>
        obtain ⟨marked, _, _, _, unknown, last, rfl⟩ := Action.runs_attempt_bind done
        obtain ⟨second, rfl, _⟩ := runs_report unknown
        obtain ⟨rfl, rfl, _⟩ := Action.runs_pure.1 last
        refine ⟨?_, fun _ impossible => by cases impossible⟩
        apply attempted.honest [(_, reply), (_, second)]
        intro entry mem
        simp only [List.mem_cons, List.not_mem_nil, or_false] at mem
        obtain rfl | rfl := mem
        · rfl
        exact False.elim

end

/-! ## Deliveries of the bridge -/

def sentText (text : String) : String := if text = "" then "(no answer)" else strip text

def PreparedText (text : String) (events : Trace) : Prop :=
  ∃ runId workerId fields raw, ⟨.prepare runId workerId, .returned fields⟩ ∈ events ∧
    Fields.get? fields "text" = some (.str raw) ∧ text = sentText raw

section
variable {library : Library} {bridge : Bridge} {inbound : InboundMessage}
  {before after : TokenCache} {events : Trace} {result : Except Raised OutboundMessage}

lemma strip_outbound (text : String) :
    strip (if text = "" then "(no answer)" else text) = sentText text := by
  unfold sentText
  split
  · decide
  rfl

lemma bridgeReport_supported {error : Raised} {reply : Except Raised String}
    (failed : reply = .error error) (deliveryId : String) (generation : Option Int)
    (workerId : Option String) :
    Supported reply (bridgeReport deliveryId generation workerId error) := by
  cases error with
  | retryable | preSend | imError | denied => exact fun _ => ⟨_, failed, rfl⟩
  | rejected message => exact fun retry => absurd retry.1 Bool.false_ne_true
  | outcomeUnknown | other => exact False.elim

lemma auditReport_supported {reply : Except Raised String} (deliveryId : String)
    (generation : Option Int) (workerId : Option String) :
    Supported reply (auditReport deliveryId generation workerId) := by
  cases generation with
  | none => exact fun retry => absurd ⟨rfl, rfl⟩ retry.2
  | some generation => exact False.elim

variable {prepared : Prepared}

lemma sendPrepared_honest {outbound : OutboundMessage}
    (run : (sendPrepared library bridge outbound prepared).Runs before events result after) :
    Honest library bridge.channel (strip outbound.text) events := by
  obtain ⟨outcome, _, _, _, replied, noted, rfl⟩ := Action.runs_attempt_bind run
  have attempted := liveReply_attempted replied
  cases outcome with
  | error error =>
    have fits := @bridgeReport_supported error _ rfl prepared.deliveryId
      prepared.claimGeneration (prepared.claimGeneration.map fun _ => bridge.workerId)
    obtain ⟨_, failed, rfl⟩ | ⟨_, _, _, _, reported, done, rfl⟩ :=
      Action.runs_bind.1 noted
    · obtain ⟨reply, rfl, _⟩ := runs_report failed
      exact attempted.honest [(_, reply)] (List.forall_mem_singleton.2 fits)
    obtain ⟨reply, rfl, _⟩ := runs_report reported
    obtain ⟨rfl, rfl, _⟩ := Action.runs_raise.1 done
    exact attempted.honest [(_, reply)] (List.forall_mem_singleton.2 fits)
  | ok receipt =>
    obtain ⟨completed, _, _, _, reported, done, rfl⟩ := Action.runs_attempt_bind noted
    obtain ⟨reply, rfl, _⟩ := runs_report reported
    cases completed with
    | ok _ =>
      obtain ⟨rfl, rfl, _⟩ := Action.runs_pure.1 done
      exact attempted.honest [(_, reply)] (List.forall_mem_singleton.2 rfl)
    | error _ =>
      obtain ⟨audited, _, _, _, audit, last, rfl⟩ := Action.runs_attempt_bind done
      obtain ⟨second, rfl, _⟩ := runs_report audit
      obtain ⟨rfl, rfl, _⟩ := Action.runs_raise.1 last
      apply attempted.honest [(_, reply), (_, second)]
      intro entry mem
      simp only [List.mem_cons, List.not_mem_nil, or_false] at mem
      obtain rfl | rfl := mem
      · rfl
      exact auditReport_supported _ _ _

lemma preparedDelivery_text {conversationId : String} {fields : Fields}
    (run : preparedDelivery library inbound conversationId fields = .ok prepared) :
    fields.get? "text" = some (.str prepared.text) := by
  unfold preparedDelivery at run
  simp only at run
  split at run
  · next text channel conversation claimed found _ _ _ =>
    split at run
    · cases run
    split at run
    · cases run
    split at run
    · cases run
      exact found
    obtain ⟨generation, _, eq⟩ := of_bind_ok run
    cases eq
    exact found
  · cases run

lemma handlePrepared_honest {runId threadId : String}
    (run : (handlePrepared library bridge inbound runId threadId prepared).Runs before events
      result after) : Honest library bridge.channel (sentText prepared.text) events := by
  have nothing : Honest library bridge.channel (sentText prepared.text) [] :=
    Honest.of_quiet (nofun)
  unfold handlePrepared at run
  split at run
  · obtain ⟨rfl, _, _⟩ := Action.runs_raise.1 run
    exact nothing
  simp only at run
  split at run
  · obtain ⟨rfl, _, _⟩ := Action.runs_pure.1 run
    exact nothing
  have honest := sendPrepared_honest run
  simp only [strip_outbound] at honest
  exact honest

lemma Honest.quiet_append {channel : Channel} {text : String} {front rest : Trace}
    (quiet : ∀ event ∈ front, Quiet event.op) (honest : Honest library channel text rest) :
    Honest library channel text (front ++ rest) := by
  have sent : posts (front ++ rest) = posts rest := by
    rw [posts_append, (nothing_quiet quiet).1, List.nil_append]
  have reported : reports (front ++ rest) = reports rest := by
    rw [reports_append, (nothing_quiet quiet).2, List.nil_append]
  obtain ⟨single, eq, retryable, completed⟩ := honest
  constructor
  · rw [sent]
    exact single
  · rw [sent]
    exact eq
  · rw [sent, reported]
    exact retryable
  · rw [sent, reported]
    exact completed

lemma handle_honest (run : (handle library bridge inbound).Runs before events result after) :
    ∃ text, Honest library bridge.channel text events ∧
      (posts events ≠ [] → PreparedText text events) := by
  have silent : ∀ {front : Trace}, (∀ event ∈ front, Quiet event.op) →
      ∃ text, Honest library bridge.channel text front ∧
        (posts front ≠ [] → PreparedText text front) := by
    intro front quiet
    refine ⟨"", Honest.of_quiet quiet, ?_⟩
    intro sent
    exact absurd ((nothing_quiet quiet).1) sent
  unfold handle at run
  simp only at run
  split at run
  · obtain ⟨rfl, _, _⟩ := Action.runs_raise.1 run
    exact silent (by simp)
  split at run
  · obtain ⟨rfl, _, _⟩ := Action.runs_raise.1 run
    exact silent (by simp)
  split at run
  · obtain ⟨rfl, _, _⟩ := Action.runs_raise.1 run
    exact silent (by simp)
  obtain ⟨answer, _, rfl⟩ | ⟨answer, accepted, _, _, _, created, rfl⟩ := runs_call_then run
  · exact silent (List.forall_mem_singleton.2 trivial)
  split at created
  · obtain ⟨rfl, _, _⟩ := Action.runs_raise.1 created
    exact silent (List.forall_mem_singleton.2 trivial)
  obtain ⟨read, _, rfl⟩ | ⟨read, _, _, _, _, answered, rfl⟩ := runs_call_then created
  · apply silent
    simp [Quiet]
  obtain ⟨fetch, _, rfl⟩ | ⟨fetch, fields, _, _, fetched, ready, rfl⟩ :=
    runs_call_then answered
  · apply silent
    simp [Quiet]
  obtain ⟨_, refused, _⟩ | ⟨prepared, _, _, rest, checked, sent, rfl⟩ :=
    Action.runs_bind.1 ready
  · obtain ⟨rfl, _, _⟩ := Action.runs_ofExcept.1 refused
    apply silent
    simp [Quiet]
  · obtain ⟨rfl, eq, rfl⟩ := Action.runs_ofExcept.1 checked
    have found := preparedDelivery_text eq.symm
    have honest := handlePrepared_honest sent
    refine ⟨sentText prepared.text, ?_, ?_⟩
    · apply @Honest.quiet_append _ _ _ [_, _, _] rest
      · simp [Quiet]
      · exact honest
    · intro _
      subst fetched
      refine ⟨library.text accepted ["run_id"], bridge.workerId, fields, prepared.text, ?_, found, rfl⟩
      simp

end

/-- The last pass of a loop that ended with an exception: the claim call raised, or the
claimed delivery was refused unsent or lost the report of its failure. -/
inductive PassRaised (library : Library) (worker : Worker) : Trace → Prop
  | claim : PassRaised library worker [⟨.claim worker.channel.name worker.workerId, .raised⟩]
  | refused (claim : Fields) (error : Raised)
      (refused : claimedDelivery library worker claim = .error error) :
      PassRaised library worker
        [⟨.claim worker.channel.name worker.workerId, .returned (some claim)⟩]
  | reportLost (claim : Fields) {rest : Trace} (lost : ReportLost rest) : PassRaised library worker
        (⟨.claim worker.channel.name worker.workerId, .returned (some claim)⟩ :: rest)

/-- The trace of a loop that ended with an exception in its last pass. -/
def RunRaised (library : Library) (worker : Worker) (events : Trace) : Prop :=
  ∃ front last, events = front ++ last ∧ PassRaised library worker last

section
variable {library : Library} {worker : Worker} {once : Bool}

lemma RunRaised.append {events : Trace} (front : Trace)
    (raised : RunRaised library worker events) : RunRaised library worker (front ++ events) := by
  obtain ⟨earlier, last, rfl, ended⟩ := raised
  exact ⟨front ++ earlier, last, (List.append_assoc front earlier last).symm, ended⟩

lemma PassRaised.run {events : Trace} (ended : PassRaised library worker events) :
    RunRaised library worker events := ⟨[], events, rfl, ended⟩

lemma run_raises {passes : Nat} {delivered : Bool} {before after : TokenCache} {events : Trace}
    {error : Raised}
    (raised : (run library worker once delivered passes).Runs before events (.error error) after) :
    RunRaised library worker events := by
  induction passes generalizing delivered before events with
  | zero =>
    obtain ⟨_, impossible, _⟩ := Action.runs_pure.1 raised
    cases impossible
  | succ passes ih =>
    obtain ⟨_, impossible, _⟩ | ⟨stopped, _, first, _, asked, looped, rfl⟩ :=
      Action.runs_bind.1 raised
    · obtain ⟨_, _, impossible, _⟩ := Action.runs_ask.1 impossible
      cases impossible
    apply RunRaised.append first
    cases stopped with
    | true =>
      obtain ⟨_, impossible, _⟩ := Action.runs_pure.1 looped
      cases impossible
    | false =>
      obtain ⟨answer, replied, rfl⟩ | ⟨answer, claimed, _, rest, replied, handled, rfl⟩ :=
        runs_call_then looped
      · cases replied
        exact PassRaised.claim.run
      cases replied
      cases claimed with
      | none =>
        simp only at handled
        split at handled
        · obtain ⟨_, impossible, _⟩ := Action.runs_pure.1 handled
          cases impossible
        obtain ⟨_, impossible, _⟩ | ⟨_, _, pause, _, slept, continued, rfl⟩ :=
          Action.runs_bind.1 handled
        · obtain ⟨_, _, impossible, _⟩ := Action.runs_ask.1 impossible
          cases impossible
        exact ((ih continued).append pause).append [_]
      | some claim =>
        simp only at handled
        obtain ⟨_, failed, _⟩ | ⟨sent, _, during, _, delivered, continued, rfl⟩ :=
          Action.runs_bind.1 handled
        · obtain ⟨rfl, refused⟩ | lost := (deliver_spec failed).2 _ rfl
          · exact (PassRaised.refused claim _ refused).run
          exact (PassRaised.reportLost claim lost).run
        · split at continued
          · obtain ⟨_, impossible, _⟩ := Action.runs_pure.1 continued
            cases impossible
          exact ((ih continued).append during).append [_]

end

/-- Both adapters report honestly, and the worker's loop ends with an exception only where
the claim call raised, the claim was refused unsent, or the report of a failure was lost. -/
theorem adapters_reportHonestly (library : Library) : (∀ worker claim before events result after,
      (deliver library worker claim).Runs before events result after →
        Honest library worker.channel (claimedText claim) events) ∧
      (∀ bridge inbound before events result after,
        (handle library bridge inbound).Runs before events result after →
          ∃ text, Honest library bridge.channel text events ∧
            (posts events ≠ [] → PreparedText text events)) ∧
      (∀ worker once passes before events error after,
        (run library worker once false passes).Runs before events (.error error) after →
          RunRaised library worker events) := by
  refine ⟨?_, ?_, ?_⟩
  · intro worker claim before events result after delivered
    exact (deliver_spec delivered).1
  · intro bridge inbound before events result after handled
    exact handle_honest handled
  · intro worker once passes before events error after raised
    exact run_raises raised

/-! ## A delivery that is sent, and three that the ladders do not cover -/

namespace Sample

/-- The library on documents where one text is hashed, to the given digest. -/
def library (digest : List UInt8) : Library where
  jsonLoads := fun _ => none
  jsonDumps := fun _ => ""
  repr := fun _ => ""
  sha256 := fun _ => digest
  sha1 := fun _ => []
  hmacSha256 := fun _ _ => []
  base64Decode := fun _ => none
  base64Encode := fun _ => ""
  aesCbcDecrypt := fun _ _ _ => []
  utf8Decode := fun _ => none
  clampSeconds := fun _ => none

def digest : List UInt8 :=
  [13, 181, 47, 64, 118, 192, 130, 81, 132, 18, 175, 211, 221, 53, 118, 226, 203, 12, 99, 112,
    63, 215, 254, 213, 226, 58, 222, 96, 239, 239, 49, 217]

def spacedDigest : List UInt8 :=
  [251, 176, 145, 2, 145, 248, 41, 151, 55, 205, 113, 153, 227, 241, 184, 82, 96, 5, 80, 130,
    150, 1, 224, 21, 209, 140, 230, 78, 91, 182, 126, 157]

def channel : Channel := .feishu ⟨"app", "secret"⟩

def worker : Worker := ⟨channel, "worker-1", none, 1 / 2⟩

def bridge : Bridge := ⟨channel, "worker-1", none⟩

def claim : Fields :=
  [("id", .str "delivery-1"), ("run_id", .str "run-1"), ("thread_id", .str "thread-1"),
    ("conversation_id", .str "oc_ops"), ("text", .str "answer"), ("channel", .str "feishu"),
    ("content_fingerprint", .str (hexDigest digest)), ("claim_generation", .int 7)]

def prepared (text : String) (digest : List UInt8) : Fields :=
  [("id", .str "delivery-1"), ("text", .str text), ("channel", .str "feishu"),
    ("conversation_id", .str "oc_ops"), ("content_fingerprint", .str (hexDigest digest)),
    ("status", .str "PENDING")]

def answered (payload : Fields) : HttpOutcome := .response ⟨200, none, 64, .value (.obj payload)⟩

/-- A vendor that accepts, and a control plane that loses every completion. -/
def environment (prepared : Fields) : (op : Op) → Answer op
  | .clock => 0
  | .sleep _ => ()
  | .token _ _ _ => answered
      [("code", .int 0), ("tenant_access_token", .str "t-1"), ("expire", .int 7200)]
  | .message _ => answered [("code", .int 0), ("data", .obj [("message_id", .str "om_1")])]
  | .stopped => false
  | .claim _ _ => .returned (some claim)
  | .report (.complete _ _ _ _) => .raised
  | .report _ => .returned ()
  | .createImMessage _ _ _ _ _ => .returned
      [("run_id", .str "run-1"), ("thread_id", .str "thread-1")]
  | .answer _ => .returned "answer"
  | .prepare _ _ => .returned prepared

def inbound : InboundMessage where
  conversationId := "oc_ops"
  text := "question"
  senderId := "ou_alice"
  senderDisplay := none
  channel := "feishu"

end Sample

theorem adapters_reportHonestly_delivery : ∃ events result after,
      (deliver (Sample.library Sample.digest) Sample.worker Sample.claim).Runs {} events result
        after ∧
      (posts events).length = 1 ∧
      Honest (Sample.library Sample.digest) Sample.worker.channel (claimedText Sample.claim)
        events := by
  have ran := Action.runs_eval
    (deliver (Sample.library Sample.digest) Sample.worker Sample.claim) {}
    (Sample.environment [])
  exact ⟨_, _, _, ran, rfl, (adapters_reportHonestly _).1 _ _ _ _ _ _ ran⟩

/-- A claim whose content is refused ends the loop of the worker; a completion that the
bridge loses without a claim is reported as a retryable failure; and a prepared text is
sent without the blanks around it. -/
theorem adapters_overclaim : (∃ events after,
      (run (Sample.library Sample.digest) { Sample.worker with token := some "answer" } true
        false 1).Runs {} events
        (.error (.imError "Refusing to send a credential in an IM reply")) after ∧
      reports events = []) ∧
    (∃ events result after,
      (handle (Sample.library Sample.digest) Sample.bridge Sample.inbound).Runs {} events result
        after ∧
      (Report.fail "delivery-1" "delivery_audit_failed" none none true none, .returned ())
        ∈ reports events ∧
      ∃ sent ∈ posts events, PossiblyAccepted .feishu sent.2) ∧
    ∃ events result after,
      (handle (Sample.library Sample.spacedDigest) Sample.bridge Sample.inbound).Runs {} events
        result after ∧
      (∃ runId workerId, ⟨.prepare runId workerId,
        .returned (Sample.prepared " answer " Sample.spacedDigest)⟩ ∈ events) ∧
      ∃ sent ∈ posts events, sent.1.text = "answer" := by
  refine ⟨?_, ?_, ?_⟩
  · have ran := Action.runs_eval
      (run (Sample.library Sample.digest) { Sample.worker with token := some "answer" } true
        false 1) {} (Sample.environment [])
    exact ⟨_, _, ran, rfl⟩
  · have ran := Action.runs_eval
      (handle (Sample.library Sample.digest) Sample.bridge Sample.inbound) {}
      (Sample.environment (Sample.prepared "answer" Sample.digest))
    refine ⟨_, _, _, ran, ?_, ?_⟩
    · exact List.mem_cons_of_mem _ List.mem_cons_self
    exact ⟨_, List.mem_cons_self, Or.inr ⟨rfl, rfl⟩⟩
  · have ran := Action.runs_eval
      (handle (Sample.library Sample.spacedDigest) Sample.bridge Sample.inbound) {}
      (Sample.environment (Sample.prepared " answer " Sample.spacedDigest))
    refine ⟨_, _, _, ran, ⟨"run-1", "worker-1", ?_⟩, ?_⟩
    · exact List.mem_cons_of_mem _ (List.mem_cons_of_mem _ List.mem_cons_self)
    exact ⟨_, List.mem_cons_self, rfl⟩

end Obsion.Adapter
