import Obsion.Adapter.Dingtalk
import Obsion.Adapter.Feishu

/-! # The durable Outbox worker

`obsion_im.outbox`: one vendor write for each claim, and the report of what
became of it.  The two HTTP channels are those of `obsion_im.feishu` and
`obsion_im.dingtalk`. -/

namespace Obsion.Adapter

open Obsion.Lib
open Obsion.Ingress (DingTalkCredentials utf8 hexDigest normalizeChannel)

structure OutboundMessage where
  conversationId : String
  text : String
  runId : String
  threadId : String
  channel : String
  replyToSenderId : Option String
  delivery : String
  deliveryId : Option String

inductive Channel
  | feishu (credentials : FeishuCredentials)
  | dingtalk (credentials : DingTalkCredentials)

def Channel.name : Channel → String
  | .feishu _ => "feishu"
  | .dingtalk _ => "dingtalk"

def Channel.delivery : Channel → String
  | .feishu _ => "feishu_http"
  | .dingtalk _ => "dingtalk_http"

def Channel.label : Channel → String
  | .feishu _ => "Feishu"
  | .dingtalk _ => "DingTalk"

def Channel.sendText (library : Library) :
    Channel → (chatId text idempotencyKey : String) → Act String
  | .feishu credentials => Feishu.sendText library credentials
  | .dingtalk credentials => Dingtalk.sendText library credentials

def Channel.reply (library : Library) (channel : Channel) (message : OutboundMessage) :
    Act String :=
  if normalizeChannel message.channel ≠ channel.name then
    .raise (.imError (channel.label ++ " HTTP channel cannot deliver another vendor namespace"))
  else if message.delivery ≠ channel.delivery then
    .raise (.imError
      (channel.label ++ " HTTP channel requires " ++ channel.name ++ "-http delivery"))
  else
    channel.sendText library message.conversationId message.text
      (((message.deliveryId).filter (· != "")).getD message.runId)

def liveReply (library : Library) (channel : Channel) (message : OutboundMessage) : Act String := do
  let receipt ← channel.reply library message
  if strip receipt = "" then
    .raise (.outcomeUnknown "Live IM delivery did not return a vendor receipt")
  else pure receipt

def fingerprint (library : Library) (text : String) : String :=
  hexDigest (library.sha256 (utf8 text))

def leaks (token : Option String) (text : String) : Bool :=
  token.any fun token => token != "" && isIn token text

structure Worker where
  channel : Channel
  workerId : String
  token : Option String
  pollIntervalSeconds : Rat

def requiredText (claim : Fields) (key : String) : Except Raised String :=
  let missing := Raised.imError ("Control-plane IM Outbox claim is missing " ++ key)
  match claim.get? key with
  | some (.str value) => if strip value = "" then .error missing else .ok (strip value)
  | _ => .error missing

def generation? (claim : Fields) : Option Int :=
  ((claim.get? "claim_generation").bind intValue?).filter fun generation => 1 ≤ generation

/-- The checks of `_deliver` before the channel is called. -/
def claimedDelivery (library : Library) (worker : Worker) (claim : Fields) :
    Except Raised (OutboundMessage × String × Int) := do
  let deliveryId ← requiredText claim "id"
  let runId ← requiredText claim "run_id"
  let threadId ← requiredText claim "thread_id"
  let conversationId ← requiredText claim "conversation_id"
  let text ← requiredText claim "text"
  let channel ← requiredText claim "channel"
  let claimed ← requiredText claim "content_fingerprint"
  match generation? claim with
  | none => .error (.imError "Control-plane IM Outbox claim lineage is inconsistent")
  | some generation =>
    if channel ≠ worker.channel.name then
      .error (.imError "Control-plane IM Outbox claim lineage is inconsistent")
    else if fingerprint library text ≠ claimed then
      .error (.imError "Control-plane IM Outbox content fingerprint is inconsistent")
    else if leaks worker.token text then
      .error (.imError "Refusing to send a credential in an IM reply")
    else
      .ok
        ({ conversationId := conversationId, text := text, runId := runId, threadId := threadId
           channel := channel
           replyToSenderId := ((claim.get? "reply_to_sender_id").bind Json.str?).filter (· != "")
           delivery := worker.channel.delivery, deliveryId := some deliveryId },
          deliveryId, generation)

def workerReport (worker : Worker) (deliveryId : String) (generation : Int) : Raised → Report
  | .outcomeUnknown _ => .unknown deliveryId (some generation) (some worker.workerId)
  | .retryable _ retryAfterSeconds =>
    .fail deliveryId "vendor_rate_limited" (some generation) (some worker.workerId) true
      (some retryAfterSeconds)
  | .rejected _ =>
    .fail deliveryId "vendor_request_rejected" (some generation) (some worker.workerId) false
      none
  | .preSend _ =>
    .fail deliveryId "vendor_pre_send_failed" (some generation) (some worker.workerId) true none
  | _ => .unknown deliveryId (some generation) (some worker.workerId)

def deliver (library : Library) (worker : Worker) (claim : Fields) : Act Bool := do
  let (message, deliveryId, generation) ← .ofExcept (claimedDelivery library worker claim)
  match ← (liveReply library worker.channel message).attempt with
  | .error error =>
    report (workerReport worker deliveryId generation error)
    pure false
  | .ok receipt =>
    let completion := Report.complete deliveryId receipt (some generation) (some worker.workerId)
    match ← (report completion).attempt with
    | .ok () => pure true
    | .error _ =>
      let _ ← (report (.unknown deliveryId (some generation) (some worker.workerId))).attempt
      pure false

/-- The first passes of the loop of `run`; `none` while it still goes on. -/
def run (library : Library) (worker : Worker) (once : Bool) (delivered : Bool) :
    (passes : Nat) → Act (Option Bool)
  | 0 => pure none
  | passes + 1 => do
      if ← .ask Op.stopped then pure (some delivered)
      else
        match ← returned (← .ask (Op.claim worker.channel.name worker.workerId)) with
        | none =>
          if once then pure (some delivered)
          else
            sleep worker.pollIntervalSeconds
            run library worker once delivered passes
        | some claim =>
          let sent ← deliver library worker claim
          if once then pure (some (sent || delivered))
          else run library worker once (sent || delivered) passes

end Obsion.Adapter
