import Obsion.Adapter.Outbox

/-! # The synchronous bridge

`ImBridge.handle` of `obsion_im.bridge` for an inbound message that is not a
trusted event: it waits for the Run, prepares the delivery of its answer and
sends it through one of the HTTP channels. -/

namespace Obsion.Adapter

open Obsion.Lib
open Obsion.Ingress (InboundMessage)

structure Bridge where
  channel : Channel
  workerId : String
  token : Option String

def claimGeneration (library : Library) (claim : Fields) : Except Raised (Option Int) :=
  let status := upper (library.text claim ["status"])
  let missing := Raised.imError "Control-plane IM delivery claim is missing claim generation"
  match claim.get? "claim_generation" with
  | some (.int value) =>
    if 1 ≤ value then .ok (some value)
    else if status = "PENDING" ∧ value = 0 then .ok none
    else if status = "SENT" then .ok none
    else .error missing
  | none => if status = "PENDING" ∨ status = "SENT" then .ok none else .error missing
  | some .null => if status = "PENDING" ∨ status = "SENT" then .ok none else .error missing
  | some _ => if status = "SENT" then .ok none else .error missing

structure Prepared where
  deliveryId : String
  text : String
  status : String
  claimGeneration : Option Int

def preparedDelivery (library : Library) (inbound : InboundMessage) (conversationId : String)
    (prepared : Fields) : Except Raised Prepared := do
  let deliveryId := library.text prepared ["id"]
  let status := library.text prepared ["status"]
  match prepared.get? "text", prepared.get? "channel", prepared.get? "conversation_id",
      prepared.get? "content_fingerprint" with
  | some (.str text), some (.str channel), some (.str conversation), some (.str claimed) =>
    if deliveryId = "" ∨ channel ≠ inbound.channel ∨ conversation ≠ conversationId
        ∨ claimed ≠ fingerprint library text then
      .error (.imError "Control-plane IM delivery authorization was inconsistent")
    else if status ∉ ["SENT", "PENDING", "PROCESSING"] then
      .error (.imError "Control-plane IM delivery requires reconciliation before sending")
    else if status = "SENT" then .ok ⟨deliveryId, text, status, none⟩
    else
      let generation ← claimGeneration library prepared
      .ok ⟨deliveryId, text, status, generation⟩
  | _, _, _, _ => .error (.imError "Control-plane IM delivery authorization was inconsistent")

def bridgeReport (deliveryId : String) (generation : Option Int) (workerId : Option String) :
    Raised → Report
  | .outcomeUnknown _ => .unknown deliveryId generation workerId
  | .retryable _ retryAfterSeconds =>
    .fail deliveryId "vendor_rate_limited" generation workerId true (some retryAfterSeconds)
  | .rejected _ => .fail deliveryId "vendor_request_rejected" generation workerId false none
  | .preSend _ => .fail deliveryId "vendor_pre_send_failed" generation workerId true none
  | .imError _ => .fail deliveryId "vendor_request_failed" generation workerId true none
  | .denied _ => .fail deliveryId "vendor_request_failed" generation workerId true none
  | .other => .unknown deliveryId generation workerId

/-- The report after a lost completion: without a claim it has no fencing, and the
control plane holds it for reconciliation. -/
def auditReport (deliveryId : String) (generation : Option Int) (workerId : Option String) :
    Report :=
  match generation with
  | none => .fail deliveryId "delivery_audit_failed" none none true none
  | some _ => .unknown deliveryId generation workerId

def sendPrepared (library : Library) (bridge : Bridge) (outbound : OutboundMessage)
    (prepared : Prepared) : Act OutboundMessage := do
  let workerId := prepared.claimGeneration.map fun _ => bridge.workerId
  match ← (liveReply library bridge.channel outbound).attempt with
  | .error error =>
    report (bridgeReport prepared.deliveryId prepared.claimGeneration workerId error)
    .raise error
  | .ok receipt =>
    let completion :=
      Report.complete prepared.deliveryId receipt prepared.claimGeneration workerId
    match ← (report completion).attempt with
    | .ok () => pure outbound
    | .error _ =>
      let _ ← (report
        (auditReport prepared.deliveryId prepared.claimGeneration workerId)).attempt
      .raise (.imError "IM delivery requires receipt reconciliation")

def handlePrepared (library : Library) (bridge : Bridge) (inbound : InboundMessage)
    (runId threadId : String) (prepared : Prepared) : Act OutboundMessage :=
  if leaks bridge.token prepared.text then
    .raise (.imError "Refusing to send a credential in an IM reply")
  else
    let channel := strip inbound.channel
    let outbound : OutboundMessage :=
      { conversationId := strip inbound.conversationId
        text := if prepared.text = "" then "(no answer)" else prepared.text
        runId := runId, threadId := threadId
        channel := if channel = "" then bridge.channel.name else channel
        replyToSenderId := some (strip inbound.senderId), delivery := bridge.channel.delivery
        deliveryId := some prepared.deliveryId }
    if prepared.status = "SENT" then pure outbound
    else sendPrepared library bridge outbound prepared

def handle (library : Library) (bridge : Bridge) (inbound : InboundMessage) :
    Act OutboundMessage := do
  let text := strip inbound.text
  let conversationId := strip inbound.conversationId
  let senderId := strip inbound.senderId
  let channel := strip inbound.channel
  if text = "" then .raise (.imError "Inbound message requires text")
  else if conversationId = "" then
    .raise (.imError "Inbound message requires a conversation id")
  else if senderId = "" then .raise (.imError "Inbound message requires a stable sender id")
  else
    let accepted ← returned (← .ask (Op.createImMessage
      (if channel = "" then bridge.channel.name else channel) senderId conversationId text
      inbound.senderDisplay))
    let runId := library.text accepted ["run_id"]
    let threadId := library.text accepted ["thread_id"]
    if runId = "" then .raise (.imError "IM ingest did not return a Run")
    else
      -- The answer is read before the prepared text replaces it.
      let _ ← returned (← .ask (Op.answer runId))
      let fields ← returned (← .ask (Op.prepare runId bridge.workerId))
      let prepared ← .ofExcept (preparedDelivery library inbound conversationId fields)
      handlePrepared library bridge inbound runId threadId prepared

end Obsion.Adapter
