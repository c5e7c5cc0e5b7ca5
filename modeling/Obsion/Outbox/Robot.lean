import Obsion.Base.Json

/-! # The robot transport and its gateway

`DingTalkRobotTransport.send_text` and `send_group_text` share one body: a token
request, the caller's authorization check, then one message POST.  `SendRun`
records beside the outcome whether that POST was attempted.  What the vendor
answers, and what each await raises, is an argument. -/

namespace Obsion.Outbox

inductive RobotSendState
  | notAttempted
  | accepted
  | rejected
  | unknown
  deriving DecidableEq, Repr

structure RobotCredentials where
  appKey : String
  appSecret : String

structure RobotSendResult where
  state : RobotSendState
  processQueryKey : Option String := none
  reason : Option String := none
  deriving DecidableEq, Repr

def notAttempted (reason : String) : RobotSendResult := { state := .notAttempted, reason := some reason }

/-- Exceptions of an HTTP exchange; `escaping` is one that no handler of the
transport or the gateway names, such as a cancellation. -/
inductive Fault
  | http
  | os
  | timeout
  | value
  | type
  | recursion
  | escaping
  deriving DecidableEq, Repr

inductive Raised
  | fault (fault : Fault)
  | obsion (error : ObsionError)
  deriving DecidableEq, Repr

def opaqueText (value : String) (maximum : Nat) : Bool :=
  decide (0 < value.length ∧ value.length ≤ maximum)
    && value.toList.all fun char => 33 ≤ char.toNat && char.toNat < 127

def opaqueValue (value : Option Json) (maximum : Nat) : Option String :=
  match value with
  | some (.str text) => if opaqueText text maximum then some text else none
  | _ => none

def maxTextBytes : Nat := 4096

def robotCredentials (appKey appSecret : String) : Except Raised RobotCredentials :=
  if opaqueText appKey 255 && opaqueText appSecret 4096 then .ok ⟨appKey, appSecret⟩
  else .error (.fault .value)

def validateText (text : String) (credentials : RobotCredentials) : Except Raised Unit :=
  if strip text = "" ∨ maxTextBytes < text.length
      ∨ text.toList.any (fun char => char.toNat < 32 && char != '\n' && char != '\t') then
    .error (.fault .value)
  else if maxTextBytes < text.utf8ByteSize then .error (.fault .value)
  else if isIn credentials.appSecret text then .error (.fault .value)
  else .ok ()

structure VendorReply where
  statusCode : Nat
  /-- The `content-encoding` header, stripped and case-folded. -/
  contentEncoding : String
  size : Nat
  /-- `json.loads` of the body. -/
  parsed : Except Fault Json

def maxResponseBytes : Nat := 65536

def vendorJson (reply : Except Fault VendorReply) : Except Fault Fields :=
  match reply with
  | .error fault => .error fault
  | .ok reply =>
    if reply.statusCode ≠ 200 ∨ reply.contentEncoding ≠ "identity"
        ∨ maxResponseBytes < reply.size then .error .value
    else
      match reply.parsed with
      | .error fault => .error fault
      | .ok (.obj fields) =>
        if Fields.has fields "code" || Fields.has fields "errcode" then .error .value else .ok fields
      | .ok _ => .error .value

def accessToken (response : Fields) (credentials : RobotCredentials) : Except Fault String :=
  match opaqueValue (response.get? "accessToken") 4096, response.get? "expireIn" with
  | some token, some (.int expire) =>
    if 0 < expire ∧ expire ≤ 86400 ∧ token ≠ credentials.appKey
        ∧ token ≠ credentials.appSecret then .ok token
    else .error .value
  | _, _ => .error .value

/-- One of the recipient lists of a receipt: `none` where it names anyone else. -/
def rejectedBy (response : Fields) (field : String) (recipientId : Option String) : Option Bool :=
  match (response.get? field).getD (.arr []) with
  | .arr values =>
    let limit := if recipientId.isSome then 1 else 500
    let expected (value : Json) : Bool :=
      match opaqueValue (some value) 255 with
      | none => false
      | some text => recipientId.all fun recipient => text == recipient
    if values.length ≤ limit && values.all expected then some (!values.isEmpty) else none
  | _ => none

def receipt (response : Fields) (recipientId : Option String) (secrets : List String) :
    Except Fault RobotSendResult :=
  match rejectedBy response "invalidStaffIdList" recipientId,
      rejectedBy response "flowControlledStaffIdList" recipientId with
  | some invalid, some controlled =>
    if invalid || controlled then
      .ok { state := .rejected, reason := some "recipient_rejected" }
    else
      match opaqueValue (response.get? "processQueryKey") 500 with
      | none => .error .value
      | some key =>
        if secrets.any (fun secret => isIn secret key) then .error .value
        else .ok { state := .accepted, processQueryKey := some key }
  | _, _ => .error .value

/-! ## Sending -/

structure SendIo where
  token : Except Fault VendorReply
  /-- `none` when no `authorize_send` is passed. -/
  authorizeSend : Option (Except Raised Bool)
  message : Except Fault VendorReply
  /-- What closing the client raises. -/
  close : Option Fault

structure SendRun where
  messageAttempted : Bool
  outcome : Except Raised RobotSendResult

/-- The message POST and its receipt, after the authorization check. -/
def postMessage (io : SendIo) (recipientId : Option String) (secrets : List String) : SendRun where
  messageAttempted := true
  outcome :=
    match vendorJson io.message with
    | .error fault => .error (.fault fault)
    | .ok response =>
      match receipt response recipientId secrets with
      | .error fault => .error (.fault fault)
      | .ok result => .ok result

def sendBlock (credentials : RobotCredentials) (recipientId : Option String) (text : String)
    (io : SendIo) : SendRun :=
  match vendorJson io.token with
  | .error fault => ⟨false, .error (.fault fault)⟩
  | .ok response =>
    match accessToken response credentials with
    | .error fault => ⟨false, .error (.fault fault)⟩
    | .ok token =>
      if isIn token text then ⟨false, .ok (notAttempted "credential_in_text")⟩
      else
        match io.authorizeSend with
        | some (.error raised) => ⟨false, .error raised⟩
        | some (.ok false) => ⟨false, .ok (notAttempted "delivery_not_authorized")⟩
        | some (.ok true) => postMessage io recipientId [token, credentials.appSecret]
        | none => postMessage io recipientId [token, credentials.appSecret]

def caughtByTransport : Raised → Bool
  | .fault .escaping => false
  | .fault _ => true
  | .obsion _ => false

def handled (run : SendRun) : SendRun :=
  match run.outcome with
  | .ok _ => run
  | .error raised =>
    if caughtByTransport raised then
      { run with
        outcome := .ok
          { state := if run.messageAttempted then .unknown else .notAttempted
            reason := some (if run.messageAttempted then "unverified_send_response"
              else "authentication_failed") } }
    else run

/-- Leaving the client context may raise in place of the result. -/
def leaveClient (close : Option Fault) (run : SendRun) : SendRun :=
  match close with
  | none => run
  | some fault => { run with outcome := .error (.fault fault) }

/-- The common body of `send_text` and `send_group_text`. -/
def sendMessage (identityValid : Bool) (credentials : RobotCredentials)
    (recipientId : Option String) (text : String) (io : SendIo) : SendRun :=
  if ¬ identityValid then ⟨false, .error (.fault .value)⟩
  else
    match validateText text credentials with
    | .error raised => ⟨false, .error raised⟩
    | .ok () => handled (leaveClient io.close (sendBlock credentials recipientId text io))

def sendText (credentials : RobotCredentials) (robotCode userId text : String) (io : SendIo) :
    SendRun :=
  sendMessage (opaqueText robotCode 255 && opaqueText userId 255) credentials (some userId) text io

def sendGroupText (credentials : RobotCredentials) (robotCode openConversationId text : String)
    (io : SendIo) : SendRun :=
  sendMessage (opaqueText robotCode 255 && opaqueText openConversationId 512) credentials none
    text io

structure DingTalkRobotOutboxRequest where
  recipientSenderId : String
  appKey : String
  robotCode : String
  text : String
  capabilityVersionId : Uuid
  conversationType : String
  recipientConversationId : Option String

structure DingTalkRobotOutboxResult where
  send : RobotSendResult
  policyDecisionId : Option Uuid
  deriving DecidableEq

structure PolicyDecision where
  id : Uuid
  /-- The effect is ALLOW and there are no obligations. -/
  allowed : Bool

/-- What the gateway reads.  Audit and event writes that raise are rolled-back
transactions. -/
structure GatewayArgs where
  resolve : Except Raised Unit
  contractValid : Bool
  decision : Except Raised PolicyDecision
  connectorGrantAllows : Bool
  /-- Input validation and the rate limiter; `none` is an unavailable limiter. -/
  rateAllowed : Option Bool
  credential : Except Raised (Option String)
  io : SendIo

structure GatewayRun where
  messageAttempted : Bool
  outcome : Except Raised DingTalkRobotOutboxResult

def invokeTransport (request : DingTalkRobotOutboxRequest) (args : GatewayArgs) : SendRun :=
  let failed (raised : Raised) : SendRun := ⟨false, .error raised⟩
  match args.credential with
  | .error raised => failed raised
  | .ok none => failed (.obsion (validationError "credential_unavailable"
      "The connector credential is not available"))
  | .ok (some credential) =>
    if credential = "" then
      failed (.obsion (validationError "credential_unavailable"
        "The connector credential is not available"))
    else
      match robotCredentials request.appKey credential with
      | .error raised => failed raised
      | .ok credentials =>
        if request.conversationType = "group" then
          match request.recipientConversationId with
          | none => failed (.fault .value)
          | some conversation =>
            if conversation = "" then failed (.fault .value)
            else sendGroupText credentials request.robotCode conversation request.text args.io
        else sendText credentials request.robotCode request.recipientSenderId request.text
          args.io

def handledByGateway (run : SendRun) : SendRun :=
  match run.outcome with
  | .ok _ => run
  | .error (.obsion _) => { run with outcome := .ok (notAttempted "credential_unavailable") }
  | .error (.fault fault) =>
    if fault = .os ∨ fault = .timeout ∨ fault = .value then
      { run with outcome := .ok (notAttempted "delivery_precondition_failed") }
    else run

def invokeDingtalkRobotOutbox (request : DingTalkRobotOutboxRequest) (args : GatewayArgs) :
    GatewayRun :=
  let refused (reason : String) (decision : Option Uuid) : GatewayRun :=
    ⟨false, .ok ⟨notAttempted reason, decision⟩⟩
  match args.resolve with
  | .error (.obsion _) => refused "capability_unavailable" none
  | .error raised => ⟨false, .error raised⟩
  | .ok () =>
    if ¬ args.contractValid then refused "delivery_configuration_invalid" none
    else
      match args.decision with
      | .error raised => ⟨false, .error raised⟩
      | .ok decision =>
        if ¬ decision.allowed then refused "delivery_not_authorized" (some decision.id)
        else if ¬ args.connectorGrantAllows then
          refused "connector_grant_missing" (some decision.id)
        else
          match args.rateAllowed with
          | none => refused "delivery_gateway_unavailable" (some decision.id)
          | some false => refused "capability_rate_limited" (some decision.id)
          | some true =>
            let run := handledByGateway (invokeTransport request args)
            ⟨run.messageAttempted, run.outcome.map fun send => ⟨send, some decision.id⟩⟩

/-- The outcomes that are consistent with the flag: no result says NOT_ATTEMPTED
after the POST, and what is raised after it passes both handlers. -/
def SendRun.Honest (run : SendRun) : Prop :=
  run.messageAttempted = true → run.outcome = .error (.fault .escaping) ∨
      ∃ result, run.outcome = .ok result ∧ result.state ≠ .notAttempted

variable {recipientId : Option String} {run : SendRun}

lemma receipt_state {response : Fields} {secrets : List String} {result : RobotSendResult}
    (run : receipt response recipientId secrets = .ok result) :
    result.state ≠ .notAttempted := by
  unfold receipt at run
  split at run
  · split at run
    · cases run
      simp
    split at run
    · cases run
    split at run
    · cases run
    cases run
    simp
  · cases run

/-- Before the handler, a run that attempted the POST raised a fault of the
exchange or returned its receipt. -/
lemma sendBlock_attempted {credentials : RobotCredentials} {text : String} {io : SendIo}
    (attempted : (sendBlock credentials recipientId text io).messageAttempted = true) :
    (∃ fault, (sendBlock credentials recipientId text io).outcome = .error (.fault fault)) ∨
      ∃ result, (sendBlock credentials recipientId text io).outcome = .ok result ∧
        result.state ≠ .notAttempted := by
  have posted : ∀ secrets, (∃ fault, (postMessage io recipientId secrets).outcome
      = .error (.fault fault)) ∨ ∃ result, (postMessage io recipientId secrets).outcome = .ok result
        ∧ result.state ≠ .notAttempted := by
    intro secrets
    unfold postMessage
    cases vendorJson io.message with
    | error fault => exact .inl ⟨fault, rfl⟩
    | ok response =>
      simp only
      cases found : receipt response recipientId secrets with
      | error fault => exact .inl ⟨fault, rfl⟩
      | ok result => exact .inr ⟨result, rfl, receipt_state found⟩
  unfold sendBlock at attempted ⊢
  split
  · simp_all
  split
  · simp_all
  split
  · simp_all
  split
  · simp_all
  · simp_all
  · exact posted _
  · exact posted _

lemma handled_honest
    (block : run.messageAttempted = true → (∃ fault, run.outcome = .error (.fault fault)) ∨
      ∃ result, run.outcome = .ok result ∧ result.state ≠ .notAttempted) :
    (handled run).Honest := by
  intro attempted
  have before : run.messageAttempted = true := by
    unfold handled at attempted
    split at attempted
    · exact attempted
    split at attempted <;> exact attempted
  unfold handled
  rcases block before with ⟨fault, raised⟩ | ⟨result, returned, state⟩
  · rw [raised]
    cases fault <;> simp [caughtByTransport, before, raised]
  rw [returned]
  exact .inr ⟨result, returned, state⟩

lemma sendMessage_honest (identityValid : Bool) (credentials : RobotCredentials)
    (recipientId : Option String) (text : String) (io : SendIo) :
    (sendMessage identityValid credentials recipientId text io).Honest := by
  unfold sendMessage
  split
  · intro attempted
    cases attempted
  split
  · intro attempted
    cases attempted
  apply handled_honest
  intro attempted
  cases closed : io.close with
  | none =>
    rw [closed] at attempted
    exact sendBlock_attempted attempted
  | some fault => exact .inl ⟨fault, rfl⟩

lemma invokeTransport_honest (request : DingTalkRobotOutboxRequest) (args : GatewayArgs) :
    (invokeTransport request args).Honest := by
  have failed : ∀ raised : Raised, SendRun.Honest ⟨false, .error raised⟩ := by
    intro raised attempted
    cases attempted
  unfold invokeTransport
  simp only
  split
  · exact failed _
  · exact failed _
  · split
    · exact failed _
    split
    · exact failed _
    split
    · split
      · exact failed _
      split
      · exact failed _
      exact sendMessage_honest _ _ _ _ _
    · exact sendMessage_honest _ _ _ _ _

lemma handledByGateway_honest (honest : run.Honest) :
    (handledByGateway run).messageAttempted = run.messageAttempted ∧
      (handledByGateway run).Honest := by
  by_cases attempted : run.messageAttempted = true
  · rcases honest attempted with raised | ⟨result, returned, state⟩
    · have eq : handledByGateway run = run := by
        simp [handledByGateway, raised]
      rw [eq]
      exact ⟨rfl, honest⟩
    · have eq : handledByGateway run = run := by
        simp [handledByGateway, returned]
      rw [eq]
      exact ⟨rfl, honest⟩
  · have kept : (handledByGateway run).messageAttempted = run.messageAttempted := by
      unfold handledByGateway
      split
      · rfl
      · rfl
      · split <;> rfl
    exact ⟨kept, fun posted => absurd (kept ▸ posted) attempted⟩

lemma invokeDingtalkRobotOutbox_honest (request : DingTalkRobotOutboxRequest) (args : GatewayArgs) :
    (invokeDingtalkRobotOutbox request args).messageAttempted = true →
      ∀ result, (invokeDingtalkRobotOutbox request args).outcome = .ok result →
        result.send.state ≠ .notAttempted := by
  have honest := (handledByGateway_honest (invokeTransport_honest request args)).2
  unfold invokeDingtalkRobotOutbox
  simp only
  intro attempted result returned
  split at attempted
  · cases attempted
  · cases attempted
  · split at attempted
    · cases attempted
    split at attempted
    · cases attempted
    split at attempted
    · cases attempted
    split at attempted
    · cases attempted
    split at attempted
    · cases attempted
    · cases attempted
    · simp_all only [if_false, Bool.not_eq_true]
      rcases honest attempted with raised | ⟨send, found, state⟩
      · rw [raised] at returned
        cases returned
      rw [found] at returned
      cases returned
      exact state

end Obsion.Outbox
