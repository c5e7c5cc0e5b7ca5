import Obsion.Base.Dumps
import Obsion.Lib.Script
import Obsion.Lib.Table

/-! # The trusted IM inbox

`ImInboxService` over the rows of one installation.  Every call first updates the row of
its installation and holds that lock to the end of its transaction, so that the rows of an
installation are the data of the calls on it.  A call on an installation that does not
exist raises at its second statement and is left out.  What other services decide is part
of a call: the loaded principals, the policy, the connector, the group audience, and the
workspaces and threads of the conversation. -/

namespace Obsion.Inbox

open Obsion.Lib

inductive InstallationStatus
  | active
  | revoked
  deriving DecidableEq, Repr

structure ImInstallation where
  id : Uuid
  organizationId : Uuid
  adapterPrincipalId : Option Uuid
  status : Option InstallationStatus
  deriving DecidableEq

structure ImInstallationBinding where
  id : Uuid
  senderId : String
  userId : Uuid
  active : Bool
  createdBy : Uuid
  revokedAt : Option Time
  deriving DecidableEq

inductive ConversationType
  | direct
  | group
  deriving DecidableEq, Repr

def ConversationType.value : ConversationType → String
  | .direct => "direct"
  | .group => "group"

structure TrustedImInbound where
  vendorEventId : String
  senderId : String
  conversationId : String
  conversationType : ConversationType
  text : String
  deriving DecidableEq

inductive InboxStatus
  | received
  | processing
  | processed
  deriving DecidableEq, Repr

structure ImInboxMessage where
  id : Uuid
  vendorEventId : String
  fingerprint : String
  bindingId : Uuid
  subjectUserId : Uuid
  senderId : String
  conversationId : String
  conversationType : ConversationType
  text : String
  status : InboxStatus := .received
  turnId : Option Uuid := none
  runId : Option Uuid := none
  processedAt : Option Time := none
  deriving DecidableEq

structure ImConversationBinding where
  subjectUserId : Uuid
  conversationDigest : String
  workspaceId : Uuid
  threadId : Uuid
  deriving DecidableEq

/-- The columns of `uq_im_conversation_scope`, within one installation. -/
def ImConversationBinding.scope (binding : ImConversationBinding) : Uuid × String :=
  (binding.subjectUserId, binding.conversationDigest)

/-- The `im_inbox` entry of `context_refs`. -/
structure InboxRef where
  inboxId : Uuid
  installationId : Uuid
  conversationType : ConversationType
  conversationId : String
  deriving DecidableEq

structure Turn where
  id : Uuid
  threadId : Uuid
  createdBy : Uuid
  input : String
  contextRef : InboxRef
  deriving DecidableEq

structure Run where
  id : Uuid
  turnId : Uuid
  deriving DecidableEq

/-- The rows that calls on one installation read and write. -/
structure Scope where
  installation : Option ImInstallation
  bindings : Table ImInstallationBinding.id
  inbox : Table ImInboxMessage.id
  conversations : Table ImConversationBinding.scope
  turns : Table Turn.id
  runs : Table Run.id

inductive Fault
  | refused (error : ObsionError)
  | database

structure Settings where
  /-- `hashlib.sha256(text.encode()).hexdigest()` -/
  sha256 : String → String
  /-- `redact_text` -/
  redactText : String → String

abbrev Body (α : Type) := Script Scope Fault α

def refuse {α : Type} (error : ObsionError) : Body α := .raises (.refused error)

def allow {α : Type} (outcome : Except ObsionError α) : Body α :=
  Script.ofExcept (outcome.mapError Fault.refused)

def orRefuse {α : Type} (error : ObsionError) (row : Option α) : Except Fault α :=
  match row with
  | none => .error (.refused error)
  | some row => .ok row

def orDatabase {α : Type} (table : Option α) : Except Fault α :=
  match table with
  | none => .error .database
  | some table => .ok table

def lockInstallation (actor : Principal) : Body ImInstallation :=
  Script.select fun scope => orRefuse (notFoundError "IM installation")
    (scope.installation.filter fun row => row.organizationId = actor.organizationId)

structure AdapterChecks where
  /-- `_authorize(actor, "im.delegate")` -/
  authorize : Except ObsionError Unit
  /-- An active connector of the installation that `_installation_connector_allowed` allows. -/
  connectorAllowed : Bool

def delegateDenied (message : String) : ObsionError := authorizationError "im_delegate_denied" message

def adapter (checks : AdapterChecks) (actor : Principal) (installation : ImInstallation) : Body Unit :=
  if installation.status ≠ some .active ∨ installation.adapterPrincipalId ≠ some actor.id then
    refuse (delegateDenied "Installation adapter is not authorized")
  else do
    allow checks.authorize
    if checks.connectorAllowed then pure ()
    else refuse (delegateDenied "Installation connector is not active")

def loadPrincipal (directory : Uuid → Except ObsionError (List String)) (organizationId id : Uuid) :
    Except ObsionError Principal :=
  (directory id).map fun permissions => ⟨id, organizationId, permissions⟩

def activeBinding (senderId : String) : Body ImInstallationBinding :=
  Script.select fun scope =>
    orRefuse (authorizationError "unknown_im_sender" "No active installation-scoped sender")
      (scope.bindings.rows.find? fun binding => binding.senderId = senderId && binding.active)

/-- The canonical JSON of `message.model_dump()`, before the text is redacted. -/
def TrustedImInbound.canonical (message : TrustedImInbound) : String :=
  dumpsStrings
    [("conversation_id", message.conversationId), ("conversation_type", message.conversationType.value),
      ("sender_id", message.senderId),
      ("text", message.text),
      ("vendor_event_id", message.vendorEventId)]

def fingerprint (settings : Settings) (message : TrustedImInbound) : String :=
  settings.sha256 message.canonical

structure ReceiveArgs where
  actor : Principal
  message : TrustedImInbound
  checks : AdapterChecks
  directory : Uuid → Except ObsionError (List String)
  newId : Uuid

/-- The answer of a call: the row, and whether the API has to report a conflict. -/
abbrev Answer := ImInboxMessage × Bool

def findEvent (vendorEventId : String) : Body (Option ImInboxMessage) :=
  Script.select fun scope =>
    .ok (scope.inbox.rows.find? fun row => row.vendorEventId = vendorEventId)

def admitted (settings : Settings) (message : TrustedImInbound) (binding : ImInstallationBinding)
    (newId : Uuid) : ImInboxMessage :=
  { id := newId, vendorEventId := message.vendorEventId
    fingerprint := fingerprint settings message, bindingId := binding.id
    subjectUserId := binding.userId, senderId := message.senderId
    conversationId := message.conversationId, conversationType := message.conversationType
    text := settings.redactText message.text }

/-- The flush of a new message, under `uq_im_inbox_vendor_event`. -/
def insertMessage (row : ImInboxMessage) : Body Unit :=
  Script.update fun scope =>
    if scope.inbox.rows.any fun other => other.vendorEventId = row.vendorEventId then .error .database
    else (orDatabase (scope.inbox.insert? row)).map fun inbox => { scope with inbox := inbox }

def receive (settings : Settings) (args : ReceiveArgs) : Body Answer := do
  let installation ← lockInstallation args.actor
  adapter args.checks args.actor installation
  let existing ← findEvent args.message.vendorEventId
  match existing with
  | some existing =>
    pure (existing, decide (existing.fingerprint ≠ fingerprint settings args.message))
  | none =>
    let binding ← activeBinding args.message.senderId
    let _ ← allow (loadPrincipal args.directory installation.organizationId binding.userId)
    let inbox := admitted settings args.message binding args.newId
    insertMessage inbox
    pure (inbox, false)

/-! ## `process` -/

/-- A workspace that the subject owns, as `_conversation_thread` reads it. -/
structure ContextWorkspace where
  isPrivate : Bool
  otherMember : Bool
  isArchived : Bool

structure ConversationEnv where
  /-- The workspace of `_authorize_group_sender`. -/
  audience : Except ObsionError Uuid
  workspace : Uuid → Option ContextWorkspace
  /-- Whether a thread of the workspace is active. -/
  threadActive : Uuid → Option Bool
  createWorkspace : Except Fault Uuid
  createThread : Uuid → Except Fault Uuid

def conversationDigest (settings : Settings) (inbox : ImInboxMessage) : String :=
  settings.sha256 (String.ofList
    ('[' :: (quoteAscii inbox.senderId.toList ++ ',' :: (quoteAscii inbox.conversationType.value.toList
      ++ ',' :: (quoteAscii inbox.conversationId.toList ++ [']'])))))

/-- `_authorize_group_sender`, where only an authorization error is caught. -/
def groupAudience (env : ConversationEnv) (inbox : ImInboxMessage) : Except ObsionError (Option Uuid) :=
  match inbox.conversationType with
  | .direct => .ok none
  | .group =>
    match env.audience with
    | .ok workspaceId => .ok (some workspaceId)
    | .error error => if error.kind = .authorization then .ok none else .error error

def findConversation (scopeKey : Uuid × String) : Body (Option ImConversationBinding) :=
  Script.select fun scope => .ok (scope.conversations.get? scopeKey)

/-- The workspace and the thread of the mapping that are still in use. -/
def mappedContext (env : ConversationEnv) (mapping : ImConversationBinding) :
    Except ObsionError (Option Uuid × Option Uuid) :=
  match env.workspace mapping.workspaceId with
  | none => .error (delegateDenied "IM context is no longer private")
  | some workspace =>
    if !workspace.isPrivate || workspace.otherMember then
      .error (delegateDenied "IM context is no longer private")
    else match env.threadActive mapping.threadId with
      | none => .error (delegateDenied "IM context mapping is invalid")
      | some active =>
        if workspace.isArchived then .ok (none, none)
        else .ok (some mapping.workspaceId, if active then some mapping.threadId else none)

def orCreate (found : Option Uuid) (create : Except Fault Uuid) : Body Uuid :=
  match found with
  | some id => pure id
  | none => Script.ofExcept create

def putConversation (mapping : ImConversationBinding) : Body Unit :=
  Script.update fun scope =>
    .ok { scope with conversations := scope.conversations.put mapping }

def conversationThread (settings : Settings) (env : ConversationEnv) (subject : Principal)
    (inbox : ImInboxMessage) : Body Uuid := do
  let audience ← allow (groupAudience env inbox)
  match audience with
  | some workspaceId => Script.ofExcept (env.createThread workspaceId)
  | none =>
    let digest := conversationDigest settings inbox
    let mapping ← findConversation (subject.id, digest)
    let context ← allow (match mapping with
      | none => .ok (none, none)
      | some mapping => mappedContext env mapping)
    let workspaceId ← orCreate context.1 env.createWorkspace
    let threadId ← orCreate context.2 (env.createThread workspaceId)
    putConversation ⟨subject.id, digest, workspaceId, threadId⟩
    pure threadId

structure ProcessArgs where
  actor : Principal
  inboxId : Uuid
  checks : AdapterChecks
  directory : Uuid → Except ObsionError (List String)
  /-- `_authorize(subject, "workspace.write")` -/
  authorizeSubject : Except ObsionError Unit
  conversation : ConversationEnv
  /-- What `create_turn` raises, before or after its rows are written. -/
  turnChecks : Except Fault Unit
  turnId : Uuid
  runId : Uuid
  now : Time

def findInbox (inboxId : Uuid) : Body ImInboxMessage :=
  Script.select fun scope => orRefuse (notFoundError "IM inbox message") (scope.inbox.get? inboxId)

def putMessage (row : ImInboxMessage) : Body Unit :=
  Script.update fun scope => .ok { scope with inbox := scope.inbox.put row }

/-- The rows of `WorkspaceService.create_turn` for the subject. -/
def createTurn (args : ProcessArgs) (installation : ImInstallation) (subject : Principal)
    (threadId : Uuid) (inbox : ImInboxMessage) : Body (Turn × Run) := do
  let turn : Turn :=
    { id := args.turnId, threadId := threadId, createdBy := subject.id, input := inbox.text
      contextRef := ⟨inbox.id, installation.id, inbox.conversationType, inbox.conversationId⟩ }
  let run : Run := ⟨args.runId, turn.id⟩
  Script.update fun scope =>
    (orDatabase (scope.turns.insert? turn)).map fun turns => { scope with turns := turns }
  Script.update fun scope =>
    (orDatabase (scope.runs.insert? run)).map fun runs => { scope with runs := runs }
  Script.ofExcept args.turnChecks
  pure (turn, run)

def startedMessage (inbox : ImInboxMessage) : ImInboxMessage :=
  { inbox with status := .processing }

def processedMessage (inbox : ImInboxMessage) (turn : Turn) (run : Run) (now : Time) : ImInboxMessage :=
  { inbox with
    turnId := some turn.id, runId := some run.id, status := .processed, processedAt := some now }

def process (settings : Settings) (args : ProcessArgs) : Body Answer := do
  let installation ← lockInstallation args.actor
  adapter args.checks args.actor installation
  let inbox ← findInbox args.inboxId
  let binding ← activeBinding inbox.senderId
  if binding.id ≠ inbox.bindingId ∨ binding.userId ≠ inbox.subjectUserId then
    refuse (authorizationError "unknown_im_sender" "The admitted sender binding changed")
  else
    let subject ← allow (loadPrincipal args.directory installation.organizationId binding.userId)
    allow args.authorizeSubject
    if inbox.status = .processed then pure (inbox, false)
    else
      putMessage (startedMessage inbox)
      let threadId ← conversationThread settings args.conversation subject (startedMessage inbox)
      let created ← createTurn args installation subject threadId (startedMessage inbox)
      let done := processedMessage (startedMessage inbox) created.1 created.2 args.now
      putMessage done
      pure (done, false)

structure BindArgs where
  actor : Principal
  senderId : String
  userId : Uuid
  /-- `_authorize(actor, "identity.write")` -/
  authorize : Except ObsionError Unit
  directory : Uuid → Except ObsionError (List String)
  newId : Uuid

def findSender (senderId : String) : Body (Option ImInstallationBinding) :=
  Script.select fun scope =>
    .ok (scope.bindings.rows.find? fun binding => binding.senderId = senderId)

def rebound (binding : ImInstallationBinding) (userId : Uuid) : ImInstallationBinding :=
  { binding with userId := userId, active := true, revokedAt := none }

def bindSender (args : BindArgs) : Body Unit := do
  let installation ← lockInstallation args.actor
  allow args.authorize
  if installation.status ≠ some .active then
    refuse (delegateDenied "Installation is revoked")
  else
    let _ ← allow (loadPrincipal args.directory args.actor.organizationId args.userId)
    let binding ← findSender args.senderId
    match binding with
    | none =>
      Script.update fun scope =>
        (orDatabase (scope.bindings.insert?
          ⟨args.newId, args.senderId, args.userId, true, args.actor.id, none⟩)).map
          fun bindings => { scope with bindings := bindings }
    | some binding =>
      Script.update fun scope =>
        .ok { scope with bindings := scope.bindings.put (rebound binding args.userId) }

structure RevokeArgs where
  actor : Principal
  authorize : Except ObsionError Unit
  now : Time

def revokeBinding (args : RevokeArgs) (bindingId : Uuid) : Body Unit := do
  let _ ← lockInstallation args.actor
  allow args.authorize
  let binding ← Script.select fun scope =>
    orRefuse (notFoundError "IM installation binding") (scope.bindings.get? bindingId)
  Script.update fun scope => .ok { scope with
    bindings := scope.bindings.put { binding with active := false, revokedAt := some args.now } }

/-- Any other transaction that writes the row of the installation. -/
def administer (installation : Option ImInstallation) : Body Unit :=
  Script.update fun scope => .ok { scope with installation := installation }

/-- What the API makes of the answer once the transaction is committed. -/
def receiveMessage (answer : Answer) : Except ObsionError ImInboxMessage :=
  if answer.2 then
    .error (conflictError "idempotency_key_reused" "Vendor event content does not match")
  else .ok answer.1

inductive Request
  | receive (args : ReceiveArgs)
  | process (args : ProcessArgs)
  | bindSender (args : BindArgs)
  | revokeBinding (args : RevokeArgs) (bindingId : Uuid)
  | administer (installation : Option ImInstallation)

structure Call where
  installationId : Uuid
  request : Request

def script (settings : Settings) (request : Request) : Body (Option Answer) :=
  match request with
  | .receive args => do return some (← receive settings args)
  | .process args => do return some (← process settings args)
  | .bindSender args => do
      bindSender args
      return none
  | .revokeBinding args bindingId => do
      revokeBinding args bindingId
      return none
  | .administer installation => do
      administer installation
      return none

def inboxService (settings : Settings) : Service Uuid Scope Call Fault (Option Answer) where
  key := Call.installationId
  script call := script settings call.request

def Blank (scope : Scope) : Prop :=
  scope.bindings = .empty ∧ scope.inbox = .empty ∧ scope.conversations = .empty ∧
    scope.turns = .empty ∧ scope.runs = .empty

abbrev World := Shared Uuid Scope Call Fault (Option Answer)

def inbox (settings : Settings) : System World (SessionAction Call) :=
  (inboxService settings).system fun committed => ∀ installationId, Blank (committed installationId)

end Obsion.Inbox
