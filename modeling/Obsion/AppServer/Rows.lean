import Obsion.Base.Dumps
import Obsion.Events.Store
import Obsion.Lib.Script
import Obsion.Threads.Service

/-! # The request ledger of the App Server

The row of one idempotency key, and the writes that calls with this key committed to the
other tables.  A call locks its key when it claims it, by the unique index or by the row,
and holds it to the end of its transaction.  What a handler reads from other tables is part
of the call, since other transactions may change it between any two statements. -/

namespace Obsion.AppServer

open Obsion.Lib
open Obsion.Events (ActorType EventDraft)
open Obsion.Harness (RunStatus)
open Obsion.Threads (Thread Turn)

/-! ## Rows -/

structure Key where
  organizationId : Uuid
  principalId : Uuid
  clientRequestId : String
  deriving DecidableEq

inductive Method
  | threadCreate
  | threadArchive
  | threadResume
  | threadFork
  | turnCreate
  | runCancel
  | runReplay
  | runClarificationAnswer
  | approvalDecide
  deriving DecidableEq, Repr

inductive Outcome
  | result (value : Json)
  | error (value : Fields)

structure AppServerRequest where
  id : Uuid
  method : Method
  paramsFingerprint : String
  response : Option Outcome
  createdAt : Time
  completedAt : Option Time
  expiresAt : Time

structure Run where
  id : Uuid
  turnId : Uuid
  status : RunStatus
  intent : Json := .obj []
  errorCode : Option String := none
  errorMessage : Option String := none
  cancellationRequestedAt : Option Time := none
  completedAt : Option Time := none
  deadlineAt : Option Time := none
  waitingUserExpiresAt : Option Time := none
  leaseOwner : Option String := none
  leaseExpiresAt : Option Time := none
  replayOfRunId : Option Uuid := none

inductive ApprovalStatus
  | pending
  | approved
  | rejected
  | expired
  deriving DecidableEq, Repr

def ApprovalStatus.value : ApprovalStatus → String
  | .pending => "PENDING"
  | .approved => "APPROVED"
  | .rejected => "REJECTED"
  | .expired => "EXPIRED"

structure Approval where
  id : Uuid
  runId : Uuid
  status : ApprovalStatus
  requestedBy : Uuid
  /-- `approver_constraints["permission"]` -/
  requiredPermission : Option String
  /-- `approver_constraints["disallow_self"]` -/
  disallowSelf : Bool
  expiresAt : Time
  decidedBy : Option Uuid := none
  decisionReason : Option String := none
  decidedAt : Option Time := none

structure AuditRecord where
  actorType : ActorType
  actorId : Option Uuid
  action : String
  resourceType : String
  resourceId : Uuid
  outcome : String
  metadata : Fields := []

inductive Write
  | insertThread (thread : Thread)
  | putThread (thread : Thread)
  | insertTurn (turn : Turn)
  | insertRun (run : Run)
  | putRun (run : Run)
  /-- The active steps of a Run that `cancel_active_run_steps` finds. -/
  | cancelSteps (runId : Uuid) (completedAt : Time)
  | insertSnapshots (runId : Uuid) (count : Nat)
  | putApproval (approval : Approval)
  /-- The event with its outbox message and its two counters. -/
  | event (draft : EventDraft)
  | audit (record : AuditRecord)
  /-- A policy decision or an audit record of the source content guard. -/
  | access (record : AuditRecord)

structure Entry where
  row : Option AppServerRequest
  effects : List Write

inductive Fault
  | refused (error : ObsionError)
  | database

abbrev Body (α : Type) := Script Entry Fault α

def refuse {α : Type} (error : ObsionError) : Body α := .raises (.refused error)

def allow {α : Type} (outcome : Except ObsionError α) : Body α :=
  Script.ofExcept (outcome.mapError Fault.refused)

def found {α : Type} (resource : String) (row : Option α) : Body α :=
  match row with
  | none => refuse (notFoundError resource)
  | some row => pure row

def write (statement : Write) : Body Unit :=
  Script.update fun entry => .ok { entry with effects := entry.effects ++ [statement] }

/-- `KnowledgePublicationGuard.check`: the records it writes, and what it returns. -/
structure GuardOutcome where
  records : List AuditRecord
  allowed : Except ObsionError Bool

def writeAccess : List AuditRecord → Body Unit
  | [] => pure ()
  | record :: rest => do
      write (.access record)
      writeAccess rest

def check (guard : GuardOutcome) : Body Bool := do
  writeAccess guard.records
  allow guard.allowed

/-- `EventStore.append`, whose SAVEPOINT leaves nothing of a rejected event. -/
def append (store : EventDraft → Except ObsionError Unit) (draft : EventDraft) : Body Unit := do
  allow (store draft)
  write (.event draft)

structure RunAccess where
  /-- The Run that `require_run_access` finds. -/
  run : Option Run
  /-- Its check of the source content, where one is asked for. -/
  content : GuardOutcome

/-- `require_run_access(..., source_content=True)` -/
def requireRunContent (access : RunAccess) : Body Run := do
  let run ← found "Run" access.run
  let allowed ← check access.content
  if allowed then pure run else refuse (notFoundError "Run content")

/-- The caller, and what every handler needs from the outside. -/
structure Context where
  principal : Principal
  now : Time
  correlationId : Uuid
  /-- `prepare_event_draft` and the statements of `EventStore.append`. -/
  store : EventDraft → Except ObsionError Unit

def threadDraft (context : Context) (name : String) (threadId correlationId : Uuid)
    (payload : Fields) : EventDraft :=
  { name := name, aggregateType := "thread", aggregateId := threadId
    organizationId := context.principal.organizationId, correlationId := correlationId
    actorType := .user, actorId := some context.principal.id, payload := payload, runId := none
    causationId := none, classification := .internal, schemaVersion := 1 }

def runDraft (context : Context) (name : String) (actorType : ActorType) (actorId : Option Uuid)
    (runId : Uuid) (payload : Fields) : EventDraft :=
  { name := name, aggregateType := "run", aggregateId := runId
    organizationId := context.principal.organizationId, correlationId := runId
    actorType := actorType, actorId := actorId, payload := payload, runId := some runId
    causationId := none, classification := .internal, schemaVersion := 1 }

def userAudit (context : Context) (action resourceType : String) (resourceId : Uuid)
    (outcome : String) (metadata : Fields) : Write :=
  .audit ⟨.user, some context.principal.id, action, resourceType, resourceId, outcome, metadata⟩

def systemAudit (action resourceType : String) (resourceId : Uuid) (outcome : String)
    (metadata : Fields) : Write :=
  .audit ⟨.system, none, action, resourceType, resourceId, outcome, metadata⟩

end Obsion.AppServer
