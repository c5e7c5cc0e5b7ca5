import Obsion.AppServer.Rows

/-! # The handlers of the mutations

The operations of `AppServerApplication` down to the services behind them, in the order of
their checks and writes.  A write of the source that changes an object before the session
flushes it is a write here as well: the flush at the end of the transaction sends it, also
where the handler raised in between. -/

namespace Obsion.AppServer

open Obsion.Lib
open Obsion.Events (EventDraft)
open Obsion.Harness (RunStatus isTerminal validateRunTransition)
open Obsion.Threads (Thread Turn archived resumed forkTitle forkPoint nextOrdinal)

structure Views where
  thread : Thread → Json
  turn : Turn → Json
  run : Run → Fields
  approval : Approval → Json

structure CreateThread where
  workspaceId : Uuid
  title : String
  /-- `require_workspace_access(..., write=True)` -/
  workspace : Except ObsionError Unit
  id : Uuid

def createThread (views : Views) (context : Context) (args : CreateThread) : Body Json := do
  allow args.workspace
  let thread : Thread :=
    { id := args.id, workspaceId := args.workspaceId, title := strip args.title, status := .active
      createdBy := context.principal.id }
  write (.insertThread thread)
  append context.store (threadDraft context "thread.created" thread.id context.correlationId
    [("workspace_id", .str args.workspaceId.str), ("title", .str thread.title)])
  write (userAudit context "thread.create" "thread" thread.id "SUCCESS"
    [("workspace_id", .str args.workspaceId.str)])
  pure (views.thread thread)

structure MoveThread where
  /-- The thread that `require_thread_access` locks. -/
  thread : Option Thread
  /-- A Run of the thread that is not terminal. -/
  activeRun : Bool

def archiveThread (views : Views) (context : Context) (args : MoveThread) : Body Json := do
  let thread ← found "Thread" args.thread
  if thread.status = .archived then pure (views.thread thread)
  else if args.activeRun then
    refuse (conflictError "thread_has_active_run"
      "A thread with an active run must finish or be cancelled before archiving")
  else
    let moved := archived context.now thread
    write (.putThread moved)
    append context.store
      (threadDraft context "thread.archived" thread.id context.correlationId [])
    write (userAudit context "thread.archive" "thread" thread.id "SUCCESS" [])
    pure (views.thread moved)

def resumeThread (views : Views) (context : Context) (args : MoveThread) : Body Json := do
  let thread ← found "Thread" args.thread
  if thread.status = .active then pure (views.thread thread)
  else
    let moved := resumed thread
    write (.putThread moved)
    append context.store
      (threadDraft context "thread.resumed" thread.id context.correlationId [])
    write (userAudit context "thread.resume" "thread" thread.id "SUCCESS" [])
    pure (views.thread moved)

structure ForkThread where
  parent : Option Thread
  fromTurnId : Option Uuid
  title : Option String
  /-- `_effective_turns` -/
  turns : Except ObsionError (List Turn)
  id : Uuid

def optionalId (id : Option Uuid) : Json := (id.map fun id => Json.str id.str).getD .null

def archiveParent (context : Context) (parent : Thread) (forkId : Uuid) : Body Unit :=
  if parent.status = .active then do
    write (.putThread (archived context.now parent))
    append context.store
      (threadDraft context "thread.archived" parent.id context.correlationId [])
    write (userAudit context "thread.archive" "thread" parent.id "SUCCESS"
      [("reason", .str "fork"), ("fork_thread_id", .str forkId.str)])
  else pure ()

def forkThread (views : Views) (context : Context) (args : ForkThread) : Body Json := do
  let parent ← found "Thread" args.parent
  let parentTurns ← allow args.turns
  let point := forkPoint args.fromTurnId parentTurns
  if point.any fun turnId => !parentTurns.any fun item => item.id = turnId then
    refuse (notFoundError "Turn")
  else
    let thread : Thread :=
      { id := args.id, workspaceId := parent.workspaceId, title := forkTitle args.title parent
        status := .active, createdBy := context.principal.id, parentThreadId := some parent.id
        forkedFromTurnId := point }
    let lineage : Fields :=
      [("parent_thread_id", .str parent.id.str), ("forked_from_turn_id", optionalId point)]
    write (.insertThread thread)
    archiveParent context parent thread.id
    append context.store
      (threadDraft context "thread.forked" thread.id context.correlationId lineage)
    write (userAudit context "thread.fork" "thread" thread.id "SUCCESS" lineage)
    pure (views.thread thread)

structure Attachment where
  /-- The type of the reference is `artifact`. -/
  isArtifact : Bool
  artifactId : Option Uuid
  /-- The artifact of the workspace, with the access to its Run if it has one. -/
  artifact : Option (Option RunAccess)

def validateAttachments : List Attachment → Body Unit
  | [] => pure ()
  | reference :: rest =>
    if !reference.isArtifact then
      refuse (validationError "attachment_type_unsupported"
        "Turn attachments must reference a workspace artifact")
    else if reference.artifactId.isNone then
      refuse (validationError "attachment_reference_invalid"
        "Attachment artifact ID is invalid")
    else do
      let artifact ← found "Artifact" reference.artifact
      match artifact with
      | none => validateAttachments rest
      | some access => do
          let _ ← requireRunContent access
          validateAttachments rest

structure Capture where
  workspaceFound : Bool
  /-- The bounded prior turns, each with the check of its source Run if it has one. -/
  candidates : List (Option GuardOutcome)

def selectCandidates : List (Option GuardOutcome) → Body Nat
  | [] => pure 0
  | none :: rest => do
      let more ← selectCandidates rest
      pure (more + 1)
  | some guard :: rest => do
      let allowed ← check guard
      let more ← selectCandidates rest
      pure (if allowed then more + 1 else more)

def capture (env : Capture) (priorTurns : List Turn) (runId : Uuid) : Body Nat :=
  if priorTurns.isEmpty then pure 0
  else if !env.workspaceFound then refuse (notFoundError "Workspace")
  else do
    let count ← selectCandidates env.candidates
    write (.insertSnapshots runId count)
    pure count

structure CreateTurn where
  thread : Option Thread
  turns : Except ObsionError (List Turn)
  /-- The redacted input. -/
  input : String
  profileName : String
  agentFound : Bool
  profileFound : Bool
  promptPins : Except ObsionError Unit
  workspaceFound : Bool
  attachments : List Attachment
  capture : Capture
  deadlineAt : Time
  turnId : Uuid
  runId : Uuid

def turnChecks (args : CreateTurn) : Body (Thread × List Turn) := do
  let thread ← found "Thread" args.thread
  if thread.status ≠ .active then
    refuse (conflictError "thread_archived" "An archived thread must be resumed first")
  else
    let turns ← allow args.turns
    if !args.agentFound then refuse (notFoundError "Active GeneralAgent")
    else if !args.profileFound then refuse (notFoundError "Model profile")
    else
      allow args.promptPins
      if !args.workspaceFound then refuse (notFoundError "Workspace")
      else
        validateAttachments args.attachments
        pure (thread, turns)

def turnEvents (context : Context) (turn : Turn) (runId : Uuid) (count : Nat) : Body Unit := do
  append context.store (runDraft context "turn.created" .user (some context.principal.id) runId
    [("turn_id", .str turn.id.str), ("thread_id", .str turn.threadId.str),
      ("ordinal", .int turn.ordinal),
      ("input", .str turn.input)])
  append context.store (runDraft context "run.created" .system none runId
    [("turn_id", .str turn.id.str), ("status", .str RunStatus.pending.str),
      ("conversation_snapshot_count", .int count)])

def createTurn (views : Views) (context : Context) (args : CreateTurn) : Body Json := do
  let (thread, turns) ← turnChecks args
  let turn : Turn :=
    { id := args.turnId, threadId := thread.id, ordinal := nextOrdinal turns
      createdBy := context.principal.id, input := args.input, createdAt := context.now }
  let run : Run :=
    { id := args.runId, turnId := turn.id, status := .pending
      deadlineAt := some args.deadlineAt }
  write (.insertTurn turn)
  write (.insertRun run)
  let count ← capture args.capture turns run.id
  turnEvents context turn run.id count
  pure (.obj [("turn", views.turn turn), ("run", .obj (views.run run))])

def withheldRun (view : Fields) : Fields :=
  let cleared : Fields :=
    [("source_content_available", .bool false), ("intent", .obj []), ("plan", .obj []),
      ("pending_clarification", .null),
      ("context_budget", .obj []),
      ("conversation_compact", .obj []),
      ("workspace_context", .obj []),
      ("prompt_pins", .arr []),
      ("error_message", .null)]
  cleared.foldl (fun view field => view.set field.1 field.2) view

def publicRunView (guard : GuardOutcome) (view : Fields) : Body Fields := do
  let available ← check guard
  pure (if available then view else withheldRun view)

structure CancelRun where
  access : RunAccess
  activeSteps : Nat
  /-- The check of `public_run_view` on the cancelled Run. -/
  projection : GuardOutcome

def cancelledRun (run : Run) (now : Time) : Run :=
  { run with
    status := .cancelled, cancellationRequestedAt := some now, completedAt := some now
    leaseOwner := none, leaseExpiresAt := none }

def cancelTransaction (context : Context) (args : CancelRun) : Body Run := do
  let run ← found "Run" args.access.run
  if isTerminal run.status then pure run
  else
    write (.putRun { run with cancellationRequestedAt := some context.now })
    allow (validateRunTransition run.status .cancelled)
    let cancelled := cancelledRun run context.now
    write (.putRun cancelled)
    write (.cancelSteps run.id context.now)
    append context.store (runDraft context "run.cancellation_requested" .user
      (some context.principal.id) run.id [("status", .str run.status.str)])
    append context.store (runDraft context "run.cancelled" .user
      (some context.principal.id) run.id [])
    write (userAudit context "run.cancel" "run" run.id "SUCCESS"
      [("previous_status", .str run.status.str), ("cancelled_steps", .int args.activeSteps)])
    pure cancelled

def cancelRun (views : Views) (context : Context) (args : CancelRun) : Body Json := do
  let run ← cancelTransaction context args
  let view ← publicRunView args.projection (views.run run)
  pure (.obj view)

structure ReplayRun where
  access : RunAccess
  deadlineAt : Time
  id : Uuid

def replayRun (views : Views) (context : Context) (args : ReplayRun) : Body Json := do
  let source ← requireRunContent args.access
  if !isTerminal source.status then
    refuse (conflictError "run_not_replayable"
      "Only a terminal run has a stable replay snapshot")
  else
    let replay : Run :=
      { id := args.id, turnId := source.turnId, status := .pending
        deadlineAt := some args.deadlineAt, replayOfRunId := some source.id }
    write (.insertRun replay)
    append context.store (runDraft context "run.replay_requested" .user
      (some context.principal.id) replay.id [("source_run_id", .str source.id.str)])
    write (userAudit context "run.replay.request" "run" replay.id "QUEUED"
      [("source_run_id", .str source.id.str), ("source_status", .str source.status.str)])
    pure (.obj (views.run replay))

/-! ## Clarifications -/

structure AppliedAnswer where
  intent : Json
  intentRevision : Nat
  answeredSlots : List String
  responseFingerprint : String

inductive AnswerOutcome
  | applied (answer : AppliedAnswer)
  | staleRevision
  | notPending
  | invalid (message : String)
  | stateInvalid

structure ActiveClarification where
  id : Uuid
  expiresAt : Time

structure ClarificationIntent where
  active : Option ActiveClarification
  remainingExecutionSeconds : Option Nat
  /-- The intent with its active request closed as EXPIRED. -/
  closed : Json

structure AnswerClarification where
  access : RunAccess
  clarificationId : Uuid
  /-- `parse_run_intent`: `none` is a domain failure, `some none` no typed intent. -/
  intent : Option (Option ClarificationIntent)
  answer : AnswerOutcome

def stateInvalid (message : String) : ObsionError :=
  conflictError "clarification_state_invalid" message

def expiredRun (run : Run) (closed : Json) (now : Time) : Run :=
  { run with
    intent := closed, status := .failed, errorCode := some "clarification_expired"
    errorMessage := some "The clarification request expired before an answer was received"
    completedAt := some now, deadlineAt := none, waitingUserExpiresAt := none, leaseOwner := none
    leaseExpiresAt := none }

def expireClarification (context : Context) (run : Run) (intent : ClarificationIntent)
    (active : ActiveClarification) : Body Unit := do
  allow (validateRunTransition run.status .failed)
  write (.putRun (expiredRun run intent.closed context.now))
  append context.store (runDraft context "clarification.expired" .system none run.id
    [("clarification_id", .str active.id.str)])
  append context.store (runDraft context "run.failed" .system none run.id
    [("error_code", .str "clarification_expired")])
  write (systemAudit "run.clarification.expire" "run" run.id "EXPIRED"
    [("clarification_id", .str active.id.str)])

def appliedAnswer : AnswerOutcome → Except ObsionError AppliedAnswer
  | .applied answer => .ok answer
  | .staleRevision => .error (conflictError "clarification_stale_revision"
      "The clarification answer targets a stale intent revision")
  | .notPending => .error (conflictError "clarification_not_pending"
      "The clarification is no longer pending")
  | .invalid message => .error (validationError "clarification_answer_invalid" message)
  | .stateInvalid => .error (stateInvalid "The clarification state rejected the answer")

def answeredRun (run : Run) (answer : AppliedAnswer) (deadlineAt : Time) : Run :=
  { run with
    intent := answer.intent, status := .running, deadlineAt := some deadlineAt
    waitingUserExpiresAt := none, leaseOwner := none, leaseExpiresAt := none }

def answerPayload (clarificationId : Uuid) (answer : AppliedAnswer) : Fields :=
  [("clarification_id", .str clarificationId.str), ("intent_revision", .int answer.intentRevision),
    ("answered_slots", .arr (answer.answeredSlots.map Json.str)),
    ("response_fingerprint", .str answer.responseFingerprint)]

def answerOpen (views : Views) (context : Context) (args : AnswerClarification) (run : Run)
    (intent : ClarificationIntent) : Body Json :=
  match intent.remainingExecutionSeconds with
  | none => refuse (stateInvalid "The clarification has no resumable execution budget")
  | some remaining => do
      let answer ← allow (appliedAnswer args.answer)
      allow (validateRunTransition run.status .running)
      let answered := answeredRun run answer (context.now + seconds remaining)
      let payload := answerPayload args.clarificationId answer
      write (.putRun answered)
      append context.store (runDraft context "clarification.answered" .user
        (some context.principal.id) run.id payload)
      write (userAudit context "run.clarification.answer" "run" run.id "SUCCESS" payload)
      pure (.obj (views.run answered))

def answerClarification (views : Views) (context : Context) (args : AnswerClarification) :
    Body Json := do
  let run ← found "Run" args.access.run
  if run.status ≠ .waitingUser then
    refuse (conflictError "clarification_not_pending"
      "The run is not waiting for clarification")
  else match args.intent with
    | none => refuse (stateInvalid "The persisted clarification state cannot be resumed")
    | some none => refuse (stateInvalid "The persisted clarification state cannot be resumed")
    | some (some intent) =>
      match intent.active with
      | none => refuse (conflictError "clarification_not_pending"
          "The clarification is no longer the active request")
      | some active =>
        if active.id ≠ args.clarificationId then
          refuse (conflictError "clarification_not_pending"
            "The clarification is no longer the active request")
        else if active.expiresAt ≤ context.now then do
          expireClarification context run intent active
          refuse (conflictError "clarification_expired"
            "The clarification request has expired")
        else answerOpen views context args run intent

structure DecideApproval where
  approval : Option Approval
  access : RunAccess
  approve : Bool
  reason : String

def expiredApproval (approval : Approval) (now : Time) : Approval :=
  { approval with status := .expired, decidedAt := some now }

def expireApproval (context : Context) (approval : Approval) (run : Run) : Body Unit := do
  write (.putApproval (expiredApproval approval context.now))
  append context.store (runDraft context "approval.expired" .system none run.id
    [("approval_id", .str approval.id.str)])
  write (systemAudit "approval.expire" "approval" approval.id ApprovalStatus.expired.value [])

def decidedApproval (context : Context) (args : DecideApproval) (approval : Approval) : Approval :=
  { approval with
    status := if args.approve then .approved else .rejected
    decidedBy := some context.principal.id, decisionReason := some (strip args.reason)
    decidedAt := some context.now }

def releasedRun (run : Run) : Run :=
  { run with status := .running, leaseOwner := none, leaseExpiresAt := none }

def rejectedRun (run : Run) (now : Time) : Run :=
  { run with
    status := .failed, errorCode := some "approval_rejected"
    errorMessage := some "The requested capability was rejected", completedAt := some now }

def moveRun (context : Context) (args : DecideApproval) (run : Run) : Body Unit :=
  if isTerminal run.status then pure ()
  else if args.approve then
    if run.status = .waitingApproval then do
      allow (validateRunTransition run.status .running)
      write (.putRun (releasedRun run))
    else pure ()
  else do
    allow (validateRunTransition run.status .failed)
    write (.putRun (rejectedRun run context.now))

def approverChecks (context : Context) (approval : Approval) : Except ObsionError Unit :=
  if approval.requiredPermission.any fun permission =>
      permission ≠ "" && !context.principal.can permission then
    .error (authorizationError "approver_constraint_failed"
      "The approver does not meet policy constraints")
  else if approval.disallowSelf && approval.requestedBy = context.principal.id then
    .error (authorizationError "self_approval_denied"
      "The requester cannot approve their own capability request")
  else .ok ()

def decidePending (views : Views) (context : Context) (args : DecideApproval)
    (approval : Approval) (run : Run) : Body Json := do
  allow (approverChecks context approval)
  let decided := decidedApproval context args approval
  write (.putApproval decided)
  moveRun context args run
  append context.store (runDraft context
    (if args.approve then "approval.approved" else "approval.rejected") .user
    (some context.principal.id) run.id
    [("approval_id", .str approval.id.str), ("reason", .str (strip args.reason))])
  write (userAudit context "approval.decide" "approval" approval.id decided.status.value [])
  pure (views.approval decided)

def decideApproval (views : Views) (context : Context) (args : DecideApproval) : Body Json :=
  if !context.principal.can "approval.decide" then
    refuse (authorizationError "approval_decide_denied" "Approval decisions are not permitted")
  else do
    let approval ← found "Approval" args.approval
    if approval.status ≠ .pending then
      refuse (conflictError "approval_already_decided" "The approval is no longer pending")
    else
      let run ← found "Run" args.access.run
      if approval.expiresAt ≤ context.now then do
        expireApproval context approval run
        refuse (conflictError "approval_expired" "The approval request has expired")
      else decidePending views context args approval run

end Obsion.AppServer
