import Obsion.Harness.Run
import Obsion.Lib.Table
import Obsion.Lib.Transition

/-! # Threads, turns and forks

`ThreadHistoryResolver` and the operations of `WorkspaceService` on threads.  A call that
raises rolls its transaction back, so that only calls that return are moves.  The limit
on the lineage is counted down: `room` is `max_lineage_depth - len(lineage)`. -/

namespace Obsion.Threads

open Obsion.Lib
open Obsion.Harness (RunStatus isTerminal allowedRunTransitions)

inductive ThreadStatus
  | active
  | archived
  deriving DecidableEq, Repr

structure Thread where
  id : Uuid
  workspaceId : Uuid
  title : String
  status : ThreadStatus
  createdBy : Uuid
  parentThreadId : Option Uuid := none
  forkedFromTurnId : Option Uuid := none
  archivedAt : Option Time := none
  deriving DecidableEq

structure Turn where
  id : Uuid
  threadId : Uuid
  ordinal : Nat
  createdBy : Uuid
  input : String
  createdAt : Time
  deriving DecidableEq

structure Run where
  id : Uuid
  turnId : Uuid
  status : RunStatus
  deriving DecidableEq

structure Database where
  threads : Table Thread.id
  turns : Table Turn.id
  runs : Table Run.id

/-- A principal with what `workspace_access_clause` grants it on each workspace. -/
structure Caller where
  principal : Principal
  reads : Uuid → Bool
  writes : Uuid → Bool

def requireThreadAccess (database : Database) (granted : Uuid → Bool) (threadId : Uuid) :
    Except ObsionError Thread :=
  match database.threads.get? threadId with
  | none => .error (notFoundError "Thread")
  | some thread => if granted thread.workspaceId then .ok thread else .error (notFoundError "Thread")

def localTurns (database : Database) (threadId : Uuid) : List Turn :=
  (database.turns.select fun turn => turn.threadId = threadId).insertionSort
    fun left right => left.ordinal ≤ right.ordinal

def maxLineageDepth : Nat := 32

def lineageInvalid : ObsionError :=
  conflictError "thread_lineage_invalid"
    "Thread fork lineage contains a cycle or exceeds the supported depth"

/-- `parent_turns[: fork_index + 1]`, or nothing for a fork without a fork point -/
def inheritedTurns (thread : Thread) (parentTurns : List Turn) : Except ObsionError (List Turn) :=
  match thread.forkedFromTurnId with
  | none => .ok []
  | some turnId =>
    match parentTurns.findIdx? fun item => item.id = turnId with
    | none =>
      .error (conflictError "thread_fork_point_missing"
        "The persisted Thread fork point is no longer available")
    | some forkIndex => .ok (parentTurns.take (forkIndex + 1))

def effectiveTurns (database : Database) (reads : Uuid → Bool) :
    Nat → List Uuid → Thread → Except ObsionError (List Turn)
  | 0, _, _ => .error lineageInvalid
  | room + 1, lineage, thread =>
    if thread.id ∈ lineage then .error lineageInvalid
    else match thread.parentThreadId with
      | none => .ok (localTurns database thread.id)
      | some parentId => do
          let parent ← requireThreadAccess database reads parentId
          let parentTurns ← effectiveTurns database reads room (thread.id :: lineage) parent
          let inherited ← inheritedTurns thread parentTurns
          .ok (inherited ++ localTurns database thread.id)

def resolve (database : Database) (reads : Uuid → Bool) (thread : Thread) :
    Except ObsionError (List Turn) :=
  effectiveTurns database reads maxLineageDepth [] thread

/-! ## Operations -/

inductive Fault
  | refused (error : ObsionError)
  | crashed

def refuse {α : Type} (result : Except ObsionError α) : Except Fault α :=
  result.mapError Fault.refused

def insert {Row Key : Type} [DecidableEq Key] {key : Row → Key} (table : Table key) (row : Row) :
    Except Fault (Table key) :=
  match table.insert? row with
  | none => .error .crashed
  | some table => .ok table

def createThread (caller : Caller) (workspaceId : Uuid) (title : String) (id : Uuid)
    (database : Database) : Except Fault Database :=
  if caller.writes workspaceId then do
    let threads ← insert database.threads
      { id := id, workspaceId := workspaceId, title := strip title, status := .active
        createdBy := caller.principal.id }
    .ok { database with threads := threads }
  else .error (.refused (authorizationError "workspace_write_denied"
    "Workspace changes are not permitted"))

/-- What `create_turn` reads beside the thread: the agent, the model profile, the prompt
pins, the workspace and the attachments before the rows are written, and the
conversation snapshots after. -/
structure TurnEnv where
  checks : Except ObsionError Unit
  capture : Except Fault Unit

def nextOrdinal (turns : List Turn) : Nat :=
  (match turns.getLast? with
    | some turn => turn.ordinal
    | none => 0) + 1

def createTurn (now : Time) (caller : Caller) (threadId : Uuid) (input : String) (env : TurnEnv)
    (turnId runId : Uuid) (database : Database) : Except Fault Database := do
  let thread ← refuse (requireThreadAccess database caller.writes threadId)
  if thread.status ≠ .active then
    .error (.refused (conflictError "thread_archived" "An archived thread must be resumed first"))
  else
    let turns ← refuse (resolve database caller.reads thread)
    refuse env.checks
    let turn : Turn :=
      { id := turnId, threadId := thread.id, ordinal := nextOrdinal turns
        createdBy := caller.principal.id, input := input, createdAt := now }
    -- The unique constraint on the thread and the ordinal.
    if database.turns.rows.any fun other =>
        other.threadId = turn.threadId && other.ordinal = turn.ordinal then .error .crashed
    else
      let stored ← insert database.turns turn
      let runs ← insert database.runs { id := runId, turnId := turnId, status := .pending }
      env.capture
      .ok { database with turns := stored, runs := runs }

def archived (now : Time) (thread : Thread) : Thread :=
  { thread with status := .archived, archivedAt := some now }

def forkTitle (title : Option String) (parent : Thread) : String :=
  strip (match title with
    | some title => if title = "" then parent.title ++ " (fork)" else title
    | none => parent.title ++ " (fork)")

/-- `from_turn_id or (parent_turns[-1].id if parent_turns else None)` -/
def forkPoint (fromTurnId : Option Uuid) (parentTurns : List Turn) : Option Uuid :=
  match fromTurnId with
  | some turnId => some turnId
  | none => parentTurns.getLast?.map Turn.id

def forkThread (now : Time) (caller : Caller) (threadId : Uuid) (fromTurnId : Option Uuid)
    (title : Option String) (id : Uuid) (database : Database) : Except Fault Database := do
  let parent ← refuse (requireThreadAccess database caller.writes threadId)
  let parentTurns ← refuse (resolve database caller.reads parent)
  let point := forkPoint fromTurnId parentTurns
  if point.any fun turnId => !parentTurns.any fun item => item.id = turnId then
    .error (.refused (notFoundError "Turn"))
  else
    let threads ← insert database.threads
      { id := id, workspaceId := parent.workspaceId, title := forkTitle title parent
        status := .active, createdBy := caller.principal.id, parentThreadId := some parent.id
        forkedFromTurnId := point }
    .ok { database with
      threads := if parent.status = .active then threads.put (archived now parent) else threads }

def archiveThread (now : Time) (caller : Caller) (threadId : Uuid) (database : Database) :
    Except Fault Database := do
  let thread ← refuse (requireThreadAccess database caller.writes threadId)
  if thread.status = .archived then .ok database
  else if database.runs.rows.any fun run =>
      !isTerminal run.status && (database.turns.get? run.turnId).any fun turn =>
        turn.threadId = thread.id then
    .error (.refused (conflictError "thread_has_active_run"
      "A thread with an active run must finish or be cancelled before archiving"))
  else .ok { database with threads := database.threads.put (archived now thread) }

def resumed (thread : Thread) : Thread :=
  { thread with status := .active, archivedAt := none }

def resumeThread (caller : Caller) (threadId : Uuid) (database : Database) :
    Except Fault Database := do
  let thread ← refuse (requireThreadAccess database caller.writes threadId)
  if thread.status = .active then .ok database
  else .ok { database with threads := database.threads.put (resumed thread) }

structure World where
  now : Time
  database : Database

inductive Action
  | elapse (duration : Nat)
  | createThread (caller : Caller) (workspaceId : Uuid) (title : String) (id : Uuid)
  | createTurn (caller : Caller) (threadId : Uuid) (input : String) (env : TurnEnv)
      (turnId runId : Uuid)
  | forkThread (caller : Caller) (threadId : Uuid) (fromTurnId : Option Uuid)
      (title : Option String) (id : Uuid)
  | archiveThread (caller : Caller) (threadId : Uuid)
  | resumeThread (caller : Caller) (threadId : Uuid)
  | moveRun (runId : Uuid) (target : RunStatus)

def World.attempt (world : World) (result : Except Fault Database) : Option World :=
  result.toOption.map fun database => { world with database := database }

def moveRun (runId : Uuid) (target : RunStatus) (database : Database) : Option Database :=
  (database.runs.get? runId).bind fun run =>
    if target ∈ allowedRunTransitions run.status then
      some { database with runs := database.runs.put { run with status := target } }
    else none

def perform (world : World) : Action → Option World
  | .elapse duration => some { world with now := world.now + duration }
  | .createThread caller workspaceId title id =>
    world.attempt (createThread caller workspaceId title id world.database)
  | .createTurn caller threadId input env turnId runId =>
    world.attempt (createTurn world.now caller threadId input env turnId runId world.database)
  | .forkThread caller threadId fromTurnId title id =>
    world.attempt (forkThread world.now caller threadId fromTurnId title id world.database)
  | .archiveThread caller threadId =>
    world.attempt (archiveThread world.now caller threadId world.database)
  | .resumeThread caller threadId => world.attempt (resumeThread caller threadId world.database)
  | .moveRun runId target =>
    (moveRun runId target world.database).map fun database =>
      { world with database := database }

def Blank (world : World) : Prop :=
  world.database.threads = .empty ∧ world.database.turns = .empty ∧ world.database.runs = .empty

def threads : System World Action := System.ofPartial Blank perform

end Obsion.Threads
