import Obsion.Base.Json
import Obsion.Lib.Numbering
import Obsion.Lib.Transition

/-! # The event store

`EventStore.append`, statement by statement, in any number of concurrent
transactions.  A transaction keeps its own writes as overlays of the committed
tables; a row it wrote is locked until the transaction ends or rolls back to a
savepoint that is older than the write.  The contract registry is an argument.
The write-back of the counters into cached objects sends no SQL and is left out. -/

namespace Obsion.Events

open Obsion.Lib

inductive ActorType
  | user
  | service
  | agent
  | system
  deriving DecidableEq, Repr

def ActorType.value : ActorType → String
  | .user => "USER"
  | .service => "SERVICE"
  | .agent => "AGENT"
  | .system => "SYSTEM"

inductive Classification
  | public_
  | internal
  | confidential
  | restricted
  deriving DecidableEq, Repr

def Classification.value : Classification → String
  | .public_ => "PUBLIC"
  | .internal => "INTERNAL"
  | .confidential => "CONFIDENTIAL"
  | .restricted => "RESTRICTED"

structure EventDraft where
  name : String
  aggregateType : String
  aggregateId : Uuid
  organizationId : Uuid
  correlationId : Uuid
  actorType : ActorType
  actorId : Option Uuid
  payload : Fields
  runId : Option Uuid
  causationId : Option Uuid
  classification : Classification
  schemaVersion : Nat

structure PreparedEventDraft where
  eventId : Uuid
  createdAt : Time
  payload : Fields

structure Event where
  id : Uuid
  organizationId : Uuid
  aggregateType : String
  aggregateId : Uuid
  sequence : Nat
  name : String
  runId : Option Uuid
  runSequence : Option Nat
  causationId : Option Uuid
  correlationId : Uuid
  actorType : ActorType
  actorId : Option Uuid
  schemaVersion : Nat
  classification : Classification
  payload : Fields
  createdAt : Time

structure OutboxMessage where
  eventId : Uuid
  topic : String
  payload : Fields
  createdAt : Time
  attemptCount : Nat

structure Run where
  organizationId : Uuid
  aggregateVersion : Nat

structure AggregateHead where
  organizationId : Uuid
  sequence : Nat
  updatedAt : Time

/-- The primary key of `aggregate_heads`. -/
abbrev HeadKey := String × Uuid

/-- The event contracts of the repository, and `_canonical_datetime`. -/
structure Contracts where
  /-- `prepare_event_draft` -/
  prepareEventDraft : EventDraft → Uuid → Time → Except ObsionError PreparedEventDraft
  /-- `validate_event_envelope` accepts the envelope. -/
  validEnvelope : Fields → Bool
  canonicalDatetime : Time → String

def optionalId (id : Option Uuid) : Json :=
  match id with
  | none => .null
  | some id => .str id.str

def buildEventEnvelope (contracts : Contracts) (event : Event) : Fields :=
  [("id", .str event.id.str), ("event_id", .str event.id.str),
    ("organization_id", .str event.organizationId.str),
    ("aggregate_type", .str event.aggregateType),
    ("aggregate_id", .str event.aggregateId.str),
    ("sequence", .int event.sequence),
    ("name", .str event.name),
    ("run_id", optionalId event.runId),
    ("run_sequence", (event.runSequence.map fun sequence => Json.int sequence).getD .null),
    ("causation_id", optionalId event.causationId),
    ("correlation_id", .str event.correlationId.str),
    ("actor_type", .str event.actorType.value),
    ("actor_id", optionalId event.actorId),
    ("schema_version", .int event.schemaVersion),
    ("classification", .str event.classification.value),
    ("payload", .obj event.payload),
    ("created_at", .str (contracts.canonicalDatetime event.createdAt))]

def newEvent (draft : EventDraft) (prepared : PreparedEventDraft) (runSequence : Option Nat)
    (sequence : Nat) : Event :=
  { id := prepared.eventId, organizationId := draft.organizationId
    aggregateType := draft.aggregateType, aggregateId := draft.aggregateId, sequence := sequence
    name := draft.name, runId := draft.runId, runSequence := runSequence
    causationId := draft.causationId, correlationId := draft.correlationId
    actorType := draft.actorType, actorId := draft.actorId, schemaVersion := draft.schemaVersion
    classification := draft.classification, payload := prepared.payload
    createdAt := prepared.createdAt }

/-- The `OutboxMessage` that is inserted beside an event. -/
def outboxMessage (contracts : Contracts) (event : Event) : OutboxMessage :=
  { eventId := event.id, topic := "obsion." ++ event.name
    payload := buildEventEnvelope contracts event, createdAt := event.createdAt
    attemptCount := 0 }

structure Tables where
  runs : Uuid → Option Run
  heads : HeadKey → Option AggregateHead
  events : List Event
  outbox : List OutboxMessage

/-- What a transaction wrote and did not commit yet. -/
structure Writes where
  runs : List (Uuid × Run)
  heads : List (HeadKey × AggregateHead)
  events : List Event
  outbox : List OutboxMessage

def Writes.none : Writes := ⟨[], [], [], []⟩

inductive Phase
  | idle
  /-- Inside the SAVEPOINT, which restores `saved`. -/
  | begun (draft : EventDraft) (prepared : PreparedEventDraft) (now : Time) (saved : Writes)
  | runUpdated (draft : EventDraft) (prepared : PreparedEventDraft) (now : Time) (saved : Writes)
      (runSequence : Option Nat)
  | headUpserted (draft : EventDraft) (prepared : PreparedEventDraft) (now : Time) (saved : Writes)
      (runSequence : Option Nat) (sequence : Nat)

structure Transaction where
  writes : Writes
  /-- The savepoints of the caller, the innermost first. -/
  savepoints : List Writes
  phase : Phase

def Tables.merge (tables : Tables) (writes : Writes) : Tables where
  runs := overlay tables.runs writes.runs
  heads := overlay tables.heads writes.heads
  events := tables.events ++ writes.events
  outbox := tables.outbox ++ writes.outbox

/-- `UPDATE runs ... RETURNING aggregate_version`; no row is `event_run_missing`. -/
def updateRun (tables : Tables) (writes : Writes) (draft : EventDraft) :
    Option (Writes × Option Nat) :=
  match draft.runId with
  | none => some (writes, none)
  | some runId =>
    match overlay tables.runs writes.runs runId with
    | none => none
    | some run =>
      if run.organizationId = draft.organizationId then
        let updated := { run with aggregateVersion := run.aggregateVersion + 1 }
        some ({ writes with runs := (runId, updated) :: writes.runs },
          some updated.aggregateVersion)
      else none

def headKey (draft : EventDraft) : HeadKey := (draft.aggregateType, draft.aggregateId)

/-- The upsert of the aggregate head; no row is an aggregate of another organization. -/
def upsertHead (tables : Tables) (writes : Writes) (draft : EventDraft) (now : Time) :
    Option (Writes × Nat) :=
  match overlay tables.heads writes.heads (headKey draft) with
  | none =>
    let inserted : AggregateHead := ⟨draft.organizationId, 1, now⟩
    some ({ writes with heads := (headKey draft, inserted) :: writes.heads }, 1)
  | some head =>
    if head.organizationId = draft.organizationId then
      let updated := { head with sequence := head.sequence + 1, updatedAt := now }
      some ({ writes with heads := (headKey draft, updated) :: writes.heads }, updated.sequence)
    else none

/-- The unique constraints of `events` against the rows that a transaction sees. -/
def violatesUnique (event : Event) (events : List Event) : Bool :=
  events.any fun other =>
    decide (other.id = event.id)
      || decide (other.aggregateType = event.aggregateType ∧ other.aggregateId = event.aggregateId
          ∧ other.sequence = event.sequence)
      || decide (event.runId.isSome ∧ other.runId = event.runId
          ∧ other.runSequence = event.runSequence)

def insertEvent (contracts : Contracts) (tables : Tables) (writes : Writes) (event : Event) :
    Option Writes :=
  if contracts.validEnvelope (buildEventEnvelope contracts event)
      && !violatesUnique event (tables.merge writes).events then
    some { writes with
      events := writes.events ++ [event]
      outbox := writes.outbox ++ [outboxMessage contracts event] }
  else none

/-! ## Concurrent transactions -/

structure World where
  tables : Tables
  /-- Transaction `number` is at this position; `none` once it has ended. -/
  transactions : List (Option Transaction)

inductive Action
  | begin
  | createRun (number : Nat) (runId organizationId : Uuid)
  | savepoint (number : Nat)
  | release (number : Nat)
  | rollbackToSavepoint (number : Nat)
  | append (number : Nat) (draft : EventDraft) (eventId : Uuid) (now : Time)
  | updateRun (number : Nat)
  | upsertHead (number : Nat)
  | insertEvent (number : Nat)
  | failAppend (number : Nat)
  | commit (number : Nat)
  | rollback (number : Nat)

def Action.number : Action → Option Nat
  | .begin => none
  | .createRun number _ _ => some number
  | .savepoint number => some number
  | .release number => some number
  | .rollbackToSavepoint number => some number
  | .append number _ _ _ => some number
  | .updateRun number => some number
  | .upsertHead number => some number
  | .insertEvent number => some number
  | .failAppend number => some number
  | .commit number => some number
  | .rollback number => some number

def World.transaction (world : World) (number : Nat) : Option Transaction :=
  (world.transactions[number]?).join

def World.others (world : World) (number : Nat) : List Transaction :=
  (world.transactions.set number none).filterMap id

def World.set (world : World) (number : Nat) (transaction : Option Transaction) : World :=
  { world with transactions := world.transactions.set number transaction }

def World.runFree (world : World) (number : Nat) (runId : Uuid) : Bool :=
  (world.others number).all fun other => decide (runId ∉ other.writes.runs.map Prod.fst)

def World.headFree (world : World) (number : Nat) (key : HeadKey) : Bool :=
  (world.others number).all fun other => decide (key ∉ other.writes.heads.map Prod.fst)

/-- No other transaction has inserted an event that this one would have to wait for. -/
def World.eventFree (world : World) (number : Nat) (eventId : Uuid) : Bool :=
  (world.others number).all fun other => decide (eventId ∉ other.writes.events.map Event.id)

/-- A caller's statement, between two calls of `append`. -/
def World.idle (world : World) (number : Nat) : Option Transaction :=
  match world.transaction number with
  | some ⟨writes, savepoints, .idle⟩ => some ⟨writes, savepoints, .idle⟩
  | _ => none

def savedWrites : Phase → Option Writes
  | .idle => none
  | .begun _ _ _ saved => some saved
  | .runUpdated _ _ _ saved _ => some saved
  | .headUpserted _ _ _ saved _ _ => some saved

/-- The first statement inside the SAVEPOINT of `append`. -/
def updateRunStep (world : World) (number : Nat) (transaction : Transaction) : Option World :=
  match transaction.phase with
  | .begun draft prepared now saved =>
    if draft.runId.all fun runId => world.runFree number runId then
      (updateRun world.tables transaction.writes draft).map fun updated =>
        world.set number (some { transaction with
          writes := updated.1, phase := .runUpdated draft prepared now saved updated.2 })
    else none
  | _ => none

def upsertHeadStep (world : World) (number : Nat) (transaction : Transaction) : Option World :=
  match transaction.phase with
  | .runUpdated draft prepared now saved runSequence =>
    if world.headFree number (headKey draft) then
      (upsertHead world.tables transaction.writes draft now).map fun upserted =>
        world.set number (some { transaction with
          writes := upserted.1
          phase := .headUpserted draft prepared now saved runSequence upserted.2 })
    else none
  | _ => none

/-- The flush of the event and its message, and the release of the SAVEPOINT. -/
def insertEventStep (contracts : Contracts) (world : World) (number : Nat)
    (transaction : Transaction) : Option World :=
  match transaction.phase with
  | .headUpserted draft prepared _ _ runSequence sequence =>
    if world.eventFree number prepared.eventId then
      (insertEvent contracts world.tables transaction.writes
          (newEvent draft prepared runSequence sequence)).map fun inserted =>
        world.set number (some { transaction with writes := inserted, phase := .idle })
    else none
  | _ => none

/-- A statement that raised inside the SAVEPOINT: back to the writes it saved. -/
def failAppendStep (world : World) (number : Nat) (transaction : Transaction) : Option World :=
  (savedWrites transaction.phase).map fun saved =>
    world.set number (some { transaction with writes := saved, phase := .idle })

/-- `append` up to its SAVEPOINT; a rejected draft raises before any statement. -/
def appendStep (contracts : Contracts) (world : World) (number : Nat) (draft : EventDraft)
    (eventId : Uuid) (now : Time) (transaction : Transaction) : World :=
  match contracts.prepareEventDraft draft eventId now with
  | .error _ => world
  | .ok prepared =>
    world.set number (some { transaction with
      phase := .begun draft prepared now transaction.writes })

def createRunStep (world : World) (number : Nat) (runId organizationId : Uuid)
    (transaction : Transaction) : Option World :=
  let writes := transaction.writes
  if world.runFree number runId && (overlay world.tables.runs writes.runs runId).isNone then
    some (world.set number (some { transaction with
      writes := { writes with runs := (runId, ⟨organizationId, 0⟩) :: writes.runs } }))
  else none

def rollbackToSavepointStep (world : World) (number : Nat) (transaction : Transaction) :
    Option World :=
  match transaction.savepoints with
  | [] => none
  | saved :: older =>
    some (world.set number (some { transaction with writes := saved, savepoints := older }))

def commitStep (world : World) (number : Nat) (transaction : Transaction) : World :=
  { world.set number none with tables := world.tables.merge transaction.writes }

def perform (contracts : Contracts) (world : World) : Action → Option World
  | .begin =>
    some { world with transactions := world.transactions ++ [some ⟨Writes.none, [], .idle⟩] }
  | .createRun number runId organizationId =>
    (world.idle number).bind (createRunStep world number runId organizationId)
  | .savepoint number =>
    (world.idle number).map fun transaction =>
      world.set number (some { transaction with
        savepoints := transaction.writes :: transaction.savepoints })
  | .release number =>
    (world.idle number).map fun transaction =>
      world.set number (some { transaction with savepoints := transaction.savepoints.tail })
  | .rollbackToSavepoint number =>
    (world.idle number).bind (rollbackToSavepointStep world number)
  | .append number draft eventId now =>
    (world.idle number).map (appendStep contracts world number draft eventId now)
  | .updateRun number => (world.transaction number).bind (updateRunStep world number)
  | .upsertHead number => (world.transaction number).bind (upsertHeadStep world number)
  | .insertEvent number => (world.transaction number).bind (insertEventStep contracts world number)
  | .failAppend number => (world.transaction number).bind (failAppendStep world number)
  | .commit number => (world.idle number).map (commitStep world number)
  | .rollback number => (world.transaction number).map fun _ => world.set number none

def fresh : World := ⟨⟨fun _ => none, fun _ => none, [], []⟩, []⟩

def eventLog (contracts : Contracts) : System World Action :=
  System.ofPartial (· = fresh) (perform contracts)

end Obsion.Events
