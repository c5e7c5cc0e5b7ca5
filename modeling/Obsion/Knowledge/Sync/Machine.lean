import Obsion.Knowledge.Sync.Live
import Obsion.Knowledge.Sync.Worker

/-! # Sources, workers and waiting requests

A worker is known by the token of its claim; each of its transactions is one
action, and it may be interrupted or crash between them.  A transaction holds the row
lock of its source, so that the time it takes is the only thing that happens during
it. -/

namespace Obsion.Knowledge.Sync

open Obsion.Lib

inductive Phase
  | claimed
  | calling (payload : Payload) (connectorId : Uuid)
  | returned (payload : Payload) (connectorId : Uuid) (result : GatewayResult)
  | failing (failure : Failure)
  deriving DecidableEq, Repr

structure Job where
  claim : Claim
  phase : Phase
  deriving DecidableEq, Repr

def Job.token (job : Job) : Uuid := job.claim.token

structure World where
  now : Time
  store : Store
  jobs : Table Job.token

inductive Action
  | elapse (duration : Nat)
  | ingest (codecs : Codecs) (call : IngestCall)
  | register (id : Uuid) (principal : Principal) (bindingId : Uuid) (corpId : String)
  | claim (sourceId token : Uuid)
  | prepare (token : Uuid) (checks : Except ObsionError Uuid) (preferred : String) (elapsed : Nat)
  | answer (token : Uuid) (result : GatewayResult)
  | accept (token : Uuid) (args : AcceptArgs) (elapsed checkpointed : Nat)
  | interrupt (token : Uuid)
  | fail (token : Uuid) (elapsed : Nat)
  | crash (token : Uuid)
  | disable (principal : Principal) (sourceId : Uuid) (checks : Except ObsionError Unit)
  | schedule (principal : Principal) (sourceId : Uuid) (resume : Bool)
      (checks : Except ObsionError Unit)
  | await (current : Principal) (requestedAt : Time) (known : Option (List Uuid)) (expired : Bool)

def Phase.nodeId? : Phase → Option String
  | .calling payload _ => payload.nodeId?
  | .returned payload _ _ => payload.nodeId?
  | _ => none

def unavailableCode : String := "dingtalk_docs_upstream_unavailable"

def refusedCall (payload : Payload) (result : GatewayResult) : Failure where
  nodeId := payload.nodeId?
  code := result.errorCode.getD unavailableCode
  denied := result.status = .denied || result.errorCode.any fun code =>
    code ∈ ["dingtalk_docs_upstream_denied", "knowledge_write_denied", "capability_denied"]

/-- A token that neither a tick nor a source holds: tokens are never drawn twice. -/
def unusedToken (world : World) (token : Uuid) : Bool :=
  (world.jobs.get? token).isNone &&
    world.store.sources.rows.all fun source => source.lease.all fun lease => lease.token ≠ token

def World.endJob (world : World) (token : Uuid) : World :=
  { world with jobs := world.jobs.delete fun job => job.token = token }

def World.moveJob (world : World) (job : Job) (phase : Phase) : World :=
  { world with jobs := world.jobs.put { job with phase } }

/-- The transaction that checks the source and chooses the next call. -/
def prepareTick (world : World) (job : Job) (checks : Except ObsionError Uuid)
    (preferred : String) (elapsed : Nat) : World :=
  match locked world.now job.claim world.store.sources with
  | none => world.endJob job.token
  | some source =>
    let called : Except ObsionError (Uuid × Prepared) := do
      let connectorId ← checks
      let prepared ← nextCall job.claim.state source world.store.items preferred
      return (connectorId, prepared)
    match called with
    | .error error => world.moveJob job (.failing (failureOf none error))
    | .ok (connectorId, .call payload) => world.moveJob job (.calling payload connectorId)
    | .ok (_, .complete enumerationComplete) =>
      let later := world.now + elapsed
      match checkpointSource later job.claim (.complete enumerationComplete) world.store with
      | .error error => world.moveJob job (.failing (failureOf none error))
      | .ok none => world.endJob job.token
      | .ok (some store) => { world.endJob job.token with now := later, store }

def perform (world : World) : Action → Option World
  | .elapse duration => some { world with now := world.now + duration }
  | .ingest codecs call =>
    (ingest codecs call world.store.documents).toOption.map fun result =>
      { world with store := { world.store with documents := result.1 } }
  | .register id principal bindingId corpId =>
    (world.store.sources.insert? (registered world.now id principal bindingId corpId)).map
      fun sources => { world with store := { world.store with sources } }
  | .claim sourceId token =>
    if unusedToken world token then
      (claimSource world.now sourceId token world.store.sources).map fun found =>
        { world with
          store := { world.store with sources := found.2 }
          jobs := world.jobs.put ⟨found.1, .claimed⟩ }
    else none
  | .prepare token checks preferred elapsed =>
    (world.jobs.get? token).bind fun job =>
      match job.phase with
      | .claimed => some (prepareTick world job checks preferred elapsed)
      | _ => none
  | .answer token result =>
    (world.jobs.get? token).bind fun job =>
      match job.phase with
      | .calling payload connectorId =>
        some (world.moveJob job
          (if result.status = .completed then .returned payload connectorId result
            else .failing (refusedCall payload result)))
      | _ => none
  | .accept token args elapsed checkpointed =>
    (world.jobs.get? token).bind fun job =>
      match job.phase with
      | .returned payload connectorId result =>
        let now := world.now + elapsed
        let later := now + checkpointed
        match acceptTick world.now now later job.claim payload result connectorId args
            world.store with
        | .error (.refused error) =>
          some (world.moveJob job (.failing (failureOf payload.nodeId? error)))
        | .error .crashed => some (world.endJob token)
        | .ok none => some (world.endJob token)
        | .ok (some store) => some { world.endJob token with now := later, store }
      | _ => none
  | .interrupt token =>
    (world.jobs.get? token).bind fun job =>
      match job.phase with
      | .failing _ => none
      | phase => some (world.moveJob job (.failing ⟨phase.nodeId?, unavailableCode, false⟩))
  | .fail token elapsed =>
    (world.jobs.get? token).bind fun job =>
      match job.phase with
      | .failing failure =>
        let later := world.now + elapsed
        match failTick world.now later job.claim failure world.store with
        | none => some (world.endJob token)
        | some store => some { world.endJob token with now := later, store }
      | _ => none
  | .crash token => (world.jobs.get? token).map fun job => world.endJob job.token
  | .disable principal sourceId checks =>
    (disableSource principal sourceId checks world.store).toOption.map fun store =>
      { world with store }
  | .schedule principal sourceId resume checks =>
    (scheduleSource world.now principal sourceId resume checks world.store).toOption.map
      fun store => { world with store }
  | .await current requestedAt known expired =>
    match awaitRound world.now current requestedAt known expired world.store with
    | .waiting _ sources => some { world with store := { world.store with sources } }
    | _ => some world

def Blank (world : World) : Prop :=
  world.store.sources = .empty ∧ world.store.items = .empty ∧ world.jobs = .empty

def sync : System World Action := System.ofPartial Blank perform

end Obsion.Knowledge.Sync
