import Obsion.Knowledge.Sync.Rows

/-! # Fenced scheduling

`claimSource` leases a due source to a worker; `checkpointSource` commits one unit
of its work.  A checkpoint names the token and the generation of its claim and
changes nothing unless the source still has them. -/

namespace Obsion.Knowledge.Sync

open Obsion.Lib

def workLeaseSeconds : Int := 120

structure Claim where
  sourceId : Uuid
  organizationId : Uuid
  userId : Uuid
  token : Uuid
  generation : Nat
  scanState : Option ScanState
  deriving DecidableEq, Repr

def leaseIdle (now : Time) (source : KnowledgeSyncSource) : Bool :=
  source.lease.all fun lease => lease.expiresAt ≤ now

def claimable (now : Time) (source : KnowledgeSyncSource) : Bool :=
  source.active && source.nextPollAt ≤ now && leaseIdle now source

/-- A claim without a persisted scan starts the next generation. -/
def claimed (now : Time) (token : Uuid) (source : KnowledgeSyncSource) : KnowledgeSyncSource :=
  { source with
    lease := some ⟨token, now + seconds workLeaseSeconds⟩
    generation := source.generation + if source.scanState.isSome then 0 else 1
    scanStartedAt := if source.scanState.isSome then source.scanStartedAt else some now }

def claimOf (token : Uuid) (source : KnowledgeSyncSource) : Claim where
  sourceId := source.id
  organizationId := source.organizationId
  userId := source.userId
  token := token
  generation := source.generation
  scanState := source.scanState

/-- Workers skip the rows that others have locked, so each of the due sources may be
the first one a worker finds. -/
def claimSource (now : Time) (sourceId token : Uuid) (sources : Sources) :
    Option (Claim × Sources) :=
  (sources.get? sourceId).bind fun source =>
    if claimable now source then
      let next := claimed now token source
      some (claimOf token next, sources.put next)
    else none

def held (now : Time) (claim : Claim) (source : KnowledgeSyncSource) : Bool :=
  source.active && source.generation = claim.generation &&
    source.lease.any fun lease => lease.token = claim.token && now < lease.expiresAt

def locked (now : Time) (claim : Claim) (sources : Sources) : Option KnowledgeSyncSource :=
  (sources.get? claim.sourceId).filter fun source =>
    source.organizationId = claim.organizationId && held now claim source

inductive Checkpoint
  | unit (scanState : ScanState)
  | complete (enumerationComplete : Bool)
  deriving DecidableEq, Repr

def released (now : Time) (claim : Claim) (source : KnowledgeSyncSource) :
    Checkpoint → KnowledgeSyncSource
  | .unit scanState =>
    { source with scanState := some scanState, lease := none, nextPollAt := now }
  | .complete _ =>
    { source with
      scanState := none, lease := none, nextPollAt := now + seconds 60, lastSuccessAt := some now
      completedScanStartedAt := source.scanStartedAt
      completedGeneration := source.scanStartedAt.map fun _ => claim.generation }

/-- The sweep of a completed scan over the items it did not see. -/
def swept (claim : Claim) (source : KnowledgeSyncSource) (item : KnowledgeSyncItem) :
    KnowledgeSyncItem :=
  if item.sourceId = source.id ∧ item.organizationId = source.organizationId
      ∧ item.seenGeneration ≠ claim.generation then
    { item with status := .missing, accessExpiresAt := none }
  else item

lemma key_swept (claim : Claim) (source : KnowledgeSyncSource) (item : KnowledgeSyncItem) :
    (swept claim source item).key = item.key := by
  unfold swept
  split <;> rfl

/-- `none` where the fence rejects the checkpoint. -/
def checkpointSource (now : Time) (claim : Claim) (checkpoint : Checkpoint) (store : Store) :
    Except ObsionError (Option Store) :=
  if checkpoint = .complete false then
    .error (validationError "dingtalk_docs_operation_invalid"
      "A partial scan cannot mark missing documents")
  else
    match (store.sources.get? claim.sourceId).filter (held now claim) with
    | none => .ok none
    | some source =>
      let sources := store.sources.put (released now claim source checkpoint)
      match checkpoint with
      | .unit _ => .ok (some { store with sources })
      | .complete _ =>
        .ok (some { store with
          sources := sources
          items := store.items.update (swept claim source) (key_swept claim source) })

end Obsion.Knowledge.Sync
