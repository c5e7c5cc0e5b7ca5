import Obsion.Knowledge.Sync.Queue

/-! # Live proofs

A question waits until every source of its principal has completed a scan that
started after the question was asked.  Waiting reads the receipts of completed scans
and advances the poll time of idle sources. -/

namespace Obsion.Knowledge.Sync

open Obsion.Lib

structure SourceScanReceipt where
  sourceId : Uuid
  generation : Nat
  startedAt : Time
  completedAt : Time
  deriving DecidableEq, Repr

structure LiveKnowledgeProof where
  requestedAt : Time
  sources : List SourceScanReceipt
  incompleteDocuments : Nat
  deriving DecidableEq, Repr

def fresh (requestedAt : Time) (receipts : List SourceScanReceipt) (organizationId : Uuid)
    (item : KnowledgeSyncItem) : Bool :=
  item.organizationId = organizationId && item.status = .ready &&
    (item.checkedAt.any fun checkedAt => requestedAt ≤ checkedAt) &&
    receipts.any fun receipt =>
      item.sourceId = receipt.sourceId && receipt.generation ≤ item.readGeneration

def LiveKnowledgeProof.clause (proof : LiveKnowledgeProof) (principal : Principal) (items : Items)
    (document : Document) : Bool :=
  !proof.sources.isEmpty && items.rows.any fun item =>
    item.documentId = some document.id &&
      fresh proof.requestedAt proof.sources principal.organizationId item

/-- The receipt of a scan that started at or after the request. -/
def receipt? (now requestedAt : Time) (source : KnowledgeSyncSource) : Option SourceScanReceipt := do
  let generation ← source.completedGeneration
  let startedAt ← source.completedScanStartedAt
  let completedAt ← source.lastSuccessAt
  if 0 < generation ∧ generation ≤ source.generation ∧ requestedAt ≤ startedAt
      ∧ startedAt ≤ completedAt ∧ completedAt ≤ now then
    some ⟨source.id, generation, startedAt, completedAt⟩
  else none

inductive LiveAnswer
  | proof (proof : LiveKnowledgeProof)
  | unavailable (reason : String)
  | waiting (lastFailure : Bool) (sources : Sources)

def container (item : KnowledgeSyncItem) : Bool := item.kind ∈ ["folder", "directory"]

def incompleteItem (sourceIds : List Uuid) (organizationId : Uuid) (item : KnowledgeSyncItem) :
    Bool :=
  item.organizationId = organizationId && item.sourceId ∈ sourceIds && !container item &&
    item.status ∉ [ItemStatus.ready, ItemStatus.missing]

/-- `update(KnowledgeSyncSource)...values(next_poll_at=now)` -/
def demanded (now : Time) (current : Principal) (stale : List Uuid)
    (source : KnowledgeSyncSource) : KnowledgeSyncSource :=
  if source.organizationId = current.organizationId ∧ source.userId = current.id
      ∧ source.id ∈ stale ∧ source.active ∧ now < source.nextPollAt ∧ leaseIdle now source then
    { source with nextPollAt := now }
  else source

lemma id_demanded (now : Time) (current : Principal) (stale : List Uuid)
    (source : KnowledgeSyncSource) : (demanded now current stale source).id = source.id := by
  unfold demanded
  split <;> rfl

/-- The active sources of a principal; the query orders them and stops at 17. -/
def ownSources (current : Principal) (sources : Sources) : List KnowledgeSyncSource :=
  sources.select fun source =>
    source.organizationId = current.organizationId && source.userId = current.id && source.active

/-- One round of `await_live_sources`; `known` holds the sources of the first round. -/
def awaitRound (now : Time) (current : Principal) (requestedAt : Time)
    (known : Option (List Uuid)) (expired : Bool) (store : Store) : LiveAnswer :=
  let sources := (ownSources current store.sources).take 17
  let observed := sources.map KnowledgeSyncSource.id
  let receipts := sources.filterMap (receipt? now requestedAt)
  if current.can "knowledge.read" = false then .unavailable "source_access_unavailable"
  else if sources.isEmpty then .unavailable "source_not_configured"
  else if 16 < sources.length then .unavailable "source_scope_exceeds_budget"
  else if known.any fun ids => !(ids.all (· ∈ observed) && observed.all (· ∈ ids)) then
    .unavailable "source_scope_changed"
  else if receipts.length = sources.length then
    let incomplete :=
      (store.items.select (incompleteItem observed current.organizationId)).length
    let readable := store.items.rows.any fun item =>
      item.documentId.isSome && !container item &&
        (item.accessExpiresAt.any fun expiresAt => now < expiresAt) &&
        fresh requestedAt receipts current.organizationId item
    if incomplete ≠ 0 ∧ readable = false then .unavailable "source_content_unavailable"
    else .proof ⟨requestedAt, receipts, incomplete⟩
  else
    let lastFailure := sources.any fun source => source.lastErrorCode.isSome
    if expired then
      .unavailable (if lastFailure then "source_refresh_failed" else "source_refresh_timeout")
    else
      let ready := receipts.map SourceScanReceipt.sourceId
      let stale := observed.filter (· ∉ ready)
      .waiting lastFailure
        (store.sources.update (demanded now current stale) (id_demanded now current stale))

end Obsion.Knowledge.Sync
