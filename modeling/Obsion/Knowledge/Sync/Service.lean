import Obsion.Knowledge.Sync.Queue

/-! # Acceptance of governed reads, and the administration of sources

The current state of connectors, installations, bindings and policies is outside:
`checks` is what they answer to a transaction, and the connector they name. -/

namespace Obsion.Knowledge.Sync

open Obsion.Lib
open Obsion.Events (Classification)

def accessLeaseSeconds : Int := 300

/-- An error of a transaction: one of the service's own, or an exception that ends
the tick. -/
inductive Fault
  | refused (error : ObsionError)
  | crashed
  deriving DecidableEq, Repr

/-- The principal and the connector that the checks of a transaction found. -/
structure Admission where
  principal : Principal
  connectorId : Uuid
  connectorName : String
  deriving DecidableEq, Repr

/-- What an accepting transaction draws and meets besides the rows. -/
structure AcceptArgs where
  checks : Except ObsionError Admission
  codecs : Codecs
  documentId : Uuid
  versionId : Uuid
  chunkIds : Nat → Uuid
  embed : Except ObsionError Unit
  put : Except ObsionError Unit

def provenance (read : ReadOutput) : List String :=
  [read.nodeId, read.workspaceId, read.title, read.revision, read.parserVersion,
    read.rawChecksumSha256, read.observedText]

/-- The checks of a read result, and the instant it was observed at. -/
def acceptable (now : Time) (read : ReadOutput) : Except ObsionError Time :=
  if (provenance read).any fun text => strip text = "" then
    .error (responseError "The reader omitted source provenance")
  else
    match read.observedAt with
    | none => .error (responseError "The reader timestamp is invalid")
    | some observedAt =>
      if now - seconds accessLeaseSeconds < observedAt ∧ observedAt ≤ now then .ok observedAt
      else .error (responseError "The reader authorization is stale")

def blankItem (source : KnowledgeSyncSource) (nodeId workspaceId kind title : String) :
    KnowledgeSyncItem where
  organizationId := source.organizationId
  sourceId := source.id
  nodeId := nodeId
  workspaceId := workspaceId
  kind := kind
  title := title
  seenGeneration := 0
  readGeneration := 0
  status := .pending
  documentId := none
  sourceRevision := none
  gaps := []
  checkedAt := none
  accessExpiresAt := none
  lastErrorCode := none

def observed (source : KnowledgeSyncSource) (read : ReadOutput) (observedAt : Time)
    (item : KnowledgeSyncItem) : KnowledgeSyncItem :=
  { item with
    title := read.title, workspaceId := read.workspaceId, seenGeneration := source.generation
    readGeneration := source.generation, sourceRevision := some read.revision
    checkedAt := some observedAt, gaps := read.gaps, status := .pending, accessExpiresAt := none }

def readable (read : ReadOutput) : Bool := read.complete && read.gaps.isEmpty

/-- The call of `KnowledgeService.ingest` for a complete read. -/
def ingestCall (args : AcceptArgs) (admission : Admission) (result : GatewayResult)
    (source : KnowledgeSyncSource) (read : ReadOutput) (body : String) : IngestCall where
  principal := admission.principal
  source := managedKnowledgeSource
  externalId := source.id.str ++ ":" ++ read.nodeId
  title := read.title
  mediaType := "text/plain"
  filename := read.nodeId ++ ".txt"
  content := body.toUTF8.data.toList
  classification := .restricted
  acl := [("organization", .bool false), ("users", .arr [.str admission.principal.id.str])]
  extraMetadata :=
    [("revision_id", .str read.revision), ("source_id", .str source.id.str),
      ("corp_id", .str source.corpId), ("external_id", .str read.nodeId),
      ("source_parser", .str read.parserVersion),
      ("raw_checksum_sha256", .str read.rawChecksumSha256),
      ("reader_policy_decision_id", .str ((result.policyDecisionId.map Uuid.str).getD "None")),
      ("connector_name", .str admission.connectorName),
      ("connector_id", .str admission.connectorId.str), ("operation", .str managedReadOperation)]
  documentId := args.documentId
  versionId := args.versionId
  chunkIds := args.chunkIds
  embed := args.embed
  put := args.put

def leased (observedAt : Time) (documentId : Uuid) (item : KnowledgeSyncItem) : KnowledgeSyncItem :=
  { item with
    documentId := some documentId, status := .ready
    accessExpiresAt := some (observedAt + seconds accessLeaseSeconds) }

def ingested (answer : Except IngestFault (Tables × Document × DocumentVersion × Nat)) :
    Except Fault (Tables × Document × DocumentVersion × Nat) :=
  answer.mapError fun
    | .refused error => .refused error
    | .integrity => .crashed

def publishRead (args : AcceptArgs) (admission : Admission) (result : GatewayResult)
    (source : KnowledgeSyncSource) (read : ReadOutput) (observedAt : Time)
    (item : KnowledgeSyncItem) (documents : Tables) :
    Except Fault (KnowledgeSyncItem × Tables) :=
  match read.text.filter fun body => strip body != "" with
  | none => .error (.refused (validationError "document_parse_failed"
      "The source has no usable text"))
  | some body => do
      let (after, document, _, _) ← ingested
        (ingest args.codecs (ingestCall args admission result source read body) documents)
      return (leased observedAt document.id item, after)

def acceptRead (now : Time) (args : AcceptArgs) (admission : Admission) (result : GatewayResult)
    (output : Output) (read : ReadOutput) (source : KnowledgeSyncSource) (store : Store) :
    Except Fault Store :=
  if source.userId ≠ admission.principal.id
      ∨ source.organizationId ≠ admission.principal.organizationId ∨ source.active = false then
    .error (.refused (notFoundError "Knowledge source"))
  else if output.governed result source admission.connectorId = false
      ∨ result.status ≠ .completed then
    .error (.refused (responseError "The governed reader result is invalid"))
  else do
    let observedAt ← (acceptable now read).mapError .refused
    let former := (store.items.get? (source.id, read.nodeId)).getD
      (blankItem source read.nodeId read.workspaceId "adoc" read.title)
    let item := observed source read observedAt former
    if readable read then
      let (item, documents) ←
        publishRead args admission result source read observedAt item store.documents
      return { store with items := store.items.put item, documents }
    else
      return { store with items := store.items.put { item with status := .partial_ } }

def registered (now : Time) (id : Uuid) (principal : Principal) (bindingId : Uuid)
    (corpId : String) : KnowledgeSyncSource where
  id := id
  organizationId := principal.organizationId
  principalBindingId := bindingId
  userId := principal.id
  corpId := corpId
  active := true
  generation := 0
  scanState := none
  nextPollAt := now
  lease := none
  lastSuccessAt := none
  lastErrorCode := none
  scanStartedAt := none
  completedScanStartedAt := none
  completedGeneration := none

def ownSource (principal : Principal) (sourceId : Uuid) (sources : Sources) :
    Except ObsionError KnowledgeSyncSource :=
  match (sources.get? sourceId).filter fun source =>
      source.organizationId = principal.organizationId && source.userId = principal.id with
  | none => .error (notFoundError "Knowledge source")
  | some source => .ok source

def disableSource (principal : Principal) (sourceId : Uuid) (checks : Except ObsionError Unit)
    (store : Store) : Except ObsionError Store := do
  let source ← ownSource principal sourceId store.sources
  checks
  return { store with sources := store.sources.put { source with active := false, lease := none } }

/-- A stopped source that is resumed gives up the leases of its items. -/
def suspended (source : KnowledgeSyncSource) (item : KnowledgeSyncItem) : KnowledgeSyncItem :=
  if item.sourceId = source.id ∧ item.status = .ready then
    { item with status := .pending, accessExpiresAt := none }
  else item

lemma key_suspended (source : KnowledgeSyncSource) (item : KnowledgeSyncItem) :
    (suspended source item).key = item.key := by
  unfold suspended
  split <;> rfl

def scheduled (now : Time) (source : KnowledgeSyncSource) : KnowledgeSyncSource :=
  { source with
    active := true, scanState := none, lease := none, nextPollAt := now, lastErrorCode := none }

def scheduleSource (now : Time) (principal : Principal) (sourceId : Uuid) (resume : Bool)
    (checks : Except ObsionError Unit) (store : Store) : Except ObsionError Store := do
  let source ← ownSource principal sourceId store.sources
  checks
  if source.active = false ∧ resume = false then
    .error (validationError "dingtalk_docs_operation_invalid" "Resume the paused source first")
  else
    let items :=
      if source.active then store.items
      else store.items.update (suspended source) (key_suspended source)
    return { store with sources := store.sources.put (scheduled now source), items }

end Obsion.Knowledge.Sync
