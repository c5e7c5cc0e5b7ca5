import Obsion.Knowledge.Ingest

/-! # Managed knowledge sources

A source keeps the durable state of its scan between the transactions of its
worker; an item is one node of the directory.  The lease token and its expiry are
both set or both missing, so a source has a lease or none. -/

namespace Obsion.Knowledge.Sync

open Obsion.Lib

inductive Stage
  | workspaces
  | nodes
  | read
  deriving DecidableEq, Repr

/-- The children of one node that are still to be listed. -/
structure QueueEntry where
  workspaceId : String
  parentId : String
  cursor : Option String
  seenCursors : List String
  depth : Nat
  deriving DecidableEq, Repr

structure ScanState where
  stage : Stage
  cursor : Option String
  seenCursors : List String
  queue : List QueueEntry
  workspaces : List String
  enumerationComplete : Bool
  failures : Option Nat
  deriving DecidableEq, Repr

def ScanState.fresh : ScanState where
  stage := .workspaces
  cursor := none
  seenCursors := []
  queue := []
  workspaces := []
  enumerationComplete := false
  failures := none

structure Lease where
  token : Uuid
  expiresAt : Time
  deriving DecidableEq, Repr

structure KnowledgeSyncSource where
  id : Uuid
  organizationId : Uuid
  principalBindingId : Uuid
  userId : Uuid
  corpId : String
  active : Bool
  generation : Nat
  scanState : Option ScanState
  nextPollAt : Time
  lease : Option Lease
  lastSuccessAt : Option Time
  lastErrorCode : Option String
  scanStartedAt : Option Time
  completedScanStartedAt : Option Time
  completedGeneration : Option Nat
  deriving DecidableEq, Repr

inductive ItemStatus
  | pending
  | ready
  | partial_
  | denied
  | missing
  | failed
  deriving DecidableEq, Repr

structure KnowledgeSyncItem where
  organizationId : Uuid
  sourceId : Uuid
  nodeId : String
  workspaceId : String
  kind : String
  title : String
  seenGeneration : Nat
  readGeneration : Nat
  status : ItemStatus
  documentId : Option Uuid
  sourceRevision : Option String
  gaps : List String
  checkedAt : Option Time
  accessExpiresAt : Option Time
  lastErrorCode : Option String
  deriving DecidableEq, Repr

def KnowledgeSyncItem.key (item : KnowledgeSyncItem) : Uuid × String := (item.sourceId, item.nodeId)

abbrev Sources := Table KnowledgeSyncSource.id

abbrev Items := Table KnowledgeSyncItem.key

/-- The rows that the transactions of the worker read and write. -/
structure Store where
  sources : Sources
  items : Items
  documents : Tables

structure WorkspaceRecord where
  workspaceId : String
  rootNodeId : String
  title : String
  deriving DecidableEq, Repr

structure NodeRecord where
  workspaceId : String
  nodeId : String
  title : String
  kind : String
  hasChildren : Bool
  deriving DecidableEq, Repr

/-- A page echoes the stage and the parent it was asked for. -/
inductive Page
  | workspaces (items : List WorkspaceRecord)
  | nodes (workspaceId parentId : String) (items : List NodeRecord)
  deriving DecidableEq, Repr

structure ReadOutput where
  nodeId : String
  workspaceId : String
  title : String
  revision : String
  text : Option String
  complete : Bool
  gaps : List String
  parserVersion : String
  rawChecksumSha256 : String
  /-- The text of `observed_at`, and the instant it parses to with its zone. -/
  observedText : String
  observedAt : Option Time
  deriving DecidableEq, Repr

inductive OutputBody
  | discovery (page : Page) (cursor : Option String)
  | read (output : ReadOutput)
  deriving DecidableEq, Repr

structure Output where
  adapter : String
  corpId : String
  bindingId : String
  readerUserId : String
  body : OutputBody
  deriving DecidableEq, Repr

inductive GatewayStatus
  | completed
  | denied
  | waitingApproval
  | failed
  deriving DecidableEq, Repr

structure GatewayResult where
  status : GatewayStatus
  policyDecisionId : Option Uuid
  output : Option Output
  errorCode : Option String
  connectorId : Option Uuid
  deriving DecidableEq, Repr

def managedConnectorType : String := "dingtalk-managed-development"

def managedReadOperation : String := "knowledge.dingtalk.read"

def responseError (message : String) : ObsionError :=
  ⟨.other, "dingtalk_docs_response_invalid", message⟩

def Output.governed (output : Output) (result : GatewayResult) (source : KnowledgeSyncSource)
    (connectorId : Uuid) : Bool :=
  result.connectorId = some connectorId && result.policyDecisionId.isSome &&
    output.adapter = managedConnectorType && output.corpId = source.corpId &&
    output.bindingId = source.principalBindingId.str && output.readerUserId = source.userId.str

end Obsion.Knowledge.Sync
