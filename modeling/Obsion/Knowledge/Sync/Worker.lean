import Obsion.Knowledge.Sync.Service

/-! # The worker

A tick claims a source, prepares one call, hands it to the gateway and accepts the
result, each in a transaction of its own.  The state of the scan that a tick works
on is a copy of the one it claimed. -/

namespace Obsion.Knowledge.Sync

open Obsion.Lib

inductive Payload
  | workspaces (cursor : Option String)
  | nodes (workspaceId parentId : String) (cursor : Option String)
  | read (workspaceId nodeId : String)
  deriving DecidableEq, Repr

def Payload.nodeId? : Payload → Option String
  | .read _ nodeId => some nodeId
  | _ => none

def Claim.state (claim : Claim) : ScanState := claim.scanState.getD .fresh

inductive Prepared
  | call (payload : Payload)
  | complete (enumerationComplete : Bool)
  deriving DecidableEq, Repr

def unread (source : KnowledgeSyncSource) (item : KnowledgeSyncItem) : Bool :=
  item.sourceId = source.id && item.seenGeneration = source.generation &&
    item.readGeneration ≠ source.generation && item.kind = "adoc"

/-- The next call of a scan.  Items are ordered by random identifiers: `preferred`
stands for the one that comes first. -/
def nextCall (state : ScanState) (source : KnowledgeSyncSource) (items : Items)
    (preferred : String) : Except ObsionError Prepared :=
  match state.stage with
  | .read =>
    let waiting := items.select (unread source)
    match (waiting.find? fun item => item.nodeId = preferred).or waiting.head? with
    | none => .ok (.complete state.enumerationComplete)
    | some item => .ok (.call (.read item.workspaceId item.nodeId))
  | .workspaces => .ok (.call (.workspaces state.cursor))
  | .nodes =>
    match state.queue with
    | [] => .error (responseError "Invalid durable scan state")
    | parent :: _ => .ok (.call (.nodes parent.workspaceId parent.parentId parent.cursor))

def repeatedCursor (cursor : Option String) (former : Option String) (seen : List String) : Bool :=
  cursor.any fun text => strip text = "" || some text = former || text ∈ seen

def acceptWorkspaces : List WorkspaceRecord → ScanState → Except ObsionError ScanState
  | [], state => .ok state
  | record :: rest, state =>
    if record.workspaceId ∈ state.workspaces then
      .error (responseError "Discovery repeated a workspace")
    else
      acceptWorkspaces rest
        { state with
          workspaces := state.workspaces ++ [record.workspaceId]
          queue := state.queue ++ [⟨record.workspaceId, record.rootNodeId, none, [], 0⟩] }

def seenNow (source : KnowledgeSyncSource) (items : Items) (nodeId : String) : Bool :=
  (items.get? (source.id, nodeId)).any fun item => item.seenGeneration = source.generation

/-- The item of a listed node; a READY document keeps its access lease. -/
def visited (source : KnowledgeSyncSource) (record : NodeRecord) (former : KnowledgeSyncItem) :
    KnowledgeSyncItem :=
  let preserve := former.status = .ready ∧ former.kind = record.kind ∧ record.kind = "adoc"
    ∧ former.workspaceId = record.workspaceId
  { former with
    workspaceId := record.workspaceId, title := record.title, kind := record.kind
    seenGeneration := source.generation
    accessExpiresAt := if preserve then former.accessExpiresAt else none
    status :=
      if preserve then former.status else if record.kind = "adoc" then .pending else .partial_
    gaps :=
      if record.kind = "adoc" then []
      else [if record.kind = "folder" then "container" else "unsupported_format"]
    lastErrorCode := none }

def visit (source : KnowledgeSyncSource) (record : NodeRecord) (items : Items) : Items :=
  items.put (visited source record ((items.get? (source.id, record.nodeId)).getD
    (blankItem source record.nodeId record.workspaceId record.kind record.title)))

def depthBudget : Nat := 64

def acceptNodes (source : KnowledgeSyncSource) (depth : Nat) :
    List NodeRecord → ScanState → Items → Except ObsionError (ScanState × Items)
  | [], state, items => .ok (state, items)
  | record :: rest, state, items =>
    if seenNow source items record.nodeId then
      .error (responseError "Discovery repeated a node or found a cycle")
    else if record.hasChildren ∧ depthBudget ≤ depth then
      .error (responseError "Discovery exceeded its depth budget")
    else
      let queued : ScanState :=
        if record.hasChildren then
          { state with
            queue := state.queue ++ [⟨record.workspaceId, record.nodeId, none, [], depth + 1⟩] }
        else state
      acceptNodes source depth rest queued (visit source record items)

/-- `if not state["queue"]: ...` -/
def closeEnumeration (state : ScanState) : ScanState :=
  if state.queue.isEmpty then { state with stage := .read, enumerationComplete := true } else state

/-- `_page`: what a page makes of the scan and of the items. -/
def acceptPage (source : KnowledgeSyncSource) (state : ScanState) (items : Items) (page : Page)
    (cursor : Option String) (payload : Payload) : Except ObsionError (ScanState × Items) :=
  let invalid := responseError "Invalid governed discovery result"
  let stalled := responseError "Discovery cursor did not advance"
  let more := cursor.toList
  match state.stage, page, payload with
  | .workspaces, .workspaces records, .workspaces former =>
    if repeatedCursor cursor former state.seenCursors then .error stalled
    else do
      let listed ← acceptWorkspaces records
        { state with cursor := cursor, seenCursors := state.seenCursors ++ more }
      return (if cursor.isSome then listed else closeEnumeration { listed with stage := .nodes }, items)
  | .nodes, .nodes workspaceId parentId records, .nodes askedWorkspace askedParent former =>
    match state.queue with
    | [] => .error invalid
    | active :: rest =>
      if workspaceId ≠ askedWorkspace ∨ parentId ≠ askedParent then .error invalid
      else if repeatedCursor cursor former active.seenCursors then .error stalled
      else do
        let advanced : QueueEntry :=
          { active with cursor := cursor, seenCursors := active.seenCursors ++ more }
        let (listed, items) ← acceptNodes source active.depth records
          { state with queue := advanced :: rest } items
        return (if cursor.isSome then listed
          else closeEnumeration { listed with queue := listed.queue.tail }, items)
  | _, _, _ => .error invalid

/-! ## Failures -/

def safeCode (code : String) : String :=
  if code ∈ ["dingtalk_docs_upstream_denied", "capability_denied"] then
    "dingtalk_docs_upstream_denied"
  else if code ∈ ["dingtalk_docs_response_invalid", "capability_output_invalid"] then
    "dingtalk_docs_response_invalid"
  else if code ∈ ["capability_rate_limited", "credential_unavailable", "knowledge_write_denied",
      "document_parse_failed", "artifact_store_unavailable", "resource_not_found"] then code
  else "dingtalk_docs_upstream_unavailable"

structure Failure where
  nodeId : Option String
  code : String
  denied : Bool
  deriving DecidableEq, Repr

def Failure.status (failure : Failure) : ItemStatus := if failure.denied then .denied else .failed

def failureOf (nodeId : Option String) (error : ObsionError) : Failure :=
  ⟨nodeId, error.code, error.kind = .authorization⟩

def failedRead (source : KnowledgeSyncSource) (failure : Failure) (nodeId : String)
    (items : Items) : Items :=
  match items.get? (source.id, nodeId) with
  | none => items
  | some item =>
    items.put { item with
      readGeneration := source.generation, status := failure.status, accessExpiresAt := none
      lastErrorCode := some (safeCode failure.code) }

/-- A directory failure revokes every access lease of the source. -/
def revoked (source : KnowledgeSyncSource) (failure : Failure) (item : KnowledgeSyncItem) :
    KnowledgeSyncItem :=
  if item.sourceId = source.id then
    { item with
      accessExpiresAt := none
      status := if item.status = .ready then failure.status else item.status }
  else item

lemma key_revoked (source : KnowledgeSyncSource) (failure : Failure) (item : KnowledgeSyncItem) :
    (revoked source failure item).key = item.key := by
  unfold revoked
  split <;> rfl

def failedItems (source : KnowledgeSyncSource) (failure : Failure) (items : Items) : Items :=
  match failure.nodeId with
  | some nodeId => failedRead source failure nodeId items
  | none => items.update (revoked source failure) (key_revoked source failure)

/-- The last committed state of the scan, with the number of failed attempts. -/
def retryState (claim : Claim) (failure : Failure) : ScanState :=
  let attempts := if failure.nodeId.isSome then 1 else min ((claim.state.failures.getD 0) + 1) 8
  { claim.state with failures := some attempts }

def retryAfter (state : ScanState) : Time :=
  seconds (min 300 (2 ^ state.failures.getD 0 : Nat))

/-- `_failure`; `none` where the fence rejects it and everything is rolled back. -/
def failTick (now later : Time) (claim : Claim) (failure : Failure) (store : Store) : Option Store :=
  (locked now claim store.sources).bind fun source =>
    let persisted := retryState claim failure
    let failed := { store with items := failedItems source failure store.items }
    match checkpointSource later claim (.unit persisted) failed with
    | .error _ => none
    | .ok none => none
    | .ok (some after) =>
      (after.sources.get? claim.sourceId).map fun next =>
        { after with
          sources := after.sources.put { next with
            nextPollAt := later + retryAfter persisted
            lastErrorCode := some (safeCode failure.code) } }

def acceptResult (now : Time) (claim : Claim) (payload : Payload) (result : GatewayResult)
    (asked : Uuid) (args : AcceptArgs) (source : KnowledgeSyncSource) (store : Store) :
    Except Fault (ScanState × Store) :=
  match payload, result.output with
  | .read workspaceId nodeId, some output =>
    match output.body with
    | .read read =>
      if read.nodeId = nodeId ∧ read.workspaceId = workspaceId then do
        let admission ← args.checks.mapError .refused
        let after ← acceptRead now args admission result output read source store
        return (claim.state, after)
      else .error (.refused (responseError "Read result did not match the requested item"))
    | .discovery _ _ =>
      .error (.refused (responseError "Read result did not match the requested item"))
  | .read _ _, none =>
    .error (.refused (responseError "Read result did not match the requested item"))
  | payload, output => do
      let _ ← args.checks.mapError .refused
      match output.filter fun output => output.governed result source asked with
      | some ⟨_, _, _, _, .discovery page cursor⟩ =>
        let (state, items) ←
          (acceptPage source claim.state store.items page cursor payload).mapError .refused
        return (state, { store with items })
      | _ => .error (.refused (responseError "Invalid governed discovery result"))

/-- The accepting transaction: it locks the source, looks at the result at `now` and
checkpoints at `later`.  `none` where the fence rejects it. -/
def acceptTick (start now later : Time) (claim : Claim) (payload : Payload)
    (result : GatewayResult) (asked : Uuid) (args : AcceptArgs) (store : Store) :
    Except Fault (Option Store) :=
  match locked start claim store.sources with
  | none => .ok none
  | some source => do
      let (state, accepted) ← acceptResult now claim payload result asked args source store
      let cleared := { accepted with
        sources := accepted.sources.put { source with lastErrorCode := none } }
      (checkpointSource later claim (.unit { state with failures := none }) cleared).mapError
        .refused

end Obsion.Knowledge.Sync
