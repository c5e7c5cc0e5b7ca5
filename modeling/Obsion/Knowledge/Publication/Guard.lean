import Obsion.Knowledge.Publication.Lineage
import Obsion.Knowledge.Publication.Principals
import Obsion.Knowledge.Sync.Rows

/-! # The publication gate

Content that was made from documents is published only while its reader may read
the same versions of them.  The gate follows the evidence of the run and of its
lineage, and checks the references twice: those that came from a local index by
`checkIndexedDocuments`, those to managed documents by `check` itself. -/

namespace Obsion.Knowledge.Publication

open Obsion.Lib

structure DocumentBody where
  bodyIndex : Nat
  text : String
  metadata : Fields

def bodyCandidates (content : Fields) : List (Option Json × Fields) :=
  [(content.get? "text", content), (content.get? "content", content)] ++ match content.get? "hits" with
    | some (.arr hits) => (hits.filterMap Json.fields?).map fun hit => (hit.get? "content", hit)
    | _ => []

def bodyText : Option Json → Option String
  | some (.str text) => if strip text = "" then none else some text
  | _ => none

def documentBodies (item : Evidence) : List DocumentBody :=
  if item.evidenceType = .document then
    ((bodyCandidates item.content).filterMap fun candidate =>
      (bodyText candidate.1).map fun text => (text, candidate.2)).zipIdx.map
        fun body => ⟨body.2, body.1.1, body.1.2⟩
  else []

/-! ## The world the gate reads -/

inductive CapabilityTransport
  | internal
  | http
  | grpc
  | mcp
  | sdk
  | sqlProxy
  | agent
  | workflow
  deriving DecidableEq

structure CapabilityDefinition where
  id : Uuid
  organizationId : Uuid
  name : String

structure CapabilityVersion where
  id : Uuid
  organizationId : Uuid
  capabilityId : Uuid
  transport : CapabilityTransport

structure World where
  provenance : Provenance
  store : Sync.Store
  directory : Directory
  capabilities : Table CapabilityDefinition.id
  capabilityVersions : Table CapabilityVersion.id

/-- The evidence a caller hands in are rows of the session. -/
abbrev World.Stored (world : World) := {item : Evidence // item ∈ world.provenance.evidence}

inductive DecisionEffect
  | allow
  | mask
  | ask
  | deny
  deriving DecidableEq

inductive RiskLevel
  | l0
  | l1
  | l2
  | l3
  | l4
  | l5
  deriving DecidableEq

structure ResourcePolicyInput where
  principal : Reader
  action : String
  resource : Fields
  context : Fields
  riskLevel : RiskLevel
  resourceType : String
  runId : Option Uuid

structure CheckRequest where
  runId : Uuid
  stage : String
  expectedCorpId : Option String
  allowManaged : Bool
  linkPolicyRun : Bool

section
variable (uuid : Json → Option Uuid) (policy : ResourcePolicyInput → DecisionEffect)
  (external : Reader → Document → Bool) (world : World)

def documentId (reference : Fields) : Option Uuid :=
  uuid ((reference.get? "document_id").getD .null)

def publicationContext (stage : String) : Fields :=
  [("entrypoint", .str "knowledge-publication"), ("stage", .str stage)]

def capabilityVersionId (item : Evidence) : Option Uuid :=
  recordedId uuid item.lineage "capability_version_id"

def indexCapabilities : List String := ["knowledge.search", "document.read", "ticket.search"]

def indexedVersions (organizationId : Uuid) (wanted : List Uuid) : List Uuid :=
  ((world.capabilityVersions.select fun version =>
    version.organizationId = organizationId && version.id ∈ wanted &&
      version.transport = .internal).filter fun version =>
        world.capabilities.rows.any fun definition =>
          definition.id = version.capabilityId && definition.organizationId = organizationId &&
            definition.name ∈ indexCapabilities).map CapabilityVersion.id

/-- Even a document with no readable chunks remains a selected source. -/
def indexedMetadata (item : Evidence) : List Fields :=
  (documentBodies item).map DocumentBody.metadata ++ match item.content.get? "operation" with
    | some (.str "document.read") => [item.content]
    | _ => []

def indexedReference (reference : Fields) : Option (Uuid × Int) :=
  match documentId uuid reference, reference.get? "version" with
  | some documentId, some (.int version) =>
    if version < 1 then none else some (documentId, version)
  | _, _ => none

def sortedReferences (references : List (Uuid × Int)) : List (Uuid × Int) :=
  references.dedup.mergeSort fun left right =>
    left.1.str < right.1.str || (left.1.str = right.1.str && left.2 ≤ right.2)

def indexAllowed (current : Reader) (request : CheckRequest) (reference : Uuid × Int) : Bool :=
  let decision := policy {
    principal := current, action := "knowledge.read"
    resource := [("source", .str "document-index"), ("document_id", .str reference.1.str),
      ("run_id", .str request.runId.str)]
    context := publicationContext request.stage, riskLevel := .l1, resourceType := "document"
    runId := if request.linkPolicyRun then some request.runId else none }
  current.can "knowledge.read" && decision = .allow &&
    match getDocument (external current) current world.store.documents reference.1 with
    | .error _ => false
    | .ok (_, latest) => reference.2 = latest.version

/-- The metadata of the evidence that an internal index capability produced. -/
def indexedItems (organizationId : Uuid) (evidence : List Evidence) : List Fields :=
  let indexed := indexedVersions world organizationId
    (evidence.filterMap (capabilityVersionId uuid))
  (evidence.filter fun item => (capabilityVersionId uuid item).any (· ∈ indexed)).flatMap
    indexedMetadata

def checkIndexedDocuments (principal : Principal) (evidence : List Evidence)
    (request : CheckRequest) : Except ObsionError Bool :=
  let metadata := indexedItems uuid world principal.organizationId evidence
  let references := metadata.filterMap (indexedReference uuid)
  let valid := metadata.all fun reference => (indexedReference uuid reference).isSome
  if references.isEmpty && valid then .ok true
  else
    match loadPrincipalById world.directory principal.organizationId principal.id with
    | .error error => .error error
    | .ok current => .ok (valid &&
        (sortedReferences references).all (indexAllowed policy external world current request))

/-! ## Managed documents -/

structure Reference where
  documentId : Uuid
  version : Json
  managed : Bool

def labelled (metadata : Fields) : Bool :=
  match metadata.get? "source" with
  | some (.str source) => source = managedKnowledgeSource
  | _ => false

def reference? (metadata : Fields) : Option Reference :=
  (documentId uuid metadata).map fun documentId =>
    ⟨documentId, (metadata.get? "version").getD .null, labelled metadata⟩

def managedIds (organizationId : Uuid) (references : List Reference) : List Uuid :=
  (world.store.documents.documents.select fun document =>
    document.id ∈ references.map Reference.documentId && document.organizationId = organizationId &&
      document.source = managedKnowledgeSource).map Document.id

def syncCorps (organizationId documentId : Uuid) : List String :=
  (world.store.items.select fun item => item.documentId = some documentId).flatMap fun item =>
    (world.store.sources.select fun source =>
      source.id = item.sourceId && source.organizationId = organizationId).map
        Sync.KnowledgeSyncSource.corpId

def managedCurrent (principal : Principal) (expectedCorpId : Option String)
    (reference : Reference) (document : Document) (version : DocumentVersion) : Bool :=
  document.source = managedKnowledgeSource &&
  (match reference.version with
    | .int recorded => recorded = version.version
    | _ => false) &&
  match expectedCorpId with
  | none => true
  | some corpId =>
    (syncCorps world principal.organizationId reference.documentId).toFinset = {corpId}

/-- `for document_id, version, _ in selected: ...` -/
def revalidate (principal : Principal) (current : Reader) (expectedCorpId : Option String) :
    Bool → List Reference → Bool
  | allowed, [] => allowed
  | false, _ :: _ => false
  | true, reference :: rest =>
    match getDocument (external current) current world.store.documents reference.documentId with
    | .error _ => false
    | .ok (document, version) => revalidate principal current expectedCorpId
        (managedCurrent world principal expectedCorpId reference document version) rest

/-- The evidence handed in, and that of the lineage it does not have yet. -/
def gated (provided : List world.Stored) (inherited : List Evidence) : List Evidence :=
  provided.map Subtype.val ++ inherited.filter fun item =>
    item.id ∉ provided.map fun item => item.val.id

def bodyMetadata (evidence : List Evidence) : List Fields :=
  (evidence.flatMap documentBodies).map DocumentBody.metadata

/-- The label alone does not decide: an id may name a managed document. -/
def selectedReferences (organizationId : Uuid) (metadata : List Fields) : List Reference :=
  let references := metadata.filterMap (reference? uuid)
  references.filter fun reference =>
    reference.managed || reference.documentId ∈ managedIds world organizationId references

def check (principal : Principal) (provided : List world.Stored) (request : CheckRequest) :
    Except ObsionError Bool :=
  let inherited := runEvidenceLineage uuid world.provenance principal.organizationId request.runId
  let evidence := gated world provided (inherited.getD [])
  match checkIndexedDocuments uuid policy external world principal evidence request with
  | .error error => .error error
  | .ok indexedCurrent =>
    let invalid := inherited.isNone || (bodyMetadata evidence).any fun reference =>
      labelled reference && (documentId uuid reference).isNone
    let selected := selectedReferences uuid world principal.organizationId (bodyMetadata evidence)
    if selected.isEmpty && !invalid then .ok indexedCurrent
    else
      match loadPrincipalById world.directory principal.organizationId principal.id with
      | .error error => .error error
      | .ok current =>
        let decision := policy {
          principal := current, action := "knowledge.read"
          resource := [("source", .str managedKnowledgeSource), ("run_id", .str request.runId.str)] ++
              (request.expectedCorpId.toList.map fun corpId => ("corp_id", .str corpId))
          context := publicationContext request.stage, riskLevel := .l1
          resourceType := "knowledge_source"
          runId := if request.linkPolicyRun then some request.runId else none }
        .ok (revalidate external world principal current request.expectedCorpId
          (!invalid && indexedCurrent && request.allowManaged &&
            current.can "knowledge.read" && decision = .allow) selected)

/-- The reference carries the managed label or names a managed document. -/
def Managed (organizationId : Uuid) (reference : Fields) : Prop :=
  reference.get? "source" = some (.str managedKnowledgeSource) ∨
    ∃ document ∈ world.store.documents.documents, document.organizationId = organizationId ∧
      document.source = managedKnowledgeSource ∧ documentId uuid reference = some document.id

/-- An internal index capability of the organization produced the evidence. -/
def Indexed (organizationId : Uuid) (item : Evidence) : Prop :=
  ∃ version ∈ world.capabilityVersions, ∃ definition ∈ world.capabilities,
    version.organizationId = organizationId ∧ definition.organizationId = organizationId ∧
      definition.id = version.capabilityId ∧ version.transport = .internal ∧
      definition.name ∈ indexCapabilities ∧ capabilityVersionId uuid item = some version.id

/-- The principal, as the directory has it now, may read the document, and its
current version is the recorded one. -/
def ReadableNow (principal : Principal) (reference : Fields) : Prop :=
  ∃ current named document version,
    loadPrincipalById world.directory principal.organizationId principal.id = .ok current ∧
    current.id = principal.id ∧ documentId uuid reference = some named ∧
    getDocument (external current) current world.store.documents named = .ok (document, version) ∧
    reference.get? "version" = some (.int version.version)

end

end Obsion.Knowledge.Publication
