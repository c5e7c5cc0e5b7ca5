import Obsion.Knowledge.Documents

/-! # Ingestion

The access list of a document is stored with the document, with its chunks and as
grant rows.  `ingest` updates the copies on two paths: bytes that are known already
rewrite the copies of the current version, other bytes become a new version.
`Consistent` says that the copies of every current version agree, and that versions
are numbered without gaps; both paths keep it. -/

namespace Obsion.Knowledge

open Obsion.Lib
open Obsion.Events (Classification)

structure ParsedDocument where
  text : String
  parserVersion : String
  metadata : Fields

structure Codecs where
  documentMaxUploadBytes : Nat
  parseDocument : List UInt8 → String → String → Except ObsionError ParsedDocument
  /-- Heading path and text of each chunk; the flag keeps the DingTalk layout. -/
  chunkDocument : String → Bool → List (List String × String)
  sha256 : List UInt8 → String

/-- The arguments of a call, the identifiers it draws, and how the embedding calls
and the object store answer it. -/
structure IngestCall where
  principal : Principal
  source : String
  externalId : String
  title : String
  mediaType : String
  filename : String
  content : List UInt8
  classification : Classification
  acl : Fields
  extraMetadata : Fields
  documentId : Uuid
  versionId : Uuid
  chunkIds : Nat → Uuid
  embed : Except ObsionError Unit
  put : Except ObsionError Unit

inductive IngestFault
  | refused (error : ObsionError)
  | integrity
  deriving DecidableEq, Repr

def managedKnowledgeSource : String := "dingtalk-managed"

section
variable (codecs : Codecs)

def admissible (call : IngestCall) : Except ObsionError (Acl × ParsedDocument) :=
  if call.principal.can "knowledge.write" = false then
    .error (authorizationError "knowledge_write_denied" "Document ingestion is not permitted")
  else if codecs.documentMaxUploadBytes < call.content.length then
    .error (validationError "document_too_large" "The document exceeds the configured upload limit")
  else if call.acl.isEmpty then
    .error (validationError "document_acl_required" "An explicit document ACL is required")
  else do
    let acl ← validateAcl call.acl
    let parsed ← codecs.parseDocument call.content call.mediaType call.filename
    return (acl, parsed)

def lookupDocument (tables : Tables) (call : IngestCall) : Option Document :=
  tables.documents.rows.find? fun document =>
    decide (document.organizationId = call.principal.organizationId
      ∧ document.source = call.source ∧ document.externalId = call.externalId)

def currentVersion? (tables : Tables) (document : Document) : Option DocumentVersion :=
  tables.versions.rows.find? fun version =>
    decide (version.documentId = document.id ∧ version.version = document.currentVersion)

def sameEntry (left right : Fields) (key : String) : Bool :=
  ((left.get? key).getD .null).equal ((right.get? key).getD .null)

/-- The bytes are those of the current version; a managed source also compares the
metadata of its read. -/
def unchanged (call : IngestCall) (current : DocumentVersion) : Bool :=
  current.checksumSha256 = codecs.sha256 call.content && (call.source != managedKnowledgeSource ||
      ["revision_id", "source_parser", "raw_checksum_sha256"].all
        (sameEntry current.metadataJson call.extraMetadata))

def Document.rewrite (document : Document) (call : IngestCall) (acl : Acl) (version : Nat) : Document :=
  { document with
    title := call.title, classification := call.classification, acl := acl
    currentVersion := version, deletedAt := none }

def setDocument (documents : Table Document.id) (document : Document) : Table Document.id :=
  documents.update (fun row => if row.id = document.id then document else row) (by
    intro row
    split
    · next same => exact same.symm
    rfl)

/-- The access list and the classification of the chunks of one version. -/
def rewriteChunks (chunks : Table DocumentChunk.id) (call : IngestCall) (versionId : Uuid)
    (acl : Acl) : Table DocumentChunk.id :=
  chunks.update (fun chunk =>
    if chunk.organizationId = call.principal.organizationId
        ∧ chunk.documentVersionId = versionId then
      { chunk with classification := call.classification, acl := acl }
    else chunk) (by
    intro chunk
    split <;> rfl)

/-- Identical bytes: the grants of the current chunks are rebuilt.  Without chunks
the statements below touch no row. -/
def reauthorize (call : IngestCall) (acl : Acl) (document : Document) (current : DocumentVersion)
    (tables : Tables) : Option (Tables × Document × DocumentVersion × Nat) :=
  let organizationId := call.principal.organizationId
  let written := document.rewrite call acl document.currentVersion
  let currentChunks := tables.chunks.select fun chunk =>
    decide (chunk.organizationId = organizationId ∧ chunk.documentVersionId = current.id)
  let chunkIds := currentChunks.map DocumentChunk.id
  let remaining := tables.grants.delete fun grant =>
    decide (grant.organizationId = organizationId ∧ grant.chunkId ∈ chunkIds)
  (remaining.insertAll? (chunkIds.flatMap fun id => grantRows organizationId id acl)).map
    fun grants =>
      ({ tables with
          documents := setDocument tables.documents written
          chunks := rewriteChunks tables.chunks call current.id acl
          grants := grants }, written, current, currentChunks.length)

def newVersion (call : IngestCall) (parsed : ParsedDocument) (document : Document) :
    DocumentVersion where
  id := call.versionId
  organizationId := call.principal.organizationId
  documentId := document.id
  version := document.currentVersion + 1
  contentRef := some (call.principal.organizationId.str ++ "/knowledge/" ++ document.id.str ++ "/"
    ++ call.versionId.str)
  extractedText := parsed.text
  checksumSha256 := codecs.sha256 call.content
  parserVersion := parsed.parserVersion
  metadataJson := call.extraMetadata.foldl (fun fields field => fields.set field.1 field.2)
    (parsed.metadata.set "filename" (.str call.filename))

def newChunks (call : IngestCall) (acl : Acl) (parsed : ParsedDocument) : List DocumentChunk :=
  let layout := (call.extraMetadata.get? "source_parser").any fun parser =>
    parser.equal (.str "dingtalk-jsonml-v2")
  ((codecs.chunkDocument parsed.text layout).zipIdx 1).map fun entry =>
    { id := call.chunkIds entry.2, organizationId := call.principal.organizationId
      documentVersionId := call.versionId, ordinal := entry.2, headingPath := entry.1.1
      content := entry.1.2, classification := call.classification, acl := acl }

/-- Other bytes: a version, its chunks and their grants; the document points to them
once the object store holds the bytes. -/
def publish (call : IngestCall) (acl : Acl) (parsed : ParsedDocument) (document : Document)
    (tables : Tables) : Option (Tables × Document × DocumentVersion × Nat) := do
  let version := newVersion codecs call parsed document
  let versions ← tables.versions.insert? version
  let added := newChunks codecs call acl parsed
  let chunks ← tables.chunks.insertAll? added
  let grants ← tables.grants.insertAll? (added.flatMap fun chunk =>
    grantRows call.principal.organizationId chunk.id acl)
  let written := document.rewrite call acl version.version
  some ({ documents := setDocument tables.documents written, versions, chunks, grants },
    written, version, added.length)

def blankDocument (call : IngestCall) (acl : Acl) : Document where
  id := call.documentId
  organizationId := call.principal.organizationId
  source := call.source
  externalId := call.externalId
  title := call.title
  classification := call.classification
  acl := acl
  currentVersion := 0
  deletedAt := none

def enforced {α : Type} (written : Option α) : Except IngestFault α :=
  written.elim (.error .integrity) .ok

def ingest (call : IngestCall) (tables : Tables) :
    Except IngestFault (Tables × Document × DocumentVersion × Nat) := do
  let (acl, parsed) ← (admissible codecs call).mapError .refused
  let answered : Except IngestFault Unit := do
    call.embed.mapError .refused
    call.put.mapError .refused
  match lookupDocument tables call with
  | none =>
    let document := blankDocument call acl
    let documents ← enforced (tables.documents.insert? document)
    answered
    enforced (publish codecs call acl parsed document { tables with documents })
  | some document =>
    match if 0 < document.currentVersion then currentVersion? tables document else none with
    | some current =>
      if unchanged codecs call current then enforced (reauthorize call acl document current tables)
      else
        answered
        enforced (publish codecs call acl parsed document tables)
    | none =>
      answered
      enforced (publish codecs call acl parsed document tables)

end

/-! ## The copies agree -/

/-- A chunk carries the access list, the classification and the grants of a document. -/
structure Follows (tables : Tables) (document : Document) (chunk : DocumentChunk) : Prop where
  acl : chunk.acl = document.acl
  classification : chunk.classification = document.classification
  granted : GrantsOf tables.grants.rows chunk.id document.organizationId document.acl

def versionNumbers (tables : Tables) (documentId : Uuid) : List Nat :=
  (tables.versions.select fun version => decide (version.documentId = documentId)).map
    DocumentVersion.version

structure Consistent (tables : Tables) : Prop where
  numbered : ∀ document ∈ tables.documents,
    versionNumbers tables document.id = List.range' 1 document.currentVersion
  versionsOwned : ∀ version ∈ tables.versions, ∃ document ∈ tables.documents,
    version.documentId = document.id ∧ version.organizationId = document.organizationId
  chunksOwned : ∀ chunk ∈ tables.chunks, ∃ version ∈ tables.versions,
    chunk.documentVersionId = version.id ∧ chunk.organizationId = version.organizationId
  grantsOwned : ∀ grant ∈ tables.grants, ∃ chunk ∈ tables.chunks,
    grant.chunkId = chunk.id ∧ grant.organizationId = chunk.organizationId
  follows : ∀ document ∈ tables.documents, ∀ version ∈ tables.versions, ∀ chunk ∈ tables.chunks,
    version.documentId = document.id → version.version = document.currentVersion →
      chunk.documentVersionId = version.id → Follows tables document chunk

lemma mem_setDocument {documents : Table Document.id} {document row : Document} :
    row ∈ setDocument documents document ↔
      (row = document ∧ ∃ former ∈ documents, former.id = document.id)
        ∨ (row ∈ documents ∧ row.id ≠ document.id) := by
  rw [setDocument, Table.mem_update]
  constructor
  · rintro ⟨former, mem, rfl⟩
    by_cases eq : former.id = document.id
    · rw [if_pos eq]
      exact .inl ⟨rfl, former, mem, eq⟩
    rw [if_neg eq]
    exact .inr ⟨mem, eq⟩
  · rintro (⟨rfl, former, mem, eq⟩ | ⟨mem, other⟩)
    · exact ⟨former, mem, if_pos eq⟩
    · exact ⟨row, mem, if_neg other⟩

lemma mem_rewriteChunks {chunks : Table DocumentChunk.id} {call : IngestCall} {versionId : Uuid}
    {acl : Acl} {row : DocumentChunk} (mem : row ∈ rewriteChunks chunks call versionId acl) :
    ∃ former ∈ chunks, row.id = former.id ∧ row.organizationId = former.organizationId
      ∧ row.documentVersionId = former.documentVersionId
      ∧ (former.organizationId = call.principal.organizationId → former.documentVersionId = versionId →
          row.acl = acl ∧ row.classification = call.classification)
      ∧ (former.documentVersionId ≠ versionId → row = former) := by
  obtain ⟨former, stored, rfl⟩ := Table.mem_update.1 mem
  refine ⟨former, stored, ?_⟩
  split
  · next chosen => exact ⟨rfl, rfl, rfl, fun _ _ => ⟨rfl, rfl⟩, fun other => absurd chosen.2 other⟩
  next skipped =>
  exact ⟨rfl, rfl, rfl, fun owned ofVersion => absurd ⟨owned, ofVersion⟩ skipped, fun _ => rfl⟩

section
variable {codecs : Codecs} {call : IngestCall} {acl : Acl} {parsed : ParsedDocument}
  {document written : Document} {current version : DocumentVersion} {tables after : Tables}
  {count : Nat}

lemma Consistent.version_unique (consistent : Consistent tables) {left right : DocumentVersion}
    (leftIn : left ∈ tables.versions) (rightIn : right ∈ tables.versions)
    (sameDocument : left.documentId = right.documentId) (eq : left.version = right.version) :
    left = right := by
  obtain ⟨document, stored, owned, _⟩ := consistent.versionsOwned right rightIn
  have distinct : (versionNumbers tables document.id).Nodup := by
    rw [consistent.numbered document stored]
    exact List.nodup_range'
  refine List.inj_on_of_nodup_map distinct ?_ ?_ eq
  · exact Table.mem_select.2 ⟨leftIn, decide_eq_true (sameDocument.trans owned)⟩
  exact Table.mem_select.2 ⟨rightIn, decide_eq_true owned⟩

lemma Consistent.version_le (consistent : Consistent tables)
    (stored : document ∈ tables.documents) (mem : version ∈ tables.versions)
    (owned : version.documentId = document.id) : version.version ≤ document.currentVersion := by
  have listed : version.version ∈ versionNumbers tables document.id :=
    List.mem_map_of_mem (Table.mem_select.2 ⟨mem, decide_eq_true owned⟩)
  rw [consistent.numbered document stored, List.mem_range'_1] at listed
  omega

lemma Consistent.chunk_organization (consistent : Consistent tables) {chunk : DocumentChunk}
    (stored : document ∈ tables.documents) (mem : version ∈ tables.versions)
    (owned : version.documentId = document.id) (chunkIn : chunk ∈ tables.chunks)
    (ofVersion : chunk.documentVersionId = version.id) :
    chunk.organizationId = document.organizationId := by
  obtain ⟨other, otherIn, sameVersion, organization⟩ := consistent.chunksOwned chunk chunkIn
  have eq : other = version := Table.eq_of_key otherIn mem (sameVersion.symm.trans ofVersion)
  obtain ⟨owner, ownerIn, ownedBy, ownerOrganization⟩ := consistent.versionsOwned version mem
  have sameOwner : owner = document := Table.eq_of_key ownerIn stored (ownedBy.symm.trans owned)
  rw [organization, eq, ownerOrganization, sameOwner]

lemma Consistent.empty : Consistent ⟨.empty, .empty, .empty, .empty⟩ := by
  constructor <;> intro row mem
  all_goals exact absurd mem (Table.notMem_empty row)

lemma Consistent.addDocument (consistent : Consistent tables) {documents : Table Document.id}
    (run : tables.documents.insert? (blankDocument call acl) = some documents) :
    Consistent { tables with documents } := by
  obtain ⟨fresh, rows⟩ := Table.insert?_spec run
  have membership : ∀ row, row ∈ documents ↔ row ∈ tables.documents ∨ row = blankDocument call acl := by
    intro row
    rw [Table.mem_iff, rows, List.mem_append, List.mem_singleton, Table.mem_iff]
  have unversioned : ∀ version ∈ tables.versions, version.documentId ≠ (blankDocument call acl).id := by
    intro version mem eq
    obtain ⟨document, stored, owned, _⟩ := consistent.versionsOwned version mem
    exact fresh document stored (owned.symm.trans eq)
  refine ⟨?_, ?_, consistent.chunksOwned, consistent.grantsOwned, ?_⟩
  · intro document stored
    rcases (membership document).1 stored with former | rfl
    · exact consistent.numbered document former
    have none : tables.versions.select
        (fun version => decide (version.documentId = (blankDocument call acl).id)) = [] := by
      refine List.filter_eq_nil_iff.2 ?_
      intro version mem chosen
      exact unversioned version mem (of_decide_eq_true chosen)
    simp only [versionNumbers, none, List.map_nil]
    rfl
  · intro version mem
    obtain ⟨document, stored, owned⟩ := consistent.versionsOwned version mem
    exact ⟨document, (membership document).2 (Or.inl stored), owned⟩
  · intro document stored version mem chunk chunkIn owned currently ofVersion
    rcases (membership document).1 stored with former | rfl
    · obtain ⟨sameAcl, sameClass, granted⟩ :=
        consistent.follows document former version mem chunk chunkIn owned currently ofVersion
      exact ⟨sameAcl, sameClass, granted⟩
    · exact absurd owned (unversioned version mem)

lemma mem_rebuilt {organizationId : Uuid} {chunkIds : List Uuid}
    {former grants : Table (id : DocumentChunkGrant → DocumentChunkGrant)}
    (run : (former.delete fun grant => decide (grant.organizationId = organizationId
        ∧ grant.chunkId ∈ chunkIds)).insertAll?
      (chunkIds.flatMap fun id => grantRows organizationId id acl) = some grants)
    (grant : DocumentChunkGrant) : grant ∈ grants ↔
      (grant ∈ former ∧ ¬ (grant.organizationId = organizationId ∧ grant.chunkId ∈ chunkIds))
        ∨ (grant.chunkId ∈ chunkIds ∧ grant ∈ grantRows organizationId grant.chunkId acl) := by
  obtain ⟨_, rows⟩ := Table.insertAll?_spec run
  rw [Table.mem_iff, rows, List.mem_append, ← Table.mem_iff, Table.mem_delete, decide_eq_false_iff_not]
  apply or_congr_right
  rw [List.mem_flatMap]
  constructor
  · rintro ⟨chunkId, listed, mem⟩
    have eq : grant.chunkId = chunkId := (mem_grantRows.1 mem).2.2
    rw [eq]
    exact ⟨listed, mem⟩
  · rintro ⟨listed, mem⟩
    exact ⟨grant.chunkId, listed, mem⟩

lemma reauthorize_consistent (consistent : Consistent tables) (stored : document ∈ tables.documents)
    (organization : document.organizationId = call.principal.organizationId)
    (currentIn : current ∈ tables.versions) (ofDocument : current.documentId = document.id)
    (currently : current.version = document.currentVersion)
    (run : reauthorize call acl document current tables = some (after, written, version, count)) :
    Consistent after := by
  obtain ⟨grants, inserted, eq⟩ := Option.map_eq_some_iff.1 run
  cases eq
  have rebuilt := mem_rebuilt inserted
  set written := document.rewrite call acl document.currentVersion with writtenEq
  have chosen : ∀ chunkId, chunkId ∈ (tables.chunks.select fun chunk =>
      decide (chunk.organizationId = call.principal.organizationId
        ∧ chunk.documentVersionId = current.id)).map DocumentChunk.id ↔
      ∃ chunk ∈ tables.chunks, chunk.id = chunkId
        ∧ chunk.organizationId = call.principal.organizationId
        ∧ chunk.documentVersionId = current.id := by
    intro chunkId
    simp only [List.mem_map, Table.mem_select, decide_eq_true_eq]
    constructor
    · rintro ⟨chunk, ⟨chunkIn, owned, ofVersion⟩, rfl⟩
      exact ⟨chunk, chunkIn, rfl, owned, ofVersion⟩
    rintro ⟨chunk, chunkIn, rfl, owned, ofVersion⟩
    exact ⟨chunk, ⟨chunkIn, owned, ofVersion⟩, rfl⟩
  simp only [chosen] at rebuilt
  refine ⟨?_, ?_, ?_, ?_, ?_⟩
  · intro row mem
    rcases mem_setDocument.1 mem with ⟨rfl, _⟩ | ⟨former, _⟩
    · exact consistent.numbered document stored
    exact consistent.numbered row former
  · intro row mem
    obtain ⟨owner, ownerIn, owned, sameOrganization⟩ := consistent.versionsOwned row mem
    by_cases sameDocument : owner.id = document.id
    · have eq : owner = document := Table.eq_of_key ownerIn stored sameDocument
      subst eq
      exact ⟨written, mem_setDocument.2 (Or.inl ⟨rfl, owner, ownerIn, rfl⟩), owned, sameOrganization⟩
    · exact ⟨owner, mem_setDocument.2 (Or.inr ⟨ownerIn, sameDocument⟩), owned, sameOrganization⟩
  · intro row mem
    obtain ⟨former, formerIn, _, organizationKept, versionKept, _⟩ := mem_rewriteChunks mem
    rw [organizationKept, versionKept]
    exact consistent.chunksOwned former formerIn
  · intro grant mem
    have renewed : ∀ chunk ∈ tables.chunks, ∃ row ∈ rewriteChunks tables.chunks call current.id acl,
          row.id = chunk.id ∧ row.organizationId = chunk.organizationId := by
      intro chunk chunkIn
      refine ⟨_, Table.mem_update.2 ⟨chunk, chunkIn, rfl⟩, ?_⟩
      split <;> exact ⟨rfl, rfl⟩
    rcases (rebuilt grant).1 mem with ⟨former, _⟩ | ⟨⟨chunk, chunkIn, named, owned, _⟩, listed⟩
    · obtain ⟨chunk, chunkIn, ofChunk, owned⟩ := consistent.grantsOwned grant former
      obtain ⟨row, rowIn, sameId, sameOrganization⟩ := renewed chunk chunkIn
      exact ⟨row, rowIn, ofChunk.trans sameId.symm, owned.trans sameOrganization.symm⟩
    · obtain ⟨row, rowIn, sameId, sameOrganization⟩ := renewed chunk chunkIn
      have grantOrganization := (mem_grantRows.1 listed).2.1
      exact ⟨row, rowIn, named.symm.trans sameId.symm,
        grantOrganization.trans (owned.symm.trans sameOrganization.symm)⟩
  · intro row mem other otherIn chunk chunkIn owned otherCurrent ofVersion
    obtain ⟨former, formerIn, sameId, _, versionKept, renewed, untouched⟩ :=
      mem_rewriteChunks chunkIn
    rw [versionKept] at ofVersion
    rcases mem_setDocument.1 mem with ⟨rfl, _⟩ | ⟨rowIn, apart⟩
    · -- the rewritten document: its current version is the one whose chunks were rewritten
      have eq : other = current :=
        consistent.version_unique otherIn currentIn (owned.trans ofDocument.symm)
          (otherCurrent.trans currently.symm)
      subst eq
      have inOrganization : former.organizationId = call.principal.organizationId :=
        (consistent.chunk_organization stored otherIn ofDocument formerIn ofVersion).trans
          organization
      obtain ⟨newAcl, newClass⟩ := renewed inOrganization ofVersion
      refine ⟨newAcl, newClass, ?_⟩
      intro grant
      rw [← Table.mem_iff, rebuilt grant]
      constructor
      · rintro ⟨⟨kept, spared⟩ | ⟨_, listed⟩, ofChunk⟩
        · obtain ⟨holder, holderIn, held, grantOrganization⟩ := consistent.grantsOwned grant kept
          have eq : holder = former :=
            Table.eq_of_key holderIn formerIn (held.symm.trans (ofChunk.trans sameId))
          subst eq
          exact absurd ⟨grantOrganization.trans inOrganization, holder, formerIn, held.symm,
            inOrganization, ofVersion⟩ spared
        · rw [← ofChunk]
          exact organization ▸ listed
      · intro listed
        have ofChunk : grant.chunkId = chunk.id := (mem_grantRows.1 listed).2.2
        have rowListed : grant ∈ grantRows call.principal.organizationId grant.chunkId acl := by
          rw [ofChunk, ← organization]
          exact listed
        exact ⟨Or.inr ⟨⟨former, formerIn, (ofChunk.trans sameId).symm, inOrganization, ofVersion⟩,
          rowListed⟩, ofChunk⟩
    · -- another document: neither its chunks nor their grants were touched
      have otherVersion : other.id ≠ current.id := by
        intro eq
        have equal : other = current := Table.eq_of_key otherIn currentIn eq
        subst equal
        exact apart (owned.symm.trans ofDocument)
      have kept : chunk = former := untouched fun eq => otherVersion (ofVersion.symm.trans eq)
      subst kept
      obtain ⟨sameAcl, sameClass, granted⟩ :=
        consistent.follows row rowIn other otherIn chunk formerIn owned otherCurrent ofVersion
      refine ⟨sameAcl, sameClass, ?_⟩
      have spared : ¬ ∃ selected ∈ tables.chunks, selected.id = chunk.id
          ∧ selected.organizationId = call.principal.organizationId
          ∧ selected.documentVersionId = current.id := by
        rintro ⟨selected, selectedIn, eq, _, ofCurrent⟩
        have equal : selected = chunk := Table.eq_of_key selectedIn formerIn eq
        subst equal
        exact otherVersion (ofVersion.symm.trans ofCurrent)
      intro grant
      rw [← granted grant, ← Table.mem_iff, rebuilt grant]
      constructor
      · rintro ⟨⟨former, _⟩ | ⟨selected, _⟩, ofChunk⟩
        · exact ⟨former, ofChunk⟩
        · rw [ofChunk] at selected
          exact absurd selected spared
      · rintro ⟨former, ofChunk⟩
        refine ⟨Or.inl ⟨former, ?_⟩, ofChunk⟩
        rintro ⟨_, selected⟩
        rw [ofChunk] at selected
        exact spared selected

structure Published (call : IngestCall) (acl : Acl) (document : Document) (tables after : Tables)
    (version : DocumentVersion) (added : List DocumentChunk) : Prop where
  documents : after.documents = setDocument tables.documents
    (document.rewrite call acl (document.currentVersion + 1))
  versions : after.versions.rows = tables.versions.rows ++ [version]
  chunks : after.chunks.rows = tables.chunks.rows ++ added
  grants : after.grants.rows = tables.grants.rows ++ added.flatMap fun chunk =>
    grantRows call.principal.organizationId chunk.id acl
  freshVersion : ∀ former ∈ tables.versions, former.id ≠ version.id
  freshChunks : ∀ chunk ∈ added, ∀ former ∈ tables.chunks, former.id ≠ chunk.id
  ofDocument : version.documentId = document.id
  organization : version.organizationId = call.principal.organizationId
  numbered : version.version = document.currentVersion + 1
  carried : ∀ chunk ∈ added, chunk.acl = acl ∧ chunk.classification = call.classification
    ∧ chunk.documentVersionId = version.id
    ∧ chunk.organizationId = call.principal.organizationId

lemma publish_spec
    (run : publish codecs call acl parsed document tables = some (after, written, version, count)) :
    Published call acl document tables after version (newChunks codecs call acl parsed) := by
  obtain ⟨versions, first, run⟩ := Option.bind_eq_some_iff.1 run
  obtain ⟨chunks, second, run⟩ := Option.bind_eq_some_iff.1 run
  obtain ⟨grants, third, run⟩ := Option.bind_eq_some_iff.1 run
  cases run
  obtain ⟨freshVersion, versionRows⟩ := Table.insert?_spec first
  obtain ⟨freshChunks, chunkRows⟩ := Table.insertAll?_spec second
  obtain ⟨_, grantRows⟩ := Table.insertAll?_spec third
  refine ⟨rfl, versionRows, chunkRows, grantRows, freshVersion, freshChunks, rfl, rfl, rfl, ?_⟩
  intro chunk mem
  obtain ⟨entry, _, rfl⟩ := List.mem_map.1 mem
  exact ⟨rfl, rfl, rfl, rfl⟩

section
variable {added : List DocumentChunk}
  (published : Published call acl document tables after version added)

include published

lemma Published.mem_versions {row : DocumentVersion} :
    row ∈ after.versions ↔ row ∈ tables.versions ∨ row = version := by
  rw [Table.mem_iff, published.versions, List.mem_append, List.mem_singleton, Table.mem_iff]

lemma Published.mem_chunks {row : DocumentChunk} :
    row ∈ after.chunks ↔ row ∈ tables.chunks ∨ row ∈ added := by
  rw [Table.mem_iff, published.chunks, List.mem_append, Table.mem_iff]

lemma Published.mem_grants {grant : DocumentChunkGrant} : grant ∈ after.grants ↔ grant ∈ tables.grants ∨
      ∃ chunk ∈ added, grant ∈ grantRows call.principal.organizationId chunk.id acl := by
  rw [Table.mem_iff, published.grants, List.mem_append, List.mem_flatMap, Table.mem_iff]

lemma Published.numbered_after (consistent : Consistent tables)
    (stored : document ∈ tables.documents) :
    versionNumbers after document.id = List.range' 1 (document.currentVersion + 1) := by
  have former := consistent.numbered document stored
  have last : List.filter (fun row : DocumentVersion => decide (row.documentId = document.id))
      [version] = [version] := by
    simp [published.ofDocument]
  rw [versionNumbers, Table.select] at former ⊢
  rw [published.versions, List.filter_append, last, List.map_append, former, List.map_singleton,
    published.numbered, List.range'_1_concat, Nat.add_comm 1]

lemma Published.numbered_other {documentId : Uuid} (other : documentId ≠ document.id) :
    versionNumbers after documentId = versionNumbers tables documentId := by
  have skipped : List.filter (fun row : DocumentVersion => decide (row.documentId = documentId))
      [version] = [] := by
    simp [published.ofDocument, other.symm]
  rw [versionNumbers, versionNumbers, Table.select, Table.select, published.versions,
    List.filter_append, skipped, List.append_nil]

variable {chunk : DocumentChunk}

lemma Published.granted_former (former : chunk ∈ tables.chunks) {organizationId : Uuid}
    {listed : Acl} :
    GrantsOf after.grants.rows chunk.id organizationId listed ↔
      GrantsOf tables.grants.rows chunk.id organizationId listed := by
  have eq : ∀ grant : DocumentChunkGrant, grant ∈ after.grants ∧ grant.chunkId = chunk.id ↔
      grant ∈ tables.grants ∧ grant.chunkId = chunk.id := by
    intro grant
    apply and_congr_left
    intro ofChunk
    rw [published.mem_grants]
    refine ⟨?_, Or.inl⟩
    rintro (kept | ⟨new, newIn, mem⟩)
    · exact kept
    · have named := (mem_grantRows.1 mem).2.2
      exact absurd (ofChunk.symm.trans named) (published.freshChunks new newIn chunk former)
  exact forall_congr' fun grant => iff_congr (eq grant) Iff.rfl

lemma Published.granted_new (consistent : Consistent tables) (new : chunk ∈ added) :
    GrantsOf after.grants.rows chunk.id call.principal.organizationId acl := by
  intro grant
  constructor
  · rintro ⟨mem, ofChunk⟩
    rcases published.mem_grants.1 mem with former | ⟨other, _, listed⟩
    · obtain ⟨holder, holderIn, held, _⟩ := consistent.grantsOwned grant former
      exact absurd (held.symm.trans ofChunk) (published.freshChunks chunk new holder holderIn)
    have named := (mem_grantRows.1 listed).2.2
    rw [named.symm.trans ofChunk] at listed
    exact listed
  · intro listed
    exact ⟨published.mem_grants.2 (Or.inr ⟨chunk, new, listed⟩), (mem_grantRows.1 listed).2.2⟩

lemma Published.follows (consistent : Consistent tables) (stored : document ∈ tables.documents)
    (organization : document.organizationId = call.principal.organizationId) {row : Document}
    (rowIn : row ∈ after.documents) {other : DocumentVersion} (otherIn : other ∈ after.versions)
    (chunkIn : chunk ∈ after.chunks) (owned : other.documentId = row.id)
    (currently : other.version = row.currentVersion)
    (ofVersion : chunk.documentVersionId = other.id) : Follows after row chunk := by
  rw [published.documents] at rowIn
  rcases mem_setDocument.1 rowIn with ⟨rfl, _⟩ | ⟨former, apart⟩
  · -- the written document: its current version is the new one
    rcases published.mem_versions.1 otherIn with otherFormer | rfl
    · have bound := consistent.version_le stored otherFormer owned
      have next : other.version = document.currentVersion + 1 := currently
      omega
    · rcases published.mem_chunks.1 chunkIn with chunkFormer | new
      · obtain ⟨holder, holderIn, held, _⟩ := consistent.chunksOwned chunk chunkFormer
        exact absurd (held.symm.trans ofVersion) (published.freshVersion holder holderIn)
      obtain ⟨carriedAcl, carriedClass, _⟩ := published.carried chunk new
      have granted := published.granted_new consistent new
      rw [← organization] at granted
      exact ⟨carriedAcl, carriedClass, granted⟩
  · -- another document: its current version is not the new one
    rcases published.mem_versions.1 otherIn with otherFormer | rfl
    · rcases published.mem_chunks.1 chunkIn with chunkFormer | new
      · obtain ⟨sameAcl, sameClass, granted⟩ := consistent.follows row former other otherFormer
          chunk chunkFormer owned currently ofVersion
        exact ⟨sameAcl, sameClass, (published.granted_former chunkFormer).2 granted⟩
      · have newVersion := (published.carried chunk new).2.2.1
        exact absurd (ofVersion.symm.trans newVersion) (published.freshVersion other otherFormer)
    · exact absurd (owned.symm.trans published.ofDocument) apart

lemma Published.consistent (consistent : Consistent tables) (stored : document ∈ tables.documents)
    (organization : document.organizationId = call.principal.organizationId) :
    Consistent after := by
  have rewritten : document.rewrite call acl (document.currentVersion + 1) ∈ after.documents := by
    rw [published.documents]
    exact mem_setDocument.2 (Or.inl ⟨rfl, document, stored, rfl⟩)
  refine ⟨?_, ?_, ?_, ?_, ?_⟩
  · intro row mem
    rw [published.documents] at mem
    rcases mem_setDocument.1 mem with ⟨rfl, _⟩ | ⟨former, apart⟩
    · exact published.numbered_after consistent stored
    rw [published.numbered_other apart]
    exact consistent.numbered row former
  · intro row mem
    rcases published.mem_versions.1 mem with former | rfl
    · obtain ⟨owner, ownerIn, owned, sameOrganization⟩ := consistent.versionsOwned row former
      by_cases eq : owner.id = document.id
      · have equal : owner = document := Table.eq_of_key ownerIn stored eq
        subst equal
        exact ⟨_, rewritten, owned, sameOrganization⟩
      · refine ⟨owner, ?_, owned, sameOrganization⟩
        rw [published.documents]
        exact mem_setDocument.2 (Or.inr ⟨ownerIn, eq⟩)
    · exact ⟨_, rewritten, published.ofDocument, published.organization.trans organization.symm⟩
  · intro row mem
    rcases published.mem_chunks.1 mem with former | new
    · obtain ⟨holder, holderIn, held⟩ := consistent.chunksOwned row former
      exact ⟨holder, published.mem_versions.2 (Or.inl holderIn), held⟩
    obtain ⟨_, _, ofVersion, owned⟩ := published.carried row new
    exact ⟨version, published.mem_versions.2 (Or.inr rfl), ofVersion,
      owned.trans published.organization.symm⟩
  · intro grant mem
    rcases published.mem_grants.1 mem with former | ⟨chunk, new, listed⟩
    · obtain ⟨holder, holderIn, held⟩ := consistent.grantsOwned grant former
      exact ⟨holder, published.mem_chunks.2 (Or.inl holderIn), held⟩
    obtain ⟨_, grantOrganization, named⟩ := mem_grantRows.1 listed
    exact ⟨chunk, published.mem_chunks.2 (Or.inr new), named,
      grantOrganization.trans (published.carried chunk new).2.2.2.symm⟩
  · intro row rowIn other otherIn chunk chunkIn owned currently ofVersion
    exact published.follows consistent stored organization rowIn otherIn chunkIn owned currently
      ofVersion

end

end

/-! ## Runs -/

inductive Ingested (codecs : Codecs) (call : IngestCall) (tables : Tables) :
    Tables × Document × DocumentVersion × Nat → Prop
  | reauthorized (acl : Acl) (document : Document) (current : DocumentVersion)
      {result : Tables × Document × DocumentVersion × Nat}
      (stored : document ∈ tables.documents)
      (organization : document.organizationId = call.principal.organizationId)
      (positive : 0 < document.currentVersion) (currentIn : current ∈ tables.versions)
      (ofDocument : current.documentId = document.id)
      (currently : current.version = document.currentVersion)
      (run : reauthorize call acl document current tables = some result) :
      Ingested codecs call tables result
  | republished (acl : Acl) (parsed : ParsedDocument) (document : Document)
      {result : Tables × Document × DocumentVersion × Nat}
      (stored : document ∈ tables.documents)
      (organization : document.organizationId = call.principal.organizationId)
      (run : publish codecs call acl parsed document tables = some result) :
      Ingested codecs call tables result
  | created (acl : Acl) (parsed : ParsedDocument) (documents : Table Document.id)
      {result : Tables × Document × DocumentVersion × Nat}
      (inserted : tables.documents.insert? (blankDocument call acl) = some documents)
      (run : publish codecs call acl parsed (blankDocument call acl) { tables with documents }
        = some result) :
      Ingested codecs call tables result

section
variable {codecs : Codecs} {call : IngestCall} {tables : Tables}
  {result : Tables × Document × DocumentVersion × Nat}

lemma enforced_ok {α : Type} {written : Option α} {value : α}
    (run : enforced written = .ok value) : written = some value := by
  cases written with
  | none => cases run
  | some found =>
    cases run
    rfl

lemma lookupDocument_some {document : Document} (found : lookupDocument tables call = some document) :
    document ∈ tables.documents ∧ document.organizationId = call.principal.organizationId := by
  have holds := List.find?_some found
  exact ⟨List.mem_of_find?_eq_some found, (of_decide_eq_true holds).1⟩

lemma currentVersion?_some {document : Document} {current : DocumentVersion}
    (found : currentVersion? tables document = some current) :
    current ∈ tables.versions ∧ current.documentId = document.id
      ∧ current.version = document.currentVersion := by
  have holds := List.find?_some found
  exact ⟨List.mem_of_find?_eq_some found, of_decide_eq_true holds⟩

lemma ingest_cases (run : ingest codecs call tables = .ok result) :
    Ingested codecs call tables result := by
  obtain ⟨⟨acl, parsed⟩, _, run⟩ := of_bind_ok run
  simp only at run
  split at run
  · obtain ⟨documents, inserted, run⟩ := of_bind_ok run
    obtain ⟨_, _, run⟩ := of_bind_ok run
    exact .created acl parsed documents (enforced_ok inserted) (enforced_ok run)
  · next document found =>
    obtain ⟨stored, organization⟩ := lookupDocument_some found
    split at run
    · next current known =>
      split at known
      · next positive =>
        obtain ⟨currentIn, ofDocument, currently⟩ := currentVersion?_some known
        split at run
        · exact .reauthorized acl document current stored organization positive currentIn
            ofDocument currently (enforced_ok run)
        obtain ⟨_, _, run⟩ := of_bind_ok run
        exact .republished acl parsed document stored organization (enforced_ok run)
      · cases known
    · obtain ⟨_, _, run⟩ := of_bind_ok run
      exact .republished acl parsed document stored organization (enforced_ok run)

/-- Between calls every document has a version. -/
structure Settled (tables : Tables) : Prop where
  consistent : Consistent tables
  versioned : ∀ document ∈ tables.documents, 0 < document.currentVersion

lemma versioned_setDocument {documents : Table Document.id} {written : Document}
    (versioned : ∀ document ∈ documents, document.id ≠ written.id → 0 < document.currentVersion)
    (positive : 0 < written.currentVersion) :
    ∀ document ∈ setDocument documents written, 0 < document.currentVersion := by
  intro document mem
  rcases mem_setDocument.1 mem with ⟨rfl, _⟩ | ⟨former, apart⟩
  · exact positive
  exact versioned document former apart

lemma ingest_settled (settled : Settled tables) (run : ingest codecs call tables = .ok result) :
    Settled result.1 := by
  cases ingest_cases run with
  | reauthorized acl document current stored organization positive currentIn ofDocument currently
      run =>
      obtain ⟨after, written, version, count⟩ := result
      refine ⟨reauthorize_consistent settled.consistent stored organization currentIn ofDocument
        currently run, ?_⟩
      obtain ⟨_, _, eq⟩ := Option.map_eq_some_iff.1 run
      cases eq
      exact versioned_setDocument (fun row mem _ => settled.versioned row mem) positive
  | republished acl parsed document stored organization run =>
    obtain ⟨after, written, version, count⟩ := result
    have published := publish_spec run
    refine ⟨published.consistent settled.consistent stored organization, ?_⟩
    rw [published.documents]
    exact versioned_setDocument (fun row mem _ => settled.versioned row mem) (Nat.succ_pos _)
  | created acl parsed documents inserted run =>
    obtain ⟨after, written, version, count⟩ := result
    obtain ⟨_, rows⟩ := Table.insert?_spec inserted
    have membership : ∀ row, row ∈ documents ↔
        row ∈ tables.documents ∨ row = blankDocument call acl := by
      intro row
      rw [Table.mem_iff, rows, List.mem_append, List.mem_singleton, Table.mem_iff]
    have published := publish_spec run
    refine ⟨published.consistent (settled.consistent.addDocument inserted)
      ((membership _).2 (Or.inr rfl)) rfl, ?_⟩
    rw [published.documents]
    refine versioned_setDocument ?_ (Nat.succ_pos _)
    intro row mem apart
    rcases (membership row).1 mem with former | rfl
    · exact settled.versioned row former
    exact absurd rfl apart

end

def ingestions (codecs : Codecs) : System Tables IngestCall :=
  System.ofPartial (fun tables => tables = ⟨.empty, .empty, .empty, .empty⟩) fun tables call =>
    (ingest codecs call tables).toOption.map Prod.fst

lemma reachable_settled {codecs : Codecs} {tables : Tables}
    (reached : Reachable (ingestions codecs) tables) : Settled tables := by
  refine reached.holds ?_ ?_
  · rintro start rfl
    exact ⟨.empty, fun document mem => absurd mem (Table.notMem_empty document)⟩
  intro before call after settled step
  obtain ⟨result, run, rfl⟩ := Option.map_eq_some_iff.1 step
  exact ingest_settled settled (ok_of_toOption run)

def sampleCodecs : Codecs where
  documentMaxUploadBytes := 1000
  parseDocument content _ _ :=
    .ok ⟨String.ofList (content.map fun byte => Char.ofNat byte.toNat), "text-v1", []⟩
  chunkDocument text _ := [([], text)]
  sha256 content :=
    if content = [97] then "ca978112ca1bbdcafac231b39a23dc4da786eff8147c4e72b9807785afee48bb"
    else "3e23e8160039594a33894f6564e1b1348bbd7a0088d42c4acb73eeaed59c009d"

def sampleCall (content : List UInt8) (acl : Fields) (drawn : Fin 16) : IngestCall where
  principal := ⟨sampleId 0, sampleOrganization, ["knowledge.write"]⟩
  source := "upload"
  externalId := "handbook"
  title := "Handbook"
  mediaType := "text/plain"
  filename := "handbook.txt"
  content := content
  classification := .internal
  acl := acl
  extraMetadata := []
  documentId := sampleId 1
  versionId := sampleId drawn
  chunkIds _ := sampleId drawn
  embed := .ok ()
  put := .ok ()

def sampleCalls : List IngestCall :=
  [sampleCall [97] [("roles", .arr [.str "editor"])] 2,
    sampleCall [97] [("organization", .bool true)] 3,
    sampleCall [98] [("organization", .bool true), ("deny_roles", .arr [.str "guest"])] 4]

end Obsion.Knowledge
