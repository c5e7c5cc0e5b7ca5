import Obsion.Knowledge.Acl
import Obsion.Lib.Table

/-! # Documents and who may read them

The access rule is written twice: `authorized` decides over the access list of a
document, `authorizationClause` over the exploded grants of a chunk.
`clause_agrees` shows that they decide alike for a chunk that carries the
classification and the grants of its document. -/

namespace Obsion.Knowledge

open Obsion.Lib
open Obsion.Events (Classification)

structure Document where
  id : Uuid
  organizationId : Uuid
  source : String
  externalId : String
  title : String
  classification : Classification
  acl : Acl
  currentVersion : Nat
  deletedAt : Option Time

structure DocumentVersion where
  id : Uuid
  organizationId : Uuid
  documentId : Uuid
  version : Nat
  contentRef : Option String
  extractedText : String
  checksumSha256 : String
  parserVersion : String
  metadataJson : Fields

structure DocumentChunk where
  id : Uuid
  organizationId : Uuid
  documentVersionId : Uuid
  ordinal : Nat
  headingPath : List String
  content : String
  classification : Classification
  acl : Acl

structure Tables where
  documents : Table Document.id
  versions : Table DocumentVersion.id
  chunks : Table DocumentChunk.id
  grants : Table (id : DocumentChunkGrant → DocumentChunkGrant)

def classificationLevel : Classification → Nat
  | .public_ => 0
  | .internal => 1
  | .confidential => 2
  | .restricted => 3

def readPermission (classification : Classification) : String :=
  "knowledge.read." ++ lower classification.value

def Reader.named (reader : Reader) (users roles departments : Names) : Bool :=
  users.has reader.id.str || reader.roles.any roles.has || reader.department?.any departments.has

def authorized (reader : Reader) (classification : Classification) (acl : Acl) : Bool :=
  if reader.named acl.denyUsers acl.denyRoles acl.denyDepartments then false
  else if reader.named acl.users acl.roles acl.departments then true
  else if acl.organization && classificationLevel classification ≤ 1 then true
  else reader.can (readPermission classification)

def subjectClause (reader : Reader) (includeOrganization : Bool) (grant : Subject) : Bool :=
  (grant.subjectType = .user && grant.subjectValue = reader.id.str) ||
  (!reader.roles.isEmpty && grant.subjectType = .role && grant.subjectValue ∈ reader.roles) ||
  (reader.department?.any fun department =>
    grant.subjectType = .department && grant.subjectValue = department) ||
  (includeOrganization && grant.subjectType = .organization &&
    grant.subjectValue = reader.organizationId.str)

/-- An EXISTS over the grants of the chunk in the reader's organization. -/
def grantExists (reader : Reader) (grants : List DocumentChunkGrant) (chunk : DocumentChunk)
    (effect : Effect) (clause : Subject → Bool) : Bool :=
  grants.any fun grant => grant.chunkId = chunk.id && grant.organizationId = reader.organizationId &&
    grant.effect = effect && clause grant.toSubject

def permittedClassifications (reader : Reader) : List Classification :=
  [.public_, .internal, .confidential, .restricted].filter fun classification =>
    reader.can (readPermission classification)

def authorizationClause (reader : Reader) (grants : List DocumentChunkGrant)
    (chunk : DocumentChunk) : Bool :=
  let deny := grantExists reader grants chunk .deny (subjectClause reader false)
  let directAllow := grantExists reader grants chunk .allow (subjectClause reader false)
  let organizationAllow :=
    decide (chunk.classification ∈ [Classification.public_, Classification.internal]) &&
      grantExists reader grants chunk .allow fun grant =>
        grant.subjectType = .organization && grant.subjectValue = reader.organizationId.str
  let permitted := permittedClassifications reader
  let permissionAllow := !permitted.isEmpty && decide (chunk.classification ∈ permitted)
  !deny && (directAllow || organizationAllow || permissionAllow)

structure Hit where
  chunk : DocumentChunk
  version : DocumentVersion
  document : Document

/-- The rows that `search` ranks: every backend selects them with these base
filters.  `filters` holds the source filters and the live proof. -/
def candidates (external filters : Document → Bool) (reader : Reader) (tables : Tables) : List Hit :=
  let joined := tables.chunks.rows.flatMap fun chunk =>
    (tables.versions.select fun version => version.id = chunk.documentVersionId).flatMap
      fun version =>
        (tables.documents.select fun document => document.id = version.documentId).map
          fun document => ⟨chunk, version, document⟩
  joined.filter fun hit =>
    hit.chunk.organizationId = reader.organizationId &&
    hit.document.organizationId = reader.organizationId && hit.document.deletedAt.isNone &&
    hit.version.version = hit.document.currentVersion &&
    authorizationClause reader tables.grants.rows hit.chunk && external hit.document &&
    filters hit.document

/-- A document has one row for its current version, so that the join of the two
tables has at most one row. -/
def getDocument (external : Document → Bool) (reader : Reader) (tables : Tables)
    (documentId : Uuid) : Except ObsionError (Document × DocumentVersion) :=
  let row := (tables.documents.get? documentId).bind fun document =>
    if document.organizationId = reader.organizationId ∧ document.deletedAt.isNone
        ∧ external document then
      (tables.versions.rows.find? fun version =>
        version.documentId = document.id && version.version = document.currentVersion).map
          fun version => (document, version)
    else none
  match row with
  | none => .error (notFoundError "Document")
  | some (document, version) =>
    if authorized reader document.classification document.acl then .ok (document, version)
    else .error (notFoundError "Document")

/-! ## Agreement -/

section
variable {reader : Reader} {grants : List DocumentChunkGrant} {chunk : DocumentChunk} {acl : Acl}

def GrantsOf (grants : List DocumentChunkGrant) (chunkId organizationId : Uuid) (acl : Acl) : Prop :=
  ∀ grant, grant ∈ grants ∧ grant.chunkId = chunkId ↔ grant ∈ grantRows organizationId chunkId acl

variable {organizationId : Uuid} {effect : Effect} {subject : Subject}
  {classification : Classification} {tables : Tables} {external : Document → Bool}

lemma grantRows_exact {chunkId : Uuid} :
    GrantsOf (grantRows organizationId chunkId acl) chunkId organizationId acl :=
  fun _ => ⟨And.left, fun listed => ⟨listed, (mem_grantRows.1 listed).2.2⟩⟩

lemma grantExists_iff (exact_ : GrantsOf grants chunk.id reader.organizationId acl)
    {clause : Subject → Bool} :
    grantExists reader grants chunk effect clause = true ↔
      ∃ subject ∈ subjects reader.organizationId acl,
        subject.effect = effect ∧ clause subject = true := by
  simp only [grantExists, List.any_eq_true, Bool.and_eq_true, decide_eq_true_eq]
  constructor
  · rintro ⟨grant, mem, ⟨⟨⟨ofChunk, _⟩, effected⟩, holds⟩⟩
    have listed := mem_grantRows.1 ((exact_ grant).1 ⟨mem, ofChunk⟩)
    exact ⟨grant.toSubject, listed.1, effected, holds⟩
  · rintro ⟨subject, mem, effected, holds⟩
    let grant : DocumentChunkGrant := ⟨subject, reader.organizationId, chunk.id⟩
    obtain ⟨stored, ofChunk⟩ := (exact_ grant).2 (mem_grantRows.2 ⟨mem, rfl, rfl⟩)
    exact ⟨grant, stored, ⟨⟨⟨ofChunk, rfl⟩, effected⟩, holds⟩⟩

lemma mem_subjects : subject ∈ subjects organizationId acl ↔
      (acl.users.has subject.subjectValue = true ∧ subject.effect = .allow
          ∧ subject.subjectType = .user)
      ∨ (acl.roles.has subject.subjectValue = true ∧ subject.effect = .allow
          ∧ subject.subjectType = .role)
      ∨ (acl.departments.has subject.subjectValue = true ∧ subject.effect = .allow
          ∧ subject.subjectType = .department)
      ∨ (acl.denyUsers.has subject.subjectValue = true ∧ subject.effect = .deny
          ∧ subject.subjectType = .user)
      ∨ (acl.denyRoles.has subject.subjectValue = true ∧ subject.effect = .deny
          ∧ subject.subjectType = .role)
      ∨ (acl.denyDepartments.has subject.subjectValue = true ∧ subject.effect = .deny
          ∧ subject.subjectType = .department)
      ∨ (acl.organization = true ∧ subject = ⟨.allow, .organization, organizationId.str⟩) := by
  have organizationSubject : (subject ∈ if acl.organization then
          [(⟨.allow, .organization, organizationId.str⟩ : Subject)] else []) ↔
        acl.organization = true ∧ subject = ⟨.allow, .organization, organizationId.str⟩ := by
    by_cases shared : acl.organization = true
    · simp [shared]
    simp [shared]
  simp only [subjects, List.mem_append, Names.mem_subjects, organizationSubject, or_assoc]

lemma subjectClause_iff : subjectClause reader false subject = true ↔
      (subject.subjectType = .user ∧ subject.subjectValue = reader.id.str)
      ∨ (subject.subjectType = .role ∧ subject.subjectValue ∈ reader.roles)
      ∨ (subject.subjectType = .department ∧ reader.department? = some subject.subjectValue) := by
  have roles : (!reader.roles.isEmpty && decide (subject.subjectType = .role)
      && decide (subject.subjectValue ∈ reader.roles)) = true ↔
        subject.subjectType = .role ∧ subject.subjectValue ∈ reader.roles := by
    cases listed : reader.roles <;> simp
  have department : (reader.department?.any fun department =>
      decide (subject.subjectType = .department) && decide (subject.subjectValue = department))
        = true ↔
        subject.subjectType = .department ∧ reader.department? = some subject.subjectValue := by
    cases reader.department? with
    | none => simp
    | some department =>
      simp only [Option.any_some, Bool.and_eq_true, decide_eq_true_eq, Option.some.injEq]
      exact and_congr_right fun _ => eq_comm
  simp only [subjectClause, Bool.or_eq_true, roles, department, Bool.and_eq_true,
    decide_eq_true_eq, Bool.false_and, Bool.false_eq_true, or_false, or_assoc]

lemma matched_iff {users roles departments : Names}
    (users_iff : ∀ text, (⟨effect, .user, text⟩ : Subject) ∈ subjects organizationId acl ↔
      users.has text = true)
    (roles_iff : ∀ text, (⟨effect, .role, text⟩ : Subject) ∈ subjects organizationId acl ↔
      roles.has text = true)
    (departments_iff : ∀ text, (⟨effect, .department, text⟩ : Subject) ∈ subjects organizationId acl ↔
        departments.has text = true) : (∃ subject ∈ subjects organizationId acl,
      subject.effect = effect ∧ subjectClause reader false subject = true) ↔
        reader.named users roles departments = true := by
  simp only [Reader.named, Bool.or_eq_true, List.any_eq_true, Option.any_eq_true, or_assoc]
  constructor
  · rintro ⟨⟨_, subjectType, text⟩, mem, rfl, holds⟩
    rcases subjectClause_iff.1 holds with ⟨eq, named⟩ | ⟨eq, named⟩ | ⟨eq, named⟩
    all_goals (simp only at eq named; subst eq)
    · subst named
      exact .inl ((users_iff _).1 mem)
    · exact .inr (Or.inl ⟨text, named, (roles_iff _).1 mem⟩)
    · exact .inr (Or.inr ⟨text, named, (departments_iff _).1 mem⟩)
  · rintro (named | ⟨role, held, named⟩ | ⟨department, held, named⟩)
    · exact ⟨_, (users_iff _).2 named, rfl, subjectClause_iff.2 (Or.inl ⟨rfl, rfl⟩)⟩
    · exact ⟨_, (roles_iff _).2 named, rfl, subjectClause_iff.2 (Or.inr (Or.inl ⟨rfl, held⟩))⟩
    · exact ⟨_, (departments_iff _).2 named, rfl, subjectClause_iff.2 (Or.inr (Or.inr ⟨rfl, held⟩))⟩

section
variable (exact_ : GrantsOf grants chunk.id reader.organizationId acl)
include exact_

lemma deny_iff :
    grantExists reader grants chunk .deny (subjectClause reader false) = true ↔
      reader.named acl.denyUsers acl.denyRoles acl.denyDepartments = true := by
  rw [grantExists_iff exact_]
  apply matched_iff <;> simp [mem_subjects]

lemma directAllow_iff :
    grantExists reader grants chunk .allow (subjectClause reader false) = true ↔
      reader.named acl.users acl.roles acl.departments = true := by
  rw [grantExists_iff exact_]
  apply matched_iff <;> simp [mem_subjects]

lemma organizationGrant_iff :
    (grantExists reader grants chunk .allow fun grant =>
      decide (grant.subjectType = .organization)
        && decide (grant.subjectValue = reader.organizationId.str)) = true ↔
      acl.organization = true := by
  rw [grantExists_iff exact_]
  constructor
  · rintro ⟨⟨_, _, text⟩, mem, rfl, holds⟩
    simp only [Bool.and_eq_true, decide_eq_true_eq] at holds
    obtain ⟨rfl, rfl⟩ := holds
    simpa [mem_subjects] using mem
  · intro shared
    exact ⟨⟨.allow, .organization, reader.organizationId.str⟩, by simp [mem_subjects, shared], rfl,
      by simp⟩

end

lemma mem_permitted : classification ∈ permittedClassifications reader ↔
      reader.can (readPermission classification) = true := by
  cases classification <;> simp [permittedClassifications]

lemma low_iff : classification ∈ [Classification.public_, Classification.internal] ↔
      classificationLevel classification ≤ 1 := by
  cases classification <;> simp [classificationLevel]

lemma clause_agrees (exact_ : GrantsOf grants chunk.id reader.organizationId acl) :
    authorizationClause reader grants chunk = authorized reader chunk.classification acl := by
  have permission : (!(permittedClassifications reader).isEmpty &&
      decide (chunk.classification ∈ permittedClassifications reader)) =
        reader.can (readPermission chunk.classification) := by
    rw [Bool.eq_iff_iff, ← mem_permitted]
    cases listed : permittedClassifications reader <;> simp
  have deny := Bool.eq_iff_iff.2 (deny_iff exact_)
  have allow := Bool.eq_iff_iff.2 (directAllow_iff exact_)
  have shared := Bool.eq_iff_iff.2 (organizationGrant_iff exact_)
  simp only [authorizationClause, authorized, permission, deny, allow, shared, low_iff]
  cases reader.named acl.denyUsers acl.denyRoles acl.denyDepartments <;>
    cases reader.named acl.users acl.roles acl.departments <;>
    cases acl.organization <;> simp

lemma denied_hidden {filters : Document → Bool}
    (granted : GrantsOf tables.grants.rows chunk.id reader.organizationId acl)
    (denied : reader.named acl.denyUsers acl.denyRoles acl.denyDepartments = true) :
    ∀ hit ∈ candidates external filters reader tables, hit.chunk.id ≠ chunk.id := by
  intro hit mem eq
  have kept := (List.mem_filter.1 mem).2
  simp only [Bool.and_eq_true] at kept
  have permitted : authorizationClause reader tables.grants.rows hit.chunk = true := kept.1.1.2
  rw [← eq] at granted
  rw [clause_agrees granted, authorized, if_pos denied] at permitted
  cases permitted

lemma getDocument_unauthorized {document : Document} (stored : document ∈ tables.documents)
    (refused : authorized reader document.classification document.acl = false) :
    getDocument external reader tables document.id = .error (notFoundError "Document") := by
  have found : tables.documents.get? document.id = some document :=
    Table.get?_eq_some.2 ⟨stored, rfl⟩
  simp only [getDocument, found, Option.bind_some]
  split
  · rfl
  next other version row =>
  split at row
  · obtain ⟨current, _, eq⟩ := Option.map_eq_some_iff.1 row
    cases eq
    simp [refused]
  · cases row

theorem access_agrees {raw : Fields} (_accepted : validateAcl raw = .ok acl) {tables : Tables}
    {document : Document} (organization : document.organizationId = reader.organizationId)
    (listed : document.acl = acl) (classified : chunk.classification = document.classification)
    (granted : GrantsOf tables.grants.rows chunk.id document.organizationId acl) :
    (authorizationClause reader tables.grants.rows chunk = true ↔
      authorized reader document.classification document.acl = true) ∧
    (reader.named acl.denyUsers acl.denyRoles acl.denyDepartments = true →
      (∀ external filters, ∀ hit ∈ candidates external filters reader tables, hit.chunk.id ≠ chunk.id) ∧
      (document ∈ tables.documents → ∀ external,
        getDocument external reader tables document.id = .error (notFoundError "Document"))) := by
  rw [organization] at granted
  refine ⟨by rw [clause_agrees granted, classified, listed], fun denied => ⟨?_, ?_⟩⟩
  · intro external filters
    exact denied_hidden granted denied
  intro stored external
  apply getDocument_unauthorized stored
  rw [listed, authorized, if_pos denied]

end

def sampleOrganization : Uuid := .repeating 1

def sampleId (digit : Fin 16) : Uuid := ⟨digit :: List.replicate 31 2, rfl⟩

def sampleRaw : Fields := [("organization", .bool true), ("deny_roles", .arr [.str " guest "])]

def sampleAcl : Acl :=
  ⟨true, .empty, .empty, .empty, .empty, .of [⟨"guest", rfl, by decide⟩], .empty⟩

def sampleReader : Reader := ⟨⟨sampleId 0, sampleOrganization, ["*"]⟩, ["guest"], some ""⟩

def sampleDocument : Document :=
  ⟨sampleId 1, sampleOrganization, "upload", "handbook", "Handbook", .internal, sampleAcl, 1, none⟩

def sampleVersion : DocumentVersion :=
  ⟨sampleId 2, sampleOrganization, sampleId 1, 1, none, "Welcome", "", "text-v1", []⟩

def sampleChunk : DocumentChunk :=
  ⟨sampleId 3, sampleOrganization, sampleId 2, 1, [], "Welcome", .internal, sampleAcl⟩

def sampleTables : Tables where
  documents := ⟨[sampleDocument], by simp⟩
  versions := ⟨[sampleVersion], by simp⟩
  chunks := ⟨[sampleChunk], by simp⟩
  grants := ⟨grantRows sampleOrganization (sampleId 3) sampleAcl, by
    rw [List.map_id]
    exact grantRows_nodup⟩

theorem access_agrees_guest :
    (authorizationClause sampleReader sampleTables.grants.rows sampleChunk = true ↔
      authorized sampleReader .internal sampleAcl = true) ∧
    getDocument (fun _ => true) sampleReader sampleTables (sampleId 1)
      = .error (notFoundError "Document") := by
  have accepted : validateAcl sampleRaw = .ok sampleAcl := rfl
  have granted : GrantsOf sampleTables.grants.rows sampleChunk.id
      sampleDocument.organizationId sampleAcl := grantRows_exact
  have organization : sampleDocument.organizationId = sampleReader.organizationId := rfl
  obtain ⟨agrees, hides⟩ := access_agrees accepted organization rfl rfl granted
  obtain ⟨_, missing⟩ := hides rfl
  exact ⟨agrees, missing List.mem_cons_self fun _ => true⟩

end Obsion.Knowledge
