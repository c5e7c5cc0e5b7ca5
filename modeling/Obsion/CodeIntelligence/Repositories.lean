import Obsion.Base.Text
import Obsion.Knowledge.Documents

/-! # Code repositories

Repositories, their access lists and grants, and the queries over the code graph.  An
access list has the shape of that of a document; only the texts of its errors and the
permissions differ.  Of the graph the columns that the queries read are kept. -/

namespace Obsion.CodeIntelligence

open Obsion.Lib
open Obsion.Events (Classification)
open Obsion.Knowledge (Acl Effect Names Reader Subject SubjectType aclKeys aclListKeys
  classificationLevel nameItem? subjectClause subjectOrder subjects)

structure CodeRepository where
  id : Uuid
  organizationId : Uuid
  name : String
  defaultBranch : String
  classification : Classification
  acl : Acl
  currentSnapshotId : Option Uuid := none
  deletedAt : Option Time := none

structure CodeRepositoryGrant extends Subject where
  organizationId : Uuid
  repositoryId : Uuid
  deriving DecidableEq

def CodeRepositoryGrant.key (grant : CodeRepositoryGrant) : Uuid × Subject :=
  (grant.repositoryId, grant.toSubject)

structure Database where
  repositories : Table CodeRepository.id
  grants : Table CodeRepositoryGrant.key

inductive Fault
  | refused (error : ObsionError)
  /-- A constraint of the database. -/
  | crashed

def readPermission (classification : Classification) : String :=
  "code.read." ++ lower classification.value

def authorized (principal : Reader) (classification : Classification) (acl : Acl) : Bool :=
  if principal.named acl.denyUsers acl.denyRoles acl.denyDepartments then false
  else if principal.named acl.users acl.roles acl.departments then true
  else if acl.organization && classificationLevel classification ≤ 1 then true
  else principal.can (readPermission classification)

def listField (acl : Fields) (key : String) : Except ObsionError Names :=
  match acl.get? key with
  | none => .ok Names.empty
  | some value =>
    match value.values?.bind fun values => values.mapM nameItem? with
    | none =>
      .error (validationError "code_acl_invalid"
        ("The " ++ key ++ " ACL field must be a list of strings"))
    | some items => .ok (Names.of items)

def organizationField (acl : Fields) : Except ObsionError Bool :=
  match acl.get? "organization" with
  | none => .ok false
  | some (.bool value) => .ok value
  | some _ =>
    .error (validationError "code_acl_invalid" "The organization ACL field must be a boolean")

def validateAcl (acl : Fields) : Except ObsionError Acl :=
  if acl.any fun field => field.1 ∉ aclKeys then
    .error (validationError "code_acl_invalid" "Repository ACL contains unsupported fields")
  else do
    let organization ← organizationField acl
    let users ← listField acl "users"
    let roles ← listField acl "roles"
    let departments ← listField acl "departments"
    let denyUsers ← listField acl "deny_users"
    let denyRoles ← listField acl "deny_roles"
    let denyDepartments ← listField acl "deny_departments"
    return { organization, users, roles, departments, denyUsers, denyRoles, denyDepartments }

def grantRows (organizationId repositoryId : Uuid) (acl : Acl) : List CodeRepositoryGrant :=
  ((subjects organizationId acl).dedup.insertionSort subjectOrder).map fun subject =>
    { toSubject := subject, organizationId, repositoryId }

/-- An EXISTS over the grants of the repository in the principal's organization. -/
def grantExists (principal : Reader) (grants : List CodeRepositoryGrant)
    (repository : CodeRepository) (effect : Effect) (clause : Subject → Bool) : Bool :=
  grants.any fun grant => grant.repositoryId = repository.id &&
    grant.organizationId = principal.organizationId && grant.effect = effect &&
    clause grant.toSubject

def permittedClassifications (principal : Reader) : List Classification :=
  [.public_, .internal, .confidential, .restricted].filter fun classification =>
    principal.can (readPermission classification)

def repositoryAccessClause (principal : Reader) (grants : List CodeRepositoryGrant)
    (repository : CodeRepository) : Bool :=
  let deny := grantExists principal grants repository .deny (subjectClause principal false)
  let directAllow := grantExists principal grants repository .allow (subjectClause principal false)
  let organizationAllow :=
    decide (repository.classification ∈ [Classification.public_, Classification.internal]) &&
      grantExists principal grants repository .allow fun grant =>
        grant.subjectType = .organization && grant.subjectValue = principal.organizationId.str
  let permitted := permittedClassifications principal
  let permissionAllow := !permitted.isEmpty && decide (repository.classification ∈ permitted)
  repository.deletedAt.isNone && !deny && (directAllow || organizationAllow || permissionAllow)

structure RepositoryRequest where
  name : String
  classification : Classification
  acl : Fields
  defaultBranch : String := "main"

/-- `text or default` -/
def textOr (text default : String) : String := if text = "" then default else text

/-- The row that is stored, under a new id where the organization has no repository of
that name. -/
def storedRepository (principal : Reader) (request : RepositoryRequest) (acl : Acl) (newId : Uuid)
    (found : Option CodeRepository) : CodeRepository :=
  match found with
  | none =>
    { id := newId, organizationId := principal.organizationId, name := strip request.name
      defaultBranch := textOr (strip request.defaultBranch) "main"
      classification := request.classification, acl := acl }
  | some repository =>
    { repository with
      classification := request.classification, acl := acl
      defaultBranch := textOr (strip request.defaultBranch) repository.defaultBranch
      deletedAt := none }

def storeRepository (found : Option CodeRepository) (repository : CodeRepository)
    (repositories : Table CodeRepository.id) : Option (Table CodeRepository.id) :=
  match found with
  | none => repositories.insert? repository
  | some _ => some (repositories.put repository)

/-- The DELETE of the grants of a repository, and the INSERT of those of its access list. -/
def replaceGrants (repository : CodeRepository) (organizationId : Uuid)
    (grants : Table CodeRepositoryGrant.key) : Option (Table CodeRepositoryGrant.key) :=
  (grants.delete fun grant =>
    grant.organizationId = organizationId && grant.repositoryId = repository.id).insertAll?
      (grantRows organizationId repository.id repository.acl)

def upsertRepository (principal : Reader) (request : RepositoryRequest) (newId : Uuid)
    (database : Database) : Except Fault (Database × CodeRepository) :=
  if ¬ principal.can "code.write" then
    .error (.refused (authorizationError "code_write_denied" "Code Graph ingestion is not permitted"))
  else if request.acl.isEmpty then
    .error (.refused (validationError "code_acl_required" "An explicit repository ACL is required"))
  else
    match validateAcl request.acl with
    | .error error => .error (.refused error)
    | .ok acl =>
      if strip request.name = "" then
        .error (.refused (validationError "code_acl_invalid" "Repository name is required"))
      else
        let found := database.repositories.rows.find? fun repository =>
          repository.organizationId = principal.organizationId && repository.name = strip request.name
        let repository := storedRepository principal request acl newId found
        match storeRepository found repository database.repositories,
          replaceGrants repository principal.organizationId database.grants with
        | some repositories, some grants => .ok ({ repositories, grants }, repository)
        | _, _ => .error .crashed

inductive CodeSymbolKind
  | module_
  | class_
  | function
  | method
  | api
  | table
  deriving DecidableEq, Repr

inductive CodeRelation
  | contains
  | calls
  | references
  | dependsOn
  | readsTable
  | writesTable
  | exposesApi
  deriving DecidableEq, Repr

structure CodeSymbol where
  id : Uuid
  organizationId : Uuid
  snapshotId : Uuid
  repositoryId : Uuid
  fileId : Uuid
  kind : CodeSymbolKind
  name : String
  qualifiedName : String

structure CodeSnapshot where
  id : Uuid
  commitId : String

structure CodeSourceFile where
  id : Uuid
  path : String
  language : String

structure CodeGraphEdge where
  organizationId : Uuid
  fromSymbolId : Uuid
  toSymbolId : Option Uuid
  relation : CodeRelation

structure CodeGraph where
  symbols : List CodeSymbol
  snapshots : List CodeSnapshot
  files : List CodeSourceFile
  edges : List CodeGraphEdge

structure SymbolHit where
  repositoryId : Uuid
  repository : String
  commitId : String
  snapshotId : Uuid
  symbolId : Uuid
  path : String
  language : String
  kind : CodeSymbolKind
  name : String
  qualifiedName : String
  relations : List (CodeRelation × String) := []

structure Joined where
  symbol : CodeSymbol
  repository : CodeRepository
  snapshot : CodeSnapshot
  source : CodeSourceFile

def joined (database : Database) (graph : CodeGraph) : List Joined :=
  graph.symbols.flatMap fun symbol =>
    (database.repositories.select fun row => row.id = symbol.repositoryId).flatMap fun repository =>
      (graph.snapshots.filter fun row => row.id = symbol.snapshotId).flatMap fun snapshot =>
        (graph.files.filter fun row => row.id = symbol.fileId).map fun source =>
          ⟨symbol, repository, snapshot, source⟩

def hit (row : Joined) (relations : List (CodeRelation × String)) : SymbolHit where
  repositoryId := row.repository.id
  repository := row.repository.name
  commitId := row.snapshot.commitId
  snapshotId := row.snapshot.id
  symbolId := row.symbol.id
  path := row.source.path
  language := row.source.language
  kind := row.symbol.kind
  name := row.symbol.name
  qualifiedName := row.symbol.qualifiedName
  relations := relations

/-! ## Queries -/

/-- What the database and the regular expressions take from the Unicode tables. -/
structure Library where
  /-- The class `\w` of regular expressions -/
  word : Char → Bool
  /-- `column ILIKE pattern` -/
  ilike : String → String → Bool

def searchTokens (library : Library) (term : String) : List String :=
  let name := fun char : Char => library.word char || char = '.'
  let pattern := Text.Pattern.either
    (.both (.one fun char => char.isAlpha || char = '_') (.many name))
    (.both (.one (· = '/')) (.some_ fun char => name char || char = '/' || char = '-'))
  (Text.findAll library.word pattern term.toList.length none term.toList).map String.ofList

def textMatches (library : Library) (term : String) (row : Joined) : Bool :=
  let like := fun column pattern => library.ilike column ("%" ++ pattern ++ "%")
  let named := fun pattern => like row.symbol.name pattern ||
    like row.symbol.qualifiedName pattern || like row.source.path pattern
  row.symbol.qualifiedName = term || named term ||
    ((searchTokens library term).eraseDups.take 12).any fun token =>
      2 ≤ token.length && named token

def symbolRank (library : Library) (term : String) (row : SymbolHit) : Nat × Int × String :=
  let needle := Text.casefold term
  let name := Text.casefold row.name
  let qualified := Text.casefold row.qualifiedName
  let tokens := ((searchTokens library term).filter fun token => 2 ≤ token.length).map Text.casefold
  let pathToken := (tokens.find? fun token => startsWith token "/").getD ""
  let size := -(row.name.length : Int)
  if pathToken ≠ "" ∧ row.kind = .api ∧ (isIn pathToken name ∨ isIn pathToken qualified) then
    (0, size, qualified)
  else if qualified = needle ∨ name = needle then (1, size, qualified)
  else if row.kind ∈ [.function, .method] ∧ tokens.any fun token => isIn token name then
    (2, size, qualified)
  else if row.kind ∈ [.class_, .table] ∧
      tokens.any fun token => isIn token name || isIn token qualified then (3, size, qualified)
  else (4, size, qualified)

def rankOrder (left right : Nat × Int × String) : Prop :=
  left.1 < right.1 ∨ left.1 = right.1 ∧
    (left.2.1 < right.2.1 ∨ left.2.1 = right.2.1 ∧ left.2.2 ≤ right.2.2)

instance : DecidableRel rankOrder := fun left right => by
  unfold rankOrder
  exact inferInstance

def searchable (principal : Reader) (database : Database) (repository : Option String)
    (row : Joined) : Bool :=
  row.symbol.organizationId = principal.organizationId &&
    row.repository.organizationId = principal.organizationId &&
    row.repository.currentSnapshotId = some row.snapshot.id &&
    repositoryAccessClause principal database.grants.rows row.repository &&
    repository.all fun name => name = "" || row.repository.name = name

/-- `(qualified_name or query).strip()` -/
def searchTerm (query : String) (qualifiedName : Option String) : String :=
  strip (textOr (qualifiedName.getD "") query)

def searchSymbols (library : Library) (principal : Reader) (query : String)
    (repository qualifiedName : Option String) (limit : Nat) (database : Database)
    (graph : CodeGraph) : Except ObsionError (List SymbolHit) :=
  let term := searchTerm query qualifiedName
  if term = "" then
    .error (validationError "code_operation_invalid" "A symbol query is required")
  else
    let rows := (joined database graph).filter fun row =>
      searchable principal database repository row && textMatches library term row
    let hits := (rows.take (min (max (limit * 5) 40) 100)).map fun row => hit row []
    .ok ((hits.insertionSort fun left right =>
      rankOrder (symbolRank library term left) (symbolRank library term right)).take limit)

inductive GraphOperation
  | reference
  | callers
  | callees
  deriving DecidableEq, Repr

/-- The symbol that an edge leads to from the origin, and the origin's side of the edge. -/
def GraphOperation.connects (operation : GraphOperation) (edge : CodeGraphEdge)
    (origin symbol : Uuid) : Bool :=
  match operation with
  | .callees => edge.toSymbolId = some symbol && edge.fromSymbolId = origin
  | .reference | .callers => edge.fromSymbolId = symbol && edge.toSymbolId = some origin

def GraphOperation.relation : GraphOperation → CodeRelation
  | .reference => .references
  | .callers | .callees => .calls

/-- The origin: the first hit that is a function, a method or a class, or the first hit. -/
def originOf (hits : List SymbolHit) : Option SymbolHit :=
  (hits.find? fun found => found.kind ∈ [.function, .method, .class_]).or hits.head?

def relatedSymbols (library : Library) (principal : Reader) (operation : GraphOperation)
    (symbol : String) (repository : Option String) (limit : Nat) (database : Database)
    (graph : CodeGraph) : Except ObsionError (List SymbolHit) := do
  let origins ← searchSymbols library principal symbol repository (some symbol) 8 database graph
  match originOf origins with
  | none => .ok []
  | some origin =>
    let rows := (joined database graph).flatMap fun row =>
      (graph.edges.filter fun edge =>
        edge.organizationId = principal.organizationId && edge.relation = operation.relation &&
          operation.connects edge origin.symbolId row.symbol.id &&
          row.repository.currentSnapshotId = some row.snapshot.id &&
          repositoryAccessClause principal database.grants.rows row.repository).map
        fun edge => (row, edge)
    .ok ((rows.take (min limit 100)).map fun found =>
      hit found.1 [(found.2.relation, origin.qualifiedName)])

def listRepositories (principal : Reader) (database : Database) : List CodeRepository :=
  database.repositories.select fun repository =>
    repository.organizationId = principal.organizationId &&
      repositoryAccessClause principal database.grants.rows repository

inductive Action
  | upsert (principal : Reader) (request : RepositoryRequest) (newId : Uuid)
  /-- `index_snapshot` makes a snapshot the current one. -/
  | index (repositoryId snapshotId : Uuid)
  /-- `deleted_at` is set; no function of the service does so. -/
  | delete (repositoryId : Uuid) (deletedAt : Time)

def changeRepository (id : Uuid) (change : CodeRepository → CodeRepository)
    (keeps : ∀ row, (change row).id = row.id) (database : Database) : Database :=
  { database with
    repositories := database.repositories.update (fun row => if row.id = id then change row else row) (by
      intro row
      split
      · exact keeps row
      rfl) }

def perform (database : Database) : Action → Option Database
  | .upsert principal request newId =>
    match upsertRepository principal request newId database with
    | .ok (after, _) => some after
    | .error _ => none
  | .index repositoryId snapshotId =>
    some (changeRepository repositoryId
      (fun row => { row with currentSnapshotId := some snapshotId }) (fun _ => rfl) database)
  | .delete repositoryId deletedAt =>
    some (changeRepository repositoryId (fun row => { row with deletedAt := some deletedAt })
      (fun _ => rfl) database)

def Empty (database : Database) : Prop :=
  database.repositories = .empty ∧ database.grants = .empty

def ingestion : System Database Action := System.ofPartial Empty perform

end Obsion.CodeIntelligence
