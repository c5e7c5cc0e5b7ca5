import Mathlib.Data.String.Basic
import Obsion.Events.Store

/-! # Document access lists

An access list that was accepted names users, roles and departments by stripped
texts that are not blank, each list sorted and without duplicates; `Acl` carries
this.  The JSON object it is stored as is accepted again and gives it back. -/

namespace Obsion.Knowledge

open Obsion.Events (Classification)

/-- A principal with the memberships that document access reads. -/
structure Reader extends Principal where
  roles : List String
  department : Option String
  deriving DecidableEq, Repr

/-- `principal.department and ...`: an empty department counts as none. -/
def Reader.department? (reader : Reader) : Option String :=
  reader.department.filter fun department => department != ""

/-! ## Sorted sets of names -/

structure Name where
  text : String
  stripped : strip text = text
  nonblank : text ≠ ""
  deriving DecidableEq

structure Names where
  items : List Name
  sorted : items.Pairwise fun left right => left.text < right.text

lemma Name.eq_of_text {left right : Name} (eq : left.text = right.text) : left = right := by
  cases left
  cases right
  simp only at eq
  subst eq
  rfl

def Names.empty : Names := ⟨[], List.Pairwise.nil⟩

def Names.has (names : Names) (text : String) : Bool := names.items.any fun name => name.text == text

def Names.texts (names : Names) : List String := names.items.map Name.text

variable {names : Names} {organizationId chunkId : Uuid}

lemma Names.has_iff {text : String} : names.has text = true ↔ text ∈ names.texts := by
  simp [Names.has, Names.texts]

def nameOrder (left right : Name) : Prop := left.text ≤ right.text

instance : DecidableRel nameOrder := fun _ _ => inferInstanceAs (Decidable (_ ≤ _))

instance : Std.Total nameOrder := ⟨fun left right => le_total left.text right.text⟩

instance : IsTrans Name nameOrder := ⟨fun _ _ _ first second => le_trans first second⟩

/-- `sorted({...})` -/
def Names.of (items : List Name) : Names where
  items := items.dedup.insertionSort nameOrder
  sorted := by
    have ordered := items.dedup.pairwise_insertionSort nameOrder
    have distinct : (items.dedup.insertionSort nameOrder).Nodup :=
      (items.dedup.perm_insertionSort nameOrder).nodup_iff.mpr items.nodup_dedup
    refine (ordered.and distinct).imp ?_
    intro left right both
    exact lt_of_le_of_ne both.1 fun same => both.2 (Name.eq_of_text same)

structure Acl where
  organization : Bool
  users : Names
  roles : Names
  departments : Names
  denyUsers : Names
  denyRoles : Names
  denyDepartments : Names

/-- The source iterates over a set of these keys: its order decides which of
several bad fields an error names. -/
def aclListKeys : List String :=
  ["users", "roles", "departments", "deny_users", "deny_roles", "deny_departments"]

def aclKeys : List String := "organization" :: aclListKeys

def nameItem? : Json → Option Name
  | .str value =>
    if nonblank : strip value ≠ "" then some ⟨strip value, strip_strip value, nonblank⟩ else none
  | _ => none

def listField (acl : Fields) (key : String) : Except ObsionError Names :=
  let invalid := validationError "document_acl_invalid"
    ("The " ++ key ++ " ACL field must be a list of strings")
  match acl.get? key with
  | none => .ok Names.empty
  | some value =>
    match value.values?.bind fun values => values.mapM nameItem? with
    | none => .error invalid
    | some items => .ok (Names.of items)

def organizationField (acl : Fields) : Except ObsionError Bool :=
  match acl.get? "organization" with
  | none => .ok false
  | some (.bool value) => .ok value
  | some _ =>
    .error (validationError "document_acl_invalid" "The organization ACL field must be a boolean")

def validateAcl (acl : Fields) : Except ObsionError Acl :=
  if acl.any fun field => field.1 ∉ aclKeys then
    .error (validationError "document_acl_invalid" "Document ACL contains unsupported fields")
  else do
    let organization ← organizationField acl
    let users ← listField acl "users"
    let roles ← listField acl "roles"
    let departments ← listField acl "departments"
    let denyUsers ← listField acl "deny_users"
    let denyRoles ← listField acl "deny_roles"
    let denyDepartments ← listField acl "deny_departments"
    return { organization, users, roles, departments, denyUsers, denyRoles, denyDepartments }

def Names.json (names : Names) : Json := .arr (names.items.map fun name => .str name.text)

/-- The JSON object that `_validate_acl` returns and the rows store. -/
def Acl.fields (acl : Acl) : Fields :=
  [("organization", .bool acl.organization), ("users", acl.users.json),
    ("roles", acl.roles.json), ("departments", acl.departments.json),
    ("deny_users", acl.denyUsers.json), ("deny_roles", acl.denyRoles.json),
    ("deny_departments", acl.denyDepartments.json)]

lemma Names.of_items (names : Names) : Names.of names.items = names := by
  obtain ⟨items, sorted⟩ := names
  have distinct : items.Nodup := sorted.imp fun less eq => less.ne (congrArg Name.text eq)
  have ordered : items.insertionSort nameOrder = items :=
    List.Pairwise.insertionSort_eq (sorted.imp fun less => less.le)
  simp only [Names.of, List.dedup_eq_self.2 distinct, ordered]

lemma listField_json {fields : Fields} {key : String} {names : Names} (stored : fields.get? key = some names.json) :
    listField fields key = .ok names := by
  have item (name : Name) : nameItem? (.str name.text) = some name := by
    simp only [nameItem?, name.stripped, name.nonblank, ne_eq, not_false_eq_true, dite_true]
  have read : (names.items.map fun name => Json.str name.text).mapM nameItem? = some names.items := by
    induction names.items with
    | nil => rfl
    | cons name rest ih => rw [List.map_cons, List.mapM_cons, item, ih]; rfl
  have values : names.json.values? = some (names.items.map fun name => Json.str name.text) := rfl
  simp only [listField, stored, values, Option.bind_some, read, Names.of_items]

/-- The stored object of an access list is accepted, and read as the list itself. -/
theorem validateAcl_fields (acl : Acl) : validateAcl acl.fields = .ok acl := by
  have known : (acl.fields.any fun field => field.1 ∉ aclKeys) = false := by
    simp [Acl.fields, aclKeys, aclListKeys]
  have users : listField acl.fields "users" = .ok acl.users := listField_json rfl
  have roles : listField acl.fields "roles" = .ok acl.roles := listField_json rfl
  have departments : listField acl.fields "departments" = .ok acl.departments := listField_json rfl
  have denyUsers : listField acl.fields "deny_users" = .ok acl.denyUsers := listField_json rfl
  have denyRoles : listField acl.fields "deny_roles" = .ok acl.denyRoles := listField_json rfl
  have denyDepartments : listField acl.fields "deny_departments" = .ok acl.denyDepartments := listField_json rfl
  rw [validateAcl, known, if_neg Bool.false_ne_true, users, roles, departments, denyUsers, denyRoles, denyDepartments]
  rfl

/-! ## Grants of a chunk -/

inductive Effect
  | allow
  | deny
  deriving DecidableEq, Repr

def Effect.value : Effect → String
  | .allow => "ALLOW"
  | .deny => "DENY"

inductive SubjectType
  | user
  | role
  | department
  | organization
  deriving DecidableEq, Repr

def SubjectType.value : SubjectType → String
  | .user => "USER"
  | .role => "ROLE"
  | .department => "DEPARTMENT"
  | .organization => "ORGANIZATION"

structure Subject where
  effect : Effect
  subjectType : SubjectType
  subjectValue : String
  deriving DecidableEq, Repr

structure DocumentChunkGrant extends Subject where
  organizationId : Uuid
  chunkId : Uuid
  deriving DecidableEq, Repr

/-- The order of the tuples `(effect, subject_type, subject_value)`. -/
def subjectOrder (left right : Subject) : Prop :=
  left.effect.value < right.effect.value ∨ left.effect = right.effect ∧
    (left.subjectType.value < right.subjectType.value ∨ left.subjectType = right.subjectType ∧
      left.subjectValue ≤ right.subjectValue)

instance : DecidableRel subjectOrder := fun left right => by
  unfold subjectOrder
  exact inferInstance

def Names.subjects (names : Names) (effect : Effect) (subjectType : SubjectType) : List Subject :=
  names.texts.map fun text => ⟨effect, subjectType, text⟩

def subjects (organizationId : Uuid) (acl : Acl) : List Subject :=
  acl.users.subjects .allow .user ++ acl.roles.subjects .allow .role ++
    acl.departments.subjects .allow .department ++ acl.denyUsers.subjects .deny .user ++
    acl.denyRoles.subjects .deny .role ++ acl.denyDepartments.subjects .deny .department ++
    if acl.organization then [⟨.allow, .organization, organizationId.str⟩] else []

def grantRows (organizationId chunkId : Uuid) (acl : Acl) : List DocumentChunkGrant :=
  ((subjects organizationId acl).dedup.insertionSort subjectOrder).map fun subject =>
    { toSubject := subject, organizationId, chunkId }

@[simp] lemma Names.mem_subjects {effect : Effect} {subjectType : SubjectType} {subject : Subject} :
    subject ∈ names.subjects effect subjectType ↔
      names.has subject.subjectValue = true ∧ subject.effect = effect
        ∧ subject.subjectType = subjectType := by
  rw [Names.has_iff, Names.subjects, List.mem_map]
  constructor
  · rintro ⟨text, mem, rfl⟩
    exact ⟨mem, rfl, rfl⟩
  rintro ⟨mem, rfl, rfl⟩
  exact ⟨subject.subjectValue, mem, rfl⟩

variable {acl : Acl}

lemma mem_grantRows {grant : DocumentChunkGrant} : grant ∈ grantRows organizationId chunkId acl ↔
      grant.toSubject ∈ subjects organizationId acl ∧ grant.organizationId = organizationId
        ∧ grant.chunkId = chunkId := by
  simp only [grantRows, List.mem_map, List.mem_insertionSort, List.mem_dedup]
  constructor
  · rintro ⟨subject, mem, rfl⟩
    exact ⟨mem, rfl, rfl⟩
  rintro ⟨mem, rfl, rfl⟩
  exact ⟨grant.toSubject, mem, rfl⟩

lemma nodup_sortedSubjects : ((subjects organizationId acl).dedup.insertionSort subjectOrder).Nodup :=
  (List.perm_insertionSort subjectOrder _).nodup_iff.2 (List.nodup_dedup _)

lemma grantRows_nodup : (grantRows organizationId chunkId acl).Nodup :=
  nodup_sortedSubjects.map fun _ _ => congrArg DocumentChunkGrant.toSubject

end Obsion.Knowledge
