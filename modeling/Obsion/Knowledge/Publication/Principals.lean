import Obsion.Knowledge.Acl
import Obsion.Lib.Table

/-! # Loading a principal

A principal is read back from the directory each time access is decided again.
The external ids of an organization are unique, so that the second lookup finds
the user of the first. -/

namespace Obsion.Knowledge.Publication

open Obsion.Lib

structure User where
  id : Uuid
  organizationId : Uuid
  externalId : String
  departmentId : Option Uuid
  active : Bool

structure Department where
  id : Uuid
  organizationId : Uuid
  name : String

structure Role where
  id : Uuid
  organizationId : Uuid
  name : String
  permissions : List Json

structure UserRole where
  organizationId : Uuid
  userId : Uuid
  roleId : Uuid

def UserRole.key (row : UserRole) : Uuid × Uuid := (row.userId, row.roleId)

def User.external (user : User) : Uuid × String := (user.organizationId, user.externalId)

structure Directory where
  users : Table User.id
  /-- `uq_users_organization_id_external_id` -/
  externals : (users.rows.map User.external).Nodup
  departments : Table Department.id
  roles : Table Role.id
  userRoles : Table UserRole.key

def Directory.department (directory : Directory) (user : User) : Option Department :=
  directory.departments.rows.find? fun department =>
    department.organizationId = user.organizationId && user.departmentId = some department.id

def Directory.held (directory : Directory) (user : User) : List Role :=
  (directory.userRoles.select fun row =>
    row.organizationId = user.organizationId && row.userId = user.id).flatMap fun row =>
      directory.roles.select fun role =>
        role.organizationId = row.organizationId && role.id = row.roleId

def loadPrincipal (directory : Directory) (organizationId : Uuid) (externalId : String) :
    Except ObsionError Reader :=
  match directory.users.select fun user =>
      user.organizationId = organizationId && user.externalId = externalId && user.active with
  | [] => .error (authorizationError "unknown_principal" "The authenticated user is not provisioned")
  | user :: _ => .ok {
      id := user.id, organizationId := user.organizationId
      permissions := (directory.held user).flatMap fun role => role.permissions.filterMap Json.str?
      roles := (directory.held user).map Role.name
      department := (directory.department user).map Department.name }

def loadPrincipalById (directory : Directory) (organizationId userId : Uuid) :
    Except ObsionError Reader :=
  match directory.users.rows.find? fun user =>
      user.id = userId && user.organizationId = organizationId && user.active with
  | none => .error (authorizationError "unknown_principal" "The run owner is not provisioned")
  | some user => loadPrincipal directory organizationId user.externalId

lemma loadPrincipalById_ok {directory : Directory} {organizationId userId : Uuid}
    {current : Reader} (run : loadPrincipalById directory organizationId userId = .ok current) :
    current.id = userId ∧ current.organizationId = organizationId := by
  unfold loadPrincipalById at run
  split at run
  · cases run
  next user found =>
  have stored := List.mem_of_find?_eq_some found
  have chosen := List.find?_some found
  simp only [Bool.and_eq_true, decide_eq_true_eq] at chosen
  obtain ⟨⟨named, owned⟩, _⟩ := chosen
  unfold loadPrincipal at run
  split at run
  · cases run
  next other rest selected =>
  have mem : other ∈ directory.users.select _ := selected ▸ List.mem_cons_self
  obtain ⟨otherStored, keys⟩ := Table.mem_select.1 mem
  simp only [Bool.and_eq_true, decide_eq_true_eq] at keys
  obtain ⟨⟨otherOwned, external⟩, _⟩ := keys
  have eq : other = user := by
    apply List.inj_on_of_nodup_map directory.externals otherStored stored
    rw [User.external, User.external, otherOwned, external, owned]
  cases run
  rw [eq]
  exact ⟨named, owned⟩

end Obsion.Knowledge.Publication
