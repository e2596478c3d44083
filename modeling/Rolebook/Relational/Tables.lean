import Rolebook.Record.Entity
import Rolebook.Text.Utf8

/-!
# Tables

The rows of a database of permissions and roles. Identifiers and names are unique in their table, a
grant mentions a role and a permission that are there, and with a permission or a role go the grants
that mention it.
-/

namespace Rolebook.Relational

open Rolebook.Text (Bytes toUtf8)

/-- A row of the table of permissions. -/
structure PermissionRow where
  id : Id
  name : String
  description : Option String
  createdAt : Instant
deriving DecidableEq, Repr

/-- A row of the table of roles. -/
structure RoleRow where
  id : Id
  name : String
  revision : Int64
  createdAt : Instant
deriving DecidableEq

/-- A row of the table that says which role grants which permission. -/
structure GrantRow where
  role : Id
  permission : Id
deriving DecidableEq, Repr

/-- A row of the table of changes made to the schema. -/
structure MigrationRow where
  version : Int
  checksum : Bytes
  success : Bool
deriving DecidableEq, Repr

/-- The tables of a database. -/
structure Tables where
  permissions : List PermissionRow
  roles : List RoleRow
  grants : List GrantRow
  migrations : List MigrationRow
deriving DecidableEq

/-- Whether a row may stand before another one by ORDER BY created_at DESC, name. Names are compared
by their bytes. -/
def precedes (createdAt : α → Instant) (name : α → String) (row other : α) : Bool :=
  match compare (createdAt other).nanoseconds (createdAt row).nanoseconds with
  | .lt => true
  | .eq => !decide (toUtf8 (name other) < toUtf8 (name row))
  | .gt => false

/-- Rows in the order of this clause. -/
def orderByCreationAndName (createdAt : α → Instant) (name : α → String) (rows : List α) : List α :=
  rows.mergeSort (precedes createdAt name)

namespace Tables

/-- Tables without rows. -/
def empty : Tables :=
  ⟨[], [], [], []⟩

variable (tables : Tables)

/-- A permission together with the roles that grant it. -/
def joinPermission (row : PermissionRow) : Permission :=
  let roleIds := (tables.grants.filter fun grant => grant.permission == row.id).map GrantRow.role
  ⟨row.id, row.name, row.description, row.createdAt, .ofList roleIds⟩

/-- A role together with the permissions that it grants. Its revision is taken as a number without
sign. -/
def joinRole (row : RoleRow) : Role :=
  let permissionIds :=
    (tables.grants.filter fun grant => grant.role == row.id).map GrantRow.permission
  ⟨row.id, row.name, row.createdAt, .ofList permissionIds, row.revision.toUInt64⟩

/-- All permissions, the newest first. -/
def listPermissions : List Permission :=
  orderByCreationAndName Permission.createdAt Permission.name
    (tables.permissions.map tables.joinPermission)

/-- All roles, the newest first. -/
def listRoles : List Role :=
  orderByCreationAndName Role.createdAt Role.name
    (tables.roles.map tables.joinRole)

end Tables

end Rolebook.Relational
