import Rolebook.Relational.Tables

/-!
# Statements

What a database can be asked to do with its tables. A statement that fails changes nothing.
-/

namespace Rolebook.Relational

open Rolebook.Text (Bytes)

/-- Why a database does not do what it was asked for. -/
structure DatabaseError where
  code : String
  message : String
deriving DecidableEq, Repr

namespace DatabaseError

/-- The code of an error for a value that has to be unique and is not. -/
def uniqueViolation : String := "23505"

/-- A name is in the table already. -/
def nameTaken (kind : EntityKind) : DatabaseError :=
  ⟨uniqueViolation, "duplicate key value violates unique constraint \"" ++
    kind.noun ++ "s_name_key\""⟩

/-- The key of a row is in the table already. -/
def keyTaken (table : String) : DatabaseError :=
  ⟨uniqueViolation, "duplicate key value violates unique constraint \"" ++ table ++ "_pkey\""⟩

/-- A name has nothing but spaces. -/
def blankName (kind : EntityKind) : DatabaseError :=
  ⟨"23514", "new row for relation \"" ++ kind.noun ++ "s\" violates check constraint \"" ++
    kind.noun ++ "s_name_check\""⟩

/-- A grant mentions an entity that is not there. -/
def unknownReference (kind : EntityKind) : DatabaseError :=
  ⟨"23503", "insert or update on table \"role_permissions\" violates foreign key constraint " ++
    "\"role_permissions_" ++ kind.noun ++ "_id_fkey\""⟩

/-- A number has grown out of its range. -/
def outOfRange : DatabaseError :=
  ⟨"22003", "bigint out of range"⟩

/-- A text has the character that no text of the database can have. -/
def nulCharacter : DatabaseError :=
  ⟨"22021", "invalid byte sequence for encoding \"UTF8\": 0x00"⟩

end DatabaseError

/-- A statement. -/
inductive Statement
  | listPermissions
  | permissionById (id : Id)
  | permissionByName (name : String)
  | insertPermission (id : Id) (name : String) (description : Option String)
  | updatePermission (id : Id) (name : String) (description : Option String)
  /-- Moves the roles that grant a permission on to their next revisions. -/
  | bumpHolders (permission : Id)
  | deletePermission (id : Id)
  | countPermissions
  | listRoles
  | roleById (id : Id)
  | roleByName (name : String)
  | insertRole (id : Id) (name : String)
  | updateRole (id : Id) (name : String)
  | deleteRole (id : Id)
  | countRoles
  | roleExists (id : Id)
  | grantsOfRole (id : Id)
  /-- The revision of a role, which no one else may change until the transaction ends. -/
  | lockRole (id : Id)
  /-- Those of the identifiers that belong to permissions. -/
  | knownPermissions (ids : List Id)
  | deleteGrants (role : Id)
  | insertGrants (role : Id) (permissions : List Id)
  /-- Moves a role on to its next revision. -/
  | bumpRole (id : Id)
  | ping
  | currentDatabase
  | migrationLock
  | migrationsTable
  /-- The version of a change to the schema that was not finished. -/
  | dirtyMigration
  /-- The versions and checksums of the changes to the schema. -/
  | appliedMigrations
  | applyMigration
  | recordMigration (version : Int) (checksum : Bytes)
  | timeMigration
  | migrationUnlock
deriving DecidableEq

/-- What a statement results in if it succeeds. -/
def Statement.Value : Statement → Type
  | .listPermissions => List Permission
  | .permissionById _ => Option Permission
  | .permissionByName _ => Option Permission
  | .insertPermission _ _ _ => Instant
  | .updatePermission _ _ _ => Nat
  | .bumpHolders _ => Unit
  | .deletePermission _ => Nat
  | .countPermissions => Nat
  | .listRoles => List Role
  | .roleById _ => Option Role
  | .roleByName _ => Option Role
  | .insertRole _ _ => Instant
  | .updateRole _ _ => Nat
  | .deleteRole _ => Nat
  | .countRoles => Nat
  | .roleExists _ => Bool
  | .grantsOfRole _ => IdSet
  | .lockRole _ => Option Revision
  | .knownPermissions _ => List Id
  | .deleteGrants _ => Unit
  | .insertGrants _ _ => Unit
  | .bumpRole _ => Unit
  | .ping => Unit
  | .currentDatabase => Unit
  | .migrationLock => Unit
  | .migrationsTable => Unit
  | .dirtyMigration => Option Int
  | .appliedMigrations => List (Int × Bytes)
  | .applyMigration => Unit
  | .recordMigration _ _ => Unit
  | .timeMigration => Unit
  | .migrationUnlock => Unit

/-- The name of a statement. -/
def Statement.label : Statement → String
  | .listPermissions => "list_permissions"
  | .permissionById _ => "permission_by_id"
  | .permissionByName _ => "permission_by_name"
  | .insertPermission _ _ _ => "insert_permission"
  | .updatePermission _ _ _ => "update_permission"
  | .bumpHolders _ => "bump_holders"
  | .deletePermission _ => "delete_permission"
  | .countPermissions => "count_permissions"
  | .listRoles => "list_roles"
  | .roleById _ => "role_by_id"
  | .roleByName _ => "role_by_name"
  | .insertRole _ _ => "insert_role"
  | .updateRole _ _ => "update_role"
  | .deleteRole _ => "delete_role"
  | .countRoles => "count_roles"
  | .roleExists _ => "role_exists"
  | .grantsOfRole _ => "grants_of_role"
  | .lockRole _ => "lock_role"
  | .knownPermissions _ => "known_permissions"
  | .deleteGrants _ => "delete_grants"
  | .insertGrants _ _ => "insert_grants"
  | .bumpRole _ => "bump_role"
  | .ping => "ping"
  | .currentDatabase => "current_database"
  | .migrationLock => "migration_lock"
  | .migrationsTable => "migrations_table"
  | .dirtyMigration => "dirty_migration"
  | .appliedMigrations => "applied_migrations"
  | .applyMigration => "apply_migration"
  | .recordMigration _ _ => "record_migration"
  | .timeMigration => "time_migration"
  | .migrationUnlock => "migration_unlock"

/-- The texts that a statement hands to the database. -/
def Statement.texts : Statement → List String
  | .permissionById id | .bumpHolders id | .deletePermission id | .roleById id
  | .deleteRole id | .roleExists id
  | .grantsOfRole id | .lockRole id | .deleteGrants id | .bumpRole id => [id]
  | .permissionByName name | .roleByName name => [name]
  | .insertPermission id name description | .updatePermission id name description =>
    id :: name :: description.toList
  | .insertRole id name | .updateRole id name => [id, name]
  | .knownPermissions ids => ids
  | .insertGrants role permissions => role :: permissions
  | _ => []

/-- The next revision of a role, as long as it is in the range of signed numbers. -/
def RoleRow.bump (row : RoleRow) : Except DatabaseError RoleRow :=
  if row.revision = Int64.maxValue then
    .error .outOfRange
  else
    .ok { row with revision := row.revision + 1 }

/-- The roles, those that pass a test moved on to their next revisions. -/
def bumpRoles (test : RoleRow → Bool) (rows : List RoleRow) : Except DatabaseError (List RoleRow) :=
  rows.mapM fun row => if test row then row.bump else .ok row

/-- Whether a name is refused by the check on names, which looks for anything other than spaces. -/
def isRefusedName (name : String) : Bool :=
  name.toList.all (· == ' ')

namespace Tables

variable (tables : Tables)

/-- Adds a permission. -/
def insertPermission (now : Instant) (id : Id) (name : String) (description : Option String) :
    Except DatabaseError (Instant × Tables) :=
  if isRefusedName name then
    .error (.blankName .permission)
  else if tables.permissions.any fun row => row.id == id then
    .error (.keyTaken "permissions")
  else if tables.permissions.any fun row => row.name == name then
    .error (.nameTaken .permission)
  else
    .ok (now, { tables with permissions := tables.permissions ++ [⟨id, name, description, now⟩] })

/-- Gives a permission another name and description, and says how many rows that concerns. -/
def updatePermission (id : Id) (name : String) (description : Option String) :
    Except DatabaseError (Nat × Tables) :=
  let (changed, others) := tables.permissions.partition fun row => row.id == id
  if changed.isEmpty then
    .ok (0, tables)
  else if isRefusedName name then
    .error (.blankName .permission)
  else if others.any fun row => row.name == name then
    .error (.nameTaken .permission)
  else
    let change (row : PermissionRow) := if row.id == id then { row with name, description } else row
    .ok (changed.length, { tables with permissions := tables.permissions.map change })

/-- Removes a permission with its grants, and says how many rows that concerns. -/
def deletePermission (id : Id) : Nat × Tables :=
  let (deleted, others) := tables.permissions.partition fun row => row.id == id
  if deleted.isEmpty then
    (0, tables)
  else
    (deleted.length,
      { tables with
        permissions := others
        grants := tables.grants.filter fun grant => grant.permission != id })

/-- Adds a role. -/
def insertRole (now : Instant) (id : Id) (name : String) :
    Except DatabaseError (Instant × Tables) :=
  if isRefusedName name then
    .error (.blankName .role)
  else if tables.roles.any fun row => row.id == id then
    .error (.keyTaken "roles")
  else if tables.roles.any fun row => row.name == name then
    .error (.nameTaken .role)
  else
    .ok (now, { tables with roles := tables.roles ++ [⟨id, name, 0, now⟩] })

/-- Gives a role another name, and says how many rows that concerns. -/
def updateRole (id : Id) (name : String) : Except DatabaseError (Nat × Tables) :=
  let (changed, others) := tables.roles.partition fun row => row.id == id
  if changed.isEmpty then
    .ok (0, tables)
  else if isRefusedName name then
    .error (.blankName .role)
  else if others.any fun row => row.name == name then
    .error (.nameTaken .role)
  else
    let change (row : RoleRow) := if row.id == id then { row with name } else row
    .ok (changed.length, { tables with roles := tables.roles.map change })

/-- Removes a role with its grants, and says how many rows that concerns. -/
def deleteRole (id : Id) : Nat × Tables :=
  let (deleted, others) := tables.roles.partition fun row => row.id == id
  if deleted.isEmpty then
    (0, tables)
  else
    (deleted.length,
      { tables with
        roles := others
        grants := tables.grants.filter fun grant => grant.role != id })

/-- Adds grants of one role. Each of them has to be new, and the role and the permissions have to be
there. -/
def insertGrants (role : Id) (permissions : List Id) : Except DatabaseError (Unit × Tables) :=
  let rows := permissions.map (GrantRow.mk role)
  if ¬ rows.Nodup ∨ rows.any tables.grants.contains then
    .error (.keyTaken "role_permissions")
  else if !permissions.isEmpty && !tables.roles.any (fun row => row.id == role) then
    .error (.unknownReference .role)
  else if permissions.any fun id => !tables.permissions.any fun row => row.id == id then
    .error (.unknownReference .permission)
  else
    .ok ((), { tables with grants := tables.grants ++ rows })

/-- Moves the roles that pass a test on to their next revisions. -/
def bump (test : RoleRow → Bool) : Except DatabaseError (Unit × Tables) :=
  (bumpRoles test tables.roles).map fun roles => ((), { tables with roles })

/-- Does what a statement says. -/
def execute (now : Instant) (statement : Statement) :
    Except DatabaseError (statement.Value × Tables) :=
  match statement with
  | .listPermissions => .ok (tables.listPermissions, tables)
  | .permissionById id =>
    .ok ((tables.permissions.find? fun row => row.id == id).map tables.joinPermission, tables)
  | .permissionByName name =>
    .ok ((tables.permissions.find? fun row => row.name == name).map tables.joinPermission, tables)
  | .insertPermission id name description => tables.insertPermission now id name description
  | .updatePermission id name description => tables.updatePermission id name description
  | .bumpHolders permission => tables.bump fun row => tables.grants.contains ⟨row.id, permission⟩
  | .deletePermission id => .ok (tables.deletePermission id)
  | .countPermissions => .ok (tables.permissions.length, tables)
  | .listRoles => .ok (tables.listRoles, tables)
  | .roleById id => .ok ((tables.roles.find? fun row => row.id == id).map tables.joinRole, tables)
  | .roleByName name =>
    .ok ((tables.roles.find? fun row => row.name == name).map tables.joinRole, tables)
  | .insertRole id name => tables.insertRole now id name
  | .updateRole id name => tables.updateRole id name
  | .deleteRole id => .ok (tables.deleteRole id)
  | .countRoles => .ok (tables.roles.length, tables)
  | .roleExists id => .ok (tables.roles.any fun row => row.id == id, tables)
  | .grantsOfRole id =>
    .ok (.ofList ((tables.grants.filter fun grant => grant.role == id).map GrantRow.permission),
      tables)
  | .lockRole id =>
    .ok ((tables.roles.find? fun row => row.id == id).map fun row => row.revision.toUInt64, tables)
  | .knownPermissions ids =>
    .ok ((tables.permissions.map PermissionRow.id).filter fun id => ids.contains id, tables)
  | .deleteGrants role =>
    .ok ((), { tables with grants := tables.grants.filter fun grant => grant.role != role })
  | .insertGrants role permissions => tables.insertGrants role permissions
  | .bumpRole id => tables.bump fun row => row.id == id
  | .ping | .currentDatabase | .migrationLock | .migrationsTable | .applyMigration | .timeMigration
  | .migrationUnlock => .ok ((), tables)
  | .dirtyMigration =>
    .ok ((tables.migrations.find? fun row => !row.success).map MigrationRow.version, tables)
  | .appliedMigrations => .ok (tables.migrations.map fun row => (row.version, row.checksum), tables)
  | .recordMigration version checksum =>
    .ok ((), { tables with migrations := tables.migrations ++ [⟨version, checksum, true⟩] })

end Tables

/-- Does what a statement says, unless one of its texts has a character that no text of the database
can have. -/
def Statement.execute (statement : Statement) (now : Instant) (tables : Tables) :
    Except DatabaseError (statement.Value × Tables) :=
  if statement.texts.any fun text => text.toList.contains '\x00' then
    .error .nulCharacter
  else
    tables.execute now statement

end Rolebook.Relational
