import Rolebook.Record.Name
import Rolebook.Relational.Server
import Rolebook.Store.Call
import Rolebook.Store.Inventory

/-!
# Calls as dialogues

What a store over a database sends to the server for each call. Permission sets are replaced in
transactions, under a lock on the role. After an entity was created or deleted the numbers of
permissions and roles are counted and made known; if that fails then the call fails, although the
change stays.
-/

namespace Rolebook.Relational

open Rolebook.Store (Error Call Inventory)

/-- How an error of the database is reported. -/
def DatabaseError.report (error : DatabaseError) : String :=
  "error returned from database: " ++ error.message

/-- An error of the database as an error of the store. -/
def DatabaseError.toError (error : DatabaseError) : Error :=
  .unexpected error.report [error.message]

/-- A dialogue that may fail. -/
abbrev Attempt (α : Type) : Type :=
  ExceptT Error Dialogue α

/-- Sends one request. -/
def send (request : Request) : Attempt request.Value :=
  ExceptT.mk <| .ask request fun answer => .done (answer.mapError DatabaseError.toError)

/-- Sends one statement. -/
def query (statement : Statement) : Attempt statement.Value :=
  send (.execute statement)

/-- Sends one statement that may find a name taken. -/
def queryUnique (statement : Statement) (taken : Error) : Attempt statement.Value :=
  ExceptT.mk <| .ask (.execute statement) fun answer =>
    .done (answer.mapError fun error =>
      if error.code = DatabaseError.uniqueViolation then taken else error.toError)

/-- Sends the requests of a transaction between its start and its commit. If one of them fails, or
the commit does, the transaction is rolled back. -/
def inTransaction (body : Attempt α) : Attempt α := do
  send .beginTransaction
  let guarded : Attempt α := do
    let result ← body
    send .commit
    return result
  ExceptT.mk do
    match ← guarded.run with
    | .ok result => return .ok result
    | .error error =>
      let _ ← (Program.perform .rollback : Dialogue _)
      return .error error

/-- Counts the permissions and roles. -/
def countInventory : Attempt Inventory := do
  let permissions : Nat ← query .countPermissions
  let roles : Nat ← query .countRoles
  return ⟨permissions, roles⟩

/-- The permission with an identifier. -/
def getPermission (id : Id) : Attempt Permission := do
  match ← query (.permissionById id) with
  | some permission => return permission
  | none => throw (.missing .permission)

/-- The role with an identifier. -/
def getRole (id : Id) : Attempt Role := do
  match ← query (.roleById id) with
  | some role => return role
  | none => throw (.missing .role)

/-- A name as it is kept. -/
def keepName (kind : EntityKind) (name : String) : Attempt String :=
  ExceptT.mk (.done ((normalizeName kind.noun name).mapError .invalid))

/-- Adds a permission. -/
def createPermission (newId : Id) (name : String) (description : Option String) :
    Attempt (Permission × Inventory) := do
  let name ← keepName .permission name
  let createdAt : Instant ← queryUnique (.insertPermission newId name description)
      (.nameTaken .permission name)
  let inventory ← countInventory
  return (⟨newId, name, description, createdAt, ∅⟩, inventory)

/-- Gives a permission another name and description. -/
def updatePermission (id : Id) (name : String) (description : Option String) :
    Attempt Permission := do
  let name ← keepName .permission name
  let touched : Nat ← queryUnique (.updatePermission id name description)
      (.nameTaken .permission name)
  if touched = 0 then
    throw (.missing .permission)
  getPermission id

/-- Removes a permission. -/
def deletePermission (id : Id) : Attempt Inventory := do
  inTransaction do
    query (.bumpHolders id)
    let touched : Nat ← query (.deletePermission id)
    if touched = 0 then
      throw (.missing .permission)
  countInventory

/-- Adds a role. -/
def createRole (newId : Id) (name : String) : Attempt (Role × Inventory) := do
  let name ← keepName .role name
  let createdAt : Instant ← queryUnique (.insertRole newId name) (.nameTaken .role name)
  let inventory ← countInventory
  return (⟨newId, name, createdAt, ∅, 0⟩, inventory)

/-- Gives a role another name. -/
def updateRole (id : Id) (name : String) : Attempt Role := do
  let name ← keepName .role name
  let touched : Nat ← queryUnique (.updateRole id name) (.nameTaken .role name)
  if touched = 0 then
    throw (.missing .role)
  getRole id

/-- Removes a role. -/
def deleteRole (id : Id) : Attempt Inventory := do
  let touched : Nat ← query (.deleteRole id)
  if touched = 0 then
    throw (.missing .role)
  countInventory

/-- The permissions that a role grants. -/
def rolePermissionIds (id : Id) : Attempt IdSet := do
  let found : Bool ← query (.roleExists id)
  if !found then
    throw (.missing .role)
  query (.grantsOfRole id)

/-- The revision of a role, which no one else may change until the transaction ends. -/
def lockRole (id : Id) : Attempt Revision := do
  match ← query (.lockRole id) with
  | some revision => return revision
  | none => throw (.missing .role)

/-- Makes a locked role grant exactly these permissions and moves it on to its next revision. -/
def replaceGrants (role : Id) (permissions : IdSet) : Attempt Unit := do
  let known : List Id ← query (.knownPermissions permissions.toList)
  match permissions.toList.find? fun id => !known.contains id with
  | some missing => throw (.missingPermission missing)
  | none =>
    query (.deleteGrants role)
    query (.insertGrants role permissions.toList)
    query (.bumpRole role)

/-- Makes a role grant exactly these permissions. -/
def setRolePermissions (id : Id) (permissions : IdSet) : Attempt Role := do
  inTransaction do
    let _ ← lockRole id
    replaceGrants id permissions
  getRole id

/-- Makes a role grant exactly these permissions if its revision is the one expected. -/
def replaceRolePermissions (id : Id) (expected : Revision) (permissions : IdSet) :
    Attempt Role := do
  inTransaction do
    let found ← lockRole id
    if found ≠ expected then
      throw (.revisionMismatch expected found)
    replaceGrants id permissions
  getRole id

/-- A dialogue that makes no numbers known. -/
def uncounted (attempt : Attempt α) : Attempt (α × Option Inventory) := do
  return (← attempt, none)

/-- The dialogue for a call, with the numbers that it makes known. -/
def dialogue (newId : Id) (call : Call) : Attempt (call.Value × Option Inventory) :=
  match call with
  | .listPermissions => uncounted (query .listPermissions)
  | .getPermission id => uncounted (getPermission id)
  | .getPermissionByName name => uncounted (query (.permissionByName name))
  | .createPermission name description => do
    let (permission, inventory) ← createPermission newId name description
    return (permission, some inventory)
  | .updatePermission id name description => uncounted (updatePermission id name description)
  | .deletePermission id => do
    return ((), some (← deletePermission id))
  | .listRoles => uncounted (query .listRoles)
  | .getRole id => uncounted (getRole id)
  | .getRoleByName name => uncounted (query (.roleByName name))
  | .createRole name => do
    let (role, inventory) ← createRole newId name
    return (role, some inventory)
  | .updateRole id name => uncounted (updateRole id name)
  | .deleteRole id => do
    return ((), some (← deleteRole id))
  | .rolePermissionIds id => uncounted (rolePermissionIds id)
  | .setRolePermissions id permissions => uncounted (setRolePermissions id permissions)
  | .replaceRolePermissions id expected permissions =>
    uncounted (replaceRolePermissions id expected permissions)
  | .healthCheck => uncounted (query .ping)

end Rolebook.Relational
