import Rolebook.Store.Call

/-!
# Demonstration data

A few permissions and roles to try things out. What is there by name already is not created again,
and a role is written only if it does not grant what it should.
-/

namespace Rolebook.Demo

open Rolebook.Store (Script call)

/-- The permissions, by name and description. -/
def permissions : List (String × String) := [
  ("read_articles", "Can view and read articles"),
  ("edit_articles", "Can create and edit articles"),
  ("delete_articles", "Can delete articles"),
  ("manage_users", "Can create, edit, and delete user accounts")]

/-- The roles, by name and the names of the permissions that they grant. -/
def roles : List (String × List String) := [
  ("Viewer", ["read_articles"]),
  ("Content Editor", ["read_articles", "edit_articles"]),
  ("Administrator", ["read_articles", "edit_articles", "delete_articles", "manage_users"])]

/-- Creates a permission unless there is one of this name. -/
def seedPermission (name description : String) : ExceptT Store.Error Script Unit := do
  match ← call (.getPermissionByName name) with
  | some _ => return
  | none =>
    let _ ← call (.createPermission name (some description))

/-- The role with a name, which is created if there is none. -/
def seedRole (name : String) : ExceptT Store.Error Script Role := do
  match ← call (.getRoleByName name) with
  | some role => return role
  | none => call (.createRole name)

/-- The identifiers of the permissions with these names, as far as there are any, and those
given. -/
def collectPermissions : IdSet → List String → ExceptT Store.Error Script IdSet
  | ids, [] => return ids
  | ids, name :: names => do
    match ← call (.getPermissionByName name) with
    | some permission => collectPermissions (ids.insert permission.id) names
    | none => collectPermissions ids names

/-- Makes a role grant the permissions with these names. -/
def seedGrants (roleName : String) (permissionNames : List String) :
    ExceptT Store.Error Script Unit := do
  let role ← seedRole roleName
  let wanted ← collectPermissions ∅ permissionNames
  if role.permissionIds ≠ wanted then
    let _ ← call (.setRolePermissions role.id wanted)

/-- Puts the demonstration data into a store. -/
def seed : ExceptT Store.Error Script Unit := do
  permissions.forM fun (name, description) => seedPermission name description
  roles.forM fun (name, permissionNames) => seedGrants name permissionNames

end Rolebook.Demo
