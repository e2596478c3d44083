import Rolebook.Program
import Rolebook.Store.Error

/-!
# Calls to a store

What a store of permissions and roles can be asked for, and the programs that do so.
-/

namespace Rolebook.Store

/-- A call to a store. -/
inductive Call
  | listPermissions
  | getPermission (id : Id)
  | getPermissionByName (name : String)
  | createPermission (name : String) (description : Option String)
  | updatePermission (id : Id) (name : String) (description : Option String)
  | deletePermission (id : Id)
  | listRoles
  | getRole (id : Id)
  | getRoleByName (name : String)
  | createRole (name : String)
  | updateRole (id : Id) (name : String)
  | deleteRole (id : Id)
  /-- The identifiers of the permissions that a role grants. -/
  | rolePermissionIds (id : Id)
  /-- Makes a role grant exactly these permissions. -/
  | setRolePermissions (id : Id) (permissions : IdSet)
  /-- Makes a role grant exactly these permissions if its revision is still the one expected. -/
  | replaceRolePermissions (id : Id) (expected : Revision) (permissions : IdSet)
  | healthCheck
deriving DecidableEq

/-- What a call results in if it succeeds. -/
def Call.Value : Call → Type
  | .listPermissions => List Permission
  | .getPermission _ => Permission
  | .getPermissionByName _ => Option Permission
  | .createPermission _ _ => Permission
  | .updatePermission _ _ _ => Permission
  | .deletePermission _ => Unit
  | .listRoles => List Role
  | .getRole _ => Role
  | .getRoleByName _ => Option Role
  | .createRole _ => Role
  | .updateRole _ _ => Role
  | .deleteRole _ => Unit
  | .rolePermissionIds _ => IdSet
  | .setRolePermissions _ _ => Role
  | .replaceRolePermissions _ _ _ => Role
  | .healthCheck => Unit

/-- The answer to a call. -/
abbrev Call.Answer (call : Call) : Type :=
  Except Error call.Value

/-- The name of an operation. -/
def Call.label : Call → String
  | .listPermissions => "list_permissions"
  | .getPermission _ => "get_permission"
  | .getPermissionByName _ => "get_permission_by_name"
  | .createPermission _ _ => "create_permission"
  | .updatePermission _ _ _ => "update_permission"
  | .deletePermission _ => "delete_permission"
  | .listRoles => "list_roles"
  | .getRole _ => "get_role"
  | .getRoleByName _ => "get_role_by_name"
  | .createRole _ => "create_role"
  | .updateRole _ _ => "update_role"
  | .deleteRole _ => "delete_role"
  | .rolePermissionIds _ => "role_permission_ids"
  | .setRolePermissions _ _ => "set_role_permissions"
  | .replaceRolePermissions _ _ _ => "replace_role_permissions_checked"
  | .healthCheck => "health_check"

/-- A program that makes calls to a store. -/
abbrev Script (α : Type) : Type :=
  Program Call.Answer α

/-- The script that makes one call and fails with it. -/
def call (c : Call) : ExceptT Error Script c.Value :=
  (Program.perform c : Script c.Answer)

end Rolebook.Store
