import Rolebook.Memory.Change
import Rolebook.Record.Name
import Rolebook.Store.Call

/-!
# Operations of a store in memory

What each call does. An operation goes from one state to the next whether it succeeds or fails: that
one that fails leaves the state as it was is nothing that its type says.
-/

namespace Rolebook.Memory

open Rolebook.Store (Error Call)

/-- What an operation results in, or why it fails, and the state after it. -/
abbrev Outcome (α : Type) : Type :=
  Except Error α × State

/-- A name as it is kept. -/
def keptName (kind : EntityKind) (name : String) : Except Error String :=
  (normalizeName kind.noun name).mapError .invalid

namespace State

variable (state : State)

/-- All permissions, the newest first. -/
def listPermissions : List Permission :=
  newestFirst Permission.createdAt Permission.name
    (state.permissions.values.map state.showPermission)

/-- The permission with an identifier. -/
def getPermission (id : Id) : Except Error Permission :=
  match state.permission? id with
  | some record => .ok (state.showPermission record)
  | none => .error (.missing .permission)

/-- The permission with a name. -/
def getPermissionByName (name : String) : Option Permission :=
  (state.permissions.values.find? fun record => record.name == name).map state.showPermission

/-- Adds a permission. -/
def createPermission (moment : Moment) (name : String) (description : Option String) :
    Outcome Permission :=
  match keptName .permission name with
  | .error error => (.error error, state)
  | .ok name =>
    if state.permissionNameTaken name none then
      (.error (.nameTaken .permission name), state)
    else
      let record := PermissionRecord.new moment name description
      let state := state.addPermission record
      (.ok (state.showPermission record), state)

/-- Gives a permission another name and description. -/
def updatePermission (id : Id) (name : String) (description : Option String) : Outcome Permission :=
  match keptName .permission name with
  | .error error => (.error error, state)
  | .ok name =>
    match state.permission? id with
    | none => (.error (.missing .permission), state)
    | some record =>
      if state.permissionNameTaken name (some id) then
        (.error (.nameTaken .permission name), state)
      else
        let state := state.describePermission id name description
        (.ok (state.showPermission { record with name, description }), state)

/-- Removes a permission. Each role that granted it loses it and moves on to its next revision. -/
def deletePermission (id : Id) : Outcome Unit :=
  match state.permission? id with
  | none => (.error (.missing .permission), state)
  | some _ => (.ok (), state.removePermission id)

/-- All roles, the newest first. -/
def listRoles : List Role :=
  newestFirst Role.createdAt Role.name (state.roles.values.map state.showRole)

/-- The role with an identifier. -/
def getRole (id : Id) : Except Error Role :=
  match state.role? id with
  | some record => .ok (state.showRole record)
  | none => .error (.missing .role)

/-- The role with a name. -/
def getRoleByName (name : String) : Option Role :=
  (state.roles.values.find? fun record => record.name == name).map state.showRole

/-- Adds a role. -/
def createRole (moment : Moment) (name : String) : Outcome Role :=
  match keptName .role name with
  | .error error => (.error error, state)
  | .ok name =>
    if state.roleNameTaken name none then
      (.error (.nameTaken .role name), state)
    else
      let record := RoleRecord.new moment name
      let state := state.addRole record
      (.ok (state.showRole record), state)

/-- Gives a role another name. -/
def updateRole (id : Id) (name : String) : Outcome Role :=
  match keptName .role name with
  | .error error => (.error error, state)
  | .ok name =>
    match state.role? id with
    | none => (.error (.missing .role), state)
    | some record =>
      if state.roleNameTaken name (some id) then
        (.error (.nameTaken .role name), state)
      else
        let state := state.renameRole id name
        (.ok (state.showRole { record with name }), state)

/-- Removes a role and all that it grants. -/
def deleteRole (id : Id) : Outcome Unit :=
  match state.role? id with
  | none => (.error (.missing .role), state)
  | some _ => (.ok (), state.removeRole id)

/-- The permissions that a role grants. -/
def rolePermissionIds (id : Id) : Except Error IdSet :=
  match state.role? id with
  | some _ => .ok (state.permissionIdsOf id)
  | none => .error (.missing .role)

/-- Makes a role grant exactly these permissions and moves it on to its next revision. The grants
are exchanged before the role is looked up, so only a role that is there may be given. -/
def replaceGrants (id : Id) (permissions : IdSet) : Outcome Role :=
  match permissions.toList.find? fun permission => (state.permission? permission).isNone with
  | some missing => (.error (.missingPermission missing), state)
  | none =>
    let state := state.setGrants id permissions
    match state.role? id with
    | none => (.error (.missing .role), state)
    | some role =>
      let state := state.bumpRole id
      (.ok (state.showRole role.bump), state)

/-- Makes a role grant exactly these permissions. -/
def setRolePermissions (id : Id) (permissions : IdSet) : Outcome Role :=
  match state.role? id with
  | none => (.error (.missing .role), state)
  | some _ => state.replaceGrants id permissions

/-- Makes a role grant exactly these permissions if its revision is the one expected. -/
def replaceRolePermissions (id : Id) (expected : Revision) (permissions : IdSet) : Outcome Role :=
  match state.role? id with
  | none => (.error (.missing .role), state)
  | some role =>
    if role.revision = expected then
      state.replaceGrants id permissions
    else
      (.error (.revisionMismatch expected role.revision), state)

/-- The answer to a call and the state after it. -/
def perform (moment : Moment) (call : Call) : call.Answer × State :=
  match call with
  | .listPermissions => (.ok state.listPermissions, state)
  | .getPermission id => (state.getPermission id, state)
  | .getPermissionByName name => (.ok (state.getPermissionByName name), state)
  | .createPermission name description => state.createPermission moment name description
  | .updatePermission id name description => state.updatePermission id name description
  | .deletePermission id => state.deletePermission id
  | .listRoles => (.ok state.listRoles, state)
  | .getRole id => (state.getRole id, state)
  | .getRoleByName name => (.ok (state.getRoleByName name), state)
  | .createRole name => state.createRole moment name
  | .updateRole id name => state.updateRole id name
  | .deleteRole id => state.deleteRole id
  | .rolePermissionIds id => (state.rolePermissionIds id, state)
  | .setRolePermissions id permissions => state.setRolePermissions id permissions
  | .replaceRolePermissions id expected permissions =>
    state.replaceRolePermissions id expected permissions
  | .healthCheck => (.ok (), state)

end State

end Rolebook.Memory
