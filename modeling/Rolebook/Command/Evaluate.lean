import Rolebook.Command.Reply
import Rolebook.Store.Call
import Rolebook.Text.Blank

/-!
# Evaluating commands

A command is done by calls to a store and always ends with a reply. Names are trimmed once, before
the first call. To give or take a permission, the role is read, its set of permissions is changed by
one member and the new set is written back on the condition that the revision of the role is still
the one that was read. If it is not, the role is read again, a limited number of times.
-/

namespace Rolebook.Command

open Rolebook.Phrase (Intent)
open Rolebook.Store (Call Script call)

/-- How often one command tries to write a permission set. -/
def maxWriteAttempts : Nat := 3

/-- A change to the set of permissions of a role. -/
inductive Change
  | grant
  | revoke
deriving DecidableEq, Repr

/-- The set after a change by one permission, if that makes a difference. -/
def Change.wanted? (change : Change) (permission : Id) (set : IdSet) : Option IdSet :=
  match change with
  | .grant => if permission ∈ set then none else some (set.insert permission)
  | .revoke => if permission ∈ set then some (set.erase permission) else none

/-- Reads a role again and goes on with it as it is by then. -/
def reread (role : Id) (goOn : Role → Script (Except Store.Error Bool)) :
    Script (Except Store.Error Bool) :=
  .ask (.getRole role) fun
    | .ok role => goOn role
    | .error error => pure (.error error)

/-- One attempt to change the permission set of a role. If others have changed it since the role was
read, the role is read again and what is to be done then, if anything, is done with it. Says whether
there was something to change. -/
def attemptChange (change : Change) (permission : Id) (role : Role)
    (again? : Option (Role → Script (Except Store.Error Bool))) :
    Script (Except Store.Error Bool) :=
  match change.wanted? permission role.permissionIds with
  | none => pure (.ok false)
  | some wanted =>
    .ask (.replaceRolePermissions role.id role.revision wanted) fun written =>
      match written, again? with
      | .ok _, _ => pure (.ok true)
      -- the set that was to be written was made from one that is out of date
      | .error (.revisionMismatch _ _), some again => reread role.id again
      | .error error, _ => pure (.error error)

/-- Changes the permission set of a role, with a number of further attempts if others change it as
well. -/
def writeChange (change : Change) (permission : Id) :
    (furtherAttempts : Nat) → Role → Script (Except Store.Error Bool)
  | 0, role => attemptChange change permission role none
  | furtherAttempts + 1, role =>
    attemptChange change permission role (some (writeChange change permission furtherAttempts))

/-- What is said about the outcomes of a change. -/
structure Wording where
  intent : Intent
  /-- The start of the report of an error. -/
  failed : String
  /-- What the one who named an unknown entity is advised to do. -/
  advice : String
  /-- What was done to a permission and a role. -/
  done : (permission role : String) → String
  /-- Why there was nothing to do. -/
  idle : (permission role : String) → String

/-- What is said when a permission is given to a role. -/
def grantWording : Wording where
  intent := .assignPermission
  failed := "Failed to assign permission: "
  advice := " Please create it first."
  done permission role := "Assigned permission '" ++ permission ++ "' to role '" ++ role ++ "'."
  idle permission role := "Role '" ++ role ++ "' already has permission '" ++ permission ++ "'."

/-- What is said when a permission is taken from a role. -/
def revokeWording : Wording where
  intent := .removePermission
  failed := "Failed to remove permission: "
  advice := ""
  done permission role := "Removed permission '" ++ permission ++ "' from role '" ++ role ++ "'."
  idle permission role := "Role '" ++ role ++ "' doesn't have permission '" ++ permission ++ "'."

/-- What is said about a change. -/
def Change.wording : Change → Wording
  | .grant => grantWording
  | .revoke => revokeWording

/-- Gives a permission to a role or takes it, both by name. -/
def changeByName (change : Change) (roleName permissionName : String) : Script Reply :=
  let wording := change.wording
  let failed (error : Store.Error) : Reply :=
    .to wording.intent .failure (wording.failed ++ error.message)
  .ask (.getRoleByName roleName) fun
    | .error error => pure (failed error)
    | .ok none =>
      pure (.to wording.intent .failure ("Role '" ++ roleName ++ "' not found." ++ wording.advice))
    | .ok (some role) =>
      .ask (.getPermissionByName permissionName) fun
        | .error error => pure (failed error)
        | .ok none =>
          pure (.to wording.intent .failure ("Permission '" ++ permissionName ++
            "' not found." ++ wording.advice))
        | .ok (some permission) => do
          match ← writeChange change permission.id (maxWriteAttempts - 1) role with
          | .error error => return failed error
          | .ok true => return .to wording.intent .success (wording.done permissionName roleName)
          | .ok false => return .to wording.intent .info (wording.idle permissionName roleName)

/-- Creates a permission. -/
def createPermission (name : String) (description : Option String) : Script Reply :=
  .ask (.createPermission name description) fun
    | .ok permission =>
      match permission.description with
      | some description =>
        pure (.to .createPermission .success
          ("Created permission '" ++ permission.name ++ "' with description '" ++
            description ++ "'."))
      | none =>
        pure (.to .createPermission .success ("Created permission '" ++ permission.name ++ "'."))
    | .error (.conflict _) =>
      pure (.to .createPermission .failure ("Permission '" ++ name ++ "' already exists."))
    | .error error =>
      pure (.to .createPermission .failure ("Failed to create permission: " ++ error.message))

/-- Creates a role. -/
def createRole (name : String) : Script Reply :=
  .ask (.createRole name) fun
    | .ok role => pure (.to .createRole .success ("Created role '" ++ role.name ++ "'."))
    | .error (.conflict _) =>
      pure (.to .createRole .failure ("Role '" ++ name ++ "' already exists."))
    | .error error => pure (.to .createRole .failure ("Failed to create role: " ++ error.message))

/-- Does a command. -/
def execute : Phrase.Command → Script Reply
  | .createPermission name description => createPermission (Text.trim name) description
  | .createRole name => createRole (Text.trim name)
  | .assignPermission role permission => changeByName .grant (Text.trim role) (Text.trim permission)
  | .removePermission role permission =>
    changeByName .revoke (Text.trim role) (Text.trim permission)

/-- Does what a text asks for. -/
def evaluate (text : String) : Script Reply :=
  match Phrase.parse? text with
  | some command => execute command
  | none => pure .notUnderstood

end Rolebook.Command
