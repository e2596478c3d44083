import Rolebook.Http.Message
import Rolebook.Record.Entity
import Rolebook.Store.Error

/-!
# Showing entities and problems

The values that stand for entities, and for what went wrong, in responses.
-/

namespace Rolebook.Http

open Rolebook.Store (Error)

/-- The array of some identifiers. -/
def jsonOfIds (ids : IdSet) : Json :=
  .array (ids.toList.map .string)

/-- The object that stands for a permission. -/
def jsonOfPermission (permission : Permission) : Json :=
  .object [
    ("id", .string permission.id),
    ("name", .string permission.name),
    ("description", .ofText? permission.description),
    ("created_at", .string permission.createdAt.render),
    ("role_ids", jsonOfIds permission.roleIds)]

/-- The object that stands for a role. -/
def jsonOfRole (role : Role) : Json :=
  .object [
    ("id", .string role.id),
    ("name", .string role.name),
    ("created_at", .string role.createdAt.render),
    ("permission_ids", jsonOfIds role.permissionIds),
    ("revision", .ofNat role.revision.toNat)]

/-- What went wrong, as it is told to the one who made the request. -/
structure Problem where
  status : Nat
  code : String
  message : String
deriving DecidableEq, Repr

namespace Problem

/-- Something went wrong inside. -/
def internal (message : String) : Problem :=
  ⟨500, "internal", message⟩

/-- Something about the request is not allowed. -/
def validation (message : String) : Problem :=
  ⟨400, "validation_error", message⟩

/-- What is told about an error of the store in an action on an entity. Nothing is told about an
error that was not to be expected. -/
def ofError (noun action : String) : Error → Problem
  | .notFound what => ⟨404, "not_found", what ++ " not found"⟩
  | .conflict message => ⟨409, "already_exists", message⟩
  | .invalid message => validation message
  | .revisionMismatch _ _ => ⟨409, "revision_mismatch", noun ++ " was modified concurrently"⟩
  | .unexpected _ _ => internal ("failed to " ++ action)

/-- The object that stands for a problem. -/
def json (problem : Problem) : Json :=
  .object [("code", .string problem.code), ("message", .string problem.message),
    ("request_id", .null)]

/-- The response that tells a problem. -/
def response (problem : Problem) : Response :=
  .ofJson problem.status problem.json

end Problem

end Rolebook.Http
