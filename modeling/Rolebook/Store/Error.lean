import Rolebook.Record.Entity
import Rolebook.Text.Digits

/-!
# Errors of a store

Why a store does not do what it was asked for.
-/

namespace Rolebook.Store

/-- Why a call to a store fails. -/
inductive Error
  /-- There is no such entity. -/
  | notFound (what : String)
  /-- A name is taken. -/
  | conflict (message : String)
  /-- An argument is not allowed. -/
  | invalid (message : String)
  /-- The permission set of a role was changed by someone else. -/
  | revisionMismatch (expected found : Revision)
  /-- Anything else, with the causes behind it, the nearest first. -/
  | unexpected (message : String) (causes : List String)
deriving DecidableEq, Repr

/-- The decimal digits of a revision. -/
def revisionText (revision : Revision) : String :=
  String.ofList (Text.toDigits 10 revision.toNat)

/-- The text of an error. -/
def Error.message : Error → String
  | .notFound what => "not found: " ++ what
  | .conflict message => "conflict: " ++ message
  | .invalid message => "invalid: " ++ message
  | .revisionMismatch expected found =>
    "revision mismatch: expected " ++ revisionText expected ++ ", found " ++ revisionText found
  | .unexpected message _ => message

/-- There is no entity of a kind with the identifier given. -/
def Error.missing (kind : EntityKind) : Error :=
  .notFound kind.noun

/-- There is no permission with this identifier to be granted. -/
def Error.missingPermission (id : Id) : Error :=
  .notFound (EntityKind.permission.noun ++ " " ++ id)

/-- The name of an entity of a kind is taken. -/
def Error.nameTaken (kind : EntityKind) (name : String) : Error :=
  .conflict (kind.noun ++ " '" ++ name ++ "' already exists")

end Rolebook.Store
