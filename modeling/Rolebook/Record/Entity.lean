import Rolebook.Record.Instant
import Rolebook.Record.OrderedSet

/-!
# Permissions and roles

The entities as they are shown: each with the identifiers of those on the other side that it is
granted to or grants.
-/

namespace Rolebook

/-- What tells two permissions, or two roles, from each other. -/
abbrev Id := String

/-- A set of identifiers. -/
abbrev IdSet := OrderedSet Id

/-- What the permission sets of a role are counted by. -/
abbrev Revision := UInt64

/-- A permission and the roles that grant it. -/
structure Permission where
  id : Id
  name : String
  description : Option String
  createdAt : Instant
  roleIds : IdSet
deriving DecidableEq

/-- A role and the permissions that it grants. -/
structure Role where
  id : Id
  name : String
  createdAt : Instant
  permissionIds : IdSet
  /-- The number of changes to the set of permissions. -/
  revision : Revision
deriving DecidableEq

/-- The kinds of entities. -/
inductive EntityKind
  | permission
  | role
deriving DecidableEq, Repr

/-- What an entity of a kind is called. -/
def EntityKind.noun : EntityKind → String
  | .permission => "permission"
  | .role => "role"

/-- What a new entity gets from outside: the time and an identifier of its own. -/
structure Moment where
  now : Instant
  newId : Id
deriving DecidableEq, Repr

/-- The elements in the order of their listing: the newest first, those of one instant by name. -/
def newestFirst (createdAt : α → Instant) (name : α → String) (elements : List α) : List α :=
  elements.mergeSort fun a b =>
    if createdAt a = createdAt b then
      !before (name b) (name a)
    else
      (createdAt b).nanoseconds < (createdAt a).nanoseconds

end Rolebook
