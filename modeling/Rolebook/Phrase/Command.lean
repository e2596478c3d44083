import Rolebook.Phrase.Search

/-!
# Commands

What a phrase can ask for, and how it is read off the phrase. The shapes are tried in a fixed order
and the first one that matches decides: shapes that take something away stand before those that
give, since the latter are looser.
-/

namespace Rolebook.Phrase

/-- The kind of a command. -/
inductive Intent
  | createPermission
  | createRole
  | removePermission
  | assignPermission
deriving DecidableEq, Repr

/-- The name of an intent in answers and in metrics. -/
def Intent.label : Intent → String
  | .createPermission => "create_permission"
  | .createRole => "create_role"
  | .removePermission => "remove_permission"
  | .assignPermission => "assign_permission"

/-- A command with the names as they stand in the phrase. -/
inductive Command
  | createPermission (name : String) (description : Option String)
  | createRole (name : String)
  | removePermission (role permission : String)
  | assignPermission (role permission : String)
deriving DecidableEq, Repr

/-- The kind of a command. -/
def Command.intent : Command → Intent
  | .createPermission .. => .createPermission
  | .createRole .. => .createRole
  | .removePermission .. => .removePermission
  | .assignPermission .. => .assignPermission

/-- How the names of a phrase are read, in the order in which they stand there. -/
inductive Reading
  /-- The name of a new permission and, if there is a second one, its description. -/
  | newPermission
  /-- The name of a new role. -/
  | newRole
  /-- A role that loses a permission. -/
  | removeRoleFirst
  /-- A permission that a role loses. -/
  | removePermissionFirst
  /-- A role that gets a permission. -/
  | assignRoleFirst
  /-- A permission that a role gets. -/
  | assignPermissionFirst
deriving DecidableEq, Repr

/-- The command that the names of a phrase make, if there are enough of them. -/
def Reading.command? : Reading → List String → Option Command
  | .newPermission, name :: rest => some (.createPermission name rest.head?)
  | .newRole, name :: _ => some (.createRole name)
  | .removeRoleFirst, role :: permission :: _ => some (.removePermission role permission)
  | .removePermissionFirst, permission :: role :: _ => some (.removePermission role permission)
  | .assignRoleFirst, role :: permission :: _ => some (.assignPermission role permission)
  | .assignPermissionFirst, permission :: role :: _ => some (.assignPermission role permission)
  | _, _ => none

/-- The tokens of a phrase and how its names are read. -/
structure Shape where
  tokens : List Token
  reading : Reading
deriving DecidableEq, Repr

/-- The shapes of all commands, in the order in which they are tried. -/
def shapes : List Shape := [
  ⟨["create", "permission", .name, .description], .newPermission⟩,
  ⟨["create", "role", .name], .newRole⟩,
  ⟨[.removalVerb, "permission", .name, "role", .name], .removePermissionFirst⟩,
  ⟨["role", .name, .removalVerb, "permission", .name], .removeRoleFirst⟩,
  ⟨["role", .name, "permission", .name, .removalVerb], .removeRoleFirst⟩,
  ⟨["give", "role", .name, "permission", .name], .assignRoleFirst⟩,
  ⟨["assign", "permission", .name, "role", .name], .assignPermissionFirst⟩,
  ⟨["add", "permission", .name, "role", .name], .assignPermissionFirst⟩,
  ⟨["role", .name, "permission", .name], .assignRoleFirst⟩,
  ⟨["permission", .name, "role", .name], .assignPermissionFirst⟩,
  ⟨[.name, "permission", .name], .assignRoleFirst⟩,
  ⟨[.name, "role", .name, "permission"], .assignRoleFirst⟩]

/-- The command that a text makes by this shape. -/
def Shape.command? (shape : Shape) (text : List Char) : Option Command :=
  match namesOf? shape.tokens text with
  | some names => shape.reading.command? (names.map String.ofList)
  | none => none

/-- The command that a text makes, if it has one of the shapes. -/
def parse? (text : String) : Option Command :=
  shapes.findSome? fun shape => shape.command? text.toList

end Rolebook.Phrase
