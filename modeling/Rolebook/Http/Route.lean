/-!
# Routes

Which paths there are and which methods they take. A path is matched as it stands, with nothing
decoded.
-/

namespace Rolebook.Http

/-- A path that there is, with the part of it that names an entity. -/
inductive Route
  | systemInfo
  | systemHealth
  | command
  | permissions
  | permission (id : String)
  | roles
  | role (id : String)
  | rolePermissions (id : String)
  /-- The description of the interface. -/
  | description
  /-- A page that shows the description, or leads to one that does. -/
  | page (path : String)
deriving DecidableEq, Repr

/-- What is left of some characters after others that they start with. -/
def dropStart? : (start chars : List Char) → Option (List Char)
  | [], chars => some chars
  | c :: cs, d :: ds => if c = d then dropStart? cs ds else none
  | _ :: _, [] => none

/-- The one non-empty segment that stands behind the start of a path. -/
def lastSegment? (start path : List Char) : Option String :=
  match dropStart? start path with
  | some segment =>
    if segment.isEmpty || segment.contains '/' then none else some (String.ofList segment)
  | none => none

/-- The segment, which may be empty, that stands between the start and the end of a path. -/
def middleSegment? (start ending path : List Char) : Option String :=
  match dropStart? start path with
  | some rest =>
    let segment := rest.takeWhile (· ≠ '/')
    if rest.drop segment.length = ending then some (String.ofList segment) else none
  | none => none

/-- The path of a request target, which ends where its query starts. -/
def pathOf (target : String) : List Char :=
  target.toList.takeWhile fun c => c ≠ '?' && c ≠ '#'

/-- The route that a path takes. -/
def Route.ofPath? (path : List Char) : Option Route :=
  if path = "/v1/system/info".toList then some .systemInfo
  else if path = "/v1/system/health".toList then some .systemHealth
  else if path = "/natural-language".toList then some .command
  else if path = "/v1/permissions".toList then some .permissions
  else if path = "/v1/roles".toList then some .roles
  else if path = "/v1/openapi.json".toList then some .description
  else if path = "/docs".toList ∨ (dropStart? "/docs/".toList path).isSome then
    some (.page (String.ofList path))
  else
    (lastSegment? "/v1/permissions/".toList path).map Route.permission <|>
      (lastSegment? "/v1/roles/".toList path).map Route.role <|>
        (middleSegment? "/v1/roles/".toList "/permissions".toList path).map Route.rolePermissions

/-- The methods that a route takes. -/
def Route.methods : Route → List String
  | .systemInfo | .systemHealth | .description | .page _ => ["GET", "HEAD"]
  | .command => ["POST"]
  | .permissions | .roles => ["GET", "HEAD", "POST"]
  | .permission _ | .role _ => ["GET", "HEAD", "PATCH", "DELETE"]
  | .rolePermissions _ => ["PUT"]

end Rolebook.Http
