import Rolebook.Command.Evaluate
import Rolebook.Http.Body
import Rolebook.Http.Route
import Rolebook.Http.Show
import Rolebook.Json.Reader
import Rolebook.Text.Lowercase
import Rolebook.Text.Percent

/-!
# Handling requests

What the service does with a request. The route and the method are looked at first, then the part of
the path that names an entity, then the body, and only then are there calls to the store.

Left out are the log and the span of a request, on which no answer depends, and the header fields of
a response but for the list of methods. The generated description of the interface and the pages of
its viewer are not written out but given (`Manual`).
-/

namespace Rolebook.Http

open Rolebook.Command (Reply)
open Rolebook.Store (Call Error Script)

/-- What the service tells about its interface. Both parts come into being when the service is
built: the description is generated, and the pages are those of a viewer that is built in. -/
structure Manual where
  description : Json
  /-- What one gets who asks for a page by its path. -/
  page : String → Response

/-- A manual without any pages. -/
def Manual.empty : Manual :=
  ⟨.object [], fun _ => .ofStatus 404⟩

/-- What the service says of itself and how it takes commands. -/
structure Profile where
  backend : String
  durable : Bool
  /-- Whether commands are taken in lower case. -/
  lowercaseCommands : Bool
  manual : Manual

/-- The name of the service. -/
def serviceName : String := "rbac-admin"

/-- The version of its interface. -/
def apiVersion : String := "v1"

/-- The response to a request, and the reply to the command that it gave, if it gave one. -/
structure Handled where
  response : Response
  reply : Option Reply
deriving Repr

/-- A request that gave no command. -/
def Handled.ofResponse (response : Response) : Handled :=
  ⟨response, none⟩

/-- Makes a call, and responds with its value or with what went wrong. -/
def respondTo (call : Call) (succeeded : call.Value → Response) (failed : Error → Problem) :
    Script Response :=
  .ask call fun
    | .ok value => pure (succeeded value)
    | .error error => pure (failed error).response

/-- What the service says of itself. -/
def infoResponse (profile : Profile) : Response :=
  .ofJson 200 <| .object [
    ("service", .string serviceName),
    ("api_version", .string apiVersion),
    ("storage_backend", .string profile.backend),
    ("features", .object [
      ("durable_storage", .bool profile.durable),
      ("lowercase_commands", .bool profile.lowercaseCommands)])]

/-- Whether the store works. -/
def health : Script Response :=
  respondTo .healthCheck (fun _ => .ofJson 200 (.object [("status", .string "ok")]))
    fun _ => .internal "storage unavailable"

/-- The response that lists entities. -/
def listResponse (items : List Json) : Response :=
  .ofJson 200 (.object [("items", .array items)])

/-- All permissions. -/
def listPermissions : Script Response :=
  respondTo .listPermissions
    (fun (permissions : List Permission) => listResponse (permissions.map jsonOfPermission))
    fun _ => .internal "failed to list permissions"

/-- Adds a permission. -/
def postPermission (draft : PermissionDraft) : Script Response :=
  respondTo (.createPermission draft.name draft.description)
    (fun (permission : Permission) => .ofJson 201 (jsonOfPermission permission))
    (.ofError "permission" "create permission")

/-- One permission. -/
def getPermission (id : Id) : Script Response :=
  respondTo (.getPermission id)
    (fun (permission : Permission) => .ofJson 200 (jsonOfPermission permission))
    (.ofError "permission" "fetch permission")

/-- Changes what is said about a permission and keeps the rest as it was when it was read. -/
def patchPermission (id : Id) (patch : PermissionPatch) : Script Response :=
  .ask (.getPermission id) fun
    | .error error => pure (Problem.ofError "permission" "fetch permission" error).response
    | .ok (current : Permission) =>
      let description := patch.description.apply current.description
      let name := patch.name.getD current.name
      respondTo (.updatePermission id name description)
        (fun (permission : Permission) => .ofJson 200 (jsonOfPermission permission))
        (.ofError "permission" "update permission")

/-- Removes a permission. -/
def deletePermission (id : Id) : Script Response :=
  respondTo (.deletePermission id) (fun _ => .ofStatus 204)
    (.ofError "permission" "delete permission")

/-- All roles. -/
def listRoles : Script Response :=
  respondTo .listRoles (fun (roles : List Role) => listResponse (roles.map jsonOfRole))
    fun _ => .internal "failed to list roles"

/-- Adds a role. -/
def postRole (name : String) : Script Response :=
  respondTo (.createRole name) (fun (role : Role) => .ofJson 201 (jsonOfRole role))
    (.ofError "role" "create role")

/-- One role. -/
def getRole (id : Id) : Script Response :=
  respondTo (.getRole id) (fun (role : Role) => .ofJson 200 (jsonOfRole role))
    (.ofError "role" "fetch role")

/-- Renames a role. -/
def patchRole (id : Id) (name : String) : Script Response :=
  respondTo (.updateRole id name) (fun (role : Role) => .ofJson 200 (jsonOfRole role))
    (.ofError "role" "update role")

/-- Removes a role. -/
def deleteRole (id : Id) : Script Response :=
  respondTo (.deleteRole id) (fun _ => .ofStatus 204) (.ofError "role" "delete role")

/-- Makes a role grant exactly the permissions of a list. -/
def putRolePermissions (id : Id) (permissions : List Id) : Script Response :=
  respondTo (.setRolePermissions id (.ofList permissions))
    (fun (role : Role) => .ofJson 200 (jsonOfRole role))
    (.ofError "role" "replace role permissions")

/-- What is told when a command could not be brought to its end. -/
def commandFailed : Problem :=
  .internal "Failed to process command"

/-- The text of the command in a body, as it is evaluated. -/
def commandText (profile : Profile) (body : Text.Bytes) : Except Problem String :=
  match Json.read? body with
  | none => .error commandFailed
  | some value =>
    match (value.get? "command").bind Json.text? with
    | none => .error (.validation "Command is required")
    | some text =>
      if text.isEmpty then
        .error (.validation "Command is required")
      else
        let trimmed := Text.trim text
        .ok (if profile.lowercaseCommands then Text.lowercase trimmed else trimmed)

/-- The response that carries the reply to a command. -/
def replyResponse (reply : Reply) : Response :=
  .ofJson 200 (.object [("result", .string reply.message), ("status", .string reply.status.label)])

/-- Evaluates a command. -/
def postCommand (profile : Profile) (request : Request) : Script Handled :=
  match body? request with
  | none => pure (.ofResponse tooLong)
  | some body =>
    match commandText profile body with
    | .error problem => pure (.ofResponse problem.response)
    | .ok text => do
      let reply ← Command.evaluate text
      return ⟨replyResponse reply, some reply⟩

/-- Goes on with the identifier that a part of a path stands for. -/
def withId (parameter raw : String) (next : Id → Script Response) : Script Response :=
  match Text.percentDecode? raw with
  | some id => next id
  | none => pure (.ofText 400 ("Invalid URL: Invalid UTF-8 in \x60" ++ parameter ++ "\x60"))

/-- Goes on with what the body of a request says. -/
def withBody (format : BodyFormat α) (request : Request) (next : α → Script Response) :
    Script Response :=
  match format.ofRequest request with
  | .ok body => next body
  | .error error => pure error.response

/-- Handles a request that gives no command. -/
def withoutReply (script : Script Response) : Script Handled := do
  return .ofResponse (← script)

/-- Handles a request by a method that its route takes. -/
def handleRoute (profile : Profile) (request : Request) : Route → Script Handled
  | .systemInfo => withoutReply (pure (infoResponse profile))
  | .systemHealth => withoutReply health
  | .command => postCommand profile request
  | .permissions =>
    withoutReply <|
      if request.method = "POST" then
        withBody permissionDraft request postPermission
      else
        listPermissions
  | .permission raw =>
    withoutReply <| withId "permission_id" raw fun id =>
      if request.method = "PATCH" then withBody permissionPatch request (patchPermission id)
      else if request.method = "DELETE" then deletePermission id
      else getPermission id
  | .roles =>
    withoutReply <|
      if request.method = "POST" then withBody roleName request postRole else listRoles
  | .role raw =>
    withoutReply <| withId "role_id" raw fun id =>
      if request.method = "PATCH" then withBody roleName request (patchRole id)
      else if request.method = "DELETE" then deleteRole id
      else getRole id
  | .rolePermissions raw =>
    withoutReply <| withId "role_id" raw fun id =>
      withBody permissionList request (putRolePermissions id)
  | .description => withoutReply (pure (.ofJson 200 profile.manual.description))
  | .page path => withoutReply (pure (profile.manual.page path))

/-- The response as its receiver gets it: one who asks for the head only gets nothing else. -/
def Handled.forMethod (method : String) (handled : Handled) : Handled :=
  if method = "HEAD" then { handled with response := handled.response.withoutContent } else handled

/-- Handles a request. -/
def handle (profile : Profile) (request : Request) : Script Handled :=
  match Route.ofPath? (pathOf request.target) with
  | none => pure (.ofResponse (.ofStatus 404))
  | some route =>
    if route.methods.contains request.method then do
      return (← handleRoute profile request route).forMethod request.method
    else
      pure (.ofResponse { Response.ofStatus 405 with allow := some route.methods })

end Rolebook.Http
