import Rolebook.Http.MediaType
import Rolebook.Http.Message
import Rolebook.Json.Record
import Rolebook.Record.Entity

/-!
# Bodies of requests

What the body of a request can say about an entity, and how it is read.
-/

namespace Rolebook.Http

open Rolebook.Json (Field FieldValue FieldValues RecordError)
open Rolebook.Text (Bytes)

/-- A kind of body: its fields, and what they say together. -/
structure BodyFormat (α : Type) where
  fields : List Field
  /-- What values of these fields say. -/
  ofValues : FieldValues → Option α

/-- The text of a field, if it has one. -/
def textOf (key : String) (values : FieldValues) : Option String :=
  match values.lookup key with
  | some (.text text) => some text
  | _ => none

/-- A permission that is to be created. -/
structure PermissionDraft where
  name : String
  description : Option String
deriving DecidableEq, Repr

/-- The body that describes a permission that is to be created. -/
def permissionDraft : BodyFormat PermissionDraft where
  fields := [⟨"name", .text, true, true⟩, ⟨"description", .textOrNull, false, false⟩]
  ofValues values := do
    let name ← textOf "name" values
    return ⟨name, textOf "description" values⟩

/-- What is to become of a description. -/
inductive DescriptionChange
  | keep
  /-- Another description, or none. -/
  | replace (description : Option String)
deriving DecidableEq, Repr

/-- The description after a change. -/
def DescriptionChange.apply (change : DescriptionChange) (current : Option String) :
    Option String :=
  match change with
  | .keep => current
  | .replace description => description

/-- A change to a permission. -/
structure PermissionPatch where
  /-- Another name, if it is to have one. -/
  name : Option String
  description : DescriptionChange
deriving DecidableEq, Repr

/-- The body that describes a change to a permission. A description that is null is taken away, one
that is not given is kept. -/
def permissionPatch : BodyFormat PermissionPatch where
  fields := [⟨"name", .textOrNull, false, true⟩, ⟨"description", .textOrNull, false, false⟩]
  ofValues values :=
    let description :=
      match values.lookup "description" with
      | some _ => .replace (textOf "description" values)
      | none => .keep
    some ⟨textOf "name" values, description⟩

/-- The body that names a role. -/
def roleName : BodyFormat String where
  fields := [⟨"name", .text, true, true⟩]
  ofValues := textOf "name"

/-- The body that lists permissions. -/
def permissionList : BodyFormat (List Id) where
  fields := [⟨"permission_ids", .texts, true, true⟩]
  ofValues values :=
    match values.lookup "permission_ids" with
    | some (.texts texts) => some texts
    | _ => none

/-- What the values of a record say. -/
def BodyFormat.ofRecord (format : BodyFormat α) (record : Except RecordError FieldValues) :
    Except RecordError α :=
  match record with
  | .error error => .error error
  | .ok values =>
    match format.ofValues values with
    | some body => .ok body
    | none => .error .mismatched

/-- What a whole text says. -/
def BodyFormat.read (format : BodyFormat α) (bytes : Bytes) : Except RecordError α :=
  format.ofRecord (Json.readRecord format.fields bytes)

/-- How many bytes a body may have for it to be read. -/
def bodyLimit : Nat := 2097152

/-- The body of a request, if it is not too long. -/
def body? (request : Request) : Option Bytes :=
  if request.body.length ≤ bodyLimit then some request.body else none

/-- The response to a request whose body is too long. -/
def tooLong : Response :=
  .ofText 413 "Failed to buffer the request body: length limit exceeded"

/-- Why a body is refused. -/
inductive BodyError
  /-- The request does not say that its body is Json. -/
  | contentType
  /-- The body is too long. -/
  | tooLong
  /-- The body is not what it should be. -/
  | record (error : RecordError)
deriving DecidableEq, Repr

/-- Whether a request says that its body is Json. -/
def saysJson (request : Request) : Bool :=
  match request.headers.first? "content-type" with
  | none => false
  | some value =>
    match headerText? value with
    | none => false
    | some text => (MediaType.ofChars? text).any MediaType.isJson

/-- What the record at the start of some bytes says, whatever follows it. -/
def BodyFormat.readAtStart (format : BodyFormat α) (bytes : Bytes) : Except RecordError α :=
  format.ofRecord (Json.readRecordAtStart format.fields bytes)

/-- What the body of a request says. The header fields are looked at first, then the length of the
body, and only then the body is read. -/
def BodyFormat.ofRequest (format : BodyFormat α) (request : Request) : Except BodyError α :=
  if saysJson request then
    match body? request with
    | some body => (format.readAtStart body).mapError .record
    | none => .error .tooLong
  else
    .error .contentType

/-- The response to a request whose body is refused. -/
def BodyError.response : BodyError → Response
  | .tooLong => Http.tooLong
  | .contentType => .ofText 415 "Expected request with \x60Content-Type: application/json\x60"
  | .record .malformed => .ofText 400 "Failed to parse the request body as JSON"
  | .record .mismatched => .ofText 422 "Failed to deserialize the JSON body into the target type"

end Rolebook.Http
