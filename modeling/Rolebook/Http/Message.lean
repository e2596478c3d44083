import Rolebook.Json.Value
import Rolebook.Text.Utf8

/-!
# Requests and responses

What comes in and what goes out.
-/

namespace Rolebook.Http

open Rolebook.Text (Bytes)

/-- Whether `c` may stand in a token: in the name of a header field or a part of a media type. -/
def isTokenChar (c : Char) : Bool :=
  ('a' ≤ c && c ≤ 'z') || ('A' ≤ c && c ≤ 'Z') || ('0' ≤ c && c ≤ '9') ||
    "!#$%&'*+-.^_\x60|~".toList.contains c

/-- The header fields of a request, in the order in which they came. -/
abbrev Headers := List (String × Bytes)

/-- Whether a header field can be sent at all: its name is a token, and its value has no control
bytes other than tabs. -/
def isSendable (header : String × Bytes) : Bool :=
  !header.1.isEmpty && header.1.toList.all isTokenChar &&
    header.2.all fun byte => byte = 0x09 || (0x20 ≤ byte && byte ≠ 0x7F)

/-- The first value of a header field. Names are compared without regard to case. -/
def Headers.first? (headers : Headers) (name : String) : Option Bytes :=
  (headers.find? fun header => header.1.toLower == name).map Prod.snd

/-- A header value as a text, if it has only visible ASCII characters, spaces and tabs. -/
def headerText? (value : Bytes) : Option (List Char) :=
  if value.all fun byte => byte = 0x09 || (0x20 ≤ byte && byte < 0x7F) then
    some (value.map fun byte => Char.ofNat byte.toNat)
  else
    none

/-- A request. -/
structure Request where
  method : String
  /-- The path and the query. -/
  target : String
  headers : Headers
  body : Bytes
deriving DecidableEq, Repr

/-- What a response carries. -/
inductive Content
  | empty
  | json (value : Json)
  | text (text : String)
deriving Repr

/-- A response. Header fields are left out, but for the one that lists methods. -/
structure Response where
  status : Nat
  /-- The methods that are allowed, if that is said. -/
  allow : Option (List String)
  content : Content
deriving Repr

/-- A response that carries a value. -/
def Response.ofJson (status : Nat) (value : Json) : Response :=
  ⟨status, none, .json value⟩

/-- A response that carries a text. -/
def Response.ofText (status : Nat) (text : String) : Response :=
  ⟨status, none, .text text⟩

/-- A response that carries nothing. -/
def Response.ofStatus (status : Nat) : Response :=
  ⟨status, none, .empty⟩

/-- The response without what it carries. -/
def Response.withoutContent (response : Response) : Response :=
  { response with content := .empty }

end Rolebook.Http
