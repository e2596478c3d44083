import Rolebook.Net.Address
import Rolebook.Text.Damage
import Rolebook.Text.Percent
import Rolebook.Text.Pieces

/-!
# Resource addresses

The parts of an absolute resource address whose scheme is not one of the web. Behind the scheme
there may be two slashes and an authority: a host, before it a user with a password, and a port
behind it.
-/

namespace Rolebook.Net

open Rolebook.Text

/-- The parts of a resource address, with percent signs not undone. -/
structure Url where
  user : List Char
  password : List Char
  /-- The host, unless it is empty. -/
  host : Option (List Char)
  port : Option UInt16
  path : List Char
  query : List Char
deriving DecidableEq, Repr

/-- Why a text is no absolute resource address. -/
inductive UrlError
  | noScheme
  | emptyHost
  | badHost
  | badLongAddress
  | badPort
deriving DecidableEq, Repr

/-- The text of an error. -/
def UrlError.message : UrlError → String
  | .noScheme => "relative URL without a base"
  | .emptyHost => "empty host"
  | .badHost => "invalid domain character"
  | .badLongAddress => "invalid IPv6 address"
  | .badPort => "invalid port number"

namespace Url

/-- The characters that count: none at either end up to the space, and no tabs and ends of lines. -/
def countingChars (text : String) : List Char :=
  let bare (cs : List Char) : List Char := cs.dropWhile (· ≤ ' ')
  ((bare (bare text.toList).reverse).reverse).filter fun c => c ≠ '\t' && c ≠ '\n' && c ≠ '\x0d'

/-- Whether `c` may stand in a scheme behind its first letter. -/
def isSchemeChar (c : Char) : Bool :=
  c.isAlphanum || c = '+' || c = '-' || c = '.'

/-- What follows a scheme and its colon. -/
def dropScheme? (cs : List Char) : Option (List Char) :=
  if (cs.head?.map Char.isAlpha).getD false then dropChar? ':' (cs.dropWhile isSchemeChar) else none

/-- Whether `c` ends an authority. -/
def endsAuthority (c : Char) : Bool :=
  c = '/' || c = '?' || c = '#'

/-- What stands before the last at sign, if there is one, and what stands behind it. -/
def splitUser (authority : List Char) : Option (List Char) × List Char :=
  let behind := (authority.reverse.takeWhile (· ≠ '@')).reverse
  if behind.length < authority.length then (some
    (authority.take (authority.length - behind.length - 1)), behind)
  else (none, authority)

/-- How many characters of a host come before its port. Colons in brackets do not count. -/
def hostLength (inBrackets : Bool) : List Char → Nat
  | [] => 0
  | c :: cs =>
    if c = ':' && !inBrackets then 0
    else hostLength (if c = '[' then true else if c = ']' then false else inBrackets) cs + 1

/-- The characters that no host has. -/
def isBadHostChar (c : Char) : Bool :=
  "\x00\t\n\x0d #/:<>?@[\\]^|".toList.contains c

/-- A host, if it is one: an address of eight groups in brackets, or anything without certain
characters. -/
def checkHost (host : List Char) : Except UrlError Unit :=
  match host with
  | '[' :: rest =>
    match LongAddress.take? rest with
    | some (_, [']']) => .ok ()
    | _ => .error .badLongAddress
  | _ => if host.any isBadHostChar then .error .badHost else .ok ()

/-- The port that characters stand for, if there is one. It ends at a backslash. -/
def readPort (cs : List Char) : Except UrlError (Option UInt16) :=
  let digits := cs.takeWhile (· ≠ '\\')
  if digits.isEmpty then
    .ok none
  else
    match takeNumber? 10 none 0xFFFF digits with
    | some (port, []) => .ok (some (UInt16.ofNat port))
    | _ => .error .badPort

/-- The address with a path and a query. -/
def withPath (url : Url) (cs : List Char) : Url :=
  let cs := cs.takeWhile (· ≠ '#')
  let path := cs.takeWhile (· ≠ '?')
  { url with path, query := cs.drop (path.length + 1) }

/-- An address with nothing in it. -/
def blank : Url :=
  ⟨[], [], none, none, [], []⟩

/-- The address with an authority, behind which `rest` comes. -/
def ofAuthority (authority rest : List Char) : Except UrlError Url := do
  let (userInfo, place) := splitUser authority
  if userInfo = some [] && place.isEmpty && !rest.isEmpty then throw .emptyHost
  let userInfo := userInfo.getD []
  let user := userInfo.takeWhile (· ≠ ':')
  let password := userInfo.drop (user.length + 1)
  let host := place.take (hostLength false place)
  checkHost host
  let behind := place.drop host.length
  if host.isEmpty && !behind.isEmpty then throw .emptyHost
  let port ← readPort (behind.drop 1)
  if host.isEmpty && !(user.isEmpty && password.isEmpty) then throw .emptyHost
  let host := if host.isEmpty then none else some host
  return { blank with user, password, host, port }.withPath rest

/-- The parts of the resource address that a text is. -/
def ofText (text : String) : Except UrlError Url :=
  match dropScheme? (countingChars text) with
  | none => .error .noScheme
  | some ('/' :: '/' :: rest) =>
    let authority := rest.takeWhile fun c => !endsAuthority c
    ofAuthority authority (rest.drop authority.length)
  | some rest => .ok (blank.withPath rest)

/-- A part of a query with plus signs and percent signs undone. -/
def queryText (cs : List Char) : String :=
  let spaced := cs.map fun c => if c = '+' then ' ' else c
  mendedText (percentDecodeFrom 0 (toUtf8 (String.ofList spaced)))

/-- The names and values that the query consists of. -/
def parameters (url : Url) : List (String × String) :=
  ((pieces '&' url.query).filter fun piece => !piece.isEmpty).map fun piece =>
    let name := piece.takeWhile (· ≠ '=')
    (queryText name, queryText (piece.drop (name.length + 1)))

end Url

end Rolebook.Net
