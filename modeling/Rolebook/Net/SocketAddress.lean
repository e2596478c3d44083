import Rolebook.Net.Address

/-!
# Socket addresses

An address and a port. An address of eight groups stands in brackets then, with a scope behind it if
there is one.
-/

namespace Rolebook.Net

open Rolebook.Text

/-- Where something listens or can be reached. -/
inductive SocketAddress
  | short (address : ShortAddress) (port : UInt16)
  | long (address : LongAddress) (scope : UInt32) (port : UInt16)
deriving DecidableEq, Repr

/-- A port as it is written behind an address. -/
def portChars (port : UInt16) : List Char :=
  ':' :: toDigits 10 port.toNat

/-- A scope as it is written behind an address. The scope 0 is not written. -/
def scopeChars (scope : UInt32) : List Char :=
  if scope = 0 then [] else '%' :: toDigits 10 scope.toNat

/-- A socket address as it is written. -/
def SocketAddress.chars : SocketAddress → List Char
  | .short address port => address.chars ++ portChars port
  | .long address scope port => '[' :: address.chars ++ scopeChars scope ++ ']' :: portChars port

/-- The text of a socket address. -/
def SocketAddress.text (address : SocketAddress) : String :=
  String.ofList address.chars

/-- The port that `cs` consists of, with its colon. -/
def portOf? (cs : List Char) : Option UInt16 := do
  match ← takeNumber? 10 none 0xFFFF (← dropChar? ':' cs) with
  | (port, []) => return UInt16.ofNat port
  | _ => none

/-- The scope that `cs` starts with and what follows it. It is 0 if there is none. -/
def takeScope (cs : List Char) : UInt32 × List Char :=
  match (dropChar? '%' cs).bind (takeNumber? 10 none 0xFFFFFFFF) with
  | some (scope, rest) => (UInt32.ofNat scope, rest)
  | none => (0, cs)

/-- The socket address that `cs` stands for. -/
def SocketAddress.ofChars? (cs : List Char) : Option SocketAddress :=
  match cs with
  | '[' :: cs => do
    let (address, cs) ← LongAddress.take? cs
    let (scope, cs) := takeScope cs
    let port ← portOf? (← dropChar? ']' cs)
    return .long address scope port
  | _ => do
    let (address, cs) ← ShortAddress.take? cs
    let port ← portOf? cs
    return .short address port

/-- The socket address that a text stands for. -/
def SocketAddress.ofText? (text : String) : Option SocketAddress :=
  SocketAddress.ofChars? text.toList

/-- The complaint about a text that stands for no socket address. -/
def badSocketAddressMessage : String :=
  "invalid socket address syntax"

end Rolebook.Net
