import Rolebook.Http.Message
import Rolebook.Text.Blank
import Rolebook.Text.Numeral
import Rolebook.Text.Pieces

/-!
# Trace contexts

A request can say which trace it belongs to. One header field names the trace and the span in which
the request was made, another one carries what other systems have to say of the trace. If that other
field is not well-formed then it is taken for missing.
-/

namespace Rolebook.Trace

open Rolebook.Http (Headers headerText?)
open Rolebook.Text

/-- What other systems say of a trace, by their keys. -/
abbrev State := List (List Char × List Char)

/-- A trace, a span in it, and what is said of them. -/
structure Context where
  traceId : BitVec 128
  spanId : BitVec 64
  /-- Whether the trace is recorded. -/
  sampled : Bool
  state : State
deriving DecidableEq, Repr

/-! ## What other systems say -/

/-- Whether `c` is a lower case letter or a digit. -/
def isPlainKeyChar (c : Char) : Bool :=
  c.isLower || c.isDigit

/-- Whether `c` may stand in a key. -/
def isKeyChar (c : Char) : Bool :=
  isPlainKeyChar c || c = '_' || c = '-' || c = '*' || c = '/'

/-- Whether characters of a key start plainly, if there are any. -/
def startsPlainly (cs : List Char) : Bool :=
  (cs.head?.map isPlainKeyChar).getD true

/-- How many characters a key or a value may have. -/
def maxMemberLength : Nat := 256

/-- How many characters the name of a vendor may have. -/
def maxVendorLength : Nat := 13

/-- Whether a key may be written so. The name of a vendor may stand at its end, behind a sign. -/
def validKey (key : List Char) : Bool :=
  let name := key.takeWhile (· ≠ '@')
  let vendor := key.drop (name.length + 1)
  key.length ≤ maxMemberLength && name.all isKeyChar && vendor.all isKeyChar && startsPlainly key &&
    startsPlainly vendor && vendor.length ≤ maxVendorLength

/-- Whether a value may be written so. -/
def validValue (value : List Char) : Bool :=
  value.length ≤ maxMemberLength && !value.contains ',' && !value.contains '='

/-- The key and the value of a member. More signs between them than one are passed over. -/
def memberOf? (member : List Char) : Option (List Char × List Char) :=
  let key := member.takeWhile (· ≠ '=')
  let value := (member.drop key.length).dropWhile (· = '=')
  if key.length < member.length && validKey key && validValue value then some (key, value) else none

/-- What other systems say, if all of it is well-formed. -/
def stateOf? (cs : List Char) : Option State :=
  (terminatedPieces ',' cs).mapM memberOf?

/-- The text of a header field that says the same. -/
def stateText (state : State) : String :=
  String.ofList (List.intercalate [','] (state.map fun (key, value) => key ++ '=' :: value))

/-! ## The trace -/

/-- The number of so many bits that hexadecimal digits stand for. -/
def bitsOf? (width : Nat) (digits : List Char) : Option (BitVec width) :=
  (readNumeral 16 (greatestOfBits width) digits).toOption.map (BitVec.ofNat width)

/-- The number that names a trace or a span. It has no capital letters and is not zero. -/
def identifierOf? (width : Nat) (digits : List Char) : Option (BitVec width) :=
  if digits.any Char.isUpper then none else (bitsOf? width digits).filter (· ≠ 0)

/-- The first version has exactly four parts and no flags above two. No version is above 254. -/
def validVersion (version flags : BitVec 8) (furtherParts : Nat) : Bool :=
  version ≤ 254 && (version ≠ 0 || (furtherParts = 0 && flags ≤ 2))

/-- The trace that the text of a header field names, of which other systems say this. -/
def Context.ofChars? (state : State) (cs : List Char) : Option Context :=
  match terminatedPieces '-' (trimBlanks cs) with
  | version :: traceId :: spanId :: flags :: further => do
    let version ← bitsOf? 8 version
    let traceId ← identifierOf? 128 traceId
    let spanId ← identifierOf? 64 spanId
    let flags ← bitsOf? 8 flags
    if validVersion version flags further.length then
      some ⟨traceId, spanId, flags.getLsbD 0, state⟩
    else
      none
  | _ => none

/-- The text of the first header field with a name, if it is one. -/
def fieldText? (headers : Headers) (name : String) : Option (List Char) :=
  (headers.first? name).bind headerText?

/-- The trace that a request says it belongs to. -/
def Context.ofHeaders? (headers : Headers) : Option Context := do
  let state := ((fieldText? headers "tracestate").bind stateOf?).getD []
  Context.ofChars? state (← fieldText? headers "traceparent")

/-- The digits that name a trace or a span. -/
def identifierText (identifier : BitVec width) : String :=
  String.ofList (toPaddedDigits 16 (width / 4) identifier.toNat)

end Rolebook.Trace
