import Rolebook.Http.Message

/-!
# Media types

The value of a content type header, and whether it says that the content is Json. A type has two
parts, of which the second may end in a plus sign and a suffix, and then parameters.
-/

namespace Rolebook.Http

/-- Where in its parameters a media type is read. -/
inductive ParameterState
  | nameStart
  | name
  | valueStart
  | value
  | quotedStart
  | quoted
  | quotedEnd
deriving DecidableEq, Repr

/-- The state after one more character, if it can stand there. A quote right behind the opening one
belongs to the value. -/
def ParameterState.next? (state : ParameterState) (c : Char) : Option ParameterState :=
  let plain := 0x20 ≤ c.toNat && c.toNat != 0x7F
  match state with
  | .nameStart => if c = ' ' then some .nameStart else if isTokenChar c then some .name else none
  | .name => if c = '=' then some .valueStart else if isTokenChar c then some .name else none
  | .valueStart =>
    if c = '"' then some .quotedStart else if isTokenChar c then some .value else none
  | .value => if c = ';' then some .nameStart else if isTokenChar c then some .value else none
  | .quotedStart => if plain then some .quoted else none
  | .quoted => if c = '"' then some .quotedEnd else if plain then some .quoted else none
  | .quotedEnd => if c = ';' then some .nameStart else if c = ' ' then some .quotedEnd else none

/-- Whether the parameters may end in a state. -/
def ParameterState.final : ParameterState → Bool
  | .nameStart | .valueStart | .value | .quotedEnd => true
  | .name | .quotedStart | .quoted => false

/-- Whether the parameters of a media type are well-formed from a state on. -/
def wellFormedFrom : ParameterState → List Char → Bool
  | state, [] => state.final
  | state, c :: cs =>
    match state.next? c with
    | some state => wellFormedFrom state cs
    | none => false

/-- The parts of a media type, in lower case. -/
structure MediaType where
  type : List Char
  subtype : List Char
  suffix : Option (List Char)
deriving DecidableEq, Repr

/-- A subtype and its suffix, which is what stands behind the last plus sign that is not the first
character. -/
def splitSuffix (chars : List Char) : List Char × Option (List Char) :=
  let behind := chars.reverse.takeWhile (· ≠ '+')
  let before := chars.take (chars.length - behind.length - 1)
  if before.isEmpty then (chars, none) else (before, some behind.reverse)

/-- The media type that a text stands for. -/
def MediaType.ofChars? (chars : List Char) : Option MediaType :=
  let chars := chars.map Char.toLower
  let type := chars.takeWhile isTokenChar
  match chars.drop type.length with
  | '/' :: rest =>
    let part := rest.takeWhile isTokenChar
    let (subtype, suffix) := splitSuffix part
    let wellFormed :=
      match rest.drop part.length with
      | [] => true
      | ';' :: parameters => !part.isEmpty && wellFormedFrom .nameStart parameters
      | _ => false
    if type.isEmpty || !wellFormed then none else some ⟨type, subtype, suffix⟩
  | _ => none

/-- Whether content of this type is Json. -/
def MediaType.isJson (mediaType : MediaType) : Bool :=
  mediaType.type == "application".toList &&
    (mediaType.subtype == "json".toList || mediaType.suffix == some "json".toList)

end Rolebook.Http
