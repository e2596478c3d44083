/-!
# Places in a Yaml text

A cursor is a place in a text: what is still to be read, and the line and column that it starts in,
on which the meaning of a Yaml text depends.
-/

namespace Rolebook.Yaml

/-- Whether `c` may stand in a text at all. -/
def isPrintable (c : Char) : Bool :=
  let n := c.toNat
  n = 0x9 || n = 0xA || n = 0xD || (0x20 ≤ n && n ≤ 0x7E) || n = 0x85 ||
    (0xA0 ≤ n && n ≤ 0xFFFD) || 0x10000 ≤ n

/-- Whether `c` ends a line. -/
def isBreak (c : Char) : Bool :=
  c = '\n' || c = '\x0d' || c = '\u0085' || c = '\u2028' || c = '\u2029'

/-- Whether `c` is a space or a tab. -/
def isSpace (c : Char) : Bool :=
  c = ' ' || c = '\t'

/-- Whether a word ends in front of `cs`: at a space, a tab, the end of a line or the end of the
text. -/
def endsWord : List Char → Bool
  | [] => true
  | c :: _ => isSpace c || isBreak c

/-- Whether `c` may stand in a name. -/
def isNameChar (c : Char) : Bool :=
  c.isAlphanum || c = '_' || c = '-'

/-- Whether `cs` starts with the three characters that stand between documents. -/
def atMark (mark : Char) (cs : List Char) : Bool :=
  cs.take 3 = [mark, mark, mark] && endsWord (cs.drop 3)

/-- Whether `cs` starts with the start or the end of a document. -/
def atDocumentMark (cs : List Char) : Bool :=
  atMark '-' cs || atMark '.' cs

/-- The end of a line as it is kept in a text. -/
def keptBreak (c : Char) : Char :=
  if c = '\u2028' || c = '\u2029' then c else '\n'

/-- How far a text was read. -/
structure Position where
  /-- How many characters stand before it. -/
  index : Nat
  line : Nat
  column : Nat
deriving DecidableEq, Repr

/-- The position behind characters of one line. -/
def Position.over (position : Position) (length : Nat) : Position :=
  { position with index := position.index + length, column := position.column + length }

/-- The position behind the end of a line. -/
def Position.nextLine (position : Position) (length : Nat) : Position :=
  ⟨position.index + length, position.line + 1, 0⟩

/-- A place in a text. -/
structure Cursor where
  position : Position
  rest : List Char
deriving DecidableEq, Repr

namespace Cursor

/-- The start of a text. -/
def start (text : List Char) : Cursor :=
  ⟨⟨0, 0, 0⟩, text⟩

/-- The column of a place. -/
def column (cursor : Cursor) : Nat :=
  cursor.position.column

/-- The place behind so many characters of one line. -/
def skip (cursor : Cursor) (length : Nat) : Cursor :=
  ⟨cursor.position.over length, cursor.rest.drop length⟩

/-- The place behind the characters of one line for which `p` holds. -/
def skipWhile (cursor : Cursor) (p : Char → Bool) : Cursor :=
  cursor.skip (cursor.rest.takeWhile p).length

/-- The place behind the end of a line, if there is one. -/
def skipBreak (cursor : Cursor) : Cursor :=
  match cursor.rest with
  | '\x0d' :: '\n' :: rest => ⟨cursor.position.nextLine 2, rest⟩
  | c :: rest => if isBreak c then ⟨cursor.position.nextLine 1, rest⟩ else cursor
  | [] => cursor

/-- The place behind a comment, if there is one. -/
def skipComment (cursor : Cursor) : Cursor :=
  match cursor.rest with
  | '#' :: _ => cursor.skipWhile fun c => !isBreak c
  | _ => cursor

end Cursor

end Rolebook.Yaml
