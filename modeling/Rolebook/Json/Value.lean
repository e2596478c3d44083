import Rolebook.Text.Digits

/-!
# Json values

Values of the data format and their text. An object keeps its members in the order in which they
were given, and a number keeps its literal, so that no digit of it is lost.
-/

namespace Rolebook

/-- A value of the format. -/
inductive Json
  | null
  | bool (value : Bool)
  | number (literal : String)
  | string (text : String)
  | array (items : List Json)
  | object (members : List (String × Json))
deriving Repr

namespace Json

/-- The number `n`. -/
def ofNat (n : Nat) : Json :=
  .number (String.ofList (Text.toDigits 10 n))

/-- The text, or null if there is none. -/
def ofText? : Option String → Json
  | some text => .string text
  | none => .null

/-- The value of the last member with a key, if the value is an object that has one. -/
def get? (key : String) : Json → Option Json
  | .object members => (members.reverse.find? fun member => member.1 == key).map Prod.snd
  | _ => none

/-- The text of a string. -/
def text? : Json → Option String
  | .string text => some text
  | _ => none

/-- A character as it stands inside a quoted text. -/
def quotedChar (c : Char) : List Char :=
  if c = '"' then ['\\', '"']
  else if c = '\\' then ['\\', '\\']
  else if c = '\x08' then ['\\', 'b']
  else if c = '\x0c' then ['\\', 'f']
  else if c = '\n' then ['\\', 'n']
  else if c = '\r' then ['\\', 'r']
  else if c = '\t' then ['\\', 't']
  else if c.toNat < 0x20 then ['\\', 'u'] ++ Text.toPaddedDigits 16 4 c.toNat
  else [c]

/-- A text in quotes. -/
def quoted (text : String) : List Char :=
  '"' :: text.toList.flatMap quotedChar ++ ['"']

mutual

/-- The text of a value, without any blanks. -/
def chars : Json → List Char
  | .null => "null".toList
  | .bool true => "true".toList
  | .bool false => "false".toList
  | .number literal => literal.toList
  | .string text => quoted text
  | .array [] => ['[', ']']
  | .array (item :: items) => '[' :: chars item ++ itemChars items
  | .object [] => ['\x7b', '\x7d']
  | .object ((key, value) :: members) =>
    '\x7b' :: quoted key ++ ':' :: chars value ++ memberChars members

/-- The text of the items that follow another one, and the bracket after them. -/
def itemChars : List Json → List Char
  | [] => [']']
  | item :: items => ',' :: chars item ++ itemChars items

/-- The text of the members that follow another one, and the brace after them. -/
def memberChars : List (String × Json) → List Char
  | [] => ['\x7d']
  | (key, value) :: members => ',' :: quoted key ++ ':' :: chars value ++ memberChars members

end

/-- The text of a value, without any blanks. -/
def render (value : Json) : String :=
  String.ofList value.chars

end Json

end Rolebook
