import Rolebook.Text.Numeral
import Rolebook.Yaml.Node

/-!
# Values of Yaml documents by type

What a value has to look like to be read as a text, a switch or a number. A value that is written
plainly may be each of them; one in quotes is only a text.
-/

namespace Rolebook.Yaml

open Rolebook.Text

/-- The full form of a tag of Yaml itself. -/
def coreTag (name : String) : String :=
  "tag:yaml.org,2002:" ++ name

/-- Whether a plain scalar is a way to write that there is nothing. -/
def isNullText (text : String) : Bool :=
  text = "~" || text = "null" || text = "Null" || text = "NULL"

/-- The switch that a plain scalar stands for. -/
def switchOf? (text : String) : Option Bool :=
  if text = "true" || text = "True" || text = "TRUE" then some true
  else if text = "false" || text = "False" || text = "FALSE" then some false
  else none

/-- The base that digits are written to and the digits behind the sign that says so. -/
def baseOf : List Char → Nat × List Char
  | '0' :: 'x' :: digits => (16, digits)
  | '0' :: 'o' :: digits => (8, digits)
  | '0' :: 'b' :: digits => (2, digits)
  | digits => (10, digits)

/-- Whether digits start with a zero that they do not need. Such a text is not taken for a
number. -/
def hasLeadingZero (digits : List Char) : Bool :=
  1 < digits.length && digits.head? = some '0' && digits.all Char.isDigit

/-- The number that a plain scalar stands for, if it is not above a greatest one. -/
def numberOf? (greatest : Nat) (text : String) : Option Nat :=
  let chars := text.toList
  let unsigned := if chars.head? = some '+' then chars.drop 1 else chars
  let (base, digits) := baseOf unsigned
  if digits.isEmpty || hasLeadingZero unsigned then none
  else (readDigits base greatest 0 digits).toOption

namespace Node

/-- The text of a value. -/
def text? : Node → Option String
  | .scalar _ _ text => some text
  | _ => none

/-- The text of a value that is written plainly, or as a block with the tag of its type. -/
def plainText? (type : String) : Node → Option String
  | .scalar .plain _ text => some text
  | .scalar .literal tag text => if tag = some (coreTag type) then some text else none
  | _ => none

/-- The switch that a value stands for. -/
def switch? (node : Node) : Option Bool :=
  (node.plainText? "bool").bind switchOf?

/-- The number that a value stands for, if it is not above a greatest one. -/
def number? (greatest : Nat) (node : Node) : Option Nat :=
  (node.plainText? "int").bind (numberOf? greatest)

/-- Whether a value says that there is nothing, if it can be told. A value with the tag of nothing
has to say so, and one with another tag says so only by being empty. -/
def isNothing? : Node → Option Bool
  | .scalar .plain tag text =>
    match tag with
    | none => some (text.isEmpty || isNullText text)
    | some tag =>
      if tag = coreTag "null" then if isNullText text then some true else none
      else some text.isEmpty
  | _ => some false

/-- A value that may be missing, read as `read?` does. The outer option says whether it can be
read. -/
def optional? (read? : Node → Option α) (node : Node) : Option (Option α) :=
  match node.isNothing? with
  | none => none
  | some true => some none
  | some false => (read? node).map some

/-- The members of a mapping whose keys are all texts. An empty document has no members. -/
def members? : Node → Option (List (String × Node))
  | .mapping entries => entries.mapM fun (key, value) => key.text?.map fun key => (key, value)
  | .scalar .plain _ "" => some []
  | _ => none

end Node

/-- The value of a member of a mapping, read as `read?` does. The member may be missing but may not
come twice. -/
def member? (read? : Node → Option α) (name : String) (members : List (String × Node)) :
    Option (Option α) :=
  match members.filter fun member => member.1 = name with
  | [] => some none
  | [(_, node)] => node.optional? read?
  | _ => none

end Rolebook.Yaml
