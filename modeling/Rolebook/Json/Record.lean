import Rolebook.Json.Reader

/-!
# Json records

Objects with known fields. A record is read from left to right and the first problem decides what
kind of error it is: text that is no value of the format, or a value that does not have the shape of
the record. An array stands for the fields in their order. Members with other keys are passed over.
-/

namespace Rolebook.Json

open Rolebook.Text

/-- Why a record cannot be read. -/
inductive RecordError
  /-- The text is malformed or ends too early. -/
  | malformed
  /-- A value is not of the type wanted, stands twice or is missing. -/
  | mismatched
deriving DecidableEq, Repr

/-- What a field may hold. -/
inductive FieldType
  | text
  | textOrNull
  | texts
deriving DecidableEq, Repr

/-- What a field holds. -/
inductive FieldValue
  | text (text : String)
  | null
  | texts (texts : List String)
deriving DecidableEq, Repr

/-- A field of a record. -/
structure Field where
  key : String
  type : FieldType
  /-- Whether an object has to have the field. -/
  neededInObject : Bool
  /-- Whether an array has to be long enough to have the field. -/
  neededInArray : Bool
deriving DecidableEq, Repr

/-- The error for a value of another type, which shows itself by the first lexeme of the value. -/
def wrongType : Bytes → RecordError
  | [] => .malformed
  | byte :: rest =>
    let ofForm (wellFormed : Bool) : RecordError := if wellFormed then .mismatched else .malformed
    if byte = 0x6E then ofForm (skipLetters? "ull".toList rest).isSome
    else if byte = 0x74 then ofForm (skipLetters? "rue".toList rest).isSome
    else if byte = 0x66 then ofForm (skipLetters? "alse".toList rest).isSome
    else if byte = 0x22 then ofForm (takeText? rest).isSome
    else if byte = 0x5B ∨ byte = 0x7B then .mismatched
    else
      match Number.take? (byte :: rest) with
      | some (n, _) => ofForm !n.tooLarge
      | none => .malformed

/-- A text and what follows it. -/
def takeTextField (bytes : Bytes) : Except RecordError (String × Bytes) :=
  match skipBlanks bytes with
  | [] => .error .malformed
  | byte :: rest =>
    if byte = 0x22 then
      match takeText? rest with
      | some result => .ok result
      | none => .error .malformed
    else
      .error (wrongType (byte :: rest))

/-- The texts of an array that are left and what follows its closing bracket, with a bound on their
number. -/
def takeTextItems : (fuel : Nat) → (first : Bool) → Bytes → Except RecordError (List String × Bytes)
  | 0, _, _ => .error .malformed
  | fuel + 1, first, bytes =>
    match takeSeparator? 0x5D first bytes with
    | none => .error .malformed
    | some (.close, bytes) => .ok ([], bytes.drop 1)
    | some (.part, bytes) => do
      let (text, bytes) ← takeTextField bytes
      let (texts, rest) ← takeTextItems fuel false bytes
      return (text :: texts, rest)

/-- The value of a field and what follows it. -/
def takeField (type : FieldType) (bytes : Bytes) : Except RecordError (FieldValue × Bytes) :=
  match skipBlanks bytes with
  | [] => .error .malformed
  | byte :: rest =>
    match type with
    | .text => (takeTextField (byte :: rest)).map fun (text, rest) => (.text text, rest)
    | .textOrNull =>
      if byte = 0x6E then
        match skipLetters? "ull".toList rest with
        | some rest => .ok (.null, rest)
        | none => .error .malformed
      else
        (takeTextField (byte :: rest)).map fun (text, rest) => (.text text, rest)
    | .texts =>
      if byte = 0x5B then
        (takeTextItems (rest.length + 1) true rest).map fun (texts, rest) => (.texts texts, rest)
      else
        .error (wrongType (byte :: rest))

/-- The values of the fields, as far as they are given. -/
abbrev FieldValues := List (String × FieldValue)

/-- The members of an object that are left, added to the values that were given before them, and
what follows the closing brace. -/
def takeFieldMembers (fields : List Field) :
    (fuel : Nat) → (first : Bool) → FieldValues → Bytes → Except RecordError (FieldValues × Bytes)
  | 0, _, _, _ => .error .malformed
  | fuel + 1, first, values, bytes =>
    match takeSeparator? 0x7D first bytes with
    | none => .error .malformed
    | some (.close, bytes) =>
      if fields.all fun field => !field.neededInObject || (values.lookup field.key).isSome then
        .ok (values, bytes.drop 1)
      else
        .error .mismatched
    | some (.part, []) => .error .malformed
    | some (.part, quote :: bytes) =>
      if quote = 0x22 then
        match takeText? bytes with
        | none => .error .malformed
        | some (key, bytes) =>
          let field? := fields.find? fun field => field.key == key
          if field?.isSome && (values.lookup key).isSome then
            .error .mismatched
          else
            match skipBlanks bytes with
            | [] => .error .malformed
            | colon :: bytes =>
              if colon = 0x3A then
                match field? with
                | some field => do
                  let (value, bytes) ← takeField field.type bytes
                  takeFieldMembers fields fuel false (values ++ [(key, value)]) bytes
                | none =>
                  match skip? bytes with
                  | some bytes => takeFieldMembers fields fuel false values bytes
                  | none => .error .malformed
              else
                .error .malformed
      else
        .error .malformed

/-- The items of an array that stand for these fields, and what follows them. -/
def takeFieldItems : List Field → (first : Bool) → Bytes → Except RecordError (FieldValues × Bytes)
  | [], _, bytes => .ok ([], bytes)
  | field :: fields, first, bytes =>
    match takeSeparator? 0x5D first bytes with
    | none => .error .malformed
    | some (.close, bytes) =>
      if field.neededInArray then .error .mismatched else takeFieldItems fields first bytes
    | some (.part, bytes) => do
      let (value, bytes) ← takeField field.type bytes
      let (values, bytes) ← takeFieldItems fields false bytes
      return ((field.key, value) :: values, bytes)

/-- The values of the fields of a record at the start of some bytes, and what follows it. -/
def takeRecord (fields : List Field) (bytes : Bytes) : Except RecordError (FieldValues × Bytes) :=
  match skipBlanks bytes with
  | [] => .error .malformed
  | byte :: rest =>
    if byte = 0x7B then
      takeFieldMembers fields (rest.length + 1) true [] rest
    else if byte = 0x5B then do
      let (values, bytes) ← takeFieldItems fields true rest
      match skipBlanks bytes with
      | closing :: rest => if closing = 0x5D then .ok (values, rest) else .error .malformed
      | [] => .error .malformed
    else
      .error (wrongType (byte :: rest))

/-- The record at the start of some bytes, whatever follows it. -/
def readRecordAtStart (fields : List Field) (bytes : Bytes) : Except RecordError FieldValues :=
  (takeRecord fields bytes).map Prod.fst

/-- The record that all of the bytes stand for. -/
def readRecord (fields : List Field) (bytes : Bytes) : Except RecordError FieldValues := do
  let (values, rest) ← takeRecord fields bytes
  if (skipBlanks rest).isEmpty then .ok values else .error .malformed

end Rolebook.Json
