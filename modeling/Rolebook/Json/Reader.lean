import Rolebook.Json.Lexeme
import Rolebook.Json.Value

/-!
# Reading Json

A whole text as one value, and a value whose content does not matter, of which only the form is
looked at. Arrays and objects may be nested to a fixed depth in a value that is kept, and to any
depth in one that is not.
-/

namespace Rolebook.Json

open Rolebook.Text

/-- The depth to which arrays and objects may be nested. -/
def maxDepth : Nat := 127

mutual

/-- A value and what follows it, with a bound on the steps and on the depth. -/
def takeValue? : (fuel depth : Nat) → Bytes → Option (Json × Bytes)
  | 0, _, _ => none
  | fuel + 1, depth, bytes =>
    match skipBlanks bytes with
    | [] => none
    | byte :: rest =>
      if byte = 0x6E then
        (skipLetters? "ull".toList rest).map fun rest => (.null, rest)
      else if byte = 0x74 then
        (skipLetters? "rue".toList rest).map fun rest => (.bool true, rest)
      else if byte = 0x66 then
        (skipLetters? "alse".toList rest).map fun rest => (.bool false, rest)
      else if byte = 0x22 then
        (takeText? rest).map fun (text, rest) => (.string text, rest)
      else if byte = 0x5B then
        match depth with
        | 0 => none
        | depth + 1 =>
          (takeItems? fuel depth true rest).map fun (items, rest) => (.array items, rest)
      else if byte = 0x7B then
        match depth with
        | 0 => none
        | depth + 1 =>
          (takeMembers? fuel depth true rest).map fun (members, rest) => (.object members, rest)
      else
        match Number.take? (byte :: rest) with
        | some (n, rest) => if n.tooLarge then none else some (.number n.literal, rest)
        | none => none

/-- The items of an array that are left and what follows its closing bracket. -/
def takeItems? : (fuel depth : Nat) → (first : Bool) → Bytes → Option (List Json × Bytes)
  | 0, _, _, _ => none
  | fuel + 1, depth, first, bytes =>
    match takeSeparator? 0x5D first bytes with
    | none => none
    | some (.close, bytes) => some ([], bytes.drop 1)
    | some (.part, bytes) =>
      match takeValue? fuel depth bytes with
      | none => none
      | some (item, bytes) =>
        (takeItems? fuel depth false bytes).map fun (items, rest) => (item :: items, rest)

/-- The members of an object that are left and what follows its closing brace. -/
def takeMembers? :
    (fuel depth : Nat) → (first : Bool) → Bytes → Option (List (String × Json) × Bytes)
  | 0, _, _, _ => none
  | fuel + 1, depth, first, bytes =>
    match takeSeparator? 0x7D first bytes with
    | none => none
    | some (.close, bytes) => some ([], bytes.drop 1)
    | some (.part, []) => none
    | some (.part, quote :: bytes) =>
      if quote = 0x22 then
        match takeText? bytes with
        | none => none
        | some (key, bytes) =>
          match skipBlanks bytes with
          | [] => none
          | colon :: bytes =>
            if colon = 0x3A then
              match takeValue? fuel depth bytes with
              | none => none
              | some (value, bytes) =>
                (takeMembers? fuel depth false bytes).map fun (members, rest) =>
                  ((key, value) :: members, rest)
            else
              none
      else
        none

end

/-- The value that a whole text stands for. -/
def read? (bytes : Bytes) : Option Json :=
  match takeValue? (2 * bytes.length + 2) maxDepth bytes with
  | some (value, rest) => if (skipBlanks rest).isEmpty then some value else none
  | none => none

mutual

/-- What follows a value, with a bound on the steps. -/
def skipValue? : (fuel : Nat) → Bytes → Option Bytes
  | 0, _ => none
  | fuel + 1, bytes =>
    match skipBlanks bytes with
    | [] => none
    | byte :: rest =>
      if byte = 0x6E then skipLetters? "ull".toList rest
      else if byte = 0x74 then skipLetters? "rue".toList rest
      else if byte = 0x66 then skipLetters? "alse".toList rest
      else if byte = 0x22 then skipText? rest
      else if byte = 0x5B then skipItems? fuel true rest
      else if byte = 0x7B then skipMembers? fuel true rest
      else (Number.take? (byte :: rest)).map Prod.snd

/-- What follows the closing bracket of an array. -/
def skipItems? : (fuel : Nat) → (first : Bool) → Bytes → Option Bytes
  | 0, _, _ => none
  | fuel + 1, first, bytes =>
    match takeSeparator? 0x5D first bytes with
    | none => none
    | some (.close, bytes) => some (bytes.drop 1)
    | some (.part, bytes) =>
      match skipValue? fuel bytes with
      | none => none
      | some bytes => skipItems? fuel false bytes

/-- What follows the closing brace of an object. -/
def skipMembers? : (fuel : Nat) → (first : Bool) → Bytes → Option Bytes
  | 0, _, _ => none
  | fuel + 1, first, bytes =>
    match takeSeparator? 0x7D first bytes with
    | none => none
    | some (.close, bytes) => some (bytes.drop 1)
    | some (.part, []) => none
    | some (.part, quote :: bytes) =>
      if quote = 0x22 then
        match skipText? bytes with
        | none => none
        | some bytes =>
          match skipBlanks bytes with
          | [] => none
          | colon :: bytes =>
            if colon = 0x3A then
              match skipValue? fuel bytes with
              | none => none
              | some bytes => skipMembers? fuel false bytes
            else
              none
      else
        none

end

/-- What follows a value whose content does not matter. -/
def skip? (bytes : Bytes) : Option Bytes :=
  skipValue? (2 * bytes.length + 2) bytes

end Rolebook.Json
