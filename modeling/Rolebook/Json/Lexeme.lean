import Rolebook.Json.Number

/-!
# Json lexemes

The smallest parts of the text of a value, each read off the start of some bytes together with what
follows it.
-/

namespace Rolebook.Json

open Rolebook.Text

/-- What is left after blanks: spaces, tabs and ends of lines. -/
def skipBlanks (bytes : Bytes) : Bytes :=
  bytes.dropWhile fun byte => byte = 0x20 ∨ byte = 0x09 ∨ byte = 0x0A ∨ byte = 0x0D

/-- What is left after the given ASCII characters, if the bytes start with them. -/
def skipLetters? : List Char → Bytes → Option Bytes
  | [], bytes => some bytes
  | c :: cs, byte :: bytes => if byte.toNat = c.toNat then skipLetters? cs bytes else none
  | _ :: _, [] => none

/-- The byte that a backslash and one letter stand for. -/
def escape? (letter : UInt8) : Option UInt8 :=
  if letter = 0x22 ∨ letter = 0x5C ∨ letter = 0x2F then some letter
  else if letter = 0x62 then some 0x08
  else if letter = 0x66 then some 0x0C
  else if letter = 0x6E then some 0x0A
  else if letter = 0x72 then some 0x0D
  else if letter = 0x74 then some 0x09
  else none

/-- The value of four hexadecimal digits. -/
def codeUnit? (a b c d : UInt8) : Option Nat :=
  (([a, b, c, d].mapM fun byte => digitValue? 16 (Char.ofNat byte.toNat)).map (ofDigits 16))

/-- Whether a code unit is the first half of a pair that stands for one character. -/
def isHighHalf (unit : Nat) : Bool :=
  0xD800 ≤ unit && unit < 0xDC00

/-- Whether a code unit is the second half of such a pair. -/
def isLowHalf (unit : Nat) : Bool :=
  0xDC00 ≤ unit && unit < 0xE000

/-- The bytes of a character, the last one first. -/
def bytesBackwards (code : Nat) : Bytes :=
  (toUtf8 (String.singleton (Char.ofNat code))).reverse

/-- The bytes of a text behind its opening quote, escapes undone, and what follows its closing
quote. The bytes in `taken` stand before them, the last one first. Halves of pairs have to stand in
pairs. -/
def takeTextBytes? (taken : Bytes) : Bytes → Option (Bytes × Bytes)
  | [] => none
  | byte :: rest =>
    if byte = 0x22 then
      some (taken.reverse, rest)
    else if byte < 0x20 then
      none
    else if byte = 0x5C then
      match rest with
      | [] => none
      | letter :: rest =>
        if letter = 0x75 then
          match rest with
          | a :: b :: c :: d :: rest =>
            match codeUnit? a b c d with
            | none => none
            | some unit =>
              if isLowHalf unit then
                none
              else if isHighHalf unit then
                match rest with
                | slash :: u :: a :: b :: c :: d :: rest =>
                  if slash = 0x5C ∧ u = 0x75 then
                    match codeUnit? a b c d with
                    | none => none
                    | some low =>
                      if isLowHalf low then
                        let code := 0x10000 + (unit - 0xD800) * 0x400 + (low - 0xDC00)
                        takeTextBytes? (bytesBackwards code ++ taken) rest
                      else
                        none
                  else
                    none
                | _ => none
              else
                takeTextBytes? (bytesBackwards unit ++ taken) rest
          | _ => none
        else
          match escape? letter with
          | some escaped => takeTextBytes? (escaped :: taken) rest
          | none => none
    else
      takeTextBytes? (byte :: taken) rest

/-- The text behind an opening quote and what follows its closing quote. -/
def takeText? (bytes : Bytes) : Option (String × Bytes) :=
  match takeTextBytes? [] bytes with
  | none => none
  | some (text, rest) => (ofUtf8? text).map fun text => (text, rest)

/-- What follows the closing quote of a text whose characters do not matter. -/
def skipText? : Bytes → Option Bytes
  | [] => none
  | byte :: rest =>
    if byte = 0x22 then
      some rest
    else if byte < 0x20 then
      none
    else if byte = 0x5C then
      match rest with
      | [] => none
      | letter :: rest =>
        if letter = 0x75 then
          match rest with
          | a :: b :: c :: d :: rest => if (codeUnit? a b c d).isSome then skipText? rest else none
          | _ => none
        else if (escape? letter).isSome then
          skipText? rest
        else
          none
    else
      skipText? rest

/-- A comma or an end between the parts of an array or object. -/
inductive Separator
  /-- There is no further part, the closing bracket comes next. -/
  | close
  /-- Another part comes next. -/
  | part
deriving DecidableEq

/-- What stands before the next part of an array or object with this closing bracket, and what
follows it. -/
def takeSeparator? (closing : UInt8) (first : Bool) (bytes : Bytes) : Option (Separator × Bytes) :=
  match skipBlanks bytes with
  | [] => none
  | byte :: rest =>
    if byte = closing then
      some (.close, byte :: rest)
    else if first then
      some (.part, byte :: rest)
    else if byte = 0x2C then
      match skipBlanks rest with
      | [] => none
      | byte :: rest => if byte = closing then none else some (.part, byte :: rest)
    else
      none

end Rolebook.Json
