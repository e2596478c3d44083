import Rolebook.Text.Digits
import Rolebook.Text.Utf8

/-!
# Json numbers

The literals of numbers, and which of them are too large for a double. A number is taken as at most
64 bits of significand times a power of ten; both factors are rounded to a double before they are
multiplied, and the product may not round to infinity.
-/

namespace Rolebook.Json

open Rolebook.Text

/-- The parts of a number: its digits before and after the point, and its exponent. -/
structure Number where
  negative : Bool
  integer : List Nat
  fraction : List Nat
  exponentNegative : Bool
  exponent : List Nat
deriving Repr

/-- The digit that a byte stands for. -/
def digit? (byte : UInt8) : Option Nat :=
  if 0x30 ≤ byte ∧ byte ≤ 0x39 then some (byte.toNat - 0x30) else none

/-- The digits at the start and what follows them. -/
def takeDigits : Bytes → List Nat × Bytes
  | [] => ([], [])
  | byte :: bytes =>
    match digit? byte with
    | some digit =>
      let (digits, rest) := takeDigits bytes
      (digit :: digits, rest)
    | none => ([], byte :: bytes)

/-- The digits behind a point, at least one, or none if there is no point. -/
def takeFraction? : Bytes → Option (List Nat × Bytes)
  | [] => some ([], [])
  | byte :: bytes =>
    if byte = 0x2E then
      match takeDigits bytes with
      | ([], _) => none
      | (digits, rest) => some (digits, rest)
    else
      some ([], byte :: bytes)

/-- The sign and the digits of an exponent, at least one, or none if there is no exponent. -/
def takeExponent? : Bytes → Option (Bool × List Nat × Bytes)
  | [] => some (false, [], [])
  | byte :: bytes =>
    if byte = 0x65 ∨ byte = 0x45 then
      let (negative, bytes) :=
        match bytes with
        | sign :: rest =>
          if sign = 0x2B then (false, rest)
          else if sign = 0x2D then (true, rest)
          else (false, bytes)
        | [] => (false, [])
      match takeDigits bytes with
      | ([], _) => none
      | (digits, rest) => some (negative, digits, rest)
    else
      some (false, [], byte :: bytes)

/-- The number at the start and what follows it. A zero at the start of a number is its only digit
before the point. -/
def Number.take? (bytes : Bytes) : Option (Number × Bytes) :=
  let (negative, unsigned) :=
    match bytes with
    | byte :: rest => if byte = 0x2D then (true, rest) else (false, bytes)
    | [] => (false, [])
  match takeDigits unsigned with
  | ([], _) => none
  | (0 :: _ :: _, _) => none
  | (integer, rest) =>
    match takeFraction? rest with
    | none => none
    | some (fraction, rest) =>
      match takeExponent? rest with
      | none => none
      | some (exponentNegative, exponent, rest) =>
        some (⟨negative, integer, fraction, exponentNegative, exponent⟩, rest)

/-- The literal of a number, in its plainest spelling. -/
def Number.literal (number : Number) : String :=
  let digits (ds : List Nat) := ds.map digitChar
  String.ofList <|
    (if number.negative then ['-'] else []) ++ digits number.integer ++
      (if number.fraction.isEmpty then [] else '.' :: digits number.fraction) ++
        (if number.exponent.isEmpty then [] else
          'e' :: (if number.exponentNegative then ['-'] else []) ++ digits number.exponent)

/-- The digits that fit into 64 bits, as a value, and the digits from the first one on that does not
fit. -/
def significandOf : Nat → List Nat → Nat × List Nat
  | value, [] => (value, [])
  | value, digit :: digits =>
    if value * 10 + digit < Nat.pow 2 64 then
      significandOf (value * 10 + digit) digits
    else
      (value, digit :: digits)

/-- The significand of a number and the power of ten that its digits leave over. -/
def Number.significand (number : Number) : Nat × Int :=
  let (value, unused) := significandOf 0 number.integer
  let (value', unused') := significandOf value number.fraction
  (value', unused.length - (number.fraction.length - unused'.length))

/-- The value rounded to 53 significant bits, with ties to the even neighbour. -/
def roundToDouble (n : Nat) : Nat :=
  let unit := Nat.pow 2 (n.log2 + 1 - 53)
  let quotient := n / unit
  let remainder := n % unit
  if 2 * remainder < unit then quotient * unit
  else if 2 * remainder = unit then (quotient + quotient % 2) * unit
  else (quotient + 1) * unit

/-- The least natural number that rounds to infinity as a double. -/
def infinityThreshold : Nat :=
  Nat.pow 2 1024 - Nat.pow 2 970

/-- Whether a number is too large for a double. -/
def Number.tooLarge (number : Number) : Bool :=
  let (significand, shift) := number.significand
  let exponent := ofDigits 10 number.exponent
  if significand = 0 then
    false
  else if Nat.pow 2 31 ≤ exponent then
    !number.exponentNegative
  else
    let power : Int := if number.exponentNegative then shift - exponent else shift + exponent
    if power < 0 then false
    else if 308 < power then true
    else infinityThreshold ≤ roundToDouble significand * roundToDouble (Nat.pow 10 power.toNat)

end Rolebook.Json
