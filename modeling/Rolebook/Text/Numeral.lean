import Rolebook.Text.Digits

/-!
# Numerals

Numbers without a sign as they are written in settings: digits to a base, with a plus sign in front
if one likes, up to a greatest number that can be kept.
-/

namespace Rolebook.Text

/-- Why a text is not read as a number. -/
inductive NumeralError
  | empty
  | badDigit
  | tooLarge
deriving DecidableEq, Repr

/-- The text of an error. -/
def NumeralError.message : NumeralError → String
  | .empty => "cannot parse integer from empty string"
  | .badDigit => "invalid digit found in string"
  | .tooLarge => "number too large to fit in target type"

/-- The number that digits stand for behind others of a given value. The first character that is no
digit or makes the number too large decides what is reported. -/
def readDigits (base greatest value : Nat) : List Char → Except NumeralError Nat
  | [] => .ok value
  | c :: cs =>
    match digitValue? base c with
    | none => .error .badDigit
    | some digit =>
      let value := value * base + digit
      if value ≤ greatest then readDigits base greatest value cs else .error .tooLarge

/-- What a numeral has behind its sign. A sign that stands alone is taken for a digit. -/
def withoutPlus : List Char → List Char
  | '+' :: c :: cs => c :: cs
  | cs => cs

/-- The number that a numeral to a base stands for, if it is not above a greatest one. -/
def readNumeral (base greatest : Nat) (numeral : List Char) : Except NumeralError Nat :=
  if numeral.isEmpty then .error .empty else readDigits base greatest 0 (withoutPlus numeral)

/-- The greatest number of so many bits. -/
def greatestOfBits (bits : Nat) : Nat :=
  Nat.pow 2 bits - 1

end Rolebook.Text
