/-!
# Digits

The values of digits, and numbers as sequences of digits to a base.
-/

namespace Rolebook.Text

/-- The value of an ASCII character as a digit to a base up to 36, in either case. -/
def digitValue? (base : Nat) (c : Char) : Option Nat :=
  let value? :=
    if '0' ≤ c ∧ c ≤ '9' then some (c.toNat - '0'.toNat)
    else if 'a' ≤ c ∧ c ≤ 'z' then some (c.toNat - 'a'.toNat + 10)
    else if 'A' ≤ c ∧ c ≤ 'Z' then some (c.toNat - 'A'.toNat + 10)
    else none
  value?.filter (· < base)

/-- The value of a sequence of digits, the highest one first. -/
def ofDigits (base : Nat) (digits : List Nat) : Nat :=
  digits.foldl (fun value digit => value * base + digit) 0

/-- The lower case character of a digit below 36. -/
def digitChar (digit : Nat) : Char :=
  if digit < 10 then Char.ofNat ('0'.toNat + digit) else Char.ofNat ('a'.toNat + digit - 10)

/-- The digits of a number to a base, in front of those that follow. -/
def toDigitsAux (base : Nat) : (fuel : Nat) → Nat → List Char → List Char
  | 0, _, digits => digits
  | fuel + 1, value, digits =>
    let digits := digitChar (value % base) :: digits
    if value < base then digits else toDigitsAux base fuel (value / base) digits

/-- The digits of a number to a base of at least 2, the highest one first and without leading
zeros. -/
def toDigits (base value : Nat) : List Char :=
  toDigitsAux base (value + 1) value []

/-- The digits of a number to a base, filled up with leading zeros to a width. -/
def toPaddedDigits (base width value : Nat) : List Char :=
  let digits := toDigits base value
  List.replicate (width - digits.length) '0' ++ digits

end Rolebook.Text
