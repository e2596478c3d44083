/-!
# Ranges of code points

Properties of characters are given as lists of code point ranges in ascending order.
-/

namespace Rolebook.Text

/-- Ranges of code points, each with its first and last member, in ascending order. -/
abbrev Ranges := List (Nat × Nat)

/-- Whether one of the ranges has the character as a member. -/
def Ranges.holds : Ranges → Char → Bool
  | [], _ => false
  | (first, last) :: rest, c =>
    if c.toNat < first then false else c.toNat ≤ last || Ranges.holds rest c

end Rolebook.Text
