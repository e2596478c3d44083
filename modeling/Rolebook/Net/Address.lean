import Rolebook.Text.Digits

/-!
# Network addresses

Internet addresses of four bytes and of eight groups of sixteen bits, and how they are written. An
address of eight groups is written with its first longest run of zero groups left out, unless that
is a single group.
-/

namespace Rolebook.Net

open Rolebook.Text

/-- An address of four bytes. -/
structure ShortAddress where
  a : UInt8
  b : UInt8
  c : UInt8
  d : UInt8
deriving DecidableEq, Repr

/-- An address of eight groups of sixteen bits. -/
structure LongAddress where
  groups : Vector UInt16 8
deriving DecidableEq, Repr

/-- An address of either length. -/
inductive Address
  | short (address : ShortAddress)
  | long (address : LongAddress)
deriving DecidableEq, Repr

/-! ## Writing -/

/-- An address of four bytes as decimal numbers with dots between them. -/
def ShortAddress.chars (address : ShortAddress) : List Char :=
  let part (byte : UInt8) : List Char := toDigits 10 byte.toNat
  part address.a ++ '.' :: part address.b ++ '.' :: part address.c ++ '.' :: part address.d

/-- The number of zero groups that a list of groups starts with. -/
def leadingZeros : List UInt16 → Nat
  | [] => 0
  | group :: groups => if group = 0 then leadingZeros groups + 1 else 0

/-- Where the first longest run of zeros starts and how long it is. -/
def longestZeroRun (groups : List UInt16) : Nat × Nat :=
  let runs := (List.range groups.length).map fun start => (start, leadingZeros (groups.drop start))
  runs.foldl (fun best run => if best.2 < run.2 then run else best) (0, 0)

/-- Groups as hexadecimal numbers with colons between them. -/
def groupChars (groups : List UInt16) : List Char :=
  List.intercalate [':'] (groups.map fun group => toDigits 16 group.toNat)

/-- The address of four bytes that an address of eight groups is made from, if it is the mapped form
of one. -/
def LongAddress.mapped? (address : LongAddress) : Option ShortAddress :=
  match address.groups.toList with
  | [0, 0, 0, 0, 0, 0xFFFF, high, low] =>
    some ⟨(high >>> 8).toUInt8, high.toUInt8, (low >>> 8).toUInt8, low.toUInt8⟩
  | _ => none

/-- An address of eight groups as it is written. -/
def LongAddress.chars (address : LongAddress) : List Char :=
  match address.mapped? with
  | some short => "::ffff:".toList ++ short.chars
  | none =>
    let groups := address.groups.toList
    let (start, length) := longestZeroRun groups
    if length ≤ 1 then
      groupChars groups
    else
      groupChars (groups.take start) ++ ':' :: ':' :: groupChars (groups.drop (start + length))

/-! ## Reading -/

/-- A number that is written with the digits that `cs` starts with, if they are not too many and it
is not too great, and what follows it. -/
def takeNumber? (base : Nat) (maxDigits? : Option Nat) (greatest : Nat) (cs : List Char) :
    Option (Nat × List Char) :=
  let digits := cs.takeWhile fun c => (digitValue? base c).isSome
  let value := ofDigits base (digits.filterMap (digitValue? base))
  let tooMany := maxDigits?.any (· < digits.length)
  if digits.isEmpty || tooMany || greatest < value then
    none
  else
    some (value, cs.drop digits.length)

/-- A byte in decimal digits without a leading zero, and what follows it. -/
def takeByte? (cs : List Char) : Option (UInt8 × List Char) :=
  match takeNumber? 10 (some 3) 255 cs with
  | some (value, rest) =>
    if cs.head? = some '0' && rest.length + 1 < cs.length then
      none
    else
      some (UInt8.ofNat value, rest)
  | none => none

/-- What follows a character that has to come next. -/
def dropChar? (c : Char) : List Char → Option (List Char)
  | d :: cs => if c = d then some cs else none
  | [] => none

/-- An address of four bytes and what follows it. -/
def ShortAddress.take? (cs : List Char) : Option (ShortAddress × List Char) := do
  let (a, cs) ← takeByte? cs
  let (b, cs) ← takeByte? (← dropChar? '.' cs)
  let (c, cs) ← takeByte? (← dropChar? '.' cs)
  let (d, cs) ← takeByte? (← dropChar? '.' cs)
  return (⟨a, b, c, d⟩, cs)

/-- The two groups that four bytes take the place of. -/
def ShortAddress.groups (address : ShortAddress) : List UInt16 :=
  [address.a.toUInt16 <<< 8 ||| address.b.toUInt16, address.c.toUInt16 <<< 8 ||| address.d.toUInt16]

/-- The groups that some characters start with. -/
structure GroupRun where
  groups : List UInt16
  /-- Whether the last two of them were written as four bytes. -/
  endsShort : Bool
  rest : List Char

/-- The groups that `cs` starts with, with colons between them and at most `limit`. Four bytes may
stand in the place of two groups, with nothing behind them. A colon is taken only with what has to
follow it. -/
def takeGroups : (limit : Nat) → (first : Bool) → (cs : List Char) → GroupRun
  | 0, _, cs => ⟨[], false, cs⟩
  | limit + 1, first, cs =>
    match if first then some cs else dropChar? ':' cs with
    | none => ⟨[], false, cs⟩
    | some behind =>
      match if limit = 0 then none else ShortAddress.take? behind with
      | some (short, rest) => ⟨short.groups, true, rest⟩
      | none =>
        match takeNumber? 16 (some 4) 0xFFFF behind with
        | none => ⟨[], false, cs⟩
        | some (group, rest) =>
          let run := takeGroups limit false rest
          { run with groups := UInt16.ofNat group :: run.groups }

/-- The address with these groups, if they are eight. -/
def LongAddress.ofGroups? (groups : List UInt16) : Option LongAddress :=
  if h : groups.length = 8 then some ⟨⟨groups.toArray, by simpa using h⟩⟩ else none

/-- An address of eight groups and what follows it. Two colons stand for the zero groups that are
missing, at least one. In front of them there are no four bytes. -/
def LongAddress.take? (cs : List Char) : Option (LongAddress × List Char) :=
  let head := takeGroups 8 true cs
  if head.groups.length = 8 then
    (LongAddress.ofGroups? head.groups).map fun address => (address, head.rest)
  else
    match head.endsShort, head.rest with
    | false, ':' :: ':' :: rest =>
      let tail := takeGroups (7 - head.groups.length) true rest
      let zeros := List.replicate (8 - head.groups.length - tail.groups.length) 0
      (LongAddress.ofGroups? (head.groups ++ zeros ++ tail.groups)).map fun address =>
        (address, tail.rest)
    | _, _ => none

/-- An address of either length and what follows it. -/
def Address.take? (cs : List Char) : Option (Address × List Char) :=
  match ShortAddress.take? cs with
  | some (address, rest) => some (.short address, rest)
  | none => (LongAddress.take? cs).map fun (address, rest) => (.long address, rest)

/-- The address that a text stands for. -/
def Address.ofText? (text : String) : Option Address :=
  match Address.take? text.toList with
  | some (address, []) => some address
  | _ => none

/-- The complaint about a text that stands for no address. -/
def badAddressMessage : String :=
  "invalid IP address syntax"

end Rolebook.Net
