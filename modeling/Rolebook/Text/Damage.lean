import Rolebook.Text.Utf8

/-!
# Damaged texts

Where bytes stop being the UTF-8 form of a text, and how they are read all the same. Every part of
them that cannot belong to a character is as long as it would be in a character, and is replaced as
a whole.
-/

namespace Rolebook.Text

/-- The ranges in which the bytes behind the first byte of a character lie, if a character can start
with it. -/
def followers? (first : UInt8) : Option (List (UInt8 × UInt8)) :=
  let any := (0x80, 0xBF)
  if first < 0x80 then some []
  else if first < 0xC2 then none
  else if first < 0xE0 then some [any]
  else if first = 0xE0 then some [(0xA0, 0xBF), any]
  else if first = 0xED then some [(0x80, 0x9F), any]
  else if first < 0xF0 then some [any, any]
  else if first = 0xF0 then some [(0x90, 0xBF), any, any]
  else if first < 0xF4 then some [any, any, any]
  else if first = 0xF4 then some [(0x80, 0x8F), any, any]
  else none

/-- How many bytes from the first on lie in their ranges. -/
def countFollowers : List (UInt8 × UInt8) → Bytes → Nat
  | (low, high) :: ranges, byte :: bytes =>
      if low ≤ byte ∧ byte ≤ high then countFollowers ranges bytes + 1 else 0
  | _, _ => 0

/-- What some bytes start with. -/
inductive Utf8Start
  | char (length : Nat)
  /-- A part that belongs to no character. -/
  | damage (length : Nat)
  /-- A part of a character, behind which there are no more bytes. -/
  | cutOff
deriving DecidableEq, Repr

/-- What bytes start with. -/
def utf8Start (first : UInt8) (rest : Bytes) : Utf8Start :=
  match followers? first with
  | none => .damage 1
  | some ranges =>
    let count := countFollowers ranges rest
    if count = ranges.length then .char (count + 1)
    else if count = rest.length then .cutOff
    else .damage (count + 1)

/-- Where the first damage is, and how long it is unless the bytes are cut off. -/
structure Damage where
  index : Nat
  length : Option Nat
deriving DecidableEq, Repr

/-- The text of a damage. -/
def Damage.message (damage : Damage) : String :=
  match damage.length with
  | some length =>
    "invalid utf-8 sequence of " ++ toString length ++ " bytes from index " ++ toString damage.index
  | none => "incomplete utf-8 byte sequence from index " ++ toString damage.index

/-- The first damage, where `index` bytes stand before and `skip` more belong to a character. -/
def firstDamage? (index : Nat) : (skip : Nat) → Bytes → Option Damage
  | _, [] => none
  | skip + 1, _ :: rest => firstDamage? (index + 1) skip rest
  | 0, first :: rest =>
    match utf8Start first rest with
    | .char length => firstDamage? (index + 1) (length - 1) rest
    | .damage length => some ⟨index, some length⟩
    | .cutOff => some ⟨index, none⟩

/-- The bytes of the character that stands in place of a damage. -/
def replacement : Bytes :=
  toUtf8 "\ufffd"

/-- The bytes with every damage replaced, where `skip` bytes belong to one. -/
def mendFrom : (skip : Nat) → Bytes → Bytes
  | _, [] => []
  | skip + 1, _ :: rest => mendFrom skip rest
  | 0, first :: rest =>
    match utf8Start first rest with
    | .char length => first :: rest.take (length - 1) ++ mendFrom (length - 1) rest
    | .damage length => replacement ++ mendFrom (length - 1) rest
    | .cutOff => replacement

/-- The text with these bytes, or where they are damaged. -/
def readUtf8 (bytes : Bytes) : Except Damage String :=
  match ofUtf8? bytes with
  | some text => .ok text
  | none => .error ((firstDamage? 0 0 bytes).getD ⟨0, none⟩)

/-- The text with these bytes once every damage is replaced. -/
def mendedText (bytes : Bytes) : String :=
  (ofUtf8? (mendFrom 0 bytes)).getD ""

end Rolebook.Text
