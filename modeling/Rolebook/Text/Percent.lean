import Rolebook.Text.Digits
import Rolebook.Text.Utf8

/-!
# Percent signs

Texts in which a percent sign and two hexadecimal digits stand for a byte. A percent sign without
them stands for itself.
-/

namespace Rolebook.Text

/-- The digit that an ASCII byte stands for. -/
def hexByte? (byte : UInt8) : Option Nat :=
  digitValue? 16 (Char.ofNat byte.toNat)

/-- The byte that a percent sign in front of `rest` stands for. -/
def escapedByte? : Bytes → Option UInt8
  | high :: low :: _ => do
    let high ← hexByte? high
    let low ← hexByte? low
    return UInt8.ofNat (high * 16 + low)
  | _ => none

/-- The bytes with percent signs undone, where the first `skip` bytes belong to one that has
been. -/
def percentDecodeFrom : (skip : Nat) → Bytes → Bytes
  | _, [] => []
  | skip + 1, _ :: rest => percentDecodeFrom skip rest
  | 0, byte :: rest =>
    match if byte = 0x25 then escapedByte? rest else none with
    | some escaped => escaped :: percentDecodeFrom 2 rest
    | none => byte :: percentDecodeFrom 0 rest

/-- The text that a text with percent signs stands for, if its bytes are well-formed. -/
def percentDecode? (text : String) : Option String :=
  ofUtf8? (percentDecodeFrom 0 (toUtf8 text))

end Rolebook.Text
