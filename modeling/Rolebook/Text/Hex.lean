import Rolebook.Text.Digits
import Rolebook.Text.Utf8

/-!
# Bytes in hexadecimal

Bytes written with two hexadecimal digits each.
-/

namespace Rolebook.Text

/-- The bytes that pairs of hexadecimal digits stand for. -/
def ofHexChars? : List Char → Option Bytes
  | [] => some []
  | [_] => none
  | high :: low :: rest => do
    let high ← digitValue? 16 high
    let low ← digitValue? 16 low
    let bytes ← ofHexChars? rest
    return UInt8.ofNat (high * 16 + low) :: bytes

/-- The bytes that a text of hexadecimal digits stands for. -/
def ofHex? (text : String) : Option Bytes :=
  ofHexChars? text.toList

end Rolebook.Text
