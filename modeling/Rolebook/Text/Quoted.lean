import Rolebook.Text.Digits
import Rolebook.Text.Range

/-!
# Quoted texts

A text in double quotes as messages show it. What could not be seen is written by its code point.
-/

namespace Rolebook.Text

/-- Code points of characters that cannot be seen or belong to the character before them. -/
def unseenRanges : Ranges :=
  [(0x0, 0x1F), (0x7F, 0xA0), (0xAD, 0xAD), (0x300, 0x36F), (0x483, 0x489),
    (0x591, 0x5BD), (0x600, 0x605),
    (0x61C, 0x61C), (0x64B, 0x65F), (0x6DD, 0x6DD), (0x70F, 0x70F),
    (0x1680, 0x1680), (0x180E, 0x180E),
    (0x1AB0, 0x1ACE), (0x1DC0, 0x1DFF), (0x2000, 0x200F), (0x2028, 0x202F),
    (0x205F, 0x206F), (0x20D0, 0x20F0),
    (0x3000, 0x3000), (0xD800, 0xF8FF), (0xFE00, 0xFE0F), (0xFE20, 0xFE2F),
    (0xFEFF, 0xFEFF), (0xFFF0, 0xFFFB),
    (0xFFFE, 0xFFFF), (0xE0000, 0x10FFFF)]

/-- The letter that stands behind a backslash for a character. -/
def quotedLetter? (c : Char) : Option Char :=
  if c = '\x00' then some '0'
  else if c = '\t' then some 't'
  else if c = '\n' then some 'n'
  else if c = '\x0d' then some 'r'
  else if c = '"' || c = '\\' then some c
  else none

/-- A character as it stands in a quoted text. -/
def quotedChar (c : Char) : List Char :=
  match quotedLetter? c with
  | some letter => ['\\', letter]
  | none =>
    if unseenRanges.holds c then "\\u\x7b".toList ++ toDigits 16 c.toNat ++ ['\x7d'] else [c]

/-- A text in double quotes. -/
def quoted (text : String) : String :=
  "\"" ++ String.ofList (text.toList.flatMap quotedChar) ++ "\""

end Rolebook.Text
