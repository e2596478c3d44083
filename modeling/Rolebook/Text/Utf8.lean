/-!
# Bytes of texts

Texts as the bytes of their UTF-8 form.
-/

namespace Rolebook.Text

/-- A sequence of bytes. -/
abbrev Bytes := List UInt8

/-- The bytes of a text. -/
def toUtf8 (text : String) : Bytes :=
  text.toUTF8.toList

/-- The text with these bytes, if they are well-formed. -/
def ofUtf8? (bytes : Bytes) : Option String :=
  String.fromUTF8? ⟨bytes.toArray⟩

end Rolebook.Text
