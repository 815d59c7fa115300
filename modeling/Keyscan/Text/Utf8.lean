/-!
The UTF-8 form of a text as a list of bytes, and the text that a list of bytes is the UTF-8 form of.
-/

set_option autoImplicit false

namespace Keyscan.Text

/-- The UTF-8 bytes of a text. -/
def utf8Bytes (s : String) : List UInt8 := s.toByteArray.data.toList

/-- The text with the given UTF-8 bytes, when they are the UTF-8 form of one. -/
def ofUtf8Bytes? (bytes : List UInt8) : Option String := String.fromUTF8? ⟨bytes.toArray⟩

end Keyscan.Text
