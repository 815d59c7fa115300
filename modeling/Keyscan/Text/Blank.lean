/-!
White space: the characters with the Unicode property White_Space, blank texts, and trimming.
-/

set_option autoImplicit false

namespace Keyscan.Text

/-- The characters with the Unicode property White_Space. -/
def isBlankChar (c : Char) : Bool :=
  let n := c.toNat
  (9 ≤ n && n ≤ 13) || n == 0x20 || n == 0x85 || n == 0xA0 || n == 0x1680 ||
    (0x2000 ≤ n && n ≤ 0x200A) || n == 0x2028 || n == 0x2029 || n == 0x202F || n == 0x205F ||
    n == 0x3000

/-- A text is blank when it holds white space only; the empty text is blank. -/
def isBlank (s : String) : Bool := s.toList.all isBlankChar

/-- Drops white space at both ends. -/
def trimChars (cs : List Char) : List Char :=
  (((cs.dropWhile isBlankChar).reverse).dropWhile isBlankChar).reverse

/-- Drops white space at both ends of a text. -/
def trim (s : String) : String := String.ofList (trimChars s.toList)

end Keyscan.Text
