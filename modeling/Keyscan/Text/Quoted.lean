import Keyscan.Text.Unprintable

/-!
Quoted display of a text, as shown in messages and in the display of values: double quotes around
the characters, short escapes for the common controls, and the code point in hexadecimal for every
other character that would not show as itself.
-/

set_option autoImplicit false

namespace Keyscan.Text

/-- The code point of a character in lowercase hexadecimal between braces. -/
def codePointEscape (c : Char) : List Char :=
  ['\\', 'u', '\x7b'] ++ Nat.toDigits 16 c.toNat ++ ['\x7d']

/-- How one character stands inside a quoted text. -/
def quotedChar (c : Char) : List Char :=
  if c == '\x00' then ['\\', '0']
  else if c == '\t' then ['\\', 't']
  else if c == '\r' then ['\\', 'r']
  else if c == '\n' then ['\\', 'n']
  else if c == '"' then ['\\', '"']
  else if c == '\\' then ['\\', '\\']
  else if isUnprintable c then codePointEscape c
  else [c]

/-- The quoted display of a text. -/
def quoted (s : String) : String :=
  String.ofList ('"' :: s.toList.flatMap quotedChar ++ ['"'])

end Keyscan.Text
