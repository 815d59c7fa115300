import Keyscan.Json.Basic
import Keyscan.Number.Shortest

/-!
Compact JSON text: no blanks, escapes only where JSON demands them, and numbers of double width in
the fewest digits that read back.
-/

set_option autoImplicit false

namespace Keyscan

namespace Json

/-! ### Texts -/

/-- A digit of a hexadecimal number. -/
def hexDigit (n : Nat) : Char := (Nat.digitChar n)

/-- How one character stands inside a JSON string. -/
def escapeChar (c : Char) : List Char :=
  if c = '"' then ['\\', '"']
  else if c = '\\' then ['\\', '\\']
  else if c = '\x08' then ['\\', 'b']
  else if c = '\t' then ['\\', 't']
  else if c = '\n' then ['\\', 'n']
  else if c = '\x0c' then ['\\', 'f']
  else if c = '\r' then ['\\', 'r']
  else if c.toNat < 0x20 then
    ['\\', 'u', '0', '0', hexDigit (c.toNat / 16), hexDigit (c.toNat % 16)]
  else [c]

/-- A text between double quotes, its characters escaped where needed. -/
def printString (s : String) : List Char :=
  '"' :: (s.toList.flatMap escapeChar ++ ['"'])

/-! ### Numbers -/

/-- Scientific notation: one digit before the point, and an exponent that always has a sign. -/
def scientific (digits : List Char) (exponent : Int) : List Char :=
  let order : Int := exponent + (digits.length : Int) - 1
  let fraction := digits.drop 1
  digits.take 1 ++ (if fraction.isEmpty then [] else '.' :: fraction) ++
    'e' :: (if order < 0 then '-' else '+') :: Nat.toDigits 10 order.natAbs

/-- Numbers from 0.00001 up to below 10000000000000000 are written with a point and at least one
digit on both sides of it, all others in scientific notation. -/
def printDecimal (d : DecimalDigits) : List Char :=
  let digits := Nat.toDigits 10 d.digits
  let pointAt : Int := digits.length + d.exponent
  if d.digits = 0 then ['0', '.', '0']
  else if pointAt < -4 ∨ 16 < pointAt then scientific digits d.exponent
  else if 0 ≤ d.exponent then d.positional ++ ['.', '0']
  else d.positional

/-- A number of double width; of two equally near texts the one with the even last digit. JSON has
no text for infinities and for no number. -/
def printReal : BinaryFloat .double → List Char
  | .finite negative m => (if negative then ['-'] else []) ++ printDecimal (m.shortest .toEven)
  | _ => ['n', 'u', 'l', 'l']

/-- The digits of an integer, with a sign if it is negative. -/
def printInteger (n : Int) : List Char :=
  if n < 0 then '-' :: Nat.toDigits 10 n.natAbs else Nat.toDigits 10 n.natAbs

end Json

/-- The text of a number. -/
def JsonNumber.print : JsonNumber → List Char
  | .integer n => Json.printInteger n
  | .real x => Json.printReal x

namespace Json

/-! ### Values -/

mutual

/-- The characters of a value's compact text. -/
def printChars : Json → List Char
  | .null => ['n', 'u', 'l', 'l']
  | .bool b => if b then ['t', 'r', 'u', 'e'] else ['f', 'a', 'l', 's', 'e']
  | .number n => n.print
  | .string s => printString s
  | .array items => '[' :: (printItems items ++ [']'])
  | .object members => '\x7b' :: (printMembers members ++ ['\x7d'])

/-- Items joined by commas. -/
def printItems : List Json → List Char
  | [] => []
  | [x] => printChars x
  | x :: y :: rest => printChars x ++ ',' :: printItems (y :: rest)

/-- Members joined by commas. -/
def printMembers : List (String × Json) → List Char
  | [] => []
  | [(k, x)] => printString k ++ ':' :: printChars x
  | (k, x) :: p :: rest => printString k ++ ':' :: (printChars x ++ ',' :: printMembers (p :: rest))

end

/-- The compact text of a value. -/
def print (v : Json) : String := String.ofList (printChars v)

end Json

end Keyscan
