import Keyscan.Json.Basic
import Keyscan.Number.Literal

/-!
Reading JSON text strictly: no comments, no trailing commas, nothing but blanks around the value,
no lone halves of surrogate pairs, and at most 127 arrays and objects nested in each other.

`readValue` recurses on the nesting that is still allowed; the items of one array, the members of one
object and the characters of one string are bounded by the text that is left.
-/

set_option autoImplicit false

namespace Keyscan.Json

/-- The arrays and objects that may be nested in each other. -/
def depthLimit : Nat := 127

/-- The four blanks of JSON. -/
def isBlankChar (c : Char) : Bool := c == ' ' || c == '\t' || c == '\n' || c == '\r'

/-- The rest behind leading blanks. -/
def skipBlanks (cs : List Char) : List Char := cs.dropWhile isBlankChar

/-! ### Strings -/

/-- The value of a hexadecimal digit of either case. -/
def hexValue? (c : Char) : Option Nat :=
  if c.isDigit then some (c.toNat - 48)
  else if 'a' ≤ c ∧ c ≤ 'f' then some (c.toNat - 87)
  else if 'A' ≤ c ∧ c ≤ 'F' then some (c.toNat - 55)
  else none

/-- A code unit of four hexadecimal digits. -/
def codeUnit? (a b c d : Char) : Option Nat := do
  let a ← hexValue? a
  let b ← hexValue? b
  let c ← hexValue? c
  let d ← hexValue? d
  some (((a * 16 + b) * 16 + c) * 16 + d)

/-- The second half of a surrogate pair, and the character that the pair stands for. -/
def readLowSurrogate? (high : Nat) (cs : List Char) : Option (Char × List Char) :=
  match cs with
  | '\\' :: 'u' :: a :: b :: c :: d :: rest => do
      let low ← codeUnit? a b c d
      if 0xDC00 ≤ low ∧ low ≤ 0xDFFF then
        some (Char.ofNat (0x10000 + (high - 0xD800) * 0x400 + (low - 0xDC00)), rest)
      else none
  | _ => none

/-- What stands behind a backslash. -/
def readEscape? (cs : List Char) : Option (Char × List Char) :=
  match cs with
  | 'u' :: a :: b :: c :: d :: rest => do
      let u ← codeUnit? a b c d
      if 0xD800 ≤ u ∧ u ≤ 0xDBFF then readLowSurrogate? u rest
      else if 0xDC00 ≤ u ∧ u ≤ 0xDFFF then none
      else some (Char.ofNat u, rest)
  | c :: rest =>
      if c = '"' ∨ c = '\\' ∨ c = '/' then some (c, rest)
      else if c = 'b' then some ('\x08', rest)
      else if c = 'f' then some ('\x0c', rest)
      else if c = 'n' then some ('\n', rest)
      else if c = 'r' then some ('\r', rest)
      else if c = 't' then some ('\t', rest)
      else none
  | [] => none

/-- The characters up to the closing quote, for at most so many of them. -/
def readStringBody : Nat → List Char → Option (List Char × List Char)
  | 0, _ => none
  | _, [] => none
  | fuel + 1, c :: rest =>
      if c = '"' then some ([], rest)
      else if c = '\\' then do
        let (x, rest) ← readEscape? rest
        let (xs, rest) ← readStringBody fuel rest
        some (x :: xs, rest)
      else if c.toNat < 0x20 then none
      else do
        let (xs, rest) ← readStringBody fuel rest
        some (c :: xs, rest)

/-- The string whose opening quote has been read. -/
def readString (cs : List Char) : Option (String × List Char) :=
  (readStringBody cs.length cs).map fun r => (String.ofList r.1, r.2)

/-! ### Numbers

An integer that fits 64 bits is kept exactly. Every other number is computed in double width from
the digits that fit 64 bits and a power of ten, with one rounding for the digits and one for the
power; this is close, but not always the nearest number of double width. -/

/-- The least number that has more than 64 bits. -/
abbrev wordLimit : Nat := 18446744073709551616

/-- Digits gathered as a natural number of 64 bits. Once one does not fit, gathering is over. -/
structure Gathered where
  significand : Nat
  exponent : Int
  full : Bool
  deriving DecidableEq, Repr

/-- A digit before the point: one that does not fit still counts as a power of ten. -/
def Gathered.pushWhole (g : Gathered) (c : Char) : Gathered :=
  let next := 10 * g.significand + digitValue c
  if g.full ∨ wordLimit ≤ next then { g with exponent := g.exponent + 1, full := true }
  else { g with significand := next }

/-- A digit after the point: one that does not fit is dropped. -/
def Gathered.pushFraction (g : Gathered) (c : Char) : Gathered :=
  let next := 10 * g.significand + digitValue c
  if g.full ∨ wordLimit ≤ next then { g with full := true }
  else { g with significand := next, exponent := g.exponent - 1 }

/-- The digits of a number before and after the point. -/
def gather (whole fraction : List Char) : Gathered :=
  let g := whole.foldl Gathered.pushWhole ⟨0, 0, false⟩
  fraction.foldl Gathered.pushFraction { g with full := false }

/-- The power of ten in double width. -/
def powerOfTen (n : Nat) : Magnitude .double :=
  (Magnitude.nearest? (Nat.pow 10 n) 1).getD .zero

/-- Divides by a power of ten, in steps of at most 308. -/
def divideByPower : Nat → Bool → Magnitude .double → Nat → BinaryFloat .double
  | 0, negative, m, _ => .finite negative m
  | fuel + 1, negative, m, n =>
      if n ≤ 308 then .ofQuotient negative m (powerOfTen n)
      else
        match BinaryFloat.ofQuotient negative m (powerOfTen 308) with
        | .finite _ m =>
            if m.significand = 0 then .finite negative m
            else divideByPower fuel negative m (n - 308)
        | x => x

/-- The number `± significand * 10 ^ exponent`, or none when it is beyond all numbers of double
width. -/
def realOf? (negative : Bool) (significand : Nat) (exponent : Int) :
    Option (BinaryFloat .double) :=
  match (Magnitude.nearest? significand 1 : Option (Magnitude .double)) with
  | none => none
  | some m =>
      if exponent < 0 then some (divideByPower 4 negative m exponent.natAbs)
      else if 308 < exponent then
        if m.significand = 0 then some (.finite negative m) else none
      else
        let x := BinaryFloat.ofProduct negative m (powerOfTen exponent.toNat)
        if x.isFinite then some x else none

/-- The number with an exponent part. An exponent beyond 31 bits gives zero when it is negative or
the digits are, and otherwise no number. -/
def withExponent? (negative : Bool) (g : Gathered) (exponentNegative : Bool) (exponent : Nat) :
    Option (BinaryFloat .double) :=
  if 2147483648 ≤ exponent then
    if g.significand = 0 ∨ exponentNegative then some (.zero negative) else none
  else
    let e : Int := if exponentNegative then g.exponent - exponent else g.exponent + exponent
    realOf? negative g.significand (max (-2147483648) (min e 2147483647))

/-- A number without point and exponent. Minus zero is of double width. -/
def integer? (negative : Bool) (digits : List Char) : Option JsonNumber :=
  let n := digitsValue digits
  if !negative ∧ n < wordLimit then some (.integer n)
  else if negative ∧ n ≠ 0 ∧ n ≤ 9223372036854775808 then some (.integer (-(n : Int)))
  else
    let g := gather digits []
    (realOf? negative g.significand g.exponent).map .real

/-- The digits behind the point, of which there must be one, or none without a point. -/
def readFraction? (cs : List Char) : Option (Option (List Char) × List Char) :=
  match cs with
  | '.' :: rest =>
      let digits := rest.takeWhile Char.isDigit
      if digits.isEmpty then none else some (some digits, rest.dropWhile Char.isDigit)
  | _ => some (none, cs)

/-- The sign and the digits of an exponent, or none without its mark. -/
def readExponentPart? (cs : List Char) : Option (Option (Bool × Nat) × List Char) :=
  match cs with
  | c :: rest =>
      if c = 'e' ∨ c = 'E' then
        let (negative, rest) :=
          match rest with
          | '-' :: rest => (true, rest)
          | '+' :: rest => (false, rest)
          | _ => (false, rest)
        let digits := rest.takeWhile Char.isDigit
        if digits.isEmpty then none
        else some (some (negative, digitsValue digits), rest.dropWhile Char.isDigit)
      else some (none, cs)
  | [] => some (none, cs)

/-- The number behind an optional sign. A leading zero stands alone. -/
def readUnsigned? (negative : Bool) (cs : List Char) : Option (JsonNumber × List Char) := do
  let whole := cs.takeWhile Char.isDigit
  if whole.isEmpty ∨ (whole.head? = some '0' ∧ whole.length ≠ 1) then none
  else
    let (fraction, rest) ← readFraction? (cs.dropWhile Char.isDigit)
    let (exponent, rest) ← readExponentPart? rest
    match fraction, exponent with
    | none, none => (integer? negative whole).map (·, rest)
    | _, _ =>
        let g := gather whole (fraction.getD [])
        let (exponentNegative, e) := exponent.getD (false, 0)
        (withExponent? negative g exponentNegative e).map (.real ·, rest)

/-- A number with an optional minus sign. -/
def readNumber? (cs : List Char) : Option (JsonNumber × List Char) :=
  match cs with
  | '-' :: rest => readUnsigned? true rest
  | _ => readUnsigned? false cs

/-! ### Values -/

/-- The rest behind a given beginning. -/
def dropStart? : List Char → List Char → Option (List Char)
  | [], cs => some cs
  | _ :: _, [] => none
  | x :: xs, c :: cs => if x = c then dropStart? xs cs else none

/-- A value that is neither array nor object. -/
def readScalar (cs : List Char) : Option (Json × List Char) :=
  match cs with
  | '"' :: rest => (readString rest).map fun r => (.string r.1, r.2)
  | 'n' :: _ => (dropStart? "null".toList cs).map (.null, ·)
  | 't' :: _ => (dropStart? "true".toList cs).map (.bool true, ·)
  | 'f' :: _ => (dropStart? "false".toList cs).map (.bool false, ·)
  | _ => (readNumber? cs).map fun r => (.number r.1, r.2)

/-- The items up to the closing bracket, at least one and at most so many. -/
def readItems (value : List Char → Option (Json × List Char)) :
    Nat → List Char → Option (List Json × List Char)
  | 0, _ => none
  | fuel + 1, cs => do
      let (x, rest) ← value (skipBlanks cs)
      match skipBlanks rest with
      | ',' :: rest => (readItems value fuel rest).map fun r => (x :: r.1, r.2)
      | ']' :: rest => some ([x], rest)
      | _ => none

/-- The members up to the closing brace, at least one and at most so many. -/
def readMembers (value : List Char → Option (Json × List Char)) :
    Nat → List Char → Option (List (String × Json) × List Char)
  | 0, _ => none
  | fuel + 1, cs =>
      match skipBlanks cs with
      | '"' :: rest => do
          let (key, rest) ← readString rest
          match skipBlanks rest with
          | ':' :: rest => do
              let (x, rest) ← value (skipBlanks rest)
              match skipBlanks rest with
              | ',' :: rest => (readMembers value fuel rest).map fun r => ((key, x) :: r.1, r.2)
              | '\x7d' :: rest => some ([(key, x)], rest)
              | _ => none
          | _ => none
      | _ => none

/-- The value at the beginning of a text, with so much nesting allowed, and the rest. -/
def readValue : Nat → List Char → Option (Json × List Char)
  | 0, cs =>
      match cs with
      | '[' :: _ => none
      | '\x7b' :: _ => none
      | _ => readScalar cs
  | depth + 1, cs =>
      match cs with
      | '[' :: rest =>
          match skipBlanks rest with
          | ']' :: rest => some (.array [], rest)
          | rest => (readItems (readValue depth) rest.length rest).map fun r => (.array r.1, r.2)
      | '\x7b' :: rest =>
          match skipBlanks rest with
          | '\x7d' :: rest => some (.object [], rest)
          | rest =>
              (readMembers (readValue depth) rest.length rest).map fun r => (.object r.1, r.2)
      | _ => readScalar cs

/-- The value that a text stands for, if it is JSON. -/
def read? (text : String) : Option Json :=
  match readValue depthLimit (skipBlanks text.toList) with
  | some (v, rest) => if (skipBlanks rest).isEmpty then some v else none
  | none => none

end Keyscan.Json
