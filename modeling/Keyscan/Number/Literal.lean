import Keyscan.Number.Binary

/-!
Decimal text of integers and of floating-point numbers: which texts are literals, what they denote,
and which fault of a text that is none is reported.
-/

set_option autoImplicit false

namespace Keyscan

/-- The value of a decimal digit. -/
def digitValue (c : Char) : Nat := c.toNat - 48

/-! ### Integers within a range -/

/-- Why a text is no integer of a range. -/
inductive IntegerError where
  | empty
  | invalidDigit
  | tooLarge
  | tooSmall
  deriving DecidableEq, Repr

namespace IntegerError

/-- The text of an error. -/
def message : IntegerError → String
  | .empty => "cannot parse integer from empty string"
  | .invalidDigit => "invalid digit found in string"
  | .tooLarge => "number too large to fit in target type"
  | .tooSmall => "number too small to fit in target type"

/-- Whether the text is an integer, but not one of the range. -/
def isOverflow : IntegerError → Bool
  | .tooLarge | .tooSmall => true
  | .empty | .invalidDigit => false

end IntegerError

/-- Reads digits behind an absolute value read so far. Faults are found from left to right: a digit
that carries the value beyond the bound, or a character that is no digit. -/
def readDigits (bound : Nat) (overflow : IntegerError) : Nat → List Char → Except IntegerError Nat
  | value, [] => .ok value
  | value, c :: rest =>
      if c.isDigit then
        let next := 10 * value + digitValue c
        if next ≤ bound then readDigits bound overflow next rest else .error overflow
      else .error .invalidDigit

/-- Reads one or more digits. -/
def readSomeDigits (bound : Nat) (overflow : IntegerError) (cs : List Char) :
    Except IntegerError Nat :=
  if cs.isEmpty then .error .invalidDigit else readDigits bound overflow 0 cs

/-- Reads an integer between `low` and `high`: digits after an optional sign. A minus sign is one
only when the range holds negative numbers. -/
def readInteger (low high : Int) (cs : List Char) : Except IntegerError Int :=
  match cs with
  | [] => .error .empty
  | c :: rest =>
      if c = '+' then (readSomeDigits high.toNat .tooLarge rest).map Int.ofNat
      else if c = '-' ∧ low < 0 then
        (readSomeDigits (-low).toNat .tooSmall rest).map fun n => -(n : Int)
      else (readSomeDigits high.toNat .tooLarge cs).map Int.ofNat

/-- Reads a natural number below `2 ^ bits`, with an optional plus sign. -/
def readNatural (bits : Nat) (cs : List Char) : Except IntegerError Nat :=
  (readInteger 0 (Nat.pow 2 bits - 1 : Nat) cs).map Int.toNat

/-! ### Floating-point numbers -/

/-- Why a text is no floating-point literal. -/
inductive FloatLiteralError where
  | empty
  | invalid
  deriving DecidableEq, Repr

/-- The text of an error. -/
def FloatLiteralError.message : FloatLiteralError → String
  | .empty => "cannot parse float from empty string"
  | .invalid => "invalid float literal"

/-- A number literal taken apart: `digits * 10 ^ exponent` under a sign. -/
structure ScientificLiteral where
  digits : Nat
  exponent : Int
  deriving DecidableEq, Repr

/-- The natural number that a list of digits denotes. -/
def digitsValue (cs : List Char) : Nat := cs.foldl (fun n c => 10 * n + digitValue c) 0

/-- An exponent: an optional sign and one or more digits, and nothing else. -/
def readExponent? (cs : List Char) : Option Int :=
  let (negative, digits) :=
    match cs with
    | '-' :: rest => (true, rest)
    | '+' :: rest => (false, rest)
    | _ => (false, cs)
  if digits.isEmpty || !digits.all Char.isDigit then none
  else some (if negative then -(digitsValue digits : Int) else digitsValue digits)

/-- An unsigned number: digits with an optional point, on at least one side of which a digit stands,
and an optional exponent. -/
def readScientific? (cs : List Char) : Option ScientificLiteral :=
  let whole := cs.takeWhile Char.isDigit
  let afterWhole := cs.dropWhile Char.isDigit
  let (fraction, afterFraction) :=
    match afterWhole with
    | '.' :: rest => (rest.takeWhile Char.isDigit, rest.dropWhile Char.isDigit)
    | _ => ([], afterWhole)
  let digits := digitsValue (whole ++ fraction)
  let places : Int := fraction.length
  if whole.isEmpty && fraction.isEmpty then none
  else
    match afterFraction with
    | [] => some ⟨digits, -places⟩
    | c :: rest =>
        if c = 'e' ∨ c = 'E' then (readExponent? rest).map fun e => ⟨digits, e - places⟩ else none

namespace BinaryFloat

variable {f : FloatFormat}

/-- The number nearest to `± digits * 10 ^ exponent`. Far outside the range of every format the
answer is known without computing the power. -/
def ofScientific (negative : Bool) (x : ScientificLiteral) : BinaryFloat f :=
  let order : Int := (Nat.toDigits 10 x.digits).length + x.exponent
  if x.digits = 0 ∨ order < -400 then zero negative
  else if 400 < order then .infinite negative
  else nearest negative (x.digits * Nat.pow 10 x.exponent.toNat) (Nat.pow 10 (-x.exponent).toNat)

/-- An unsigned literal: a number, or one of the words for infinity and for no number, in any case. -/
def readUnsigned? (negative : Bool) (cs : List Char) : Option (BinaryFloat f) :=
  let word := cs.map Char.toLower
  if word = "inf".toList ∨ word = "infinity".toList then some (.infinite negative)
  else if word = "nan".toList then some .nan
  else (readScientific? cs).map (ofScientific negative)

/-- Reads a literal with an optional sign, correctly rounded. -/
def readLiteral (cs : List Char) : Except FloatLiteralError (BinaryFloat f) :=
  if cs.isEmpty then .error .empty
  else
    let unsigned :=
      match cs with
      | '-' :: rest => readUnsigned? true rest
      | '+' :: rest => readUnsigned? false rest
      | _ => readUnsigned? false cs
    match unsigned with
    | some x => .ok x
    | none => .error .invalid

end BinaryFloat

end Keyscan
