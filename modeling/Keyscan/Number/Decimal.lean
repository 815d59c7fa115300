import Keyscan.Number.Literal
import Keyscan.Number.Shortest

/-!
Fixed-point decimals: a whole number of at most 96 bits and a count of places after the point. The
scale is part of the value's text but not of what it denotes: `1.5` and `1.50` are the same number.
-/

set_option autoImplicit false

namespace Keyscan

/-- The least number that has more than 96 bits. -/
abbrev mantissaLimit : Nat := 79228162514264337593543950336

/-- The decimal `± mantissa / 10 ^ scale`. Zero can carry a sign, too. -/
structure Decimal where
  negative : Bool
  mantissa : Nat
  scale : Nat
  mantissa_lt : mantissa < mantissaLimit
  scale_le : scale ≤ 28
  deriving DecidableEq

/-- Why a text is no decimal. -/
inductive DecimalError where
  | empty
  | noDigits
  | unknownCharacter
  | twoPoints
  | leadingSeparator
  | tooManyDigits
  | roundedBeyondMantissa
  | malformedExponent
  | scaleTooLarge (scale : Nat)
  | tooLarge
  deriving DecidableEq, Repr

/-- The text of an error. -/
def DecimalError.message : DecimalError → String
  | .empty => "Invalid decimal: empty"
  | .noDigits => "Invalid decimal: no digits found"
  | .unknownCharacter => "Invalid decimal: unknown character"
  | .twoPoints => "Invalid decimal: two decimal points"
  | .leadingSeparator => "Invalid decimal: must start lead with a number"
  | .tooManyDigits => "Invalid decimal: overflow from too many digits"
  | .roundedBeyondMantissa => "Invalid decimal: overflow from mantissa after rounding"
  | .malformedExponent => "Failed to parse"
  | .scaleTooLarge scale => s!"Scale exceeds the maximum precision allowed: {scale} > 28"
  | .tooLarge => "Number exceeds maximum value that can be represented."

namespace Decimal

/-- A decimal from its parts; zero loses its sign. -/
def ofParts (negative : Bool) (mantissa scale : Nat) (hm : mantissa < mantissaLimit) (hs : scale ≤ 28) :
    Decimal :=
  ⟨negative && mantissa != 0, mantissa, scale, hm, hs⟩

/-- The text of a decimal: all its places, no exponent. -/
def display (d : Decimal) : String :=
  String.ofList ((if d.negative then ['-'] else []) ++ pointed (Nat.toDigits 10 d.mantissa) d.scale)

/-- Whether two decimals denote the same number. -/
def sameNumber (x y : Decimal) : Bool :=
  (x.negative == y.negative || x.mantissa == 0) &&
    x.mantissa * Nat.pow 10 y.scale == y.mantissa * Nat.pow 10 x.scale

/-! ### Reading digits -/

/-- What has been read of a number: its digits as one whole number, the digits after the point, and
whether the point and any digit have come. From `wide` on a separator never stands for a digit. -/
structure Progress where
  mantissa : Nat
  scale : Nat
  pointSeen : Bool
  digitSeen : Bool
  wide : Bool
  deriving DecidableEq, Repr

def Progress.start : Progress := ⟨0, 0, false, false, false⟩

/-- From this value on one more digit may leave 64 bits, and reading becomes wide. -/
def wideFrom : Nat := 1844674407370954906

/-- Takes one more digit. -/
def Progress.push (p : Progress) (c : Char) : Progress :=
  let mantissa := 10 * p.mantissa + digitValue c
  let scale := if p.pointSeen then p.scale + 1 else p.scale
  ⟨mantissa, scale, p.pointSeen, true, p.wide || (wideFrom ≤ mantissa && scale < 28)⟩

/-- The fault of a character that cannot stand where it does. -/
def strayCharacter (c : Char) : DecimalError :=
  if c = '.' then .twoPoints else if c = '_' then .leadingSeparator else .unknownCharacter

/-- The characters behind the first dropped digit must still be digits or separators. -/
def checkDropped : List Char → Except DecimalError Unit
  | [] => .ok ()
  | c :: rest => if c.isDigit || c == '_' then checkDropped rest else .error (strayCharacter c)

/-- Rounds by the first digit that no longer fits; a separator in its place counts as zero. When the
mantissa overflows by that, one place is given up. -/
def Progress.roundBy (p : Progress) (c : Char) : Except DecimalError Progress :=
  if !c.isDigit && c != '_' then .error (strayCharacter c)
  else if c.isDigit && 5 ≤ digitValue c then
    let mantissa := p.mantissa + 1
    if mantissa < mantissaLimit then .ok { p with mantissa }
    else if p.scale = 0 then .error .roundedBeyondMantissa
    else .ok { p with mantissa := (mantissa + 4) / 10, scale := p.scale - 1 }
  else .ok p

/-- Ends reading at the first digit that no longer fits. A mantissa that cannot be rounded is found
before any fault of the characters behind that digit. -/
def Progress.finish (p : Progress) (c : Char) (rest : List Char) :
    Except DecimalError Progress := do
  let rounded ← p.roundBy c
  checkDropped rest
  .ok rounded

/-- Reads the characters behind the sign. -/
def readDigitsFrom (p : Progress) : List Char → Except DecimalError Progress
  | [] => if p.digitSeen then .ok p else .error .noDigits
  | c :: rest =>
      if p.scale = 28 ∧ ¬(p.wide ∧ c = '_') then p.finish c rest
      else if c.isDigit then
        if (p.push c).mantissa < mantissaLimit then readDigitsFrom (p.push c) rest
        else if p.pointSeen then p.finish c rest
        else .error .tooManyDigits
      else if c = '.' ∧ !p.pointSeen then readDigitsFrom { p with pointSeen := true } rest
      else if c = '_' ∧ p.digitSeen then readDigitsFrom p rest
      else .error (strayCharacter c)

/-- The decimal with the digits read, once they are within its bounds. -/
def Progress.toDecimal (p : Progress) (negative : Bool) : Except DecimalError Decimal :=
  if hm : p.mantissa < mantissaLimit then
    if hs : p.scale ≤ 28 then .ok (ofParts negative p.mantissa p.scale hm hs)
    else .error (.scaleTooLarge p.scale)
  else .error .tooLarge

/-- Reads a decimal without an exponent. -/
def readPlain (cs : List Char) : Except DecimalError Decimal :=
  match cs with
  | [] => .error .empty
  | c :: rest =>
      let negative := c = '-'
      let digits := if c = '-' ∨ c = '+' then rest else cs
      (readDigitsFrom .start digits).bind fun p => p.toDecimal negative

/-- The decimal with its scale replaced. -/
def withScale (d : Decimal) (scale : Nat) : Except DecimalError Decimal :=
  if hs : scale ≤ 28 then .ok (ofParts d.negative d.mantissa scale d.mantissa_lt hs)
  else .error (.scaleTooLarge scale)

/-- Multiplies by `10 ^ exponent`: the scale shrinks first, and only a whole number then grows. -/
def shiftLeft (d : Decimal) (exponent : Nat) : Except DecimalError Decimal :=
  if exponent ≤ d.scale then d.withScale (d.scale - exponent)
  else if 28 < exponent then .error (.scaleTooLarge exponent)
  else
    let mantissa := d.mantissa * Nat.pow 10 (exponent - d.scale)
    if hm : mantissa < mantissaLimit then .ok (ofParts d.negative mantissa 0 hm (by decide))
    else .error .tooLarge

/-- Divides by `10 ^ exponent`: the scale grows. -/
def shiftRight (d : Decimal) (exponent : Nat) : Except DecimalError Decimal :=
  if 28 < exponent then .error (.scaleTooLarge exponent) else d.withScale (d.scale + exponent)

/-- Whether a character introduces an exponent. -/
def isExponentMark (c : Char) : Bool := c == 'e' || c == 'E'

/-- A natural number of 32 bits as an exponent. -/
def readShift (cs : List Char) : Except DecimalError Nat :=
  (readNatural 32 cs).mapError fun _ => .malformedExponent

/-- Reads a decimal, with an exponent or without. -/
def read (cs : List Char) : Except DecimalError Decimal :=
  let base := cs.takeWhile (!isExponentMark ·)
  match cs.dropWhile (!isExponentMark ·) with
  | [] => readPlain cs
  | _ :: exponent => do
      let d ← readPlain base
      match exponent with
      | '-' :: digits => d.shiftRight (← readShift digits)
      | _ => d.shiftLeft (← readShift exponent)

end Decimal

end Keyscan
