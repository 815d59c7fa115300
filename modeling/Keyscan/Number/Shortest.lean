import Keyscan.Number.Binary

/-!
The shortest decimal that reads back as a given binary magnitude. The reals that round to a magnitude
form an interval; on the grids of 1, 2, … 17 digits the two neighbours of the exact value are tested,
and the first grid with a neighbour inside wins. Where both neighbours lie inside and are equally
near, the tie rule of the notation decides.
-/

set_option autoImplicit false

namespace Keyscan

/-- The decimal `digits * 10 ^ exponent`. -/
structure DecimalDigits where
  digits : Nat
  exponent : Int
  deriving DecidableEq, Repr

/-- The greatest `k` with `10 ^ k ≤ num / den`, for positive `num` and `den`: it is found from the
number of digits of both. -/
def decimalOrder (num den : Nat) : Int :=
  let k : Int := ((Nat.toDigits 10 num).length : Int) - ((Nat.toDigits 10 den).length : Int)
  if den * Nat.pow 10 k.toNat ≤ num * Nat.pow 10 (-k).toNat then k else k - 1

namespace Magnitude

variable {f : FloatFormat}

/-- The ends of the interval of reals that round to the magnitude, as quarters of the unit
`2 ^ exponent`. Below the least significand of a binade the numbers lie twice as dense. -/
def roundingInterval (m : Magnitude f) : Nat × Nat :=
  let least := m.significand = Nat.pow 2 (f.precision - 1)
  let below := if least ∧ f.minExponent < m.exponent then 1 else 2
  (4 * m.significand - below, 4 * m.significand + 2)

/-- Whether `digits * 10 ^ exponent` rounds to the magnitude. The ends of the interval do so exactly
when the significand is even. -/
def readsBack (m : Magnitude f) (d : DecimalDigits) : Bool :=
  let num := 4 * d.digits * Nat.pow 10 d.exponent.toNat * Nat.pow 2 (-m.exponent).toNat
  let den := Nat.pow 10 (-d.exponent).toNat * Nat.pow 2 m.exponent.toNat
  let (low, high) := m.roundingInterval
  if m.significand % 2 = 0 then low * den ≤ num && num ≤ high * den
  else low * den < num && num < high * den

/-- The neighbour of the magnitude on the grid of a number of digits that reads back and is nearer,
if one reads back. -/
def onGrid? (m : Magnitude f) (tie : TieRule) (places : Nat) : Option DecimalDigits :=
  let (num, den) := m.ratio
  let e := decimalOrder num den - ((places : Int) - 1)
  let scaledNum := num * Nat.pow 10 (-e).toNat
  let scaledDen := den * Nat.pow 10 e.toNat
  let low : DecimalDigits := ⟨scaledNum / scaledDen, e⟩
  let high : DecimalDigits := ⟨scaledNum / scaledDen + 1, e⟩
  match m.readsBack low, m.readsBack high with
  | true, true => some ⟨roundDiv tie scaledNum scaledDen, e⟩
  | true, false => some low
  | false, true => some high
  | false, false => none

/-- Drops the zeros at the end of the digits, at most so many. -/
def dropZeros : Nat → DecimalDigits → DecimalDigits
  | 0, d => d
  | n + 1, d =>
      if d.digits ≠ 0 ∧ d.digits % 10 = 0 then dropZeros n ⟨d.digits / 10, d.exponent + 1⟩ else d

/-- The fewest digits that read back as the magnitude, nearest to it among those. Seventeen digits
are enough for every magnitude. -/
def shortest (m : Magnitude f) (tie : TieRule) : DecimalDigits :=
  if m.significand = 0 then ⟨0, 0⟩
  else
    match (List.range 17).findSome? fun i => m.onGrid? tie (i + 1) with
    | some d => dropZeros 20 d
    | none => ⟨0, 0⟩

end Magnitude

/-! ### Positional notation -/

/-- Digits with the decimal point put `places` digits before their end, and zeros filled in. -/
def pointed (digits : List Char) (places : Nat) : List Char :=
  let padded := List.replicate (places + 1 - digits.length) '0' ++ digits
  let whole := padded.take (padded.length - places)
  let fraction := padded.drop (padded.length - places)
  if places = 0 then whole else whole ++ '.' :: fraction

/-- The decimal without an exponent. -/
def DecimalDigits.positional (d : DecimalDigits) : List Char :=
  let digits := Nat.toDigits 10 d.digits
  if 0 ≤ d.exponent then digits ++ List.replicate d.exponent.toNat '0'
  else pointed digits (-d.exponent).toNat

/-- A number in positional notation with the fewest digits: no exponent, no point in whole numbers,
a tie away from zero, and a sign for minus zero. -/
def BinaryFloat.display {f : FloatFormat} : BinaryFloat f → String
  | .nan => "NaN"
  | .infinite negative => if negative then "-inf" else "inf"
  | .finite negative m =>
      String.ofList ((if negative then ['-'] else []) ++ (m.shortest .awayFromZero).positional)

end Keyscan
