import Keyscan.Number.Rounding

/-!
Binary floating-point numbers of two widths, as exact data: a sign, a significand and a power of two.
`nearest` rounds a quotient of naturals to the closest number of a format, a tie going to the even
significand; every arithmetic operation here is the exact result rounded once by it.
-/

set_option autoImplicit false

namespace Keyscan

/-- The two widths of floating-point numbers. -/
inductive FloatFormat where
  | single
  | double
  deriving DecidableEq, Repr

namespace FloatFormat

/-- The bits of a significand. -/
def precision : FloatFormat → Nat
  | .single => 24
  | .double => 53

/-- The least power of two that a significand is scaled by. -/
def minExponent : FloatFormat → Int
  | .single => -149
  | .double => -1074

/-- The greatest power of two that a significand is scaled by. -/
def maxExponent : FloatFormat → Int
  | .single => 104
  | .double => 971

/-- Every representable magnitude has one form: the significand uses all its bits unless the exponent
is the least one. -/
def Canonical (f : FloatFormat) (significand : Nat) (exponent : Int) : Prop :=
  significand < Nat.pow 2 f.precision ∧ f.minExponent ≤ exponent ∧ exponent ≤ f.maxExponent ∧
    (Nat.pow 2 (f.precision - 1) ≤ significand ∨ exponent = f.minExponent)

instance (f : FloatFormat) (significand : Nat) (exponent : Int) :
    Decidable (f.Canonical significand exponent) :=
  inferInstanceAs (Decidable (_ ∧ _ ∧ _ ∧ _))

end FloatFormat

/-- The absolute value `significand * 2 ^ exponent` of a finite number. -/
structure Magnitude (f : FloatFormat) where
  significand : Nat
  exponent : Int
  canonical : f.Canonical significand exponent
  deriving DecidableEq

/-- A floating-point number of a format. -/
inductive BinaryFloat (f : FloatFormat) where
  | nan
  | infinite (negative : Bool)
  | finite (negative : Bool) (magnitude : Magnitude f)
  deriving DecidableEq

/-! ### Rounding -/

/-- The greatest `k` with `2 ^ k ≤ num / den`, for positive `num` and `den`. -/
def binaryOrder (num den : Nat) : Int :=
  let k : Int := (num.log2 : Int) - (den.log2 : Int)
  if den * Nat.pow 2 k.toNat ≤ num * Nat.pow 2 (-k).toNat then k else k - 1

namespace Magnitude

variable {f : FloatFormat}

theorem canonical_zero (f : FloatFormat) : f.Canonical 0 f.minExponent := by
  cases f <;> decide

def zero : Magnitude f := ⟨0, f.minExponent, canonical_zero f⟩

/-- The magnitude as a quotient of naturals. -/
def ratio (m : Magnitude f) : Nat × Nat :=
  (m.significand * Nat.pow 2 m.exponent.toNat, Nat.pow 2 (-m.exponent).toNat)

/-- The magnitude `significand * 2 ^ exponent` for a significand of at most `2 ^ precision`, if the
format has it. -/
def ofParts? (significand : Nat) (exponent : Int) : Option (Magnitude f) :=
  let carried := significand = Nat.pow 2 f.precision
  let s := if carried then Nat.pow 2 (f.precision - 1) else significand
  let e := if carried then exponent + 1 else exponent
  if h : f.Canonical s e then some ⟨s, e, h⟩ else none

/-- The magnitude nearest to `num / den`, or none when that is beyond the format. -/
def nearest? (num den : Nat) : Option (Magnitude f) :=
  if num = 0 then some zero
  else
    let e := max (binaryOrder num den - (f.precision - 1 : Nat)) f.minExponent
    ofParts? (roundDiv .toEven (num * Nat.pow 2 (-e).toNat) (den * Nat.pow 2 e.toNat)) e

end Magnitude

namespace BinaryFloat

variable {f : FloatFormat}

/-- The number nearest to `± num / den`; beyond the greatest one it is infinite. -/
def nearest (negative : Bool) (num den : Nat) : BinaryFloat f :=
  match Magnitude.nearest? num den with
  | some m => .finite negative m
  | none => .infinite negative

def zero (negative : Bool) : BinaryFloat f := .finite negative .zero

/-- Whether a number is neither infinite nor missing. -/
def isFinite : BinaryFloat f → Bool
  | .finite _ _ => true
  | _ => false

/-- The number of double width nearest to a number; every number of single width is one. -/
def toDouble : BinaryFloat f → BinaryFloat .double
  | .nan => .nan
  | .infinite negative => .infinite negative
  | .finite negative m => nearest negative m.ratio.1 m.ratio.2

/-- The product of two magnitudes with a sign, rounded once. -/
def ofProduct (negative : Bool) (x y : Magnitude f) : BinaryFloat f :=
  nearest negative (x.ratio.1 * y.ratio.1) (x.ratio.2 * y.ratio.2)

/-- The quotient of two magnitudes with a sign, rounded once. The divisor is not zero. -/
def ofQuotient (negative : Bool) (x y : Magnitude f) : BinaryFloat f :=
  nearest negative (x.ratio.1 * y.ratio.2) (x.ratio.2 * y.ratio.1)

end BinaryFloat

end Keyscan
