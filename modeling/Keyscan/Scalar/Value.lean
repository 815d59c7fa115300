import Keyscan.Number.Decimal
import Keyscan.Scalar.Kind
import Keyscan.Time.Iso8601
import Keyscan.Uuid

/-!
Typed scalar values.
-/

set_option autoImplicit false

namespace Keyscan

/-- The integers of a range. -/
abbrev BoundedInt (k : IntegerKind) := { n : Int // k.low ≤ n ∧ n ≤ k.high }

/-- A value of one of the kinds, or the null that a nullable property may hold. -/
inductive ScalarValue where
  | null
  | string (s : String)
  | bool (b : Bool)
  | integer (k : IntegerKind) (n : BoundedInt k)
  | real (f : FloatFormat) (x : BinaryFloat f)
  | decimal (d : Decimal)
  | uuid (u : Uuid)
  | dateTime (i : Instant)
  | dateTimeOffset (i : Instant) (offset : Offset)
  deriving DecidableEq

namespace ScalarValue

/-- The kind of a value; null has none. -/
def kind? : ScalarValue → Option ScalarKind
  | .null => none
  | .string _ => some .string
  | .bool _ => some .bool
  | .integer k _ => some (.integer k)
  | .real f _ => some (.real f)
  | .decimal _ => some .decimal
  | .uuid _ => some .uuid
  | .dateTime _ => some .dateTime
  | .dateTimeOffset _ _ => some .dateTimeOffset

def isNull : ScalarValue → Bool
  | .null => true
  | _ => false

/-- The name of a value's kind. -/
def kindName (v : ScalarValue) : String := v.kind?.elim "null" ScalarKind.name

/-- Whether two values are equal as what they denote: numbers of any scale, and instants at any
offset. No number is not equal to itself. -/
def denotesSame : ScalarValue → ScalarValue → Bool
  | .decimal x, .decimal y => x.sameNumber y
  | .dateTimeOffset x _, .dateTimeOffset y _ => x == y
  | .real f x, .real g y =>
      match x, y with
      | .nan, _ => false
      | .finite s m, .finite t n =>
          f == g && m.significand == n.significand && m.exponent == n.exponent &&
            (s == t || m.significand == 0)
      | _, _ => ScalarValue.real f x == ScalarValue.real g y
  | x, y => x == y

/-- The JSON form of a value in rows: texts, booleans and numbers as such, decimals, identifiers and
instants as text. -/
def toJson : ScalarValue → Json
  | .null => .null
  | .string s => .string s
  | .bool b => .bool b
  | .integer _ n => .int n.1
  | .real _ x =>
      match x.toDouble with
      | .finite negative m => .number (.real (.finite negative m))
      | _ => .null
  | .decimal d => .string d.display
  | .uuid u => .string u.print
  | .dateTime i => .string (Iso8601.print i .utc)
  | .dateTimeOffset i offset => .string (Iso8601.print i offset)

end ScalarValue

end Keyscan
