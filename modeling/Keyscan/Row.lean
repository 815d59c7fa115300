import Keyscan.Scalar.Conversion
import Keyscan.Scalar.Value
import Keyscan.SortedMap

/-!
Rows: one entity instance each, with the value of every property in projection order, and the typed
extraction of single properties from them.
-/

set_option autoImplicit false

namespace Keyscan

/-! ### Typed extraction -/

/-- The type of the non-null values of a kind. -/
def ScalarKind.Carrier : ScalarKind → Type
  | .string => String
  | .bool => Bool
  | .integer k => BoundedInt k
  | .real f => BinaryFloat f
  | .decimal => Decimal
  | .uuid => Uuid
  | .dateTime => Instant
  | .dateTimeOffset => Instant × Offset

namespace ScalarValue

/-- A value of a kind from what it carries. -/
def ofCarrier : (kind : ScalarKind) → kind.Carrier → ScalarValue
  | .string, s => .string s
  | .bool, b => .bool b
  | .integer k, n => .integer k n
  | .real f, x => .real f x
  | .decimal, d => .decimal d
  | .uuid, u => .uuid u
  | .dateTime, i => .dateTime i
  | .dateTimeOffset, (i, offset) => .dateTimeOffset i offset

/-- What a value of a kind carries; none for a value of another kind and for null. -/
def as? : (kind : ScalarKind) → ScalarValue → Option kind.Carrier
  | .string, .string s => some s
  | .bool, .bool b => some b
  | .integer k, .integer k' n => if h : k' = k then some (h ▸ n) else none
  | .real f, .real f' x => if h : f' = f then some (h ▸ x) else none
  | .decimal, .decimal d => some d
  | .uuid, .uuid u => some u
  | .dateTime, .dateTime i => some i
  | .dateTimeOffset, .dateTimeOffset i offset => some (i, offset)
  | _, _ => none

end ScalarValue

/-! ### Rows -/

/-- The values of one entity instance. -/
structure Row where
  entity : String
  fields : List (String × ScalarValue)
  deriving DecidableEq

namespace Row

/-- The value of a property, the first of several. -/
def get? (r : Row) (property : String) : Option ScalarValue := Entries.get? property r.fields

/-- A failure to extract a property, which is its own attribute in a row. -/
def extractionError (property : String) (kind : ScalarKind) (fault : ConversionFault) :
    ConversionError :=
  (ConversionError.of fault kind).withBinding property property

/-- A property as what a kind carries. The property must be there and hold a value of the kind. -/
def getAs (r : Row) (property : String) (kind : ScalarKind) :
    Except ConversionError kind.Carrier :=
  match r.get? property with
  | none => .error (extractionError property kind .missing)
  | some v =>
      match v.as? kind with
      | some x => .ok x
      | none => .error (extractionError property kind (.wrongShape v.kindName))

/-- A property as what a kind carries, or none for null. -/
def getOptional (r : Row) (property : String) (kind : ScalarKind) :
    Except ConversionError (Option kind.Carrier) :=
  match r.get? property with
  | some .null => .ok none
  | _ => (r.getAs property kind).map some

/-- The row as a JSON object with sorted keys; of several fields with one name the last one stays. -/
def toJson (r : Row) : Json :=
  .object (Entries.ofList (r.fields.map fun p => (p.1, p.2.toJson)))

end Row

end Keyscan
