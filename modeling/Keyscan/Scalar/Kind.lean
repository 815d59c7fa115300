import Keyscan.Json.Decoding
import Keyscan.Number.Binary

/-!
The kinds of scalar values that a property can be declared with.
-/

set_option autoImplicit false

namespace Keyscan

/-- The four ranges of integers. -/
inductive IntegerKind where
  | byte
  | short
  | int
  | long
  deriving DecidableEq, Repr

namespace IntegerKind

/-- The least integer of the range. Only bytes have no negative ones. -/
def low : IntegerKind → Int
  | .byte => 0
  | .short => -32768
  | .int => -2147483648
  | .long => -9223372036854775808

/-- The greatest integer of the range. -/
def high : IntegerKind → Int
  | .byte => 255
  | .short => 32767
  | .int => 2147483647
  | .long => 9223372036854775807

end IntegerKind

/-- The declared kind of a scalar property. -/
inductive ScalarKind where
  | string
  | bool
  | integer (k : IntegerKind)
  | real (f : FloatFormat)
  | decimal
  | uuid
  | dateTime
  | dateTimeOffset
  deriving DecidableEq, Repr

namespace ScalarKind

/-- The name of a kind in configurations and messages. -/
def name : ScalarKind → String
  | .string => "string"
  | .bool => "bool"
  | .integer .byte => "byte"
  | .integer .short => "short"
  | .integer .int => "int"
  | .integer .long => "long"
  | .real .single => "float"
  | .real .double => "double"
  | .decimal => "decimal"
  | .uuid => "uuid"
  | .dateTime => "date_time"
  | .dateTimeOffset => "date_time_offset"

/-- Every kind, in the order in which messages list them. -/
def all : List ScalarKind :=
  [.string, .bool, .integer .byte, .integer .short, .integer .int, .integer .long, .real .single,
    .real .double, .decimal, .uuid, .dateTime, .dateTimeOffset]

/-- No kind is left out. -/
theorem mem_all (k : ScalarKind) : k ∈ all := by
  cases k with
  | integer k => cases k <;> decide
  | real f => cases f <;> decide
  | _ => decide

/-- The kind with a name. -/
def ofName? (name : String) : Option ScalarKind := all.find? (·.name == name)

/-- The attribute payload that a kind is read from. -/
def wireShape : ScalarKind → String
  | .string | .uuid => "string"
  | .bool => "bool"
  | .integer _ | .real _ | .decimal => "number"
  | .dateTime | .dateTimeOffset => "string or number"

/-- Whether a kind has whole numbers. -/
def isIntegral : ScalarKind → Bool
  | .integer _ => true
  | _ => false

/-- Whether a kind has a fractional part. -/
def isFloating : ScalarKind → Bool
  | .real _ | .decimal => true
  | _ => false

/-- Whether a kind has instants. -/
def isTemporal : ScalarKind → Bool
  | .dateTime | .dateTimeOffset => true
  | _ => false

/-! ### JSON form -/

/-- A kind is written as its name. -/
def toJson (k : ScalarKind) : Json := .string k.name

/-- The kind with a name, which must be one. -/
def decodeName (name : String) : Except DecodeError ScalarKind :=
  match ofName? name with
  | some k => .ok k
  | none => .error (.unknownVariant name (all.map ScalarKind.name))

/-- A kind behind its name as the key of an object carries no payload. -/
def checkUnit : Json → Except DecodeError Unit
  | .null => .ok ()
  | j => j.mismatch "unit"

/-- Reads a kind: its name, or an object with the name as its only key and null behind it. Texts and
trees differ in how they report a value of another form. -/
def decode (origin : JsonOrigin) (j : Json) : Except DecodeError ScalarKind :=
  match origin, j with
  | _, .string name => decodeName name
  | .text, .object ((name, payload) :: rest) => do
      let k ← decodeName name
      checkUnit payload
      if rest.isEmpty then .ok k else .error .expectedValue
  | .text, _ => .error .expectedValue
  | .tree, .object [(name, payload)] => do
      let k ← decodeName name
      checkUnit payload
      .ok k
  | .tree, .object _ => .error (.invalidValue "map" "map with a single key")
  | .tree, j => j.mismatch "string or map"

end ScalarKind

end Keyscan
