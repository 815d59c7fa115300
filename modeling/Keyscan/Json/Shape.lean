/-!
The part of a JSON value that a decoder looks at.
-/

set_option autoImplicit false

namespace Keyscan.Json

/-- A value is read as a whole, or as an array whose items are all read in one way, or as a structure,
which is an object with its fields as members or an array of them in order. -/
inductive Shape where
  | whole
  | list (item : Shape)
  | struct (fields : List (String × Shape))

namespace Shape

/-- How the first item of an array is read. -/
def firstItem : Shape → Shape
  | .whole | .struct [] => .whole
  | .list item | .struct ((_, item) :: _) => item

/-- How the items behind the first one are read. -/
def laterItems : Shape → Shape
  | .struct (_ :: rest) => .struct rest
  | shape => shape

/-- How the member with a key is read, if it is. -/
def member? (key : String) : Shape → Option Shape
  | .struct fields => fields.lookup key
  | .whole | .list _ => some .whole

end Shape

end Keyscan.Json
