import Keyscan.Number.Binary

/-!
JSON values. Objects keep their members in written order, duplicates included; what a repeated key
means is up to the reader of the value.
-/

set_option autoImplicit false

namespace Keyscan

/-- A JSON number: an integer that fits 64 bits, signed or not, or a number of double width. -/
inductive JsonNumber where
  | integer (n : Int)
  | real (x : BinaryFloat .double)
  deriving DecidableEq

/-- A JSON value. -/
inductive Json where
  | null
  | bool (b : Bool)
  | number (n : JsonNumber)
  | string (s : String)
  | array (items : List Json)
  | object (members : List (String × Json))

namespace Json

instance : Inhabited Json := ⟨.null⟩

/-- An integer as a JSON value. -/
def int (n : Int) : Json := .number (.integer n)

/-- A natural number as a JSON value. -/
def nat (n : Nat) : Json := int n

/-- A text that may be absent, null standing for its absence. -/
def optional (s : Option String) : Json := s.elim .null .string

mutual

/-- The nesting of arrays and objects. -/
def depth : Json → Nat
  | .array items => depthItems items + 1
  | .object members => depthMembers members + 1
  | _ => 0

/-- The greatest nesting within the items. -/
def depthItems : List Json → Nat
  | [] => 0
  | x :: rest => max (depth x) (depthItems rest)

/-- The greatest nesting within the members. -/
def depthMembers : List (String × Json) → Nat
  | [] => 0
  | (_, x) :: rest => max (depth x) (depthMembers rest)

end

end Json

end Keyscan
