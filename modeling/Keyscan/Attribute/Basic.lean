import Keyscan.SortedMap
import Keyscan.Text.Blank
import Keyscan.Text.Quoted

/-!
Attribute values: what one attribute of a stored record holds. Numbers are kept as decimal text, and
lists and maps nest.
-/

set_option autoImplicit false

namespace Keyscan

/-- The value of one attribute. Map entries carry their keys; a map read from text has each key
once. -/
inductive Attribute where
  | string (s : String)
  | number (text : String)
  | bool (b : Bool)
  | null
  | binary (bytes : List UInt8)
  | list (items : List Attribute)
  | map (entries : List (String × Attribute))

namespace Attribute

instance : Inhabited Attribute := ⟨.null⟩

/-- The type tag of a value in its wire form. -/
def tag : Attribute → String
  | .string _ => "S"
  | .number _ => "N"
  | .bool _ => "BOOL"
  | .null => "NULL"
  | .binary _ => "B"
  | .list _ => "L"
  | .map _ => "M"

/-- What the payload is called in messages. -/
def shapeName : Attribute → String
  | .string _ => "string"
  | .number _ => "number"
  | .bool _ => "bool"
  | .null => "null"
  | .binary _ => "binary"
  | .list _ => "list"
  | .map _ => "map"

/-- The text of a string value. -/
def asString? : Attribute → Option String
  | .string s => some s
  | _ => none

/-- The decimal text of a number value. -/
def asNumberText? : Attribute → Option String
  | .number text => some text
  | _ => none

/-- The boolean of a boolean value. -/
def asBool? : Attribute → Option Bool
  | .bool b => some b
  | _ => none

def isNull : Attribute → Bool
  | .null => true
  | _ => false

/-- A short text for people: lists, maps and bytes are only counted. -/
def display : Attribute → String
  | .string s => "\x7bS: " ++ Text.quoted s ++ "\x7d"
  | .number text => "\x7bN: " ++ text ++ "\x7d"
  | .bool b => "\x7bBOOL: " ++ toString b ++ "\x7d"
  | .null => "\x7bNULL\x7d"
  | .binary bytes => "\x7bB: " ++ toString bytes.length ++ " bytes\x7d"
  | .list items => "\x7bL: " ++ toString items.length ++ " items\x7d"
  | .map entries => "\x7bM: " ++ toString entries.length ++ " entries\x7d"

/-! ### Well-formed values -/

mutual

/-- Number texts are not blank, and the entries of every map are in strictly increasing key order. -/
def WellFormed : Attribute → Prop
  | .number text => Text.isBlank text = false
  | .list items => WellFormedItems items
  | .map entries => Entries.Sorted entries ∧ WellFormedEntries entries
  | _ => True

/-- Every item is well formed. -/
def WellFormedItems : List Attribute → Prop
  | [] => True
  | a :: rest => WellFormed a ∧ WellFormedItems rest

/-- Every entry is well formed. -/
def WellFormedEntries : List (String × Attribute) → Prop
  | [] => True
  | (_, a) :: rest => WellFormed a ∧ WellFormedEntries rest

end

end Attribute

end Keyscan
