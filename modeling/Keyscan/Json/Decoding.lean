import Keyscan.Json.Printer
import Keyscan.Json.Shape
import Keyscan.Text.Quoted

/-!
Decoding typed values from JSON: what can be wrong with a value of a given type, and the readers of
texts, booleans, natural numbers, lists and structures. Faults are found in written order, and the
first one is reported.
-/

set_option autoImplicit false

namespace Keyscan

/-- Where a JSON value comes from: straight from text, or from a tree whose object keys are sorted
and unique. The two report a few faults in different words. -/
inductive JsonOrigin where
  | text
  | tree
  deriving DecidableEq, Repr

/-- Why a JSON value is not of the type asked for. -/
inductive DecodeError where
  | invalidType (found expected : String)
  | invalidValue (found expected : String)
  | invalidLength (length : Nat) (expected : String)
  | missingField (name : String)
  | duplicateField (name : String)
  | unknownVariant (name : String) (variants : List String)
  | expectedValue
  | trailingCharacters
  | other (message : String)
  deriving DecidableEq, Repr

/-- Names between backquotes, joined by commas. -/
def backquotedList (names : List String) : String :=
  ", ".intercalate (names.map fun n => s!"`{n}`")

/-- The text of a fault. -/
def DecodeError.message : DecodeError → String
  | .invalidType found expected => s!"invalid type: {found}, expected {expected}"
  | .invalidValue found expected => s!"invalid value: {found}, expected {expected}"
  | .invalidLength length expected => s!"invalid length {length}, expected {expected}"
  | .missingField name => s!"missing field `{name}`"
  | .duplicateField name => s!"duplicate field `{name}`"
  | .unknownVariant name variants =>
      s!"unknown variant `{name}`, expected one of " ++ backquotedList variants
  | .expectedValue => "expected value"
  | .trailingCharacters => "trailing characters"
  | .other message => message

namespace Json

/-- What a value is called when another type was expected. -/
def describe : Json → String
  | .null => "null"
  | .bool b => s!"boolean `{b}`"
  | .number (.integer n) => s!"integer `{n}`"
  | .number (.real x) => "floating point `" ++ String.ofList (printReal x) ++ "`"
  | .string s => "string " ++ Text.quoted s
  | .array _ => "sequence"
  | .object _ => "map"

/-- The fault of a value of another type. -/
def mismatch {α : Type} (j : Json) (expected : String) : Except DecodeError α :=
  .error (.invalidType j.describe expected)

/-! ### Simple types -/

/-- A text. -/
def asString : Json → Except DecodeError String
  | .string s => .ok s
  | j => j.mismatch "a string"

/-- A boolean. -/
def asBool : Json → Except DecodeError Bool
  | .bool b => .ok b
  | j => j.mismatch "a boolean"

/-- A natural number of so many bits. -/
def asNatural (bits : Nat) : Json → Except DecodeError Nat
  | .number (.integer n) =>
      if 0 ≤ n ∧ n < (Nat.pow 2 bits : Nat) then .ok n.toNat
      else .error (.invalidValue (describe (.number (.integer n))) s!"u{bits}")
  | j => j.mismatch s!"u{bits}"

/-- A value that may be null. -/
def asOptional {α : Type} (decode : Json → Except DecodeError α) :
    Json → Except DecodeError (Option α)
  | .null => .ok none
  | j => (decode j).map some

/-- Decodes one item after the other. -/
def decodeItems {α : Type} (decode : Json → Except DecodeError α) :
    List Json → Except DecodeError (List α)
  | [] => .ok []
  | x :: rest => do
      let y ← decode x
      let ys ← decodeItems decode rest
      .ok (y :: ys)

/-- An array, item by item. -/
def asList {α : Type} (decode : Json → Except DecodeError α) : Json → Except DecodeError (List α)
  | .array items => decodeItems decode items
  | j => j.mismatch "a sequence"

/-- Decodes the value of one member after the other. -/
def decodeMembers {α : Type} (decode : Json → Except DecodeError α) :
    List (String × Json) → Except DecodeError (List (String × α))
  | [] => .ok []
  | (k, x) :: rest => do
      let y ← decode x
      let ys ← decodeMembers decode rest
      .ok ((k, y) :: ys)

/-- The members of an object, in written order and with duplicates. -/
def asMembers {α : Type} (decode : Json → Except DecodeError α) :
    Json → Except DecodeError (List (String × α))
  | .object members => decodeMembers decode members
  | j => j.mismatch "a map"

/-! ### Structures

A structure is written as an object with its fields as members, or as an array of its fields in
order. Members that are no fields are ignored. -/

/-- A field of a structure: whether it must be there, whether a value is fit for it, and which part
of the value is looked at. -/
structure Field where
  name : String
  required : Bool
  check : Json → Except DecodeError Unit
  shape : Shape

/-- A field whose values are read by a decoder, as far as a shape says. -/
def Field.shaped {α : Type} (name : String) (required : Bool) (shape : Shape)
    (decode : Json → Except DecodeError α) : Field :=
  ⟨name, required, fun j => (decode j).map fun _ => (), shape⟩

/-- A field whose values are read as a whole by a decoder. -/
def Field.of {α : Type} (name : String) (required : Bool)
    (decode : Json → Except DecodeError α) : Field :=
  .shaped name required .whole decode

/-- The shape of a structure with the given fields. -/
def Shape.ofFields (fields : List Field) : Shape := .struct (fields.map fun f => (f.name, f.shape))

/-- The members that are fields, each fit and none twice. -/
def checkMembers (fields : List Field) :
    (seen : List String) → List (String × Json) → Except DecodeError (List (String × Json))
  | _, [] => .ok []
  | seen, (k, x) :: rest =>
      match fields.find? (·.name == k) with
      | none => checkMembers fields seen rest
      | some field =>
          if k ∈ seen then .error (.duplicateField k)
          else do
            field.check x
            let more ← checkMembers fields (k :: seen) rest
            .ok ((k, x) :: more)

/-- The items as members named by the fields in order. -/
def checkElements (origin : JsonOrigin) (expected : String) (count : Nat) :
    (index : Nat) → List Field → List Json → Except DecodeError (List (String × Json))
  | _, [], [] => .ok []
  | index, [], _ :: rest =>
      match origin with
      | .text => .error .trailingCharacters
      | .tree => .error (.invalidLength (index + 1 + rest.length) "fewer elements in array")
  | index, field :: fields, [] =>
      if field.required then
        .error (.invalidLength index s!"{expected} with {count} elements")
      else checkElements origin expected count (index + 1) fields []
  | index, field :: fields, x :: rest => do
      field.check x
      let more ← checkElements origin expected count (index + 1) fields rest
      .ok ((field.name, x) :: more)

/-- The fields of a structure that are written, each with a fit value. -/
def fieldsOf (origin : JsonOrigin) (name : String) (fields : List Field) :
    Json → Except DecodeError (List (String × Json))
  | .object members => checkMembers fields [] members
  | .array items => checkElements origin ("struct " ++ name) fields.length 0 fields items
  | j => j.mismatch ("struct " ++ name)

/-- The member with a key, the first of several. -/
def member? (key : String) : List (String × Json) → Option Json
  | [] => none
  | (k, x) :: rest => if key = k then some x else member? key rest

/-- A field that must be there. -/
def requiredField {α : Type} (decode : Json → Except DecodeError α) (name : String)
    (members : List (String × Json)) : Except DecodeError α :=
  match member? name members with
  | some x => decode x
  | none => .error (.missingField name)

/-- A field with a default. -/
def fieldOr {α : Type} (decode : Json → Except DecodeError α) (default : α) (name : String)
    (members : List (String × Json)) : Except DecodeError α :=
  match member? name members with
  | some x => decode x
  | none => .ok default

/-! ### Trees -/

mutual

/-- The value with the members of every object sorted by their keys, the last of several with one
key. -/
def canonical : Json → Json
  | .array items => .array (canonicalItems items)
  | .object members => .object (canonicalMembers members)
  | j => j

/-- The items, each in its canonical form. -/
def canonicalItems : List Json → List Json
  | [] => []
  | x :: rest => canonical x :: canonicalItems rest

/-- Members put into key order from the last one on, so that a later one with the same key is there
already and stays. -/
def canonicalMembers : List (String × Json) → List (String × Json)
  | [] => []
  | (k, x) :: rest =>
      let others := canonicalMembers rest
      if others.any (·.1 == k) then others else place k (canonical x) others
where
  /-- Puts a member with a new key at its place. -/
  place (k : String) (x : Json) : List (String × Json) → List (String × Json)
    | [] => [(k, x)]
    | (k', y) :: rest => if k < k' then (k, x) :: (k', y) :: rest else (k', y) :: place k x rest

end

end Json

end Keyscan
