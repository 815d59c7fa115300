import Keyscan.Attribute.Basic
import Keyscan.Json.Decoding
import Keyscan.Text.Base64

/-!
The wire form of attribute values: an object with one member, whose key is the type tag. A null value
is written with the payload `true`, and read with either boolean.
-/

set_option autoImplicit false

namespace Keyscan.Attribute

/-! ### Writing -/

mutual

/-- The wire form of a value. -/
def toJson : Attribute → Json
  | .string s => .object [("S", .string s)]
  | .number text => .object [("N", .string text)]
  | .bool b => .object [("BOOL", .bool b)]
  | .null => .object [("NULL", .bool true)]
  | .binary bytes => .object [("B", .string (Text.Base64.encode bytes))]
  | .list items => .object [("L", .array (itemsToJson items))]
  | .map entries => .object [("M", .object (entriesToJson entries))]

/-- The wire forms of list items, in order. -/
def itemsToJson : List Attribute → List Json
  | [] => []
  | a :: rest => toJson a :: itemsToJson rest

/-- The wire forms of map entries under their keys, in order. -/
def entriesToJson : List (String × Attribute) → List (String × Json)
  | [] => []
  | (k, a) :: rest => (k, toJson a) :: entriesToJson rest

end

/-- The compact text of the wire form. -/
def wire (a : Attribute) : String := a.toJson.print

/-! ### Reading -/

/-- What a reader expects in place of a value of another type. -/
def expectation : String := "an attribute value object with exactly one type tag"

/-- A payload that is neither list nor map, by its tag. -/
def decodeLeaf (tag : String) (payload : Json) : Except DecodeError Attribute :=
  if tag = "S" then payload.asString.map .string
  else if tag = "N" then do
    let text ← payload.asString
    if Text.isBlank text then .error (.other "number attribute has empty text")
    else .ok (.number text)
  else if tag = "BOOL" then payload.asBool.map .bool
  else if tag = "NULL" then payload.asBool.map fun _ => .null
  else if tag = "B" then do
    let text ← payload.asString
    match Text.Base64.decode text with
    | .ok bytes => .ok (.binary bytes)
    | .error e => .error (.other ("invalid base64 binary: " ++ e.message))
  else .error (.other s!"unknown attribute type tag '{tag}'")

/-- A value is the only member of its object. -/
def onlyMember (a : Attribute) : List (String × Json) → Except DecodeError Attribute
  | [] => .ok a
  | (tag, _) :: _ =>
      .error (.other
        ("attribute value carries more than one type tag ('" ++ a.tag ++ "' and '" ++ tag ++ "')"))

mutual

/-- The attribute value that a JSON value is the wire form of. -/
def decode : Json → Except DecodeError Attribute
  | .object [] => .error (.other "attribute value has no type tag")
  | .object ((tag, payload) :: rest) => do
      let a ← decodePayload tag payload
      onlyMember a rest
  | j => j.mismatch expectation

/-- The value with a tag and a payload. -/
def decodePayload (tag : String) : Json → Except DecodeError Attribute
  | .array items =>
      if tag = "L" then (decodeItems items).map .list
      else if tag = "M" then (Json.array items).mismatch "a map"
      else decodeLeaf tag (.array items)
  | .object members =>
      if tag = "M" then (decodeEntries members).map fun es => .map (Entries.ofList es)
      else if tag = "L" then (Json.object members).mismatch "a sequence"
      else decodeLeaf tag (.object members)
  | payload =>
      if tag = "L" then payload.mismatch "a sequence"
      else if tag = "M" then payload.mismatch "a map"
      else decodeLeaf tag payload

/-- The values of list items, up to the first that is none. -/
def decodeItems : List Json → Except DecodeError (List Attribute)
  | [] => .ok []
  | x :: rest => do
      let a ← decode x
      let more ← decodeItems rest
      .ok (a :: more)

/-- The values of map entries in written order, up to the first that is none. -/
def decodeEntries : List (String × Json) → Except DecodeError (List (String × Attribute))
  | [] => .ok []
  | (k, x) :: rest => do
      let a ← decode x
      let more ← decodeEntries rest
      .ok ((k, a) :: more)

end

end Keyscan.Attribute
