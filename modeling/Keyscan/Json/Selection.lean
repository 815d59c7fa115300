import Keyscan.Json.Shape
import Keyscan.Json.Skipping
import Keyscan.Text.Utf8

/-!
Reading the part of a JSON text that a shape asks for. The members of a structure that are no fields
are passed over: they need the grammar of JSON, but need not be values that can be kept. In the text
that is left `null` stands for each of them.
-/

set_option autoImplicit false

namespace Keyscan.Json

/-- What was read of a text when a rest is left. -/
def readPart (cs rest : List Char) : List Char := cs.take (cs.length - rest.length)

/-- The text of a value, and the rest behind it. -/
def keepValue? (cs : List Char) : Option (List Char × List Char) :=
  (skipValue? cs).map fun rest => (readPart cs rest, rest)

/-- The items up to the closing bracket, at least one and at most so many. -/
def selectItems? (value : Shape → List Char → Option (List Char × List Char)) :
    Nat → Shape → List Char → Option (List Char × List Char)
  | 0, _, _ => none
  | fuel + 1, shape, cs => do
      let (x, rest) ← value shape.firstItem (skipBlanks cs)
      match skipBlanks rest with
      | ',' :: rest =>
          (selectItems? value fuel shape.laterItems rest).map fun r => (x ++ ',' :: r.1, r.2)
      | ']' :: rest => some (x ++ [']'], rest)
      | _ => none

/-- The members up to the closing brace, at least one and at most so many. -/
def selectMembers? (value : Shape → List Char → Option (List Char × List Char)) :
    Nat → Shape → List Char → Option (List Char × List Char)
  | 0, _, _ => none
  | fuel + 1, shape, cs =>
      match skipBlanks cs with
      | '"' :: body => do
          let (key, rest) ← readString body
          let written := '"' :: readPart body rest
          match skipBlanks rest with
          | ':' :: rest => do
              let start := skipBlanks rest
              let (x, rest) ←
                match shape.member? key with
                | some s => value s start
                | none => (skipValue? start).map fun rest => ("null".toList, rest)
              match skipBlanks rest with
              | ',' :: rest =>
                  (selectMembers? value fuel shape rest).map fun r =>
                    (written ++ ':' :: x ++ ',' :: r.1, r.2)
              | '\x7d' :: rest => some (written ++ ':' :: x ++ ['\x7d'], rest)
              | _ => none
          | _ => none
      | _ => none

/-- The selected text of the value at the beginning, with so much nesting of shapes looked into, and
the rest. -/
def selectValue? : Nat → Shape → List Char → Option (List Char × List Char)
  | 0, _, cs => keepValue? cs
  | depth + 1, shape, cs =>
      match shape, cs with
      | .whole, cs => keepValue? cs
      | shape, '[' :: rest =>
          match skipBlanks rest with
          | ']' :: rest => some (['[', ']'], rest)
          | rest =>
              (selectItems? (selectValue? depth) rest.length shape rest).map fun r =>
                ('[' :: r.1, r.2)
      | shape, '\x7b' :: rest =>
          match skipBlanks rest with
          | '\x7d' :: rest => some (['\x7b', '\x7d'], rest)
          | rest =>
              (selectMembers? (selectValue? depth) rest.length shape rest).map fun r =>
                ('\x7b' :: r.1, r.2)
      | _, cs => keepValue? cs

/-- The text with `null` for every value that the shape does not ask for. -/
def select? (shape : Shape) (cs : List Char) : Option (List Char) :=
  (selectValue? depthLimit shape (skipBlanks cs)).map fun r => r.1 ++ r.2

/-- The value that the selected part of a text stands for, if that part is JSON. -/
def readSelected? (shape : Shape) (text : String) : Option Json := do
  let selected ← select? shape text.toList
  read? (String.ofList selected)

/-- The value that the selected part of some bytes stands for, if that part is JSON in UTF-8. -/
def readSelectedBytes? (shape : Shape) (bytes : List UInt8) : Option Json := do
  let selected ← select? shape (bytes.map fun b => Char.ofNat b.toNat)
  let text ← Text.ofUtf8Bytes? (selected.map fun c => UInt8.ofNat c.toNat)
  read? text

end Keyscan.Json
