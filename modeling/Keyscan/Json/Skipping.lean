import Keyscan.Json.Reader

/-!
Passing over a JSON value without keeping it. Only the grammar is checked: a number may be beyond
every range, an escape may be half of a surrogate pair, and arrays and objects may be nested as deep
as the text goes. The text may also be given as bytes, each standing as the character with its
number; the marks of JSON are ASCII, and a string may then hold any bytes.
-/

set_option autoImplicit false

namespace Keyscan.Json

/-! ### Scalars -/

/-- The rest behind what follows a backslash. -/
def skipEscape? (cs : List Char) : Option (List Char) :=
  match cs with
  | 'u' :: a :: b :: c :: d :: rest => (codeUnit? a b c d).map fun _ => rest
  | c :: rest => if c ∈ ['"', '\\', '/', 'b', 'f', 'n', 'r', 't'] then some rest else none
  | [] => none

/-- The rest behind the closing quote, for at most so many characters. -/
def skipStringBody? : Nat → List Char → Option (List Char)
  | 0, _ => none
  | _, [] => none
  | fuel + 1, c :: rest =>
      if c = '"' then some rest
      else if c = '\\' then (skipEscape? rest).bind (skipStringBody? fuel)
      else if c.toNat < 0x20 then none
      else skipStringBody? fuel rest

/-- The rest behind a string whose opening quote has been read. -/
def skipString? (cs : List Char) : Option (List Char) := skipStringBody? cs.length cs

/-- The rest behind a number. -/
def skipNumber? (cs : List Char) : Option (List Char) := do
  let unsigned := if cs.head? = some '-' then cs.drop 1 else cs
  let whole := unsigned.takeWhile Char.isDigit
  if whole.isEmpty ∨ (whole.head? = some '0' ∧ whole.length ≠ 1) then none
  else
    let (_, rest) ← readFraction? (unsigned.dropWhile Char.isDigit)
    let (_, rest) ← readExponentPart? rest
    some rest

/-- The rest behind a value that is neither array nor object. -/
def skipScalar? (cs : List Char) : Option (List Char) :=
  match cs with
  | '"' :: rest => skipString? rest
  | 'n' :: _ => dropStart? "null".toList cs
  | 't' :: _ => dropStart? "true".toList cs
  | 'f' :: _ => dropStart? "false".toList cs
  | _ => skipNumber? cs

/-! ### Nesting -/

/-- An array or object that has been opened and not been closed yet. -/
inductive Bracket where
  | array
  | object
  deriving DecidableEq, Repr

/-- The rest behind a key and its colon. -/
def skipKey? (cs : List Char) : Option (List Char) :=
  match skipBlanks cs with
  | '"' :: rest => do
      match skipBlanks (← skipString? rest) with
      | ':' :: rest => some rest
      | _ => none
  | _ => none

/-- Where the passage over nested values stands: before a value, or behind one. -/
inductive SkipPoint where
  | before
  | behind
  deriving DecidableEq, Repr

/-- One step over a text with the given open brackets, innermost first: a scalar, an opening bracket,
a closing one, or a comma and what leads to the next value. -/
def skipStep? (point : SkipPoint) (brackets : List Bracket) (cs : List Char) :
    Option (SkipPoint × List Bracket × List Char) :=
  match point, brackets, skipBlanks cs with
  | .before, _, '[' :: rest =>
      match skipBlanks rest with
      | ']' :: rest => some (.behind, brackets, rest)
      | rest => some (.before, .array :: brackets, rest)
  | .before, _, '\x7b' :: rest =>
      match skipBlanks rest with
      | '\x7d' :: rest => some (.behind, brackets, rest)
      | rest => (skipKey? rest).map fun rest => (.before, .object :: brackets, rest)
  | .before, _, cs => (skipScalar? cs).map fun rest => (.behind, brackets, rest)
  | .behind, .array :: _, ',' :: rest => some (.before, brackets, rest)
  | .behind, .array :: outer, ']' :: rest => some (.behind, outer, rest)
  | .behind, .object :: _, ',' :: rest =>
      (skipKey? rest).map fun rest => (.before, brackets, rest)
  | .behind, .object :: outer, '\x7d' :: rest => some (.behind, outer, rest)
  | .behind, _, _ => none

/-- Steps until a value is passed over and no bracket is open, at most so many. -/
def skipFrom? : Nat → SkipPoint → List Bracket → List Char → Option (List Char)
  | _, .behind, [], cs => some cs
  | 0, _, _, _ => none
  | fuel + 1, point, brackets, cs =>
      match skipStep? point brackets cs with
      | some (point, brackets, rest) => skipFrom? fuel point brackets rest
      | none => none

/-- The rest behind a value. Every step leaves less of the text. -/
def skipValue? (cs : List Char) : Option (List Char) := skipFrom? cs.length .before [] cs

end Keyscan.Json
