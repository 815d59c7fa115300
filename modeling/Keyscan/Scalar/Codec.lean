import Keyscan.Attribute.Basic
import Keyscan.Scalar.Conversion
import Keyscan.Scalar.Value

/-!
Reading scalars from attributes and writing them as attributes.

A kind is read from one shape of payload only; instants alone have two. An absent attribute is null
for nullable properties; for others, texts, booleans and instants have defaults.
-/

set_option autoImplicit false

namespace Keyscan.Codec

/-! ### Reading -/

/-- The text is none of the kind. -/
def malformed {α : Type} (kind : ScalarKind) (text reason : String) : Except ConversionError α :=
  .error (.of (.malformed text reason) kind)

/-- The value is beyond the kind. -/
def outOfRange {α : Type} (kind : ScalarKind) (text reason : String) : Except ConversionError α :=
  .error (.of (.outOfRange text reason) kind)

/-- There is no attribute for a kind without a default. -/
def missing {α : Type} (kind : ScalarKind) : Except ConversionError α :=
  .error (.of .missing kind)

/-- The payload is of a shape that the kind is not read from. -/
def wrongShape {α : Type} (kind : ScalarKind) (a : Attribute) : Except ConversionError α :=
  .error (.of (.wrongShape a.shapeName) kind)

/-- The text of a number that must be there. -/
def numberText (kind : ScalarKind) : Option Attribute → Except ConversionError String
  | some (.number text) => .ok text
  | none | some .null => missing kind
  | some a => wrongShape kind a

/-- An integer of a range from its text. -/
def readInteger (k : IntegerKind) (text : String) : Except ConversionError ScalarValue :=
  match Keyscan.readInteger k.low k.high text.toList with
  | .ok n =>
      if h : k.low ≤ n ∧ n ≤ k.high then .ok (.integer k ⟨n, h⟩)
      else outOfRange (.integer k) text IntegerError.tooLarge.message
  | .error e =>
      if e.isOverflow then outOfRange (.integer k) text e.message
      else malformed (.integer k) text e.message

/-- A finite binary number from its text. -/
def readReal (f : FloatFormat) (text : String) : Except ConversionError ScalarValue :=
  match (BinaryFloat.readLiteral text.toList : Except FloatLiteralError (BinaryFloat f)) with
  | .error e => malformed (.real f) text e.message
  | .ok x =>
      if x.isFinite then .ok (.real f x)
      else outOfRange (.real f) text s!"value does not fit a finite {(ScalarKind.real f).name}"

/-- A decimal from its text. -/
def readDecimal (text : String) : Except ConversionError ScalarValue :=
  match Decimal.read text.toList with
  | .ok d => .ok (.decimal d)
  | .error e => malformed .decimal text e.message

/-- An identifier from a string payload. -/
def readUuid : Option Attribute → Except ConversionError ScalarValue
  | some (.string text) =>
      match Uuid.read text with
      | .ok u => .ok (.uuid u)
      | .error e => malformed .uuid text e.message
  | none | some .null => missing .uuid
  | some a => wrongShape .uuid a

/-- The whole seconds of a magnitude with a sign, rounded down. -/
def wholeSeconds (negative : Bool) (m : Magnitude .double) : Int :=
  let (num, den) := m.ratio
  if negative then -((num + den - 1) / den : Nat) else (num / den : Nat)

/-- The nanoseconds beyond the whole seconds: the difference is rounded to double width, multiplied,
rounded again, and taken to the nearest whole number, a half going up. -/
def secondNanos (negative : Bool) (m : Magnitude .double) : Nat :=
  let (num, den) := m.ratio
  let beyond := if negative then (den - num % den) % den else num % den
  match (Magnitude.nearest? beyond den : Option (Magnitude .double)) with
  | none => 0
  | some fraction =>
      match (Magnitude.nearest? (fraction.ratio.1 * 1000000000) fraction.ratio.2 :
          Option (Magnitude .double)) with
      | none => 0
      | some nanos =>
          let (num, den) := nanos.ratio
          min ((2 * num + den) / (2 * den)) 999999999

/-- Seconds since 1970 as decimal text, with a fraction allowed. -/
def readEpochSeconds (kind : ScalarKind) (text : String) : Except ConversionError Instant :=
  let instant (seconds : Int) (nanos : Nat) : Except ConversionError Instant :=
    match Instant.ofParts? seconds nanos with
    | some i => .ok i
    | none => outOfRange kind text "epoch seconds out of range"
  match Keyscan.readInteger IntegerKind.long.low IntegerKind.long.high text.toList with
  | .ok n => instant n 0
  | .error _ =>
      match (BinaryFloat.readLiteral text.toList :
          Except FloatLiteralError (BinaryFloat .double)) with
      | .error e => malformed kind text e.message
      | .ok (.finite negative m) => instant (wholeSeconds negative m) (secondNanos negative m)
      | .ok _ => outOfRange kind text "non-finite epoch seconds"

/-- An instant from text or from seconds since 1970, with the offset it was written in; none where
there is no attribute. -/
def readInstant (kind : ScalarKind) :
    Option Attribute → Except ConversionError (Option (Instant × Offset))
  | some (.string text) =>
      match Iso8601.read text with
      | .ok r => .ok (some r)
      | .error e => malformed kind text ("not ISO-8601: " ++ e.message)
  | some (.number text) => (readEpochSeconds kind text).map fun i => some (i, .utc)
  | none | some .null => .ok none
  | some a => wrongShape kind a

/-- Reads an attribute as a value of a kind that is not nullable. -/
def readRequired (kind : ScalarKind) (a : Option Attribute) :
    Except ConversionError ScalarValue :=
  match kind with
  | .string =>
      match a with
      | some (.string s) => .ok (.string s)
      | none | some .null => .ok (.string "")
      | some a => wrongShape .string a
  | .bool =>
      match a with
      | some (.bool b) => .ok (.bool b)
      | none | some .null => .ok (.bool false)
      | some a => wrongShape .bool a
  | .integer k => (numberText (.integer k) a).bind (readInteger k)
  | .real f => (numberText (.real f) a).bind (readReal f)
  | .decimal => (numberText .decimal a).bind readDecimal
  | .uuid => readUuid a
  | .dateTime =>
      (readInstant .dateTime a).map fun r => .dateTime (r.getD (.epoch, .utc)).1
  | .dateTimeOffset =>
      (readInstant .dateTimeOffset a).map fun r =>
        let (i, offset) := r.getD (.epoch, .utc)
        .dateTimeOffset i offset

/-- Whether there is no value: no attribute, or a null one. -/
def isAbsent : Option Attribute → Bool
  | none | some .null => true
  | _ => false

/-- Reads an attribute as a value of a kind. -/
def read (kind : ScalarKind) (nullable : Bool) (a : Option Attribute) :
    Except ConversionError ScalarValue :=
  if nullable && isAbsent a then .ok .null else readRequired kind a

/-! ### Writing -/

/-- Text with the year of the clock that it shows; only years of four digits read back. -/
def isoText (kind : ScalarKind) (year : Int) (text : String) : Except ConversionError Attribute :=
  if 0 ≤ year ∧ year ≤ 9999 then .ok (.string text)
  else outOfRange kind text "year outside 0000-9999 has no ISO-8601 round-trip form"

/-- Writes a value as an attribute: numbers as decimal text, identifiers and instants as strings. -/
def write : ScalarValue → Except ConversionError Attribute
  | .null => .ok .null
  | .string s => .ok (.string s)
  | .bool b => .ok (.bool b)
  | .integer _ n => .ok (.number (toString n.1))
  | .real f x =>
      if x.isFinite then .ok (.number x.display)
      else outOfRange (.real f) x.display "non-finite numbers have no decimal text form"
  | .decimal d => .ok (.number d.display)
  | .uuid u => .ok (.string u.print)
  | .dateTime i => isoText .dateTime (i.clock .utc).date.year (Iso8601.printUtc i)
  | .dateTimeOffset i offset =>
      isoText .dateTimeOffset (i.clock offset).date.year (Iso8601.print i offset)

end Keyscan.Codec
