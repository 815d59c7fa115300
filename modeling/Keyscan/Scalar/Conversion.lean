import Keyscan.Scalar.Kind
import Keyscan.Text.Quoted

/-!
Failures of conversions between attributes and scalars, with what is needed to find the record.
-/

set_option autoImplicit false

namespace Keyscan

/-- What went wrong in a conversion. -/
inductive ConversionFault where
  /-- The text is none of the kind. -/
  | malformed (text reason : String)
  /-- The payload is of another shape, or the value of another kind. -/
  | wrongShape (observed : String)
  /-- There is no attribute, and the kind has no default. -/
  | missing
  /-- The value is beyond the kind. -/
  | outOfRange (text reason : String)
  deriving DecidableEq, Repr

/-- A property and the attribute that it is read from. -/
structure Binding where
  property : String
  attributeName : String
  deriving DecidableEq, Repr

/-- A failed conversion, and where it failed as far as that is known. -/
structure ConversionError where
  fault : ConversionFault
  kind : ScalarKind
  binding : Option Binding
  table : Option String
  position : Option Nat
  deriving DecidableEq, Repr

namespace ConversionError

/-- A failure that is not yet placed. -/
def of (fault : ConversionFault) (kind : ScalarKind) : ConversionError :=
  ⟨fault, kind, none, none, none⟩

/-- The stable code of a failure. -/
def code (e : ConversionError) : String :=
  match e.fault with
  | .malformed _ _ => "AERO_CONVERSION_MALFORMED"
  | .wrongShape _ => "AERO_CONVERSION_WRONG_SHAPE"
  | .missing => "AERO_CONVERSION_MISSING"
  | .outOfRange _ _ => "AERO_CONVERSION_OUT_OF_RANGE"

/-- The payload or shape that was met. -/
def observed (e : ConversionError) : String :=
  match e.fault with
  | .malformed text _ => Text.quoted text
  | .wrongShape observed => observed
  | .missing => "absent"
  | .outOfRange text _ => Text.quoted text

/-- Why what was met is not of the kind. -/
def reason (e : ConversionError) : String :=
  match e.fault with
  | .malformed _ reason => reason
  | .wrongShape _ => s!"expected {e.kind.wireShape} payload"
  | .missing => "attribute is required for this kind"
  | .outOfRange _ reason => reason

/-- Names the property that was being read, and its attribute. -/
def withBinding (e : ConversionError) (property attributeName : String) : ConversionError :=
  { e with binding := some ⟨property, attributeName⟩ }

/-- Names the table that the record came from. -/
def withTable (e : ConversionError) (table : String) : ConversionError :=
  { e with table := some table }

/-- Gives the position of the record, counted from zero. -/
def withPosition (e : ConversionError) (position : Nat) : ConversionError :=
  { e with position := some position }

/-- The line that reports a failure. -/
def display (e : ConversionError) : String :=
  s!"[ERROR] {e.code}: cannot convert {e.observed} to {e.kind.name} ({e.reason})" ++
    (e.binding.elim "" fun b => s!" [property '{b.property}' <- attribute '{b.attributeName}']") ++
    (e.table.elim "" fun t => s!" [table '{t}']") ++
    (e.position.elim "" fun p => s!" [record #{p}]")

end ConversionError

end Keyscan
