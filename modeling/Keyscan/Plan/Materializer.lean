import Keyscan.Plan.Lowering
import Keyscan.Record
import Keyscan.Row
import Keyscan.Scalar.Codec

/-!
Materializers: what a bound plan comes down to, a list of fields each read from one attribute as one
kind. A record is turned into a whole row or into the error of its first field that cannot be read.
-/

set_option autoImplicit false

namespace Keyscan

/-- The fields of an entity, each with the attribute it is read from. -/
structure Materializer where
  entity : String
  fields : List ProjectedProperty
  deriving DecidableEq, Repr

namespace Materializer

/-- The stage named in messages. -/
def stage : String := "finalize"

/-- The field that reads an attribute of the record as a kind. No other expression is a field. -/
def fieldOfPlan (name : String) : Plan → Except CompilerError ProjectedProperty
  | .convert (.lookup (.parameter _) attributeName) kind nullable _ =>
      .ok ⟨name, attributeName, kind, nullable⟩
  | .convert (.lookup other _) _ _ _ => .error (.planShape stage other.nodeName)
  | .convert other _ _ _ => .error (.planShape stage other.nodeName)
  | other => .error (.planShape stage other.nodeName)

/-- The fields in order, up to the first that is none. -/
def fieldsOfPlans : List (String × Plan) → Except CompilerError (List ProjectedProperty)
  | [] => .ok []
  | (name, p) :: rest => do
      let field ← fieldOfPlan name p
      let more ← fieldsOfPlans rest
      .ok (field :: more)

/-- The materializer of a plan that constructs an entity from fields. -/
def ofPlan : Plan → Except CompilerError Materializer
  | .construct entity fields => (fieldsOfPlans fields).map fun fs => ⟨entity, fs⟩
  | other => .error (.planShape stage other.nodeName)

/-- Reads one field of a record. An error names the property and its attribute. -/
def readField (p : ProjectedProperty) (r : Record) : Except ConversionError ScalarValue :=
  (Codec.read p.kind p.nullable (r.get? p.attributeName)).mapError fun e =>
    e.withBinding p.property p.attributeName

/-- Reads the fields in order. -/
def readFields (r : Record) :
    List ProjectedProperty → Except ConversionError (List (String × ScalarValue))
  | [] => .ok []
  | p :: rest => do
      let value ← readField p r
      let more ← readFields r rest
      .ok ((p.property, value) :: more)

/-- The row of a record. -/
def materialize (m : Materializer) (r : Record) : Except ConversionError Row :=
  (readFields r m.fields).map fun fields => ⟨m.entity, fields⟩

end Materializer

end Keyscan
