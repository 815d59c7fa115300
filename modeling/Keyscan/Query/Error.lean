import Keyscan.Mapping.Basic

/-!
Why a query is rejected before anything is sent to a store.
-/

set_option autoImplicit false

namespace Keyscan

/-- Why an expression is rejected. -/
inductive TranslationError where
  /-- A construct beyond the full scan of one entity. -/
  | unsupported (construct detail : String)
  /-- A query, or a model of one, that makes no sense. -/
  | invalid (reason : String)
  /-- The mapping of the entity is not to be had. -/
  | mappingFailed (error : MappingError)
  deriving DecidableEq, Repr

namespace TranslationError

/-- The stable code of an error. -/
def code : TranslationError → String
  | .unsupported _ _ => "AERO_QUERY_UNSUPPORTED_OPERATION"
  | .invalid _ => "AERO_QUERY_INVALID"
  | .mappingFailed _ => "AERO_QUERY_MAPPING_FAILED"

/-- What is wrong, without the code. -/
def message : TranslationError → String
  | .unsupported construct detail => s!"Unsupported operation '{construct}': {detail}"
  | .invalid reason => reason
  | .mappingFailed error => error.display

/-- The construct that is not supported. -/
def construct? : TranslationError → Option String
  | .unsupported construct _ => some construct
  | _ => none

/-- Whether the expression goes beyond what is supported. -/
def isUnsupported (e : TranslationError) : Bool := e.construct?.isSome

/-- The line that reports an error. -/
def display (e : TranslationError) : String := s!"[REJECT] {e.code}: {e.message}"

end TranslationError

end Keyscan
