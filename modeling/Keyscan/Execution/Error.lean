import Keyscan.Scalar.Conversion
import Keyscan.Store.Protocol

/-!
Why an enumeration fails.
-/

set_option autoImplicit false

namespace Keyscan

/-- Why an enumeration gives up, or cannot begin. -/
inductive ExecutionError where
  /-- The store failed, and the request is not sent again. -/
  | storeFailed (table : String) (error : StoreError)
  /-- A record is no entity; the conversion error names table and position. -/
  | materializationFailed (error : ConversionError)
  | cancelled (table : String)
  /-- Enumerating while blocking is not offered. -/
  | syncUnsupported
  /-- The resume token belongs to another statement. -/
  | resumeMismatch (table : String)
  deriving DecidableEq, Repr

namespace ExecutionError

/-- The stable code of an error. -/
def code : ExecutionError → String
  | .storeFailed _ _ => "AERO_EXECUTION_STORE_FAILED"
  | .materializationFailed _ => "AERO_EXECUTION_MATERIALIZATION_FAILED"
  | .cancelled _ => "AERO_EXECUTION_CANCELLED"
  | .syncUnsupported => "AERO_EXECUTION_SYNC_UNSUPPORTED"
  | .resumeMismatch _ => "AERO_EXECUTION_RESUME_MISMATCH"

/-- What failed, with the text of the error underneath. -/
def message : ExecutionError → String
  | .storeFailed table error => s!"store request for table '{table}' failed: {error.display}"
  | .materializationFailed error => s!"record could not be materialized: {error.display}"
  | .cancelled table => s!"enumeration over table '{table}' was cancelled"
  | .syncUnsupported => "synchronous enumeration is not supported; use the asynchronous form"
  | .resumeMismatch table =>
      "resume token was issued for a different statement than the query over table " ++
        s!"'{table}'"

/-- Whether the caller is at fault, and not data or store. -/
def isMisuse : ExecutionError → Bool
  | .syncUnsupported | .resumeMismatch _ => true
  | _ => false

/-- Whether the enumeration was cancelled. -/
def isCancelled : ExecutionError → Bool
  | .cancelled _ => true
  | _ => false

/-- The class of an error in reports. -/
def severityName (e : ExecutionError) : String := if e.isMisuse then "MISUSE" else "ERROR"

/-- The table that was read, where it is known. -/
def table? : ExecutionError → Option String
  | .storeFailed table _ | .cancelled table | .resumeMismatch table => some table
  | .materializationFailed error => error.table
  | .syncUnsupported => none

/-- The conversion error underneath. -/
def conversion? : ExecutionError → Option ConversionError
  | .materializationFailed error => some error
  | _ => none

/-- The store error underneath. -/
def storeError? : ExecutionError → Option StoreError
  | .storeFailed _ error => some error
  | _ => none

/-- The text of the error underneath. -/
def cause? : ExecutionError → Option String
  | .materializationFailed error => some error.display
  | .storeFailed _ error => some error.display
  | _ => none

/-- The line that reports an error. -/
def display (e : ExecutionError) : String := s!"[{e.severityName}] {e.code}: {e.message}"

end ExecutionError

end Keyscan
