import Keyscan.Config
import Keyscan.Execution.Error
import Keyscan.Plan.Lowering
import Keyscan.Query.Error

/-!
Errors of queries, whichever part of their way they arise on.
-/

set_option autoImplicit false

namespace Keyscan

/-- An error of one of the parts. -/
inductive QueryError where
  | translation (e : TranslationError)
  | compiler (e : CompilerError)
  | conversion (e : ConversionError)
  | mapping (e : MappingError)
  | execution (e : ExecutionError)
  | config (e : ConfigError)
  deriving DecidableEq, Repr

namespace QueryError

/-- The code of the error underneath. -/
def code : QueryError → String
  | .translation e => e.code
  | .compiler e => e.code
  | .conversion e => e.code
  | .mapping e => e.code
  | .execution e => e.code
  | .config e => e.code

/-- The line that reports the error underneath. -/
def display : QueryError → String
  | .translation e => e.display
  | .compiler e => e.display
  | .conversion e => e.display
  | .mapping e => e.display
  | .execution e => e.display
  | .config e => e.display

/-- Whether the caller is at fault, and not query, data or store. -/
def isMisuse : QueryError → Bool
  | .compiler e => e.isMisuse
  | .execution e => e.isMisuse
  | _ => false

/-- Whether the query has a construct that is not supported. -/
def isUnsupported : QueryError → Bool
  | .translation e => e.isUnsupported
  | _ => false

end QueryError

end Keyscan
