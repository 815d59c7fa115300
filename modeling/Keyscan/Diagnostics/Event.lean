/-!
Events: what can be observed of queries, each with a fixed severity.
-/

set_option autoImplicit false

namespace Keyscan

/-- How severe an event is, the least severe first. -/
inductive Severity where
  | trace
  | info
  | warn
  | error
  | fatal
  deriving DecidableEq, Repr

namespace Severity

/-- The name of a severity in log lines. -/
def name : Severity → String
  | .trace => "TRACE"
  | .info => "INFO"
  | .warn => "WARN"
  | .error => "ERROR"
  | .fatal => "FATAL"

/-- The rank of a severity, the least severe first. -/
def rank : Severity → Nat
  | .trace => 0
  | .info => 1
  | .warn => 2
  | .error => 3
  | .fatal => 4

/-- Whether log lines of the severity belong to the error output. -/
def isError (s : Severity) : Bool := Severity.error.rank ≤ s.rank

/-- Every severity, the least severe first. -/
def all : List Severity := [.trace, .info, .warn, .error, .fatal]

/-- The severity with a name. -/
def ofName? (name : String) : Option Severity := all.find? (·.name == name)

end Severity

/-- What can be noticed about a query. -/
inductive Event where
  | configLoaded
  | queryTranslated
  | queryRejected
  | queryCompiled
  | compiledQueryCacheHit
  | queryExecuting
  | roundTripCompleted
  | storeRetry
  | enumerationExhausted
  | enumerationCancelled
  | materializationFailed
  | storeFailed
  deriving DecidableEq, Repr

namespace Event

/-- The name of an event in log lines. -/
def name : Event → String
  | .configLoaded => "CONFIG_LOADED"
  | .queryTranslated => "QUERY_TRANSLATED"
  | .queryRejected => "QUERY_REJECTED"
  | .queryCompiled => "QUERY_COMPILED"
  | .compiledQueryCacheHit => "COMPILED_QUERY_CACHE_HIT"
  | .queryExecuting => "QUERY_EXECUTING"
  | .roundTripCompleted => "ROUND_TRIP_COMPLETED"
  | .storeRetry => "STORE_RETRY"
  | .enumerationExhausted => "ENUMERATION_EXHAUSTED"
  | .enumerationCancelled => "ENUMERATION_CANCELLED"
  | .materializationFailed => "MATERIALIZATION_FAILED"
  | .storeFailed => "STORE_FAILED"

/-- How severe an event is. Single requests and repeated lookups are only traced. -/
def severity : Event → Severity
  | .queryExecuting | .roundTripCompleted | .compiledQueryCacheHit => .trace
  | .queryRejected | .storeRetry | .enumerationCancelled => .warn
  | .materializationFailed | .storeFailed => .error
  | .configLoaded | .queryTranslated | .queryCompiled | .enumerationExhausted => .info

/-- Every event, from loading a configuration to the end of an enumeration. -/
def all : List Event :=
  [.configLoaded, .queryTranslated, .queryRejected, .queryCompiled, .compiledQueryCacheHit,
    .queryExecuting, .roundTripCompleted, .storeRetry, .enumerationExhausted,
    .enumerationCancelled, .materializationFailed, .storeFailed]

/-- The event with a name. -/
def ofName? (name : String) : Option Event := all.find? (·.name == name)

end Event

end Keyscan
