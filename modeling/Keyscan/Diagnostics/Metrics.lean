import Keyscan.Json.Basic

/-!
Counters of what queries do. They only grow.
-/

set_option autoImplicit false

namespace Keyscan

/-- One counter for each thing that is counted. -/
structure Metrics where
  queriesTranslated : Nat
  queriesRejected : Nat
  compilations : Nat
  cacheHits : Nat
  roundTrips : Nat
  storeRetries : Nat
  recordsMaterialized : Nat
  enumerationsCompleted : Nat
  enumerationsFailed : Nat
  enumerationsCancelled : Nat
  deriving DecidableEq, Repr

namespace Metrics

def zero : Metrics := ⟨0, 0, 0, 0, 0, 0, 0, 0, 0, 0⟩

/-- The counters by name, in a fixed order. -/
def entries (m : Metrics) : List (String × Nat) :=
  [ ("queries_translated", m.queriesTranslated), ("queries_rejected", m.queriesRejected),
    ("compilations", m.compilations), ("cache_hits", m.cacheHits),
    ("round_trips", m.roundTrips), ("store_retries", m.storeRetries),
    ("records_materialized", m.recordsMaterialized),
    ("enumerations_completed", m.enumerationsCompleted),
    ("enumerations_failed", m.enumerationsFailed),
    ("enumerations_cancelled", m.enumerationsCancelled) ]

/-- The counters as an object. -/
def toJson (m : Metrics) : Json := .object (m.entries.map fun p => (p.1, .nat p.2))

/-- The counters as text. -/
def display (m : Metrics) : String :=
  "MetricsSnapshot \x7b " ++ ", ".intercalate (m.entries.map fun p => s!"{p.1}: {p.2}") ++ " \x7d"

end Metrics

end Keyscan
