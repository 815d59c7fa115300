import Keyscan.Diagnostics.Log
import Keyscan.Diagnostics.Metrics
import Keyscan.SortedMap

/-!
Diagnostics: the events that were noticed, in order, and the counters. What a sink writes is a view of
the journal, so nothing that a query does depends on it.
-/

set_option autoImplicit false

namespace Keyscan

/-- An event with its fields. -/
structure Notice where
  event : Event
  fields : List (String × String)
  deriving DecidableEq, Repr

namespace Notice

/-- What a field of the notice holds. -/
def field? (n : Notice) (key : String) : Option String := Entries.get? key n.fields

/-- The log line of the notice. -/
def line (n : Notice) : String := Log.render n.event.severity n.event.name n.fields

end Notice

/-- Where notices go. -/
inductive Sink where
  /-- They are kept, and written nowhere. -/
  | recording
  /-- They are logged from a severity on, by severity or all to the error output. -/
  | logging (least : Severity) (errorOutputOnly : Bool)
  /-- They are dropped. -/
  | silent
  deriving DecidableEq, Repr

namespace Sink

/-- The sink of programs that say nothing else: from information on, by severity. -/
def standard : Sink := .logging .info false

/-- The sink of programs with an output of their own: from information on, to the error output. -/
def errorOutput : Sink := .logging .info true

/-- What the sink writes for a notice. -/
def write (s : Sink) (n : Notice) : Output :=
  match s with
  | .logging least errorOutputOnly =>
      if n.event.severity.rank < least.rank then .empty
      else if errorOutputOnly then ⟨"", n.line⟩
      else .bySeverity n.event.severity n.line
  | .recording | .silent => .empty

end Sink

/-- A sink, with all that has been noticed and counted. -/
structure Diagnostics where
  sink : Sink
  /-- The notices so far, in order; a silent sink leaves none. -/
  journal : List Notice
  metrics : Metrics
  deriving DecidableEq, Repr

namespace Diagnostics

/-- Diagnostics that have seen nothing yet. -/
def start (sink : Sink) : Diagnostics := ⟨sink, [], .zero⟩

/-- Takes note of an event. -/
def emit (d : Diagnostics) (event : Event) (fields : List (String × String)) : Diagnostics :=
  match d.sink with
  | .silent => d
  | _ => { d with journal := d.journal ++ [⟨event, fields⟩] }

/-- Changes the counters. -/
def count (d : Diagnostics) (change : Metrics → Metrics) : Diagnostics :=
  { d with metrics := change d.metrics }

/-- What the sink has written. -/
def output (d : Diagnostics) : Output :=
  d.journal.foldl (fun o n => o ++ d.sink.write n) .empty

/-- The counters as text. -/
def display (d : Diagnostics) : String :=
  "Diagnostics \x7b metrics: " ++ d.metrics.display ++ " \x7d"

end Diagnostics

end Keyscan
