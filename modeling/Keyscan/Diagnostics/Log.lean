import Keyscan.Diagnostics.Event
import Keyscan.Json.Printer

/-!
Log lines: one JSON object a line, with the event first, its severity second, and then the fields in
the order of their keys. Fields with the same key keep the order in which they were given.
-/

set_option autoImplicit false

namespace Keyscan

namespace Log

/-- Fields in the order of their keys. -/
def sortFields (fields : List (String × String)) : List (String × String) :=
  fields.mergeSort fun x y => decide (x.1 ≤ y.1)

/-- The object that a line shows. -/
def toJson (severity : Severity) (event : String) (fields : List (String × String)) : Json :=
  .object
    (("event", .string event) :: ("severity", .string severity.name) ::
      (sortFields fields).map fun p => (p.1, .string p.2))

/-- One line, ended by a newline. -/
def render (severity : Severity) (event : String) (fields : List (String × String)) : String :=
  (toJson severity event fields).print ++ "\n"

end Log

/-- What has been written to the two outputs of a program. -/
structure Output where
  stdout : String
  stderr : String
  deriving DecidableEq, Repr

namespace Output

/-- Nothing has been written. -/
def empty : Output := ⟨"", ""⟩

/-- What is written first stays first, on either output. -/
def append (x y : Output) : Output := ⟨x.stdout ++ y.stdout, x.stderr ++ y.stderr⟩

instance : Append Output := ⟨append⟩

/-- A line on the output that its severity belongs to. -/
def bySeverity (severity : Severity) (line : String) : Output :=
  if severity.isError then ⟨"", line⟩ else ⟨line, ""⟩

end Output

end Keyscan
