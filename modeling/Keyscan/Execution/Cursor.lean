import Keyscan.Compiled.Basic
import Keyscan.Diagnostics.Journal
import Keyscan.Execution.Error
import Keyscan.Execution.ResumeToken

/-!
Cursors: one enumeration each over a compiled query. A cursor fetches a page when the page before is
used up and hands out its records one at a time, so that a bad record fails at its own position.

This module holds the single steps; Execution.Advance joins them. A step changes the cursor and the
diagnostics only, and no step but `acceptPage` changes the stored token or the number of pages.
-/

set_option autoImplicit false

namespace Keyscan

/-- How far an enumeration has come. -/
inductive CursorState where
  | notStarted
  | fetching
  | materializing
  | exhausted
  | failed
  | cancelled
  deriving DecidableEq, Repr

namespace CursorState

/-- The name of a state in reports. -/
def name : CursorState → String
  | .notStarted => "NOT_STARTED"
  | .fetching => "FETCHING"
  | .materializing => "MATERIALIZING"
  | .exhausted => "EXHAUSTED"
  | .failed => "FAILED"
  | .cancelled => "CANCELLED"

/-- The name of the state in the text of a cursor. -/
def label : CursorState → String
  | .notStarted => "NotStarted"
  | .fetching => "Fetching"
  | .materializing => "Materializing"
  | .exhausted => "Exhausted"
  | .failed => "Failed"
  | .cancelled => "Cancelled"

/-- Whether the enumeration is over. -/
def isTerminal : CursorState → Bool
  | .exhausted | .failed | .cancelled => true
  | .notStarted | .fetching | .materializing => false

end CursorState

/-- The settings of one enumeration. -/
structure CursorSettings where
  /-- The page size asked for; without one the store chooses. -/
  pageSize : Option Nat
  /-- Whether tokens are followed, or only the first page is read. -/
  autoPaginate : Bool
  deriving DecidableEq, Repr

/-- The store chooses the page size, and tokens are followed. -/
def CursorSettings.standard : CursorSettings := ⟨none, true⟩

/-- An enumeration under way. -/
structure Cursor where
  query : CompiledQuery
  settings : CursorSettings
  state : CursorState
  /-- The token for the next page. -/
  nextToken : Option String
  /-- The records of the last page that have not been handed out. -/
  buffer : List Record
  /-- The records handed out so far. -/
  position : Nat
  /-- The pages accepted so far. -/
  pages : Nat

namespace Cursor

/-- A cursor at the beginning of its query. -/
def start (query : CompiledQuery) (settings : CursorSettings) : Cursor :=
  ⟨query, settings, .notStarted, none, [], 0, 0⟩

/-- The cursor set to where a token was issued, which must be one of the same statement. -/
def resumeFrom (c : Cursor) (t : ResumeToken) : Except ExecutionError Cursor :=
  if t.fingerprint = c.query.fingerprint then .ok { c with nextToken := some t.token }
  else .error (.resumeMismatch c.query.table)

/-- The token for going on behind the last page. It does not cover records that are still to be
handed out. -/
def resumeToken? (c : Cursor) : Option ResumeToken :=
  c.nextToken.map fun token => ⟨c.query.fingerprint, token⟩

/-- The cursor as text. -/
def display (c : Cursor) : String :=
  "QueryCursor \x7b table: " ++ Text.quoted c.query.table ++ ", state: " ++ c.state.label ++
    ", next_token: " ++ c.nextToken.elim "None" (fun t => "Some(" ++ Text.quoted t ++ ")") ++
    s!", buffered: {c.buffer.length}, position: {c.position} \x7d"

/-! ### What comes next -/

/-- The step that a cursor takes next. -/
inductive Step where
  /-- The enumeration is over. -/
  | ended
  /-- Cancellation has been seen. -/
  | cancel
  /-- A page is to be fetched. -/
  | fetch
  /-- A record is handed out, and the others stay. -/
  | handOut (record : Record) (rest : List Record)
  /-- The page is used up, and another follows. -/
  | turn
  /-- The page is used up, and it was the last. -/
  | finish

/-- The next step, given whether cancellation has come. -/
def step (c : Cursor) (cancelled : Bool) : Step :=
  if c.state.isTerminal then .ended
  else if cancelled then .cancel
  else
    match c.state, c.buffer with
    | .materializing, record :: rest => .handOut record rest
    | .materializing, [] =>
        if c.nextToken.isSome && c.settings.autoPaginate then .turn else .finish
    | _, _ => .fetch

/-- The request for the next page. -/
def request (c : Cursor) : StatementRequest :=
  ⟨c.query.statement, c.nextToken, c.settings.pageSize⟩

/-! ### Steps -/

/-- Begins to fetch. -/
def beginFetch (c : Cursor) (d : Diagnostics) : Cursor × Diagnostics :=
  ({ c with state := .fetching },
    d.emit .queryExecuting
      [ ("statement", c.query.statement), ("table", c.query.table),
        ("next_token", c.nextToken.getD ""),
        ("page_size", c.settings.pageSize.elim "default" toString) ])

/-- Takes the page that was fetched. -/
def acceptPage (c : Cursor) (page : Page) (d : Diagnostics) : Cursor × Diagnostics :=
  ({ c with
      state := .materializing
      nextToken := page.nextToken
      buffer := c.buffer ++ page.records
      pages := c.pages + 1 },
    (d.count fun m => { m with roundTrips := m.roundTrips + 1 }).emit .roundTripCompleted
      [ ("table", c.query.table), ("records", toString page.records.length),
        ("has_next_token", toString page.nextToken.isSome) ])

/-- Gives up because the store failed. -/
def failFetch (c : Cursor) (e : StoreError) (d : Diagnostics) :
    ExecutionError × Cursor × Diagnostics :=
  (.storeFailed c.query.table e, { c with state := .failed },
    (d.count fun m => { m with enumerationsFailed := m.enumerationsFailed + 1 }).emit .storeFailed
      [("table", c.query.table), ("error", e.message)])

/-- Gives up because a record is no entity. -/
def failRecord (c : Cursor) (e : ConversionError) (d : Diagnostics) :
    ExecutionError × Cursor × Diagnostics :=
  (.materializationFailed e, { c with state := .failed, buffer := [] },
    (d.count fun m => { m with enumerationsFailed := m.enumerationsFailed + 1 }).emit
      .materializationFailed
      [ ("table", c.query.table), ("property", e.binding.elim "" Binding.property),
        ("attribute", e.binding.elim "" Binding.attributeName),
        ("position", e.position.elim "" toString), ("error", e.reason) ])

/-- Hands out a record: it becomes a row, or the enumeration fails at its position. -/
def handOut (c : Cursor) (record : Record) (rest : List Record) (d : Diagnostics) :
    Except ExecutionError Row × Cursor × Diagnostics :=
  let next := { c with buffer := rest, position := c.position + 1 }
  match c.query.materializer.materialize record with
  | .ok row =>
      (.ok row, next, d.count fun m => { m with recordsMaterialized := m.recordsMaterialized + 1 })
  | .error e =>
      let (error, next, d) :=
        next.failRecord ((e.withTable c.query.table).withPosition c.position) d
      (.error error, next, d)

/-- Goes on to the next page. -/
def turn (c : Cursor) : Cursor := { c with state := .fetching }

/-- Ends at the end of the last page. -/
def finish (c : Cursor) (d : Diagnostics) : Cursor × Diagnostics :=
  ({ c with state := .exhausted },
    (d.count fun m => { m with enumerationsCompleted := m.enumerationsCompleted + 1 }).emit
      .enumerationExhausted
      [ ("table", c.query.table), ("records", toString c.position),
        ("pages", toString c.pages) ])

/-- Ends because of cancellation. -/
def cancel (c : Cursor) (d : Diagnostics) : ExecutionError × Cursor × Diagnostics :=
  (.cancelled c.query.table, { c with state := .cancelled, buffer := [] },
    (d.count fun m => { m with enumerationsCancelled := m.enumerationsCancelled + 1 }).emit
      .enumerationCancelled
      [("table", c.query.table), ("position", toString c.position)])

end Cursor

end Keyscan
