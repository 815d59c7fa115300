import Keyscan.Execution.Cursor
import Keyscan.Execution.Strategy

/-!
Advancing a cursor to its next row, and runs of advances: to the end, as a list of items up to the
first error, and as a stream.

A store may answer empty pages with tokens for ever, so an advance within bounds takes the number of
steps that it may last; one that does not come to its end in them is `unfinished`. A run takes the
number of advances too. Over a store that tells how much it has ahead both numbers are computed.
-/

set_option autoImplicit false

namespace Keyscan

/-- The outcome of an advance. -/
inductive Advance (α : Type) where
  | item (x : α)
  | ended
  | failed (e : ExecutionError)
  /-- The caller has dropped the advance. -/
  | dropped
  | unfinished

/-- A cursor with the world it runs in. -/
structure Running (σ : Type) where
  cursor : Cursor
  world : World σ

/-- What the advances of an enumeration run with: a store, and a strategy for its round trips. -/
structure Executor (σ : Type) where
  client : StoreClient σ
  strategy : Strategy

namespace Executor

variable {σ α : Type}

/-- Fetches a page at a time: the outcome of an advance that ends here, or the time when the page was
accepted. -/
def fetch (x : Executor σ) (signals : Signals) (time : Nat) (r : Running σ) :
    Except (Advance Row) Nat × Running σ :=
  let (cursor, diagnostics) := r.cursor.beginFetch r.world.diagnostics
  match x.strategy.run x.client signals cursor.request time { r.world with diagnostics } with
  | (.answered (.ok page) time, w) =>
      let (cursor, diagnostics) := cursor.acceptPage page w.diagnostics
      (.ok time, ⟨cursor, { w with diagnostics }⟩)
  | (.answered (.error e) _, w) =>
      let (error, cursor, diagnostics) := cursor.failFetch e w.diagnostics
      (.error (.failed error), ⟨cursor, { w with diagnostics }⟩)
  | (.interrupted .cancelled, w) =>
      let (error, cursor, diagnostics) := cursor.cancel w.diagnostics
      (.error (.failed error), ⟨cursor, { w with diagnostics }⟩)
  | (.interrupted .dropped, w) => (.error .dropped, ⟨cursor, w⟩)

/-- Steps from a time on, at most so many, up to the next row or the end. No time passes between the
acceptance of a page and the step behind it. -/
def advanceFrom (x : Executor σ) (signals : Signals) :
    (steps time : Nat) → Running σ → Advance Row × Running σ
  | 0, _, r => (.unfinished, r)
  | steps + 1, time, r =>
      match r.cursor.step (signals.cancelledBefore time) with
      | .ended => (.ended, r)
      | .cancel =>
          let (error, cursor, diagnostics) := r.cursor.cancel r.world.diagnostics
          (.failed error, ⟨cursor, { r.world with diagnostics }⟩)
      | .fetch =>
          match x.fetch signals time r with
          | (.ok time, r) => advanceFrom x signals steps time r
          | (.error outcome, r) => (outcome, r)
      | .handOut record rest =>
          let (result, cursor, diagnostics) := r.cursor.handOut record rest r.world.diagnostics
          (match result with
            | .ok row => .item row
            | .error e => .failed e,
            ⟨cursor, { r.world with diagnostics }⟩)
      | .turn => advanceFrom x signals steps time { r with cursor := r.cursor.turn }
      | .finish =>
          let (cursor, diagnostics) := r.cursor.finish r.world.diagnostics
          (.ended, ⟨cursor, { r.world with diagnostics }⟩)

/-- Advances to the next row. -/
def nextWithin (x : Executor σ) (signals : Signals) (steps : Nat) (r : Running σ) :
    Advance Row × Running σ :=
  x.advanceFrom signals steps 0 r

/-- Advances to the next row and converts it. A row that cannot be converted fails the enumeration at
its record's position. -/
def nextAsWithin (x : Executor σ) (convert : Row → Except ConversionError α) (signals : Signals)
    (steps : Nat) (r : Running σ) : Advance α × Running σ :=
  match x.nextWithin signals steps r with
  | (.item row, r) =>
      match convert row with
      | .ok y => (.item y, r)
      | .error e =>
          let placed :=
            (e.withTable r.cursor.query.table).withPosition (r.cursor.position - 1)
          let (error, cursor, diagnostics) := r.cursor.failRecord placed r.world.diagnostics
          (.failed error, ⟨cursor, { r.world with diagnostics }⟩)
  | (.ended, r) => (.ended, r)
  | (.failed e, r) => (.failed e, r)
  | (.dropped, r) => (.dropped, r)
  | (.unfinished, r) => (.unfinished, r)

/-! ### Runs within bounds -/

/-- The outcomes of advances up to the end, which an error does not bring by itself. -/
def drainWithin (x : Executor σ) (convert : Row → Except ConversionError α) (signals : Signals)
    (steps : Nat) : Nat → Running σ → List (Except ExecutionError α) × Running σ
  | 0, r => ([], r)
  | advances + 1, r =>
      match x.nextAsWithin convert signals steps r with
      | (.item y, r) =>
          let (more, r) := drainWithin x convert signals steps advances r
          (.ok y :: more, r)
      | (.failed e, r) =>
          let (more, r) := drainWithin x convert signals steps advances r
          (.error e :: more, r)
      | (_, r) => ([], r)

/-- All items, or the first error. The signals of each advance may depend on how many items have been
received before it. -/
def collectWithin (x : Executor σ) (convert : Row → Except ConversionError α)
    (signals : Nat → Signals) (steps : Nat) :
    Nat → Nat → Running σ → Except ExecutionError (List α) × Running σ
  | 0, _, r => (.ok [], r)
  | advances + 1, received, r =>
      match x.nextAsWithin convert (signals received) steps r with
      | (.item y, r) =>
          let (more, r) := collectWithin x convert signals steps advances (received + 1) r
          (more.map (y :: ·), r)
      | (.failed e, r) => (.error e, r)
      | (_, r) => (.ok [], r)

/-- The items of a stream: it ends at the end or behind the first error. The signals come as in
`collectWithin`. -/
def streamWithin (x : Executor σ) (convert : Row → Except ConversionError α)
    (signals : Nat → Signals) (steps : Nat) :
    Nat → Nat → Running σ → List (Except ExecutionError α) × Running σ
  | 0, _, r => ([], r)
  | advances + 1, received, r =>
      match x.nextAsWithin convert (signals received) steps r with
      | (.item y, r) =>
          let (more, r) := streamWithin x convert signals steps advances (received + 1) r
          (.ok y :: more, r)
      | (.failed e, r) => ([.error e], r)
      | (_, r) => ([], r)

/-! ### Runs over stores that end

The bounds come from what the store has ahead, so they do not cut off a run over a store that keeps
its promise. -/

/-- The steps that an advance can take: two for a page without records, and the end. -/
def stepBound (x : Executor σ) (r : Running σ) : Nat := 2 * x.client.ahead r.world.store + 4

/-- The advances that a run can take: one for each record, one for an error, and the end. -/
def advanceBound (x : Executor σ) (r : Running σ) : Nat :=
  r.cursor.buffer.length + x.client.ahead r.world.store + 3

/-- Advances to the next row. -/
def next (x : Executor σ) (signals : Signals) (r : Running σ) : Advance Row × Running σ :=
  x.nextWithin signals (x.stepBound r) r

/-- Advances to the next row and converts it. -/
def nextAs (x : Executor σ) (convert : Row → Except ConversionError α) (signals : Signals)
    (r : Running σ) : Advance α × Running σ :=
  x.nextAsWithin convert signals (x.stepBound r) r

/-- The outcomes of all advances up to the end. -/
def drain (x : Executor σ) (convert : Row → Except ConversionError α) (signals : Signals)
    (r : Running σ) : List (Except ExecutionError α) × Running σ :=
  x.drainWithin convert signals (x.stepBound r) (x.advanceBound r) r

/-- All items, or the first error. -/
def collect (x : Executor σ) (convert : Row → Except ConversionError α) (signals : Signals)
    (r : Running σ) : Except ExecutionError (List α) × Running σ :=
  x.collectWithin convert (fun _ => signals) (x.stepBound r) (x.advanceBound r) 0 r

/-- The items of a stream. -/
def stream (x : Executor σ) (convert : Row → Except ConversionError α) (signals : Nat → Signals)
    (r : Running σ) : List (Except ExecutionError α) × Running σ :=
  x.streamWithin convert signals (x.stepBound r) (x.advanceBound r) 0 r

end Executor

end Keyscan
