import Keyscan.Proofs.Execution.Recording

/-!
What an enumeration can do, said once. `RoundTrip` lists what passes between a strategy and a store
while one request is carried out, and `Cursor.Moves` what one step of an advance makes of a cursor,
what it adds to the history, and whether it returns. `advanceFrom_moves` shows that every step of a
recorded advance is such a move.

A move that needs a signal says so, so that it can be left out where none comes.
-/

set_option autoImplicit false

namespace Keyscan

variable {σ : Type}

/-! ### Attempts -/

namespace StoreClient

variable (client : StoreClient σ) {signals : Signals} (request : StatementRequest) {time : Nat}
  (w : World (Recorded σ))

/-- The time that an attempt waits for its answer. -/
def waits (client : StoreClient σ) (request : StatementRequest) (w : World (Recorded σ)) : Nat :=
  client.recorded.latency (client.recorded.receive request w.store)

/-- An attempt whose wait is not interrupted brings the answer. -/
theorem attempt_whole
    (whole : signals.interruption? time (client.waits request w) = none) :
    client.recorded.attempt signals request time w =
      (.answered (client.execute request w.store.store).1 (time + client.waits request w),
        ⟨⟨(client.execute request w.store.store).2, w.store.history ++
          [.sent request, .answered (client.execute request w.store.store).1]⟩, w.diagnostics⟩) := by
  rw [waits] at whole
  simp only [attempt, whole]
  simp only [recorded, execute, List.append_assoc]
  rfl

/-- An attempt whose wait is interrupted brings none. -/
theorem attempt_interrupted {i : Interruption}
    (comes : signals.interruption? time (client.waits request w) = some i) :
    client.recorded.attempt signals request time w =
      (.interrupted i, ⟨⟨client.receive request w.store.store,
        w.store.history ++ [.sent request]⟩, w.diagnostics⟩) := by
  rw [waits] at comes
  simp only [attempt, comes]
  rfl

end StoreClient

/-! ### Signals that are to come -/

namespace Signals

/-- Whether a signal is to come at all. -/
def Comes (s : Signals) : Interruption → Prop
  | .cancelled => s.cancelTime? ≠ none
  | .dropped => s.dropAfter ≠ none

/-- Cancellation that has come was to come. -/
theorem comes_of_cancelledBefore {s : Signals} {time : Nat}
    (come : s.cancelledBefore time = true) : s.Comes .cancelled := by
  intro never
  cases before : s.cancelled with
  | true => simp [cancelTime?, before] at never
  | false => simp_all [cancelTime?, cancelledBefore]

/-- A wait is only interrupted by a signal that was to come. -/
theorem comes_of_interruption {s : Signals} {start wait : Nat} {i : Interruption}
    (interrupted : s.interruption? start wait = some i) : s.Comes i := by
  have cancelled {due c : Nat} (here : s.cancelTime?.filter (· < due) = some c) :
      s.Comes .cancelled := fun never => by
    rw [never] at here
    cases here
  have dropped {due d : Nat} (here : s.dropAfter.filter (· < due) = some d) :
      s.Comes .dropped := fun never => by
    rw [never] at here
    cases here
  simp only [interruption?] at interrupted
  split at interrupted
  · cases interrupted
  · split at interrupted
    next => cases interrupted
    next c here _ =>
      cases interrupted
      exact cancelled here
    next d _ here =>
      cases interrupted
      exact dropped here
    next c d first second =>
      split at interrupted <;> cases interrupted
      · exact cancelled first
      · exact dropped second

end Signals

/-! ### Round trips -/

/-- What passes while a request is carried out, and how that ends. The same request is sent each time,
and only a failure is answered by sending it again. -/
inductive RoundTrip (s : Strategy) (signals : Signals) (request : StatementRequest) :
    TripOutcome → History → Prop
  | accepted (page : Page) (time : Nat) :
      RoundTrip s signals request (.answered (.ok page) time)
        [.sent request, .answered (.ok page)]
  | failed (e : StoreError) (attempts time : Nat) :
      RoundTrip s signals request (.answered (.error (s.handOn attempts e)) time)
        [.sent request, .answered (.error e)]
  /-- A signal comes before the answer. -/
  | unanswered {i : Interruption} (start wait : Nat)
      (comes : signals.interruption? start wait = some i) :
      RoundTrip s signals request (.interrupted i) [.sent request]
  /-- A signal comes in the pause behind a failure. -/
  | paused {i : Interruption} (e : StoreError) (start wait : Nat)
      (comes : signals.interruption? start wait = some i) :
      RoundTrip s signals request (.interrupted i) [.sent request, .answered (.error e)]
  | again {outcome : TripOutcome} {more : History} (e : StoreError)
      (trip : RoundTrip s signals request outcome more) :
      RoundTrip s signals request outcome (.sent request :: .answered (.error e) :: more)

/-- What one attempt adds to the history. -/
theorem StoreClient.attempt_recorded (client : StoreClient σ) (signals : Signals)
    (request : StatementRequest) (time : Nat) (w : World (Recorded σ)) :
    (∃ i store, signals.interruption? time (client.latency store) = some i ∧
      client.recorded.attempt signals request time w =
        (.interrupted i, ⟨⟨store, w.store.history ++ [.sent request]⟩, w.diagnostics⟩)) ∨
    ∃ answer later store,
      client.recorded.attempt signals request time w =
        (.answered answer later,
          ⟨⟨store, w.store.history ++ [.sent request, .answered answer]⟩, w.diagnostics⟩) := by
  simp only [attempt, recorded]
  cases comes : signals.interruption? time
      (client.latency (client.receive request w.store.store)) with
  | some i => exact .inl ⟨i, _, comes, rfl⟩
  | none => exact .inr ⟨_, _, _, by rw [List.append_assoc]; rfl⟩

/-- What passes while the recorded store is asked is a round trip. -/
theorem Strategy.trip_recorded (s : Strategy) (client : StoreClient σ) (signals : Signals)
    (request : StatementRequest) (repetitions attempts time : Nat) (w : World (Recorded σ)) :
    ∃ block,
      (s.trip client.recorded signals request repetitions attempts time w).2.store.history =
        w.store.history ++ block ∧
      RoundTrip s signals request
        (s.trip client.recorded signals request repetitions attempts time w).1 block := by
  induction repetitions generalizing attempts time w with
  | zero =>
      rw [trip]
      obtain ⟨i, store, comes, attempt⟩ | ⟨answer, later, store, attempt⟩ :=
        client.attempt_recorded signals request time w
      · rw [attempt]
        exact ⟨_, rfl, .unanswered _ _ comes⟩
      · rw [attempt]
        cases answer with
        | error e => exact ⟨_, rfl, .failed e attempts later⟩
        | ok page => exact ⟨_, rfl, .accepted page later⟩
  | succ repetitions ih =>
      rw [trip]
      obtain ⟨i, store, comes, attempt⟩ | ⟨answer, later, store, attempt⟩ :=
        client.attempt_recorded signals request time w
      · rw [attempt]
        exact ⟨_, rfl, .unanswered _ _ comes⟩
      · rw [attempt]
        cases answer with
        | ok page => exact ⟨_, rfl, .accepted page later⟩
        | error e =>
            by_cases repeats : s.repeats e = true
            · cases comes : signals.interruption? later (s.pause attempts) with
              | some i =>
                  simp only [repeats, if_true, comes]
                  exact ⟨_, rfl, .paused e _ _ comes⟩
              | none =>
                  simp only [repeats, if_true, comes]
                  obtain ⟨block, added, trip⟩ := ih (attempts + 1) (later + s.pause attempts)
                    ⟨⟨store, w.store.history ++ [.sent request, .answered (.error e)]⟩,
                      s.reportRetry attempts e w.diagnostics⟩
                  exact ⟨_, by rw [added, List.append_assoc]; rfl, .again e trip⟩
            · simp only [repeats]
              exact ⟨_, rfl, .failed e attempts later⟩

/-! ### What a round trip adds to a history -/

/-- The pages that a round trip ends with, at most one. -/
def TripOutcome.pages : TripOutcome → List Page
  | .answered (.ok page) _ => [page]
  | _ => []

namespace RoundTrip

variable {s : Strategy} {signals : Signals} {request : StatementRequest} {outcome : TripOutcome}
  {block : History}

/-- Nothing is returned during a round trip. -/
theorem outcomes_eq (trip : RoundTrip s signals request outcome block) : block.outcomes = [] := by
  induction trip with
  | again e trip ih => exact ih
  | _ => rfl

theorem items_eq (trip : RoundTrip s signals request outcome block) : block.items = [] := by
  induction trip with
  | again e trip ih => exact ih
  | _ => rfl

theorem isOver_eq (trip : RoundTrip s signals request outcome block) : block.isOver = false := by
  induction trip with
  | again e trip ih => exact ih
  | _ => rfl

/-- A page is received exactly when the round trip ends with it. -/
theorem pages_eq (trip : RoundTrip s signals request outcome block) :
    block.pages = outcome.pages := by
  induction trip with
  | again e trip ih => exact ih
  | _ => rfl

/-- A round trip that fails ends with the store's last failure, handed on by the strategy. -/
theorem failure_eq {e : StoreError} {time : Nat}
    (trip : RoundTrip s signals request outcome block)
    (failed : outcome = .answered (.error e) time) :
    ∃ last attempts, block.answers.getLast? = some (.error last) ∧ e = s.handOn attempts last := by
  induction trip with
  | accepted page time => cases failed
  | failed last attempts later =>
      cases failed
      exact ⟨last, attempts, rfl, rfl⟩
  | unanswered start wait comes => cases failed
  | paused e start wait comes => cases failed
  | @again outcome more other trip ih =>
      obtain ⟨last, attempts, final, handed⟩ := ih failed
      refine ⟨last, attempts, ?_, handed⟩
      have answers : History.answers (.sent request :: .answered (.error other) :: more) =
          .error other :: History.answers more := rfl
      rw [answers, List.getLast?_cons, final]
      rfl

/-- A round trip is only interrupted by a signal that was to come. -/
theorem comes {i : Interruption} (trip : RoundTrip s signals request outcome block)
    (interrupted : outcome = .interrupted i) : signals.Comes i := by
  induction trip with
  | accepted page time => cases interrupted
  | failed e attempts time => cases interrupted
  | unanswered start wait during =>
      cases interrupted
      exact signals.comes_of_interruption during
  | paused e start wait during =>
      cases interrupted
      exact signals.comes_of_interruption during
  | again e trip ih => exact ih interrupted

end RoundTrip

/-! ### Moves of a cursor -/

/-- What becomes of a record that is handed out at a position. -/
def CompiledQuery.deliver (q : CompiledQuery) (position : Nat) (record : Record) :
    Except ExecutionError Row :=
  (q.materializer.materialize record).mapError fun e =>
    .materializationFailed ((e.withTable q.table).withPosition position)

/-- One step of an advance: from a cursor to a cursor, with what it adds to the history, and with the
outcome when the advance ends with it. -/
inductive Cursor.Moves (s : Strategy) (signals : Signals) (c : Cursor) :
    History → Option (Advance Row) → Cursor → Prop
  | ended (terminal : c.state.isTerminal = true) : Moves s signals c [] (some .ended) c
  | cancel (alive : c.state.isTerminal = false) (comes : signals.Comes .cancelled) :
      Moves s signals c [] (some (.failed (.cancelled c.query.table)))
        { c with state := .cancelled, buffer := [] }
  | accept (alive : c.state.isTerminal = false) (awaiting : c.state ≠ .materializing)
      {page : Page} {time : Nat} {block : History}
      (trip : RoundTrip s signals c.request (.answered (.ok page) time) block) :
      Moves s signals c block none
        { c with
          state := .materializing
          nextToken := page.nextToken
          buffer := c.buffer ++ page.records
          pages := c.pages + 1 }
  | failFetch (alive : c.state.isTerminal = false) (awaiting : c.state ≠ .materializing)
      {e : StoreError} {time : Nat} {block : History}
      (trip : RoundTrip s signals c.request (.answered (.error e) time) block) :
      Moves s signals c block (some (.failed (.storeFailed c.query.table e)))
        { c with state := .failed }
  | cancelFetch (alive : c.state.isTerminal = false) (awaiting : c.state ≠ .materializing)
      (comes : signals.Comes .cancelled) {block : History}
      (trip : RoundTrip s signals c.request (.interrupted .cancelled) block) :
      Moves s signals c block (some (.failed (.cancelled c.query.table)))
        { c with state := .cancelled, buffer := [] }
  | dropFetch (alive : c.state.isTerminal = false) (awaiting : c.state ≠ .materializing)
      (comes : signals.Comes .dropped) {block : History}
      (trip : RoundTrip s signals c.request (.interrupted .dropped) block) :
      Moves s signals c block (some .dropped) { c with state := .fetching }
  | row {record : Record} {rest : List Record} {row : Row} (ready : c.state = .materializing)
      (front : c.buffer = record :: rest) (read : c.query.deliver c.position record = .ok row) :
      Moves s signals c [] (some (.item row))
        { c with buffer := rest, position := c.position + 1 }
  | failRecord {record : Record} {rest : List Record} {e : ExecutionError}
      (ready : c.state = .materializing) (front : c.buffer = record :: rest)
      (read : c.query.deliver c.position record = .error e) :
      Moves s signals c [] (some (.failed e))
        { c with state := .failed, buffer := [], position := c.position + 1 }
  | turn (ready : c.state = .materializing) (empty : c.buffer = [])
      (more : c.nextToken.isSome = true ∧ c.settings.autoPaginate = true) :
      Moves s signals c [] none { c with state := .fetching }
  | finish (ready : c.state = .materializing) (empty : c.buffer = [])
      (last : ¬ (c.nextToken.isSome = true ∧ c.settings.autoPaginate = true)) :
      Moves s signals c [] (some .ended) { c with state := .exhausted }

/-- An advance is only given up for a drop that was to come. -/
theorem Cursor.Moves.comes_of_dropped {s : Strategy} {signals : Signals} {c next : Cursor}
    {block : History} (move : c.Moves s signals block (some .dropped) next) :
    signals.Comes .dropped := by
  cases move with
  | dropFetch alive awaiting comes trip => exact comes

/-! ### When a cursor takes which step -/

section Steps

variable {c : Cursor}

theorem Cursor.step_over (cancelled : Bool) (terminal : c.state.isTerminal = true) :
    c.step cancelled = .ended := by
  simp [step, terminal]

theorem Cursor.step_cancelled (alive : c.state.isTerminal = false) : c.step true = .cancel := by
  simp [step, alive]

theorem Cursor.step_awaiting (alive : c.state.isTerminal = false)
    (awaiting : c.state ≠ .materializing) : c.step false = .fetch := by
  cases state : c.state with
  | notStarted => simp [step, state, CursorState.isTerminal]
  | fetching => simp [step, state, CursorState.isTerminal]
  | materializing => exact absurd state awaiting
  | exhausted => simp [state, CursorState.isTerminal] at alive
  | failed => simp [state, CursorState.isTerminal] at alive
  | cancelled => simp [state, CursorState.isTerminal] at alive

theorem Cursor.step_front {record : Record} {rest : List Record} (ready : c.state = .materializing)
    (front : c.buffer = record :: rest) : c.step false = .handOut record rest := by
  simp [step, ready, front, CursorState.isTerminal]

theorem Cursor.step_empty (ready : c.state = .materializing) (empty : c.buffer = []) :
    c.step false = if c.nextToken.isSome && c.settings.autoPaginate then .turn else .finish := by
  simp [step, ready, empty, CursorState.isTerminal]

/-- A cursor fetches only as long as no cancellation has come. -/
theorem Cursor.quiet_of_fetch {cancelled : Bool} (step : c.step cancelled = .fetch) :
    cancelled = false := by
  cases cancelled with
  | false => rfl
  | true =>
      rw [Cursor.step] at step
      split at step <;> cases step

end Steps

/-! ### One step of an advance -/

/-- A page at the first attempt ends a round trip. -/
theorem Strategy.run_of_page (s : Strategy) {client : StoreClient σ} {signals : Signals}
    {request : StatementRequest} {time later : Nat} {w next : World σ} {page : Page}
    (attempt : client.attempt signals request time w = (.answered (.ok page) later, next)) :
    s.run client signals request time w = (.answered (.ok page) later, next) := by
  rw [run]
  cases s.ceiling request with
  | zero => rw [trip, attempt]
  | succ repetitions => rw [trip, attempt]

namespace Executor

/-- A page at the first attempt is accepted. -/
theorem fetch_of_page (x : Executor σ) {signals : Signals} {time later : Nat} {r : Running σ}
    {page : Page} {next : σ}
    (attempt : ∀ d, x.client.attempt signals r.cursor.request time ⟨r.world.store, d⟩ =
      (.answered (.ok page) later, ⟨next, d⟩)) :
    ∃ d, x.fetch signals time r =
      (.ok later,
        ⟨{ r.cursor with
            state := .materializing
            nextToken := page.nextToken
            buffer := r.cursor.buffer ++ page.records
            pages := r.cursor.pages + 1 }, next, d⟩) := by
  have run := x.strategy.run_of_page (attempt (r.cursor.beginFetch r.world.diagnostics).2)
  rw [fetch_eq, run]
  exact ⟨_, rfl⟩

section Steps

variable (x : Executor σ) {signals : Signals} (steps : Nat) {time : Nat} {r : Running σ}

theorem advanceFrom_over (signals : Signals) (time : Nat)
    (terminal : r.cursor.state.isTerminal = true) :
    x.advanceFrom signals (steps + 1) time r = (.ended, r) := by
  rw [advanceFrom, Cursor.step_over _ terminal]

theorem advanceFrom_cancelled (alive : r.cursor.state.isTerminal = false)
    (come : signals.cancelledBefore time = true) :
    ∃ d, x.advanceFrom signals (steps + 1) time r =
      (.failed (.cancelled r.cursor.query.table),
        ⟨{ r.cursor with state := .cancelled, buffer := [] }, r.world.store, d⟩) := by
  rw [advanceFrom, come, Cursor.step_cancelled alive]
  exact ⟨_, rfl⟩

variable (quiet : signals.cancelledBefore time = false)
include quiet

theorem advanceFrom_awaiting (alive : r.cursor.state.isTerminal = false)
    (awaiting : r.cursor.state ≠ .materializing) :
    x.advanceFrom signals (steps + 1) time r =
      match x.fetch signals time r with
      | (.ok time, r) => x.advanceFrom signals steps time r
      | (.error outcome, r) => (outcome, r) := by
  rewrite [advanceFrom, quiet, Cursor.step_awaiting alive awaiting]
  rfl

theorem advanceFrom_row {record : Record} {rest : List Record} {row : Row}
    (ready : r.cursor.state = .materializing) (front : r.cursor.buffer = record :: rest)
    (read : r.cursor.query.deliver r.cursor.position record = .ok row) :
    ∃ d, x.advanceFrom signals (steps + 1) time r =
      (.item row,
        ⟨{ r.cursor with buffer := rest, position := r.cursor.position + 1 },
          r.world.store, d⟩) := by
  rw [advanceFrom, quiet, Cursor.step_front ready front]
  simp only [Cursor.handOut]
  cases made : r.cursor.query.materializer.materialize record with
  | ok made =>
      rw [CompiledQuery.deliver, made] at read
      cases read
      exact ⟨_, rfl⟩
  | error e =>
      rw [CompiledQuery.deliver, made] at read
      cases read

theorem advanceFrom_failRecord {record : Record} {rest : List Record} {e : ExecutionError}
    (ready : r.cursor.state = .materializing) (front : r.cursor.buffer = record :: rest)
    (read : r.cursor.query.deliver r.cursor.position record = .error e) :
    ∃ d, x.advanceFrom signals (steps + 1) time r =
      (.failed e,
        ⟨{ r.cursor with state := .failed, buffer := [], position := r.cursor.position + 1 },
          r.world.store, d⟩) := by
  rw [advanceFrom, quiet, Cursor.step_front ready front]
  simp only [Cursor.handOut]
  cases made : r.cursor.query.materializer.materialize record with
  | ok made =>
      rw [CompiledQuery.deliver, made] at read
      cases read
  | error made =>
      rw [CompiledQuery.deliver, made] at read
      cases read
      exact ⟨_, rfl⟩

theorem advanceFrom_turn (ready : r.cursor.state = .materializing) (empty : r.cursor.buffer = [])
    (more : r.cursor.nextToken.isSome = true ∧ r.cursor.settings.autoPaginate = true) :
    x.advanceFrom signals (steps + 1) time r =
      x.advanceFrom signals steps time ⟨{ r.cursor with state := .fetching }, r.world⟩ := by
  rw [advanceFrom, quiet, Cursor.step_empty ready empty, if_pos (by simpa using more)]
  rfl

theorem advanceFrom_finish (ready : r.cursor.state = .materializing)
    (empty : r.cursor.buffer = [])
    (last : ¬ (r.cursor.nextToken.isSome = true ∧ r.cursor.settings.autoPaginate = true)) :
    ∃ d, x.advanceFrom signals (steps + 1) time r =
      (.ended, ⟨{ r.cursor with state := .exhausted }, r.world.store, d⟩) := by
  rw [advanceFrom, quiet, Cursor.step_empty ready empty, if_neg (by simpa using last)]
  exact ⟨_, rfl⟩

end Steps

end Executor

/-! ### Recorded advances -/

namespace Executor

/-- What a round trip has added stays in the history. -/
theorem settle_history (c : Cursor) (outcome : TripOutcome × World (Recorded σ)) :
    (settle c outcome).2.history = outcome.2.store.history := by
  obtain ⟨⟨_ | _, _⟩ | _ | _, _⟩ := outcome <;> rfl

/-- A fetch of the recorded store either accepts a page or ends the advance, as a move. -/
theorem fetch_moves (x : Executor σ) (signals : Signals) (time : Nat) (r : Running (Recorded σ))
    (alive : r.cursor.state.isTerminal = false) (awaiting : r.cursor.state ≠ .materializing) :
    ∃ block, (x.recorded.fetch signals time r).2.history = r.history ++ block ∧
      r.cursor.Moves x.strategy signals block
        (match (x.recorded.fetch signals time r).1 with
          | .ok _ => none
          | .error outcome => some outcome)
        (x.recorded.fetch signals time r).2.cursor := by
  obtain ⟨block, added, trip⟩ := x.strategy.trip_recorded x.client signals r.cursor.request
    (x.strategy.ceiling r.cursor.request) 1 time
    { r.world with diagnostics := (r.cursor.beginFetch r.world.diagnostics).2 }
  change (x.strategy.run x.client.recorded _ _ _ _).2.store.history = _ at added
  change RoundTrip _ _ _ (x.strategy.run x.client.recorded _ _ _ _).1 _ at trip
  rw [fetch_eq, recorded]
  generalize x.strategy.run x.client.recorded signals r.cursor.request time
    { r.world with diagnostics := (r.cursor.beginFetch r.world.diagnostics).2 } = result at *
  obtain ⟨outcome, w⟩ := result
  refine ⟨block, ?_⟩
  cases outcome with
  | answered answer later =>
      cases answer with
      | ok page => exact ⟨added, .accept alive awaiting trip⟩
      | error e => exact ⟨added, .failFetch alive awaiting trip⟩
  | interrupted i =>
      cases i with
      | cancelled => exact ⟨added, .cancelFetch alive awaiting (trip.comes rfl) trip⟩
      | dropped => exact ⟨added, .dropFetch alive awaiting (trip.comes rfl) trip⟩

/-- One step of a recorded advance is a move, and the advance goes on behind it unless it returns. -/
theorem advanceFrom_moves (x : Executor σ) (signals : Signals) (steps time : Nat)
    (r : Running (Recorded σ)) :
    ∃ block outcome later next,
      x.recorded.advanceFrom signals (steps + 1) time r =
        (match outcome with
          | some o => (o, next)
          | none => x.recorded.advanceFrom signals steps later next) ∧
      next.history = r.history ++ block ∧
      r.cursor.Moves x.strategy signals block outcome next.cursor := by
  cases terminal : r.cursor.state.isTerminal with
  | true =>
      exact ⟨[], some .ended, time, r, x.recorded.advanceFrom_over steps signals time terminal,
        (List.append_nil _).symm, .ended terminal⟩
  | false =>
  cases come : signals.cancelledBefore time with
  | true =>
      obtain ⟨d, result⟩ := x.recorded.advanceFrom_cancelled steps terminal come
      exact ⟨[], some _, time, _, result, (List.append_nil _).symm,
        .cancel terminal (signals.comes_of_cancelledBefore come)⟩
  | false =>
  by_cases ready : r.cursor.state = .materializing
  · cases front : r.cursor.buffer with
    | cons record rest =>
        cases read : r.cursor.query.deliver r.cursor.position record with
        | ok row =>
            obtain ⟨d, result⟩ := x.recorded.advanceFrom_row steps come ready front read
            exact ⟨[], some _, time, _, result, (List.append_nil _).symm, .row ready front read⟩
        | error e =>
            obtain ⟨d, result⟩ := x.recorded.advanceFrom_failRecord steps come ready front read
            exact ⟨[], some _, time, _, result, (List.append_nil _).symm,
              .failRecord ready front read⟩
    | nil =>
        by_cases more : r.cursor.nextToken.isSome = true ∧ r.cursor.settings.autoPaginate = true
        · exact ⟨[], none, time, _, x.recorded.advanceFrom_turn steps come ready front more,
            (List.append_nil _).symm, .turn ready front more⟩
        · obtain ⟨d, result⟩ := x.recorded.advanceFrom_finish steps come ready front more
          exact ⟨[], some _, time, _, result, (List.append_nil _).symm, .finish ready front more⟩
  · have result := x.recorded.advanceFrom_awaiting steps come terminal ready
    obtain ⟨block, added, move⟩ := x.fetch_moves signals time r terminal ready
    generalize x.recorded.fetch signals time r = fetched at result added move
    obtain ⟨outcome, next⟩ := fetched
    cases outcome with
    | ok later => exact ⟨block, none, later, next, result, added, move⟩
    | error o => exact ⟨block, some o, time, next, result, added, move⟩

end Executor

end Keyscan
