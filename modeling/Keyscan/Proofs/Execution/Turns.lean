import Keyscan.Proofs.Execution.Moves

/-!
Advances cut into turns. An advance can be left wherever it waits for the store or for a delay to
pass, and others run meanwhile; `Enumeration.turn` is what happens between two such points, or less.
What comes when is decided from outside, so a turn does not know of time: a wait goes on, is cancelled,
or is dropped. A cancellation may come behind an accepted page too, before its first record is handed
out, where `Signals` let none come.

Every advance is a run of turns (`advanceFrom_turns`), whenever its signals come, so what is shown of
turns in any order holds of advances that take turns with each other.
-/

set_option autoImplicit false

namespace Keyscan

variable {σ : Type}

/-! ### Turns -/

/-- What an advance is held up by. -/
inductive Wait where
  /-- No advance is under way. -/
  | nothing
  /-- The answer to an attempt, with the repetitions that are left and the attempt's number. -/
  | answer (repetitions attempts : Nat)
  /-- The delay before an attempt. -/
  | pause (repetitions attempts : Nat)

/-- What can happen to an enumeration. A conversion into entities is known here by the rows that it
refuses. -/
inductive Turn where
  /-- The wait is over, or an advance begins. -/
  | go (fault : Row → Option ConversionError)
  | cancel
  /-- The caller drops the advance, if one is under way. -/
  | drop

/-- A cursor with its strategy, and what its advance is held up by. -/
structure Enumeration where
  strategy : Strategy
  cursor : Cursor
  wait : Wait

/-- A row that is refused fails the enumeration at its record's position. -/
def Running.checked (fault : Row → Option ConversionError) :
    Advance Row × Running σ → Advance Row × Running σ
  | (.item row, r) =>
      match fault row with
      | none => (.item row, r)
      | some e =>
          let placed := (e.withTable r.cursor.query.table).withPosition (r.cursor.position - 1)
          let (error, cursor, diagnostics) := r.cursor.failRecord placed r.world.diagnostics
          (.failed error, ⟨cursor, { r.world with diagnostics }⟩)
  | other => other

namespace Enumeration

/-- An enumeration that no advance of is under way. -/
def start (strategy : Strategy) (cursor : Cursor) : Enumeration := ⟨strategy, cursor, .nothing⟩

/-- The enumeration behind an advance that has returned. -/
def returned (e : Enumeration) (result : Advance Row × Running σ) :
    Option (Advance Row) × Enumeration × World σ :=
  (some result.1, start e.strategy result.2.cursor, result.2.world)

/-- The enumeration behind a fetch: the advance goes on with a page, or returns. -/
def fetched (e : Enumeration) :
    Except (Advance Row) Nat × Running σ → Option (Advance Row) × Enumeration × World σ
  | (.ok _, r) => (none, start e.strategy r.cursor, r.world)
  | (.error outcome, r) => e.returned (outcome, r)

/-- The enumeration behind a round trip. -/
def settled (e : Enumeration) (outcome : TripOutcome × World σ) :
    Option (Advance Row) × Enumeration × World σ :=
  e.fetched (Executor.settle e.cursor outcome)

/-- Sends the request for the next page. -/
def send (client : StoreClient σ) (repetitions attempts : Nat) (e : Enumeration) (w : World σ) :
    Enumeration × World σ :=
  (⟨e.strategy, e.cursor, .answer repetitions attempts⟩,
    { w with store := client.receive e.cursor.request w.store })

/-- Takes the answer to an attempt: it is final, or leads to a pause before the next attempt. -/
def receive (client : StoreClient σ) (repetitions attempts : Nat) (e : Enumeration) (w : World σ) :
    Option (Advance Row) × Enumeration × World σ :=
  let (answer, store) := client.answer e.cursor.request w.store
  match answer with
  | .ok page => e.settled (.answered (.ok page) 0, { w with store })
  | .error error =>
      if 0 < repetitions ∧ e.strategy.repeats error = true then
        (none, ⟨e.strategy, e.cursor, .pause (repetitions - 1) (attempts + 1)⟩,
          ⟨store, e.strategy.reportRetry attempts error w.diagnostics⟩)
      else
        e.settled (.answered (.error (e.strategy.handOn attempts error)) 0, { w with store })

/-- Takes one step of an advance that is not held up. -/
def proceed (client : StoreClient σ) (fault : Row → Option ConversionError) (cancelled : Bool)
    (e : Enumeration) (w : World σ) : Option (Advance Row) × Enumeration × World σ :=
  match e.cursor.step cancelled with
  | .ended => e.returned (.ended, ⟨e.cursor, w⟩)
  | .cancel => e.settled (.interrupted .cancelled, w)
  | .fetch =>
      let (cursor, diagnostics) := e.cursor.beginFetch w.diagnostics
      (none, send client (e.strategy.ceiling cursor.request) 1 (start e.strategy cursor)
        { w with diagnostics })
  | .handOut record rest =>
      let (result, cursor, diagnostics) := e.cursor.handOut record rest w.diagnostics
      let outcome : Advance Row :=
        match result with
        | .ok row => .item row
        | .error error => .failed error
      e.returned (Running.checked fault (outcome, ⟨cursor, { w with diagnostics }⟩))
  | .turn => (none, start e.strategy e.cursor.turn, w)
  | .finish =>
      let (cursor, diagnostics) := e.cursor.finish w.diagnostics
      e.returned (.ended, ⟨cursor, { w with diagnostics }⟩)

/-- One turn: what the advance returns, if it does, and what the enumeration and the world become. -/
def turn (client : StoreClient σ) (e : Enumeration) (w : World σ) :
    Turn → Option (Advance Row) × Enumeration × World σ
  | .go fault =>
      match e.wait with
      | .nothing => e.proceed client fault false w
      | .answer repetitions attempts => e.receive client repetitions attempts w
      | .pause repetitions attempts => (none, e.send client repetitions attempts w)
  | .cancel =>
      match e.wait with
      | .nothing => e.proceed client (fun _ => none) true w
      | .answer _ _ | .pause _ _ => e.settled (.interrupted .cancelled, w)
  | .drop =>
      match e.wait with
      | .nothing => (none, e, w)
      | .answer _ _ | .pause _ _ => e.settled (.interrupted .dropped, w)

/-- Turns, one after the other, with what they return. -/
def run (client : StoreClient σ) : List Turn → Enumeration → World σ →
    List (Advance Row) × Enumeration × World σ
  | [], e, w => ([], e, w)
  | t :: more, e, w =>
      let (outcome, e, w) := e.turn client w t
      let (outcomes, e, w) := run client more e w
      (outcome.toList ++ outcomes, e, w)

/-- What a turn returns, as a list of what turns return. -/
def listed (result : Option (Advance Row) × Enumeration × World σ) :
    List (Advance Row) × Enumeration × World σ :=
  (result.1.toList, result.2)

section Run

variable {client : StoreClient σ} {e e' : Enumeration} {w w' : World σ}

theorem run_cons (client : StoreClient σ) (t : Turn) (more : List Turn) (e : Enumeration)
    (w : World σ) :
    run client (t :: more) e w =
      ((e.turn client w t).1.toList ++
        (run client more (e.turn client w t).2.1 (e.turn client w t).2.2).1,
        (run client more (e.turn client w t).2.1 (e.turn client w t).2.2).2) :=
  rfl

theorem run_singleton (client : StoreClient σ) (t : Turn) (e : Enumeration) (w : World σ) :
    run client [t] e w = listed (e.turn client w t) := by
  rw [run_cons]
  exact Prod.ext (List.append_nil _) rfl

/-- Turns that return nothing come in front of others. -/
theorem run_quiet {t : Turn} (taken : e.turn client w t = (none, e', w')) (more : List Turn) :
    run client (t :: more) e w = run client more e' w' := by
  rw [run_cons, taken]
  rfl

theorem run_append {first : List Turn} {outcomes : List (Advance Row)}
    (ran : run client first e w = (outcomes, e', w')) (more : List Turn) :
    run client (first ++ more) e w =
      (outcomes ++ (run client more e' w').1, (run client more e' w').2) := by
  induction first generalizing e w outcomes with
  | nil =>
      cases ran
      rfl
  | cons t rest ih =>
      rw [run_cons] at ran
      obtain ⟨returned, behind⟩ := Prod.mk.inj ran
      rw [List.cons_append, run_cons, ih (Prod.ext rfl behind), ← returned, List.append_assoc]

end Run

end Enumeration

/-! ### Advances are runs of turns -/

/-- What is seen of an outcome: an advance that is not finished has returned nothing yet. -/
def Advance.seen {α : Type} : Advance α → List (Advance α)
  | .unfinished => []
  | other => [other]

namespace Enumeration

variable (client : StoreClient σ)

/-- The enumeration behind an advance, with what is seen of its outcome. -/
def advanced (strategy : Strategy) (result : Advance Row × Running σ) :
    List (Advance Row) × Enumeration × World σ :=
  (result.1.seen, start strategy result.2.cursor, result.2.world)

/-- The turn that ends a wait as a signal does. -/
def interrupting : Interruption → Turn
  | .cancelled => .cancel
  | .dropped => .drop

/-- How an attempt that waits for its answer goes on. -/
theorem turn_answer (fault : Row → Option ConversionError) (s : Strategy) (c : Cursor)
    (n a : Nat) (w : World σ) :
    turn client ⟨s, c, .answer n a⟩ w (.go fault) = receive client n a ⟨s, c, .answer n a⟩ w :=
  rfl

/-- A wait for an answer, or for a delay to pass, ends as the signal says. -/
theorem turn_interrupting (i : Interruption) (s : Strategy) (c : Cursor) (n a : Nat)
    (w : World σ) :
    turn client ⟨s, c, .answer n a⟩ w (interrupting i) =
        settled (start s c) (.interrupted i, w) ∧
      turn client ⟨s, c, .pause n a⟩ w (interrupting i) =
        settled (start s c) (.interrupted i, w) := by
  cases i <;> exact ⟨rfl, rfl⟩

/-- A page, or a failure that is not met by a repetition, is the end of a round trip. -/
theorem receive_final {s : Strategy} {c : Cursor} {n a : Nat} {w : World σ}
    {answer : Except StoreError Page} {store : σ}
    (answered : client.answer c.request w.store = (answer, store))
    (final : ∀ error, answer = .error error → ¬ (0 < n ∧ s.repeats error = true)) (time : Nat) :
    receive client n a ⟨s, c, .answer n a⟩ w =
      settled (start s c) (.answered (answer.mapError (s.handOn a)) time, { w with store }) := by
  rw [receive, answered]
  cases answer with
  | ok page => rfl
  | error error =>
      simp only [if_neg (final error rfl)]
      rfl

/-- A failure that is met by a repetition leads to a pause. -/
theorem receive_again {s : Strategy} {c : Cursor} {n a : Nat} {w : World σ} {error : StoreError}
    {store : σ} (answered : client.answer c.request w.store = (.error error, store))
    (repeats : s.repeats error = true) :
    receive client (n + 1) a ⟨s, c, .answer (n + 1) a⟩ w =
      (none, ⟨s, c, .pause n (a + 1)⟩, ⟨store, s.reportRetry a error w.diagnostics⟩) := by
  rw [receive, answered]
  exact if_pos ⟨Nat.succ_pos n, repeats⟩

/-- The outcome of an attempt: the store's answer, unless a signal comes before it. -/
theorem attempt_cases (signals : Signals) (request : StatementRequest) (time : Nat) (w : World σ) :
    (∃ i, client.attempt signals request time w =
      (.interrupted i, { w with store := client.receive request w.store })) ∨
    ∃ answer store later, client.answer request (client.receive request w.store) = (answer, store) ∧
      client.attempt signals request time w = (.answered answer later, { w with store }) := by
  unfold StoreClient.attempt
  cases comes : signals.interruption? time (client.latency (client.receive request w.store)) with
  | some i =>
      left
      exact ⟨i, by simp only [comes]⟩
  | none =>
      right
      refine ⟨_, _, time + client.latency (client.receive request w.store), rfl, ?_⟩
      simp only [comes]

/-- A round trip is a run of turns, from where its first attempt has been sent. -/
theorem trip_turns (s : Strategy) (c : Cursor) (signals : Signals) (n a time : Nat)
    (w : World σ) :
    ∃ turns, run client turns ⟨s, c, .answer n a⟩
        { w with store := client.receive c.request w.store } =
      listed (settled (start s c) (s.trip client signals c.request n a time w)) := by
  induction n generalizing a time w with
  | zero =>
      rcases attempt_cases client signals c.request time w with
        ⟨i, attempt⟩ | ⟨answer, store, later, answered, attempt⟩
      · refine ⟨[interrupting i], ?_⟩
        rw [run_singleton, (turn_interrupting client i s c 0 a _).1, Strategy.trip, attempt]
      · refine ⟨[.go fun _ => none], ?_⟩
        rw [run_singleton, turn_answer, Strategy.trip, attempt]
        rw [receive_final client answered (fun _ _ more => Nat.lt_irrefl 0 more.1) later]
        cases answer <;> rfl
  | succ n ih =>
      rcases attempt_cases client signals c.request time w with
        ⟨i, attempt⟩ | ⟨answer, store, later, answered, attempt⟩
      · refine ⟨[interrupting i], ?_⟩
        rw [run_singleton, (turn_interrupting client i s c (n + 1) a _).1, Strategy.trip, attempt]
      · rw [Strategy.trip, attempt]
        cases answer with
        | ok page =>
            refine ⟨[.go fun _ => none], ?_⟩
            rw [run_singleton, turn_answer, receive_final client answered (by simp) later]
            rfl
        | error error =>
            by_cases repeats : s.repeats error = true
            · have again : turn client ⟨s, c, .answer (n + 1) a⟩
                  { w with store := client.receive c.request w.store } (.go fun _ => none) = _ :=
                receive_again client answered repeats
              cases comes : signals.interruption? later (s.pause a) with
              | some i =>
                  refine ⟨[.go fun _ => none, interrupting i], ?_⟩
                  rw [run_quiet again, run_singleton, (turn_interrupting client i s c n _ _).2]
                  simp only [repeats, if_true, comes]
              | none =>
                  obtain ⟨turns, ran⟩ := ih (a + 1) (later + s.pause a)
                    ⟨store, s.reportRetry a error w.diagnostics⟩
                  refine ⟨(.go fun _ => none) :: (.go fun _ => none) :: turns, ?_⟩
                  rw [run_quiet again, run_quiet rfl, ran]
                  simp only [repeats, if_true, comes]
            · refine ⟨[.go fun _ => none], ?_⟩
              rw [run_singleton, turn_answer, receive_final client answered
                (fun e same more => by cases same; exact repeats more.2) later]
              simp only [repeats]
              rfl

/-- A fetch is a run of turns. -/
theorem fetch_turns (x : Executor σ) (fault : Row → Option ConversionError) (signals : Signals)
    (time : Nat) {c : Cursor} (step : c.step false = .fetch) (w : World σ) :
    ∃ turns, run x.client turns (start x.strategy c) w =
      listed ((start x.strategy c).fetched (x.fetch signals time ⟨c, w⟩)) := by
  obtain ⟨turns, ran⟩ := trip_turns x.client x.strategy (c.beginFetch w.diagnostics).1
    signals (x.strategy.ceiling c.request) 1 time
    { w with diagnostics := (c.beginFetch w.diagnostics).2 }
  have begun : (start x.strategy c).turn x.client w (.go fault) =
      (none, send x.client (x.strategy.ceiling c.request) 1
        (start x.strategy (c.beginFetch w.diagnostics).1)
        { w with diagnostics := (c.beginFetch w.diagnostics).2 }) := by
    change (start x.strategy c).proceed x.client fault false w = _
    rw [proceed, start, step]
    rfl
  refine ⟨.go fault :: turns, ?_⟩
  rw [run_quiet begun, Executor.fetch_eq]
  exact ran

/-- A turn that takes one step of an advance, given whether a cancellation has come. -/
def stepping (fault : Row → Option ConversionError) (cancelled : Bool) : Turn :=
  if cancelled then .cancel else .go fault

theorem turn_stepping (fault : Row → Option ConversionError) (cancelled : Bool) (s : Strategy)
    (c : Cursor) (w : World σ) :
    (start s c).turn client w (stepping fault cancelled) =
      (start s c).proceed client fault cancelled w := by
  cases cancelled with
  | false => rfl
  | true =>
      change (start s c).proceed client _ true w = _
      -- A cancelled step hands nothing out, so it does not matter what is refused.
      cases terminal : c.state.isTerminal with
      | true => simp only [proceed, start, Cursor.step_over _ terminal]
      | false => simp only [proceed, start, Cursor.step_cancelled terminal]

/-- A fetch that ends an advance fails it, or is dropped. -/
theorem fetch_error {x : Executor σ} {signals : Signals} {time : Nat} {r r' : Running σ}
    {outcome : Advance Row} (fetched : x.fetch signals time r = (.error outcome, r')) :
    (∃ e, outcome = .failed e) ∨ outcome = .dropped := by
  rw [Executor.fetch_eq] at fetched
  generalize x.strategy.run x.client signals r.cursor.request time _ = trip at fetched
  obtain ⟨⟨_ | _, _⟩ | _ | _, _⟩ := trip
  · cases fetched
    exact .inl ⟨_, rfl⟩
  · cases fetched
  · cases fetched
    exact .inl ⟨_, rfl⟩
  · cases fetched
    exact .inr rfl

/-- An advance is a run of turns, whenever its signals come. -/
theorem advanceFrom_turns (x : Executor σ) (fault : Row → Option ConversionError)
    (signals : Signals) (steps time : Nat) (c : Cursor) (w : World σ) :
    ∃ turns, run x.client turns (start x.strategy c) w =
      advanced x.strategy (Running.checked fault (x.advanceFrom signals steps time ⟨c, w⟩)) := by
  induction steps generalizing time c w with
  | zero => exact ⟨[], rfl⟩
  | succ steps ih =>
      have taken := turn_stepping x.client fault (signals.cancelledBefore time) x.strategy c w
      rw [Executor.advanceFrom]
      cases step : c.step (signals.cancelledBefore time) with
      | ended =>
          refine ⟨[stepping fault (signals.cancelledBefore time)], ?_⟩
          rw [run_singleton, taken]
          simp only [proceed, start, step]
          rfl
      | cancel =>
          refine ⟨[stepping fault (signals.cancelledBefore time)], ?_⟩
          rw [run_singleton, taken]
          simp only [proceed, start, step]
          rfl
      | fetch =>
          rw [Cursor.quiet_of_fetch step] at step
          obtain ⟨first, ran⟩ := fetch_turns x fault signals time step w
          cases fetched : x.fetch signals time ⟨c, w⟩ with
          | mk outcome r =>
              rw [fetched] at ran
              cases outcome with
              | ok later =>
                  obtain ⟨more, rest⟩ := ih later r.cursor r.world
                  refine ⟨first ++ more, ?_⟩
                  rw [run_append ran]
                  exact rest
              | error o =>
                  refine ⟨first, ?_⟩
                  rw [ran]
                  rcases fetch_error fetched with ⟨e, rfl⟩ | rfl <;> rfl
      | handOut record rest =>
          refine ⟨[stepping fault (signals.cancelledBefore time)], ?_⟩
          rw [run_singleton, taken]
          simp only [proceed, start, step]
          obtain ⟨result, cursor, d⟩ := c.handOut record rest w.diagnostics
          cases result with
          | error e => rfl
          | ok row =>
              simp only [Running.checked]
              cases fault row <;> rfl
      | turn =>
          obtain ⟨turns, ran⟩ := ih time c.turn w
          refine ⟨stepping fault (signals.cancelledBefore time) :: turns, ?_⟩
          simp only [proceed, start, step] at taken
          exact (run_quiet taken turns).trans ran
      | finish =>
          refine ⟨[stepping fault (signals.cancelledBefore time)], ?_⟩
          rw [run_singleton, taken]
          simp only [proceed, start, step]
          rfl

/-- The rows that a conversion refuses. -/
def refused {α : Type} (convert : Row → Except ConversionError α) (row : Row) :
    Option ConversionError :=
  match convert row with
  | .ok _ => none
  | .error e => some e

/-- Converting rows leaves what checking them leaves. -/
theorem nextAsWithin_checked {α : Type} (x : Executor σ)
    (convert : Row → Except ConversionError α) (signals : Signals) (steps : Nat) (r : Running σ) :
    (x.nextAsWithin convert signals steps r).2 =
      (Running.checked (refused convert) (x.nextWithin signals steps r)).2 := by
  rw [Executor.nextAsWithin]
  obtain ⟨outcome, after⟩ := x.nextWithin signals steps r
  cases outcome with
  | item row =>
      simp only [Running.checked, refused]
      cases convert row <;> rfl
  | ended | failed e | dropped | unfinished => rfl

/-- An advance with a conversion is a run of turns. -/
theorem nextAsWithin_turns {α : Type} (x : Executor σ)
    (convert : Row → Except ConversionError α) (signals : Signals) (steps : Nat) (c : Cursor)
    (w : World σ) :
    ∃ turns, (run x.client turns (start x.strategy c) w).2 =
      (start x.strategy (x.nextAsWithin convert signals steps ⟨c, w⟩).2.cursor,
        (x.nextAsWithin convert signals steps ⟨c, w⟩).2.world) := by
  obtain ⟨turns, ran⟩ := advanceFrom_turns x (refused convert) signals steps 0 c w
  refine ⟨turns, ?_⟩
  rw [ran, nextAsWithin_checked]
  rfl

/-- Where no row is refused nothing is changed by checking. -/
theorem checked_none (result : Advance Row × Running σ) :
    Running.checked (fun _ => none) result = result := by
  obtain ⟨outcome, r⟩ := result
  cases outcome <;> rfl

/-- Calls for the next row, one after the other, are a run of turns. -/
theorem calls_turns (x : Executor σ) (calls : List Call) (c : Cursor) (w : World σ) :
    ∃ turns, run x.client turns (start x.strategy c) w =
      ((x.calls calls ⟨c, w⟩).1.flatMap Advance.seen,
        start x.strategy (x.calls calls ⟨c, w⟩).2.cursor, (x.calls calls ⟨c, w⟩).2.world) := by
  induction calls generalizing c w with
  | nil => exact ⟨[], rfl⟩
  | cons call more ih =>
      obtain ⟨first, ran⟩ :=
        advanceFrom_turns x (fun _ => none) call.signals (call.extra + 1) 0 c w
      rw [checked_none] at ran
      rw [Executor.calls, Executor.nextWithin]
      generalize x.advanceFrom call.signals (call.extra + 1) 0 ⟨c, w⟩ = result at ran ⊢
      obtain ⟨outcome, r⟩ := result
      obtain ⟨rest, others⟩ := ih r.cursor r.world
      refine ⟨first ++ rest, ?_⟩
      rw [run_append ran, others]
      rfl

end Enumeration

end Keyscan
