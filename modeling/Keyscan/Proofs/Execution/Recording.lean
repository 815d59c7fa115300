import Keyscan.Execution.Advance

/-!
Enumerations under observation. `Executor.calls` is what a caller does: it asks for the next row again
and again, each time with signals of its own. `Executor.record` makes the same calls over a store that
writes down every request and every answer, and notes what each call returns in the same history.

Nothing depends on the history: without it a recorded advance is the advance.
-/

set_option autoImplicit false

namespace Keyscan

variable {σ : Type}

/-! ### Histories -/

/-- What passes between a caller, an enumeration and its store. -/
inductive Happening where
  | sent (request : StatementRequest)
  | answered (answer : Except StoreError Page)
  /-- A call for the next row has returned. -/
  | returned (outcome : Advance Row)

namespace Happening

def answer? : Happening → Option (Except StoreError Page)
  | .answered answer => some answer
  | _ => none

def page? : Happening → Option Page
  | .answered (.ok page) => some page
  | _ => none

def outcome? : Happening → Option (Advance Row)
  | .returned outcome => some outcome
  | _ => none

/-- The row or the error that the caller is given. -/
def item? : Happening → Option (Except ExecutionError Row)
  | .returned (.item row) => some (.ok row)
  | .returned (.failed e) => some (.error e)
  | _ => none

/-- Whether the caller is told that nothing more comes: by the end, or by an error. -/
def isLast : Happening → Bool
  | .returned .ended | .returned (.failed _) => true
  | _ => false

end Happening

/-- What has passed so far, in order. -/
abbrev History := List Happening

namespace History

/-- The answers that the store has given. -/
def answers (h : History) : List (Except StoreError Page) := h.filterMap Happening.answer?

/-- The pages among the answers; every one of them is accepted. -/
def pages (h : History) : List Page := h.filterMap Happening.page?

/-- The records of all pages. -/
def records (h : History) : List Record := h.pages.flatMap Page.records

/-- What the calls have returned. -/
def outcomes (h : History) : List (Advance Row) := h.filterMap Happening.outcome?

/-- The rows and errors that the calls have returned. -/
def items (h : History) : List (Except ExecutionError Row) := h.filterMap Happening.item?

/-- The token that the last page came with, or the one that the enumeration was resumed from. -/
def token (resume : Option String) (h : History) : Option String :=
  match h.pages.getLast? with
  | some page => page.nextToken
  | none => resume

/-- Whether there is a page to ask for: there is none behind a page without a token, and none but the
first without pagination. -/
def Continues (settings : CursorSettings) (h : History) : Prop :=
  ∀ page ∈ h.pages.getLast?, page.nextToken.isSome = true ∧ settings.autoPaginate = true

/-- Whether a call has returned the end or an error. -/
def isOver (h : History) : Bool := h.any Happening.isLast

section Append

variable (g h : History)

@[simp] theorem answers_append : (g ++ h).answers = g.answers ++ h.answers :=
  List.filterMap_append

@[simp] theorem pages_append : (g ++ h).pages = g.pages ++ h.pages := List.filterMap_append

@[simp] theorem records_append : (g ++ h).records = g.records ++ h.records := by
  simp [records]

@[simp] theorem outcomes_append : (g ++ h).outcomes = g.outcomes ++ h.outcomes :=
  List.filterMap_append

@[simp] theorem items_append : (g ++ h).items = g.items ++ h.items := List.filterMap_append

@[simp] theorem isOver_append : (g ++ h).isOver = (g.isOver || h.isOver) := List.any_append

end Append

section Returned

variable (h : History) (outcome : Advance Row)

@[simp] theorem answers_returned : (h ++ [Happening.returned outcome]).answers = h.answers := by
  simp [answers, Happening.answer?]

@[simp] theorem pages_returned : (h ++ [Happening.returned outcome]).pages = h.pages := by
  simp [pages, Happening.page?]

@[simp] theorem records_returned : (h ++ [Happening.returned outcome]).records = h.records := by
  rw [records, pages_returned, records]

@[simp] theorem outcomes_returned :
    (h ++ [Happening.returned outcome]).outcomes = h.outcomes ++ [outcome] :=
  outcomes_append h [.returned outcome]

@[simp] theorem isOver_returned :
    (h ++ [Happening.returned outcome]).isOver = (h.isOver || (Happening.returned outcome).isLast) := by
  simp [isOver]

end Returned

/-- A happening of a history with one more is the last, or one of those before. -/
theorem parts_of_concat {h before after : History} {x y : Happening}
    (parts : h ++ [x] = before ++ y :: after) :
    (h = before ∧ x = y) ∨ ∃ rest, h = before ++ y :: rest := by
  obtain rfl | ⟨rest, last, rfl⟩ := after.eq_nil_or_concat
  · obtain ⟨same, last⟩ := List.append_inj' parts rfl
    exact .inl ⟨same, List.singleton_inj.1 last⟩
  · rw [List.concat_eq_append, ← List.cons_append, ← List.append_assoc] at parts
    exact .inr ⟨rest, (List.append_inj' parts rfl).1⟩

end History

/-! ### Recording -/

/-- A store, and the history of an enumeration over it. -/
structure Recorded (σ : Type) where
  store : σ
  history : History

/-- The store that writes down the requests it receives and the answers it gives. -/
def StoreClient.recorded (client : StoreClient σ) : StoreClient (Recorded σ) where
  receive request s := ⟨client.receive request s.store, s.history ++ [.sent request]⟩
  latency s := client.latency s.store
  answer request s :=
    let (answer, store) := client.answer request s.store
    (answer, ⟨store, s.history ++ [.answered answer]⟩)
  ahead s := client.ahead s.store

/-- The same strategy over the recorded store. -/
def Executor.recorded (x : Executor σ) : Executor (Recorded σ) := ⟨x.client.recorded, x.strategy⟩

/-- The world without its history. -/
def World.forget (w : World (Recorded σ)) : World σ := ⟨w.store.store, w.diagnostics⟩

namespace Running

/-- An enumeration from which nothing has passed yet. -/
def observed (r : Running σ) : Running (Recorded σ) :=
  ⟨r.cursor, ⟨⟨r.world.store, []⟩, r.world.diagnostics⟩⟩

/-- The enumeration without its history. -/
def forget (r : Running (Recorded σ)) : Running σ := ⟨r.cursor, r.world.forget⟩

def history (r : Running (Recorded σ)) : History := r.world.store.history

/-- The enumeration with more added to its history. -/
def noting (r : Running (Recorded σ)) (more : History) : Running (Recorded σ) :=
  ⟨r.cursor, ⟨⟨r.world.store.store, r.world.store.history ++ more⟩, r.world.diagnostics⟩⟩

@[simp] theorem forget_observed (r : Running σ) : r.observed.forget = r := rfl

@[simp] theorem history_observed (r : Running σ) : r.observed.history = [] := rfl

@[simp] theorem cursor_observed (r : Running σ) : r.observed.cursor = r.cursor := rfl

@[simp] theorem forget_noting (r : Running (Recorded σ)) (more : History) :
    (r.noting more).forget = r.forget := rfl

@[simp] theorem history_noting (r : Running (Recorded σ)) (more : History) :
    (r.noting more).history = r.history ++ more := rfl

@[simp] theorem noting_nil (r : Running (Recorded σ)) : r.noting [] = r := by
  simp [noting]

@[simp] theorem noting_noting (r : Running (Recorded σ)) (some more : History) :
    (r.noting some).noting more = r.noting (some ++ more) := by
  simp [noting]

end Running

/-- One call for the next row: when its signals come, and how many steps it may take besides the
first. -/
structure Call where
  signals : Signals
  extra : Nat
  deriving DecidableEq, Repr

namespace Executor

/-- The outcomes of calls, one after the other. -/
def calls (x : Executor σ) : List Call → Running σ → List (Advance Row) × Running σ
  | [], r => ([], r)
  | call :: more, r =>
      let (outcome, r) := x.nextWithin call.signals (call.extra + 1) r
      let (outcomes, r) := calls x more r
      (outcome :: outcomes, r)

/-- One call over the recorded store. -/
def recordCall (x : Executor σ) (r : Running (Recorded σ)) (call : Call) : Running (Recorded σ) :=
  let (outcome, r) := x.recorded.nextWithin call.signals (call.extra + 1) r
  r.noting [.returned outcome]

/-- Calls over the recorded store. -/
def record (x : Executor σ) (calls : List Call) (r : Running (Recorded σ)) :
    Running (Recorded σ) :=
  calls.foldl x.recordCall r

end Executor

/-! ### What is recorded is what runs -/

/-- An attempt does not depend on the history. -/
theorem StoreClient.attempt_forget (client : StoreClient σ) (signals : Signals)
    (request : StatementRequest) (time : Nat) (w : World (Recorded σ)) :
    client.attempt signals request time w.forget =
      (client.recorded.attempt signals request time w).map id World.forget := by
  simp only [attempt, recorded, World.forget]
  cases signals.interruption? time (client.latency (client.receive request w.store.store)) <;> rfl

/-- A round trip does not depend on the history. -/
theorem Strategy.trip_forget (s : Strategy) (client : StoreClient σ) (signals : Signals)
    (request : StatementRequest) (repetitions attempts time : Nat) (w : World (Recorded σ)) :
    s.trip client signals request repetitions attempts time w.forget =
      (s.trip client.recorded signals request repetitions attempts time w).map id World.forget := by
  induction repetitions generalizing attempts time w with
  | zero =>
      rw [trip, trip, client.attempt_forget]
      rcases client.recorded.attempt signals request time w with ⟨(_ | _) | _, _⟩ <;> rfl
  | succ repetitions ih =>
      rw [trip, trip, client.attempt_forget]
      rcases client.recorded.attempt signals request time w with ⟨(⟨e | page, time⟩ | i), after⟩
      · by_cases repeats : s.repeats e = true
        · cases paused : signals.interruption? time (s.pause attempts) with
          | none =>
              have more := ih (attempts + 1) (time + s.pause attempts)
                { after with diagnostics := s.reportRetry attempts e after.diagnostics }
              simpa [repeats, paused, World.forget] using more
          | some i => simp [repeats, paused, World.forget]
        · simp [repeats]
      · rfl
      · rfl

/-- A round trip from its first request on does not depend on the history either. -/
theorem Strategy.run_forget (s : Strategy) (client : StoreClient σ) (signals : Signals)
    (request : StatementRequest) (time : Nat) (w : World (Recorded σ)) :
    s.run client signals request time w.forget =
      (s.run client.recorded signals request time w).map id World.forget :=
  s.trip_forget client signals request (s.ceiling request) 1 time w

namespace Executor

/-- What a fetch makes of a round trip's outcome. -/
def settle (c : Cursor) : TripOutcome × World σ → Except (Advance Row) Nat × Running σ
  | (.answered (.ok page) time, w) =>
      let (cursor, diagnostics) := c.acceptPage page w.diagnostics
      (.ok time, ⟨cursor, { w with diagnostics }⟩)
  | (.answered (.error e) _, w) =>
      let (error, cursor, diagnostics) := c.failFetch e w.diagnostics
      (.error (.failed error), ⟨cursor, { w with diagnostics }⟩)
  | (.interrupted .cancelled, w) =>
      let (error, cursor, diagnostics) := c.cancel w.diagnostics
      (.error (.failed error), ⟨cursor, { w with diagnostics }⟩)
  | (.interrupted .dropped, w) => (.error .dropped, ⟨c, w⟩)

/-- A fetch is a round trip and what is made of it. -/
theorem fetch_eq (x : Executor σ) (signals : Signals) (time : Nat) (r : Running σ) :
    x.fetch signals time r =
      settle (r.cursor.beginFetch r.world.diagnostics).1
        (x.strategy.run x.client signals r.cursor.request time
          { r.world with diagnostics := (r.cursor.beginFetch r.world.diagnostics).2 }) :=
  rfl

/-- A fetch does not depend on the history. -/
theorem fetch_forget (x : Executor σ) (signals : Signals) (time : Nat)
    (r : Running (Recorded σ)) :
    x.fetch signals time r.forget = (x.recorded.fetch signals time r).map id Running.forget := by
  let w : World (Recorded σ) :=
    { r.world with diagnostics := (r.cursor.beginFetch r.world.diagnostics).2 }
  have run := x.strategy.run_forget x.client signals r.cursor.request time w
  change settle (r.cursor.beginFetch r.world.diagnostics).1
      (x.strategy.run x.client signals r.cursor.request time w.forget) =
    (settle (r.cursor.beginFetch r.world.diagnostics).1
      (x.strategy.run x.client.recorded signals r.cursor.request time w)).map id Running.forget
  rw [run]
  rcases x.strategy.run x.client.recorded signals r.cursor.request time w with
    ⟨(⟨_ | _, _⟩ | _ | _), _⟩ <;> rfl

/-- An advance does not depend on the history. -/
theorem advanceFrom_forget (x : Executor σ) (signals : Signals) (steps time : Nat)
    (r : Running (Recorded σ)) :
    x.advanceFrom signals steps time r.forget =
      (x.recorded.advanceFrom signals steps time r).map id Running.forget := by
  induction steps generalizing time r with
  | zero => rfl
  | succ steps ih =>
      rw [advanceFrom, advanceFrom, x.fetch_forget]
      have cursor : r.forget.cursor = r.cursor := rfl
      rw [cursor]
      cases r.cursor.step (signals.cancelledBefore time) with
      | ended => rfl
      | cancel => rfl
      | fetch =>
          rcases x.recorded.fetch signals time r with ⟨_ | time, after⟩
          · rfl
          · exact ih time after
      | handOut record rest => rfl
      | turn => exact ih time { r with cursor := r.cursor.turn }
      | finish => rfl

end Executor

end Keyscan
