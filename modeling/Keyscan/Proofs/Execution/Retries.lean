import Keyscan.Proofs.Execution.Failures
import Keyscan.Proofs.Execution.Requests

/-!
Retries do not show. Over a store that fails as planned an enumeration with backoff does what it does
over the store without failures, as long as backoff overcomes the failures in front of each answer:
requests are repeated, the repetitions are counted, and that is all. At the first answer whose
failures backoff does not overcome the enumeration gives up, with all rows of the pages before
delivered, and keeps the token of the page that it could not fetch.

The two runs take the same steps, a fetch being one of them in either. `Together` relates them between
steps, and `GaveUp` says how the one with failures stands once it has given up.
-/

set_option autoImplicit false

namespace Keyscan

variable {σ : Type}

/-! ### The run without failures beside the run with them -/

/-- The two runs between steps: they differ in the failures ahead and behind, and in nothing else. -/
structure Together (retries base : Nat) (plan : List (List StoreError))
    (free : Running (Recorded σ)) (faulty : Running (Recorded (Faulty σ))) : Prop where
  /-- The failures so far have been overcome. -/
  overcome : ∀ errors ∈ plan.take free.history.requests.length, Overcomes retries errors
  cursor_eq : faulty.cursor = free.cursor
  store_eq : faulty.world.store.store =
    ⟨free.world.store.store, plan.drop free.history.requests.length⟩
  history_eq : faulty.history = free.history.withFailures plan
  beside : Diagnostics.Beside (base + free.history.failureCount plan) free.world.diagnostics
    faulty.world.diagnostics

/-- The run with failures has given up where the other has received a page: behind that there is
nothing but `more`. -/
inductive GaveUp (retries : Nat) (plan : List (List StoreError)) (free : History) (table : String)
    (e : ExecutionError) (more : History) (c : Cursor) (faulty : History) : Prop
  | intro (overcome : List (List StoreError)) (before : List StoreError) (last : StoreError)
      (after : List StoreError) (rest : List (List StoreError)) (h : History)
      (request : StatementRequest) (tail : History)
      (plan_eq : plan = overcome ++ (before ++ last :: after) :: rest)
      (overcomes : ∀ errors ∈ overcome, Overcomes retries errors)
      (defeats : Defeats retries before last)
      (free_eq : free = h ++ .sent request :: tail)
      (asked : h.requests.length = overcome.length)
      (error_eq : e = .storeFailed table (last.withAttempts (before.length + 1)))
      (failed : c.state = .failed)
      (token_eq : c.nextToken = request.nextToken)
      (faulty_eq : faulty = h.withFailures plan ++ History.failing request before ++
        [.sent request, .answered (.error last)] ++ more)

/-- The executor over the store that fails as planned. -/
def Executor.faulty (x : Executor σ) (b : Backoff) : Executor (Faulty σ) :=
  ⟨x.client.faulty, b.strategy⟩

section Simulation

variable {retries base : Nat} {plan : List (List StoreError)} {free : Running (Recorded σ)}
  {faulty : Running (Recorded (Faulty σ))}

/-- So does the return of a call. -/
theorem Together.returned (together : Together retries base plan free faulty)
    (outcome : Advance Row) :
    Together retries base plan (free.noting [.returned outcome])
      (faulty.noting [.returned outcome]) := by
  have requests : (free.noting [.returned outcome]).history.requests = free.history.requests := by
    rw [Running.history_noting, History.requests_returned]
  have count : (free.noting [.returned outcome]).history.failureCount plan =
      free.history.failureCount plan := by
    rw [History.failureCount, requests, History.failureCount]
  exact {
    overcome := by rw [requests]; exact together.overcome
    cursor_eq := together.cursor_eq
    store_eq := by rw [requests]; exact together.store_eq
    history_eq := by
      rw [Running.history_noting, Running.history_noting, History.withFailures_append,
        together.history_eq]
      rfl
    beside := by rw [count]; exact together.beside }

/-- A giving up stays one when the other run goes on and more is noted. -/
theorem GaveUp.onward {free more faulty : History} {table : String} {e : ExecutionError}
    {c : Cursor} (gaveUp : GaveUp retries plan free table e more c faulty) (tail others : History) :
    GaveUp retries plan (free ++ tail) table e (more ++ others) c (faulty ++ others) := by
  obtain ⟨overcome, before, last, after, rest, h, request, behind, plan_eq, overcomes, defeats, rfl,
    asked, error_eq, failed, token_eq, rfl⟩ := gaveUp
  exact ⟨overcome, before, last, after, rest, h, request, behind ++ tail, plan_eq, overcomes,
    defeats, List.append_assoc _ _ _, asked, error_eq, failed, token_eq, List.append_assoc _ _ _⟩

/-- An enumeration that has given up is over. -/
theorem GaveUp.terminal {free more faulty : History} {table : String} {e : ExecutionError}
    {c : Cursor} (gaveUp : GaveUp retries plan free table e more c faulty) :
    c.state.isTerminal = true := by
  obtain ⟨_, _, _, _, _, _, _, _, _, _, _, _, _, _, failed, _, _⟩ := gaveUp
  rw [failed]
  rfl

end Simulation

namespace Executor

section Untimed

variable (x : Executor σ) {signals : Signals} (untimed : signals.Untimed)
  (quiet : signals.cancelled = false) (time : Nat)
include untimed quiet

end Untimed

end Executor

end Keyscan
