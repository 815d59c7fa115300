import Keyscan.Diagnostics.Journal
import Keyscan.Execution.Signal
import Keyscan.Store.Protocol

/-!
Execution strategies: how often one request is sent before its failure is final, and the pauses in
between. A strategy repeats a request as it is, and each repetition is noticed before its pause.

Times are counted in ticks of one clock. A strategy says how many of them a millisecond has, so that
delays can be as fine as they are given; with one tick everything is in milliseconds.
-/

set_option autoImplicit false

namespace Keyscan

/-- How the failures of one request are met. -/
structure Strategy where
  /-- How often a request may be repeated. -/
  ceiling : StatementRequest → Nat
  /-- Whether a request that failed so is repeated. -/
  repeats : StoreError → Bool
  /-- The ticks before the repetition with a number, counted from one. -/
  pause : Nat → Nat
  /-- The failure that is final after so many requests. -/
  handOn : Nat → StoreError → StoreError
  /-- The ticks of a millisecond. -/
  ticks : Nat := 1

/-! ### Backoff -/

/-- Delays that double from retry to retry up to a cap; in ticks. -/
structure Backoff where
  maxRetries : Nat
  baseDelay : Nat
  /-- The cap, no less than the base. -/
  maxDelay : Nat
  base_le_max : baseDelay ≤ maxDelay
  /-- The ticks of a millisecond. -/
  ticks : Nat := 1
  deriving DecidableEq, Repr

namespace Backoff

/-- Backoff in milliseconds, with a cap that is raised to the base when it is less. -/
def of (maxRetries baseDelay maxDelay : Nat) : Backoff where
  maxRetries
  baseDelay
  maxDelay := max maxDelay baseDelay
  base_le_max := Nat.le_max_right maxDelay baseDelay

/-- Three retries, from 50 milliseconds up to two seconds. -/
def standard : Backoff := of 3 50 2000

/-- The greatest factor of a delay. -/
def maxFactor : Nat := 4294967295

/-- The factor of the delay before a retry: a power of two, up to the greatest factor. -/
def factor (retry : Nat) : Nat :=
  if retry - 1 < 32 then Nat.pow 2 (retry - 1) else maxFactor

/-- The greatest number of seconds that a delay can have. -/
def maxSeconds : Nat := 18446744073709551615

/-- The ticks before a retry, counted from one. A product beyond all delays is the cap. -/
def delayFor (b : Backoff) (retry : Nat) : Nat :=
  let product := b.baseDelay * factor retry
  if product / (1000 * b.ticks) ≤ maxSeconds then min product b.maxDelay else b.maxDelay

/-- The strategy that repeats transient failures after the delays. A final failure tells how often
the request was sent. -/
def strategy (b : Backoff) : Strategy where
  ceiling _ := b.maxRetries
  repeats e := e.isTransient
  pause := b.delayFor
  handOn attempts e := e.withAttempts attempts
  ticks := b.ticks

end Backoff

/-- The strategy that sends every request once. -/
def Strategy.once : Strategy where
  ceiling _ := 0
  repeats _ := false
  pause _ := 0
  handOn _ e := e

/-! ### Round trips -/

/-- A store in use, and what is noticed about its use. -/
structure World (σ : Type) where
  store : σ
  diagnostics : Diagnostics

/-- The outcome of a round trip, or of one request of it. -/
inductive TripOutcome where
  /-- The store has answered, at a time. -/
  | answered (answer : Except StoreError Page) (time : Nat)
  | interrupted (i : Interruption)

/-- Sends a request once at a time. An interrupted wait leaves it without an answer. -/
def StoreClient.attempt {σ : Type} (client : StoreClient σ) (signals : Signals)
    (request : StatementRequest) (time : Nat) (w : World σ) : TripOutcome × World σ :=
  let store := client.receive request w.store
  let latency := client.latency store
  match signals.interruption? time latency with
  | some i => (.interrupted i, { w with store })
  | none =>
      let (answer, store) := client.answer request store
      (.answered answer (time + latency), { w with store })

namespace Strategy

variable {σ : Type}

/-- Takes note of a repetition. -/
def reportRetry (s : Strategy) (attempts : Nat) (e : StoreError) (d : Diagnostics) : Diagnostics :=
  (d.count fun m => { m with storeRetries := m.storeRetries + 1 }).emit .storeRetry
    [("attempt", toString attempts), ("delay_ms", toString (s.pause attempts / s.ticks)),
      ("error", e.message)]

/-- Sends a request, and repeats it at most so many times more. -/
def trip (s : Strategy) (client : StoreClient σ) (signals : Signals) (request : StatementRequest) :
    (repetitions attempts time : Nat) → World σ → TripOutcome × World σ
  | 0, attempts, time, w =>
      match client.attempt signals request time w with
      | (.answered (.error e) time, w) => (.answered (.error (s.handOn attempts e)) time, w)
      | r => r
  | repetitions + 1, attempts, time, w =>
      match client.attempt signals request time w with
      | (.answered (.error e) time, w) =>
          if s.repeats e then
            let w := { w with diagnostics := s.reportRetry attempts e w.diagnostics }
            match signals.interruption? time (s.pause attempts) with
            | some i => (.interrupted i, w)
            | none =>
                trip s client signals request repetitions (attempts + 1)
                  (time + s.pause attempts) w
          else (.answered (.error (s.handOn attempts e)) time, w)
      | r => r

/-- One round trip: the request, repeated as the strategy says. -/
def run (s : Strategy) (client : StoreClient σ) (signals : Signals) (request : StatementRequest)
    (time : Nat) (w : World σ) : TripOutcome × World σ :=
  s.trip client signals request (s.ceiling request) 1 time w

end Strategy

end Keyscan
