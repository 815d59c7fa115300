import Keyscan.Proofs.Execution.Cancellation
import Keyscan.Store.Script

/-!
How a strategy repeats a request that no signal interrupts. A store is followed through sendings of one
and the same request: `outcomes` are its answers, and `Strategy.sendTime` tells when a sending begins,
behind the answers and the pauses before it. Failures that are repeated come first, and then an answer
that is final (`Strategy.run_repeating`), for any strategy.

Backoff repeats the failures at the front that may pass, up to its number of retries, whatever comes
behind them: `Backoff.Carries` says what is sent, noticed, waited for and returned.
-/

set_option autoImplicit false

namespace Keyscan

variable {σ : Type}

/-! ### One request, sent again and again -/

namespace StoreClient

variable (client : StoreClient σ) (request : StatementRequest)

/-- The store after a request has been sent so many times. -/
def repeated : Nat → σ → σ
  | 0, s => s
  | n + 1, s => repeated n (client.execute request s).2

/-- The answer to a request that has been sent so many times before. -/
def outcome (n : Nat) (s : σ) : Except StoreError Page :=
  (client.execute request (client.repeated request n s)).1

/-- The time that this answer takes. -/
def answerTime (n : Nat) (s : σ) : Nat :=
  client.latency (client.receive request (client.repeated request n s))

/-- The answers to a request that is sent so many times. -/
def outcomes : Nat → σ → List (Except StoreError Page)
  | 0, _ => []
  | n + 1, s => (client.execute request s).1 :: outcomes n (client.execute request s).2

theorem repeated_succ (n : Nat) (s : σ) :
    client.repeated request (n + 1) s =
      (client.execute request (client.repeated request n s)).2 := by
  induction n generalizing s with
  | zero => rfl
  | succ n ih => exact ih (client.execute request s).2

theorem outcomes_succ (n : Nat) (s : σ) :
    client.outcomes request (n + 1) s =
      client.outcomes request n s ++ [client.outcome request n s] := by
  induction n generalizing s with
  | zero => rfl
  | succ n ih => exact congrArg ((client.execute request s).1 :: ·) (ih (client.execute request s).2)

theorem outcomes_take (m n : Nat) (s : σ) :
    (client.outcomes request n s).take m = client.outcomes request (min m n) s := by
  induction n generalizing m s with
  | zero => rw [outcomes, List.take_nil, Nat.min_zero, outcomes]
  | succ n ih =>
      cases m with
      | zero => rw [List.take_zero, Nat.zero_min, outcomes]
      | succ m =>
          rw [outcomes, List.take_succ_cons, ih, Nat.succ_min_succ]
          rfl

end StoreClient

/-! ### Repetitions of any strategy -/

namespace Strategy

variable (s : Strategy)

/-- The notice of the repetition behind a failed attempt. -/
def notice (attempts : Nat) (e : StoreError) : Notice where
  event := .storeRetry
  fields := [("attempt", toString attempts), ("delay_ms", toString (s.pause attempts / s.ticks)),
    ("error", e.message)]

/-- The diagnostics after repetitions behind failures, from an attempt on. -/
def reported : Nat → List StoreError → Diagnostics → Diagnostics
  | _, [], d => d
  | attempts, e :: errors, d => reported (attempts + 1) errors (s.reportRetry attempts e d)

theorem metrics_reported (attempts : Nat) (errors : List StoreError) (d : Diagnostics) :
    (s.reported attempts errors d).metrics =
      { d.metrics with storeRetries := d.metrics.storeRetries + errors.length } := by
  induction errors generalizing attempts d with
  | nil => rfl
  | cons e errors ih =>
      rw [reported, ih, reportRetry, Diagnostics.metrics_emit, Diagnostics.metrics_count]
      simp only [List.length_cons, Nat.add_assoc, Nat.add_comm 1]

/-- Each repetition leaves its notice, unless notices are dropped. -/
theorem journal_reported (attempts : Nat) (errors : List StoreError) (d : Diagnostics) :
    (s.reported attempts errors d).journal =
      d.journal ++ if d.sink = .silent then [] else
        (errors.zipIdx attempts).map fun failed => s.notice failed.2 failed.1 := by
  induction errors generalizing attempts d with
  | nil => simp [reported]
  | cons e errors ih =>
      rw [reported, ih]
      by_cases silent : d.sink = .silent
      · simp [reportRetry, Diagnostics.emit, Diagnostics.count, silent]
      · have noted : s.reportRetry attempts e d =
            { d.count fun m => { m with storeRetries := m.storeRetries + 1 } with
              journal := d.journal ++ [s.notice attempts e] } :=
          Diagnostics.journal_emit (d := d.count _) silent _ _
        rw [noted]
        simp [Diagnostics.count, silent]

variable (client : StoreClient σ) (request : StatementRequest)

/-- When a request is sent that has been sent so many times before, from an attempt on. -/
def sendTime (attempts time : Nat) (store : σ) : Nat → Nat
  | 0 => time
  | n + 1 =>
      sendTime attempts time store n + client.answerTime request n store + s.pause (attempts + n)

/-- Behind the first sending the others go on as if they were the first. -/
theorem sendTime_next (attempts time : Nat) (store : σ) (n : Nat) :
    s.sendTime client request (attempts + 1)
        (time + client.answerTime request 0 store + s.pause attempts)
        (client.execute request store).2 n =
      s.sendTime client request attempts time store (n + 1) := by
  induction n with
  | zero => rfl
  | succ n ih =>
      rw [sendTime, ih, Nat.add_right_comm attempts 1 n]
      rfl

variable {client request}

/-- Failures that are repeated go by, each with its notice and its pause. -/
theorem trip_repeating {errors : List StoreError} (repeats : ∀ e ∈ errors, s.repeats e = true)
    {store : σ} (begins : client.outcomes request errors.length store = errors.map .error)
    (left attempts time : Nat) (h : History) (d : Diagnostics) :
    let later := s.sendTime client request attempts time store errors.length
    let next : World (Recorded σ) :=
      ⟨⟨client.repeated request errors.length store, h ++ History.failing request errors⟩,
        s.reported attempts errors d⟩
    s.trip client.recorded .never request (errors.length + left) attempts time ⟨⟨store, h⟩, d⟩ =
        s.trip client.recorded .never request left (attempts + errors.length) later next ∧
      s.timing client.recorded .never request (errors.length + left) attempts time
          ⟨⟨store, h⟩, d⟩ =
        (s.timing client.recorded .never request left (attempts + errors.length) later next).behind
          ((List.range errors.length).map fun i =>
            (s.sendTime client request attempts time store i, request)) := by
  induction errors generalizing attempts time store h d with
  | nil =>
      simp only [List.length_nil, Nat.zero_add, History.failing, List.flatMap_nil, List.append_nil]
      exact ⟨rfl, rfl⟩
  | cons e errors ih =>
      obtain ⟨again, others⟩ := List.forall_mem_cons.1 repeats
      obtain ⟨first, rest⟩ := List.cons.inj begins
      have never : Signals.never.Untimed := ⟨rfl, rfl⟩
      have attempt := client.attempt_untimed never rfl request time store h d
      rw [first] at attempt
      obtain ⟨trip, timing⟩ := ih others rest (attempts + 1)
        (time + client.answerTime request 0 store + s.pause attempts)
        (h ++ [.sent request, .answered (.error e)]) (s.reportRetry attempts e d)
      have count : (e :: errors).length + left = errors.length + left + 1 :=
        Nat.add_right_comm _ _ _
      have sent : attempts + (e :: errors).length = attempts + 1 + errors.length :=
        Nat.add_right_comm attempts errors.length 1
      have noted : h ++ History.failing request (e :: errors) =
          h ++ [.sent request, .answered (.error e)] ++ History.failing request errors := by
        rw [List.append_assoc]
        rfl
      simp only [s.sendTime_next] at trip timing
      constructor
      · rw [count, sent, noted, Strategy.trip, attempt]
        simp only [again, if_true, never.interruption?_eq rfl]
        exact trip
      · rw [count, sent, noted, Strategy.timing, attempt]
        simp only [again, if_true, never.interruption?_eq rfl]
        refine (congrArg (Timing.behind · [(time, request)]) timing).trans ?_
        rw [List.length_cons, List.range_succ_eq_map, List.map_cons, List.map_map]
        rfl

/-- An answer that is final ends a round trip, at its first attempt or a later one. -/
theorem trip_final (client : StoreClient σ) (request : StatementRequest) (store : σ) (left : Nat)
    (final : ∀ e, (client.execute request store).1 = .error e → s.repeats e = false ∨ left = 0)
    (attempts time : Nat) (h : History) (d : Diagnostics) :
    s.trip client.recorded .never request left attempts time ⟨⟨store, h⟩, d⟩ =
        (.answered ((client.execute request store).1.mapError (s.handOn attempts))
            (time + client.answerTime request 0 store),
          ⟨⟨(client.execute request store).2,
            h ++ [.sent request, .answered (client.execute request store).1]⟩, d⟩) ∧
      (s.timing client.recorded .never request left attempts time ⟨⟨store, h⟩, d⟩).sent =
        [(time, request)] := by
  have never : Signals.never.Untimed := ⟨rfl, rfl⟩
  have attempt := client.attempt_untimed never rfl request time store h d
  cases answer : (client.execute request store).1 with
  | ok page =>
      rw [answer] at attempt
      refine ⟨s.trip_of_page left attempts attempt, ?_⟩
      cases left with
      | zero => rfl
      | succ left => rw [Strategy.timing, attempt]
  | error e =>
      rw [answer] at attempt
      refine ⟨s.trip_of_final (final e answer) attempt, ?_⟩
      cases left with
      | zero => rfl
      | succ left =>
          have stays := (final e answer).resolve_right (Nat.succ_ne_zero left)
          rw [Strategy.timing, attempt]
          simp only [stays, Bool.false_eq_true, if_false]

/-- A round trip whose first answers are repeated, and the next one is final. -/
theorem run_repeating (client : StoreClient σ) (request : StatementRequest) (store : σ)
    {errors : List StoreError} (repeats : ∀ e ∈ errors, s.repeats e = true)
    (begins : client.outcomes request errors.length store = errors.map .error)
    (short : errors.length ≤ s.ceiling request)
    (final : ∀ e, client.outcome request errors.length store = .error e →
      s.repeats e = false ∨ errors.length = s.ceiling request)
    (time : Nat) (h : History) (d : Diagnostics) :
    s.run client.recorded .never request time ⟨⟨store, h⟩, d⟩ =
        (.answered
            ((client.outcome request errors.length store).mapError (s.handOn (1 + errors.length)))
            (s.sendTime client request 1 time store errors.length +
              client.answerTime request errors.length store),
          ⟨⟨client.repeated request (errors.length + 1) store,
            h ++ History.failing request errors ++
              [.sent request, .answered (client.outcome request errors.length store)]⟩,
            s.reported 1 errors d⟩) ∧
      (s.timing client.recorded .never request (s.ceiling request) 1 time ⟨⟨store, h⟩, d⟩).sent =
        (List.range (errors.length + 1)).map fun i =>
          (s.sendTime client request 1 time store i, request) := by
  obtain ⟨left, ceiling⟩ := Nat.exists_eq_add_of_le short
  obtain ⟨trip, timing⟩ := s.trip_repeating repeats begins left 1 time h d
  obtain ⟨ends, last⟩ := s.trip_final client request
    (client.repeated request errors.length store) left
    (fun e answer => (final e answer).imp_right fun spent => by omega) (1 + errors.length)
    (s.sendTime client request 1 time store errors.length) (h ++ History.failing request errors)
    (s.reported 1 errors d)
  constructor
  · rw [run, ceiling, trip, ends, client.repeated_succ]
    rfl
  · rw [ceiling, timing, Timing.behind, last, List.range_succ, List.map_append]
    rfl

end Strategy

/-! ### Backoff -/

/-- The answers to a request that is sent again and again begin with failures that may pass, and no
other such failure follows them as long as so many repetitions are allowed. -/
structure StoreClient.FailsAtFirst (client : StoreClient σ) (request : StatementRequest) (store : σ)
    (repetitions : Nat) (errors : List StoreError) : Prop where
  begins : client.outcomes request errors.length store = errors.map .error
  transient : ∀ e ∈ errors, e.isTransient = true
  ends : errors.length ≤ repetitions →
    ∀ e, client.outcome request errors.length store = .error e → e.isTransient = false

/-- A store that answers otherwise begins with no such failure. -/
theorem StoreClient.FailsAtFirst.none {client : StoreClient σ} {request : StatementRequest}
    {store : σ} {repetitions : Nat}
    (fails : ¬ ∃ e, client.outcome request 0 store = .error e ∧ e.isTransient = true) :
    client.FailsAtFirst request store repetitions [] where
  begins := rfl
  transient := by simp
  ends _ e answer := by
    cases passes : e.isTransient with
    | false => rfl
    | true => exact absurd ⟨e, answer, passes⟩ fails

/-- Whatever a store answers, it begins with some such failures, or with none. -/
theorem StoreClient.exists_failsAtFirst (client : StoreClient σ) (request : StatementRequest)
    (store : σ) (repetitions : Nat) :
    ∃ errors, client.FailsAtFirst request store repetitions errors := by
  induction repetitions generalizing store with
  | zero =>
      by_cases fails : ∃ e, client.outcome request 0 store = .error e ∧ e.isTransient = true
      · obtain ⟨e, answer, passes⟩ := fails
        exact ⟨[e], congrArg ([·]) answer, by simpa using passes, fun none => by cases none⟩
      · exact ⟨[], .none fails⟩
  | succ repetitions ih =>
      by_cases fails : ∃ e, client.outcome request 0 store = .error e ∧ e.isTransient = true
      · obtain ⟨e, answer, passes⟩ := fails
        obtain ⟨errors, begins, transient, ends⟩ := ih (client.execute request store).2
        refine ⟨e :: errors, ?_, List.forall_mem_cons.2 ⟨passes, transient⟩,
          fun short => ends (Nat.le_of_succ_le_succ short)⟩
        rw [List.map_cons, ← begins]
        exact congrArg (· :: _) answer
      · exact ⟨[], .none fails⟩

namespace Backoff

/-- How often a request is repeated that fails so often at first. -/
def retries (b : Backoff) (failures : Nat) : Nat := min failures b.maxRetries

/-- What a round trip comes to whose first answers are failures that may pass. -/
structure Carries (b : Backoff) (client : StoreClient σ) (request : StatementRequest) (time : Nat)
    (w : World (Recorded σ)) (errors : List StoreError) : Prop where
  /-- The request is sent once more than it is repeated, as it is, and answered each time. -/
  sent : (b.strategy.run client.recorded .never request time w).2.store.history =
    w.store.history ++
      (client.outcomes request (b.retries errors.length + 1) w.store.store).flatMap fun answer =>
        [.sent request, .answered answer]
  /-- Only a failure that may pass is met by a repetition. -/
  repeated : ∀ answer ∈ client.outcomes request (b.retries errors.length) w.store.store,
    ∃ e, answer = .error e ∧ e.isTransient = true
  /-- The delays lie between the sendings, and none behind the last. The times are those of the round
  trip itself: when it is cancelled, it has sent what is to be sent up to then. The last answer is
  returned, a failure with its class and its message, and with the number of sendings. -/
  timed : ∃ times : Nat → Nat, times 0 = time ∧
    (∀ i, times (i + 1) =
      times i + client.answerTime request i w.store.store + b.delayFor (i + 1)) ∧
    (b.strategy.timing client.recorded .never request b.maxRetries 1 time w).sent =
      (List.range (b.retries errors.length + 1)).map (fun i => (times i, request)) ∧
    (∀ comes, time ≤ comes →
      (b.strategy.run client.recorded ⟨false, some comes, none⟩ request time
          w).2.store.history.requests =
        w.store.history.requests ++
          ((List.range (b.retries errors.length + 1)).filter (times · ≤ comes)).map
            fun _ => request) ∧
    (b.strategy.run client.recorded .never request time w).1 =
      .answered
        ((client.outcome request (b.retries errors.length) w.store.store).mapError fun e =>
          ⟨e.failure, e.message, b.retries errors.length + 1⟩)
        (times (b.retries errors.length) +
          client.answerTime request (b.retries errors.length) w.store.store)
  /-- Each repetition is counted, and nothing else is. -/
  counted : (b.strategy.run client.recorded .never request time w).2.diagnostics.metrics =
    { w.diagnostics.metrics with
      storeRetries := w.diagnostics.metrics.storeRetries + b.retries errors.length }
  /-- Each repetition is noticed with its number, its delay in milliseconds and the message of the
  failure, unless notices are dropped. -/
  noticed : (b.strategy.run client.recorded .never request time w).2.diagnostics.journal =
    w.diagnostics.journal ++
      if w.diagnostics.sink = .silent then [] else
        ((errors.take (b.retries errors.length)).zipIdx 1).map fun failed =>
          ⟨.storeRetry, [("attempt", toString failed.2),
            ("delay_ms", toString (b.delayFor failed.2 / b.ticks)), ("error", failed.1.message)]⟩

/-- Backoff repeats exactly the failures at the front that may pass, up to its number of retries, and
returns what comes then. -/
theorem run_retries (b : Backoff) (client : StoreClient σ) (request : StatementRequest) (time : Nat)
    (w : World (Recorded σ)) :
    (∃ errors, client.FailsAtFirst request w.store.store b.maxRetries errors) ∧
      ∀ errors, client.FailsAtFirst request w.store.store b.maxRetries errors →
        b.Carries client request time w errors := by
  refine ⟨client.exists_failsAtFirst request w.store.store b.maxRetries, fun errors fails => ?_⟩
  obtain ⟨⟨store, h⟩, d⟩ := w
  obtain ⟨begins, transient, ends⟩ := fails
  have within : b.retries errors.length ≤ errors.length := Nat.min_le_left _ _
  have allowed : b.retries errors.length ≤ b.maxRetries := Nat.min_le_right _ _
  have length : (errors.take (b.retries errors.length)).length = b.retries errors.length :=
    List.length_take_of_le within
  have passes : ∀ e ∈ errors.take (b.retries errors.length), e.isTransient = true :=
    fun e mem => transient e (List.mem_of_mem_take mem)
  have front : client.outcomes request (b.retries errors.length) store =
      (errors.take (b.retries errors.length)).map .error := by
    rw [List.map_take, ← begins, client.outcomes_take, Nat.min_eq_left within]
  have final : ∀ e, client.outcome request (b.retries errors.length) store = .error e →
      e.isTransient = false ∨ b.retries errors.length = b.maxRetries := by
    intro e answer
    rcases Nat.le_total errors.length b.maxRetries with short | long
    · rw [retries, Nat.min_eq_left short] at answer
      exact .inl (ends short e answer)
    · exact .inr (Nat.min_eq_right long)
  obtain ⟨ran, timing⟩ := b.strategy.run_repeating client request store passes
    (by rw [length]; exact front) (by rw [length]; exact allowed) (by rw [length]; exact final) time h d
  rw [length] at ran timing
  refine {
    sent := ?_
    repeated := ?_
    timed := ⟨b.strategy.sendTime client request 1 time store, rfl, ?_, timing, ?_, ?_⟩
    counted := ?_
    noticed := ?_ }
  · rw [ran, client.outcomes_succ, List.flatMap_append, front, List.flatMap_map,
      ← List.append_assoc]
    rfl
  · intro answer mem
    rw [front, List.mem_map] at mem
    obtain ⟨e, mem, rfl⟩ := mem
    exact ⟨e, rfl, passes e mem⟩
  · intro i
    rw [Strategy.sendTime, Nat.add_comm 1 i]
    rfl
  · intro comes begun
    have early : Signals.cancelledBefore ⟨false, some comes, none⟩ time = false := by
      simpa [Signals.cancelledBefore] using begun
    have otherwise : Signals.uncancelled ⟨false, some comes, none⟩ = .never := rfl
    have cut := b.strategy.requests_cut client request (b.strategy.ceiling request) 1
      ⟨⟨store, h⟩, d⟩ early
    rw [otherwise, timing, Signals.inTime_cancelled, List.filter_map, List.map_map] at cut
    exact cut
  · rw [ran, Nat.add_comm 1]
    rfl
  · rw [ran, Strategy.metrics_reported, length]
  · rw [ran, Strategy.journal_reported]
    rfl

/-- Three failures that may pass, and then a page; every answer takes two ticks. -/
def busyStore : ScriptedStore where
  answers := [.error ⟨.transient, "busy", 7⟩, .error (.transient "slow"),
    .error (.transient "busy again"), .ok (.last [])]
  latency := 2
  log := []

/-- With two retries the third failure is final. -/
theorem run_retries_busyStore :
    let request : StatementRequest := ⟨"SELECT \"a\" FROM \"t\"", some "next", none⟩
    let errors := [⟨.transient, "busy", 7⟩, .transient "slow", .transient "busy again"]
    ScriptedStore.client.FailsAtFirst request busyStore 2 errors ∧
      (of 2 10 15).Carries ScriptedStore.client request 0
        ⟨⟨busyStore, []⟩, .start .recording⟩ errors := by
  intro request errors
  have fails : ScriptedStore.client.FailsAtFirst request busyStore 2 errors :=
    ⟨rfl, by decide, fun short => absurd short (by decide)⟩
  exact ⟨fails, (run_retries (of 2 10 15) ScriptedStore.client request 0
    ⟨⟨busyStore, []⟩, .start .recording⟩).2 errors fails⟩

example :
    ((of 2 10 15).strategy.run ScriptedStore.client .never ⟨"", none, none⟩ 0
        ⟨busyStore, .start .recording⟩).1 =
      .answered (.error ⟨.transient, "busy again", 3⟩) 31 := by
  rfl

end Backoff

end Keyscan
