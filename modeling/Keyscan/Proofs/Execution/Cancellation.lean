import Keyscan.Proofs.Execution.Kept
import Keyscan.Proofs.Execution.Requests
import Keyscan.Proofs.Execution.Timing

/-!
Cancellation. A call of an enumeration under way is cancelled exactly when the cancellation comes
while the call is open to it: before the call, during a round trip, or during a pause. It then returns
the cancellation and nothing else, and what has passed until then passes without the cancellation too.

The run with cancellations and the run without them are compared attempt by attempt, then trip by trip,
step by step, and call by call; `Executor.Seen` says how they differ in the end.
-/

set_option autoImplicit false

namespace Keyscan

variable {σ : Type}

/-! ### Round trips -/

/-- A round trip begins with its request. -/
theorem RoundTrip.head_eq {s : Strategy} {signals : Signals} {request : StatementRequest}
    {outcome : TripOutcome} {block : History} (trip : RoundTrip s signals request outcome block) :
    ∃ rest, block = .sent request :: rest := by
  cases trip <;> exact ⟨_, rfl⟩

section Trips

variable (client : StoreClient σ) {signals : Signals} (request : StatementRequest) {time : Nat}

/-- An attempt is cut short by a cancellation, or there is no difference. -/
theorem StoreClient.attempt_uncancelled (w : World (Recorded σ))
    (early : signals.cancelledBefore time = false) :
    (signals.cancelledBefore (signals.openTo time (client.waits request w)) = false ∧
      client.recorded.attempt signals request time w =
        client.recorded.attempt signals.uncancelled request time w) ∨
    signals.cancelledBefore (signals.openTo time (client.waits request w)) = true ∧
      client.recorded.attempt signals request time w =
        (.interrupted .cancelled, ⟨⟨client.receive request w.store.store,
          w.store.history ++ [.sent request]⟩, w.diagnostics⟩) := by
  have comes := Signals.interruption?_eq_of_early early (client.waits request w)
  cases during : signals.cancelledBefore (signals.openTo time (client.waits request w)) with
  | true =>
      rw [during, if_pos rfl] at comes
      exact .inr ⟨rfl, client.attempt_interrupted request w comes⟩
  | false =>
      rw [during, if_neg Bool.false_ne_true] at comes
      refine .inl ⟨rfl, ?_⟩
      cases same : signals.uncancelled.interruption? time (client.waits request w) with
      | none =>
          rw [client.attempt_whole request w same, client.attempt_whole request w (comes.trans same)]
      | some i =>
          rw [client.attempt_interrupted request w same,
            client.attempt_interrupted request w (comes.trans same)]

/-- An attempt is open to a cancellation up to its answer. -/
theorem StoreClient.openTo_of_answered {w next : World (Recorded σ)}
    {answer : Except StoreError Page} {later : Nat}
    (answered : client.recorded.attempt signals.uncancelled request time w =
      (.answered answer later, next)) :
    signals.openTo time (client.waits request w) = later := by
  cases comes : signals.uncancelled.interruption? time (client.waits request w) with
  | some i =>
      rw [client.attempt_interrupted request w comes] at answered
      cases answered
  | none =>
      rw [client.attempt_whole request w comes] at answered
      cases answered
      exact Signals.openTo_eq comes

/-- A round trip without a cancellation begins with its request, and whatever else it sends it sends
behind its first attempt. It is open to a cancellation at least as long as that attempt, and up to its
answer when it has one. -/
theorem Strategy.timing_spans (s : Strategy) (signals : Signals)
    (repetitions attempts time : Nat) (w : World (Recorded σ)) :
    let t := s.timing client.recorded signals.uncancelled request repetitions attempts time w
    (∃ rest, t.sent = (time, request) :: rest ∧
        ∀ entry ∈ rest, signals.openTo time (client.waits request w) ≤ entry.1) ∧
      signals.openTo time (client.waits request w) ≤ t.openTo ∧
      ∀ answer later,
        (s.trip client.recorded signals.uncancelled request repetitions attempts time w).1 =
          .answered answer later → t.openTo = later := by
  induction repetitions generalizing attempts time w with
  | zero =>
      rw [timing, trip]
      refine ⟨⟨[], rfl, by simp⟩, Nat.le_refl _, ?_⟩
      rcases attempt : client.recorded.attempt signals.uncancelled request time w with
        ⟨⟨e | page, instant⟩ | i, next⟩
      · rintro answer later ⟨⟩
        exact client.openTo_of_answered request attempt
      · rintro answer later ⟨⟩
        exact client.openTo_of_answered request attempt
      · rintro answer later ⟨⟩
  | succ repetitions ih =>
      rw [timing, trip]
      rcases attempt : client.recorded.attempt signals.uncancelled request time w with
        ⟨⟨e | page, instant⟩ | i, next⟩
      · have open_ := client.openTo_of_answered request attempt
        rw [open_]
        cases repeats : s.repeats e with
        | false =>
            simp only [repeats, Bool.false_eq_true, if_false]
            exact ⟨⟨[], rfl, by simp⟩, Nat.le_refl _, by rintro answer later ⟨⟩; rfl⟩
        | true =>
            simp only [repeats, if_true]
            cases pause : signals.uncancelled.interruption? instant (s.pause attempts) with
            | some i =>
                exact ⟨⟨[], rfl, by simp⟩, Signals.start_le_openTo _ _ _,
                  by rintro answer later ⟨⟩⟩
            | none =>
                let w' : World (Recorded σ) :=
                  { next with diagnostics := s.reportRetry attempts e next.diagnostics }
                obtain ⟨⟨rest, sent, late⟩, least, ends⟩ :=
                  ih (attempts + 1) (instant + s.pause attempts) w'
                have start := Signals.start_le_openTo signals (instant + s.pause attempts)
                  (client.waits request w')
                refine ⟨⟨_, rfl, fun entry mem => ?_⟩, ?_, ends⟩
                · rw [sent] at mem
                  rcases List.mem_cons.1 mem with rfl | behind
                  · exact Nat.le_add_right _ _
                  · have := late entry behind
                    omega
                · exact Nat.le_trans (Nat.le_trans (Nat.le_add_right _ _) start) least
      · have open_ := client.openTo_of_answered request attempt
        exact ⟨⟨[], rfl, by simp⟩, Nat.le_of_eq open_, by rintro answer later ⟨⟩; rfl⟩
      · exact ⟨⟨[], rfl, by simp⟩, Nat.le_refl _, by rintro answer later ⟨⟩⟩

/-- A round trip sends nothing before it begins, and is open to a cancellation from its beginning. -/
theorem Strategy.le_timing (s : Strategy) (signals : Signals)
    (repetitions attempts time : Nat) (w : World (Recorded σ)) :
    let t := s.timing client.recorded signals.uncancelled request repetitions attempts time w
    (∀ entry ∈ t.sent, time ≤ entry.1) ∧ time ≤ t.openTo := by
  obtain ⟨⟨rest, sent, late⟩, least, -⟩ :=
    s.timing_spans client request signals repetitions attempts time w
  have start := Signals.start_le_openTo signals time (client.waits request w)
  refine ⟨fun entry mem => ?_, Nat.le_trans start least⟩
  rw [sent] at mem
  rcases List.mem_cons.1 mem with rfl | behind
  · exact Nat.le_refl _
  · exact Nat.le_trans start (late entry behind)

/-- A round trip whose first attempt is cut short: what has passed until then has passed without the
cancellation too. -/
theorem Strategy.trip_cut (s : Strategy) (repetitions attempts : Nat) (w : World (Recorded σ))
    (cut : client.recorded.attempt signals request time w =
      (.interrupted .cancelled, ⟨⟨client.receive request w.store.store,
        w.store.history ++ [.sent request]⟩, w.diagnostics⟩)) :
    (s.trip client.recorded signals request repetitions attempts time w).1 =
        .interrupted .cancelled ∧
      ∃ tail, (s.trip client.recorded signals.uncancelled request repetitions attempts time
          w).2.store.history =
        (s.trip client.recorded signals request repetitions attempts time w).2.store.history ++
          tail := by
  obtain ⟨block, added, trip⟩ := s.trip_recorded client signals.uncancelled request repetitions
    attempts time w
  obtain ⟨tail, rfl⟩ := trip.head_eq
  have stopped : s.trip client.recorded signals request repetitions attempts time w =
      (.interrupted .cancelled, ⟨⟨client.receive request w.store.store,
        w.store.history ++ [.sent request]⟩, w.diagnostics⟩) := by
    cases repetitions with
    | zero => rw [Strategy.trip, cut]
    | succ repetitions => rw [Strategy.trip, cut]
  rw [stopped]
  exact ⟨rfl, tail, by rw [added, List.append_assoc]; rfl⟩

/-- A round trip is cut short by a cancellation, or there is no difference. -/
theorem Strategy.trip_uncancelled (s : Strategy) (repetitions attempts : Nat)
    (w : World (Recorded σ)) (early : signals.cancelledBefore time = false) :
    let t := s.timing client.recorded signals.uncancelled request repetitions attempts time w
    let cut := s.trip client.recorded signals request repetitions attempts time w
    let whole := s.trip client.recorded signals.uncancelled request repetitions attempts time w
    (signals.cancelledBefore t.openTo = false ∧ cut = whole) ∨
    signals.cancelledBefore t.openTo = true ∧ cut.1 = .interrupted .cancelled ∧
      ∃ tail, whole.2.store.history = cut.2.store.history ++ tail := by
  induction repetitions generalizing attempts time w with
  | zero =>
      obtain ⟨open_, same⟩ | ⟨closed, cancelled⟩ := client.attempt_uncancelled request w early
      · refine .inl ⟨open_, ?_⟩
        rw [trip, trip, same]
      · exact .inr ⟨closed, s.trip_cut client request 0 attempts w cancelled⟩
  | succ repetitions ih =>
      obtain ⟨open_, same⟩ | ⟨closed, cancelled⟩ := client.attempt_uncancelled request w early
      · rw [timing, trip, trip, same]
        rcases attempt : client.recorded.attempt signals.uncancelled request time w with
          ⟨⟨e | page, instant⟩ | i, next⟩
        · rw [client.openTo_of_answered request attempt] at open_
          cases repeats : s.repeats e with
          | false =>
              simp only [repeats, Bool.false_eq_true, if_false]
              exact .inl ⟨open_, trivial⟩
          | true =>
              have comes := Signals.interruption?_eq_of_early open_ (s.pause attempts)
              simp only [repeats, if_true]
              cases during : signals.cancelledBefore (signals.openTo instant (s.pause attempts)) with
              | true =>
                  rw [during, if_pos rfl] at comes
                  rw [comes]
                  cases pause : signals.uncancelled.interruption? instant (s.pause attempts) with
                  | some i => exact .inr ⟨during, rfl, [], (List.append_nil _).symm⟩
                  | none =>
                      let w' : World (Recorded σ) :=
                        { next with diagnostics := s.reportRetry attempts e next.diagnostics }
                      obtain ⟨-, start⟩ := s.le_timing client request signals repetitions
                        (attempts + 1) (instant + s.pause attempts) w'
                      rw [Signals.openTo_eq pause] at during
                      obtain ⟨block, added, -⟩ := s.trip_recorded client signals.uncancelled request
                        repetitions (attempts + 1) (instant + s.pause attempts) w'
                      exact .inr ⟨Signals.cancelledBefore_mono start during, rfl, block, added⟩
              | false =>
                  rw [during, if_neg Bool.false_ne_true] at comes
                  rw [comes]
                  cases pause : signals.uncancelled.interruption? instant (s.pause attempts) with
                  | some i => exact .inl ⟨during, rfl⟩
                  | none =>
                      rw [Signals.openTo_eq pause] at during
                      exact ih (attempts + 1)
                        { next with diagnostics := s.reportRetry attempts e next.diagnostics } during
        · rw [client.openTo_of_answered request attempt] at open_
          exact .inl ⟨open_, rfl⟩
        · exact .inl ⟨open_, rfl⟩
      · obtain ⟨-, least, -⟩ :=
          s.timing_spans client request signals (repetitions + 1) attempts time w
        exact .inr ⟨Signals.cancelledBefore_mono least closed,
          s.trip_cut client request (repetitions + 1) attempts w cancelled⟩

/-- A round trip that a cancellation cuts short sends what it sends in time without it. -/
theorem Strategy.timing_cut (s : Strategy) (repetitions attempts : Nat) (w : World (Recorded σ))
    (early : signals.cancelledBefore time = false) :
    (s.timing client.recorded signals request repetitions attempts time w).sent =
      signals.inTime
        (s.timing client.recorded signals.uncancelled request repetitions attempts time w).sent := by
  induction repetitions generalizing attempts time w with
  | zero => exact (Signals.inTime_one early).symm
  | succ repetitions ih =>
      have alone : [(time, request)] = signals.inTime [(time, request)] :=
        (Signals.inTime_one early).symm
      obtain ⟨open_, same⟩ | ⟨closed, cancelled⟩ := client.attempt_uncancelled request w early
      · rw [timing, timing, same]
        rcases attempt : client.recorded.attempt signals.uncancelled request time w with
          ⟨⟨e | page, instant⟩ | i, next⟩
        · rw [client.openTo_of_answered request attempt] at open_
          cases repeats : s.repeats e with
          | false =>
              simp only [repeats, Bool.false_eq_true, if_false]
              exact alone
          | true =>
              have comes := Signals.interruption?_eq_of_early open_ (s.pause attempts)
              simp only [repeats, if_true]
              cases pause : signals.uncancelled.interruption? instant (s.pause attempts) with
              | some i =>
                  rw [pause] at comes
                  split at comes <;> rw [comes] <;> exact alone
              | none =>
                  let w' : World (Recorded σ) :=
                    { next with diagnostics := s.reportRetry attempts e next.diagnostics }
                  rw [pause, Signals.openTo_eq pause] at comes
                  cases during : signals.cancelledBefore (instant + s.pause attempts) with
                  | true =>
                      -- Whatever is sent behind the pause without the cancellation comes too late.
                      rw [during, if_pos rfl] at comes
                      rw [comes]
                      obtain ⟨late, -⟩ := s.le_timing client request signals repetitions
                        (attempts + 1) (instant + s.pause attempts) w'
                      change _ = signals.inTime ((time, request) :: Timing.sent _)
                      rw [Signals.inTime_cons early, Signals.inTime_of_late late during]
                  | false =>
                      rw [during, if_neg Bool.false_ne_true] at comes
                      rw [comes]
                      change (time, request) :: Timing.sent _ =
                        signals.inTime ((time, request) :: Timing.sent _)
                      rw [Signals.inTime_cons early, ← ih (attempts + 1) w' during]
        · exact alone
        · exact alone
      · -- Neither run sends more than the first request in time.
        obtain ⟨⟨rest, sent, late⟩, -⟩ :=
          s.timing_spans client request signals (repetitions + 1) attempts time w
        rw [sent, Signals.inTime_cons early, Signals.inTime_of_late late closed, timing, cancelled]

/-- So the requests of a round trip with a cancellation are those that it sends in time without it. -/
theorem Strategy.requests_cut (s : Strategy) (repetitions attempts : Nat) (w : World (Recorded σ))
    (early : signals.cancelledBefore time = false) :
    (s.trip client.recorded signals request repetitions attempts time w).2.store.history.requests =
      w.store.history.requests ++ (signals.inTime
        (s.timing client.recorded signals.uncancelled request repetitions attempts time
          w).sent).map Prod.snd := by
  rw [← s.timing_cut client request repetitions attempts w early]
  exact (s.timing_early client request repetitions attempts w early).1.requests_eq

end Trips

/-! ### Advances -/

/-- Two outcomes of one advance, of which the first is cut short by a cancellation: what has passed
until then has passed in the other too. -/
structure CutShort (table : String) (cut whole : Advance Row × Running (Recorded σ)) : Prop where
  outcome_eq : cut.1 = .failed (.cancelled table)
  state_eq : cut.2.cursor.state = .cancelled
  history_eq : ∃ tail, whole.2.history = cut.2.history ++ tail

namespace Executor

/-- A fetch is one of the cursor's query, and the cursor stays one of it. -/
theorem fetch_query (x : Executor σ) (signals : Signals) (time : Nat) (r : Running σ) :
    (x.fetch signals time r).2.cursor.query = r.cursor.query := by
  rw [fetch_eq]
  generalize x.strategy.run x.client signals r.cursor.request time _ = trip
  obtain ⟨⟨_ | _, _⟩ | _ | _, _⟩ := trip <;> rfl

section Fetches

variable (x : Executor σ) {signals : Signals} (time : Nat) (r : Running (Recorded σ))

/-- A fetch without a cancellation sends nothing before it begins, and is open to one from its
beginning. -/
theorem le_fetchTiming (signals : Signals) :
    (∀ entry ∈ (x.recorded.fetchTiming signals.uncancelled time r).sent, time ≤ entry.1) ∧
      time ≤ (x.recorded.fetchTiming signals.uncancelled time r).openTo :=
  x.strategy.le_timing x.client r.cursor.request signals _ 1 time _

/-- A fetch is open to a cancellation up to the acceptance of its page. -/
theorem openTo_fetchTiming {later : Nat}
    (accepted : (x.recorded.fetch signals.uncancelled time r).1 = .ok later) :
    (x.recorded.fetchTiming signals.uncancelled time r).openTo = later := by
  let w : World (Recorded σ) :=
    { r.world with diagnostics := (r.cursor.beginFetch r.world.diagnostics).2 }
  obtain ⟨-, -, ends⟩ := x.strategy.timing_spans x.client r.cursor.request signals
    (x.strategy.ceiling r.cursor.request) 1 time w
  have fetched : x.recorded.fetch signals.uncancelled time r =
      settle (r.cursor.beginFetch r.world.diagnostics).1
        (x.strategy.trip x.client.recorded signals.uncancelled r.cursor.request
          (x.strategy.ceiling r.cursor.request) 1 time w) :=
    rfl
  rw [fetched] at accepted
  rcases trip : x.strategy.trip x.client.recorded signals.uncancelled r.cursor.request
      (x.strategy.ceiling r.cursor.request) 1 time w with
    ⟨⟨e | page, instant⟩ | _ | _, next⟩ <;> rw [trip] at accepted ends <;> cases accepted
  exact ends _ _ rfl

/-- A fetch is cut short by a cancellation, or there is no difference. -/
theorem fetch_uncancelled (early : signals.cancelledBefore time = false) :
    let cut := x.recorded.fetch signals time r
    let whole := x.recorded.fetch signals.uncancelled time r
    (signals.cancelledBefore (x.recorded.fetchTiming signals.uncancelled time r).openTo = false ∧
        cut = whole) ∨
    signals.cancelledBefore (x.recorded.fetchTiming signals.uncancelled time r).openTo = true ∧
      cut.1 = .error (.failed (.cancelled r.cursor.query.table)) ∧
      cut.2.cursor.state = .cancelled ∧ ∃ tail, whole.2.history = cut.2.history ++ tail := by
  intro cut whole
  let beginning := (r.cursor.beginFetch r.world.diagnostics).1
  let w : World (Recorded σ) :=
    { r.world with diagnostics := (r.cursor.beginFetch r.world.diagnostics).2 }
  let trip (signals : Signals) := x.strategy.trip x.client.recorded signals r.cursor.request
    (x.strategy.ceiling r.cursor.request) 1 time w
  have cut_eq : cut = settle beginning (trip signals) := rfl
  have whole_eq : whole = settle beginning (trip signals.uncancelled) := rfl
  obtain ⟨open_, same⟩ | ⟨closed, cancelled, tail, grown⟩ := x.strategy.trip_uncancelled x.client
    r.cursor.request (x.strategy.ceiling r.cursor.request) 1 w early
  · exact .inl ⟨open_, congrArg (settle beginning) same⟩
  · have stopped : cut = settle beginning (.interrupted .cancelled, (trip signals).2) := by
      rw [cut_eq, ← cancelled]
    refine .inr ⟨closed, ?_, ?_, tail, ?_⟩
    · rw [stopped]
      rfl
    · rw [stopped]
      rfl
    · rw [cut_eq, whole_eq, settle_history, settle_history]
      exact grown

end Fetches

/-- An advance without a cancellation sends nothing before it begins, and is open to one from its
beginning. -/
theorem le_timing (x : Executor σ) (signals : Signals) (steps time : Nat)
    (r : Running (Recorded σ)) :
    (∀ entry ∈ (x.recorded.timing signals.uncancelled steps time r).sent, time ≤ entry.1) ∧
      time ≤ (x.recorded.timing signals.uncancelled steps time r).openTo := by
  have none_sent (time : Nat) :
      ∀ entry ∈ ([] : List (Nat × StatementRequest)), time ≤ entry.1 := by simp
  induction steps generalizing time r with
  | zero => exact ⟨none_sent time, Nat.le_refl time⟩
  | succ steps ih =>
      rw [timing]
      cases r.cursor.step (signals.uncancelled.cancelledBefore time) with
      | ended => exact ⟨none_sent time, Nat.le_refl time⟩
      | cancel => exact ⟨none_sent time, Nat.le_refl time⟩
      | handOut record rest => exact ⟨none_sent time, Nat.le_refl time⟩
      | turn => exact ih time { r with cursor := r.cursor.turn }
      | finish => exact ⟨none_sent time, Nat.le_refl time⟩
      | fetch =>
          obtain ⟨early, start⟩ := x.le_fetchTiming time r signals
          dsimp only
          rcases fetched : x.recorded.fetch signals.uncancelled time r with ⟨outcome | later, next⟩
          · exact ⟨early, start⟩
          · rw [x.openTo_fetchTiming time r (by rw [fetched])] at start
            obtain ⟨behind, lasts⟩ := ih later next
            refine ⟨fun entry mem => ?_, Nat.le_trans start lasts⟩
            rcases List.mem_append.1 mem with first | rest
            · exact early entry first
            · exact Nat.le_trans start (behind entry rest)

/-- An advance is cut short by a cancellation, or there is no difference. -/
theorem advanceFrom_uncancelled (x : Executor σ) {signals : Signals} (steps time : Nat)
    (r : Running (Recorded σ)) (early : signals.cancelledBefore time = false) :
    let t := x.recorded.timing signals.uncancelled steps time r
    let cut := x.recorded.advanceFrom signals steps time r
    let whole := x.recorded.advanceFrom signals.uncancelled steps time r
    (signals.cancelledBefore t.openTo = false ∧ cut = whole) ∨
      signals.cancelledBefore t.openTo = true ∧ CutShort r.cursor.query.table cut whole := by
  induction steps generalizing time r with
  | zero => exact .inl ⟨early, rfl⟩
  | succ steps ih =>
      have never : signals.uncancelled.cancelledBefore time = false := rfl
      rw [timing, advanceFrom, advanceFrom, early, never]
      cases step : r.cursor.step false with
      | ended => exact .inl ⟨early, rfl⟩
      | cancel => exact .inl ⟨early, rfl⟩
      | handOut record rest => exact .inl ⟨early, rfl⟩
      | turn => exact ih time { r with cursor := r.cursor.turn } early
      | finish => exact .inl ⟨early, rfl⟩
      | fetch =>
          obtain ⟨open_, same⟩ | ⟨closed, outcome, state, tail, grown⟩ :=
            x.fetch_uncancelled time r early
          · rw [same]
            dsimp only
            rcases fetched : x.recorded.fetch signals.uncancelled time r with ⟨outcome | later, next⟩
            · exact .inl ⟨open_, rfl⟩
            · rw [x.openTo_fetchTiming time r (by rw [fetched])] at open_
              have query := x.recorded.fetch_query signals.uncancelled time r
              rw [fetched] at query
              rw [← query]
              exact ih later next open_
          · generalize x.recorded.fetch signals time r = cut at outcome state grown ⊢
            obtain ⟨stopped, next⟩ := cut
            subst outcome
            dsimp only at state grown ⊢
            rcases fetched : x.recorded.fetch signals.uncancelled time r with ⟨outcome | later, after⟩ <;>
              rw [fetched] at grown
            · exact .inr ⟨closed, rfl, state, tail, grown⟩
            · rw [x.openTo_fetchTiming time r (by rw [fetched])] at closed
              obtain ⟨more, added⟩ := x.advanceFrom_extends signals.uncancelled steps later after
              refine .inr ⟨?_, rfl, state, tail ++ more, ?_⟩
              · exact Signals.cancelledBefore_mono (x.le_timing signals steps later after).2 closed
              · rw [← List.append_assoc, ← grown]
                exact added

/-- An advance that a cancellation cuts short sends what it sends in time without it. -/
theorem timing_cut (x : Executor σ) (signals : Signals) (steps time : Nat)
    (r : Running (Recorded σ)) :
    (x.recorded.timing signals steps time r).sent =
      signals.inTime (x.recorded.timing signals.uncancelled steps time r).sent := by
  induction steps generalizing time r with
  | zero => rfl
  | succ steps ih =>
      cases come : signals.cancelledBefore time with
      | true =>
          have late := (x.le_timing signals (steps + 1) time r).1
          rw [Signals.inTime_of_late late come, timing, come]
          cases alive : r.cursor.state.isTerminal with
          | true => rw [Cursor.step_over true alive]
          | false => rw [Cursor.step_cancelled alive]
      | false =>
          have never : signals.uncancelled.cancelledBefore time = false := rfl
          rw [timing, timing, come, never]
          cases step : r.cursor.step false with
          | ended => rfl
          | cancel => rfl
          | handOut record rest => rfl
          | turn => exact ih time { r with cursor := r.cursor.turn }
          | finish => rfl
          | fetch =>
              have first : (x.recorded.fetchTiming signals time r).sent =
                  signals.inTime (x.recorded.fetchTiming signals.uncancelled time r).sent :=
                x.strategy.timing_cut x.client r.cursor.request _ 1 _ come
              dsimp only
              obtain ⟨-, same⟩ | ⟨closed, outcome, -⟩ := x.fetch_uncancelled time r come
              · rw [same]
                rcases x.recorded.fetch signals.uncancelled time r with ⟨outcome | later, next⟩
                · exact first
                · exact (congr (congrArg _ first) (ih later next)).trans
                    (Signals.inTime_append signals _ _).symm
              · generalize x.recorded.fetch signals time r = cut at outcome ⊢
                obtain ⟨stopped, next⟩ := cut
                subst outcome
                rcases fetched : x.recorded.fetch signals.uncancelled time r with
                  ⟨outcome | later, after⟩
                · exact first
                · rw [x.openTo_fetchTiming time r (by rw [fetched])] at closed
                  have late := (x.le_timing signals steps later after).1
                  change _ = signals.inTime (_ ++ Timing.sent _)
                  rw [Signals.inTime_append, Signals.inTime_of_late late closed, List.append_nil]
                  exact first

end Executor

/-! ### Any number of calls -/

/-- The call without its cancellation. -/
def Call.uncancelled (call : Call) : Call := { call with signals := call.signals.uncancelled }

/-- A cancellation that is returned is no row, and neither is the end. -/
theorem History.rows_cancelled (table : String) (n : Nat) :
    History.rows (.returned (.failed (.cancelled table)) :: List.replicate n (.returned .ended)) =
      [] := by
  have ended : History.rows (List.replicate n (.returned .ended)) = [] := by
    induction n with
    | zero => rfl
    | succ n ih => exact ih
  exact ended

namespace Executor

/-- Until when a cancellation of a call counts: the time that the call takes without it. -/
def openTo (x : Executor σ) (r : Running (Recorded σ)) (call : Call) : Nat :=
  (x.recorded.timing call.signals.uncancelled (call.extra + 1) 0 r).openTo

/-- The requests that a call sends, with the times when it sends them. -/
def sent (x : Executor σ) (r : Running (Recorded σ)) (call : Call) :
    List (Nat × StatementRequest) :=
  (x.recorded.timing call.signals (call.extra + 1) 0 r).sent

/-- A call of an enumeration under way is cancelled when the cancellation comes while the call is open
to it, and there is no difference otherwise. -/
theorem recordCall_uncancelled (x : Executor σ) (r : Running (Recorded σ)) (call : Call)
    (alive : r.cursor.state.isTerminal = false) :
    (call.signals.cancelledBefore (x.openTo r call) = false ∧
      x.recordCall r call = x.recordCall r call.uncancelled) ∨
    call.signals.cancelledBefore (x.openTo r call) = true ∧
      (x.recordCall r call).cursor.state = .cancelled ∧
      ∃ more tail, more.outcomes = [] ∧
        (x.recordCall r call).history = r.history ++ more ++
          [.returned (.failed (.cancelled r.cursor.query.table))] ∧
        (x.recordCall r call.uncancelled).history = r.history ++ more ++ tail := by
  cases come : call.signals.cancelled with
  | true =>
      have come (time : Nat) : call.signals.cancelledBefore time = true := by
        rw [Signals.cancelledBefore, come, Bool.true_or]
      obtain ⟨d, cancelled⟩ := x.recorded.advanceFrom_cancelled call.extra alive (come 0)
      obtain ⟨tail, grown⟩ := x.record_extends [call.uncancelled] r
      have called : x.recordCall r call = _ :=
        congrArg (fun result => result.2.noting [.returned result.1]) cancelled
      refine .inr ⟨come _, ?_, [], tail, rfl, ?_, ?_⟩
      · rw [called]
        rfl
      · rw [called, List.append_nil]
        rfl
      · rw [List.append_nil]
        exact grown
  | false =>
      have early : call.signals.cancelledBefore 0 = false := by
        rw [Signals.cancelledBefore, come]
        cases call.signals.cancelAfter <;> simp
      obtain ⟨open_, same⟩ | ⟨closed, cut⟩ := x.advanceFrom_uncancelled (call.extra + 1) 0 r early
      · exact .inl ⟨open_, congrArg (fun result => result.2.noting [.returned result.1]) same⟩
      · obtain ⟨more, added⟩ := x.advanceFrom_extends call.signals (call.extra + 1) 0 r
        have outcomes := x.outcomes_advanceFrom call.signals (call.extra + 1) 0 r
        rw [added, History.outcomes_append] at outcomes
        obtain ⟨tail, grown⟩ := cut.history_eq
        have called : (x.recordCall r call).history =
            (x.recorded.advanceFrom call.signals (call.extra + 1) 0 r).2.history ++
              [.returned (x.recorded.advanceFrom call.signals (call.extra + 1) 0 r).1] :=
          rfl
        let whole := x.recorded.advanceFrom call.signals.uncancelled (call.extra + 1) 0 r
        refine .inr ⟨closed, cut.state_eq, more, tail ++ [.returned whole.1],
          List.append_right_eq_self.1 outcomes, ?_, ?_⟩
        · rw [called, added, cut.outcome_eq]
        · rw [← added, ← List.append_assoc, ← grown]
          rfl

/-- A cancellation that calls have seen: the call that has seen it, what has passed in that call, and
what passes behind it without the cancellation. -/
structure Seen (x : Executor σ) (r : Running (Recorded σ)) (calls before : List Call) (call : Call)
    (after : List Call) (more tail : History) : Prop where
  calls_eq : calls = before ++ call :: after
  /-- There is no difference before. -/
  before_eq : x.record before r = x.record (before.map Call.uncancelled) r
  alive : (x.record before r).cursor.state.isTerminal = false
  /-- The cancellation comes while the call is open to it. -/
  comes : call.signals.cancelledBefore (x.openTo (x.record before r) call) = true
  silent : more.outcomes = []
  state_eq : (x.record calls r).cursor.state = .cancelled
  /-- The call returns the cancellation, and every later call the end. -/
  cut_eq : (x.record calls r).history = (x.record before r).history ++ more ++
    .returned (.failed (.cancelled r.cursor.query.table)) :: after.map fun _ => .returned .ended
  whole_eq : (x.record (calls.map Call.uncancelled) r).history =
    (x.record before r).history ++ more ++ tail

/-- Calls have seen a cancellation, or none comes while one of them is open to it and there is no
difference. -/
theorem record_uncancelled (x : Executor σ) (calls : List Call) (r : Running (Recorded σ)) :
    (x.record calls r = x.record (calls.map Call.uncancelled) r ∧
      ∀ before call after, calls = before ++ call :: after →
        (x.record before r).cursor.state.isTerminal = true ∨
          call.signals.cancelledBefore (x.openTo (x.record before r) call) = false) ∨
    ∃ before call after more tail, x.Seen r calls before call after more tail := by
  induction calls generalizing r with
  | nil => exact .inl ⟨rfl, fun before call after parts => by cases before <;> cases parts⟩
  | cons call calls ih =>
      cases alive : r.cursor.state.isTerminal with
      | true =>
          refine .inl ⟨?_, fun before _ _ _ => .inl ?_⟩
          · rw [x.record_over _ alive, x.record_over _ alive, List.map_map]
            rfl
          · rw [x.record_over before alive]
            exact alive
      | false =>
          obtain ⟨open_, same⟩ | ⟨closed, state, more, tail, silent, cut, whole⟩ :=
            x.recordCall_uncancelled r call alive
          · obtain ⟨equal, unseen⟩ | ⟨before, seer, after, more, tail, seen⟩ := ih (x.recordCall r call)
            · refine .inl ⟨?_, ?_⟩
              · rw [List.map_cons, record_cons, record_cons, ← same, equal]
              · intro before other after parts
                cases before with
                | nil =>
                    cases parts
                    exact .inr open_
                | cons first before =>
                    cases parts
                    exact unseen before other after rfl
            · have query : (x.recordCall r call).cursor.query = r.cursor.query :=
                x.record_query [call] r
              refine .inr ⟨call :: before, seer, after, more, tail, {
                calls_eq := by rw [seen.calls_eq]; rfl
                before_eq := by
                  rw [List.map_cons, record_cons, record_cons, ← same]
                  exact seen.before_eq
                alive := seen.alive
                comes := seen.comes
                silent := seen.silent
                state_eq := seen.state_eq
                cut_eq := by
                  rw [← query]
                  exact seen.cut_eq
                whole_eq := by
                  rw [List.map_cons, record_cons, ← same]
                  exact seen.whole_eq }⟩
          · have terminal : (x.recordCall r call).cursor.state.isTerminal = true := by
              rw [state]
              rfl
            obtain ⟨others, grown⟩ := x.record_extends (calls.map Call.uncancelled)
              (x.recordCall r call.uncancelled)
            exact .inr ⟨[], call, calls, more, tail ++ others, {
              calls_eq := rfl
              before_eq := rfl
              alive := alive
              comes := closed
              silent := silent
              state_eq := by
                rw [record_cons, x.record_over calls terminal]
                exact state
              cut_eq := by
                rw [record_cons, x.record_over calls terminal, Running.history_noting, cut,
                  List.append_assoc]
                rfl
              whole_eq := by
                rw [List.map_cons, record_cons, grown, whole, List.append_assoc]
                rfl }⟩

/-- Cancellation at any moment: over any store, with any strategy and for calls with any signals,
compared with the same calls without cancellations. The rows returned are a prefix of those returned
without. If no cancellation comes while a call is open to it, there is no difference at all. Otherwise
the first such call is the first difference: it returns the cancellation, every later call the end,
and the cursor keeps the token and the number of the pages accepted and the position of the rows
returned until then, of which there are as many without the cancellation. No request is sent after a
cancellation has come, and up to then each is sent when it is sent without the cancellation. -/
theorem calls_cancelled (x : Executor σ) (q : CompiledQuery) (settings : CursorSettings)
    (resume : Option String) (w : World σ) (calls : List Call) :
    let start : Running σ := ⟨.startAt q settings resume, w⟩
    let run := x.record calls start.observed
    let whole := x.record (calls.map Call.uncancelled) start.observed
    x.calls calls start = (run.history.outcomes, run.forget) ∧
    x.calls (calls.map Call.uncancelled) start = (whole.history.outcomes, whole.forget) ∧
    run.history.rows <+: whole.history.rows ∧
    ((run = whole ∧ ∀ before call after, calls = before ++ call :: after →
        (x.record before start.observed).cursor.state.isTerminal = true ∨
          call.signals.cancelledBefore (x.openTo (x.record before start.observed) call) = false) ∨
      ∃ before call after more tail, x.Seen start.observed calls before call after more tail ∧
        let h := (x.record before start.observed).history ++ more
        h.isOver = false ∧ run.cursor.nextToken = h.token resume ∧
          run.cursor.pages = h.pages.length ∧ run.cursor.position = h.rows.length) ∧
    ∀ before call after, calls = before ++ call :: after →
      let r := x.record before start.observed
      (x.recordCall r call).history.requests = r.history.requests ++ (x.sent r call).map Prod.snd ∧
        (∀ entry ∈ x.sent r call, call.signals.cancelledBefore entry.1 = false) ∧
        x.sent r call = call.signals.inTime (x.sent r call.uncancelled) := by
  intro start run whole
  refine ⟨x.calls_eq_record calls start, x.calls_eq_record _ start, ?_⟩
  have requests : ∀ before call after, calls = before ++ call :: after →
      let r := x.record before start.observed
      (x.recordCall r call).history.requests = r.history.requests ++ (x.sent r call).map Prod.snd ∧
        (∀ entry ∈ x.sent r call, call.signals.cancelledBefore entry.1 = false) ∧
        x.sent r call = call.signals.inTime (x.sent r call.uncancelled) := by
    intro before call after _ r
    have early := x.timing_early call.signals (call.extra + 1) 0 r
    refine ⟨?_, early.early, x.timing_cut call.signals (call.extra + 1) 0 r⟩
    rw [recordCall, Running.history_noting, History.requests_returned]
    exact early.requests_eq
  obtain ⟨equal, unseen⟩ | ⟨before, call, after, more, tail, seen⟩ :=
    x.record_uncancelled calls start.observed
  · have same : run = whole := equal
    exact ⟨⟨[], by rw [same, List.append_nil]⟩, .inl ⟨equal, unseen⟩, requests⟩
  · let h := (x.record before start.observed).history ++ more
    have cut : run.history = h ++ .returned (.failed (.cancelled q.table)) ::
        List.replicate after.length (.returned .ended) := by
      rw [← List.map_const']
      exact seen.cut_eq
    have rows : run.history.rows = h.rows := by
      rw [cut, History.rows_append, History.rows_cancelled, List.append_nil]
    have pages : run.history.pages = h.pages := by
      rw [cut, History.pages_append]
      exact (congrArg _ (History.pages_ended after.length)).trans (List.append_nil _)
    have whole_eq : whole.history = h ++ tail := seen.whole_eq
    have kept : run.cursor.Kept resume run.history := x.record_kept q settings resume w calls
    have earlier := x.record_kept q settings resume w before
    refine ⟨?_, .inr ⟨before, call, after, more, tail, seen, ?_, ?_, ?_, ?_⟩, requests⟩
    · rw [rows, whole_eq]
      exact ⟨tail.rows, (History.rows_append h tail).symm⟩
    · have going : h.isOver = (x.record before start.observed).history.isOver :=
        History.isOver_congr (by rw [History.outcomes_append, seen.silent, List.append_nil])
      exact going.trans (earlier.over_eq.symm.trans seen.alive)
    · rw [kept.token_eq, History.token_congr resume pages]
    · rw [kept.pages_eq, pages]
    · have state : run.cursor.state = .cancelled := seen.state_eq
      rw [kept.position_eq (by rw [state]; exact CursorState.noConfusion), rows]

/-- A failure, a pause of ten milliseconds, and a page: the call is open to a cancellation for as long.
With one in the pause the request is not sent again. -/
example :
    let x : Executor ScriptedStore := ⟨ScriptedStore.client, (Backoff.of 1 10 10).strategy⟩
    let r := Running.observed ⟨.startAt oneColumn .standard none, ⟨unevenPages, .start .silent⟩⟩
    x.openTo r ⟨.never, 5⟩ = 10 ∧
      (x.sent r ⟨.never, 5⟩).map Prod.fst = [0, 10] ∧
      (x.sent r ⟨⟨false, some 4, none⟩, 5⟩).map Prod.fst = [0] := by
  decide +kernel

end Executor

end Keyscan
