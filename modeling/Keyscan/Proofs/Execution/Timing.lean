import Keyscan.Proofs.Execution.Failures
import Keyscan.Proofs.Execution.Runs

/-!
When requests are sent. A round trip waits for answers and, between its attempts, for pauses to pass;
`Strategy.timing` follows it and tells when it sends its requests, and until when a cancellation still
counts. `Executor.timing` does so for an advance.

No request is sent after a cancellation has come, whatever else comes. What is sent before one does not
depend on it (`Strategy.timing_cut`, `Executor.timing_cut` in Proofs.Execution.Cancellation), so the
times are those at which cancellations stop the sending.
-/

set_option autoImplicit false

namespace Keyscan

variable {σ : Type}

/-! ### Waits -/

namespace Signals

/-- The signals without cancellation. -/
def uncancelled (s : Signals) : Signals := { s with cancelled := false, cancelAfter := none }

/-- Until when a cancellation ends a wait: up to its end, or up to a drop, and then at the very moment
of the drop too. -/
def openTo (s : Signals) (start wait : Nat) : Nat :=
  match s.uncancelled.interruption? start wait with
  | none => start + wait
  | some _ => max start (s.dropAfter.elim 0 (· + 1))

variable {s : Signals} {start wait : Nat}

theorem start_le_openTo (s : Signals) (start wait : Nat) : start ≤ s.openTo start wait := by
  unfold openTo
  split
  · exact Nat.le_add_right start wait
  · exact Nat.le_max_left _ _

theorem openTo_eq (whole : s.uncancelled.interruption? start wait = none) :
    s.openTo start wait = start + wait := by
  rw [openTo, whole]

/-- A cancellation that has come by a time has come by every later one. -/
theorem cancelledBefore_mono {time later : Nat} (le : time ≤ later)
    (come : s.cancelledBefore time = true) : s.cancelledBefore later = true := by
  cases after : s.cancelAfter with
  | none => simpa [cancelledBefore, after] using come
  | some c =>
      simp only [cancelledBefore, after, Option.any_some, Bool.or_eq_true,
        decide_eq_true_eq] at come ⊢
      exact come.imp id fun before => Nat.lt_of_lt_of_le before le

/-- Among waits without a cancellation before, one is cancelled when the cancellation comes while it is
open to it, and ends as it does without cancellation otherwise. -/
theorem interruption?_eq_of_early (early : s.cancelledBefore start = false) (wait : Nat) :
    s.interruption? start wait =
      if s.cancelledBefore (s.openTo start wait) then some .cancelled
      else s.uncancelled.interruption? start wait := by
  obtain ⟨cancelled, cancelAfter, dropAfter⟩ := s
  simp only [cancelledBefore, Bool.or_eq_false_iff] at early
  obtain ⟨rfl, late⟩ := early
  by_cases still : wait = 0
  · subst still
    simp [interruption?, openTo, cancelledBefore, late]
  · cases cancelAfter with
    | none => simp [interruption?, uncancelled, cancelTime?, cancelledBefore]
    | some c =>
        have behind : start ≤ c := by simpa using late
        cases dropAfter with
        | none =>
            by_cases during : c < start + wait <;>
              simp [interruption?, openTo, uncancelled, cancelTime?, cancelledBefore,
                Option.filter_some, still, during]
        | some d =>
            have reaches : c < max start (d + 1) ↔ c ≤ d := by omega
            by_cases dropped : d < start + wait <;> by_cases during : c < start + wait <;>
              simp only [interruption?, openTo, uncancelled, cancelTime?, cancelledBefore,
                Option.filter_some, Option.filter_none, Option.elim_some, Option.any_some,
                Bool.false_or, Bool.false_eq_true, if_false, if_true, decide_true, decide_false,
                decide_eq_true_eq, still, during, dropped, reaches]
            -- The cancellation comes behind the wait, and the drop during it.
            rw [if_neg (by omega)]

/-- No cancellation comes during a wait that is not interrupted. -/
theorem early_of_whole (early : s.cancelledBefore start = false)
    (whole : s.interruption? start wait = none) : s.cancelledBefore (start + wait) = false := by
  rw [interruption?_eq_of_early early] at whole
  split at whole
  · cases whole
  · rw [openTo_eq whole] at *
    simp_all

/-! ### Requests sent in time -/

/-- Those of some requests that are sent before a cancellation has come. -/
def inTime (s : Signals) (sent : List (Nat × StatementRequest)) : List (Nat × StatementRequest) :=
  sent.filter fun entry => !s.cancelledBefore entry.1

variable {sent : List (Nat × StatementRequest)} {request : StatementRequest} {time : Nat}

theorem inTime_cons (early : s.cancelledBefore time = false) :
    s.inTime ((time, request) :: sent) = (time, request) :: s.inTime sent :=
  List.filter_cons_of_pos (by rw [early]; rfl)

theorem inTime_one (early : s.cancelledBefore time = false) :
    s.inTime [(time, request)] = [(time, request)] :=
  inTime_cons early

theorem inTime_append (s : Signals) (front sent : List (Nat × StatementRequest)) :
    s.inTime (front ++ sent) = s.inTime front ++ s.inTime sent :=
  List.filter_append front sent

theorem inTime_cancelled (comes : Nat) (sent : List (Nat × StatementRequest)) :
    inTime ⟨false, some comes, none⟩ sent = sent.filter (·.1 ≤ comes) :=
  List.filter_congr fun entry _ => by
    rw [cancelledBefore, Bool.false_or, Option.any_some, ← decide_not]
    exact decide_eq_decide.2 Nat.not_lt

/-- Behind a cancellation nothing is sent in time. -/
theorem inTime_of_late (late : ∀ entry ∈ sent, time ≤ entry.1)
    (come : s.cancelledBefore time = true) : s.inTime sent = [] := by
  refine List.filter_eq_nil_iff.2 fun entry mem => ?_
  rw [cancelledBefore_mono (late entry mem) come]
  exact Bool.false_ne_true

end Signals

/-! ### Round trips and advances -/

/-- What is to be known of the time that something takes. -/
structure Timing where
  /-- The requests sent, with the times when they are. -/
  sent : List (Nat × StatementRequest)
  /-- Until when a cancellation counts. -/
  openTo : Nat

/-- The timing with more requests in front. -/
def Timing.behind (t : Timing) (sent : List (Nat × StatementRequest)) : Timing :=
  { t with sent := sent ++ t.sent }

/-- The timing of a round trip, attempt by attempt. -/
def Strategy.timing (s : Strategy) (client : StoreClient σ) (signals : Signals)
    (request : StatementRequest) : (repetitions attempts time : Nat) → World σ → Timing
  | 0, _, time, w =>
      ⟨[(time, request)], signals.openTo time (client.latency (client.receive request w.store))⟩
  | repetitions + 1, attempts, time, w =>
      match client.attempt signals request time w with
      | (.answered (.error e) later, w) =>
          if s.repeats e then
            match signals.interruption? later (s.pause attempts) with
            | some _ => ⟨[(time, request)], signals.openTo later (s.pause attempts)⟩
            | none =>
                (timing s client signals request repetitions (attempts + 1)
                  (later + s.pause attempts)
                  { w with diagnostics := s.reportRetry attempts e w.diagnostics }).behind
                  [(time, request)]
          else ⟨[(time, request)], later⟩
      | (.answered (.ok _) later, _) => ⟨[(time, request)], later⟩
      | (.interrupted _, _) =>
          ⟨[(time, request)],
            signals.openTo time (client.latency (client.receive request w.store))⟩

/-- The timing of a fetch. -/
def Executor.fetchTiming (x : Executor σ) (signals : Signals) (time : Nat) (r : Running σ) : Timing :=
  x.strategy.timing x.client signals r.cursor.request (x.strategy.ceiling r.cursor.request) 1 time
    { r.world with diagnostics := (r.cursor.beginFetch r.world.diagnostics).2 }

/-- The timing of an advance, step by step. -/
def Executor.timing (x : Executor σ) (signals : Signals) :
    (steps time : Nat) → Running σ → Timing
  | 0, time, _ => ⟨[], time⟩
  | steps + 1, time, r =>
      match r.cursor.step (signals.cancelledBefore time) with
      | .fetch =>
          let fetch := x.fetchTiming signals time r
          match x.fetch signals time r with
          | (.ok later, r) => (timing x signals steps later r).behind fetch.sent
          | (.error _, _) => fetch
      | .turn => timing x signals steps time { r with cursor := r.cursor.turn }
      | _ => ⟨[], time⟩

/-! ### No request behind a cancellation -/

/-- The requests of a timing are those that a history has in addition, and each is sent before a
cancellation has come. -/
structure Timing.Early (signals : Signals) (before after : History) (t : Timing) : Prop where
  requests_eq : after.requests = before.requests ++ t.sent.map Prod.snd
  early : ∀ entry ∈ t.sent, signals.cancelledBefore entry.1 = false

section Early

variable {signals : Signals} {time : Nat}

/-- A single request is early when it is sent early. -/
theorem Timing.Early.one {request : StatementRequest} {h others : History}
    (early : signals.cancelledBefore time = false) (silent : others.requests = []) (n : Nat) :
    Timing.Early signals h (h ++ .sent request :: others) ⟨[(time, request)], n⟩ where
  requests_eq := by
    have sent : History.requests (.sent request :: others) = request :: others.requests := rfl
    rw [History.requests_append, sent, silent]
    rfl
  early entry mem := by
    rw [List.mem_singleton.1 mem]
    exact early

/-- Early requests behind early ones are early. -/
theorem Timing.Early.behind {h mid after : History} {t : Timing} {front : Timing}
    (first : front.Early signals h mid) (rest : t.Early signals mid after) :
    (t.behind front.sent).Early signals h after where
  requests_eq := by
    rw [rest.requests_eq, first.requests_eq, List.append_assoc, ← List.map_append]
    rfl
  early entry mem := (List.mem_append.1 mem).elim (first.early entry) (rest.early entry)

/-- The requests of a round trip are early, and so is its end when it has an answer. -/
theorem Strategy.timing_early (s : Strategy) (client : StoreClient σ) (request : StatementRequest)
    (repetitions attempts : Nat) (w : World (Recorded σ))
    (early : signals.cancelledBefore time = false) :
    let trip := s.trip client.recorded signals request repetitions attempts time w
    (s.timing client.recorded signals request repetitions attempts time w).Early signals
        w.store.history trip.2.store.history ∧
      ∀ answer later, trip.1 = .answered answer later → signals.cancelledBefore later = false := by
  induction repetitions generalizing attempts time w with
  | zero =>
      rw [trip, timing]
      cases comes : signals.interruption? time (client.waits request w) with
      | some i =>
          rw [client.attempt_interrupted request w comes]
          exact ⟨.one early rfl _, fun _ _ impossible => by cases impossible⟩
      | none =>
          have late := Signals.early_of_whole early comes
          rw [client.attempt_whole request w comes]
          cases (client.execute request w.store.store).1 with
          | error e => exact ⟨.one early rfl _, fun _ _ ended => by cases ended; exact late⟩
          | ok page => exact ⟨.one early rfl _, fun _ _ ended => by cases ended; exact late⟩
  | succ repetitions ih =>
      rw [trip, timing]
      cases comes : signals.interruption? time (client.waits request w) with
      | some i =>
          rw [client.attempt_interrupted request w comes]
          exact ⟨.one early rfl _, fun _ _ impossible => by cases impossible⟩
      | none =>
          have late := Signals.early_of_whole early comes
          rw [client.attempt_whole request w comes]
          cases (client.execute request w.store.store).1 with
          | ok page => exact ⟨.one early rfl _, fun _ _ ended => by cases ended; exact late⟩
          | error e =>
              cases repeats : s.repeats e with
              | false =>
                  simp only [repeats, Bool.false_eq_true, if_false]
                  exact ⟨.one early rfl _, fun _ _ ended => by cases ended; exact late⟩
              | true =>
                  simp only [repeats, if_true]
                  cases pause : signals.interruption? (time + client.waits request w)
                      (s.pause attempts) with
                  | some i => exact ⟨.one early rfl _, fun _ _ impossible => by cases impossible⟩
                  | none =>
                      obtain ⟨rest, ends⟩ := ih (attempts + 1)
                        ⟨⟨(client.execute request w.store.store).2, w.store.history ++
                          [.sent request, .answered (.error e)]⟩,
                          s.reportRetry attempts e w.diagnostics⟩
                        (Signals.early_of_whole late pause)
                      exact ⟨(Timing.Early.one early rfl 0).behind rest, ends⟩

/-- The requests of an advance are early. -/
theorem Executor.timing_early (x : Executor σ) (signals : Signals) (steps time : Nat)
    (r : Running (Recorded σ)) :
    (x.recorded.timing signals steps time r).Early signals r.history
      (x.recorded.advanceFrom signals steps time r).2.history := by
  have none_sent (h : History) (n : Nat) : Timing.Early signals h h ⟨[], n⟩ :=
    ⟨(List.append_nil _).symm, fun _ none => by cases none⟩
  induction steps generalizing time r with
  | zero => exact none_sent _ time
  | succ steps ih =>
      rw [advanceFrom, timing]
      cases step : r.cursor.step (signals.cancelledBefore time) with
      | ended => exact none_sent _ time
      | cancel => exact none_sent _ time
      | handOut record rest => exact none_sent _ time
      | turn => exact ih time { r with cursor := r.cursor.turn }
      | finish => exact none_sent _ time
      | fetch =>
          have early := Cursor.quiet_of_fetch step
          obtain ⟨trip, -⟩ := x.strategy.timing_early x.client r.cursor.request
            (x.strategy.ceiling r.cursor.request) 1
            { r.world with diagnostics := (r.cursor.beginFetch r.world.diagnostics).2 } early
          have history := settle_history (r.cursor.beginFetch r.world.diagnostics).1
            (x.strategy.run x.client.recorded signals r.cursor.request time
              { r.world with diagnostics := (r.cursor.beginFetch r.world.diagnostics).2 })
          rw [Strategy.run] at history
          rw [← history] at trip
          change Timing.Early signals r.history (x.recorded.fetch signals time r).2.history _ at trip
          dsimp only
          generalize x.recorded.fetch signals time r = fetched at trip ⊢
          obtain ⟨outcome | later, next⟩ := fetched
          · exact trip
          · exact trip.behind (ih later next)

end Early

end Keyscan
