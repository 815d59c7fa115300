import Keyscan.Proofs.Execution.Delivery

/-!
Stops behind a page. An enumeration that is exhausted, that a round trip has failed, or that a
cancellation has hit during a round trip, has handed out every record it has received. So has one that
sees a cancellation between two pages, which is said of it as it is.

Between the steps of an enumeration no request is left open, so a cancellation that is returned right
behind a request, or behind a failure that would have been repeated, has come during that round trip.
-/

set_option autoImplicit false

namespace Keyscan

variable {σ : Type}

/-- Whether a round trip is open behind it: a request awaits its answer, or a failure what is made of
it. -/
def Happening.opens : Happening → Bool
  | .sent _ | .answered (.error _) => true
  | .answered (.ok _) | .returned _ => false

/-- How an enumeration stops, or is left, with its page used up. -/
inductive Cursor.StopsBehindPage (c : Cursor) (h : History) : Prop
  /-- No page is to follow the last one, or none is asked for without pagination. -/
  | exhausted (state : c.state = .exhausted)
  /-- A round trip has ended in a failure of the store. -/
  | storeFailed {table : String} {e : StoreError}
      (returned : Except.error (.storeFailed table e) ∈ h.items)
  /-- A cancellation has come during a round trip. -/
  | duringTrip {before after : History} {happening : Happening} {table : String}
      (history_eq : h = before ++ happening :: .returned (.failed (.cancelled table)) :: after)
      (opens : happening.opens = true)
  /-- Every record received has been handed out, as when a cancellation is seen between two pages. -/
  | betweenPages (handed_out : c.position = h.records.length)

/-! ### No request is left open -/

/-- A round trip that brings a page ends with it. -/
theorem RoundTrip.getLast?_of_page {s : Strategy} {signals : Signals} {request : StatementRequest}
    {outcome : TripOutcome} {block : History} (trip : RoundTrip s signals request outcome block)
    {page : Page} {time : Nat} (accepted : outcome = .answered (.ok page) time) :
    block.getLast? = some (.answered (.ok page)) := by
  induction trip with
  | accepted page time =>
      cases accepted
      rfl
  | failed e attempts time => cases accepted
  | unanswered start wait comes => cases accepted
  | paused e start wait comes => cases accepted
  | again e trip ih =>
      rw [List.getLast?_cons, List.getLast?_cons, ih accepted]
      rfl

/-- An error that a longer history holds has been returned last, or before. -/
theorem History.failed_of_returned {h before after : History} {happening : Happening}
    {o : Advance Row} {e : ExecutionError}
    (parts : h ++ [.returned o] = before ++ happening :: .returned (.failed e) :: after) :
    (h.getLast? = some happening ∧ o = .failed e) ∨
      ∃ after, h = before ++ happening :: .returned (.failed e) :: after := by
  have split := parts.trans (List.append_cons before happening (.returned (.failed e) :: after))
  obtain ⟨rfl, same⟩ | ⟨rest, earlier⟩ := parts_of_concat split
  · cases same
    exact .inl ⟨List.getLast?_concat, rfl⟩
  · exact .inr ⟨rest, by rw [earlier, ← List.append_cons]⟩

/-- Before the end and the first error, no error has been returned. -/
theorem History.not_failed_of_going {h before after : History} {happening : Happening}
    {e : ExecutionError} (going : h.isOver = false) :
    h ≠ before ++ happening :: .returned (.failed e) :: after := by
  rintro rfl
  simp [isOver, Happening.isLast] at going

namespace Cursor

/-- What holds of an enumeration at every step: no request is left open, and where it has stopped
behind a page every record has been handed out. -/
structure Settled (c : Cursor) (h : History) : Prop where
  closed : ∀ happening ∈ h.getLast?, happening.opens = false
  exhausted : c.state = .exhausted → c.position = h.records.length
  duringTrip : ∀ before happening table after,
    h = before ++ happening :: .returned (.failed (.cancelled table)) :: after →
      happening.opens = true → c.position = h.records.length

variable {s : Strategy} {signals : Signals} {q : CompiledQuery} {settings : CursorSettings}
  {resume : Option String} {c next : Cursor} {h block : History}

/-- An enumeration under way has not stopped. -/
theorem Underway.settled (u : c.Underway q settings resume h)
    (closed : ∀ happening ∈ h.getLast?, happening.opens = false) : c.Settled h where
  closed := closed
  exhausted state := by
    have alive := u.alive
    rw [state] at alive
    cases alive
  duringTrip _ _ _ _ parts _ := absurd parts (History.not_failed_of_going u.going)

/-- What is returned leaves no request open. -/
theorem closed_returned (o : Advance Row) :
    ∀ happening ∈ (h ++ [Happening.returned o]).getLast?, happening.opens = false := by
  intro happening last
  rw [List.getLast?_concat] at last
  cases last
  rfl

/-- The moves that do not return settle what they open. -/
theorem Settled.onward (settled : c.Settled h) (u : c.Underway q settings resume h)
    (move : c.Moves s signals block none next) : next.Settled (h ++ block) := by
  refine (u.onward move).settled ?_
  cases move with
  | accept alive awaiting trip =>
      intro happening last
      rw [List.getLast?_append, trip.getLast?_of_page rfl] at last
      cases last
      rfl
  | turn ready empty more =>
      rw [List.append_nil]
      exact settled.closed

/-- So do the moves that return, and those that stop behind a page have handed out every record. -/
theorem Settled.returns (settled : c.Settled h) (u : c.Underway q settings resume h)
    {o : Advance Row} (move : c.Moves s signals block (some o) next) :
    next.Settled (h ++ block ++ [.returned o]) := by
  -- a move that sends nothing finds nothing open
  have silent {before after : History} {happening : Happening} {table : String}
      (parts : h ++ [.returned o] =
        before ++ happening :: .returned (.failed (.cancelled table)) :: after)
      (opens : happening.opens = true) : False := by
    obtain ⟨last, -⟩ | ⟨after, earlier⟩ := History.failed_of_returned parts
    · rw [settled.closed happening last] at opens
      cases opens
    · exact History.not_failed_of_going u.going earlier
  -- a round trip follows only on the last record, and brings none unless it is accepted
  have handed_out (awaiting : c.state ≠ .materializing) (pages : block.pages = []) :
      c.position = (h ++ block ++ [Happening.returned o]).records.length := by
    have received : block.records = [] := by
      rw [History.records, pages]
      rfl
    rw [History.records_returned, History.records_append, received, List.append_nil]
    exact u.position_eq (u.awaiting awaiting).1
  cases move with
  | ended terminal =>
      rw [u.alive] at terminal
      cases terminal
  | cancel alive comes =>
      rw [List.append_nil]
      exact ⟨closed_returned _, (fun state => by cases state),
        fun _ _ _ _ parts opens => (silent parts opens).elim⟩
  | failFetch alive awaiting trip =>
      exact ⟨closed_returned _, (fun state => by cases state),
        fun _ _ _ _ _ _ => handed_out awaiting trip.pages_eq⟩
  | cancelFetch alive awaiting comes trip =>
      exact ⟨closed_returned _, (fun state => by cases state),
        fun _ _ _ _ _ _ => handed_out awaiting trip.pages_eq⟩
  | dropFetch alive awaiting comes trip =>
      exact (u.dropped awaiting trip).settled (closed_returned _)
  | row ready front read =>
      rw [List.append_nil]
      exact (u.row ready front read).settled (closed_returned _)
  | failRecord ready front read =>
      rw [List.append_nil]
      exact ⟨closed_returned _, (fun state => by cases state),
        fun _ _ _ _ parts opens => (silent parts opens).elim⟩
  | finish ready empty last =>
      rw [List.append_nil]
      refine ⟨closed_returned _, fun _ => ?_, fun _ _ _ _ parts opens => (silent parts opens).elim⟩
      rw [History.records_returned]
      exact u.position_eq empty

/-- A call that changes nothing leaves an enumeration settled. -/
theorem Settled.noted (settled : c.Settled h) {o : Advance Row}
    (none_failed : ∀ e, o ≠ .failed e) : c.Settled (h ++ [.returned o]) where
  closed := closed_returned o
  exhausted state := by
    rw [History.records_returned]
    exact settled.exhausted state
  duringTrip before happening table after parts opens := by
    rw [History.records_returned]
    obtain ⟨-, failed⟩ | ⟨after, earlier⟩ := History.failed_of_returned parts
    · exact absurd failed (none_failed _)
    · exact settled.duringTrip before happening table after earlier opens

/-- So does one that is over, or whose steps are used up. -/
theorem Settled.ended (settled : c.Settled h) : c.Settled (h ++ [.returned .ended]) :=
  settled.noted fun _ impossible => by cases impossible

theorem Settled.unfinished (settled : c.Settled h) : c.Settled (h ++ [.returned .unfinished]) :=
  settled.noted fun _ impossible => by cases impossible

theorem settled_startAt : (startAt q settings resume).Settled [] :=
  underway_startAt.settled fun _ none_yet => by cases none_yet

/-- An enumeration that stops behind a page has handed out every record it has received. -/
theorem StopsBehindPage.position_eq {comes : Interruption → Prop} (stops : c.StopsBehindPage h)
    (settled : c.Settled h) (d : c.Delivered s q settings comes h) :
    c.position = h.records.length := by
  cases stops with
  | exhausted state => exact settled.exhausted state
  | @storeFailed table e returned =>
      obtain ⟨interruption, interrupted, items⟩ := d.items_eq
      rw [items] at returned
      obtain delivered | interrupting := List.mem_append.1 returned
      · -- what becomes of a record is no failure of the store
        obtain ⟨i, inside, delivered⟩ := List.mem_mapIdx.1 delivered
        rw [CompiledQuery.deliver] at delivered
        cases made : q.materializer.materialize ((h.records.take c.position)[i]) with
        | ok row =>
            rw [made] at delivered
            cases delivered
        | error e =>
            rw [made] at delivered
            cases delivered
      · cases interrupted with
        | never => cases interrupting
        | store last attempts final handed => exact handed
        | cancelled signalled => simp at interrupting
  | duringTrip history_eq opens => exact settled.duringTrip _ _ _ _ history_eq opens
  | betweenPages handed_out => exact handed_out

end Cursor

/-! ### Any number of calls -/

/-- How an enumeration stands between calls, whatever store and signals. -/
theorem Executor.record_settled (x : Executor σ) (q : CompiledQuery) (settings : CursorSettings)
    (resume : Option String) (w : World σ) (calls : List Call) :
    let r := x.record calls (Running.observed ⟨.startAt q settings resume, w⟩)
    r.cursor.Settled r.history ∧
      r.cursor.Delivered x.strategy q settings
        (fun i => ∃ call ∈ calls, call.signals.Comes i) r.history := by
  intro r
  have start : (Cursor.startAt q settings resume).Settled [] := Cursor.settled_startAt
  have settled := x.record_underway_induction (I := fun c h => c.Settled h) w calls start
    (fun u settled move => settled.onward u move) (fun u settled move => settled.returns u move)
    Cursor.Settled.ended Cursor.Settled.unfinished
  exact ⟨settled, (x.record_stands q settings resume w calls).delivered⟩

end Keyscan
