import Keyscan.Proofs.Execution.Underway

/-!
Row delivery over any store. Whatever pages and failures a store answers with, the calls return what
becomes of the records received, one by one and in their order, and at most one error, which is the
last item. An enumeration that has returned the end or an error returns the end from then on. A call is
given up only when it is dropped.

Nothing is promised about when a call returns, because a store may answer with empty pages and tokens
for ever; but a call that has used up its steps has accepted pages with them.
-/

set_option autoImplicit false

namespace Keyscan

variable {σ : Type}

/-- A call that returns something else reports no drop. -/
theorem History.dropped_of_returned {h : History} {o : Advance Row} (waited : o ≠ .dropped)
    (mem : Advance.dropped ∈ (h ++ [Happening.returned o]).outcomes) :
    Advance.dropped ∈ h.outcomes := by
  rw [History.outcomes_returned] at mem
  obtain earlier | now := List.mem_append.1 mem
  · exact earlier
  · exact absurd (List.mem_singleton.1 now).symm waited

namespace Cursor

/-- What is returned besides what becomes of the records: nothing, the last failure of the store when
all records have been handed out, or a cancellation, which must have come. -/
inductive Interrupted (s : Strategy) (comes : Interruption → Prop) (c : Cursor) (h : History) :
    List (Except ExecutionError Row) → Prop
  | never : Interrupted s comes c h []
  | store (last : StoreError) (attempts : Nat)
      (final : h.answers.getLast? = some (.error last)) (handed : c.position = h.records.length) :
      Interrupted s comes c h [.error (.storeFailed c.query.table (s.handOn attempts last))]
  | cancelled (signalled : comes .cancelled) :
      Interrupted s comes c h [.error (.cancelled c.query.table)]

/-- What an enumeration of a query has delivered of what it has received, with the signals that come
to it. -/
structure Delivered (s : Strategy) (q : CompiledQuery) (settings : CursorSettings)
    (comes : Interruption → Prop) (c : Cursor) (h : History) : Prop where
  query_eq : c.query = q
  /-- No record is handed out before it is received. -/
  position_le : c.position ≤ h.records.length
  /-- The records up to the position have become rows, or an error at their own position. -/
  items_eq : ∃ interruption, Interrupted s comes c h interruption ∧
    h.items = (h.records.take c.position).mapIdx q.deliver ++ interruption
  /-- An error is the last item. -/
  error_last : ∀ item ∈ h.items.dropLast, item.isOk = true
  /-- No call is given up unless a drop comes. -/
  dropped_comes : Advance.dropped ∈ h.outcomes → comes .dropped
  /-- Without an error the end comes behind all records, and there is no page left to ask for. -/
  complete : h.isOver = true → (∀ item ∈ h.items, item.isOk = true) →
    c.position = h.records.length ∧ ¬ h.Continues settings
  /-- The cursor is at its end exactly when the caller has been told. -/
  over_iff : c.state.isTerminal = true ↔ h.isOver = true

variable {s : Strategy} {signals : Signals} {q : CompiledQuery} {settings : CursorSettings}
  {resume : Option String} {comes : Interruption → Prop} {c : Cursor} {h : History}

/-- An enumeration under way has delivered rows only. -/
theorem Underway.delivered (u : c.Underway q settings resume h)
    (dropped : Advance.dropped ∈ h.outcomes → comes .dropped) :
    c.Delivered s q settings comes h where
  query_eq := u.query_eq
  position_le := u.position_le
  items_eq := ⟨[], .never, by rw [u.items_eq, List.append_nil]⟩
  error_last item mem := History.isOk_of_mem_items u.going (List.dropLast_subset _ mem)
  dropped_comes := dropped
  complete terminal := by rw [u.going] at terminal; cases terminal
  over_iff := by rw [u.alive, u.going]

/-- An error ends an enumeration under way: what is to be shown of it is what it reports. -/
theorem Underway.delivered_failed (u : c.Underway q settings resume h) {block : History}
    {e : ExecutionError} {next : Cursor} {interruption : List (Except ExecutionError Row)}
    (query_eq : next.query = q) (terminal : next.state.isTerminal = true)
    (items : block.items = []) (pages : block.pages = [])
    (position_le : next.position ≤ h.records.length)
    (interrupted : Interrupted s comes next (h ++ block ++ [.returned (.failed e)]) interruption)
    (reported : h.items ++ [.error e] =
      (h.records.take next.position).mapIdx q.deliver ++ interruption)
    (dropped : Advance.dropped ∈ (h ++ block ++ [Happening.returned (.failed e)]).outcomes →
      comes .dropped) :
    next.Delivered s q settings comes (h ++ block ++ [.returned (.failed e)]) := by
  have records : (h ++ block).records = h.records := by
    rw [History.records_append, History.records, History.records, pages]
    exact List.append_nil _
  have returned : (h ++ block ++ [Happening.returned (.failed e)]).items =
      h.items ++ [.error e] := by
    rw [History.items_append, History.items_append, items, List.append_nil]
    rfl
  exact {
    query_eq := query_eq
    position_le := by rw [History.records_returned, records]; exact position_le
    items_eq := ⟨interruption, interrupted, by
      rw [returned, History.records_returned, records]; exact reported⟩
    error_last := fun item mem => by
      rw [returned, List.dropLast_concat] at mem
      exact History.isOk_of_mem_items u.going mem
    dropped_comes := dropped
    complete := fun _ rows => by
      have error := rows (.error e) (by rw [returned]; simp)
      cases error
    over_iff := by rw [History.isOver_returned]; simp [terminal, Happening.isLast] }

/-- The end of an enumeration under way: all records have become rows. -/
theorem Underway.delivered_finished (u : c.Underway q settings resume h) (empty : c.buffer = [])
    (last : ¬ h.Continues settings)
    (dropped : Advance.dropped ∈ (h ++ [Happening.returned .ended]).outcomes → comes .dropped) :
    ({ c with state := .exhausted } : Cursor).Delivered s q settings comes
      (h ++ [.returned .ended]) := by
  have items : (h ++ [Happening.returned .ended]).items = h.items := by
    rw [History.items_append]
    exact List.append_nil _
  exact {
    query_eq := u.query_eq
    position_le := by rw [History.records_returned]; exact u.position_le
    items_eq := ⟨[], .never, by
      rw [items, History.records_returned, List.append_nil]; exact u.items_eq⟩
    error_last := fun item mem => by
      rw [items] at mem
      exact History.isOk_of_mem_items u.going (List.dropLast_subset _ mem)
    dropped_comes := dropped
    complete := fun _ _ => by
      rw [History.records_returned, History.Continues, History.pages_returned]
      exact ⟨u.position_eq empty, last⟩
    over_iff := by rw [History.isOver_returned]; simp [CursorState.isTerminal, Happening.isLast] }

/-- A call that brings no item delivers nothing more. -/
theorem Delivered.noted (d : c.Delivered s q settings comes h)
    (terminal : c.state.isTerminal = true) {o : Advance Row}
    (empty : (Happening.returned o).item? = none) (waited : o ≠ .dropped) :
    c.Delivered s q settings comes (h ++ [.returned o]) := by
  have items : (h ++ [Happening.returned o]).items = h.items := by
    rw [History.items_append, History.items, History.items, List.filterMap_cons_none empty]
    exact List.append_nil _
  have told := d.over_iff.1 terminal
  obtain ⟨interruption, interrupted, items_eq⟩ := d.items_eq
  have still : Interrupted s comes c (h ++ [.returned o]) interruption := by
    cases interrupted with
    | never => exact .never
    | store last attempts final handed =>
        exact .store last attempts (by rw [History.answers_returned]; exact final)
          (by rw [History.records_returned]; exact handed)
    | cancelled signalled => exact .cancelled signalled
  exact {
    query_eq := d.query_eq
    position_le := by rw [History.records_returned]; exact d.position_le
    items_eq := ⟨interruption, still, by rw [items, History.records_returned]; exact items_eq⟩
    error_last := by rw [items]; exact d.error_last
    dropped_comes := fun mem => d.dropped_comes (History.dropped_of_returned waited mem)
    complete := by
      rw [items, History.records_returned, History.Continues, History.pages_returned]
      exact fun _ => d.complete told
    over_iff := by rw [History.isOver_returned, told]; simp [terminal] }

/-- A move that returns adds no drop to what has been returned, unless one comes. -/
theorem Moves.dropped_comes {block : History} {o : Advance Row} {next : Cursor}
    (move : c.Moves s signals block (some o) next) (signalled : ∀ i, signals.Comes i → comes i)
    (before : Advance.dropped ∈ h.outcomes → comes .dropped) :
    Advance.dropped ∈ (h ++ block ++ [Happening.returned o]).outcomes → comes .dropped := by
  intro mem
  rw [History.outcomes_returned, History.outcomes_append, move.outcomes_eq, List.append_nil] at mem
  obtain earlier | now := List.mem_append.1 mem
  · exact before earlier
  · cases List.mem_singleton.1 now
    exact signalled .dropped move.comes_of_dropped

/-- How an enumeration stands between calls: it is under way, or over with all that it delivers. -/
def Stands (s : Strategy) (q : CompiledQuery) (settings : CursorSettings) (resume : Option String)
    (comes : Interruption → Prop) (c : Cursor) (h : History) : Prop :=
  c.Underway q settings resume h ∧ (Advance.dropped ∈ h.outcomes → comes .dropped) ∨
    c.state.isTerminal = true ∧ c.Delivered s q settings comes h

/-- A new enumeration is under way. -/
theorem stands_startAt : Stands s q settings resume comes (startAt q settings resume) [] :=
  .inl ⟨underway_startAt, fun none_yet => by cases none_yet⟩

theorem Stands.delivered (stands : Stands s q settings resume comes c h) :
    c.Delivered s q settings comes h := by
  obtain ⟨u, dropped⟩ | ⟨_, d⟩ := stands
  · exact u.delivered dropped
  · exact d

/-- A move that does not return is one of an enumeration under way. -/
theorem Stands.onward (stands : Stands s q settings resume comes c h) {block : History}
    {next : Cursor} (move : c.Moves s signals block none next) :
    Stands s q settings resume comes next (h ++ block) := by
  obtain ⟨u, dropped⟩ | ⟨terminal, _⟩ := stands
  · refine .inl ⟨u.onward move, ?_⟩
    rw [History.outcomes_append, move.outcomes_eq, List.append_nil]
    exact dropped
  · obtain ⟨-, impossible, -⟩ := move.of_terminal terminal
    cases impossible

/-- Every move that returns leaves an enumeration that is under way or over. -/
theorem Stands.returns (stands : Stands s q settings resume comes c h)
    (signalled : ∀ i, signals.Comes i → comes i) {block : History} {o : Advance Row}
    {next : Cursor} (move : c.Moves s signals block (some o) next) :
    Stands s q settings resume comes next (h ++ block ++ [.returned o]) := by
  obtain ⟨u, before⟩ | ⟨terminal, d⟩ := stands
  · have dropped := move.dropped_comes signalled before
    cases move with
    | ended terminal => rw [u.alive] at terminal; cases terminal
    | cancel alive cancel =>
        refine .inr ⟨rfl, u.delivered_failed u.query_eq rfl rfl rfl u.position_le
          (.cancelled (signalled _ cancel)) ?_ dropped⟩
        rw [u.items_eq]
    | @failFetch alive awaiting e time _ trip =>
        obtain ⟨last, attempts, final, rfl⟩ := trip.failure_eq rfl
        obtain ⟨empty, _⟩ := u.awaiting awaiting
        refine .inr ⟨rfl, u.delivered_failed u.query_eq rfl trip.items_eq trip.pages_eq u.position_le
          (.store last attempts ?_ ?_) ?_ dropped⟩
        · rw [History.answers_returned, History.answers_append, List.getLast?_append, final]
          rfl
        · have received : block.records = [] := by
            rw [History.records, trip.pages_eq]
            rfl
          rw [History.records_returned, History.records_append, received, List.append_nil]
          exact u.position_eq empty
        · rw [u.items_eq]
    | cancelFetch alive awaiting cancel trip =>
        refine .inr ⟨rfl, u.delivered_failed u.query_eq rfl trip.items_eq trip.pages_eq u.position_le
          (.cancelled (signalled _ cancel)) ?_ dropped⟩
        rw [u.items_eq]
    | dropFetch alive awaiting drop trip => exact .inl ⟨u.dropped awaiting trip, dropped⟩
    | row ready front read =>
        rw [List.append_nil] at dropped ⊢
        exact .inl ⟨u.row ready front read, dropped⟩
    | failRecord ready front read =>
        obtain ⟨inside, _, items⟩ := u.front_eq front
        refine .inr ⟨rfl, u.delivered_failed u.query_eq rfl rfl rfl inside .never ?_ dropped⟩
        rw [List.append_nil, items, ← u.query_eq, read]
    | finish ready empty last =>
        rw [List.append_nil] at dropped ⊢
        exact .inr ⟨rfl,
          u.delivered_finished empty (mt (u.continues_iff ready).1 last) dropped⟩
  · obtain ⟨rfl, same, rfl⟩ := move.of_terminal terminal
    cases same
    rw [List.append_nil]
    exact .inr ⟨terminal, d.noted terminal rfl fun impossible => by cases impossible⟩

/-- So does a call whose steps are used up. -/
theorem Stands.unfinished (stands : Stands s q settings resume comes c h) :
    Stands s q settings resume comes c (h ++ [.returned .unfinished]) := by
  have waited : (Advance.unfinished : Advance Row) ≠ .dropped := fun impossible => by
    cases impossible
  obtain ⟨u, dropped⟩ | ⟨terminal, d⟩ := stands
  · exact .inl ⟨u.unfinished, fun mem => dropped (History.dropped_of_returned waited mem)⟩
  · exact .inr ⟨terminal, d.noted terminal rfl waited⟩

end Cursor

/-! ### Any number of calls -/

namespace Executor

/-- The steps that a call has taken are paid for by the pages it has accepted: two for each, one to
accept it and one to turn to the next, which only a cursor that awaits a page has taken already. -/
def Paid (steps pages left : Nat) (c : Cursor) (h : History) : Prop :=
  steps + 2 * pages ≤ left + 2 * h.pages.length + if c.state = .materializing then 0 else 1

/-- A move that does not return is paid for. -/
theorem Paid.onward {s : Strategy} {signals : Signals} {steps pages left : Nat} {c next : Cursor}
    {h block : History} (paid : Paid steps pages (left + 1) c h)
    (move : c.Moves s signals block none next) : Paid steps pages left next (h ++ block) := by
  cases move with
  | accept alive awaiting trip =>
      rw [Paid, if_neg awaiting] at paid
      rw [Paid, if_pos rfl, History.pages_append, trip.pages_eq, List.length_append]
      simp only [TripOutcome.pages, List.length_singleton]
      omega
  | turn ready empty more =>
      rw [Paid, if_pos ready] at paid
      rw [Paid, if_neg (by simp), List.append_nil]
      omega

/-- A call that has used up its steps has accepted a page with every second one. -/
theorem pages_of_unfinished (x : Executor σ) (call : Call) (r : Running (Recorded σ))
    (unfinished : (x.recordCall r call).history.outcomes.getLast? = some .unfinished) :
    r.history.pages.length + call.extra / 2 ≤ (x.recordCall r call).history.pages.length := by
  have paid := x.advanceFrom_induction call.signals
    (P := Paid (call.extra + 1) r.history.pages.length)
    (Q := fun o c h => o = .unfinished → Paid (call.extra + 1) r.history.pages.length 0 c h)
    Paid.onward (fun _ move impossible => by subst impossible; cases move) (fun paid _ => paid)
    (call.extra + 1) 0 (r := r) (Nat.le_add_right _ _)
  rw [recordCall, Running.history_noting, History.outcomes_returned,
    List.getLast?_concat] at unfinished
  rw [recordCall, Running.history_noting, History.pages_returned, nextWithin]
  have spent := paid (Option.some.inj unfinished)
  rw [Paid] at spent
  split at spent <;> omega

/-- A call that is given up has been dropped itself. -/
theorem comes_of_dropped (x : Executor σ) (call : Call) (r : Running (Recorded σ))
    (dropped : (x.recordCall r call).history.outcomes.getLast? = some .dropped) :
    call.signals.Comes .dropped := by
  rw [recordCall, Running.history_noting, History.outcomes_returned,
    List.getLast?_concat] at dropped
  exact x.advanceFrom_induction call.signals (P := fun _ _ _ => True)
    (Q := fun o _ _ => o = .dropped → call.signals.Comes .dropped)
    (fun _ _ => trivial) (fun _ move given => by subst given; exact move.comes_of_dropped)
    (fun _ impossible => by cases impossible) (call.extra + 1) 0 (r := r) trivial
    (Option.some.inj dropped)

/-- How an enumeration stands behind any number of calls, with the signals that come to them. -/
theorem record_stands (x : Executor σ) (q : CompiledQuery) (settings : CursorSettings)
    (resume : Option String) (w : World σ) (calls : List Call) :
    let r := x.record calls (Running.observed ⟨.startAt q settings resume, w⟩)
    Cursor.Stands x.strategy q settings resume (fun i => ∃ call ∈ calls, call.signals.Comes i)
      r.cursor r.history :=
  x.record_induction calls
    (I := Cursor.Stands x.strategy q settings resume
      fun i => ∃ call ∈ calls, call.signals.Comes i)
    (fun _ stands move => stands.onward move)
    (fun mem stands move => stands.returns (fun _ comes => ⟨_, mem, comes⟩) move)
    Cursor.Stands.unfinished
    (r := Running.observed ⟨.startAt q settings resume, w⟩) Cursor.stands_startAt

/-- What holds of a new enumeration, and is kept by the moves of one under way, holds between the calls
of a run, when the calls that only note their end keep it too. -/
theorem record_underway_induction (x : Executor σ) {q : CompiledQuery} {settings : CursorSettings}
    {resume : Option String} {I : Cursor → History → Prop} (w : World σ) (calls : List Call)
    (start : I (.startAt q settings resume) [])
    (onward : ∀ {signals c h block next}, c.Underway q settings resume h → I c h →
      c.Moves x.strategy signals block none next → I next (h ++ block))
    (returns : ∀ {signals c h block o next}, c.Underway q settings resume h → I c h →
      c.Moves x.strategy signals block (some o) next → I next (h ++ block ++ [.returned o]))
    (ended : ∀ {c h}, I c h → I c (h ++ [.returned .ended]))
    (unfinished : ∀ {c h}, I c h → I c (h ++ [.returned .unfinished])) :
    let r := x.record calls (Running.observed ⟨.startAt q settings resume, w⟩)
    I r.cursor r.history := by
  have kept := x.record_induction calls
    (I := fun c h => Cursor.Stands x.strategy q settings resume (fun _ => True) c h ∧ I c h)
    (fun _ both move => ⟨both.1.onward move, by
      obtain ⟨⟨u, -⟩ | ⟨terminal, -⟩, holds⟩ := both
      · exact onward u holds move
      · obtain ⟨-, impossible, -⟩ := move.of_terminal terminal
        cases impossible⟩)
    (fun _ both move => ⟨both.1.returns (fun _ _ => trivial) move, by
      obtain ⟨⟨u, -⟩ | ⟨terminal, -⟩, holds⟩ := both
      · exact returns u holds move
      · -- behind the end a move only notes the end again
        obtain ⟨rfl, same, rfl⟩ := move.of_terminal terminal
        cases same
        rw [List.append_nil]
        exact ended holds⟩)
    (fun both => ⟨both.1.unfinished, unfinished both.2⟩)
    (r := Running.observed ⟨.startAt q settings resume, w⟩) ⟨Cursor.stands_startAt, start⟩
  exact kept.2

/-- Row delivery: over any store, and for calls with any signals, the calls of an enumeration return
what has become of the records received, as `Delivered` says. A cancellation is reported only when one
has come, and a drop only by a call that is dropped. Once the end or an error has been returned, every
call returns the end, and neither sends anything nor changes cursor, store, events or counters. The
recorded run is the run itself. -/
theorem calls_deliver (x : Executor σ) (q : CompiledQuery) (settings : CursorSettings)
    (resume : Option String) (w : World σ) (calls : List Call) :
    let r := x.record calls (Running.observed ⟨.startAt q settings resume, w⟩)
    x.calls calls ⟨.startAt q settings resume, w⟩ = (r.history.outcomes, r.forget) ∧
      r.cursor.Delivered x.strategy q settings
        (fun i => ∃ call ∈ calls, call.signals.Comes i) r.history ∧
      (r.history.isOver = true → ∀ more,
        x.calls more r.forget = (more.map fun _ => .ended, r.forget) ∧
          x.record more r = r.noting (more.map fun _ => .returned .ended)) ∧
      ∀ call,
        ((x.recordCall r call).history.outcomes.getLast? = some .dropped →
          call.signals.Comes .dropped) ∧
        ((x.recordCall r call).history.outcomes.getLast? = some .unfinished →
          r.history.pages.length + call.extra / 2 ≤
            (x.recordCall r call).history.pages.length) := by
  intro r
  have delivered := (x.record_stands q settings resume w calls).delivered
  refine ⟨x.calls_eq_record calls _, delivered, ?_,
    fun call => ⟨x.comes_of_dropped call r, x.pages_of_unfinished call r⟩⟩
  intro told more
  have terminal := delivered.over_iff.2 told
  exact ⟨x.calls_over more terminal, x.record_over more terminal⟩

end Executor

end Keyscan
