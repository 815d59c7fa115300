import Keyscan.Proofs.Execution.RowTable

/-!
Draining a table that can be read throughout, from any token on and without disturbances. With
pagination the rows behind the token come, without it those of one page (`drain_offset`); with a token
that is none of the table there is nothing but a failure of the store (`drain_refused`).

A `Stage` says which rows an enumeration is still to bring and with which token it will end. Each
advance takes it from one stage to the next, and draining is an induction on the rows that are left.
-/

set_option autoImplicit false

namespace Keyscan.RowTable

variable (t : RowTable) (settings : CursorSettings) (size : Nat)

/-! ### Stages -/

/-- An enumeration of the table that nothing disturbs, with pages of a size. -/
structure Quiet (r : Running MemoryStore) : Prop where
  query_eq : r.cursor.query = t.query
  settings_eq : r.cursor.settings = settings
  held : t.Held r.world.store
  quiet : r.world.store.failures = []
  size_eq : r.world.store.limitFor settings.pageSize = size

/-- It is to ask for the page at an offset. -/
structure Awaiting (r : Running MemoryStore) (offset : Nat) : Prop
    extends t.Quiet settings size r where
  alive : r.cursor.state.isTerminal = false
  awaiting : r.cursor.state ≠ .materializing
  empty : r.cursor.buffer = []
  offset_eq : t.offset r.cursor.nextToken = .ok offset

/-- It holds so many records at an offset, and the token behind them. -/
structure Ready (r : Running MemoryStore) (offset count : Nat) : Prop
    extends t.Quiet settings size r where
  ready : r.cursor.state = .materializing
  buffer_eq : r.cursor.buffer = (t.page offset count).records
  token_eq : r.cursor.nextToken = (t.page offset count).nextToken

/-- The rows to come from an offset on, when the page there has so many. -/
def toCome (offset count : Nat) : List Row :=
  if settings.autoPaginate then t.rows.drop offset else (t.rows.drop offset).take count

/-- The token to end with. -/
def toEndWith (offset count : Nat) : Option String :=
  if settings.autoPaginate then none else (t.page offset count).nextToken

variable {settings} in
/-- Rows are to come only from within the table, and without pagination only from a page with some. -/
theorem within_of_toCome {offset count : Nat} (some_left : t.toCome settings offset count ≠ []) :
    offset < t.records.length ∧ (0 < count ∨ settings.autoPaginate = true) := by
  rw [toCome] at some_left
  split at some_left
  · rename_i paginates
    rw [Ne, List.drop_eq_nil_iff, t.length_rows, Nat.not_le] at some_left
    exact ⟨some_left, .inr paginates⟩
  · rw [Ne, List.take_eq_nil_iff, not_or, List.drop_eq_nil_iff, t.length_rows,
      Nat.not_le] at some_left
    exact ⟨some_left.2, .inl (Nat.pos_of_ne_zero some_left.1)⟩

/-- What an enumeration is still to bring, and the token it will end with. -/
inductive Stage (r : Running MemoryStore) (rest : List Row) (last : Option String) : Prop
  | awaiting {offset : Nat} (here : t.Awaiting settings size r offset)
      (rest_eq : rest = t.toCome settings offset size)
      (last_eq : last = t.toEndWith settings offset size)
  | ready {offset count : Nat} (here : t.Ready settings size r offset count)
      (rest_eq : rest = t.toCome settings offset count)
      (last_eq : last = t.toEndWith settings offset count)

variable {t settings size} (s : Strategy) {r : Running MemoryStore} {rest : List Row}
  {last : Option String}

/-! ### Pages -/

/-- An attempt without disturbances is answered with the page that its token is for. -/
theorem attempt_eq {store : MemoryStore} (held : t.Held store) (quiet : store.failures = [])
    (token : Option String) (asked : Option Nat) (time : Nat) (d : Diagnostics) :
    MemoryStore.client.attempt .never ⟨t.query.statement, token, asked⟩ time ⟨store, d⟩ =
      (.answered ((t.offset token).map fun offset => t.page offset (store.limitFor asked))
          (time + store.latency),
        ⟨{ store with log := store.log ++ [⟨t.query.statement, token, asked⟩] }, d⟩) := by
  simp only [StoreClient.attempt, Signals.interruption?_never]
  simp only [MemoryStore.client, MemoryStore.answer, quiet]
  rw [← t.pageFor_request held token asked]
  rfl

/-- An enumeration that awaits a page comes to hold it. -/
theorem Awaiting.fetch {offset : Nat} (here : t.Awaiting settings size r offset) (time : Nat) :
    ∃ later next,
      (⟨MemoryStore.client, s⟩ : Executor MemoryStore).fetch .never time r = (.ok later, next) ∧
        t.Ready settings size next offset size := by
  have request : r.cursor.request =
      ⟨t.query.statement, r.cursor.nextToken, settings.pageSize⟩ := by
    rw [Cursor.request, here.query_eq, here.settings_eq]
  have page : (t.offset r.cursor.nextToken).map
      (fun offset => t.page offset (r.world.store.limitFor settings.pageSize)) =
        .ok (t.page offset size) := by
    rw [here.offset_eq, here.size_eq]
    rfl
  have attempt (d : Diagnostics) :
      MemoryStore.client.attempt .never r.cursor.request time ⟨r.world.store, d⟩ =
        (.answered (.ok (t.page offset size)) (time + r.world.store.latency),
          ⟨{ r.world.store with log := r.world.store.log ++ [r.cursor.request] }, d⟩) := by
    rw [request, attempt_eq here.held here.quiet, page]
  obtain ⟨d, fetched⟩ :=
    (⟨MemoryStore.client, s⟩ : Executor MemoryStore).fetch_of_page (r := r) attempt
  refine ⟨_, _, fetched, ⟨here.query_eq, here.settings_eq, here.held, here.quiet, here.size_eq⟩,
    rfl, ?_, rfl⟩
  rw [here.empty]
  rfl

/-- It holds a page once it goes on, and holds a record or is at its end. -/
theorem Stage.refill (begun : 0 < size) (stage : t.Stage settings size r rest last)
    (steps time : Nat) :
    ∃ left later next offset count,
      (⟨MemoryStore.client, s⟩ : Executor MemoryStore).advanceFrom .never (steps + 3) time r =
        (⟨MemoryStore.client, s⟩ : Executor MemoryStore).advanceFrom .never (left + 1) later next ∧
      t.Ready settings size next offset count ∧ rest = t.toCome settings offset count ∧
      last = t.toEndWith settings offset count ∧
      (next.cursor.buffer = [] →
        ¬ (next.cursor.nextToken.isSome = true ∧ next.cursor.settings.autoPaginate = true)) := by
  -- a page that has just been accepted holds a record unless it is behind the table
  have fetched {r : Running MemoryStore} {offset : Nat} (here : t.Awaiting settings size r offset)
      (steps : Nat) : ∃ later next,
      (⟨MemoryStore.client, s⟩ : Executor MemoryStore).advanceFrom .never (steps + 1) time r =
        (⟨MemoryStore.client, s⟩ : Executor MemoryStore).advanceFrom .never steps later next ∧
      t.Ready settings size next offset size ∧
      (next.cursor.buffer = [] →
        ¬ (next.cursor.nextToken.isSome = true ∧ next.cursor.settings.autoPaginate = true)) := by
    obtain ⟨later, next, fetched, held⟩ := here.fetch s time
    have advanced := Executor.advanceFrom_awaiting ⟨MemoryStore.client, s⟩ steps
      (TableScan.quiet_never time) here.alive here.awaiting
    rw [fetched] at advanced
    refine ⟨later, next, advanced, held, ?_⟩
    rintro empty ⟨more, -⟩
    rw [held.token_eq] at more
    have inside := (t.offset_of_page more).1
    have behind := t.page_empty (held.buffer_eq.symm.trans empty)
    omega
  cases stage with
  | @awaiting offset here rest_eq last_eq =>
      obtain ⟨later, next, advanced, held, stays⟩ := fetched here (steps + 2)
      exact ⟨steps + 1, later, next, offset, size, advanced, held, rest_eq, last_eq, stays⟩
  | @ready offset count here rest_eq last_eq =>
      by_cases turns : r.cursor.buffer = [] ∧ r.cursor.nextToken.isSome = true ∧
          r.cursor.settings.autoPaginate = true
      · obtain ⟨empty, more⟩ := turns
        have paginates : settings.autoPaginate = true := by
          rw [← here.settings_eq]
          exact more.2
        have turned := Executor.advanceFrom_turn ⟨MemoryStore.client, s⟩ (steps + 2)
          (TableScan.quiet_never time) here.ready empty more
        have token := more.1
        rw [here.token_eq] at token
        obtain ⟨inside, offset_eq⟩ := t.offset_of_page token
        have awaits : t.Awaiting settings size
            ⟨{ r.cursor with state := .fetching }, r.world⟩ (offset + count) :=
          ⟨⟨here.query_eq, here.settings_eq, here.held, here.quiet, here.size_eq⟩, rfl, nofun, empty, by
            rw [← offset_eq, ← here.token_eq]⟩
        obtain ⟨later, next, advanced, held, stays⟩ := fetched awaits (steps + 1)
        have behind := t.page_empty (here.buffer_eq.symm.trans empty)
        obtain rfl : count = 0 := by omega
        refine ⟨steps, later, next, offset + 0, size, turned.trans advanced, held, ?_, ?_, stays⟩
        · rw [rest_eq, toCome, toCome, if_pos paginates, if_pos paginates, Nat.add_zero]
        · rw [last_eq, toEndWith, toEndWith, if_pos paginates, if_pos paginates]
      · exact ⟨steps + 2, time, r, offset, count, rfl, here, rest_eq, last_eq,
          fun empty more => turns ⟨empty, more⟩⟩

/-! ### Advances -/

/-- Without rows to come the next advance returns the end. -/
theorem Ready.finish {offset count : Nat} (here : t.Ready settings size r offset count)
    (rest_eq : t.toCome settings offset count = [])
    (stays : r.cursor.buffer = [] →
      ¬ (r.cursor.nextToken.isSome = true ∧ r.cursor.settings.autoPaginate = true))
    (steps time : Nat) :
    ∃ next,
      (⟨MemoryStore.client, s⟩ : Executor MemoryStore).advanceFrom .never (steps + 1) time r =
        (.ended, next) ∧
      t.Quiet settings size next ∧ next.cursor.nextToken = t.toEndWith settings offset count := by
  have empty : r.cursor.buffer = [] := by
    rw [here.buffer_eq, page, List.map_eq_nil_iff, List.take_eq_nil_iff, List.drop_eq_nil_iff]
    rw [toCome] at rest_eq
    split at rest_eq
    · right
      rwa [List.drop_eq_nil_iff, t.length_rows] at rest_eq
    · rwa [List.take_eq_nil_iff, List.drop_eq_nil_iff, t.length_rows] at rest_eq
  obtain ⟨d, finished⟩ := Executor.advanceFrom_finish ⟨MemoryStore.client, s⟩ steps
    (TableScan.quiet_never time) here.ready empty (stays empty)
  refine ⟨_, finished, ⟨here.query_eq, here.settings_eq, here.held, here.quiet, here.size_eq⟩, ?_⟩
  change r.cursor.nextToken = _
  rw [toEndWith]
  split
  · rename_i paginates
    rw [← here.settings_eq] at paginates
    have none_left := stays empty
    rw [not_and] at none_left
    cases token : r.cursor.nextToken with
    | none => rfl
    | some token =>
        rw [token] at none_left
        exact absurd paginates (none_left rfl)
  · exact here.token_eq

/-- With rows to come it returns the first of them. -/
theorem Ready.row {offset count : Nat} {row : Row} (here : t.Ready settings size r offset count)
    (rest_eq : t.toCome settings offset count = row :: rest)
    (stays : r.cursor.buffer = [] →
      ¬ (r.cursor.nextToken.isSome = true ∧ r.cursor.settings.autoPaginate = true))
    (steps time : Nat) :
    ∃ next,
      (⟨MemoryStore.client, s⟩ : Executor MemoryStore).advanceFrom .never (steps + 1) time r =
        (.item row, next) ∧
      t.Stage settings size next rest (t.toEndWith settings offset count) := by
  obtain ⟨inside, begun⟩ := t.within_of_toCome (rest_eq ▸ List.cons_ne_nil row rest)
  have begun : 0 < count := by
    obtain begun | paginates := begun
    · exact begun
    · apply Nat.pos_of_ne_zero
      rintro rfl
      -- an empty page in front of rows has the token of its own offset, and the cursor would turn
      have empty : r.cursor.buffer = [] := by
        rw [here.buffer_eq, page, List.take_zero]
        rfl
      have more : r.cursor.nextToken.isSome = true := by
        rw [here.token_eq, page, MemoryStore.tokenBehind, Nat.add_zero, if_pos inside]
        rfl
      exact absurd ⟨more, by rw [here.settings_eq]; exact paginates⟩ (stays empty)
  have within : offset < t.rows.length := by
    rw [t.length_rows]
    exact inside
  obtain ⟨records, token⟩ := t.page_front inside begun
  have first := List.drop_eq_getElem_cons within
  obtain ⟨count, rfl⟩ : ∃ n, count = n + 1 := ⟨count - 1, by omega⟩
  rw [Nat.add_sub_cancel] at records token
  have parts : t.toCome settings offset (count + 1) =
      t.rows[offset] :: t.toCome settings (offset + 1) count := by
    rw [toCome, toCome, first]
    split
    · rfl
    · rw [List.take_succ_cons]
  rw [parts] at rest_eq
  obtain ⟨rfl, rfl⟩ := List.cons.inj rest_eq
  have read : r.cursor.query.deliver r.cursor.position
      (t.records[offset].project t.columns) = .ok t.rows[offset] := by
    rw [here.query_eq]
    exact t.deliver_getElem _ inside within
  obtain ⟨d, advanced⟩ := Executor.advanceFrom_row ⟨MemoryStore.client, s⟩ steps
    (TableScan.quiet_never time) here.ready (here.buffer_eq.trans records) read
  have behind : t.Ready settings size
      ⟨{ r.cursor with
          buffer := (t.page (offset + 1) count).records
          position := r.cursor.position + 1 }, r.world.store, d⟩ (offset + 1) count :=
    ⟨⟨here.query_eq, here.settings_eq, here.held, here.quiet, here.size_eq⟩, here.ready, rfl,
      here.token_eq.trans token⟩
  exact ⟨_, advanced, .ready behind rfl (by rw [toEndWith, toEndWith, token])⟩

/-- Draining from any stage, by induction on the rows that are left. -/
theorem Stage.drain (begun : 0 < size) {steps advances : Nat} (enough : 3 ≤ steps)
    (calls : rest.length < advances) (stage : t.Stage settings size r rest last) :
    ∃ next,
      (⟨MemoryStore.client, s⟩ : Executor MemoryStore).drainWithin .ok .never steps advances r =
        (rest.map .ok, next) ∧
      t.Quiet settings size next ∧ next.cursor.nextToken = last := by
  obtain ⟨steps, rfl⟩ : ∃ n, steps = n + 3 := ⟨steps - 3, by omega⟩
  induction rest generalizing advances r with
  | nil =>
      obtain ⟨advances, rfl⟩ : ∃ n, advances = n + 1 := ⟨advances - 1, by omega⟩
      obtain ⟨left, later, held, offset, count, refilled, here, rest_eq, rfl, stays⟩ :=
        stage.refill s begun steps 0
      obtain ⟨next, ended, quiet, token⟩ := here.finish s rest_eq.symm stays left later
      refine ⟨next, ?_, quiet, token⟩
      rw [Executor.drainWithin, Executor.nextAsWithin_ok, Executor.nextWithin, refilled, ended]
      rfl
  | cons row rest ih =>
      obtain ⟨advances, rfl⟩ : ∃ n, advances = n + 1 := ⟨advances - 1, by omega⟩
      obtain ⟨left, later, held, offset, count, refilled, here, rest_eq, rfl, stays⟩ :=
        stage.refill s begun steps 0
      obtain ⟨next, returned, more⟩ := here.row s rest_eq.symm stays left later
      obtain ⟨final, drained, quiet, token⟩ := ih (Nat.lt_of_succ_lt_succ calls) more
      refine ⟨final, ?_, quiet, token⟩
      rw [Executor.drainWithin, Executor.nextAsWithin_ok, Executor.nextWithin, refilled, returned]
      simp only [drained]
      rfl

/-! ### Tokens that are none of the table -/

/-- A request with a token that is none of the table fails, however often it is sent. -/
theorem trip_refused {token : Option String} {e : StoreError} (refused : t.offset token = .error e)
    (asked : Option Nat) (repetitions attempts time : Nat) (store : MemoryStore)
    (held : t.Held store) (quiet : store.failures = []) (d : Diagnostics) :
    ∃ final later w,
      s.trip MemoryStore.client .never ⟨t.query.statement, token, asked⟩ repetitions attempts time
        ⟨store, d⟩ = (.answered (.error final) later, w) := by
  have attempt (time : Nat) (store : MemoryStore) (held : t.Held store)
      (quiet : store.failures = []) (d : Diagnostics) :=
    attempt_eq held quiet token asked time d
  rw [refused] at attempt
  induction repetitions generalizing attempts time store d with
  | zero =>
      rw [Strategy.trip, attempt time store held quiet d]
      exact ⟨_, _, _, rfl⟩
  | succ repetitions ih =>
      rw [Strategy.trip, attempt time store held quiet d]
      simp only [Except.map, Signals.interruption?_never]
      split
      · refine ih _ _ _ ?_ ?_ _
        · exact held
        · exact quiet
      · exact ⟨_, _, _, rfl⟩

variable (settings) in
/-- So an enumeration that is resumed from one fails at once. -/
theorem drain_refused {token : Option String} {e : StoreError}
    (refused : t.offset token = .error e) {steps advances : Nat} (begun : 0 < steps)
    (calls : 0 < advances) {store : MemoryStore} (held : t.Held store)
    (quiet : store.failures = []) (d : Diagnostics) :
    ∃ final next,
      (⟨MemoryStore.client, s⟩ : Executor MemoryStore).drainWithin .ok .never steps advances
          ⟨.startAt t.query settings token, store, d⟩ =
        ([.error (.storeFailed t.query.table final)], next) := by
  obtain ⟨steps, rfl⟩ : ∃ n, steps = n + 1 := ⟨steps - 1, by omega⟩
  obtain ⟨advances, rfl⟩ : ∃ n, advances = n + 1 := ⟨advances - 1, by omega⟩
  let x : Executor MemoryStore := ⟨MemoryStore.client, s⟩
  let start : Running MemoryStore := ⟨.startAt t.query settings token, store, d⟩
  have failed : ∃ final next, x.advanceFrom .never (steps + 1) 0 start =
        (.failed (.storeFailed t.query.table final), next) ∧
      next.cursor.state.isTerminal = true := by
    obtain ⟨final, later, w, trip⟩ := trip_refused s refused settings.pageSize
      (s.ceiling ⟨t.query.statement, token, settings.pageSize⟩) 1 0 store held quiet
      (start.cursor.beginFetch d).2
    have fetched : x.fetch .never 0 start =
        Executor.settle (start.cursor.beginFetch d).1 (.answered (.error final) later, w) :=
      congrArg (Executor.settle _) trip
    have advanced := x.advanceFrom_awaiting steps (TableScan.quiet_never 0) (r := start) rfl nofun
    rw [fetched] at advanced
    exact ⟨_, _, advanced, rfl⟩
  obtain ⟨final, next, advanced, terminal⟩ := failed
  refine ⟨final, next, ?_⟩
  have behind : x.drainWithin .ok .never (steps + 1) advances next = ([], next) := by
    cases advances with
    | zero => rfl
    | succ advances =>
        rw [Executor.drainWithin, Executor.nextAsWithin_ok, Executor.nextWithin,
          x.advanceFrom_over steps .never 0 terminal]
  change x.drainWithin .ok .never (steps + 1) (advances + 1) start = _
  rw [Executor.drainWithin, Executor.nextAsWithin_ok, Executor.nextWithin, advanced]
  simp only [behind]

/-! ### Whole enumerations -/

/-- Draining an enumeration from a token of the table, within the bounds that the store gives. -/
theorem drain_offset (settings : CursorSettings) {token : Option String} {offset : Nat}
    (here : t.offset token = .ok offset) {store : MemoryStore} (held : t.Held store)
    (quiet : store.failures = []) (d : Diagnostics) :
    ∃ next,
      (⟨MemoryStore.client, s⟩ : Executor MemoryStore).drain .ok .never
          ⟨.startAt t.query settings token, store, d⟩ =
        ((t.toCome settings offset (store.limitFor settings.pageSize)).map .ok, next) ∧
      t.Quiet settings (store.limitFor settings.pageSize) next ∧
      next.cursor.nextToken =
        t.toEndWith settings offset (store.limitFor settings.pageSize) := by
  have stage : t.Stage settings (store.limitFor settings.pageSize)
      ⟨.startAt t.query settings token, store, d⟩
      (t.toCome settings offset (store.limitFor settings.pageSize))
      (t.toEndWith settings offset (store.limitFor settings.pageSize)) :=
    .awaiting ⟨⟨rfl, rfl, held, quiet, rfl⟩, rfl, nofun, rfl, here⟩ rfl rfl
  have short : (t.toCome settings offset (store.limitFor settings.pageSize)).length ≤
      store.recordCount := by
    refine Nat.le_trans ?_ (MemoryStore.length_le_recordCount held)
    rw [toCome, ← t.length_rows]
    split
    · rw [List.length_drop]
      omega
    · rw [List.length_take, List.length_drop]
      omega
  exact stage.drain s (store.limitFor_pos settings.pageSize)
    (show 3 ≤ 2 * store.recordCount + 4 by omega)
    (show _ < 0 + store.recordCount + 3 by omega)

/-- Draining with pagination brings the rows that the token stands for. A token that the store refuses
stands for none, and its failure comes instead. -/
theorem drain_rowsFrom (pageSize : Option Nat) (token : Option String) {store : MemoryStore}
    (held : t.Held store) (quiet : store.failures = []) (d : Diagnostics) :
    let items := ((⟨MemoryStore.client, s⟩ : Executor MemoryStore).drain .ok .never
      ⟨.startAt t.query ⟨pageSize, true⟩ token, store, d⟩).1
    items = (t.rowsFrom token).map .ok ∨
      t.rowsFrom token = [] ∧ ∃ e, items = [.error (.storeFailed t.query.table e)] := by
  intro items
  rw [rowsFrom]
  cases here : t.offset token with
  | ok offset =>
      obtain ⟨next, drained, -, -⟩ := drain_offset s ⟨pageSize, true⟩ here held quiet d
      rw [toCome, if_pos rfl] at drained
      exact .inl (congrArg Prod.fst drained)
  | error e =>
      obtain ⟨final, next, drained⟩ := drain_refused ⟨pageSize, true⟩ s here
        (show 0 < 2 * store.recordCount + 4 by omega)
        (show 0 < 0 + store.recordCount + 3 by omega) held quiet d
      exact .inr ⟨rfl, final, congrArg Prod.fst drained⟩

end Keyscan.RowTable
