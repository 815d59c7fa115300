import Keyscan.Proofs.Execution.Moves
import Keyscan.Proofs.Materialization
import Keyscan.Proofs.Store.Memory

/-!
Scans of a table in memory, page by page. `TableScan` is a compiled query together with the table it
reads; a scan stands at a number of pages received and a number of records handed out, and both
determine the cursor and the store. Pages are requested when the one before is used up, so the pages
received cover the records handed out and no page more.
-/

set_option autoImplicit false

namespace Keyscan

/-- Rows that need no conversion are returned as they are. -/
theorem Executor.nextAsWithin_ok {σ : Type} (x : Executor σ) (signals : Signals) (steps : Nat)
    (r : Running σ) : x.nextAsWithin .ok signals steps r = x.nextWithin signals steps r := by
  rw [nextAsWithin]
  rcases x.nextWithin signals steps r with ⟨outcome, next⟩
  cases outcome <;> rfl

/-- Nothing interrupts a wait without signals. -/
theorem Signals.interruption?_never (start wait : Nat) :
    Signals.never.interruption? start wait = none := by
  simp [interruption?, never, cancelTime?]

/-- A compiled query and the table in memory that it reads, page by page. -/
structure TableScan where
  query : CompiledQuery
  pageSize : Option Nat
  store : MemoryStore
  records : List Record
  strategy : Strategy
  columns : List String
  some_column : columns ≠ []
  statement_eq : query.statement = Statement.text ⟨query.table, columns⟩
  covered : ∀ p ∈ query.materializer.fields, p.attributeName ∈ columns
  held : store.tables.get? query.table = some records
  /-- No failure is queued. -/
  quiet : store.failures = []
  /-- Offsets are machine words, as is the length of every table in memory. -/
  words : records.length ≤ Nat.pow 2 64

/-- What becomes of records that are handed out from a position on, up to the first that fails. -/
def CompiledQuery.deliverAll (q : CompiledQuery) :
    Nat → List Record → List (Except ExecutionError Row)
  | _, [] => []
  | position, record :: rest =>
      match q.deliver position record with
      | .ok row => .ok row :: deliverAll q (position + 1) rest
      | .error e => [.error e]

namespace TableScan

variable (scan : TableScan)

/-- The page size in effect. -/
def size : Nat := scan.store.limitFor scan.pageSize

theorem size_pos : 0 < scan.size := scan.store.limitFor_pos scan.pageSize

/-- The token behind so many pages. -/
def token (pages : Nat) : Option String :=
  if pages * scan.size < scan.records.length then
    MemoryStore.tokenAt scan.query.table (pages * scan.size)
  else none

/-- The request for the page behind so many. -/
def request (pages : Nat) : StatementRequest :=
  ⟨scan.query.statement, scan.token pages, scan.pageSize⟩

/-- The records that a store returns, reduced to the columns. -/
def projected (records : List Record) : List Record :=
  records.map (Record.project · scan.columns)

/-- The cursor behind so many pages and so many records, in a state. -/
def cursor (state : CursorState) (pages handed : Nat) : Cursor where
  query := scan.query
  settings := ⟨scan.pageSize, true⟩
  state := state
  nextToken := scan.token pages
  buffer := scan.projected ((scan.records.take (pages * scan.size)).drop handed)
  position := handed
  pages := pages

/-- The store behind so many pages: it has received a request for each. -/
def storeAt (pages : Nat) : MemoryStore :=
  { scan.store with log := scan.store.log ++ (List.range pages).map scan.request }

/-- The scan behind so many pages and so many records, in a state. -/
def running (state : CursorState) (pages handed : Nat) (d : Diagnostics) : Running MemoryStore :=
  ⟨scan.cursor state pages handed, scan.storeAt pages, d⟩

/-- What the scan runs on. -/
def executor : Executor MemoryStore := ⟨MemoryStore.client, scan.strategy⟩

theorem token_zero : scan.token 0 = none := by
  simp [token, MemoryStore.tokenAt]

/-- Whether a token is left tells whether records are. -/
theorem token_isSome {pages : Nat} (begun : 0 < pages) :
    (scan.token pages).isSome = true ↔ pages * scan.size < scan.records.length := by
  have offset : 0 < pages * scan.size := Nat.mul_pos begun scan.size_pos
  rw [token, MemoryStore.tokenAt]
  split
  · rename_i left
    rw [if_neg (by omega)]
    simp [left]
  · rename_i left
    simp [left]

/-- A scan begins as any enumeration of its query. -/
theorem running_zero (d : Diagnostics) :
    scan.running .notStarted 0 0 d =
      ⟨.start scan.query ⟨scan.pageSize, true⟩, scan.store, d⟩ := by
  simp [running, cursor, storeAt, Cursor.start, projected, token_zero]

/-- The page behind so many. -/
theorem pageFor_request {pages : Nat} (more : pages = 0 ∨ pages * scan.size < scan.records.length) :
    scan.store.pageFor (scan.request pages) =
      .ok ⟨scan.projected ((scan.records.drop (pages * scan.size)).take scan.size),
        scan.token (pages + 1)⟩ := by
  have word : pages * scan.size < Nat.pow 2 64 := by
    rcases more with rfl | more
    · rw [Nat.zero_mul]
      decide
    · exact Nat.lt_of_lt_of_le more scan.words
  have page := MemoryStore.pageFor_eq ⟨scan.query.table, scan.columns⟩ scan.pageSize
    scan.some_column scan.held word
  have here : scan.token pages = MemoryStore.tokenAt scan.query.table (pages * scan.size) := by
    rw [token]
    split
    · rfl
    · rcases more with rfl | more
      · simp [MemoryStore.tokenAt]
      · contradiction
  rw [request, scan.statement_eq, here, page]
  simp only [token, projected, Nat.succ_mul, size]
  rfl

/-- A further page makes the records received those behind it. -/
theorem drop_take_succ (pages : Nat) :
    (scan.records.take ((pages + 1) * scan.size)).drop (pages * scan.size) =
      (scan.records.drop (pages * scan.size)).take scan.size := by
  rw [List.drop_take, Nat.succ_mul, Nat.add_sub_cancel_left]

/-- A request is written down, and nothing else of the store changes. -/
theorem receive_request (pages : Nat) :
    MemoryStore.client.receive (scan.request pages) (scan.storeAt pages) =
      scan.storeAt (pages + 1) := by
  simp [MemoryStore.client, storeAt, List.range_succ]

/-- The page that a request is answered with. -/
theorem answer_request {pages : Nat} (more : pages = 0 ∨ pages * scan.size < scan.records.length) :
    MemoryStore.client.answer (scan.request pages) (scan.storeAt (pages + 1)) =
      (.ok ⟨scan.projected ((scan.records.drop (pages * scan.size)).take scan.size),
        scan.token (pages + 1)⟩, scan.storeAt (pages + 1)) := by
  have quiet : (scan.storeAt (pages + 1)).failures = [] := scan.quiet
  simp only [MemoryStore.client, MemoryStore.answer, quiet]
  rw [← scan.pageFor_request more]
  rfl

/-- Fetching a page of the scan. -/
theorem fetch_page {pages : Nat} (more : pages = 0 ∨ pages * scan.size < scan.records.length)
    (state : CursorState) (time : Nat) (d : Diagnostics) :
    ∃ later d',
      scan.executor.fetch .never time (scan.running state pages (pages * scan.size) d) =
        (.ok later, scan.running .materializing (pages + 1) (pages * scan.size) d') := by
  have attempt (d : Diagnostics) :
      MemoryStore.client.attempt .never (scan.request pages) time ⟨scan.storeAt pages, d⟩ =
        (.answered (.ok ⟨scan.projected ((scan.records.drop (pages * scan.size)).take scan.size),
            scan.token (pages + 1)⟩)
          (time + MemoryStore.client.latency (scan.storeAt (pages + 1))),
          ⟨scan.storeAt (pages + 1), d⟩) := by
    simp only [StoreClient.attempt, scan.receive_request, Signals.interruption?_never,
      scan.answer_request more]
  obtain ⟨d', fetched⟩ := scan.executor.fetch_of_page
    (r := scan.running state pages (pages * scan.size) d) attempt
  have used : (scan.records.take (pages * scan.size)).drop (pages * scan.size) = [] :=
    List.drop_eq_nil_of_le (List.length_take_le _ _)
  refine ⟨time + MemoryStore.client.latency (scan.storeAt (pages + 1)), d', ?_⟩
  rw [fetched]
  simp [running, cursor, used, scan.drop_take_succ, projected]

/-! ### Advances of a scan -/

/-- Where a scan can stand between advances: the pages received cover the records handed out, and the
last of them was needed. -/
structure Stage (pages handed : Nat) : Prop where
  within : handed ≤ scan.records.length
  covered : handed ≤ pages * scan.size
  needed : (pages - 1) * scan.size ≤ handed
  more : pages ≤ 1 ∨ (pages - 1) * scan.size < scan.records.length

/-- The state of a scan between advances. -/
def stateAt (pages : Nat) : CursorState := if pages = 0 then .notStarted else .materializing

theorem quiet_never (time : Nat) : Signals.never.cancelledBefore time = false := by
  simp [Signals.cancelledBefore, Signals.never]

/-- The buffer is empty when all records received have been handed out. -/
theorem buffer_used {pages handed : Nat} (state : CursorState)
    (used : min (pages * scan.size) scan.records.length ≤ handed) :
    (scan.cursor state pages handed).buffer = [] := by
  have none_left : (scan.records.take (pages * scan.size)).drop handed = [] := by
    apply List.drop_eq_nil_of_le
    rw [List.length_take]
    exact used
  rw [cursor, none_left]
  rfl

/-- The record in front of the buffer. -/
theorem buffer_front {pages handed : Nat} (inside : handed < scan.records.length)
    (left : handed < pages * scan.size) (state : CursorState) :
    (scan.cursor state pages handed).buffer =
      scan.records[handed].project scan.columns :: (scan.cursor state pages (handed + 1)).buffer := by
  have received : handed < (scan.records.take (pages * scan.size)).length := by
    rw [List.length_take]
    omega
  simp only [cursor, projected]
  rw [List.drop_eq_getElem_cons received, List.getElem_take, List.map_cons]

/-- A page at a time is all that is ever held, so a record in front comes with the records received or
with the next page. -/
theorem refill {pages handed : Nat} (stage : scan.Stage pages handed) (steps time : Nat)
    (d : Diagnostics) :
    ∃ received left later d', 0 < received ∧ scan.Stage received handed ∧
      (handed < scan.records.length → handed < received * scan.size) ∧
      scan.executor.advanceFrom .never (steps + 3) time
          (scan.running (stateAt pages) pages handed d) =
        scan.executor.advanceFrom .never (left + 1) later
          (scan.running .materializing received handed d') := by
  have size := scan.size_pos
  have within := stage.within
  have covered := stage.covered
  rcases Nat.eq_zero_or_pos pages with rfl | begun
  · obtain rfl : handed = 0 := by omega
    obtain ⟨later, d', fetched⟩ := @fetch_page scan 0 (.inl rfl) .notStarted time d
    rw [Nat.zero_mul] at fetched
    refine ⟨1, steps + 1, later, d', Nat.one_pos, ?_, ?_, ?_⟩
    · exact ⟨within, by omega, by omega, .inl (Nat.le_refl 1)⟩
    · omega
    · have awaiting := scan.executor.advanceFrom_awaiting (steps + 2) (quiet_never time)
        (r := scan.running .notStarted 0 0 d) rfl nofun
      rw [fetched] at awaiting
      exact awaiting
  · have state : stateAt pages = .materializing := if_neg (by omega)
    rw [state]
    by_cases used : handed = pages * scan.size ∧ handed < scan.records.length
    · obtain ⟨rfl, inside⟩ := used
      obtain ⟨later, d', fetched⟩ := scan.fetch_page (.inr inside) .fetching time d
      refine ⟨pages + 1, steps, later, d', Nat.succ_pos pages, ?_, ?_, ?_⟩
      · exact ⟨within, by rw [Nat.succ_mul]; omega, Nat.le_refl _, .inr inside⟩
      · rw [Nat.succ_mul]
        omega
      · have turn := scan.executor.advanceFrom_turn (steps + 2) (quiet_never time)
          (r := scan.running .materializing pages (pages * scan.size) d) rfl
          (scan.buffer_used .materializing (Nat.min_le_left _ _))
          ⟨(scan.token_isSome begun).2 inside, rfl⟩
        have awaiting := scan.executor.advanceFrom_awaiting (steps + 1) (quiet_never time)
          (r := scan.running .fetching pages (pages * scan.size) d) rfl nofun
        rw [fetched] at awaiting
        exact turn.trans awaiting
    · exact ⟨pages, steps + 2, time, d, begun, stage, by omega, rfl⟩

/-- A record that is handed out becomes what the whole record becomes. -/
theorem deliver_project (position : Nat) (record : Record) :
    scan.query.deliver position (record.project scan.columns) =
      scan.query.deliver position record := by
  rw [CompiledQuery.deliver, Materializer.materialize_project scan.covered, CompiledQuery.deliver]

/-- The scan whose record at the position handed out last has failed. -/
def failed (pages handed : Nat) (d : Diagnostics) : Running MemoryStore :=
  ⟨{ scan.cursor .failed pages handed with buffer := [] }, scan.storeAt pages, d⟩

section Advances

variable {pages handed steps : Nat} (stage : scan.Stage pages handed) (enough : 3 ≤ steps)
  (d : Diagnostics)
include stage enough

/-- The next advance of a scan returns the next row. -/
theorem next_row (inside : handed < scan.records.length) {row : Row}
    (read : scan.query.deliver handed scan.records[handed] = .ok row) :
    ∃ received d', 0 < received ∧ scan.Stage received (handed + 1) ∧
      scan.executor.nextWithin .never steps (scan.running (stateAt pages) pages handed d) =
        (.item row, scan.running (stateAt received) received (handed + 1) d') := by
  obtain ⟨steps, rfl⟩ : ∃ n, steps = n + 3 := ⟨steps - 3, by omega⟩
  obtain ⟨received, left, later, d', begun, refilled, front, run⟩ := scan.refill stage steps 0 d
  have ready : stateAt received = .materializing := if_neg (by omega)
  obtain ⟨d'', advanced⟩ := scan.executor.advanceFrom_row left (quiet_never later)
    (r := scan.running .materializing received handed d') rfl
    (scan.buffer_front inside (front inside) .materializing)
    (by rw [← read]; exact scan.deliver_project handed _)
  refine ⟨received, d'', begun, ?_, ?_⟩
  · exact ⟨inside, front inside, Nat.le_succ_of_le refilled.needed, refilled.more⟩
  · rw [ready]
    exact run.trans advanced

/-- Or it fails at the next record. -/
theorem next_failed (inside : handed < scan.records.length) {e : ExecutionError}
    (read : scan.query.deliver handed scan.records[handed] = .error e) :
    ∃ received d', 0 < received ∧ scan.Stage received (handed + 1) ∧
      (received - 1) * scan.size ≤ handed ∧
      scan.executor.nextWithin .never steps (scan.running (stateAt pages) pages handed d) =
        (.failed e, scan.failed received (handed + 1) d') := by
  obtain ⟨steps, rfl⟩ : ∃ n, steps = n + 3 := ⟨steps - 3, by omega⟩
  obtain ⟨received, left, later, d', begun, refilled, front, run⟩ := scan.refill stage steps 0 d
  obtain ⟨d'', advanced⟩ := scan.executor.advanceFrom_failRecord left (quiet_never later)
    (r := scan.running .materializing received handed d') rfl
    (scan.buffer_front inside (front inside) .materializing)
    (by rw [← read]; exact scan.deliver_project handed _)
  refine ⟨received, d'', begun, ?_, refilled.needed, run.trans advanced⟩
  exact ⟨inside, front inside, Nat.le_succ_of_le refilled.needed, refilled.more⟩

/-- Behind the last record it returns the end. -/
theorem next_ended (last : handed = scan.records.length) :
    ∃ received d', 0 < received ∧ scan.Stage received handed ∧
      scan.executor.nextWithin .never steps (scan.running (stateAt pages) pages handed d) =
        (.ended, scan.running .exhausted received handed d') := by
  obtain ⟨steps, rfl⟩ : ∃ n, steps = n + 3 := ⟨steps - 3, by omega⟩
  obtain ⟨received, left, later, d', begun, refilled, _, run⟩ := scan.refill stage steps 0 d
  have covered := refilled.covered
  have nothing : ¬ (scan.token received).isSome = true :=
    mt (scan.token_isSome begun).1 (by omega)
  obtain ⟨d'', advanced⟩ := scan.executor.advanceFrom_finish left (quiet_never later)
    (r := scan.running .materializing received handed d') rfl
    (scan.buffer_used .materializing (by omega)) (fun more => nothing more.1)
  exact ⟨received, d'', begun, refilled, run.trans advanced⟩

end Advances

/-! ### Draining -/

/-- What draining brings from a number of records handed out on: rows for all records left, or for
those before the first that fails, and then its error. -/
inductive Drained (handed : Nat) :
    List Record → List (Except ExecutionError Row) → Running MemoryStore → Prop
  | ended {left : List Record} (rows : List Row) {received : Nat} {d : Diagnostics}
      (read : left.map scan.query.materializer.materialize = rows.map .ok) (begun : 0 < received)
      (stage : scan.Stage received scan.records.length) :
      Drained handed left (rows.map .ok)
        (scan.running .exhausted received scan.records.length d)
  | failed (before : List Record) {record : Record} {after : List Record} (rows : List Row)
      {e : ConversionError} {position received : Nat} {d : Diagnostics}
      (read : before.map scan.query.materializer.materialize = rows.map .ok)
      (fails : scan.query.materializer.materialize record = .error e)
      (place : position = handed + before.length) (begun : 0 < received)
      (needed : (received - 1) * scan.size ≤ position) (covered : position < received * scan.size) :
      Drained handed (before ++ record :: after)
        (rows.map .ok ++
          [.error (.materializationFailed ((e.withTable scan.query.table).withPosition position))])
        (scan.failed received (position + 1) d)

variable {scan}

/-- A row in front of what is drained. -/
theorem Drained.cons {handed : Nat} {record : Record} {left : List Record} {row : Row}
    (first : scan.query.materializer.materialize record = .ok row)
    {items : List (Except ExecutionError Row)} {r : Running MemoryStore}
    (drained : scan.Drained (handed + 1) left items r) :
    scan.Drained handed (record :: left) (.ok row :: items) r := by
  cases drained with
  | ended rows read begun stage =>
      refine .ended (row :: rows) ?_ begun stage
      rw [List.map_cons, first, read, List.map_cons]
  | failed before rows read fails place begun needed covered =>
      refine .failed (record :: before) (row :: rows) ?_ fails ?_ begun needed covered
      · rw [List.map_cons, first, read, List.map_cons]
      · rw [place, List.length_cons]
        omega

variable (scan)

/-- Draining from any stage, by induction on the records that are left. -/
theorem drain_stage {steps : Nat} (enough : 3 ≤ steps) {left : List Record}
    {pages handed advances : Nat} (rest : scan.records.drop handed = left)
    (stage : scan.Stage pages handed) (calls : left.length + 2 ≤ advances) (d : Diagnostics) :
    ∃ items r,
      scan.executor.drainWithin .ok .never steps advances
          (scan.running (stateAt pages) pages handed d) = (items, r) ∧
        items = scan.query.deliverAll handed left ∧ scan.Drained handed left items r := by
  induction left generalizing pages handed advances d with
  | nil =>
      obtain ⟨advances, rfl⟩ : ∃ n, advances = n + 1 := ⟨advances - 1, by omega⟩
      have behind := List.drop_eq_nil_iff.1 rest
      obtain rfl : handed = scan.records.length := Nat.le_antisymm stage.within behind
      obtain ⟨received, d', begun, refilled, ended⟩ := scan.next_ended stage enough d rfl
      refine ⟨[], _, ?_, rfl, .ended [] (d := d') rfl begun refilled⟩
      rw [Executor.drainWithin, Executor.nextAsWithin_ok, ended]
  | cons record left ih =>
      obtain ⟨advances, rfl⟩ : ∃ n, advances = n + 2 := ⟨advances - 2, by omega⟩
      have inside : handed < scan.records.length := by
        have some_left : scan.records.drop handed ≠ [] := by simp [rest]
        have outside := mt List.drop_eq_nil_iff.2 some_left
        omega
      have parts := List.drop_eq_getElem_cons inside
      rw [rest] at parts
      injection parts with front behind
      cases read : scan.query.materializer.materialize record with
      | ok row =>
          have delivered : scan.query.deliver handed scan.records[handed] = .ok row := by
            rw [← front, CompiledQuery.deliver, read]
            rfl
          have fewer : left.length + 2 ≤ advances + 1 := by
            rw [List.length_cons] at calls
            omega
          obtain ⟨received, d', begun, next, returned⟩ :=
            scan.next_row stage enough d inside delivered
          obtain ⟨items, r, drained, delivery, result⟩ := ih behind.symm next fewer d'
          refine ⟨.ok row :: items, r, ?_, ?_, result.cons read⟩
          · rw [Executor.drainWithin, Executor.nextAsWithin_ok, returned]
            simp only [drained]
          · rw [← front] at delivered
            rw [CompiledQuery.deliverAll, delivered, delivery]
      | error e =>
          have delivered : scan.query.deliver handed scan.records[handed] =
              .error (.materializationFailed
                ((e.withTable scan.query.table).withPosition handed)) := by
            rw [← front, CompiledQuery.deliver, read]
            rfl
          obtain ⟨received, d', begun, next, needed, returned⟩ :=
            scan.next_failed stage enough d inside delivered
          obtain ⟨steps, rfl⟩ : ∃ n, steps = n + 1 := ⟨steps - 1, by omega⟩
          have terminal := scan.executor.advanceFrom_over steps .never 0
            (r := scan.failed received (handed + 1) d') rfl
          refine ⟨_, _, ?_, ?_, .failed [] [] (d := d') rfl read rfl begun needed next.covered⟩
          · rw [Executor.drainWithin, Executor.nextAsWithin_ok, returned]
            simp only [Executor.drainWithin, Executor.nextAsWithin_ok, Executor.nextWithin, terminal]
            rfl
          · rw [← front] at delivered
            rw [CompiledQuery.deliverAll, delivered]
            rfl

/-- Draining a scan from its beginning, within the bounds that the store gives. -/
theorem drain_start (d : Diagnostics) :
    ∃ items r,
      scan.executor.drain .ok .never ⟨.start scan.query ⟨scan.pageSize, true⟩, scan.store, d⟩ =
          (items, r) ∧
        items = scan.query.deliverAll 0 scan.records ∧ scan.Drained 0 scan.records items r := by
  have start : scan.Stage 0 0 := ⟨Nat.zero_le _, Nat.zero_le _, by simp, .inl (Nat.zero_le 1)⟩
  have counted : scan.records.length + 2 ≤ 0 + scan.store.recordCount + 3 := by
    have bound := MemoryStore.length_le_recordCount scan.held
    omega
  have steps : 3 ≤ 2 * scan.store.recordCount + 4 := by omega
  obtain ⟨items, r, drained, delivery, result⟩ := scan.drain_stage steps rfl start counted d
  refine ⟨items, r, ?_, delivery, result⟩
  rw [← drained, stateAt, if_pos rfl, scan.running_zero d]
  rfl

/-! ### Requests -/

/-- A scan to the end takes a request for each page that the records fill, and one at least. -/
theorem received_of_length {received : Nat} (begun : 0 < received)
    (stage : scan.Stage received scan.records.length) :
    received = max 1 ((scan.records.length + scan.size - 1) / scan.size) := by
  have size := scan.size_pos
  have enough : (scan.records.length + scan.size - 1) / scan.size < received + 1 := by
    rw [Nat.div_lt_iff_lt_mul size, Nat.succ_mul]
    have covered := stage.covered
    omega
  rcases stage.more with one | more
  · omega
  · have needed : received ≤ (scan.records.length + scan.size - 1) / scan.size := by
      rw [Nat.le_div_iff_mul_le size]
      have split : (received - 1 + 1) * scan.size = (received - 1) * scan.size + scan.size :=
        Nat.succ_mul _ _
      rw [Nat.sub_add_cancel begun] at split
      omega
    omega

/-- A scan that fails takes a request for each page up to that of the record. -/
theorem received_of_position {position received : Nat} (begun : 0 < received)
    (needed : (received - 1) * scan.size ≤ position) (covered : position < received * scan.size) :
    received = position / scan.size + 1 := by
  have size := scan.size_pos
  have low : received - 1 ≤ position / scan.size := (Nat.le_div_iff_mul_le size).2 needed
  have high : position / scan.size < received := (Nat.div_lt_iff_lt_mul size).2 covered
  omega

theorem length_log (pages : Nat) :
    (scan.storeAt pages).log.length = scan.store.log.length + pages := by
  simp [storeAt]

end TableScan

end Keyscan
