import Keyscan.Proofs.Execution.Answers
import Keyscan.Proofs.Execution.Kept
import Keyscan.Proofs.Execution.Requests
import Keyscan.Proofs.Execution.RowTable

/-!
What an enumeration has received of a table, whatever disturbs it. The store is one that others use
too, as long as they leave the table alone: they may queue failures, send requests, and put other
tables. Signals may come at any time.

All pages received are then one page at the offset that the enumeration began at, and the token is the
one behind it (`RowTable.Received`). This follows from two facts about histories alone, that every
request was due and that every page was right for its request. So once all records received have been
handed out, the rows returned and the rows behind the token are all rows from the beginning on.
-/

set_option autoImplicit false

namespace Keyscan

/-! ### A store in use by others -/

/-- A store in memory and what others make of it, in order. They have a turn before each request is
received, and one before it is answered. -/
structure SharedStore where
  store : MemoryStore
  others : List (MemoryStore → MemoryStore)

namespace SharedStore

/-- The store after the next turn of the others. -/
def afterTurn (s : SharedStore) : SharedStore :=
  match s.others with
  | [] => s
  | change :: others => ⟨change s.store, others⟩

/-- The store as queries see it. -/
def client : StoreClient SharedStore where
  receive request s :=
    { s.afterTurn with store := MemoryStore.client.receive request s.afterTurn.store }
  latency s := MemoryStore.client.latency s.store
  answer request s :=
    let (answer, store) := MemoryStore.client.answer request s.afterTurn.store
    (answer, { s.afterTurn with store })
  ahead s := MemoryStore.client.ahead s.store

/-- The store holds a table, and the others leave that alone. -/
structure Holds (table : String) (records : List Record) (s : SharedStore) : Prop where
  held : s.store.tables.get? table = some records
  kept : ∀ change ∈ s.others, ∀ store : MemoryStore,
    store.tables.get? table = some records → (change store).tables.get? table = some records

variable {table : String} {records : List Record} {s : SharedStore}

theorem Holds.afterTurn (holds : s.Holds table records) : s.afterTurn.Holds table records := by
  obtain ⟨store, others⟩ := s
  cases others with
  | nil => exact holds
  | cons change others =>
      exact ⟨holds.kept change List.mem_cons_self store holds.held,
        fun later mem => holds.kept later (List.mem_cons_of_mem change mem)⟩

/-- An answer leaves the tables alone. -/
theorem answer_tables (request : StatementRequest) (store : MemoryStore) :
    (MemoryStore.client.answer request store).2.tables = store.tables := by
  simp only [MemoryStore.client, MemoryStore.answer]
  cases store.failures <;> rfl

/-- So requests keep the table, too. -/
theorem client_keeps (table : String) (records : List Record) :
    client.Keeps (Holds table records) where
  receive _ _ holds := ⟨holds.afterTurn.held, holds.afterTurn.kept⟩
  execute request s holds := by
    have received : Holds table records (client.receive request s) :=
      ⟨holds.afterTurn.held, holds.afterTurn.kept⟩
    refine ⟨?_, received.afterTurn.kept⟩
    change (MemoryStore.client.answer request _).2.tables.get? table = some records
    rw [answer_tables]
    exact received.afterTurn.held

/-- A page that is answered is that of the store at the time. -/
theorem page_of_answer {request : StatementRequest} {store : MemoryStore} {page : Page}
    (given : (MemoryStore.client.answer request store).1 = .ok page) :
    store.pageFor request = .ok page := by
  simp only [MemoryStore.client, MemoryStore.answer] at given
  cases failures : store.failures with
  | nil =>
      rw [failures] at given
      exact given
  | cons e rest =>
      rw [failures] at given
      cases given

end SharedStore

namespace RowTable

variable (t : RowTable)

/-! ### Pages received -/

/-- A page is right for a request when it is that of the table behind the request's token. -/
def Right (request : StatementRequest) (page : Page) : Prop :=
  request.statement = t.query.statement →
    ∃ offset size, t.offset request.nextToken = .ok offset ∧ page = t.page offset size

/-- The pages of a store that holds the table are right. -/
theorem right_of_execute {s : SharedStore} (holds : s.Holds t.query.table t.records)
    {request : StatementRequest} {page : Page}
    (given : (SharedStore.client.execute request s).1 = .ok page) : t.Right request page := by
  have received := (SharedStore.client_keeps t.query.table t.records).receive request s holds
  have answered := SharedStore.page_of_answer given
  obtain ⟨statement, token, asked⟩ := request
  rintro rfl
  rw [t.pageFor_request received.afterTurn.held] at answered
  cases here : t.offset token with
  | ok offset =>
      rw [here] at answered
      cases answered
      exact ⟨offset, _, rfl, rfl⟩
  | error e =>
      rw [here] at answered
      cases answered

/-- What an enumeration has received: nothing yet, or one page in the end. -/
inductive Received (resume : Option String) (h : History) : Prop
  | nothing (pages_eq : h.pages = [])
  | page (offset size : Nat) (begun : h.pages ≠ []) (offset_eq : t.offset resume = .ok offset)
      (records_eq : h.records = (t.page offset size).records)
      (token_eq : h.token resume = (t.page offset size).nextToken)

variable {t} {settings : CursorSettings} {resume : Option String} {h : History}

/-- Without another page the same has been received. -/
theorem Received.same (received : t.Received resume h) {g : History} (pages : g.pages = h.pages) :
    t.Received resume g := by
  have records : g.records = h.records := by rw [History.records, pages, History.records]
  cases received with
  | nothing pages_eq => exact .nothing (pages.trans pages_eq)
  | page offset size begun offset_eq records_eq token_eq =>
      exact .page offset size (by rw [pages]; exact begun) offset_eq (records.trans records_eq)
        ((History.token_congr resume pages).trans token_eq)

/-- A right page for a due request is the one behind all pages before. -/
theorem Received.accept (received : t.Received resume h) {request : StatementRequest} {page : Page}
    (due : h.Due t.query settings resume request) (right : t.Right request page) :
    t.Received resume (h ++ [.sent request, .answered (.ok page)]) := by
  have pages : (h ++ [Happening.sent request, .answered (.ok page)]).pages = h.pages ++ [page] :=
    History.pages_append _ _
  have begun : (h ++ [Happening.sent request, .answered (.ok page)]).pages ≠ [] := by
    rw [pages]
    exact List.concat_ne_nil page h.pages
  have records : (h ++ [Happening.sent request, .answered (.ok page)]).records =
      h.records ++ page.records := by
    rw [History.records, pages, List.flatMap_append, History.records]
    simp
  have token : (h ++ [Happening.sent request, .answered (.ok page)]).token resume =
      page.nextToken := by
    rw [History.token, pages, List.getLast?_concat]
  obtain rfl := due.request_eq
  obtain ⟨behind, more, behind_eq, rfl⟩ := right rfl
  cases received with
  | nothing pages_eq =>
      have first : h.token resume = resume := by
        rw [History.token, pages_eq]
        rfl
      rw [first] at behind_eq
      refine .page behind more begun behind_eq ?_ token
      rw [records, History.records, pages_eq]
      rfl
  | page offset size was_begun offset_eq records_eq token_eq =>
      have continues : (h.token resume).isSome = true := by
        have due := due.continues
        rw [History.Continues] at due
        rw [History.token]
        cases last : h.pages.getLast? with
        | none => exact absurd (List.getLast?_eq_none_iff.1 last) was_begun
        | some page => exact (due page last).1
      rw [token_eq] at continues behind_eq
      have here := (t.offset_of_page continues).2.symm.trans behind_eq
      cases here
      refine .page offset (size + more) begun offset_eq ?_ ?_
      · rw [records, records_eq, t.records_append]
      · rw [token, RowTable.page, RowTable.page, Nat.add_assoc]

/-- What has been received when every request was due and every page right, by induction on what has
passed. -/
theorem received_of_lawful (lawful : h.Lawful t.query settings resume)
    (answered : h.Answered t.Right) : t.Received resume h := by
  have onward (before after : History) (parts : h = before ++ after)
      (received : t.Received resume before) : t.Received resume h := by
    induction after generalizing before with
    | nil =>
        rw [List.append_nil] at parts
        rwa [parts]
    | cons happening after ih =>
        have split : h = before ++ [happening] ++ after := by rw [parts, ← List.append_cons]
        refine ih (before ++ [happening]) split ?_
        by_cases accepted : ∃ page, happening = .answered (.ok page)
        · obtain ⟨page, rfl⟩ := accepted
          obtain ⟨earlier, request, rfl, right⟩ := answered before page after parts
          have due : History.Due t.query settings resume earlier request := by
            refine lawful earlier request (.answered (.ok page) :: after) ?_
            rw [parts, List.append_assoc]
            rfl
          have asked : t.Received resume earlier :=
            received.same (by rw [History.pages_append]; exact (List.append_nil _).symm)
          have more := asked.accept due right
          rw [List.append_assoc]
          exact more
        · refine received.same ?_
          rw [History.pages_append]
          have none_more : History.pages [happening] = [] := by
            cases happening with
            | sent request => rfl
            | answered answer =>
                cases answer with
                | ok page => exact absurd ⟨page, rfl⟩ accepted
                | error e => rfl
            | returned outcome => rfl
          rw [none_more, List.append_nil]
  exact onward [] h rfl (.nothing rfl)

/-! ### Rows returned -/

/-- Once all records received have been handed out, the rows returned are those of the page that has
been received. -/
theorem rows_of_consumed {offset size : Nat} {s : Strategy} {comes : Interruption → Prop} {c : Cursor}
    (delivered : c.Delivered s t.query settings comes h) (consumed : c.position = h.records.length)
    (records_eq : h.records = (t.page offset size).records) :
    h.rows = (t.rows.drop offset).take size := by
  obtain ⟨interruption, interrupted, items_eq⟩ := delivered.items_eq
  have no_row : interruption.filterMap Except.toOption = [] := by
    cases interrupted <;> rfl
  rw [History.rows_eq, items_eq, consumed, List.take_length, records_eq, t.deliver_page,
    List.filterMap_append, no_row, List.append_nil, List.filterMap_map]
  exact List.filterMap_some

/-- So the rows returned and those behind the token are the rows from the beginning on, and without a
token behind a page there are no others. -/
theorem Received.rows_complete (received : t.Received resume h) {s : Strategy} {comes : Interruption → Prop}
    {c : Cursor} (delivered : c.Delivered s t.query settings comes h)
    (consumed : c.position = h.records.length) :
    (∀ token, h.token resume = some token →
      h.rows ++ t.rowsFrom (some token) = t.rowsFrom resume) ∧
    (h.token resume = none → h.pages ≠ [] → h.rows = t.rowsFrom resume) := by
  cases received with
  | nothing pages_eq =>
      have none_received : h.records = (t.page 0 0).records := by
        rw [History.records, pages_eq]
        rfl
      have rows := rows_of_consumed delivered consumed none_received
      have kept : h.token resume = resume := by
        rw [History.token, pages_eq]
        rfl
      refine ⟨fun token here => ?_, fun _ begun => absurd pages_eq begun⟩
      rw [rows, ← here, kept]
      rfl
  | page offset size begun offset_eq records_eq token_eq =>
      have rows := rows_of_consumed delivered consumed records_eq
      have whole : t.rowsFrom resume = t.rows.drop offset := by
        rw [rowsFrom, offset_eq]
      refine ⟨fun token here => ?_, fun here _ => ?_⟩
      · have more : (t.page offset size).nextToken.isSome = true := by
          rw [← token_eq, here]
          rfl
        have behind := (t.offset_of_page more).2
        rw [← token_eq, here] at behind
        have left : t.rowsFrom (some token) = t.rows.drop (offset + size) := by
          rw [rowsFrom, behind]
        rw [rows, left, whole, ← List.drop_drop, List.take_append_drop]
      · have behind := t.behind_of_page (token_eq.symm.trans here)
        rw [rows, whole]
        refine List.take_of_length_le ?_
        rw [List.length_drop, t.length_rows]
        omega

end RowTable

end Keyscan
