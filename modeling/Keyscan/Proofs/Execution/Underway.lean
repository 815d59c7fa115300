import Keyscan.Proofs.Execution.Runs

/-!
Enumerations that are under way. `Cursor.Underway` ties a cursor to the history of its enumeration:
what it will ask for, what it holds, how many records it has handed out, and what has been returned.
It holds of a new cursor, is kept by every move that does not end the enumeration, and tells enough
at each of those that do.
-/

set_option autoImplicit false

namespace Keyscan

/-- Before the end and the first error, only rows are returned. -/
theorem History.isOk_of_mem_items {h : History} (going : h.isOver = false)
    {item : Except ExecutionError Row} (mem : item ∈ h.items) : item.isOk = true := by
  obtain ⟨happening, here, given⟩ := List.mem_filterMap.1 mem
  have open_ : happening.isLast = false := by
    rw [History.isOver, List.any_eq_false] at going
    simpa using going happening here
  cases happening with
  | sent request => cases given
  | answered answer => cases given
  | returned outcome =>
      cases outcome with
      | item row =>
          cases given
          rfl
      | failed e => cases open_
      | ended => cases given
      | dropped => cases given
      | unfinished => cases given

/-! ### The invariant -/

/-- A cursor at the beginning of its query, or where a token was issued. -/
def Cursor.startAt (q : CompiledQuery) (settings : CursorSettings) (resume : Option String) :
    Cursor :=
  { Cursor.start q settings with nextToken := resume }

/-- How an enumeration stands that is not over. -/
structure Cursor.Underway (q : CompiledQuery) (settings : CursorSettings) (resume : Option String)
    (c : Cursor) (h : History) : Prop where
  query_eq : c.query = q
  settings_eq : c.settings = settings
  alive : c.state.isTerminal = false
  /-- The cursor keeps the token of the last page. -/
  token_eq : c.nextToken = h.token resume
  position_le : c.position ≤ h.records.length
  /-- The cursor holds the records that it has not handed out. -/
  buffer_eq : c.buffer = h.records.drop c.position
  /-- The caller has been given what became of the others. -/
  items_eq : h.items = (h.records.take c.position).mapIdx q.deliver
  /-- A page is only awaited when there is one to ask for. -/
  awaiting : c.state ≠ .materializing → c.buffer = [] ∧ h.Continues settings
  received : c.state = .materializing → h.pages ≠ []
  going : h.isOver = false

namespace Cursor

variable {q : CompiledQuery} {settings : CursorSettings} {resume : Option String} {c : Cursor}
  {h : History}

/-- A new cursor is under way. -/
theorem underway_startAt : (startAt q settings resume).Underway q settings resume [] where
  query_eq := rfl
  settings_eq := rfl
  alive := rfl
  token_eq := rfl
  position_le := Nat.le_refl 0
  buffer_eq := rfl
  items_eq := rfl
  awaiting _ := ⟨rfl, by simp [History.Continues, History.pages]⟩
  received state := by cases state
  going := rfl

namespace Underway

variable (u : c.Underway q settings resume h)
include u

/-- All records received have been handed out once the buffer is empty. -/
theorem position_eq (empty : c.buffer = []) : c.position = h.records.length := by
  have dropped := u.buffer_eq
  rw [empty] at dropped
  have behind := List.drop_eq_nil_iff.1 dropped.symm
  have within := u.position_le
  omega

/-- With an empty buffer the caller has been given what became of every record. -/
theorem items_all (empty : c.buffer = []) : h.items = h.records.mapIdx q.deliver := by
  have items := u.items_eq
  rwa [u.position_eq empty, List.take_length] at items

/-- Whether the cursor goes on is what the last page says. -/
theorem continues_iff (ready : c.state = .materializing) :
    h.Continues settings ↔ c.nextToken.isSome = true ∧ c.settings.autoPaginate = true := by
  rw [u.token_eq, u.settings_eq, History.Continues, History.token]
  cases last : h.pages.getLast? with
  | none => exact absurd (List.getLast?_eq_none_iff.1 last) (u.received ready)
  | some page => simp

/-- The record in front is the next of those received. -/
theorem front_eq {record : Record} {rest : List Record} (front : c.buffer = record :: rest) :
    c.position < h.records.length ∧ h.records.drop (c.position + 1) = rest ∧
      (h.records.take (c.position + 1)).mapIdx q.deliver =
        h.items ++ [q.deliver c.position record] := by
  have dropped : h.records.drop c.position = record :: rest := by rw [← u.buffer_eq, front]
  have inside : c.position < h.records.length := by
    have some_left : h.records.drop c.position ≠ [] := by simp [dropped]
    have outside := mt List.drop_eq_nil_iff.2 some_left
    omega
  have parts := List.drop_eq_getElem_cons inside
  rw [dropped] at parts
  injection parts with head tail
  refine ⟨inside, tail.symm, ?_⟩
  rw [List.take_succ_eq_append_getElem inside, List.mapIdx_concat, ← u.items_eq, ← head,
    List.length_take_of_le u.position_le]

/-- The invariant is about pages, items and the end only. -/
theorem of_same {other : History} (pages : other.pages = h.pages) (items : other.items = h.items)
    (going : other.isOver = false) : c.Underway q settings resume other := by
  have records : other.records = h.records := by rw [History.records, pages, History.records]
  exact {
    query_eq := u.query_eq
    settings_eq := u.settings_eq
    alive := u.alive
    token_eq := by rw [u.token_eq, History.token, History.token, pages]
    position_le := by rw [records]; exact u.position_le
    buffer_eq := by rw [records]; exact u.buffer_eq
    items_eq := by rw [items, records]; exact u.items_eq
    awaiting := fun state => by
      rw [History.Continues, pages]
      exact u.awaiting state
    received := fun state => by rw [pages]; exact u.received state
    going := going }

/-- A cursor that awaits a page goes on to await it. -/
theorem fetching (empty : c.buffer = []) (continues : h.Continues settings) :
    ({ c with state := .fetching } : Cursor).Underway q settings resume h where
  query_eq := u.query_eq
  settings_eq := u.settings_eq
  alive := rfl
  token_eq := u.token_eq
  position_le := u.position_le
  buffer_eq := u.buffer_eq
  items_eq := u.items_eq
  awaiting _ := ⟨empty, continues⟩
  received state := by cases state
  going := u.going

/-- The moves that do not return keep the invariant. -/
theorem onward {s : Strategy} {signals : Signals} {block : History} {next : Cursor}
    (move : c.Moves s signals block none next) : next.Underway q settings resume (h ++ block) := by
  cases move with
  | @accept alive awaiting page time _ trip =>
      obtain ⟨empty, _⟩ := u.awaiting awaiting
      have position := u.position_eq empty
      have received : block.records = page.records := by
        rw [History.records, trip.pages_eq]
        exact List.append_nil _
      have records : (h ++ block).records = h.records ++ page.records := by
        rw [History.records_append, received]
      have pages : (h ++ block).pages = h.pages ++ [page] := by
        rw [History.pages_append, trip.pages_eq]
        rfl
      have items : (h ++ block).items = h.items := by
        rw [History.items_append, trip.items_eq, List.append_nil]
      exact {
        query_eq := u.query_eq
        settings_eq := u.settings_eq
        alive := rfl
        token_eq := by rw [History.token, pages, List.getLast?_concat]
        position_le := by
          rw [records, List.length_append]
          exact Nat.le_trans u.position_le (Nat.le_add_right _ _)
        buffer_eq := by rw [empty, records, position]; simp
        items_eq := by
          rw [items, records, List.take_append_of_le_length u.position_le]
          exact u.items_eq
        awaiting := fun state => absurd rfl state
        received := fun _ => by rw [pages]; exact List.concat_ne_nil page h.pages
        going := by rw [History.isOver_append, u.going, trip.isOver_eq]; rfl }
  | turn ready empty more =>
      rw [List.append_nil]
      exact u.fetching empty ((u.continues_iff ready).2 more)

/-- A row that is handed out keeps the invariant once it is returned. -/
theorem row {record : Record} {rest : List Record} {row : Row} (ready : c.state = .materializing)
    (front : c.buffer = record :: rest) (read : c.query.deliver c.position record = .ok row) :
    ({ c with buffer := rest, position := c.position + 1 } : Cursor).Underway q settings resume
      (h ++ [.returned (.item row)]) := by
  obtain ⟨inside, behind, items⟩ := u.front_eq front
  rw [← u.query_eq, read] at items
  have records := h.records_returned (.item row)
  have pages := h.pages_returned (.item row)
  exact {
    query_eq := u.query_eq
    settings_eq := u.settings_eq
    alive := u.alive
    token_eq := by rw [History.token, pages]; exact u.token_eq
    position_le := by rw [records]; exact inside
    buffer_eq := by rw [records]; exact behind.symm
    items_eq := by
      rw [History.items_append, records, ← u.query_eq]
      exact items.symm
    awaiting := fun state => absurd ready state
    received := fun state => by rw [pages]; exact u.received state
    going := by rw [History.isOver_returned, u.going]; rfl }

/-- So does an advance that is dropped while it awaits a page. -/
theorem dropped {s : Strategy} {signals : Signals} {block : History}
    (awaiting : c.state ≠ .materializing)
    (trip : RoundTrip s signals c.request (.interrupted .dropped) block) :
    ({ c with state := .fetching } : Cursor).Underway q settings resume
      (h ++ block ++ [.returned .dropped]) := by
  obtain ⟨empty, continues⟩ := u.awaiting awaiting
  refine (u.fetching empty continues).of_same ?_ ?_ ?_
  · rw [History.pages_returned, History.pages_append, trip.pages_eq]
    exact List.append_nil _
  · rw [History.items_append, History.items_append, trip.items_eq, List.append_nil]
    exact List.append_nil _
  · rw [History.isOver_returned, History.isOver_append, trip.isOver_eq, u.going]
    rfl

/-- So does a call whose steps are used up. -/
theorem unfinished : c.Underway q settings resume (h ++ [.returned .unfinished]) := by
  refine u.of_same (h.pages_returned .unfinished) ?_ ?_
  · rw [History.items_append]
    exact List.append_nil _
  · rw [History.isOver_returned, u.going]
    rfl

end Underway

end Cursor

end Keyscan
