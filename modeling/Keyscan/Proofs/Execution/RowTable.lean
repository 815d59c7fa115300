import Keyscan.Proofs.Execution.TableScan
import Keyscan.Proofs.Execution.Underway

/-!
Tables that can be read throughout. `RowTable` is a compiled query together with the table it reads and
the row that each record becomes. `RowTable.page` is the page at any offset of any size: consecutive
pages are one page, a token behind a page is read as the offset behind it, and every request for the
query's statement is for a page. `RowTable.rowsFrom` is what an enumeration from a token is to bring.
-/

set_option autoImplicit false

namespace Keyscan

/-- A compiled query and the table in memory that it reads, all of whose records become rows. -/
structure RowTable where
  query : CompiledQuery
  columns : List String
  records : List Record
  rows : List Row
  some_column : columns ≠ []
  statement_eq : query.statement = Statement.text ⟨query.table, columns⟩
  covered : ∀ p ∈ query.materializer.fields, p.attributeName ∈ columns
  read : records.map query.materializer.materialize = rows.map .ok
  /-- Offsets are machine words, as is the length of every table in memory. -/
  words : records.length ≤ Nat.pow 2 64

namespace RowTable

variable (t : RowTable)

/-! ### Pages -/

/-- A store holds the table. -/
def Held (s : MemoryStore) : Prop := s.tables.get? t.query.table = some t.records

/-- The offset of a token. -/
def offset (token : Option String) : Except StoreError Nat :=
  MemoryStore.offsetOf t.query.table token

/-- The page of some size at an offset. -/
def page (offset size : Nat) : Page :=
  ⟨((t.records.drop offset).take size).map (Record.project · t.columns),
    MemoryStore.tokenBehind t.query.table t.records.length (offset + size)⟩

/-- The rows behind a token, none when it is no token of the table. -/
def rowsFrom (token : Option String) : List Row :=
  match t.offset token with
  | .ok offset => t.rows.drop offset
  | .error _ => []

theorem length_rows : t.rows.length = t.records.length := by
  have lengths := congrArg List.length t.read
  rw [List.length_map, List.length_map] at lengths
  exact lengths.symm

/-- A record of a page becomes the row of the whole record. -/
theorem deliver_getElem (position : Nat) {i : Nat} (inside : i < t.records.length)
    (within : i < t.rows.length) :
    t.query.deliver position (t.records[i].project t.columns) = .ok t.rows[i] := by
  have read : t.query.materializer.materialize t.records[i] = .ok t.rows[i] := by
    have same := List.getElem_of_eq t.read (i := i) (by rw [List.length_map]; exact inside)
    rwa [List.getElem_map, List.getElem_map] at same
  rw [CompiledQuery.deliver, Materializer.materialize_project t.covered, read]
  rfl

/-- What becomes of the records of a page. -/
theorem deliver_page (offset size : Nat) :
    (t.page offset size).records.mapIdx t.query.deliver =
      ((t.rows.drop offset).take size).map .ok := by
  refine List.ext_getElem ?_ fun i left right => ?_
  · simp [page, t.length_rows]
  · have within : offset + i < t.rows.length := by
      simp only [List.length_map, List.length_take, List.length_drop] at right
      omega
    simp only [page, List.getElem_mapIdx, List.getElem_map, List.getElem_take, List.getElem_drop]
    exact t.deliver_getElem i (t.length_rows ▸ within) within

/-- A page and the page behind it are one page. -/
theorem records_append (offset size more : Nat) :
    (t.page offset size).records ++ (t.page (offset + size) more).records =
      (t.page offset (size + more)).records := by
  rw [page, page, page, ← List.map_append, List.take_add, List.drop_drop]

/-- The token of a page that has one is that of the offset behind it. -/
theorem offset_of_page {offset size : Nat} (more : (t.page offset size).nextToken.isSome = true) :
    offset + size < t.records.length ∧
      t.offset (t.page offset size).nextToken = .ok (offset + size) := by
  rw [page, MemoryStore.tokenBehind] at more ⊢
  split at more
  · rename_i left
    rw [if_pos left]
    exact ⟨left, StoreToken.decode_encode _ (Nat.lt_of_lt_of_le left t.words)⟩
  · cases more

/-- Behind a page without a token there is nothing. -/
theorem behind_of_page {offset size : Nat} (last : (t.page offset size).nextToken = none) :
    t.records.length ≤ offset + size := by
  rw [page, MemoryStore.tokenBehind] at last
  split at last
  · cases last
  · exact Nat.le_of_not_lt ‹_›

/-- The record in front of a page. -/
theorem page_front {offset size : Nat} (inside : offset < t.records.length) (begun : 0 < size) :
    (t.page offset size).records =
        t.records[offset].project t.columns :: (t.page (offset + 1) (size - 1)).records ∧
      (t.page offset size).nextToken = (t.page (offset + 1) (size - 1)).nextToken := by
  obtain ⟨size, rfl⟩ : ∃ n, size = n + 1 := ⟨size - 1, by omega⟩
  constructor
  · simp only [page, Nat.add_sub_cancel]
    rw [List.drop_eq_getElem_cons inside, List.take_succ_cons, List.map_cons]
  · have behind : offset + 1 + (size + 1 - 1) = offset + (size + 1) := by omega
    rw [page, page, behind]

/-- A page without records has no size or stands behind the table. -/
theorem page_empty {offset size : Nat} (empty : (t.page offset size).records = []) :
    size = 0 ∨ t.records.length ≤ offset := by
  rw [page, List.map_eq_nil_iff, List.take_eq_nil_iff, List.drop_eq_nil_iff] at empty
  exact empty

/-- The page that a request is for, whatever its token. -/
theorem pageFor_request {s : MemoryStore} (held : t.Held s) (token : Option String)
    (asked : Option Nat) :
    s.pageFor ⟨t.query.statement, token, asked⟩ =
      (t.offset token).map fun offset => t.page offset (s.limitFor asked) := by
  rw [t.statement_eq]
  exact MemoryStore.pageFor_text ⟨t.query.table, t.columns⟩ token asked t.some_column held

end RowTable

end Keyscan
