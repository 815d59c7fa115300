import Keyscan.Proofs.Statement
import Keyscan.Proofs.Store.Token
import Keyscan.Store.Memory

/-!
Pages of the store in memory. A request whose statement reads back is answered from the offset of its
token: with as many records as the page size allows, each projected to the columns, and with the
token of the next offset while records remain.
-/

set_option autoImplicit false

namespace Keyscan.MemoryStore

/-- The records of a page, and the offset behind it. -/
theorem pageAt_eq (records : List Record) (offset limit : Nat) :
    pageAt records offset limit =
      ((records.drop offset).take limit,
        if offset + limit < records.length then some (offset + limit) else none) := by
  rw [pageAt]
  refine Prod.ext ?_ ?_
  · simp only [List.drop_take]
    rcases Nat.le_total (offset + limit) records.length with within | beyond
    · rw [Nat.min_eq_left within, Nat.add_sub_cancel_left]
    · rw [Nat.min_eq_right beyond, List.take_of_length_le (by simp),
        List.take_of_length_le (by rw [List.length_drop]; omega)]
  · by_cases within : offset + limit < records.length
    · rw [if_pos within, if_pos (by omega), Nat.min_eq_left (Nat.le_of_lt within)]
    · rw [if_neg within, if_neg (by omega)]

/-- The page size of a request: what it asks for or else the default, and at least one. -/
def limitFor (s : MemoryStore) (asked : Option Nat) : Nat := max (asked.getD s.defaultPageSize) 1

theorem limitFor_pos (s : MemoryStore) (asked : Option Nat) : 0 < s.limitFor asked :=
  Nat.lt_of_lt_of_le Nat.one_pos (Nat.le_max_right _ _)

/-- The offset that a request for a table begins at: that of its token, or else the first. -/
def offsetOf (table : String) : Option String → Except StoreError Nat
  | some token => StoreToken.decode token table
  | none => .ok 0

/-- The token behind an offset of a table with so many records, if any are left there. -/
def tokenBehind (table : String) (length offset : Nat) : Option String :=
  if offset < length then some (StoreToken.encode table offset) else none

/-- The page that a request with any token is for, whatever readable text its statement is. -/
theorem pageFor_read {s : MemoryStore} {records : List Record} {statement : String} {select : Select}
    (token : Option String) (asked : Option Nat) (read : Statement.read? statement = some select)
    (held : s.tables.get? select.table = some records) :
    s.pageFor ⟨statement, token, asked⟩ =
      (offsetOf select.table token).map fun offset =>
        ⟨((records.drop offset).take (s.limitFor asked)).map (Record.project · select.columns),
          tokenBehind select.table records.length (offset + s.limitFor asked)⟩ := by
  have page (offset : Nat) :
      (Except.ok ⟨(pageAt records offset (s.limitFor asked)).1.map (Record.project · select.columns),
        (pageAt records offset (s.limitFor asked)).2.map (StoreToken.encode select.table)⟩ :
          Except StoreError Page) =
        .ok ⟨((records.drop offset).take (s.limitFor asked)).map (Record.project · select.columns),
          tokenBehind select.table records.length (offset + s.limitFor asked)⟩ := by
    rw [pageAt_eq, tokenBehind]
    split <;> rfl
  simp only [pageFor, read, held]
  cases token with
  | none => exact page 0
  | some token =>
      simp only [offsetOf]
      cases StoreToken.decode token select.table with
      | error e => rfl
      | ok offset => exact page offset

/-- The page that a request with any token is for. -/
theorem pageFor_text {s : MemoryStore} {records : List Record} (select : Select)
    (token : Option String) (asked : Option Nat) (some_column : select.columns ≠ [])
    (held : s.tables.get? select.table = some records) :
    s.pageFor ⟨Statement.text select, token, asked⟩ =
      (offsetOf select.table token).map fun offset =>
        ⟨((records.drop offset).take (s.limitFor asked)).map (Record.project · select.columns),
          tokenBehind select.table records.length (offset + s.limitFor asked)⟩ :=
  pageFor_read token asked (Statement.read?_text some_column) held

/-- The token of an offset, which the first page needs none for. -/
def tokenAt (table : String) (offset : Nat) : Option String :=
  if offset = 0 then none else some (StoreToken.encode table offset)

/-- The offset of its own token. -/
theorem offsetOf_tokenAt (table : String) {offset : Nat} (word : offset < Nat.pow 2 64) :
    offsetOf table (tokenAt table offset) = .ok offset := by
  rw [tokenAt]
  split
  · subst offset
    rfl
  · exact StoreToken.decode_encode table word

/-- The page at an offset of a table. -/
theorem pageFor_eq {s : MemoryStore} {records : List Record} {offset : Nat} (select : Select)
    (asked : Option Nat) (some_column : select.columns ≠ [])
    (held : s.tables.get? select.table = some records) (word : offset < Nat.pow 2 64) :
    s.pageFor ⟨Statement.text select, tokenAt select.table offset, asked⟩ =
      .ok ⟨((records.drop offset).take (s.limitFor asked)).map (Record.project · select.columns),
        if offset + s.limitFor asked < records.length then
          tokenAt select.table (offset + s.limitFor asked)
        else none⟩ := by
  have limit := s.limitFor_pos asked
  have next : tokenAt select.table (offset + s.limitFor asked) =
      some (StoreToken.encode select.table (offset + s.limitFor asked)) := if_neg (by omega)
  rw [pageFor_text select _ asked some_column held, offsetOf_tokenAt select.table word, next]
  rfl

/-- A table is no longer than all tables together. -/
theorem length_le_recordCount {s : MemoryStore} {table : String}
    {records : List Record} (held : s.tables.get? table = some records) :
    records.length ≤ s.recordCount := by
  have entries (entries : List (String × List Record)) (count : Nat)
      (held : Entries.get? table entries = some records ∨ records.length ≤ count) :
      records.length ≤ entries.foldl (fun n t => n + t.2.length) count := by
    induction entries generalizing count with
    | nil =>
        rcases held with held | counted
        · cases held
        · exact counted
    | cons entry rest ih =>
        obtain ⟨name, stored⟩ := entry
        refine ih _ ?_
        rcases held with held | counted
        · rw [Entries.get?] at held
          split at held
          · cases held
            exact .inr (Nat.le_add_left _ _)
          · exact .inl held
        · exact .inr (Nat.le_trans counted (Nat.le_add_right _ _))
  exact entries s.tables.entries 0 (.inl held)

end Keyscan.MemoryStore
