import Keyscan.Proofs.Store.Memory

/-!
A table read page by page: requests for one statement, each with the token of the page before and with
a page size of its own. `Cuts` says how records are cut into pages of given sizes, without requests and
tokens. One request gives the page at the offset of its token (`execute_read`), so a chain of requests
cuts the table (`chain_cuts`), ends, and brings every record once (`chain_partitions`).
-/

set_option autoImplicit false

namespace Keyscan

/-! ### Records cut into pages -/

/-- Pages that go through records in order, as many on each as its size allows. There is a token exactly
while records remain. -/
inductive Cuts (project : Record → Record) : List Record → List Nat → List Page → Prop
  /-- No page is asked for. -/
  | unasked (rest : List Record) : Cuts project rest [] []
  /-- All the records that remain fit on the page, and no page comes behind it. -/
  | last {rest : List Record} {size : Nat} {sizes : List Nat} (fit : rest.length ≤ size) :
      Cuts project rest (size :: sizes) [.last (rest.map project)]
  /-- The page is full, and the pages behind it go through the records that remain. -/
  | onward {rest : List Record} {size : Nat} {sizes : List Nat} {pages : List Page} (token : String)
      (remain : size < rest.length) (behind : Cuts project (rest.drop size) sizes pages) :
      Cuts project rest (size :: sizes) (⟨(rest.take size).map project, some token⟩ :: pages)

/-- There is a page without a token. -/
def Ended (pages : List Page) : Prop := ∃ page ∈ pages, page.nextToken = none

namespace Cuts

variable {project : Record → Record} {rest : List Record} {sizes : List Nat} {pages : List Page}

/-- Pages up to one without a token bring every record once. -/
theorem flatMap_records (cuts : Cuts project rest sizes pages) (ended : Ended pages) :
    pages.flatMap (·.records) = rest.map project := by
  induction cuts with
  | unasked => exact absurd ended nofun
  | last => exact List.append_nil _
  | @onward rest size _ _ _ _ _ ih =>
      obtain ⟨page, mem, none⟩ := ended
      cases mem with
      | head => cases none
      | tail _ mem =>
          rw [List.flatMap_cons, ih ⟨page, mem, none⟩, ← List.map_append, List.take_append_drop]

/-- As many pages as there are records are enough, when every page has room for one. -/
theorem ended (cuts : Cuts project rest sizes pages) (room : ∀ size ∈ sizes, 0 < size)
    (asked : sizes ≠ []) (enough : rest.length ≤ sizes.length) : Ended pages := by
  induction cuts with
  | unasked => exact absurd rfl asked
  | last => exact ⟨_, List.mem_cons_self, rfl⟩
  | @onward rest size sizes _ _ remain _ ih =>
      obtain ⟨here, behind⟩ := List.forall_mem_cons.1 room
      rw [List.length_cons] at enough
      have more : sizes ≠ [] := by
        rintro rfl
        rw [List.length_nil] at enough
        omega
      obtain ⟨page, mem, none⟩ := ih behind more (by rw [List.length_drop]; omega)
      exact ⟨page, .tail _ mem, none⟩

end Cuts

namespace MemoryStore

/-! ### Chains of requests -/

/-- A store that holds the records of a table, with this page size for requests that ask for none, and
without failures queued. -/
structure Serves (table : String) (records : List Record) (size : Nat) (s : MemoryStore) : Prop where
  held : s.tables.get? table = some records
  size_eq : s.defaultPageSize = size
  calm : s.failures = []

/-- One request of a chain: what happens to the store before it, and the page size that it asks for. -/
structure Ask where
  meanwhile : MemoryStore → MemoryStore
  limit : Option Nat

/-- How many records the page has room for: what is asked for or else the default, and at least one. -/
def Ask.size (usual : Nat) (ask : Ask) : Nat := max 1 (ask.limit.getD usual)

/-- The answers to requests for a statement, each with the token of the page before it. The chain stops
behind a page without a token, and behind a failure. -/
def chain (statement : String) :
    Option String → MemoryStore → List Ask → List (Except StoreError Page)
  | _, _, [] => []
  | token, s, ask :: asks =>
      match client.execute ⟨statement, token, ask.limit⟩ (ask.meanwhile s) with
      | (.error e, _) => [.error e]
      | (.ok page, s') =>
          .ok page ::
            match page.nextToken with
            | none => []
            | some next => chain statement (some next) s' asks

variable {statement : String} {select : Select} {records : List Record} {usual : Nat}
  {s : MemoryStore}

/-- A request brings the page at the offset of its token, and leaves the table as it is. -/
theorem execute_read (read : Statement.read? statement = some select)
    (serves : s.Serves select.table records usual) {token : Option String} {offset : Nat}
    (begins : offsetOf select.table token = .ok offset) (ask : Ask) :
    ∃ s' : MemoryStore, s'.Serves select.table records usual ∧
      client.execute ⟨statement, token, ask.limit⟩ s =
        (.ok ⟨((records.drop offset).take (ask.size usual)).map (Record.project · select.columns),
          tokenBehind select.table records.length (offset + ask.size usual)⟩, s') := by
  refine ⟨{ s with log := s.log ++ [⟨statement, token, ask.limit⟩] },
    ⟨serves.held, serves.size_eq, serves.calm⟩, ?_⟩
  have size : s.limitFor ask.limit = ask.size usual := by
    rw [limitFor, Ask.size, serves.size_eq, Nat.max_comm]
  have page := pageFor_read token ask.limit read serves.held
  rw [begins, size] at page
  simp only [StoreClient.execute, client, answer, serves.calm]
  exact congrArg (·, _) page

/-- From the offset of its token on, a chain of requests cuts the records that remain. -/
theorem chain_cuts_from (read : Statement.read? statement = some select)
    (word : records.length < Nat.pow 2 64) {asks : List Ask}
    (kept : ∀ ask ∈ asks, ∀ s : MemoryStore, s.Serves select.table records usual →
      (ask.meanwhile s).Serves select.table records usual)
    (serves : s.Serves select.table records usual) {token : Option String} {offset : Nat}
    (begins : offsetOf select.table token = .ok offset) :
    ∃ pages : List Page, chain statement token s asks = pages.map .ok ∧
      Cuts (Record.project · select.columns) (records.drop offset) (asks.map (Ask.size usual))
        pages := by
  induction asks generalizing s token offset with
  | nil => exact ⟨[], rfl, .unasked _⟩
  | cons ask asks ih =>
      obtain ⟨now, later⟩ := List.forall_mem_cons.1 kept
      obtain ⟨s', serves', page⟩ := execute_read read (now s serves) begins ask
      rw [chain, page, tokenBehind]
      by_cases remain : offset + ask.size usual < records.length
      · -- the token returned is the one of the next offset, which is still a machine word
        have next : offsetOf select.table
            (some (StoreToken.encode select.table (offset + ask.size usual))) =
              .ok (offset + ask.size usual) :=
          StoreToken.decode_encode select.table (Nat.lt_trans remain word)
        obtain ⟨pages, answers, cuts⟩ := ih later serves' next
        rw [← List.drop_drop] at cuts
        have within : ask.size usual < (records.drop offset).length := by
          rw [List.length_drop]
          omega
        refine ⟨_, ?_, .onward (StoreToken.encode select.table (offset + ask.size usual)) within cuts⟩
        simp only [if_pos remain, answers, List.map_cons]
      · have fit : (records.drop offset).length ≤ ask.size usual := by
          rw [List.length_drop]
          omega
        refine ⟨_, ?_, .last fit⟩
        simp only [if_neg remain, List.take_of_length_le fit, List.map_cons, List.map_nil, Page.last]

/-- A table is read page by page, whatever page sizes are asked for and whatever else happens to the
store: every page has the next records, each with the columns of the statement, as many as asked for or
all that remain, and a token exactly while records remain. The chain ends, and then its pages are the
table in order, every record once. A token that is valid for the table, with an offset inside or past
the end, gives the records from the offset on. The token that is made for an offset is valid, and the
statement that is written for columns of a table is one that asks for them. -/
theorem chain_partitions {asks : List Ask} (read : Statement.read? statement = some select)
    (serves : s.Serves select.table records usual)
    (kept : ∀ ask ∈ asks, ∀ s : MemoryStore, s.Serves select.table records usual →
      (ask.meanwhile s).Serves select.table records usual)
    (word : records.length < Nat.pow 2 64) :
    (∃ pages : List Page, chain statement none s asks = pages.map .ok ∧
      Cuts (Record.project · select.columns) records (asks.map (Ask.size usual)) pages ∧
      (asks ≠ [] → records.length ≤ asks.length → Ended pages) ∧
      (Ended pages → pages.flatMap (·.records) = records.map (Record.project · select.columns))) ∧
    (∀ (token : String) (offset : Nat), StoreToken.decode token select.table = .ok offset →
      ∀ ask : Ask, (client.execute ⟨statement, some token, ask.limit⟩ s).1 =
        .ok ⟨((records.drop offset).take (ask.size usual)).map (Record.project · select.columns),
          if offset + ask.size usual < records.length then
            some (StoreToken.encode select.table (offset + ask.size usual))
          else none⟩) ∧
    (∀ offset < Nat.pow 2 64,
      StoreToken.decode (StoreToken.encode select.table offset) select.table = .ok offset) ∧
    (select.columns ≠ [] → Statement.read? (Statement.text select) = some select) := by
  refine ⟨?_, fun token offset valid ask => ?_, fun offset => StoreToken.decode_encode select.table,
    Statement.read?_text⟩
  · have first : offsetOf select.table none = .ok 0 := rfl
    obtain ⟨pages, answers, cuts⟩ := chain_cuts_from read word kept serves first
    refine ⟨pages, answers, cuts, fun asked enough => ?_, cuts.flatMap_records⟩
    refine cuts.ended ?_ (by simpa using asked) (by simpa using enough)
    intro size mem
    obtain ⟨ask, -, rfl⟩ := List.mem_map.1 mem
    exact Nat.le_max_left _ _
  · have begins : offsetOf select.table (some token) = .ok offset := valid
    obtain ⟨s', -, page⟩ := execute_read read serves begins ask
    rw [page, tokenBehind]

/-- Three records, of which one has not the attribute `n`. -/
def threeLetters : List Record :=
  [⟨[("m", .null), ("n", .string "a")], by decide⟩, ⟨[("m", .null)], by decide⟩,
    ⟨[("n", .string "c")], by decide⟩]

/-- Requests with a page size of two, of zero, and with none of their own. Another table is put before
the second. -/
def threeAsks : List Ask := [⟨id, some 2⟩, ⟨(·.insertTable "others" []), some 0⟩, ⟨id, none⟩]

/-- They read a table whose name has a quote and a line end. -/
theorem chain_partitions_letters :
    let table := "let\"te\nrs"
    let s := (empty.insertTable table threeLetters).withDefaultPageSize 5
    ∃ pages : List Page, chain (Statement.text ⟨table, ["n"]⟩) none s threeAsks = pages.map .ok ∧
      Ended pages ∧ pages.flatMap (·.records) = threeLetters.map (Record.project · ["n"]) := by
  intro table s
  have serves : s.Serves table threeLetters 5 := ⟨SortedMap.get?_insert _ _ _ _, rfl, rfl⟩
  have kept : ∀ ask ∈ threeAsks, ∀ s : MemoryStore, s.Serves table threeLetters 5 →
      (ask.meanwhile s).Serves table threeLetters 5 := by
    intro ask mem s serves
    simp only [threeAsks, List.mem_cons, List.not_mem_nil, or_false] at mem
    obtain rfl | rfl | rfl := mem
    · exact serves
    · refine ⟨?_, serves.size_eq, serves.calm⟩
      exact (SortedMap.get?_insert _ _ _ _).trans serves.held
    · exact serves
  have read : Statement.read? (Statement.text ⟨table, ["n"]⟩) = some ⟨table, ["n"]⟩ :=
    Statement.read?_text nofun
  obtain ⟨⟨pages, answers, -, ends, whole⟩, -⟩ :=
    chain_partitions read serves kept (by decide)
  have ended := ends nofun (Nat.le_refl 3)
  exact ⟨pages, answers, ended, whole ended⟩

end MemoryStore

end Keyscan
