import Keyscan.Statement
import Keyscan.Store.Token

/-!
A store in memory: tables of records, answered page by page. Failures can be queued, one for each
request to come, and a latency can be set.
-/

set_option autoImplicit false

namespace Keyscan

/-- The tables, and how requests for them are answered. -/
structure MemoryStore where
  tables : SortedMap (List Record)
  /-- The page size of requests that ask for none. -/
  defaultPageSize : Nat
  /-- The ticks before each answer. -/
  latency : Nat
  /-- Failures to come, one for each answer. -/
  failures : List StoreError
  /-- The requests received so far, in order. -/
  log : List StatementRequest

namespace MemoryStore

/-- A store without tables, with pages of a hundred records. -/
def empty : MemoryStore := ⟨.empty, 100, 0, [], []⟩

/-- The store with another page size for requests that ask for none, at least one. -/
def withDefaultPageSize (s : MemoryStore) (size : Nat) : MemoryStore :=
  { s with defaultPageSize := max size 1 }

/-- Puts a table, in place of one of the same name. -/
def insertTable (s : MemoryStore) (name : String) (records : List Record) : MemoryStore :=
  { s with tables := s.tables.insert name records }

/-- The number of records in all tables. -/
def recordCount (s : MemoryStore) : Nat :=
  s.tables.entries.foldl (fun n t => n + t.2.length) 0

/-- Queues a failure for the next request that has none queued. -/
def failNext (s : MemoryStore) (e : StoreError) : MemoryStore :=
  { s with failures := s.failures ++ [e] }

/-- The tables in a JSON value: an object of arrays of records. -/
def decodeTables (j : Json) : Except DecodeError (List (String × List Record)) :=
  j.asMembers (Json.asList Record.decode)

/-- The store with the tables in a JSON value. -/
def ofJson (j : Json) : Except DecodeError MemoryStore := do
  let tables ← decodeTables j
  .ok { empty with tables := .ofList tables }

/-- The records of a page, and the offset behind it while records remain. An offset past the end
leaves nothing. -/
def pageAt (records : List Record) (offset limit : Nat) : List Record × Option Nat :=
  let stop := min (offset + limit) records.length
  ((records.take stop).drop offset, if stop < records.length then some stop else none)

/-- The page that a request asks for. -/
def pageFor (s : MemoryStore) (request : StatementRequest) : Except StoreError Page := do
  match Statement.read? request.statement with
  | none => .error (.fatal s!"unsupported statement: {request.statement}")
  | some select =>
      match s.tables.get? select.table with
      | none => .error (.fatal s!"table '{select.table}' does not exist")
      | some records =>
          let offset ←
            match request.nextToken with
            | some token => StoreToken.decode token select.table
            | none => .ok 0
          let limit := max (request.limit.getD s.defaultPageSize) 1
          let (page, next) := pageAt records offset limit
          .ok ⟨page.map (Record.project · select.columns),
            next.map (StoreToken.encode select.table)⟩

/-- The answer to a request: a failure that is queued, or the page. -/
def answer (request : StatementRequest) (s : MemoryStore) :
    Except StoreError Page × MemoryStore :=
  match s.failures with
  | e :: rest => (.error e, { s with failures := rest })
  | [] => (s.pageFor request, s)

/-- The store as queries see it. -/
def client : StoreClient MemoryStore where
  receive request s := { s with log := s.log ++ [request] }
  latency s := s.latency
  answer := answer
  ahead := recordCount

end MemoryStore

end Keyscan
