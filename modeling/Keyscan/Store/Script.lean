import Keyscan.Store.Protocol

/-!
A store that plays back answers in order, whatever is asked, and then empty last pages.
-/

set_option autoImplicit false

namespace Keyscan

/-- The answers to come, and the requests so far. -/
structure ScriptedStore where
  answers : List (Except StoreError Page)
  /-- The ticks before each answer. -/
  latency : Nat
  /-- The requests received so far, in order. -/
  log : List StatementRequest

namespace ScriptedStore

/-- The number of pages and records that are still to come. -/
def remaining (s : ScriptedStore) : Nat :=
  s.answers.foldl (fun n a => n + 1 + a.toOption.elim 0 fun page => page.records.length) 0

/-- The next answer of the script. -/
def answer (_ : StatementRequest) (s : ScriptedStore) : Except StoreError Page × ScriptedStore :=
  match s.answers with
  | [] => (.ok (.last []), s)
  | a :: rest => (a, { s with answers := rest })

/-- The store as queries see it. -/
def client : StoreClient ScriptedStore where
  receive request s := { s with log := s.log ++ [request] }
  latency s := s.latency
  answer := answer
  ahead := remaining

end ScriptedStore

end Keyscan
