import Keyscan.Compiled.Basic

/-!
Explanations: what an expression compiles to, or why it is rejected, as text for people.
-/

set_option autoImplicit false

namespace Keyscan

/-- The outcome of explaining: a compiled query with its settings, or a rejection. -/
inductive Explanation where
  | accepted (query : CompiledQuery) (pageSize : Option Nat) (autoPaginate : Bool)
  | rejected (code reason : String)

namespace Explanation

/-- One line for each field: what it is read from and how. -/
def bindings : Explanation → List String
  | .accepted query _ _ =>
      match query.plan with
      | .construct _ fields => fields.map fun p => s!"{p.1} = {p.2.display}"
      | other => [other.display]
  | .rejected _ _ => []

/-- One line for each step of lowering. -/
def stages : Explanation → List String
  | .accepted query _ _ =>
      let count := query.model.properties.length
      [ s!"inject: parameter '{Plan.record.display}'",
        s!"materialize: construct {query.model.entity} from {count} properties",
        s!"bind: {count} property accesses -> record lookups" ]
  | .rejected _ _ => []

/-- Lines numbered from a number on. -/
def numbered : Nat → List String → List String
  | _, [] => []
  | n, s :: rest => s!"  {n}. {s}" :: numbered (n + 1) rest

/-- The lines of the text. -/
def lines : Explanation → List String
  | e@(.accepted query pageSize autoPaginate) =>
      [ "=== EXPLAIN PLAN ===", "Status: ACCEPTED", s!"Entity: {query.model.entity}",
        s!"Table: {query.table}", s!"Statement: {query.statement}",
        s!"Fingerprint: {query.fingerprint}", "Bindings:" ] ++
      (e.bindings.map fun b => s!"  - {b}") ++ "Stages:" :: numbered 1 e.stages ++
      [ "Page Size: " ++ pageSize.elim "store default" toString,
        "Pagination: " ++
          if autoPaginate then "follow continuation tokens" else "first page only" ]
  | .rejected code reason =>
      ["=== EXPLAIN PLAN ===", "Status: REJECTED", s!"Error Code: {code}", s!"Reason: {reason}"]

/-- The text, each line ended. -/
def text (e : Explanation) : String := String.join (e.lines.map (· ++ "\n"))

end Explanation

end Keyscan
