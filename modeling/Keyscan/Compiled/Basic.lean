import Keyscan.Plan.Materializer
import Keyscan.Statement

/-!
Compiled queries: the statement that is sent to the store, and the materializer for the records that
come back.
-/

set_option autoImplicit false

namespace Keyscan

/-- What compiling a model yields. -/
structure CompiledQuery where
  model : QueryModel
  statement : String
  fingerprint : String
  /-- The bound plan that the materializer was made from. -/
  plan : Plan
  materializer : Materializer

namespace CompiledQuery

/-- The table that is read. -/
def table (q : CompiledQuery) : String := q.model.table

/-- The key of the model. -/
def key (q : CompiledQuery) : String := q.model.key

/-- Compiles a model: its plan is bound and finalized, and its statement written. -/
def ofModel (m : QueryModel) : Except CompilerError CompiledQuery := do
  let plan ← Plan.removeBindings m (Plan.ofModel m)
  let materializer ← Materializer.ofPlan plan
  let statement := Statement.text (Statement.ofModel m)
  .ok ⟨m, statement, Statement.fingerprint statement, plan, materializer⟩

end CompiledQuery

end Keyscan
