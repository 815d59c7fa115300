import Keyscan.Plan.Basic

/-!
Lowering a plan to attributes: each abstract access becomes a lookup of the attribute that the model
reads the property from. The first access to a property that the model lacks is reported, an outer
one before those inside it.
-/

set_option autoImplicit false

namespace Keyscan

/-- Why a plan cannot be lowered, or a query is not there. -/
inductive CompilerError where
  /-- An access to a property that the model lacks. -/
  | unboundProperty (property table : String)
  /-- A node where a step cannot take it. -/
  | planShape (stage found : String)
  /-- No query has been compiled for a model. -/
  | notCompiled (key : String)
  deriving DecidableEq, Repr

namespace CompilerError

/-- The stable code of an error. -/
def code : CompilerError → String
  | .unboundProperty _ _ => "AERO_COMPILER_UNBOUND_PROPERTY"
  | .planShape _ _ => "AERO_COMPILER_PLAN_SHAPE"
  | .notCompiled _ => "AERO_CACHE_NOT_COMPILED"

/-- What is wrong, without the code. -/
def message : CompilerError → String
  | .unboundProperty property table =>
      s!"property '{property}' has no attribute binding in table '{table}'"
  | .planShape stage found => s!"{stage} stage cannot lower a {found} node"
  | .notCompiled key => s!"no compiled query for model '{key}'; compile it first"

/-- Whether the caller is at fault, and not the query. -/
def isMisuse : CompilerError → Bool
  | .notCompiled _ => true
  | _ => false

/-- The line that reports an error. -/
def display (e : CompilerError) : String :=
  "[" ++ (if e.isMisuse then "MISUSE" else "ERROR") ++ s!"] {e.code}: {e.message}"

end CompilerError

namespace Plan

mutual

/-- Replaces every access by a lookup of the property's attribute. -/
def bind (m : QueryModel) : Plan → Except CompilerError Plan
  | .parameter name => .ok (.parameter name)
  | .access source property =>
      match m.property? property with
      | none => .error (.unboundProperty property m.table)
      | some p => (bind m source).map fun s => .lookup s p.attributeName
  | .lookup source attributeName => (bind m source).map fun s => .lookup s attributeName
  | .convert input kind nullable property =>
      (bind m input).map fun i => .convert i kind nullable property
  | .construct entity fields => (bindFields m fields).map fun fs => .construct entity fs

/-- Binds one field after the other. -/
def bindFields (m : QueryModel) :
    List (String × Plan) → Except CompilerError (List (String × Plan))
  | [] => .ok []
  | (name, p) :: rest => do
      let q ← bind m p
      let more ← bindFields m rest
      .ok ((name, q) :: more)

end

/-- The plan with all accesses replaced, checked to have none left. -/
def removeBindings (m : QueryModel) (p : Plan) : Except CompilerError Plan := do
  let bound ← bind m p
  if bound.isBound then .ok bound else .error (.planShape "binding removal" "property access")

end Plan

end Keyscan
