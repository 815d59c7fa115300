import Keyscan.Query.Model
import Keyscan.Text.Quoted

/-!
Plans: expressions that build an entity from a record. An abstract plan reads properties by name; a
bound one reads attributes only.
-/

set_option autoImplicit false

namespace Keyscan

/-- An expression over one record. -/
inductive Plan where
  /-- The record that the plan is applied to. -/
  | parameter (name : String)
  /-- A property, whatever it is stored as. -/
  | access (source : Plan) (property : String)
  /-- An attribute by its name in the store. -/
  | lookup (source : Plan) (attributeName : String)
  /-- An attribute read as a kind, for a property. -/
  | convert (input : Plan) (kind : ScalarKind) (nullable : Bool) (property : String)
  /-- An entity with its fields in order. -/
  | construct (entity : String) (fields : List (String × Plan))

namespace Plan

instance : Inhabited Plan := ⟨.parameter ""⟩

/-- What a node is called in messages. -/
def nodeName : Plan → String
  | .parameter _ => "parameter"
  | .access _ _ => "property access"
  | .lookup _ _ => "record lookup"
  | .convert _ _ _ _ => "convert"
  | .construct _ _ => "construct"

mutual

/-- Whether no abstract access is left anywhere. -/
def isBound : Plan → Bool
  | .parameter _ => true
  | .access _ _ => false
  | .lookup source _ => isBound source
  | .convert input _ _ _ => isBound input
  | .construct _ fields => areBound fields

/-- Whether every field is bound. -/
def areBound : List (String × Plan) → Bool
  | [] => true
  | (_, p) :: rest => isBound p && areBound rest

end

mutual

/-- The plan as text. -/
def display : Plan → String
  | .parameter name => name
  | .access source property => s!"{source.display}.{property}"
  | .lookup source attributeName => s!"{source.display}[{Text.quoted attributeName}]"
  | .convert input kind nullable _ =>
      s!"convert<{kind.name}" ++ (if nullable then "?" else "") ++ s!">({input.display})"
  | .construct entity fields => entity ++ " \x7b " ++ displayFields fields ++ " \x7d"

/-- Fields joined by commas. -/
def displayFields : List (String × Plan) → String
  | [] => ""
  | [(name, p)] => s!"{name}: {p.display}"
  | (name, p) :: q :: rest => s!"{name}: {p.display}, " ++ displayFields (q :: rest)

end

mutual

/-- Whether two plans are the same tree. -/
def same : Plan → Plan → Bool
  | .parameter x, .parameter y => x == y
  | .access p x, .access q y => same p q && x == y
  | .lookup p x, .lookup q y => same p q && x == y
  | .convert p k n x, .convert q l m y => same p q && k == l && n == m && x == y
  | .construct x ps, .construct y qs => x == y && sameFields ps qs
  | _, _ => false

/-- Whether two lists of fields are the same, name by name. -/
def sameFields : List (String × Plan) → List (String × Plan) → Bool
  | [], [] => true
  | (x, p) :: ps, (y, q) :: qs => x == y && same p q && sameFields ps qs
  | _, _ => false

end

/-- The record parameter of every compiled plan. -/
def record : Plan := .parameter "record"

/-- How the plan of a model reads one property. -/
def readProperty (p : ProjectedProperty) : Plan :=
  .convert (.access record p.property) p.kind p.nullable p.property

/-- The abstract plan of a model: the entity, each property read as its kind. -/
def ofModel (m : QueryModel) : Plan :=
  .construct m.entity (m.properties.map fun p => (p.property, readProperty p))

end Plan

end Keyscan
