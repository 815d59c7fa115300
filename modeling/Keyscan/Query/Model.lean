import Keyscan.Query.Error

/-!
Query models: a table and the properties that are read from it, in order. No attribute is read twice;
property names need not differ.
-/

set_option autoImplicit false

namespace Keyscan

/-- A property of a query, and the attribute and kind it is read as. -/
structure ProjectedProperty where
  property : String
  attributeName : String
  kind : ScalarKind
  /-- Whether an absent or null attribute is read as null. -/
  nullable : Bool
  deriving DecidableEq, Repr

/-- A mapped property as a property of a query. -/
def PropertyMapping.projected (p : PropertyMapping) : ProjectedProperty :=
  ⟨p.name, p.attributeName, p.kind, p.nullable⟩

/-- The first name that is among the names before it or the names given as seen. -/
def firstRepeat? (seen : List String) : List String → Option String
  | [] => none
  | x :: rest => if x ∈ seen then some x else firstRepeat? (x :: seen) rest

/-- No name is found exactly when the names differ from each other and from those seen. -/
theorem firstRepeat?_eq_none {seen names : List String} :
    firstRepeat? seen names = none ↔ names.Nodup ∧ ∀ x ∈ names, x ∉ seen := by
  induction names generalizing seen with
  | nil => simp [firstRepeat?]
  | cons x rest ih =>
      by_cases h : x ∈ seen
      · simp [firstRepeat?, h]
      · simp only [firstRepeat?, h, if_false, ih, List.nodup_cons, List.mem_cons, not_or]
        constructor
        · rintro ⟨distinct, unseen⟩
          refine ⟨⟨fun mem => (unseen x mem).1 rfl, distinct⟩, ?_⟩
          rintro y (rfl | mem)
          · exact h
          · exact (unseen y mem).2
        · rintro ⟨⟨notMem, distinct⟩, unseen⟩
          exact ⟨distinct, fun y mem => ⟨fun e => notMem (e ▸ mem), unseen y (.inr mem)⟩⟩

/-- What a query reads, with what every query promises. -/
structure QueryModel where
  entity : String
  table : String
  properties : List ProjectedProperty
  table_named : table ≠ ""
  has_property : properties ≠ []
  attributes_distinct : (properties.map ProjectedProperty.attributeName).Nodup
  deriving DecidableEq

namespace QueryModel

/-- Builds a model, and refuses one without a table, without properties or with an attribute that is
read twice. -/
def of (entity table : String) (properties : List ProjectedProperty) :
    Except TranslationError QueryModel :=
  if ht : table = "" then .error (.invalid "query model requires a table name")
  else if hp : properties = [] then
    .error (.invalid s!"query model for table '{table}' projects no properties")
  else
    match h : firstRepeat? [] (properties.map ProjectedProperty.attributeName) with
    | some name =>
        .error (.invalid s!"attribute '{name}' is projected more than once from table '{table}'")
    | none => .ok ⟨entity, table, properties, ht, hp, (firstRepeat?_eq_none.1 h).1⟩

/-- The model that reads every mapped property, in declaration order. -/
def ofMapping (m : EntityMapping) : Except TranslationError QueryModel :=
  of m.entity m.table (m.properties.map PropertyMapping.projected)

/-- The property with a name, the first of several. -/
def property? (m : QueryModel) (name : String) : Option ProjectedProperty :=
  m.properties.find? (·.property == name)

/-- The attributes that are read, in order. -/
def attributeNames (m : QueryModel) : List String :=
  m.properties.map ProjectedProperty.attributeName

/-- The part of a model's key that a property contributes. -/
def propertyKey (p : ProjectedProperty) : String :=
  s!"|{p.property}={p.attributeName}:{p.kind.name}" ++ if p.nullable then "?" else ""

/-- The text that compiled queries are kept under: all names and kinds of the model in a row. -/
def key (m : QueryModel) : String :=
  s!"{m.entity}@{m.table}" ++ String.join (m.properties.map propertyKey)

end QueryModel

end Keyscan
