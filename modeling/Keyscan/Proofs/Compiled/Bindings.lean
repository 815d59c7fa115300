import Keyscan.Proofs.Compiled.Compilation
import Keyscan.Proofs.Materialization
import Keyscan.Proofs.Statement

/-!
Bindings. Models are refused for an attribute that is read twice, but not for a property name that is
used twice. The statement asks for the attribute of every property, while a field is bound to that of
the first property of its name; so the two go apart exactly at the later properties of a name, which
repeat what the first one reads.
-/

set_option autoImplicit false

namespace Keyscan

namespace QueryModel

variable {m : QueryModel} {p : ProjectedProperty}

/-- A property is compiled to itself exactly when it is the first of its name: attributes are
distinct, so that no other property will do. -/
theorem field_eq_iff (mem : p ∈ m.properties) :
    m.field p = p ↔ m.property? p.property = some p := by
  obtain ⟨first, here, bound⟩ := exists_property? mem
  constructor
  · intro same
    have attributeName : first.attributeName = p.attributeName := by
      rw [← bound]
      exact congrArg ProjectedProperty.attributeName same
    have equal : first = p :=
      List.inj_on_of_nodup_map m.attributes_distinct (List.mem_of_find?_eq_some here) mem
        attributeName
    rw [here, equal]
  · intro found
    rw [field, attributeOf, found]
    rfl

/-- All properties are compiled to themselves exactly when their names differ. -/
theorem map_field_eq_iff :
    m.properties.map m.field = m.properties ↔
      (m.properties.map ProjectedProperty.property).Nodup := by
  constructor
  · intro same
    have itself : ∀ p ∈ m.properties, m.field p = p := by
      rw [← List.map_inj_left, same, List.map_id']
    rw [List.nodup_map_iff_inj_on (m.attributes_distinct.of_map _)]
    intro p memP q memQ name
    have first := (field_eq_iff memP).1 (itself p memP)
    rw [name, (field_eq_iff memQ).1 (itself q memQ)] at first
    exact (Option.some.inj first).symm
  · intro distinct
    exact CompiledQuery.compiled_fields distinct

end QueryModel

namespace CompiledQuery

/-- Every model compiles to a statement for the attributes of its properties, in order, and to a field
for each property, which the rows are read from. A field is the property itself exactly when it is the
first of its name; so the bindings are the properties exactly when their names differ. -/
theorem fields_eq_properties_iff (m : QueryModel) :
    ∃ q, ofModel m = .ok q ∧
      Statement.read? q.statement = some ⟨m.table, m.attributeNames⟩ ∧
      q.materializer.fields = m.properties.map m.field ∧
      (∀ p ∈ m.properties, m.field p = p ↔ m.property? p.property = some p) ∧
      (q.materializer.fields = m.properties ↔
        (m.properties.map ProjectedProperty.property).Nodup) ∧
      ∀ r row, q.materializer.materialize r = .ok row ↔
        row.IsRead m.entity q.materializer.fields r := by
  refine ⟨compiled m, ofModel_eq m, Statement.read?_text (attributeNames_ne_nil m), rfl, ?_, ?_, ?_⟩
  · exact fun p mem => QueryModel.field_eq_iff mem
  · exact QueryModel.map_field_eq_iff
  · exact fun r row => Materializer.materialize_ok_iff

/-- Contacts with their first and last names, both mapped to the name. -/
def fullNames : QueryModel where
  entity := "Contact"
  table := "contacts"
  properties := [⟨"Name", "first", .string, false⟩, ⟨"Name", "last", .string, false⟩]
  table_named := by decide
  has_property := by decide
  attributes_distinct := by decide

/-- The last name is asked for, and the first name is read in its place. -/
theorem misread_fullNames :
    QueryModel.of fullNames.entity fullNames.table fullNames.properties = .ok fullNames ∧
      ∃ q, ofModel fullNames = .ok q ∧
        Statement.read? q.statement = some ⟨"contacts", ["first", "last"]⟩ ∧
        q.materializer.fields =
          [⟨"Name", "first", .string, false⟩, ⟨"Name", "first", .string, false⟩] ∧
        q.materializer.fields ≠ fullNames.properties ∧
        q.materializer.materialize (.ofList [("first", .string "a"), ("last", .string "b")]) =
          .ok ⟨"Contact", [("Name", .string "a"), ("Name", .string "a")]⟩ :=
  ⟨rfl, compiled fullNames, ofModel_eq fullNames, by decide, rfl, by decide, rfl⟩

end CompiledQuery

end Keyscan
