import Keyscan.Mapping.Registry
import Keyscan.Query.Model

/-!
Declarations that pass validation. `validate_iff` shows that checking the properties one after the
other, against the names and attributes seen before, comes to the conditions on all of them at once
that `WellFormed` lists. Every such declaration has a query model.
-/

set_option autoImplicit false

namespace Keyscan

/-- Names that differ from each other and from those seen before. -/
def Fresh (seen names : List String) : Prop := names.Nodup ∧ ∀ x ∈ names, x ∉ seen

theorem fresh_nil (seen : List String) : Fresh seen [] := by
  simp [Fresh]

/-- Names are fresh when the first is, and the others are with the first among those seen. -/
theorem fresh_cons {seen rest : List String} {x : String} :
    Fresh seen (x :: rest) ↔ x ∉ seen ∧ Fresh (x :: seen) rest := by
  constructor
  · rintro ⟨distinct, unseen⟩
    obtain ⟨first, tail⟩ := List.nodup_cons.1 distinct
    refine ⟨unseen x List.mem_cons_self, tail, fun y mem => ?_⟩
    rw [List.mem_cons, not_or]
    exact ⟨fun same => first (same ▸ mem), unseen y (List.mem_cons_of_mem _ mem)⟩
  · rintro ⟨first, tail, unseen⟩
    refine ⟨List.nodup_cons.2 ⟨fun mem => ?_, tail⟩, fun y mem => ?_⟩
    · exact unseen x mem List.mem_cons_self
    · rcases List.mem_cons.1 mem with rfl | mem
      · exact first
      · exact fun seen => unseen y mem (List.mem_cons_of_mem _ seen)

namespace EntityMapping

/-- The check of the properties, said of all of them at once. -/
theorem validateProperties_iff {entity : String} {names attributes : List String}
    {properties : List PropertyMapping} :
    validateProperties entity names attributes properties = .ok () ↔
      (∀ p ∈ properties, Text.isBlank p.name = false ∧ Text.isBlank p.attributeName = false) ∧
        Fresh names (properties.map PropertyMapping.name) ∧
        Fresh attributes (properties.map PropertyMapping.attributeName) := by
  induction properties generalizing names attributes with
  | nil => simp [validateProperties, fresh_nil]
  | cons p rest ih =>
      rw [validateProperties, List.forall_mem_cons, List.map_cons, List.map_cons, fresh_cons,
        fresh_cons]
      by_cases blank : (Text.isBlank p.name || Text.isBlank p.attributeName) = true
      · rw [if_pos blank]
        refine iff_of_false (by simp) ?_
        rintro ⟨⟨named, -⟩, -⟩
        simp [named] at blank
      · rw [if_neg blank]
        by_cases name : p.name ∈ names
        · rw [if_pos name]
          exact iff_of_false (by simp) fun fits => fits.2.1.1 name
        · rw [if_neg name]
          by_cases taken : p.attributeName ∈ attributes
          · rw [if_pos taken]
            exact iff_of_false (by simp) fun fits => fits.2.2.1 taken
          · rw [if_neg taken, ih]
            simp only [Bool.or_eq_true, not_or, Bool.not_eq_true] at blank
            constructor
            · rintro ⟨named, distinct, apart⟩
              exact ⟨⟨blank, named⟩, ⟨name, distinct⟩, taken, apart⟩
            · rintro ⟨⟨-, named⟩, ⟨-, distinct⟩, -, apart⟩
              exact ⟨named, distinct, apart⟩

/-- A declaration passes validation exactly when it is well formed. -/
theorem validate_iff {m : EntityMapping} : m.validate = .ok () ↔ m.WellFormed := by
  have properties := @validateProperties_iff m.entity [] [] m.properties
  constructor
  · intro valid
    rw [validate] at valid
    split at valid
    · cases valid
    split at valid
    · cases valid
    split at valid
    · cases valid
    · rename_i entity table some_property
      obtain ⟨named, distinct, apart⟩ := properties.1 valid
      exact {
        entity_named := by simpa using entity
        table_named := by simpa using table
        has_property := by simpa using some_property
        properties_named := fun p mem => (named p mem).1
        attributes_named := fun p mem => (named p mem).2
        properties_distinct := distinct.1
        attributes_distinct := apart.1 }
  · rintro ⟨entity, table, some_property, named, attributes, distinct, apart⟩
    rw [validate, if_neg (by simp [entity]), if_neg (by simp [table]),
      if_neg (by simpa using some_property)]
    refine properties.2 ⟨fun p mem => ⟨named p mem, attributes p mem⟩, ⟨distinct, ?_⟩, apart, ?_⟩
    · exact fun _ _ => List.not_mem_nil
    · exact fun _ _ => List.not_mem_nil

-- A property without an attribute of its own may still be in the way of one that names it.
example :
    validate ⟨"Order", "orders", [⟨"Id", some "Total", .integer .long, false⟩,
        ⟨"Total", none, .decimal, true⟩]⟩ =
      .error (.invalid "Order" "duplicate attribute 'Total'") := by
  rfl

end EntityMapping

namespace QueryModel

/-- A model is built wherever what every model promises holds. -/
theorem of_eq (entity : String) {table : String} {properties : List ProjectedProperty}
    (table_named : table ≠ "") (has_property : properties ≠ [])
    (attributes_distinct : (properties.map ProjectedProperty.attributeName).Nodup) :
    of entity table properties =
      .ok ⟨entity, table, properties, table_named, has_property, attributes_distinct⟩ := by
  have unrepeated : firstRepeat? [] (properties.map ProjectedProperty.attributeName) = none :=
    firstRepeat?_eq_none.2 ⟨attributes_distinct, fun _ _ => List.not_mem_nil⟩
  rw [of, dif_neg table_named, dif_neg has_property]
  split
  · rename_i name found
    rw [unrepeated] at found
    cases found
  · rfl

/-- A well-formed declaration has a model, which reads every property in declaration order. -/
theorem exists_ofMapping {m : EntityMapping} (wellFormed : m.WellFormed) :
    ∃ model, ofMapping m = .ok model ∧ model.entity = m.entity ∧ model.table = m.table ∧
      model.properties = m.properties.map PropertyMapping.projected := by
  have table_named : m.table ≠ "" := by
    intro empty
    have named := wellFormed.table_named
    rw [empty] at named
    cases named
  have has_property : m.properties.map PropertyMapping.projected ≠ [] := by
    simpa using wellFormed.has_property
  have attributes_distinct :
      ((m.properties.map PropertyMapping.projected).map ProjectedProperty.attributeName).Nodup := by
    rw [List.map_map]
    exact wellFormed.attributes_distinct
  exact ⟨_, of_eq m.entity table_named has_property attributes_distinct, rfl, rfl, rfl⟩

end QueryModel

end Keyscan
