import Mathlib.Data.List.Nodup
import Keyscan.Compiled.Basic

/-!
Compilation. Every model compiles: each of its properties is bound to the attribute of the first
property of that name, and the bound plan comes down to one field for each property. Where the
property names differ, the fields are the properties themselves.
-/

set_option autoImplicit false

namespace Keyscan

namespace QueryModel

/-- The attribute that a name is bound to: that of the first property of the name. -/
def attributeOf (m : QueryModel) (name : String) : String :=
  ((m.property? name).map ProjectedProperty.attributeName).getD ""

/-- The field that a property is compiled to. -/
def field (m : QueryModel) (p : ProjectedProperty) : ProjectedProperty :=
  { p with attributeName := m.attributeOf p.property }

/-- Every property of a model is found by its name. -/
theorem exists_property? {m : QueryModel} {p : ProjectedProperty} (mem : p ∈ m.properties) :
    ∃ first, m.property? p.property = some first ∧ m.attributeOf p.property = first.attributeName := by
  have found : (m.property? p.property).isSome := by
    rw [property?, List.find?_isSome]
    exact ⟨p, mem, by simp⟩
  obtain ⟨first, here⟩ := Option.isSome_iff_exists.1 found
  exact ⟨first, here, by simp [attributeOf, here]⟩

/-- A property whose name no other has is compiled to itself. -/
theorem field_eq {m : QueryModel} (distinct : (m.properties.map ProjectedProperty.property).Nodup)
    {p : ProjectedProperty} (mem : p ∈ m.properties) : m.field p = p := by
  obtain ⟨first, here, bound⟩ := exists_property? mem
  have same : first.property = p.property := by
    simpa using List.find?_some here
  have equal : first = p :=
    List.inj_on_of_nodup_map distinct (List.mem_of_find?_eq_some here) mem same
  rw [field, bound, equal]

end QueryModel

/-! ### Binding -/

namespace Plan

/-- How the bound plan of a model reads one property. -/
def readBound (m : QueryModel) (p : ProjectedProperty) : Plan :=
  .convert (.lookup record (m.attributeOf p.property)) p.kind p.nullable p.property

/-- The bound plan of a model. -/
def bound (m : QueryModel) : Plan :=
  .construct m.entity (m.properties.map fun p => (p.property, readBound m p))

/-- Every property of the model is bound. -/
theorem bind_readProperty {m : QueryModel} {p : ProjectedProperty} (mem : p ∈ m.properties) :
    bind m (readProperty p) = .ok (readBound m p) := by
  obtain ⟨first, here, attributeName⟩ := QueryModel.exists_property? mem
  simp [readProperty, readBound, record, bind, here, attributeName, Except.map]

theorem bindFields_eq {m : QueryModel} {properties : List ProjectedProperty}
    (mem : ∀ p ∈ properties, p ∈ m.properties) :
    bindFields m (properties.map fun p => (p.property, readProperty p)) =
      .ok (properties.map fun p => (p.property, readBound m p)) := by
  induction properties with
  | nil => rfl
  | cons p rest ih =>
      rw [List.forall_mem_cons] at mem
      rw [List.map_cons, bindFields, bind_readProperty mem.1, ih mem.2]
      rfl

theorem areBound_eq (m : QueryModel) (properties : List ProjectedProperty) :
    areBound (properties.map fun p => (p.property, readBound m p)) = true := by
  induction properties with
  | nil => rfl
  | cons p rest ih =>
      rw [List.map_cons, areBound, ih]
      rfl

/-- No access is left in the plan of a model once its properties are bound. -/
theorem removeBindings_ofModel (m : QueryModel) : removeBindings m (ofModel m) = .ok (bound m) := by
  have bind : bind m (ofModel m) = .ok (bound m) := by
    rw [ofModel, Plan.bind, bindFields_eq fun _ mem => mem]
    rfl
  have isBound : (bound m).isBound = true := by
    rw [bound, Plan.isBound, areBound_eq]
  rw [removeBindings, bind]
  exact if_pos isBound

end Plan

/-! ### Fields -/

namespace Materializer

theorem fieldsOfPlans_eq (m : QueryModel) (properties : List ProjectedProperty) :
    fieldsOfPlans (properties.map fun p => (p.property, Plan.readBound m p)) =
      .ok (properties.map m.field) := by
  induction properties with
  | nil => rfl
  | cons p rest ih =>
      rw [List.map_cons, fieldsOfPlans, ih]
      rfl

/-- The bound plan of a model comes down to a field for each property. -/
theorem ofPlan_bound (m : QueryModel) :
    ofPlan (Plan.bound m) = .ok ⟨m.entity, m.properties.map m.field⟩ := by
  rw [Plan.bound, ofPlan, fieldsOfPlans_eq]
  rfl

end Materializer

namespace CompiledQuery

/-- What a model is compiled to. -/
def compiled (m : QueryModel) : CompiledQuery where
  model := m
  statement := Statement.text (Statement.ofModel m)
  fingerprint := Statement.fingerprint (Statement.text (Statement.ofModel m))
  plan := Plan.bound m
  materializer := ⟨m.entity, m.properties.map m.field⟩

/-- Every model compiles. -/
@[simp] theorem ofModel_eq (m : QueryModel) : ofModel m = .ok (compiled m) := by
  rw [ofModel, Plan.removeBindings_ofModel]
  simp only [bind, Except.bind, Materializer.ofPlan_bound]
  rfl

/-- Where property names differ, the fields of the materializer are the properties. -/
theorem compiled_fields {m : QueryModel}
    (distinct : (m.properties.map ProjectedProperty.property).Nodup) :
    (compiled m).materializer.fields = m.properties := by
  have same : ∀ p ∈ m.properties, m.field p = id p := fun p mem => QueryModel.field_eq distinct mem
  rw [compiled, List.map_congr_left same, List.map_id]

theorem compiled_statement (m : QueryModel) :
    (compiled m).statement = Statement.text ⟨(compiled m).table, m.attributeNames⟩ :=
  rfl

/-- A model names an attribute at least. -/
theorem attributeNames_ne_nil (m : QueryModel) : m.attributeNames ≠ [] := by
  rw [QueryModel.attributeNames, Ne, List.map_eq_nil_iff]
  exact m.has_property

/-- The statement names every attribute that the materializer reads. -/
theorem mem_attributeNames {m : QueryModel}
    (distinct : (m.properties.map ProjectedProperty.property).Nodup) :
    ∀ p ∈ (compiled m).materializer.fields, p.attributeName ∈ m.attributeNames := by
  intro p mem
  rw [compiled_fields distinct] at mem
  exact List.mem_map_of_mem mem

end CompiledQuery

end Keyscan
