import Keyscan.Proofs.Compiled.Compilation
import Keyscan.Proofs.Mapping
import Keyscan.Proofs.Materialization

/-!
What a mapping means for a record, told without models and plans: each property is read from its own
attribute, in declaration order. The query of a valid mapping materializes just that. It looks the
attributes up again by the names of the properties, so this rests on the names being distinct, which
validation sees to.
-/

set_option autoImplicit false

namespace Keyscan

/-- What a property is read as. -/
def PropertyMapping.read (p : PropertyMapping) (r : Record) : Except ConversionError ScalarValue :=
  Codec.read p.kind p.nullable (r.get? p.attributeName)

namespace EntityMapping

/-- What a mapping makes of a record. -/
inductive Meaning (m : EntityMapping) (r : Record) : Except ConversionError Row → Prop
  /-- Every property is read: a row with a field for each. -/
  | row {values : List (String × ScalarValue)}
      (read : List.Forall₂ (fun p value => value.1 = p.name ∧ p.read r = .ok value.2)
        m.properties values) :
      Meaning m r (.ok ⟨m.entity, values⟩)
  /-- The first property that cannot be read is to blame, and its attribute. -/
  | fault {before : List PropertyMapping} {p : PropertyMapping} {after : List PropertyMapping}
      {e : ConversionError} (parts : m.properties = before ++ p :: after)
      (read : ∀ q ∈ before, (q.read r).isOk = true) (fails : p.read r = .error e) :
      Meaning m r (.error (e.withBinding p.name p.attributeName))

/-! ### The fields of a mapping -/

/-- The materializer that reads the properties of a mapping. -/
def materializer (m : EntityMapping) : Materializer :=
  ⟨m.entity, m.properties.map PropertyMapping.projected⟩

theorem isOk_readField_projected (p : PropertyMapping) (r : Record) :
    (Materializer.readField p.projected r).isOk = (p.read r).isOk := by
  have field : Materializer.readField p.projected r =
      (p.read r).mapError fun e => e.withBinding p.name p.attributeName :=
    rfl
  rw [field]
  cases p.read r <;> rfl

/-- Reading the fields of a mapping yields what the mapping means. -/
theorem meaning_of_materialize {m : EntityMapping} {r : Record}
    {result : Except ConversionError Row} (read : m.materializer.materialize r = result) :
    m.Meaning r result := by
  cases result with
  | ok row =>
      obtain ⟨entity, values⟩ := row
      obtain ⟨rfl, fields⟩ := Materializer.materialize_ok_iff.1 read
      rw [materializer, List.forall₂_map_left_iff] at fields
      exact .row fields
  | error e =>
      obtain ⟨before, p, after, parts, earlier, failed, -⟩ := Materializer.materialize_error read
      obtain ⟨before, rest, properties, rfl, others⟩ := List.map_eq_append_iff.1 parts
      obtain ⟨p, after, rfl, rfl, rfl⟩ := List.map_eq_cons_iff.1 others
      obtain ⟨fault, fails, rfl⟩ := Materializer.readField_error_iff.1 failed
      refine .fault properties ?_ fails
      intro q mem
      rw [← isOk_readField_projected]
      exact earlier _ (List.mem_map_of_mem mem)

/-- What a mapping means is what reading its fields yields. -/
theorem Meaning.materialize {m : EntityMapping} {r : Record} {result : Except ConversionError Row}
    (meaning : m.Meaning r result) : m.materializer.materialize r = result := by
  cases meaning with
  | row read =>
      refine Materializer.materialize_ok_iff.2 ⟨rfl, ?_⟩
      rw [materializer, List.forall₂_map_left_iff]
      exact read
  | @fault before p after e parts read fails =>
      have first := Materializer.readField_error_iff (p := p.projected).2 ⟨e, fails, rfl⟩
      have others : ∀ field ∈ before.map PropertyMapping.projected,
          (Materializer.readField field r).isOk = true := by
        rw [List.forall_mem_map]
        intro q mem
        rw [isOk_readField_projected]
        exact read q mem
      rw [materializer, Materializer.materialize, parts, List.map_append, List.map_cons,
        Materializer.readFields_of_first others first]
      rfl

/-! ### The query of a mapping -/

/-- A valid mapping has a compiled query, which reads its table and materializes its properties. -/
theorem exists_compiled {m : EntityMapping} (valid : m.validate = .ok ()) :
    ∃ model, QueryModel.ofMapping m = .ok model ∧
      (model.properties.map ProjectedProperty.property).Nodup ∧
      (CompiledQuery.compiled model).table = m.table ∧
      (CompiledQuery.compiled model).materializer =
        ⟨m.entity, m.properties.map PropertyMapping.projected⟩ := by
  have wellFormed := validate_iff.1 valid
  obtain ⟨model, built, entity, table, properties⟩ := QueryModel.exists_ofMapping wellFormed
  have names : model.properties.map ProjectedProperty.property =
      m.properties.map PropertyMapping.name := by
    rw [properties, List.map_map]
    rfl
  have distinct : (model.properties.map ProjectedProperty.property).Nodup := by
    rw [names]
    exact wellFormed.properties_distinct
  refine ⟨model, built, distinct, table, ?_⟩
  rw [← properties, ← CompiledQuery.compiled_fields distinct, ← entity]
  rfl

/-- The query of a valid mapping gives every record its meaning. Attributes that no property is read
from have no part in it, so records may come projected to those that the statement names. -/
theorem materialize_iff_meaning {m : EntityMapping} (valid : m.validate = .ok ()) :
    ∃ model q, QueryModel.ofMapping m = .ok model ∧ CompiledQuery.ofModel model = .ok q ∧
      (∀ r result, q.materializer.materialize r = result ↔ m.Meaning r result) ∧
      (∀ r r' : Record, (∀ p ∈ m.properties, r.get? p.attributeName = r'.get? p.attributeName) →
        q.materializer.materialize r = q.materializer.materialize r') ∧
      ∀ r, q.materializer.materialize (r.project model.attributeNames) =
        q.materializer.materialize r := by
  obtain ⟨model, built, distinct, -, fields⟩ := exists_compiled valid
  refine ⟨model, .compiled model, built, CompiledQuery.ofModel_eq model, ?_, ?_, ?_⟩
  · intro r result
    rw [fields]
    exact ⟨meaning_of_materialize, Meaning.materialize⟩
  · intro r r' agree
    rw [fields]
    refine Materializer.materialize_congr ?_
    rw [List.forall_mem_map]
    exact agree
  · intro r
    exact Materializer.materialize_project (CompiledQuery.mem_attributeNames distinct)

/-- Orders with their identifiers stored under another name. -/
def orders : EntityMapping where
  entity := "Order"
  table := "orders"
  properties := [⟨"Id", some "order_id", .integer .long, false⟩, ⟨"Paid", none, .bool, false⟩]

theorem materialize_iff_meaning_orders :
    orders.validate = .ok () ∧
    ∃ model q, QueryModel.ofMapping orders = .ok model ∧ CompiledQuery.ofModel model = .ok q ∧
      (∀ r result, q.materializer.materialize r = result ↔ orders.Meaning r result) ∧
      (∀ r r' : Record,
        (∀ p ∈ orders.properties, r.get? p.attributeName = r'.get? p.attributeName) →
          q.materializer.materialize r = q.materializer.materialize r') ∧
      ∀ r, q.materializer.materialize (r.project model.attributeNames) =
        q.materializer.materialize r :=
  ⟨by decide, materialize_iff_meaning (by decide)⟩

example :
    orders.materializer.materialize (.ofList [("order_id", .number "9")]) =
      .ok ⟨"Order", [("Id", .integer .long ⟨9, by decide⟩), ("Paid", .bool false)]⟩ := by
  rfl

end EntityMapping

end Keyscan
