import Keyscan.Proofs.Compiled.Meaning
import Keyscan.Proofs.Scalar.Reading

/-!
Rows of a mapped entity are typed as the mapping says. Every field owes its value to the attribute of
its property, and can be extracted as the property's kind and as no other. Fields are looked up by
name, so this rests on the names being distinct.
-/

set_option autoImplicit false

namespace Keyscan

/-- Fields that go with properties of different names are found under these names. -/
theorem exists_get?_of_forall₂ {meets : PropertyMapping → ScalarValue → Prop}
    {properties : List PropertyMapping} {fields : List (String × ScalarValue)}
    (each : List.Forall₂ (fun p field => field.1 = p.name ∧ meets p field.2) properties fields)
    (distinct : (properties.map PropertyMapping.name).Nodup) {p : PropertyMapping}
    (mem : p ∈ properties) : ∃ v, Entries.get? p.name fields = some v ∧ meets p v := by
  induction each with
  | nil => cases mem
  | @cons first field rest fields here others ih =>
      obtain ⟨name, value⟩ := field
      obtain ⟨rfl, met⟩ := here
      rw [List.map_cons, List.nodup_cons] at distinct
      rw [Entries.get?]
      rcases List.mem_cons.1 mem with rfl | mem
      · exact ⟨value, if_pos rfl, met⟩
      · have apart : p.name ≠ first.name := fun same =>
          distinct.1 (same ▸ List.mem_map_of_mem mem)
        rw [if_neg apart]
        exact ih distinct.2 mem

/-- A row that is typed as a mapping says, read from a record. -/
structure Row.Typed (row : Row) (m : EntityMapping) (r : Record) : Prop where
  entity : row.entity = m.entity
  /-- There is a field for each property, which owes its value to the attribute. -/
  fields : List.Forall₂ (fun p field => field.1 = p.name ∧
    Codec.Reading p.kind p.nullable (r.get? p.attributeName) field.2) m.properties row.fields
  /-- What has to be there can be extracted. -/
  required : ∀ p ∈ m.properties, p.nullable = false →
    ∃ x, row.getAs p.name p.kind = .ok x ∧ row.get? p.name = some (.ofCarrier p.kind x)
  /-- What need not be there can be extracted, too, and is none where it is null. -/
  optional : ∀ p ∈ m.properties, ∃ x, row.getOptional p.name p.kind = .ok x ∧
    row.get? p.name = some (x.elim .null (.ofCarrier p.kind))
  /-- What is there is nothing of another kind. -/
  other : ∀ p ∈ m.properties, row.get? p.name ≠ some .null → ∀ kind, kind ≠ p.kind →
    row.getAs p.name kind =
        .error (extractionError p.name kind (.wrongShape p.kind.name)) ∧
      row.getOptional p.name kind =
        .error (extractionError p.name kind (.wrongShape p.kind.name))

namespace Row

variable {row : Row} {p : PropertyMapping} {a : Option Attribute} {v : ScalarValue}

/-- A field that is owed to an attribute can be extracted, be it null or not. -/
theorem exists_getOptional (here : row.get? p.name = some v)
    (reading : Codec.Reading p.kind p.nullable a v) :
    ∃ x, row.getOptional p.name p.kind = .ok x ∧
      row.get? p.name = some (x.elim .null (.ofCarrier p.kind)) := by
  by_cases null : v = .null
  · rw [null] at here
    exact ⟨none, getOptional_null here, here⟩
  · obtain ⟨x, extracted, rfl⟩ := exists_getAs here (reading.ofKind null)
    refine ⟨some x, ?_, here⟩
    rw [getOptional_of_ne_null here null, extracted]
    rfl

/-- A field that is not null cannot be extracted as another kind. -/
theorem getAs_other (here : row.get? p.name = some v)
    (reading : Codec.Reading p.kind p.nullable a v) (nonnull : v ≠ .null) {kind : ScalarKind}
    (other : kind ≠ p.kind) :
    row.getAs p.name kind =
      .error (extractionError p.name kind (.wrongShape p.kind.name)) := by
  have ofKind : v.kind? = some p.kind := reading.ofKind nonnull
  have kindName : v.kindName = p.kind.name := by
    rw [ScalarValue.kindName, ofKind]
    rfl
  have unlike : v.kind? ≠ some kind := by
    rw [ofKind]
    exact fun same => other (Option.some.inj same).symm
  rw [getAs_of_other here unlike, kindName]

end Row

namespace EntityMapping

/-- What a mapping with distinct names makes of a record is typed. -/
theorem Meaning.typed {m : EntityMapping} {r : Record} {row : Row}
    (distinct : (m.properties.map PropertyMapping.name).Nodup) (meaning : m.Meaning r (.ok row)) :
    row.Typed m r := by
  cases meaning with
  | @row values read =>
      have fields : List.Forall₂ (fun p field => field.1 = p.name ∧
          Codec.Reading p.kind p.nullable (r.get? p.attributeName) field.2) m.properties values :=
        read.imp fun p field each => ⟨each.1, Codec.reading_of_read each.2⟩
      have found {p : PropertyMapping} (mem : p ∈ m.properties) :
          ∃ v, Row.get? ⟨m.entity, values⟩ p.name = some v ∧
            Codec.Reading p.kind p.nullable (r.get? p.attributeName) v :=
        exists_get?_of_forall₂ fields distinct mem
      refine
        { entity := rfl
          fields
          required := fun p mem required => ?_
          optional := fun p mem => ?_
          other := fun p mem nonnull kind other => ?_ }
      · obtain ⟨v, here, reading⟩ := found mem
        have ofKind : v.kind? = some p.kind := by
          rw [required] at reading
          exact reading.ofKind reading.ne_null
        obtain ⟨x, extracted, rfl⟩ := Row.exists_getAs here ofKind
        exact ⟨x, extracted, here⟩
      · obtain ⟨v, here, reading⟩ := found mem
        exact Row.exists_getOptional here reading
      · obtain ⟨v, here, reading⟩ := found mem
        have nonnull : v ≠ .null := fun null => nonnull (null ▸ here)
        have refused := Row.getAs_other here reading nonnull other
        refine ⟨refused, ?_⟩
        rw [Row.getOptional_of_ne_null here nonnull, refused]
        rfl

/-- Every row that the query of a valid mapping materializes is typed. -/
theorem materialize_typed {m : EntityMapping} (valid : m.validate = .ok ()) :
    ∃ model q, QueryModel.ofMapping m = .ok model ∧ CompiledQuery.ofModel model = .ok q ∧
      ∀ r row, q.materializer.materialize r = .ok row → row.Typed m r := by
  obtain ⟨model, built, -, -, fields⟩ := exists_compiled valid
  refine ⟨model, .compiled model, built, CompiledQuery.ofModel_eq model, fun r row read => ?_⟩
  rw [fields] at read
  exact (meaning_of_materialize read).typed (validate_iff.1 valid).properties_distinct

/-- Accounts, which may be without a name and are opened at some time. -/
def accounts : EntityMapping where
  entity := "Account"
  table := "accounts"
  properties := [⟨"Name", none, .string, true⟩, ⟨"Opened", some "opened_at", .dateTime, false⟩]

/-- An account without a name and a time: the name is null, and the time the epoch. -/
theorem materialize_typed_accounts :
    let r : Record := .ofList [("opened_at", .null)]
    let row : Row := ⟨"Account", [("Name", .null), ("Opened", .dateTime .epoch)]⟩
    accounts.validate = .ok () ∧
      ∃ model q, QueryModel.ofMapping accounts = .ok model ∧ CompiledQuery.ofModel model = .ok q ∧
        q.materializer.materialize r = .ok row ∧ row.Typed accounts r := by
  intro r row
  have valid : accounts.validate = .ok () := by decide
  obtain ⟨model, q, built, compiled, typed⟩ := materialize_typed valid
  have same : q.materializer = accounts.materializer := by
    obtain ⟨other, found, -, -, fields⟩ := exists_compiled valid
    cases built.symm.trans found
    cases compiled.symm.trans (CompiledQuery.ofModel_eq model)
    exact fields
  have read : q.materializer.materialize r = .ok row := by
    rw [same]
    rfl
  exact ⟨valid, model, q, built, compiled, read, typed r row read⟩

end EntityMapping

end Keyscan
