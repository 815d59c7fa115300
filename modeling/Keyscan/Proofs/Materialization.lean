import Mathlib.Data.List.Forall2
import Keyscan.Plan.Materializer

/-!
Materialization. A materializer reads only the attributes of its fields, so a store that returns no
others changes nothing. A record becomes a row exactly when every field is read, and is otherwise
blamed on the first field that fails, whose property and attribute the error names.
-/

set_option autoImplicit false

namespace Keyscan

variable {α : Type}

/-- A lookup among the entries kept finds what was there, and nothing of what was dropped. -/
theorem Entries.get?_filter (keep : String → Bool) (key : String) (entries : List (String × α)) :
    get? key (entries.filter fun e => keep e.1) = if keep key then get? key entries else none := by
  induction entries with
  | nil => simp [get?]
  | cons entry rest ih =>
      obtain ⟨k, x⟩ := entry
      by_cases kept : keep k = true
      · have stays : ((k, x) :: rest).filter (fun e => keep e.1) =
            (k, x) :: rest.filter (fun e => keep e.1) :=
          List.filter_cons_of_pos kept
        rw [stays, get?, get?, ih]
        by_cases same : key = k
        · subst same
          simp [kept]
        · simp [same]
      · have goes : ((k, x) :: rest).filter (fun e => keep e.1) =
            rest.filter (fun e => keep e.1) :=
          List.filter_cons_of_neg kept
        rw [goes, ih, get?]
        by_cases same : key = k
        · subst same
          simp [kept]
        · simp [same]

/-- A record keeps the attributes it is projected to. -/
theorem Record.get?_project {r : Record} {names : List String} {name : String}
    (mem : name ∈ names) : (r.project names).get? name = r.get? name := by
  have kept := Entries.get?_filter (fun k => names.contains k) name r.entries
  rw [if_pos (List.contains_iff_mem.2 mem)] at kept
  exact kept

/-- A row of an entity with a field for each binding, in order, read from the attribute of the
binding. -/
structure Row.IsRead (row : Row) (entity : String) (bindings : List ProjectedProperty)
    (r : Record) : Prop where
  entity : row.entity = entity
  fields : List.Forall₂ (fun p value => value.1 = p.property ∧
    Codec.read p.kind p.nullable (r.get? p.attributeName) = .ok value.2) bindings row.fields

namespace Materializer

/-- Reading fields depends on their attributes only. -/
theorem readFields_congr {r r' : Record} {fields : List ProjectedProperty}
    (agree : ∀ p ∈ fields, r.get? p.attributeName = r'.get? p.attributeName) :
    readFields r fields = readFields r' fields := by
  induction fields with
  | nil => rfl
  | cons p rest ih =>
      rw [List.forall_mem_cons] at agree
      have field : readField p r = readField p r' := by
        rw [readField, agree.1, readField]
      rw [readFields, readFields, field, ih agree.2]

/-- Records that agree on the attributes of all fields are materialized alike. -/
theorem materialize_congr {m : Materializer} {r r' : Record}
    (agree : ∀ p ∈ m.fields, r.get? p.attributeName = r'.get? p.attributeName) :
    m.materialize r = m.materialize r' := by
  rw [materialize, readFields_congr agree, materialize]

/-- A record projected to the attributes of all fields is materialized like the whole record. -/
theorem materialize_project {m : Materializer} {r : Record} {names : List String}
    (covered : ∀ p ∈ m.fields, p.attributeName ∈ names) :
    m.materialize (r.project names) = m.materialize r :=
  materialize_congr fun p mem => Record.get?_project (covered p mem)

/-! ### Rows -/

/-- A field is read exactly when its attribute is. -/
theorem readField_ok_iff {p : ProjectedProperty} {r : Record} {value : ScalarValue} :
    readField p r = .ok value ↔
      Codec.read p.kind p.nullable (r.get? p.attributeName) = .ok value := by
  rw [readField]
  cases Codec.read p.kind p.nullable (r.get? p.attributeName) <;> simp [Except.mapError]

/-- Fields are read exactly when the attribute of each is, and then in their order. -/
theorem readFields_ok_iff {r : Record} {fields : List ProjectedProperty}
    {values : List (String × ScalarValue)} :
    readFields r fields = .ok values ↔
      List.Forall₂ (fun p value => value.1 = p.property ∧
        Codec.read p.kind p.nullable (r.get? p.attributeName) = .ok value.2) fields values := by
  induction fields generalizing values with
  | nil => simp [readFields, eq_comm]
  | cons p rest ih =>
      simp only [List.forall₂_cons_left_iff, ← readField_ok_iff, readFields] at ih ⊢
      constructor
      · intro read
        cases first : readField p r with
        | error fault =>
            rw [first] at read
            cases read
        | ok value =>
            cases others : readFields r rest with
            | error fault =>
                rw [first, others] at read
                cases read
            | ok more =>
                rw [first, others] at read
                cases read
                exact ⟨(p.property, value), more, ⟨rfl, rfl⟩, ih.1 others, rfl⟩
      · rintro ⟨⟨name, value⟩, more, ⟨rfl, first⟩, others, rfl⟩
        rw [first, ih.2 others]
        rfl

/-- A row is what all fields are read as. -/
theorem materialize_ok_iff {m : Materializer} {r : Record} {row : Row} :
    m.materialize r = .ok row ↔ row.IsRead m.entity m.fields r := by
  constructor
  · intro read
    rw [materialize] at read
    cases fields : readFields r m.fields with
    | error fault =>
        rw [fields] at read
        cases read
    | ok values =>
        rw [fields] at read
        cases read
        exact ⟨rfl, readFields_ok_iff.1 fields⟩
  · obtain ⟨entity, values⟩ := row
    rintro ⟨rfl, fields⟩
    rw [materialize, readFields_ok_iff.2 fields]
    rfl

/-! ### Errors -/

/-- An error in reading a field names its property and attribute. -/
theorem binding_of_readField {p : ProjectedProperty} {r : Record} {e : ConversionError}
    (failed : readField p r = .error e) : e.binding = some ⟨p.property, p.attributeName⟩ := by
  rw [readField] at failed
  cases read : Codec.read p.kind p.nullable (r.get? p.attributeName) with
  | ok value =>
      rw [read] at failed
      cases failed
  | error fault =>
      rw [read] at failed
      cases failed
      rfl

/-- Fields that cannot be read are those behind a first one that fails. -/
theorem readFields_error {r : Record} {fields : List ProjectedProperty} {e : ConversionError}
    (failed : readFields r fields = .error e) :
    ∃ before p after, fields = before ++ p :: after ∧
      (∀ field ∈ before, (readField field r).isOk = true) ∧ readField p r = .error e := by
  induction fields with
  | nil => cases failed
  | cons p rest ih =>
      rw [readFields] at failed
      cases first : readField p r with
      | error fault =>
          rw [first] at failed
          cases failed
          exact ⟨[], p, rest, rfl, by simp, first⟩
      | ok value =>
          cases others : readFields r rest with
          | ok more =>
              rw [first, others] at failed
              cases failed
          | error fault =>
              rw [first, others] at failed
              cases failed
              obtain ⟨before, q, after, rfl, read, fails⟩ := ih others
              refine ⟨p :: before, q, after, rfl, ?_, fails⟩
              rw [List.forall_mem_cons]
              exact ⟨by rw [first]; rfl, read⟩

/-- The error of a field that fails is that of reading its attribute, with the binding added. -/
theorem readField_error_iff {p : ProjectedProperty} {r : Record} {e : ConversionError} :
    readField p r = .error e ↔
      ∃ fault, Codec.read p.kind p.nullable (r.get? p.attributeName) = .error fault ∧
        e = fault.withBinding p.property p.attributeName := by
  rw [readField]
  cases Codec.read p.kind p.nullable (r.get? p.attributeName) <;> simp [Except.mapError, eq_comm]

/-- The first field that fails stops the reading with its error. -/
theorem readFields_of_first {r : Record} {before after : List ProjectedProperty}
    {p : ProjectedProperty} {e : ConversionError}
    (read : ∀ field ∈ before, (readField field r).isOk = true)
    (fails : readField p r = .error e) : readFields r (before ++ p :: after) = .error e := by
  induction before with
  | nil =>
      rw [List.nil_append, readFields, fails]
      rfl
  | cons field before ih =>
      rw [List.forall_mem_cons] at read
      rw [List.cons_append, readFields, ih read.2]
      cases first : readField field r with
      | ok value => rfl
      | error fault =>
          rw [first] at read
          cases read.1

/-- A record that cannot be materialized has a first field that fails, and the error names it. -/
theorem materialize_error {m : Materializer} {r : Record} {e : ConversionError}
    (failed : m.materialize r = .error e) :
    ∃ before p after, m.fields = before ++ p :: after ∧
      (∀ field ∈ before, (readField field r).isOk = true) ∧ readField p r = .error e ∧
      e.binding = some ⟨p.property, p.attributeName⟩ := by
  have fields : readFields r m.fields = .error e := by
    rw [materialize] at failed
    cases read : readFields r m.fields with
    | ok values => simp [read, Except.map] at failed
    | error fault =>
        rw [read] at failed
        cases failed
        rfl
  obtain ⟨before, p, after, parts, read, fails⟩ := readFields_error fields
  exact ⟨before, p, after, parts, read, fails, binding_of_readField fails⟩

end Materializer

end Keyscan
