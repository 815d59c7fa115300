import Keyscan.Proofs.Plan.Lowering

/-!
What plans stand for, and that lowering keeps it. `Plan.eval` applies a plan to a record, abstract
accesses included: a property is read from the attribute that the model reads it from. A plan and the
plan it is lowered to stand for the same, whatever their shape (`eval_lowered`).

Only flat plans are finalized: an entity whose fields are conversions of single attributes of the
record. These are the bound plans that stand for a row at all (`eval_row_iff`), and the materializer
of such a plan yields just that row or error (`eval_of_ofPlan`).
-/

set_option autoImplicit false

namespace Keyscan

namespace Plan

/-! ### Values -/

/-- What a plan can stand for. -/
inductive Value where
  | record (r : Record)
  /-- An attribute by its name in the store, with what is there. -/
  | attribute (name : String) (value : Option Attribute)
  /-- What an attribute is read as. -/
  | scalar (attributeName : String) (result : Except ConversionError ScalarValue)
  /-- An entity, or the error of its first field that cannot be read. -/
  | row (result : Except ConversionError Row)

namespace Value

/-- An attribute of a record. Nothing else has attributes. -/
def read (attributeName : String) : Value → Option Value
  | .record r => some (.attribute attributeName (r.get? attributeName))
  | _ => none

/-- An attribute read as a kind. Nothing else is converted. -/
def convert (kind : ScalarKind) (nullable : Bool) : Value → Option Value
  | .attribute name value => some (.scalar name (Codec.read kind nullable value))
  | _ => none

/-- A converted value as a field. An error names the field and the attribute it was read from. -/
def field (name : String) : Value → Option (Except ConversionError (String × ScalarValue))
  | .scalar attributeName result =>
      some ((result.map fun value => (name, value)).mapError fun e =>
        e.withBinding name attributeName)
  | _ => none

theorem read_eq_some_iff {v w : Value} {attributeName : String} :
    v.read attributeName = some w ↔
      ∃ r, v = .record r ∧ w = .attribute attributeName (r.get? attributeName) := by
  cases v <;> simp [read, eq_comm]

theorem convert_eq_some_iff {v w : Value} {kind : ScalarKind} {nullable : Bool} :
    v.convert kind nullable = some w ↔
      ∃ name value, v = .attribute name value ∧ w = .scalar name (Codec.read kind nullable value) := by
  cases v <;> simp [convert, eq_comm]

theorem isSome_field_iff {v : Value} {name : String} :
    (v.field name).isSome = true ↔ ∃ attributeName result, v = .scalar attributeName result := by
  cases v <;> simp [field]

end Value

mutual

/-- What a plan stands for when it is applied to a record, if it stands for anything. -/
def eval (m : QueryModel) (r : Record) : Plan → Option Value
  | .parameter _ => some (.record r)
  | .access source property =>
      (m.property? property).bind fun p => (eval m r source).bind (Value.read p.attributeName)
  | .lookup source attributeName => (eval m r source).bind (Value.read attributeName)
  | .convert input kind nullable _ => (eval m r input).bind (Value.convert kind nullable)
  | .construct entity fields =>
      (evalFields m r fields).map fun values => .row (values.map fun vs => ⟨entity, vs⟩)

/-- What fields stand for, up to the first that fails. All of them must be converted values. -/
def evalFields (m : QueryModel) (r : Record) :
    List (String × Plan) → Option (Except ConversionError (List (String × ScalarValue)))
  | [] => some (.ok [])
  | (name, p) :: rest =>
      ((eval m r p).bind (Value.field name)).bind fun first =>
        (evalFields m r rest).map fun others => do
          let value ← first
          let more ← others
          .ok (value :: more)

end

variable {m : QueryModel} {p : Plan} (r : Record)

/-! ### Lowering keeps the meaning -/

/-- A plan whose accesses are all known stands for what it is lowered to. -/
theorem eval_lowered (known : ∀ name ∈ p.accesses, m.Has name) :
    (p.lowered m).eval m r = p.eval m r := by
  induction p with
  | parameter name => rfl
  | access source property ih =>
      rw [accesses, List.forall_mem_cons] at known
      obtain ⟨first, found⟩ := Option.isSome_iff_exists.1 (QueryModel.has_iff_isSome.1 known.1)
      have bound : m.attributeOf property = first.attributeName := by
        rw [QueryModel.attributeOf, found]
        rfl
      simp only [lowered, eval, ih known.2, found, Option.bind_some, bound]
  | lookup source attributeName ih => rw [lowered, eval, ih known, eval]
  | convert input kind nullable property ih => rw [lowered, eval, ih known, eval]
  | construct entity fields ih =>
      rw [accesses] at known
      have each : evalFields m r (loweredFields m fields) = evalFields m r fields := by
        induction fields with
        | nil => rfl
        | cons field rest ihRest =>
            rw [List.forall_mem_cons] at ih
            rw [fieldAccesses, List.forall_mem_append] at known
            rw [loweredFields, evalFields, ih.1 known.1, ihRest ih.2 known.2, evalFields]
      rw [lowered, eval, each, eval]

/-! ### Flat plans -/

/-- The plans that read one attribute of the record as a kind. -/
inductive IsField : Plan → Prop
  | read (name attributeName : String) (kind : ScalarKind) (nullable : Bool) (property : String) :
      IsField (.convert (.lookup (.parameter name) attributeName) kind nullable property)

/-- The plans that construct an entity from such fields. -/
inductive IsFlat : Plan → Prop
  | entity (entity : String) (fields : List (String × Plan))
      (each : ∀ field ∈ fields, field.2.IsField) : IsFlat (.construct entity fields)

variable {r}

/-- Only the parameter stands for a record. -/
theorem eval_record {s : Record} (stands : p.eval m r = some (.record s)) :
    ∃ name, p = .parameter name := by
  cases p with
  | parameter name => exact ⟨name, rfl⟩
  | access source property => simp [eval, Option.bind_eq_some_iff, Value.read_eq_some_iff] at stands
  | lookup source attributeName =>
      simp [eval, Option.bind_eq_some_iff, Value.read_eq_some_iff] at stands
  | convert input kind nullable property =>
      simp [eval, Option.bind_eq_some_iff, Value.convert_eq_some_iff] at stands
  | construct entity fields => simp [eval] at stands

/-- Only lookups in the parameter stand for attributes, where no access is left. -/
theorem eval_attribute (bound : p.accesses = []) {name : String} {value : Option Attribute}
    (stands : p.eval m r = some (.attribute name value)) :
    ∃ parameter attributeName, p = .lookup (.parameter parameter) attributeName := by
  cases p with
  | parameter name => simp [eval] at stands
  | access source property => cases bound
  | lookup source attributeName =>
      simp only [eval, Option.bind_eq_some_iff, Value.read_eq_some_iff] at stands
      obtain ⟨_, from_source, s, rfl, _⟩ := stands
      obtain ⟨parameter, rfl⟩ := eval_record from_source
      exact ⟨parameter, attributeName, rfl⟩
  | convert input kind nullable property =>
      simp [eval, Option.bind_eq_some_iff, Value.convert_eq_some_iff] at stands
  | construct entity fields => simp [eval] at stands

/-- Only fields stand for converted values, where no access is left. -/
theorem eval_scalar (bound : p.accesses = []) {attributeName : String}
    {result : Except ConversionError ScalarValue}
    (stands : p.eval m r = some (.scalar attributeName result)) : p.IsField := by
  cases p with
  | parameter name => simp [eval] at stands
  | access source property => cases bound
  | lookup source attributeName =>
      simp [eval, Option.bind_eq_some_iff, Value.read_eq_some_iff] at stands
  | convert input kind nullable property =>
      simp only [eval, Option.bind_eq_some_iff, Value.convert_eq_some_iff] at stands
      obtain ⟨_, from_input, name, value, rfl, _⟩ := stands
      rw [accesses] at bound
      obtain ⟨parameter, attributeName, rfl⟩ := eval_attribute bound from_input
      exact .read parameter attributeName kind nullable property
  | construct entity fields => simp [eval] at stands

/-- Fields stand for something exactly when each of them reads an attribute. -/
theorem isSome_evalFields_iff {fields : List (String × Plan)} (bound : fieldAccesses fields = []) :
    (evalFields m r fields).isSome = true ↔ ∀ field ∈ fields, field.2.IsField := by
  induction fields with
  | nil => simp [evalFields]
  | cons field rest ih =>
      obtain ⟨name, p⟩ := field
      rw [fieldAccesses, List.append_eq_nil_iff] at bound
      rw [evalFields, List.forall_mem_cons, ← ih bound.2]
      constructor
      · intro stands
        obtain ⟨values, stands⟩ := Option.isSome_iff_exists.1 stands
        simp only [Option.bind_eq_some_iff, Option.map_eq_some_iff] at stands
        obtain ⟨first, ⟨v, from_plan, converted⟩, others, from_rest, -⟩ := stands
        obtain ⟨attributeName, result, rfl⟩ :=
          Value.isSome_field_iff.1 (by rw [converted]; rfl : (v.field name).isSome = true)
        exact ⟨eval_scalar bound.1 from_plan, by rw [from_rest]; rfl⟩
      · rintro ⟨⟨parameter, attributeName, kind, nullable, property⟩, others⟩
        obtain ⟨others, from_rest⟩ := Option.isSome_iff_exists.1 others
        rw [from_rest]
        rfl

/-- The plans that stand for a row are the flat ones, where no access is left. -/
theorem eval_row_iff (bound : p.accesses = []) :
    (∃ result, p.eval m r = some (.row result)) ↔ p.IsFlat := by
  constructor
  · rintro ⟨result, stands⟩
    cases p with
    | parameter name => simp [eval] at stands
    | access source property => cases bound
    | lookup source attributeName =>
        simp [eval, Option.bind_eq_some_iff, Value.read_eq_some_iff] at stands
    | convert input kind nullable property =>
        simp [eval, Option.bind_eq_some_iff, Value.convert_eq_some_iff] at stands
    | construct entity fields =>
        rw [eval, Option.map_eq_some_iff] at stands
        obtain ⟨values, from_fields, -⟩ := stands
        exact .entity entity fields
          ((isSome_evalFields_iff bound).1 (by rw [from_fields]; rfl))
  · rintro ⟨entity, fields, each⟩
    obtain ⟨values, stands⟩ := Option.isSome_iff_exists.1 ((isSome_evalFields_iff bound).2 each)
    exact ⟨_, by rw [eval, stands]; rfl⟩

end Plan

/-! ### Finalizing -/

namespace Materializer

/-- A field is finalized exactly from a plan that reads its attribute as its kind. -/
theorem fieldOfPlan_ok_iff {name : String} {p : Plan} {field : ProjectedProperty} :
    fieldOfPlan name p = .ok field ↔ ∃ parameter property,
      p = .convert (.lookup (.parameter parameter) field.attributeName) field.kind field.nullable
        property ∧ field.property = name := by
  obtain ⟨own, attributeName, kind, nullable⟩ := field
  rcases p with _ | _ | _ | ⟨_ | _ | ⟨_ | _ | _ | _ | _, _⟩ | _ | _, _, _, _⟩ | _ <;>
    simp [fieldOfPlan, eq_comm, and_assoc, and_comm, and_left_comm]

/-- Fields are finalized one by one. -/
theorem fieldsOfPlans_cons_ok_iff {name : String} {p : Plan} {rest : List (String × Plan)}
    {fields : List ProjectedProperty} :
    fieldsOfPlans ((name, p) :: rest) = .ok fields ↔ ∃ field more,
      fieldOfPlan name p = .ok field ∧ fieldsOfPlans rest = .ok more ∧ fields = field :: more := by
  rw [fieldsOfPlans]
  cases fieldOfPlan name p <;> cases fieldsOfPlans rest <;>
    simp [bind, Except.bind, eq_comm]

theorem exists_fieldOfPlan_iff {name : String} {p : Plan} :
    (∃ field, fieldOfPlan name p = .ok field) ↔ p.IsField := by
  constructor
  · rintro ⟨field, made⟩
    obtain ⟨parameter, property, rfl, -⟩ := fieldOfPlan_ok_iff.1 made
    exact .read _ _ _ _ _
  · rintro ⟨parameter, attributeName, kind, nullable, property⟩
    exact ⟨⟨name, attributeName, kind, nullable⟩, rfl⟩

theorem exists_fieldsOfPlans_iff {plans : List (String × Plan)} :
    (∃ fields, fieldsOfPlans plans = .ok fields) ↔ ∀ plan ∈ plans, plan.2.IsField := by
  induction plans with
  | nil => simp [fieldsOfPlans]
  | cons plan rest ih =>
      obtain ⟨name, p⟩ := plan
      have first : (∃ field, fieldOfPlan name p = .ok field) ↔ p.IsField := exists_fieldOfPlan_iff
      rw [List.forall_mem_cons, ← ih, ← first]
      simp only [fieldsOfPlans_cons_ok_iff]
      constructor
      · rintro ⟨_, field, more, first, others, -⟩
        exact ⟨⟨field, first⟩, more, others⟩
      · rintro ⟨⟨field, first⟩, more, others⟩
        exact ⟨_, field, more, first, others, rfl⟩

/-- The plans that have a materializer are the flat ones. -/
theorem exists_ofPlan_iff {p : Plan} : (∃ made, ofPlan p = .ok made) ↔ p.IsFlat := by
  constructor
  · rintro ⟨made, finalized⟩
    cases p with
    | construct entity plans =>
        refine .entity entity plans (exists_fieldsOfPlans_iff.1 ?_)
        cases each : fieldsOfPlans plans with
        | ok fields => exact ⟨fields, rfl⟩
        | error e =>
            rw [ofPlan, each] at finalized
            cases finalized
    | _ => cases finalized
  · rintro ⟨entity, plans, each⟩
    obtain ⟨fields, made⟩ := exists_fieldsOfPlans_iff.2 each
    exact ⟨⟨entity, fields⟩, by rw [ofPlan, made]; rfl⟩

variable {m : QueryModel}

/-- Fields stand for what they are read as once they are finalized. -/
theorem evalFields_of_fieldsOfPlans (r : Record) {plans : List (String × Plan)}
    {fields : List ProjectedProperty} (made : fieldsOfPlans plans = .ok fields) :
    Plan.evalFields m r plans = some (readFields r fields) := by
  induction plans generalizing fields with
  | nil =>
      cases made
      rfl
  | cons plan rest ih =>
      obtain ⟨name, p⟩ := plan
      obtain ⟨field, more, first, others, rfl⟩ := fieldsOfPlans_cons_ok_iff.1 made
      obtain ⟨parameter, property, rfl, rfl⟩ := fieldOfPlan_ok_iff.1 first
      have scalar : Plan.eval m r (.convert (.lookup (.parameter parameter) field.attributeName)
          field.kind field.nullable property) = some (.scalar field.attributeName
            (Codec.read field.kind field.nullable (r.get? field.attributeName))) :=
        rfl
      rw [Plan.evalFields, scalar, ih others, readFields, readField]
      cases Codec.read field.kind field.nullable (r.get? field.attributeName) <;>
        cases readFields r more <;> rfl

/-- A finalized plan stands for the row, or the error, that its materializer yields. -/
theorem eval_of_ofPlan (r : Record) {p : Plan} {made : Materializer}
    (finalized : ofPlan p = .ok made) : p.eval m r = some (.row (made.materialize r)) := by
  obtain ⟨entity, plans, -⟩ := exists_ofPlan_iff.1 ⟨made, finalized⟩
  rw [ofPlan] at finalized
  cases each : fieldsOfPlans plans with
  | error e =>
      rw [each] at finalized
      cases finalized
  | ok fields =>
      rw [each] at finalized
      cases finalized
      rw [Plan.eval, evalFields_of_fieldsOfPlans r each]
      rfl

end Materializer

/-- Lowering keeps the meaning of every plan. It succeeds exactly when the model has every property
that is accessed, and yields the same tree with a lookup for each access, which is bound and lowered to
itself; otherwise it reports the first access to a property that the model lacks, and nothing else.
The lowered plan stands for what the plan stands for. It has a materializer exactly when it is flat,
which is when it stands for a row at all, and the materializer yields what the plan stands for. -/
theorem Plan.lowering_keeps_meaning (m : QueryModel) (p : Plan) :
    (∀ q, removeBindings m p = .ok q ↔
      (∀ name ∈ p.accesses, m.Has name) ∧ q = p.lowered m) ∧
    (∀ e, removeBindings m p = .error e ↔ ∃ before name after,
      p.accesses = before ++ name :: after ∧ (∀ x ∈ before, m.Has x) ∧ ¬ m.Has name ∧
        e = .unboundProperty name m.table) ∧
    ∀ q, removeBindings m p = .ok q →
      q.accesses = [] ∧ q.isBound = true ∧ removeBindings m q = .ok q ∧
      (∀ r, q.eval m r = p.eval m r) ∧
      ((∃ made, Materializer.ofPlan q = .ok made) ↔ q.IsFlat) ∧
      (∀ r, (∃ result, p.eval m r = some (.row result)) ↔ q.IsFlat) ∧
      ∀ made, Materializer.ofPlan q = .ok made →
        ∀ r, p.eval m r = some (.row (made.materialize r)) := by
  refine ⟨fun _ => removeBindings_ok_iff, fun _ => removeBindings_error_iff, ?_⟩
  intro q succeeded
  obtain ⟨known, rfl⟩ := removeBindings_ok_iff.1 succeeded
  have bound := accesses_lowered m p
  have same := fun r => eval_lowered r known
  refine ⟨bound, (isBound_iff _).2 bound, removeBindings_lowered, same,
    Materializer.exists_ofPlan_iff, ?_, ?_⟩
  · intro r
    rw [← same r]
    exact eval_row_iff bound
  · intro made finalized r
    rw [← same r]
    exact Materializer.eval_of_ofPlan r finalized

end Keyscan
