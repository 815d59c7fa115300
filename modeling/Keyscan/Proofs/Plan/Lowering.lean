import Keyscan.Proofs.Compiled.Compilation

/-!
Lowering any plan, not only the plans that models are compiled to. A plan is lowered exactly when the
model has every property that is accessed in it, however deep the access lies, and then to the same
tree with a lookup in place of each access. Otherwise the error names the first access to a property
that the model lacks, an outer one before those inside it.
-/

set_option autoImplicit false

namespace Keyscan

/-! ### The properties of a model -/

namespace QueryModel

/-- Whether a model has a property with a name. -/
def Has (m : QueryModel) (name : String) : Prop := ∃ p ∈ m.properties, p.property = name

variable {m : QueryModel} {name : String}

theorem has_iff_isSome : m.Has name ↔ (m.property? name).isSome = true := by
  simp [Has, property?]

theorem not_has_iff : ¬ m.Has name ↔ m.property? name = none := by
  rw [has_iff_isSome, Option.not_isSome_iff_eq_none]

/-- The first of some names that is no property of a model. -/
def unknown? (m : QueryModel) (names : List String) : Option String :=
  names.find? fun name => (m.property? name).isNone

variable {names more : List String}

theorem unknown?_append :
    m.unknown? (names ++ more) = (m.unknown? names).or (m.unknown? more) :=
  List.find?_append

theorem unknown?_cons_has (has : m.Has name) : m.unknown? (name :: names) = m.unknown? names := by
  obtain ⟨p, found⟩ := Option.isSome_iff_exists.1 (has_iff_isSome.1 has)
  simp [unknown?, found]

theorem unknown?_cons_not (lacks : ¬ m.Has name) : m.unknown? (name :: names) = some name := by
  simp [unknown?, not_has_iff.1 lacks]

theorem unknown?_eq_none_iff : m.unknown? names = none ↔ ∀ name ∈ names, m.Has name := by
  simp [unknown?, has_iff_isSome, Option.isSome_iff_ne_none]

theorem unknown?_eq_some_iff : m.unknown? names = some name ↔
    ∃ before after, names = before ++ name :: after ∧ (∀ x ∈ before, m.Has x) ∧ ¬ m.Has name := by
  simp only [unknown?, List.find?_eq_some_iff_append, Option.isNone_iff_eq_none, not_has_iff]
  constructor
  · rintro ⟨lacks, before, after, parts, known⟩
    refine ⟨before, after, parts, fun x mem => ?_, lacks⟩
    rw [has_iff_isSome]
    simpa using known x mem
  · rintro ⟨before, after, parts, known, lacks⟩
    refine ⟨lacks, before, after, parts, fun x mem => ?_⟩
    simpa [Option.isSome_iff_ne_none] using has_iff_isSome.1 (known x mem)

end QueryModel

namespace Plan

/-! ### Trees of plans -/

/-- Induction over a plan, with the induction hypothesis for every field of an entity. -/
@[induction_eliminator]
theorem induct {P : Plan → Prop} (parameter : ∀ name, P (.parameter name))
    (access : ∀ source property, P source → P (.access source property))
    (lookup : ∀ source attributeName, P source → P (.lookup source attributeName))
    (convert : ∀ input kind nullable property, P input → P (.convert input kind nullable property))
    (construct : ∀ entity fields, (∀ field ∈ fields, P field.2) → P (.construct entity fields))
    (p : Plan) : P p :=
  @Plan.rec P (fun fields => ∀ field ∈ fields, P field.2) (fun field => P field.2)
    parameter access lookup convert construct (fun _ mem => nomatch mem)
    (fun _ _ first others => List.forall_mem_cons.2 ⟨first, others⟩) (fun _ _ held => held) p

mutual

/-- The properties that a plan accesses, one for each access, an outer one before those inside it. -/
def accesses : Plan → List String
  | .parameter _ => []
  | .access source property => property :: accesses source
  | .lookup source _ => accesses source
  | .convert input _ _ _ => accesses input
  | .construct _ fields => fieldAccesses fields

/-- The properties that the fields access, one field after the other. -/
def fieldAccesses : List (String × Plan) → List String
  | [] => []
  | (_, p) :: rest => accesses p ++ fieldAccesses rest

end

mutual

/-- The same tree with every access made a lookup of the attribute that its property is bound to. -/
def lowered (m : QueryModel) : Plan → Plan
  | .parameter name => .parameter name
  | .access source property => .lookup (lowered m source) (m.attributeOf property)
  | .lookup source attributeName => .lookup (lowered m source) attributeName
  | .convert input kind nullable property => .convert (lowered m input) kind nullable property
  | .construct entity fields => .construct entity (loweredFields m fields)

/-- The fields with their accesses made lookups. -/
def loweredFields (m : QueryModel) : List (String × Plan) → List (String × Plan)
  | [] => []
  | (name, p) :: rest => (name, lowered m p) :: loweredFields m rest

end

variable (m : QueryModel) (p : Plan)

/-- Nothing is accessed in a plan exactly when it is bound. -/
theorem isBound_iff : p.isBound = true ↔ p.accesses = [] := by
  induction p with
  | parameter name => simp [isBound, accesses]
  | access source property ih => simp [isBound, accesses]
  | lookup source attributeName ih => simpa [isBound, accesses] using ih
  | convert input kind nullable property ih => simpa [isBound, accesses] using ih
  | construct entity fields ih =>
      rw [isBound, accesses]
      induction fields with
      | nil => simp [areBound, fieldAccesses]
      | cons field rest ihRest =>
          rw [List.forall_mem_cons] at ih
          simp [areBound, fieldAccesses, ih.1, ihRest ih.2]

/-- No access is left in a lowered plan. -/
theorem accesses_lowered : (p.lowered m).accesses = [] := by
  induction p with
  | parameter name => rfl
  | access source property ih => rwa [lowered, accesses]
  | lookup source attributeName ih => rwa [lowered, accesses]
  | convert input kind nullable property ih => rwa [lowered, accesses]
  | construct entity fields ih =>
      rw [lowered, accesses]
      induction fields with
      | nil => rfl
      | cons field rest ihRest =>
          rw [List.forall_mem_cons] at ih
          rw [loweredFields, fieldAccesses, ih.1, ihRest ih.2, List.append_nil]

variable {m p}

/-- A plan without accesses is lowered to itself. -/
theorem lowered_eq_self (bound : p.accesses = []) : p.lowered m = p := by
  induction p with
  | parameter name => rfl
  | access source property ih => cases bound
  | lookup source attributeName ih =>
      rw [accesses] at bound
      rw [lowered, ih bound]
  | convert input kind nullable property ih =>
      rw [accesses] at bound
      rw [lowered, ih bound]
  | construct entity fields ih =>
      rw [accesses] at bound
      have same : loweredFields m fields = fields := by
        induction fields with
        | nil => rfl
        | cons field rest ihRest =>
            rw [List.forall_mem_cons] at ih
            rw [fieldAccesses, List.append_eq_nil_iff] at bound
            rw [loweredFields, ih.1 bound.1, ihRest ih.2 bound.2]
      rw [lowered, same]

/-! ### Binding -/

variable (m p)

/-- Binding lowers a plan, unless an access is unknown; the first of these is reported. -/
theorem bind_eq : bind m p = match m.unknown? p.accesses with
    | none => .ok (p.lowered m)
    | some name => .error (.unboundProperty name m.table) := by
  induction p with
  | parameter name => rfl
  | access source property ih =>
      rw [bind, accesses]
      cases found : m.property? property with
      | none => rw [QueryModel.unknown?_cons_not (QueryModel.not_has_iff.2 found)]
      | some first =>
          have has : m.Has property := QueryModel.has_iff_isSome.2 (by rw [found]; rfl)
          have bound : m.attributeOf property = first.attributeName := by
            rw [QueryModel.attributeOf, found]
            rfl
          rw [QueryModel.unknown?_cons_has has, ih, lowered, bound]
          cases m.unknown? source.accesses <;> rfl
  | lookup source attributeName ih =>
      rw [bind, accesses, ih, lowered]
      cases m.unknown? source.accesses <;> rfl
  | convert input kind nullable property ih =>
      rw [bind, accesses, ih, lowered]
      cases m.unknown? input.accesses <;> rfl
  | construct entity fields ih =>
      have each : bindFields m fields = match m.unknown? (fieldAccesses fields) with
          | none => .ok (loweredFields m fields)
          | some name => .error (.unboundProperty name m.table) := by
        induction fields with
        | nil => rfl
        | cons field rest ihRest =>
            rw [List.forall_mem_cons] at ih
            rw [bindFields, fieldAccesses, loweredFields, ih.1, ihRest ih.2,
              QueryModel.unknown?_append]
            cases m.unknown? field.2.accesses <;>
              cases m.unknown? (fieldAccesses rest) <;> rfl
      rw [bind, accesses, each, lowered]
      cases m.unknown? (fieldAccesses fields) <;> rfl

/-- The check for accesses that are left never fails: binding leaves none. -/
theorem removeBindings_eq_bind : removeBindings m p = bind m p := by
  have isBound : (p.lowered m).isBound = true := (isBound_iff _).2 (accesses_lowered m p)
  rw [removeBindings, bind_eq]
  cases m.unknown? p.accesses with
  | none => exact if_pos isBound
  | some name => rfl

variable {m p}

/-- A plan is lowered exactly when the model has every property that is accessed. -/
theorem removeBindings_ok_iff {q : Plan} :
    removeBindings m p = .ok q ↔ (∀ name ∈ p.accesses, m.Has name) ∧ q = p.lowered m := by
  rw [removeBindings_eq_bind, bind_eq, ← QueryModel.unknown?_eq_none_iff]
  cases m.unknown? p.accesses <;> simp [eq_comm]

/-- Otherwise the first access to a property that the model lacks is reported, and nothing else is. -/
theorem removeBindings_error_iff {e : CompilerError} :
    removeBindings m p = .error e ↔ ∃ before name after, p.accesses = before ++ name :: after ∧
      (∀ x ∈ before, m.Has x) ∧ ¬ m.Has name ∧ e = .unboundProperty name m.table := by
  have first : removeBindings m p = .error e ↔
      ∃ name, m.unknown? p.accesses = some name ∧ e = .unboundProperty name m.table := by
    rw [removeBindings_eq_bind, bind_eq]
    cases m.unknown? p.accesses <;> simp [eq_comm]
  rw [first]
  constructor
  · rintro ⟨name, unknown, rfl⟩
    obtain ⟨before, after, parts, known, lacks⟩ := QueryModel.unknown?_eq_some_iff.1 unknown
    exact ⟨before, name, after, parts, known, lacks, rfl⟩
  · rintro ⟨before, name, after, parts, known, lacks, rfl⟩
    exact ⟨name, QueryModel.unknown?_eq_some_iff.2 ⟨before, after, parts, known, lacks⟩, rfl⟩

/-- A lowered plan is lowered to itself. -/
theorem removeBindings_lowered : removeBindings m (p.lowered m) = .ok (p.lowered m) := by
  have bound := accesses_lowered m p
  refine removeBindings_ok_iff.2 ⟨?_, (lowered_eq_self bound).symm⟩
  rw [bound]
  exact fun _ mem => nomatch mem

end Plan

end Keyscan
