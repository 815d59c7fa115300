import Mathlib.Data.List.Perm.Subperm
import Keyscan.Proofs.Query.Translation

/-!
Which expressions are translated, and to what. An expression is read off its source chain: the nodes
from the outermost operation down to the scan. `QueryExpression.Accepted` says of the whole chain what
translation checks node by node, some of it on the way in and some on the way out, and
`ofScanQuery_ok_iff` shows that the checks come to it. What an expression is translated to does not
depend on its projections, and each of its options is the outermost one that is set.
-/

set_option autoImplicit false

namespace Keyscan

namespace QueryExpression

/-! ### Source chains -/

/-- The expression, the one it is applied to, and so on down to the scan. -/
def chain (e : QueryExpression) : List QueryExpression :=
  e :: match e with
    | .scan _ => []
    | .filter source _ | .project source _ | .orderBy source _ _ | .join source _ _
    | .groupBy source _ | .aggregate source _ | .take source _ | .skip source _
    | .distinct source | .configure source _ => source.chain

/-- Whether the outermost operation is one that can be carried out. -/
def isSupported : QueryExpression → Bool
  | .scan _ | .project _ _ | .configure _ _ => true
  | .filter _ _ | .orderBy _ _ _ | .join _ _ _ | .groupBy _ _ | .aggregate _ _ | .take _ _
  | .skip _ _ | .distinct _ => false

/-- The options that the outermost operation sets. -/
def nodeOptions? : QueryExpression → Option QueryOptions
  | .configure _ options => some options
  | _ => none

/-- The names that the outermost operation projects to. -/
def nodeNames? : QueryExpression → Option (List String)
  | .project _ names => some names
  | _ => none

/-- The options set on the source chain, the outermost first. -/
def optionSets (e : QueryExpression) : List QueryOptions := e.chain.filterMap nodeOptions?

/-- The name lists of the projections on the source chain, the outermost first. -/
def projections (e : QueryExpression) : List (List String) := e.chain.filterMap nodeNames?

/-- The outermost operation on the source chain that cannot be carried out. -/
def unsupported? (e : QueryExpression) : Option QueryExpression :=
  e.chain.find? fun node => !node.isSupported

/-- Each option as the outermost operation has it that sets it, and unset when none does. -/
def options (e : QueryExpression) : QueryOptions :=
  ⟨e.optionSets.findSome? QueryOptions.pageSize, e.optionSets.findSome? QueryOptions.autoPaginate⟩

@[simp] theorem options_scan (entity : String) : (scan entity).options = .unset := rfl

@[simp] theorem options_project (e : QueryExpression) (names : List String) :
    (project e names).options = e.options :=
  rfl

@[simp] theorem options_configure (e : QueryExpression) (o : QueryOptions) :
    (configure e o).options = e.options.overlaid o := by
  have sets : (configure e o).optionSets = o :: e.optionSets := rfl
  rw [options, sets, List.findSome?_cons, List.findSome?_cons, QueryOptions.overlaid]
  congr 1
  · cases o.pageSize <;> rfl
  · cases o.autoPaginate <;> rfl

/-! ### Acceptance -/

/-- What an expression must be to be translated to the model of a mapping, said of its whole source
chain. -/
structure Accepted (e : QueryExpression) (m : EntityMapping) : Prop where
  /-- Scans, projections and options are all there is. -/
  supported : ∀ node ∈ e.chain, node.isSupported = true
  sized : ∀ o ∈ e.optionSets, o.pageSize ≠ some 0
  named : Text.isBlank e.rootEntity = false
  mapped : m.entity = e.rootEntity
  /-- Every projection names every mapped property once, in any order. -/
  complete : ∀ names ∈ e.projections, names.Perm (m.properties.map PropertyMapping.name)

variable {e : QueryExpression} {m : EntityMapping}

theorem accepted_scan {entity : String} :
    (scan entity).Accepted m ↔ Text.isBlank entity = false ∧ m.entity = entity := by
  constructor
  · intro accepted
    exact ⟨accepted.named, accepted.mapped⟩
  · rintro ⟨named, mapped⟩
    refine ⟨?_, ?_, named, mapped, ?_⟩
    · intro node mem
      rw [List.mem_singleton.1 mem]
      rfl
    · intro o mem
      cases mem
    · intro names mem
      cases mem

theorem accepted_configure {o : QueryOptions} :
    (configure e o).Accepted m ↔ o.pageSize ≠ some 0 ∧ e.Accepted m := by
  have sets : (configure e o).optionSets = o :: e.optionSets := rfl
  have nodes : (configure e o).chain = configure e o :: e.chain := rfl
  constructor
  · rintro ⟨supported, sized, named, mapped, complete⟩
    rw [sets, List.forall_mem_cons] at sized
    rw [nodes, List.forall_mem_cons] at supported
    exact ⟨sized.1, supported.2, sized.2, named, mapped, complete⟩
  · rintro ⟨here, supported, sized, named, mapped, complete⟩
    refine ⟨?_, ?_, named, mapped, complete⟩
    · rw [nodes, List.forall_mem_cons]
      exact ⟨rfl, supported⟩
    · rw [sets, List.forall_mem_cons]
      exact ⟨here, sized⟩

theorem accepted_project {names : List String} :
    (project e names).Accepted m ↔
      names.Perm (m.properties.map PropertyMapping.name) ∧ e.Accepted m := by
  have lists : (project e names).projections = names :: e.projections := rfl
  have nodes : (project e names).chain = project e names :: e.chain := rfl
  constructor
  · rintro ⟨supported, sized, named, mapped, complete⟩
    rw [lists, List.forall_mem_cons] at complete
    rw [nodes, List.forall_mem_cons] at supported
    exact ⟨complete.1, supported.2, sized, named, mapped, complete.2⟩
  · rintro ⟨here, supported, sized, named, mapped, complete⟩
    refine ⟨?_, sized, named, mapped, ?_⟩
    · rw [nodes, List.forall_mem_cons]
      exact ⟨rfl, supported⟩
    · rw [lists, List.forall_mem_cons]
      exact ⟨here, complete⟩

end QueryExpression

namespace ScanQuery

/-! ### The shape -/

/-- A scan query as an expression. -/
def expression : ScanQuery → QueryExpression
  | .scan entity => .scan entity
  | .project source names => .project source.expression names
  | .configure source options => .configure source.expression options

/-- An expression is read as the scan query that it is, or not at all. -/
theorem ofExpression_ok_iff {e : QueryExpression} {q : ScanQuery} :
    ofExpression e = .ok q ↔ q.expression = e := by
  constructor
  · intro shape
    induction e generalizing q with
    | scan entity =>
        cases shape
        rfl
    | project source names ih =>
        rw [ofExpression] at shape
        cases inner : ofExpression source with
        | error error =>
            rw [inner] at shape
            cases shape
        | ok q' =>
            rw [inner] at shape
            cases shape
            rw [expression, ih inner]
    | configure source options ih =>
        rw [ofExpression] at shape
        cases inner : ofExpression source with
        | error error =>
            rw [inner] at shape
            cases shape
        | ok q' =>
            rw [inner] at shape
            cases shape
            rw [expression, ih inner]
    | _ => cases shape
  · rintro rfl
    induction q with
    | scan entity => rfl
    | project source names ih => rw [expression, ofExpression, ih, Except.map]
    | configure source options ih => rw [expression, ofExpression, ih, Except.map]

/-- An expression is a scan query exactly when every node of its chain can be carried out. -/
theorem exists_expression_iff {e : QueryExpression} :
    (∃ q : ScanQuery, q.expression = e) ↔ ∀ node ∈ e.chain, node.isSupported = true := by
  constructor
  · rintro ⟨q, rfl⟩
    induction q with
    | scan entity =>
        intro node mem
        rw [List.mem_singleton.1 mem]
        rfl
    | project source names ih | configure source options ih =>
        rw [expression, QueryExpression.chain, List.forall_mem_cons]
        exact ⟨rfl, ih⟩
  · intro supported
    induction e with
    | scan entity => exact ⟨.scan entity, rfl⟩
    | project source names ih =>
        rw [QueryExpression.chain, List.forall_mem_cons] at supported
        obtain ⟨q, rfl⟩ := ih supported.2
        exact ⟨.project q names, rfl⟩
    | configure source options ih =>
        rw [QueryExpression.chain, List.forall_mem_cons] at supported
        obtain ⟨q, rfl⟩ := ih supported.2
        exact ⟨.configure q options, rfl⟩
    | _ => cases supported _ List.mem_cons_self

/-- An operation that cannot be carried out is refused by its own name, whatever it is applied to. -/
theorem ofExpression_node {node : QueryExpression} (unsupported : node.isSupported = false) :
    ∃ detail, ofExpression node = .error (.unsupported node.constructName detail) := by
  cases node with
  | scan entity => cases unsupported
  | project source names => cases unsupported
  | configure source options => cases unsupported
  | _ => exact ⟨_, rfl⟩

/-- An expression is refused as the outermost operation on its chain is that cannot be carried out. -/
theorem ofExpression_unsupported {e node : QueryExpression} (first : e.unsupported? = some node) :
    node.isSupported = false ∧ ofExpression e = ofExpression node := by
  induction e with
  | scan entity => cases first
  | project source names ih | configure source options ih =>
      obtain ⟨unsupported, inner⟩ := ih first
      obtain ⟨detail, refused⟩ := ofExpression_node unsupported
      refine ⟨unsupported, ?_⟩
      rw [ofExpression, inner, refused]
      rfl
  | _ =>
      cases first
      exact ⟨rfl, rfl⟩

end ScanQuery

namespace TranslatedQuery

/-- An expression with an operation that cannot be carried out is rejected for the outermost one, with
no regard to the mappings: none is looked up. -/
theorem ofExpression_unsupported {e node : QueryExpression} (first : e.unsupported? = some node) :
    ∃ detail, ∀ source c,
      ofExpression source e c = (.error (.unsupported node.constructName detail), c) := by
  obtain ⟨unsupported, same⟩ := ScanQuery.ofExpression_unsupported first
  obtain ⟨detail, refused⟩ := ScanQuery.ofExpression_node unsupported
  refine ⟨detail, fun source c => ?_⟩
  rw [ofExpression, same, refused]

/-! ### Projections -/

/-- The names of a projection pass when each is a property, and they differ from each other and from
those before. -/
theorem checkNames_ok_iff {model : QueryModel} {before names : List String} :
    checkNames model before names = .ok () ↔
      names ⊆ model.properties.map ProjectedProperty.property ∧ Fresh before names := by
  induction names generalizing before with
  | nil => simp [checkNames, fresh_nil]
  | cons name rest ih =>
      have known : (model.property? name).isSome ↔
          name ∈ model.properties.map ProjectedProperty.property := by
        rw [QueryModel.property?, List.find?_isSome, List.mem_map]
        simp only [beq_iff_eq]
      rw [checkNames, List.cons_subset, fresh_cons, ← known]
      by_cases unknown : (model.property? name).isNone = true
      · rw [if_pos unknown]
        refine iff_of_false (by simp) ?_
        rintro ⟨⟨some_property, -⟩, -⟩
        rw [Option.isNone_iff_eq_none] at unknown
        rw [unknown] at some_property
        cases some_property
      · rw [if_neg unknown]
        rw [Bool.not_eq_true, Option.isNone_eq_false_iff] at unknown
        by_cases repeated : name ∈ before
        · rw [if_pos repeated]
          exact iff_of_false (by simp) fun fits => fits.2.1 repeated
        · rw [if_neg repeated, ih]
          constructor
          · rintro ⟨subset, fresh⟩
            exact ⟨⟨unknown, subset⟩, repeated, fresh⟩
          · rintro ⟨⟨-, subset⟩, -, fresh⟩
            exact ⟨subset, fresh⟩

/-- Over properties of different names a projection is fit exactly when it is a permutation of them:
names that differ and are as many leave none out. -/
theorem checkProjection_ok_iff {model : QueryModel} {names : List String}
    (distinct : (model.properties.map ProjectedProperty.property).Nodup) :
    checkProjection model names = .ok () ↔
      names.Perm (model.properties.map ProjectedProperty.property) := by
  have checked := @checkNames_ok_iff model [] names
  constructor
  · intro fit
    rw [checkProjection] at fit
    cases passed : checkNames model [] names with
    | error error =>
        rw [passed] at fit
        cases fit
    | ok u =>
        rw [passed] at fit
        obtain ⟨subset, different, -⟩ := checked.1 passed
        change (if names.length = model.properties.length then _ else _) = _ at fit
        split at fit
        · rename_i count
          apply (different.subperm subset).perm_of_length_le
          rw [List.length_map]
          exact Nat.le_of_eq count.symm
        · cases fit
  · intro perm
    have passed : checkNames model [] names = .ok () := by
      refine checked.2 ⟨perm.subset, perm.nodup_iff.2 distinct, ?_⟩
      exact fun _ _ => List.not_mem_nil
    have count : names.length = model.properties.length := by
      rw [perm.length_eq, List.length_map]
    rw [checkProjection, passed]
    exact if_pos count

/-! ### Translation -/

variable {r : MappingRegistry} {c : MappingCache}

theorem map_ok_iff {query : Except TranslationError TranslatedQuery} {o : QueryOptions}
    {t : TranslatedQuery} :
    query.map (fun q => ⟨q.model, q.options.overlaid o⟩) = .ok t ↔
      ∃ q, query = .ok q ∧ t = ⟨q.model, q.options.overlaid o⟩ := by
  cases query with
  | error error => simp [Except.map]
  | ok q => simp [Except.map, eq_comm]

theorem checked_ok_iff {query : Except TranslationError TranslatedQuery} {names : List String}
    {t : TranslatedQuery} :
    (do let q ← query; checkProjection q.model names; .ok q) = Except.ok t ↔
      query = .ok t ∧ checkProjection t.model names = .ok () := by
  constructor
  · intro result
    have same := project_ok result
    refine ⟨same, ?_⟩
    rw [same] at result
    change (checkProjection t.model names).bind (fun _ => .ok t) = .ok t at result
    cases fit : checkProjection t.model names with
    | error error =>
        rw [fit] at result
        cases result
    | ok u => rfl
  · rintro ⟨rfl, fit⟩
    change (checkProjection t.model names).bind (fun _ => .ok t) = .ok t
    rw [fit]
    rfl

/-- Over declared mappings a scan query is translated exactly when it is accepted for one of them, and
then to its model, with the options of the expression. -/
theorem ofScanQuery_ok_iff (sound : r.Sound) (declared : c.Declared r) {q : ScanQuery}
    {t : TranslatedQuery} :
    (ofScanQuery r.source q c).1 = .ok t ↔
      ∃ m ∈ r.mappings, q.expression.Accepted m ∧ QueryModel.ofMapping m = .ok t.model ∧
        t.options = q.expression.options := by
  induction q generalizing t with
  | scan entity =>
      simp only [ScanQuery.expression, QueryExpression.accepted_scan, QueryExpression.options_scan]
      by_cases blank : Text.isBlank entity = true
      · rw [ofScanQuery, if_pos blank]
        refine iff_of_false (by simp) ?_
        rintro ⟨m, -, ⟨named, -⟩, -⟩
        rw [blank] at named
        cases named
      · have named : Text.isBlank entity = false := by simpa using blank
        rw [ofScanQuery_scan named, (declared.mappingFor sound entity).1, MappingRegistry.resolve]
        constructor
        · intro result
          cases found : r.find? entity with
          | none =>
              rw [found] at result
              cases result
          | some m =>
              rw [found] at result
              obtain ⟨mem, mapped⟩ := MappingRegistry.mem_of_find? found
              obtain ⟨model, built, rfl⟩ := ofMapping_ok.1 result
              exact ⟨m, mem, ⟨named, mapped⟩, built, rfl⟩
        · rintro ⟨m, mem, ⟨-, rfl⟩, built, unset⟩
          rw [sound.find? mem]
          exact ofMapping_ok.2 ⟨t.model, built, congrArg (TranslatedQuery.mk t.model) unset⟩
  | configure source o ih =>
      simp only [ScanQuery.expression, QueryExpression.accepted_configure,
        QueryExpression.options_configure]
      rw [ofScanQuery]
      by_cases zero : o.pageSize = some 0
      · rw [if_pos zero]
        refine iff_of_false (by simp) ?_
        rintro ⟨m, -, ⟨sized, -⟩, -⟩
        exact sized zero
      · rw [if_neg zero, map_ok_iff]
        constructor
        · rintro ⟨inner, translated, rfl⟩
          obtain ⟨m, mem, accepted, built, options⟩ := ih.1 translated
          exact ⟨m, mem, ⟨zero, accepted⟩, built, congrArg (·.overlaid o) options⟩
        · rintro ⟨m, mem, ⟨-, accepted⟩, built, options⟩
          refine ⟨⟨t.model, source.expression.options⟩, ih.2 ⟨m, mem, accepted, built, rfl⟩, ?_⟩
          exact congrArg (TranslatedQuery.mk t.model) options
  | project source names ih =>
      simp only [ScanQuery.expression, QueryExpression.accepted_project,
        QueryExpression.options_project]
      rw [ofScanQuery]
      -- The properties of the model are the mapped ones, by name, so they differ.
      have fit {m : EntityMapping} (mem : m ∈ r.mappings)
          (built : QueryModel.ofMapping m = .ok t.model) :
          checkProjection t.model names = .ok () ↔
            names.Perm (m.properties.map PropertyMapping.name) := by
        have wellFormed := sound.wellFormed m mem
        obtain ⟨model, built', -, -, properties⟩ := QueryModel.exists_ofMapping wellFormed
        rw [built] at built'
        cases built'
        have by_name : t.model.properties.map ProjectedProperty.property =
            m.properties.map PropertyMapping.name := by
          rw [properties, List.map_map]
          rfl
        rw [← by_name]
        apply checkProjection_ok_iff
        rw [by_name]
        exact wellFormed.properties_distinct
      constructor
      · intro result
        obtain ⟨translated, checked⟩ := checked_ok_iff.1 result
        obtain ⟨m, mem, accepted, built, options⟩ := ih.1 translated
        exact ⟨m, mem, ⟨(fit mem built).1 checked, accepted⟩, built, options⟩
      · rintro ⟨m, mem, ⟨perm, accepted⟩, built, options⟩
        apply checked_ok_iff.2
        exact ⟨ih.2 ⟨m, mem, accepted, built, options⟩, (fit mem built).2 perm⟩

/-- Over declared mappings an expression is translated exactly when it is accepted for one of them. -/
theorem ofExpression_ok_iff (sound : r.Sound) (declared : c.Declared r) {e : QueryExpression}
    {t : TranslatedQuery} :
    (ofExpression r.source e c).1 = .ok t ↔
      ∃ m ∈ r.mappings, e.Accepted m ∧ QueryModel.ofMapping m = .ok t.model ∧
        t.options = e.options := by
  rw [ofExpression]
  cases shape : ScanQuery.ofExpression e with
  | error error =>
      refine iff_of_false (by simp) ?_
      rintro ⟨m, -, accepted, -⟩
      obtain ⟨q, same⟩ := ScanQuery.exists_expression_iff.2 accepted.supported
      rw [ScanQuery.ofExpression_ok_iff.2 same] at shape
      cases shape
  | ok q =>
      rw [← ScanQuery.ofExpression_ok_iff.1 shape]
      exact ofScanQuery_ok_iff sound declared

end TranslatedQuery

end Keyscan
