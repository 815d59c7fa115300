import Keyscan.Proofs.Mapping.Registry
import Keyscan.Query.Translation

/-!
Translation over declared mappings. An expression that is translated gets the model of the mapping
declared for the entity at the end of its source chain, whatever was translated before.
-/

set_option autoImplicit false

namespace Keyscan

namespace ScanQuery

/-- The entity that is scanned. -/
def entity : ScanQuery → String
  | .scan entity => entity
  | .project source _ | .configure source _ => source.entity

theorem entity_ofExpression {e : QueryExpression} {q : ScanQuery}
    (shape : ofExpression e = .ok q) : q.entity = e.rootEntity := by
  induction e generalizing q with
  | scan entity =>
      cases shape
      rfl
  | project source properties ih | configure source options ih =>
      rw [ofExpression] at shape
      cases inner : ofExpression source with
      | error e =>
          rw [inner] at shape
          cases shape
      | ok q' =>
          rw [inner] at shape
          cases shape
          exact ih (q := q') inner
  | _ => cases shape

end ScanQuery

namespace TranslatedQuery

variable {r : MappingRegistry} {c : MappingCache}

/-- What a mapping is translated to. -/
def ofMapping (mapping : Except MappingError EntityMapping) :
    Except TranslationError TranslatedQuery := do
  let mapping ← mapping.mapError TranslationError.mappingFailed
  let model ← QueryModel.ofMapping mapping
  .ok ⟨model, .unset⟩

theorem ofScanQuery_scan {entity : String} (named : Text.isBlank entity = false)
    (source : MappingSource) (c : MappingCache) :
    ofScanQuery source (.scan entity) c =
      (ofMapping (c.mappingFor source entity).1, (c.mappingFor source entity).2) := by
  rw [ofScanQuery, if_neg (by simp [named])]
  rfl

theorem ofMapping_ok {m : EntityMapping} {t : TranslatedQuery} :
    ofMapping (.ok m) = .ok t ↔ ∃ model, QueryModel.ofMapping m = .ok model ∧ t = ⟨model, .unset⟩ := by
  change (do let model ← QueryModel.ofMapping m; .ok ⟨model, .unset⟩) = Except.ok t ↔ _
  cases built : QueryModel.ofMapping m with
  | error e => simp [bind, Except.bind]
  | ok model => simp [bind, Except.bind, eq_comm]

theorem configure_ok {query : Except TranslationError TranslatedQuery} {options : QueryOptions}
    {t : TranslatedQuery}
    (result : query.map (fun q => ⟨q.model, q.options.overlaid options⟩) = .ok t) :
    ∃ q, query = .ok q ∧ t.model = q.model := by
  cases query with
  | error e => cases result
  | ok q =>
      cases result
      exact ⟨q, rfl, rfl⟩

theorem project_ok {query : Except TranslationError TranslatedQuery} {names : List String}
    {t : TranslatedQuery}
    (result : (do let q ← query; checkProjection q.model names; .ok q) = Except.ok t) :
    query = .ok t := by
  cases query with
  | error e => cases result
  | ok q =>
      cases fits : checkProjection q.model names with
      | error e => simp [bind, Except.bind, fits] at result
      | ok u =>
          simp only [bind, Except.bind, fits] at result
          exact result

/-- A scan query is translated to the model declared for its entity, and what is kept stays declared. -/
theorem ofScanQuery_declared (sound : r.Sound) (declared : c.Declared r) (q : ScanQuery) :
    (ofScanQuery r.source q c).2.Declared r ∧
      ∀ t, (ofScanQuery r.source q c).1 = .ok t →
        ∃ m, r.find? q.entity = some m ∧ QueryModel.ofMapping m = .ok t.model := by
  induction q with
  | scan entity =>
      obtain ⟨answer, kept⟩ := declared.mappingFor sound entity
      cases named : Text.isBlank entity with
      | true =>
          rw [ofScanQuery, if_pos named]
          exact ⟨declared, fun t result => by cases result⟩
      | false =>
          rw [ofScanQuery_scan named, answer, MappingRegistry.resolve]
          refine ⟨kept, fun t result => ?_⟩
          cases found : r.find? entity with
          | none =>
              rw [found] at result
              cases result
          | some m =>
              rw [found] at result
              obtain ⟨model, built, rfl⟩ := ofMapping_ok.1 result
              exact ⟨m, found, built⟩
  | configure source options ih =>
      rw [ofScanQuery]
      split
      · exact ⟨declared, fun t result => by cases result⟩
      · refine ⟨ih.1, fun t result => ?_⟩
        obtain ⟨t', inner, model⟩ := configure_ok result
        rw [model]
        exact ih.2 t' inner
  | project source names ih =>
      rw [ofScanQuery]
      exact ⟨ih.1, fun t result => ih.2 t (project_ok result)⟩

/-- An expression is translated to the model declared for its entity. -/
theorem ofExpression_declared (sound : r.Sound) (declared : c.Declared r) (e : QueryExpression) :
    (ofExpression r.source e c).2.Declared r ∧
      ∀ t, (ofExpression r.source e c).1 = .ok t →
        ∃ m, r.find? e.rootEntity = some m ∧ QueryModel.ofMapping m = .ok t.model := by
  rw [ofExpression]
  cases shape : ScanQuery.ofExpression e with
  | error error => exact ⟨declared, fun t result => by cases result⟩
  | ok q =>
      rw [← ScanQuery.entity_ofExpression shape]
      exact ofScanQuery_declared sound declared q

/-- A scan of a declared entity is translated. -/
theorem ofExpression_scan (sound : r.Sound) (declared : c.Declared r) {m : EntityMapping}
    (mem : m ∈ r.mappings) {model : QueryModel} (built : QueryModel.ofMapping m = .ok model) :
    (ofExpression r.source (.scan m.entity) c).1 = .ok ⟨model, .unset⟩ := by
  have named := (sound.wellFormed m mem).entity_named
  have scan : ofExpression r.source (.scan m.entity) c = ofScanQuery r.source (.scan m.entity) c := rfl
  rw [scan, ofScanQuery_scan named, (declared.mappingFor sound m.entity).1,
    MappingRegistry.resolve, sound.find? mem]
  exact ofMapping_ok.2 ⟨model, built, rfl⟩

end TranslatedQuery

end Keyscan
