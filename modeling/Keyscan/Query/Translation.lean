import Keyscan.Mapping.Registry
import Keyscan.Query.Expression
import Keyscan.Query.Model

/-!
Translation of query expressions into models. First the shape: an expression must be a scan under
options and projections, or its outermost other construct is named. Only then is the mapping looked
up, and a projection must name every mapped property once, in any order.
-/

set_option autoImplicit false

namespace Keyscan

/-- The expressions that can be carried out: a scan under options and projections. -/
inductive ScanQuery where
  | scan (entity : String)
  | project (source : ScanQuery) (properties : List String)
  | configure (source : ScanQuery) (options : QueryOptions)
  deriving DecidableEq, Repr

namespace ScanQuery

/-- The expression as a scan query, or the outermost construct that is none. -/
def ofExpression : QueryExpression → Except TranslationError ScanQuery
  | .scan entity => .ok (.scan entity)
  | .project source properties => (ofExpression source).map fun q => .project q properties
  | .configure source options => (ofExpression source).map fun q => .configure q options
  | .filter _ predicate =>
      .error (.unsupported "filter"
        s!"filtering by '{predicate}' is not supported; only full scans are")
  | .orderBy _ property descending =>
      .error (.unsupported "ordering"
        (s!"ordering by '{property}' " ++ (if descending then "descending" else "ascending") ++
          " is not supported"))
  | .join _ _ on => .error (.unsupported "join" s!"join on '{on}' is not supported")
  | .groupBy _ key => .error (.unsupported "grouping" s!"grouping by '{key}' is not supported")
  | .aggregate _ function =>
      .error (.unsupported "aggregation" s!"aggregate '{function}' is not supported")
  | .take _ count => .error (.unsupported "limit" s!"limit of {count} is not supported")
  | .skip _ count => .error (.unsupported "offset" s!"offset of {count} is not supported")
  | .distinct _ => .error (.unsupported "distinct" "distinct is not supported")

end ScanQuery

/-- A model to compile, and the options of the query. -/
structure TranslatedQuery where
  model : QueryModel
  options : QueryOptions
  deriving DecidableEq

namespace TranslatedQuery

/-- Checks the names of a projection in order against the names before them: each is a property of
the model and none is named twice. -/
def checkNames (model : QueryModel) : (before : List String) → List String →
    Except TranslationError Unit
  | _, [] => .ok ()
  | before, name :: rest =>
      if (model.property? name).isNone then
        .error (.invalid
          s!"projection names unknown property '{name}' of entity '{model.entity}'")
      else if name ∈ before then
        .error (.invalid s!"projection names property '{name}' more than once")
      else checkNames model (name :: before) rest

/-- A projection is fit when it names every property of the model, and none twice. -/
def checkProjection (model : QueryModel) (names : List String) : Except TranslationError Unit := do
  checkNames model [] names
  if names.length = model.properties.length then .ok ()
  else
    let omitted := (model.properties.map ProjectedProperty.property).filter (· ∉ names)
    .error (.unsupported "projection"
      (s!"narrowing to {names.length} of {model.properties.length} properties is not supported " ++
        "(omits " ++ ", ".intercalate omitted ++ ")"))

/-- The query that a scan query stands for, and the mappings kept afterwards. Options are checked
from the outside inwards, before the mapping is looked up; projections from the inside outwards. -/
def ofScanQuery (source : MappingSource) :
    ScanQuery → MappingCache → Except TranslationError TranslatedQuery × MappingCache
  | .scan entity, cache =>
      if Text.isBlank entity then (.error (.invalid "scan requires an entity name"), cache)
      else
        let (mapping, cache) := cache.mappingFor source entity
        let query : Except TranslationError TranslatedQuery := do
          let mapping ← mapping.mapError TranslationError.mappingFailed
          let model ← QueryModel.ofMapping mapping
          .ok ⟨model, .unset⟩
        (query, cache)
  | .configure inner options, cache =>
      if options.pageSize = some 0 then
        (.error (.invalid "page size must be greater than zero"), cache)
      else
        let (query, cache) := ofScanQuery source inner cache
        (query.map fun q => ⟨q.model, q.options.overlaid options⟩, cache)
  | .project inner names, cache =>
      let (query, cache) := ofScanQuery source inner cache
      let checked : Except TranslationError TranslatedQuery := do
        let q ← query
        checkProjection q.model names
        .ok q
      (checked, cache)

/-- The query that an expression stands for, and the mappings kept afterwards. -/
def ofExpression (source : MappingSource) (e : QueryExpression) (cache : MappingCache) :
    Except TranslationError TranslatedQuery × MappingCache :=
  match ScanQuery.ofExpression e with
  | .error error => (.error error, cache)
  | .ok q => ofScanQuery source q cache

end TranslatedQuery

end Keyscan
