import Keyscan.Compiled.Cache
import Keyscan.Compiled.Explanation
import Keyscan.Error
import Keyscan.Query.Translation

/-!
Providers: the way from an expression to a cursor. An expression is translated, compiled or found
among the queries compiled before, and given settings; no step of it sends anything to a store.
-/

set_option autoImplicit false

namespace Keyscan

/-- What a provider is built from. -/
structure ProviderSetup where
  mappings : List EntityMapping
  /-- A source in place of declared mappings. -/
  external : Option MappingSource
  strategy : Strategy
  defaults : CursorSettings

/-- A provider: its source of mappings, what it has learnt and compiled, and how its enumerations
run. -/
structure Provider where
  source : MappingSource
  mappings : MappingCache
  cache : CompiledCache
  strategy : Strategy
  /-- The settings where a query says nothing else. -/
  defaults : CursorSettings

/-- A compiled query with the settings of its enumeration. -/
structure PreparedQuery where
  query : CompiledQuery
  settings : CursorSettings

/-! ### Building -/

namespace ProviderSetup

/-- No mappings, the standard backoff, and settings that leave all to the store. -/
def standard : ProviderSetup := ⟨[], none, Backoff.standard.strategy, .standard⟩

/-- The source of mappings: the declared ones, or the external source when none is declared. -/
def mappingSource (s : ProviderSetup) : Except MappingError MappingSource :=
  match s.external, s.mappings with
  | none, mappings => (MappingRegistry.ofList mappings).map MappingRegistry.source
  | some source, [] => .ok source
  | some _, m :: _ =>
      .error (.invalid m.entity
        "declared mappings cannot be combined with an external mapping provider")

/-- The provider, which has learnt and compiled nothing yet. -/
def build (s : ProviderSetup) : Except QueryError Provider := do
  let source ← s.mappingSource.mapError .mapping
  .ok ⟨source, .empty, .empty, s.strategy, s.defaults⟩

end ProviderSetup

namespace Provider

/-- The provider of a configuration, and the diagnostics it uses: a configuration that asks for none
silences them. -/
def ofConfig (c : ProviderConfig) (d : Diagnostics) :
    Except QueryError (Provider × Diagnostics) := do
  c.validate.mapError .config
  let d := if c.logDiagnostics then d else .start .silent
  let d := d.emit .configLoaded [("mappings", toString c.mappings.length)]
  let setup : ProviderSetup := ⟨c.mappings, none, c.retry.backoff.strategy, c.settings⟩
  let p ← setup.build
  .ok (p, d)

/-! ### From expressions to cursors -/

/-- The settings of a query with options. -/
def settingsFor (p : Provider) (options : QueryOptions) : CursorSettings :=
  ⟨options.pageSize.or p.defaults.pageSize, options.autoPaginate.getD p.defaults.autoPaginate⟩

/-- Takes note of a rejected expression. -/
def noteRejected (e : TranslationError) (d : Diagnostics) : Diagnostics :=
  (d.count fun m => { m with queriesRejected := m.queriesRejected + 1 }).emit .queryRejected
    [("code", e.code), ("construct", e.construct?.getD "-"), ("reason", e.message)]

/-- Takes note of a translated expression. -/
def noteTranslated (m : QueryModel) (d : Diagnostics) : Diagnostics :=
  (d.count fun m => { m with queriesTranslated := m.queriesTranslated + 1 }).emit .queryTranslated
    [ ("entity", m.entity), ("properties", toString m.properties.length), ("table", m.table) ]

/-- Takes note of a lookup among the compiled queries. -/
def noteLookup (l : CompiledCache.Lookup) (d : Diagnostics) : Diagnostics :=
  if l.hit then
    (d.count fun m => { m with cacheHits := m.cacheHits + 1 }).emit .compiledQueryCacheHit
      [("fingerprint", l.query.fingerprint)]
  else
    (d.count fun m => { m with compilations := m.compilations + 1 }).emit .queryCompiled
      [("fingerprint", l.query.fingerprint), ("statement", l.query.statement)]

/-- Translates and compiles an expression. -/
def prepare (p : Provider) (e : QueryExpression) (d : Diagnostics) :
    Except QueryError PreparedQuery × Provider × Diagnostics :=
  let (translated, mappings) := TranslatedQuery.ofExpression p.source e p.mappings
  let p := { p with mappings }
  match translated with
  | .error error => (.error (.translation error), p, noteRejected error d)
  | .ok translated =>
      let d := noteTranslated translated.model d
      let (lookup, cache) := p.cache.getOrCompile translated.model
      let p := { p with cache }
      match lookup with
      | .error error => (.error (.compiler error), p, d)
      | .ok lookup =>
          (.ok ⟨lookup.query, p.settingsFor translated.options⟩, p, noteLookup lookup d)

/-- The compiled query of an expression. -/
def compile (p : Provider) (e : QueryExpression) (d : Diagnostics) :
    Except QueryError CompiledQuery × Provider × Diagnostics :=
  let (prepared, p, d) := p.prepare e d
  (prepared.map PreparedQuery.query, p, d)

/-- The query of an expression, which must have been compiled before. Nothing is noticed. -/
def compiled (p : Provider) (e : QueryExpression) :
    Except QueryError CompiledQuery × Provider :=
  let (translated, mappings) := TranslatedQuery.ofExpression p.source e p.mappings
  let p := { p with mappings }
  match translated with
  | .error error => (.error (.translation error), p)
  | .ok translated => ((p.cache.require translated.model.key).mapError .compiler, p)

/-- What an expression compiles to, or why it is rejected. -/
def explain (p : Provider) (e : QueryExpression) (d : Diagnostics) :
    Explanation × Provider × Diagnostics :=
  let (prepared, p, d) := p.prepare e d
  match prepared with
  | .ok q => (.accepted q.query q.settings.pageSize q.settings.autoPaginate, p, d)
  | .error error => (.rejected error.code error.display, p, d)

/-- A cursor at the beginning of an expression. -/
def cursor (p : Provider) (e : QueryExpression) (d : Diagnostics) :
    Except QueryError Cursor × Provider × Diagnostics :=
  let (prepared, p, d) := p.prepare e d
  (prepared.map fun q => .start q.query q.settings, p, d)

/-- A cursor where a resume token was issued. -/
def resume (p : Provider) (e : QueryExpression) (t : ResumeToken) (d : Diagnostics) :
    Except QueryError Cursor × Provider × Diagnostics :=
  let (opened, p, d) := p.cursor e d
  (opened.bind fun c => (c.resumeFrom t).mapError .execution, p, d)

/-- Enumerating while blocking always fails. -/
def executeBlocking (_ : Provider) (_ : QueryExpression) : Except QueryError (List Row) :=
  .error (.execution .syncUnsupported)

end Provider

end Keyscan
