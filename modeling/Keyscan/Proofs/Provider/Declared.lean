import Keyscan.Proofs.Provider.Requests
import Keyscan.Proofs.Query.Key
import Keyscan.Proofs.Query.Translation

/-!
Providers of declared mappings under any sequence of requests. Such a provider keeps to its registry
(`Follows`): it translates over the declared mappings and has compiled nothing but their models. What
a request comes to is then the compilation of the first model of the key, which is the model declared
for the entity exactly when no two declared mappings share a key (`Follows.faithful_iff`).
-/

set_option autoImplicit false

namespace Keyscan

namespace Provider

/-- Every compiled query that requests come to is that of the mapping declared for the entity. -/
def Faithful (p : Provider) (mappings : List EntityMapping) : Prop :=
  ∀ (d : Diagnostics) (requests : List Request) (x : Request) (q : CompiledQuery),
    (x, some q) ∈ requests.zip (p.answers d requests) →
    ∃ m ∈ mappings, m.entity = x.expression.rootEntity ∧
      ∃ model, QueryModel.ofMapping m = .ok model ∧ CompiledQuery.ofModel model = .ok q

/-- No two of some mappings have models of one key. -/
def KeysApart (mappings : List EntityMapping) : Prop :=
  ∀ m ∈ mappings, ∀ n ∈ mappings, ∀ model other, QueryModel.ofMapping m = .ok model →
    QueryModel.ofMapping n = .ok other → model.key = other.key → m = n

/-- The entity of a mapping is that of its model. -/
theorem entity_ofMapping {r : MappingRegistry} (sound : r.Sound) {m : EntityMapping}
    (mem : m ∈ r.mappings) {model : QueryModel} (built : QueryModel.ofMapping m = .ok model) :
    model.entity = m.entity := by
  obtain ⟨model', built', entity, -⟩ := QueryModel.exists_ofMapping (sound.wellFormed m mem)
  rw [built] at built'
  cases built'
  exact entity

/-- Mappings of one model are the same, since they are of one entity. -/
theorem mapping_inj {r : MappingRegistry} (sound : r.Sound) {m n : EntityMapping}
    (m_mem : m ∈ r.mappings) (n_mem : n ∈ r.mappings) {model : QueryModel}
    (built : QueryModel.ofMapping m = .ok model) (built' : QueryModel.ofMapping n = .ok model) :
    m = n := by
  refine List.inj_on_of_nodup_map sound.entities_distinct m_mem n_mem ?_
  rw [← entity_ofMapping sound m_mem built, ← entity_ofMapping sound n_mem built']

/-- Models of separable names keep the keys of declared mappings apart. -/
theorem keysApart_of_separable {r : MappingRegistry} (sound : r.Sound)
    (separable : ∀ m ∈ r.mappings, ∀ model, QueryModel.ofMapping m = .ok model → model.Separable) :
    KeysApart r.mappings := by
  intro m m_mem n n_mem model other built built' key
  have same := QueryModel.key_inj (separable m m_mem model built) (separable n n_mem other built') key
  subst same
  exact mapping_inj sound m_mem n_mem built built'

/-! ### One request -/

/-- A provider that asks a registry and has compiled models of declared mappings only. -/
structure Follows (p : Provider) (r : MappingRegistry) (models : List QueryModel) : Prop where
  source : p.source = r.source
  kept : p.mappings.Declared r
  holds : p.cache.Holds models
  declared : ∀ model ∈ models, ∃ m ∈ r.mappings, QueryModel.ofMapping m = .ok model

variable {p : Provider} {r : MappingRegistry} {models : List QueryModel}

/-- Expressions are translated to the models declared for their entities. -/
theorem Follows.translate (follows : p.Follows r models) (sound : r.Sound) (e : QueryExpression) :
    (p.translate e).2.Declared r ∧ ∀ t, (p.translate e).1 = .ok t →
      ∃ m, r.find? e.rootEntity = some m ∧ QueryModel.ofMapping m = .ok t.model := by
  rw [Provider.translate, follows.source]
  exact TranslatedQuery.ofExpression_declared sound follows.kept e

/-- A lookup is for the model declared for the entity of the expression. -/
theorem Follows.lookup? (follows : p.Follows r models) (sound : r.Sound) {x : Request}
    {call : CompiledCache.Call} (made : p.lookup? x = some call) :
    ∃ m, r.find? x.expression.rootEntity = some m ∧ QueryModel.ofMapping m = .ok call.model := by
  obtain ⟨t, translated, rfl⟩ := Option.map_eq_some_iff.1 made
  rw [Request.model_lookup]
  refine (follows.translate sound x.expression).2 t ?_
  cases result : (p.translate x.expression).1 with
  | error error =>
      rw [result] at translated
      cases translated
  | ok t' =>
      rw [result] at translated
      cases translated
      rfl

/-- A query that was compiled under the key of the model declared for the entity of an expression. -/
def UnderKey (r : MappingRegistry) (models : List QueryModel) (e : QueryExpression)
    (q : CompiledQuery) : Prop :=
  ∃ m model first, r.find? e.rootEntity = some m ∧ QueryModel.ofMapping m = .ok model ∧
    first ∈ models ∧ first.key = model.key ∧ q = .compiled first

/-- A lookup keeps to the registry, and returns a query that was compiled under the key asked for. -/
theorem Follows.looked (follows : p.Follows r models) (sound : r.Sound) (x : Request) :
    ∃ models', (p.behind x).Follows r models' ∧
      ∀ q, (p.looked x).1 = some q → UnderKey r models' x.expression q := by
  have kept := (follows.translate sound x.expression).1
  rw [behind]
  cases made : p.lookup? x with
  | none =>
      rw [looked_none made]
      exact ⟨models, ⟨follows.source, kept, follows.holds, follows.declared⟩, fun q returned => by
        cases returned⟩
  | some call =>
      rw [looked_some made]
      obtain ⟨m, found, built⟩ := follows.lookup? sound made
      obtain ⟨answer, holds⟩ := follows.holds.call call
      refine ⟨models ++ call.compiles, ⟨follows.source, kept, holds, fun model mem => ?_⟩,
        fun q returned => ?_⟩
      · rcases List.mem_append.1 mem with before | own
        · exact follows.declared model before
        · rw [CompiledCache.Call.eq_model_of_mem own]
          exact ⟨m, (MappingRegistry.mem_of_find? found).1, built⟩
      · rw [answer] at returned
        obtain ⟨first, here, rfl⟩ := Option.map_eq_some_iff.1 returned
        obtain ⟨mem, key⟩ := CompiledCache.firstUnder?_some here
        exact ⟨m, call.model, first, found, built, mem, key, rfl⟩

/-- A scan of a declared entity is translated to the entity's model. -/
theorem Follows.translate_scan (follows : p.Follows r models) (sound : r.Sound) {m : EntityMapping}
    (mem : m ∈ r.mappings) {model : QueryModel} (built : QueryModel.ofMapping m = .ok model) :
    (p.translate (.scan m.entity)).1 = .ok ⟨model, .unset⟩ := by
  rw [Provider.translate, follows.source]
  exact TranslatedQuery.ofExpression_scan sound follows.kept mem built

/-- Compiling a scan of a declared entity comes to the first model under its key. -/
theorem Follows.scan (follows : p.Follows r models) (sound : r.Sound) {m : EntityMapping}
    (mem : m ∈ r.mappings) {model : QueryModel} (built : QueryModel.ofMapping m = .ok model)
    (d : Diagnostics) :
    ∃ first, CompiledCache.firstUnder? (models ++ [model]) model.key = some first ∧
      (p.answer d (.compile (.scan m.entity))).1 = some (.compiled first) ∧
      (p.answer d (.compile (.scan m.entity))).2.1.Follows r (models ++ [model]) := by
  have translated := follows.translate_scan sound mem built
  have made : p.lookup? (.compile (.scan m.entity)) = some (.getOrCompile model) := by
    rw [Provider.lookup?, Request.expression, translated]
    rfl
  have kept := (follows.translate sound (.scan m.entity)).1
  obtain ⟨answer, holds⟩ := follows.holds.call (.getOrCompile model)
  obtain ⟨first, here⟩ := CompiledCache.exists_firstUnder?
    (List.mem_append_right models (List.mem_singleton_self model))
  refine ⟨first, here, ?_, ?_⟩
  · rw [p.answer_compile, looked_some made, answer]
    exact congrArg (Option.map CompiledQuery.compiled) here
  · rw [p.answer_behind, behind, looked_some made]
    refine ⟨follows.source, kept, holds, fun other mem' => ?_⟩
    rcases List.mem_append.1 mem' with before | own
    · exact follows.declared other before
    · rw [List.mem_singleton.1 own]
      exact ⟨m, mem, built⟩

/-! ### Runs of requests -/

/-- Every answer of a run is that of a provider which keeps to the registry. -/
theorem Follows.answers (follows : p.Follows r models) (sound : r.Sound) {d : Diagnostics}
    {requests : List Request} {x : Request} {o : Option CompiledQuery}
    (mem : (x, o) ∈ requests.zip (p.answers d requests)) :
    ∃ (p' : Provider) (models' : List QueryModel) (d' : Diagnostics),
      p'.Follows r models' ∧ o = (p'.answer d' x).1 := by
  induction requests generalizing p models d with
  | nil => cases mem
  | cons y more ih =>
      rw [Provider.answers, List.zip_cons_cons] at mem
      rcases List.mem_cons.1 mem with here | later
      · cases here
        exact ⟨p, models, d, follows, rfl⟩
      · obtain ⟨models', follows', -⟩ := follows.looked sound y
        rw [← p.answer_behind d y] at follows'
        exact ih follows' later

/-- Compiling a scan of a declared entity always comes to a query. -/
theorem Follows.scan_answered (follows : p.Follows r models) (sound : r.Sound) {m : EntityMapping}
    (mem : m ∈ r.mappings) (d : Diagnostics) (requests : List Request) :
    (.compile (.scan m.entity), none) ∉ requests.zip (p.answers d requests) := by
  intro unanswered
  obtain ⟨model, built, -⟩ := QueryModel.exists_ofMapping (sound.wellFormed m mem)
  obtain ⟨p', models', d', follows', answer⟩ := follows.answers sound unanswered
  obtain ⟨first, -, some_answer, -⟩ := follows'.scan sound mem built d'
  rw [some_answer] at answer
  cases answer

/-- Where keys are apart, requests come to the queries of their own entities. -/
theorem Follows.faithful (follows : p.Follows r models) (sound : r.Sound)
    (apart : KeysApart r.mappings) : p.Faithful r.mappings := by
  intro d requests x q mem
  obtain ⟨p', models', d', follows', answer⟩ := follows.answers sound mem
  obtain ⟨models'', after, underKey⟩ := follows'.looked sound x
  obtain ⟨m, model, first, found, built, first_mem, key, rfl⟩ :=
    underKey q (answer_looked answer.symm)
  obtain ⟨m_mem, entity⟩ := MappingRegistry.mem_of_find? found
  obtain ⟨n, n_mem, other⟩ := after.declared first first_mem
  have same := apart m m_mem n n_mem model first built other key.symm
  subst same
  exact ⟨m, m_mem, entity, first, other, CompiledQuery.ofModel_eq first⟩

/-- After one scan a scan of another entity with the same key comes to the first entity's query. -/
theorem Follows.collision (follows : p.Follows r []) (sound : r.Sound) {m n : EntityMapping}
    (m_mem : m ∈ r.mappings) (n_mem : n ∈ r.mappings) {model other : QueryModel}
    (built : QueryModel.ofMapping m = .ok model) (built' : QueryModel.ofMapping n = .ok other)
    (key : model.key = other.key) (d : Diagnostics) :
    p.answers d [.compile (.scan m.entity), .compile (.scan n.entity)] =
      [some (.compiled model), some (.compiled model)] := by
  have same : (model.key == other.key) = true := by simp [key]
  obtain ⟨first, here, answer, next⟩ := follows.scan sound m_mem built d
  obtain ⟨second, there, answer', -⟩ := next.scan sound n_mem built'
    (p.answer d (.compile (.scan m.entity))).2.2
  simp only [CompiledCache.firstUnder?, List.nil_append, List.cons_append, List.find?_cons,
    beq_self_eq_true, same, Option.some.injEq] at here there
  rw [Provider.answers, Provider.answers, Provider.answers, answer, answer', ← here, ← there]

/-- Requests come to the queries of their own entities exactly when keys are apart. -/
theorem Follows.faithful_iff (follows : p.Follows r []) (sound : r.Sound) :
    p.Faithful r.mappings ↔ KeysApart r.mappings := by
  refine ⟨fun faithful m m_mem n n_mem model other built built' key => ?_, follows.faithful sound⟩
  have answers := follows.collision sound m_mem n_mem built built' key (.start .silent)
  obtain ⟨n', n'_mem, entity, model', built'', compiled⟩ :=
    faithful (.start .silent) [.compile (.scan m.entity), .compile (.scan n.entity)]
      (.compile (.scan n.entity)) (.compiled model) (by rw [answers]; simp)
  rw [CompiledQuery.ofModel_eq] at compiled
  have same := CompiledCache.compiled_inj (Except.ok.inj compiled)
  subst same
  refine List.inj_on_of_nodup_map sound.entities_distinct m_mem n_mem ?_
  rw [← entity_ofMapping sound m_mem built, entity_ofMapping sound n'_mem built'', entity]
  rfl

end Provider

namespace ProviderSetup

theorem mappingSource_declared {s : ProviderSetup} (declared : s.external = none) :
    s.mappingSource = (MappingRegistry.ofList s.mappings).map MappingRegistry.source := by
  rw [mappingSource, declared]

/-- A provider has compiled nothing in the beginning. -/
theorem cache_build {s : ProviderSetup} {p : Provider} (built : s.build = .ok p) :
    p.cache = .empty := by
  rw [build] at built
  cases source : s.mappingSource with
  | error e =>
      rw [source] at built
      cases built
  | ok source' =>
      rw [source] at built
      cases built
      rfl

/-- A provider of declared mappings begins with a registry of them. -/
theorem follows_build {s : ProviderSetup} {p : Provider} (declared : s.external = none)
    (built : s.build = .ok p) :
    ∃ r : MappingRegistry, r.mappings = s.mappings ∧ r.Sound ∧ p.Follows r [] := by
  rw [build, mappingSource_declared declared] at built
  cases registry : MappingRegistry.ofList s.mappings with
  | error e =>
      rw [registry] at built
      cases built
  | ok r =>
      rw [registry] at built
      cases built
      obtain ⟨mappings, sound⟩ := MappingRegistry.ofList_iff.1 registry
      exact ⟨r, mappings, sound, rfl, MappingCache.declared_empty r, CompiledCache.holds_empty,
        fun _ mem => nomatch mem⟩

end ProviderSetup

/-- Calls on a new cache return nothing but the compilations of their own models exactly when no call
follows one that has compiled a different model of its key. The requests to a provider are such calls,
for the models that their expressions are translated to; and where the mappings are declared, requests
come to nothing but the compilations for their own entities exactly when no two mappings share a key.
Separable names keep keys apart. -/
theorem own_compilation_iff (calls : List CompiledCache.Call) (s : ProviderSetup) :
    ((CompiledCache.Faithful calls ↔ calls.Pairwise CompiledCache.Call.Agrees) ∧
        ∀ m, (.getOrCompile m, none) ∉ calls.zip (CompiledCache.empty.answers calls)) ∧
      (∀ p, s.build = .ok p →
        (∀ d requests, (p.lookups d requests).reduceOption.Pairwise CompiledCache.Call.Agrees →
          ∀ made q, (made, some q) ∈ (p.lookups d requests).zip (p.answers d requests) →
            ∃ call, made = some call ∧ CompiledQuery.ofModel call.model = .ok q) ∧
        (s.external = none →
          (p.Faithful s.mappings ↔ Provider.KeysApart s.mappings) ∧
            ∀ d requests, ∀ m ∈ s.mappings,
              (.compile (.scan m.entity), none) ∉ List.zip requests (p.answers d requests))) ∧
      ∀ m n : QueryModel, m.Separable → n.Separable → m.key = n.key → m = n := by
  refine ⟨⟨CompiledCache.faithful_iff calls, CompiledCache.getOrCompile_answered calls⟩,
    fun p built => ⟨fun d requests agree made q mem => ?_, fun declared => ?_⟩,
    fun m n left right same => QueryModel.key_inj left right same⟩
  · exact Provider.own_of_agrees (ProviderSetup.cache_build built) agree mem
  · obtain ⟨r, mappings, sound, follows⟩ := ProviderSetup.follows_build declared built
    rw [← mappings]
    exact ⟨follows.faithful_iff sound, fun d requests m mem =>
      follows.scan_answered sound mem d requests⟩

/-- The identifiers of people. -/
def personModel : QueryModel :=
  ⟨"Person", "people@home", [⟨"Id", "Id", .integer .int, false⟩], by decide, by decide, by decide⟩

/-- Two entities with names that are easily told apart. -/
def peopleAndOrders : ProviderSetup :=
  { ProviderSetup.standard with
    mappings :=
      [ ⟨"Person", "people@home", [⟨"Id", none, .integer .int, false⟩]⟩,
        ⟨"Order", "orders", [⟨"Id", some "id=", .uuid, true⟩, ⟨"Paid", none, .bool, false⟩]⟩ ] }

/-- A cache gives people back, and a provider of people and orders never takes one for the other. -/
theorem own_compilation_peopleAndOrders :
    CompiledCache.Faithful [.getOrCompile personModel, .require personModel] ∧
      ∃ p, peopleAndOrders.external = none ∧ peopleAndOrders.build = .ok p ∧
        p.Faithful peopleAndOrders.mappings ∧
          ∀ d requests, ∀ m ∈ peopleAndOrders.mappings,
            (.compile (.scan m.entity), none) ∉ List.zip requests (p.answers d requests) := by
  obtain ⟨⟨cache, -⟩, provider, -⟩ :=
    own_compilation_iff [.getOrCompile personModel, .require personModel] peopleAndOrders
  obtain ⟨faithful, answered⟩ := (provider _ rfl).2 rfl
  refine ⟨cache.2 ?_, _, rfl, rfl, faithful.2 ?_, answered⟩
  · simp [CompiledCache.Call.Agrees, CompiledCache.Call.compiles, CompiledCache.Call.model]
  · obtain ⟨r, mappings, sound, -⟩ := ProviderSetup.follows_build (s := peopleAndOrders) rfl rfl
    rw [← mappings]
    refine Provider.keysApart_of_separable sound fun m mem model built => ?_
    obtain ⟨model', built', entity, table, properties⟩ :=
      QueryModel.exists_ofMapping (sound.wellFormed m mem)
    rw [built] at built'
    cases built'
    rw [mappings] at mem
    rcases List.mem_cons.1 mem with rfl | mem
    · refine ⟨?_, ?_, ?_, ?_⟩ <;> simp only [entity, table, properties] <;> decide
    · cases List.mem_singleton.1 mem
      refine ⟨?_, ?_, ?_, ?_⟩ <;> simp only [entity, table, properties] <;> decide

/-- Two entities whose names run together with those of their tables. -/
def runTogether : ProviderSetup :=
  { ProviderSetup.standard with
    mappings :=
      [ ⟨"A", "b@c", [⟨"Id", none, .integer .int, false⟩]⟩,
        ⟨"A@b", "c", [⟨"Id", none, .integer .int, false⟩]⟩ ] }

/-- A scan of the second entity comes to the query of the first, once that has been compiled. -/
theorem runTogether_collision :
    ∃ p q, runTogether.build = .ok p ∧
      p.answers (.start .silent) [.compile (.scan "A"), .compile (.scan "A@b")] =
        [some q, some q] ∧ q.model.entity = "A" ∧ q.model.table = "b@c" := by
  obtain ⟨r, mappings, sound, follows⟩ :=
    ProviderSetup.follows_build (s := runTogether) rfl rfl
  have here : runTogether.mappings[0] ∈ r.mappings := by simp [mappings]
  have there : runTogether.mappings[1] ∈ r.mappings := by simp [mappings]
  obtain ⟨model, built, entity, table, properties⟩ :=
    QueryModel.exists_ofMapping (sound.wellFormed _ here)
  obtain ⟨other, built', entity', table', properties'⟩ :=
    QueryModel.exists_ofMapping (sound.wellFormed _ there)
  have key : model.key = other.key := by
    rw [QueryModel.key, QueryModel.key, entity, table, properties, entity', table', properties']
    decide
  exact ⟨_, _, rfl, follows.collision sound here there built built' key (.start .silent), entity,
    table⟩

end Keyscan
