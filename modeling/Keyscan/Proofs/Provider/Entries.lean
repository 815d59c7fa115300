import Keyscan.Proofs.Provider.Declared
import Keyscan.Proofs.Query.Acceptance

/-!
All entry points of a provider, with the replies that they give. Every entry but the blocking one
comes down to translating its expression: where that fails the entry is rejected and the cache is not
touched, and where it succeeds a query is found or compiled, which never fails.

Over declared mappings a cursor is therefore opened exactly for the expressions that are accepted, and
its settings are the options of the expression, with the provider's defaults for those that are not
set. This does not depend on what was entered before.
-/

set_option autoImplicit false

namespace Keyscan

namespace Provider

variable {p : Provider} {e : QueryExpression}

/-! ### Preparing -/

/-- A rejected expression is noted, and nothing is looked up. -/
theorem prepare_rejected {error : TranslationError} (rejected : (p.translate e).1 = .error error)
    (d : Diagnostics) :
    p.prepare e d =
      (.error (.translation error), { p with mappings := (p.translate e).2 },
        noteRejected error d) := by
  rw [translate] at rejected ⊢
  rw [prepare]
  generalize TranslatedQuery.ofExpression p.source e p.mappings = result at rejected ⊢
  obtain ⟨outcome, mappings⟩ := result
  cases rejected
  rfl

/-- A translated expression gets the query of its model and the settings of its options. -/
theorem prepare_translated {t : TranslatedQuery} (translated : (p.translate e).1 = .ok t)
    (d : Diagnostics) :
    ∃ lookup cache, p.cache.getOrCompile t.model = (.ok lookup, cache) ∧
      p.prepare e d =
        (.ok ⟨lookup.query, p.settingsFor t.options⟩,
          { p with mappings := (p.translate e).2, cache },
          noteLookup lookup (noteTranslated t.model d)) := by
  obtain ⟨lookup, cache, looked⟩ := p.cache.exists_getOrCompile t.model
  refine ⟨lookup, cache, looked, ?_⟩
  rw [translate] at translated ⊢
  rw [prepare]
  generalize TranslatedQuery.ofExpression p.source e p.mappings = result at translated ⊢
  obtain ⟨outcome, mappings⟩ := result
  cases translated
  simp only [looked]
  rfl

/-! ### Entries -/

/-- An entry point, with what it is called with. -/
inductive Entry where
  /-- Compiling, explaining, opening a cursor, resuming, or asking for a query compiled before. -/
  | request (x : Request)
  /-- The rows as a stream, which sends nothing before it is first asked. -/
  | execute (e : QueryExpression)
  | executeBlocking (e : QueryExpression)

/-- The expression that an entry is about. -/
def Entry.expression : Entry → QueryExpression
  | .request x => x.expression
  | .execute e | .executeBlocking e => e

/-- What the caller is given. A stream is the cursor that it reads from. -/
inductive Reply where
  | query (result : Except QueryError CompiledQuery)
  | explained (x : Explanation)
  | opened (result : Except QueryError Cursor)
  | rows (result : Except QueryError (List Row))

namespace Reply

/-- The cursor that the caller is given. -/
def cursor? : Reply → Option Cursor
  | .opened (.ok c) => some c
  | _ => none

theorem cursor?_opened {result : Except QueryError Cursor} {c : Cursor}
    (given : (opened result).cursor? = some c) : result = .ok c := by
  cases result with
  | error error => cases given
  | ok first =>
      cases given
      rfl

/-- Whether the reply tells of an error. -/
def Tells (error : QueryError) : Reply → Prop
  | .query result => result = .error error
  | .explained x => x = .rejected error.code error.display
  | .opened result => result = .error error
  | .rows result => result = .error error

end Reply

/-- The reply to an entry, and the provider and its diagnostics afterwards. -/
def enter (p : Provider) (d : Diagnostics) : Entry → Reply × Provider × Diagnostics
  | .request (.compile e) =>
      let (query, p, d) := p.compile e d
      (.query query, p, d)
  | .request (.compiled e) =>
      let (query, p) := p.compiled e
      (.query query, p, d)
  | .request (.explain e) =>
      let (explanation, p, d) := p.explain e d
      (.explained explanation, p, d)
  | .request (.cursor e) | .execute e =>
      let (cursor, p, d) := p.cursor e d
      (.opened cursor, p, d)
  | .request (.resume e t) =>
      let (cursor, p, d) := p.resume e t d
      (.opened cursor, p, d)
  | .executeBlocking e => (.rows (p.executeBlocking e), p, d)

/-- The provider and its diagnostics after entries, one after the other. -/
def enterAll (p : Provider) (d : Diagnostics) (entries : List Entry) : Provider × Diagnostics :=
  entries.foldl (fun r x => (r.1.enter r.2 x).2) (p, d)

variable {d : Diagnostics}

/-- A request leaves the provider behind its lookup, and so does a stream. -/
theorem enter_request (x : Request) : (p.enter d (.request x)).2.1 = p.behind x := by
  rw [← p.answer_behind d x]
  cases x <;> rfl

theorem enter_execute : p.enter d (.execute e) = p.enter d (.request (.cursor e)) := rfl

/-! ### Rejection -/

/-- A rejected request finds the cache as it was. -/
theorem behind_rejected {x : Request} {error : TranslationError}
    (rejected : (p.translate x.expression).1 = .error error) : (p.behind x).cache = p.cache := by
  have none_made : p.lookup? x = none := by
    rw [lookup?, rejected]
    rfl
  rw [behind, looked_none none_made]

/-- An entry that translation rejects finds the cache as it was. -/
theorem enter_cache {x : Entry} {error : TranslationError}
    (rejected : (p.translate x.expression).1 = .error error) :
    (p.enter d x).2.1.cache = p.cache := by
  cases x with
  | request x => rw [enter_request, behind_rejected rejected]
  | execute e => rw [enter_execute, enter_request, behind_rejected rejected]
  | executeBlocking e => rfl

/-- The caller of an entry that translation rejects is told so, unless the entry blocks. -/
theorem enter_tells {x : Entry} {error : TranslationError}
    (rejected : (p.translate x.expression).1 = .error error)
    (lazy : ∀ e, x ≠ .executeBlocking e) :
    (p.enter d x).1.Tells (.translation error) := by
  have prepared (e : QueryExpression) (here : (p.translate e).1 = .error error) :
      (p.prepare e d).1 = .error (.translation error) := by
    rw [prepare_rejected here]
  cases x with
  | executeBlocking e => exact absurd rfl (lazy e)
  | execute e =>
      change (p.prepare e d).1.map _ = _
      rw [prepared e rejected]
      rfl
  | request x =>
      cases x with
      | compile e | cursor e =>
          change (p.prepare e d).1.map _ = _
          rw [prepared e rejected]
          rfl
      | resume e t =>
          change ((p.prepare e d).1.map _).bind _ = _
          rw [prepared e rejected]
          rfl
      | explain e =>
          change (p.explain e d).1 = _
          change (p.translate e).1 = _ at rejected
          rw [explain, prepare_rejected rejected]
      | compiled e =>
          change (p.compiled e).1 = _
          change (p.translate e).1 = _ at rejected
          rw [translate] at rejected
          rw [compiled]
          generalize TranslatedQuery.ofExpression p.source e p.mappings = result at rejected ⊢
          obtain ⟨outcome, mappings⟩ := result
          cases rejected
          rfl

/-! ### Opened cursors -/

/-- A cursor is opened exactly for the expressions that are translated. -/
theorem cursor_opened_iff :
    (∃ c, (p.cursor e d).1 = .ok c) ↔ ∃ t, (p.translate e).1 = .ok t := by
  cases translated : (p.translate e).1 with
  | error error =>
      have rejected : (p.cursor e d).1 = .error (.translation error) := by
        change (p.prepare e d).1.map _ = _
        rw [prepare_rejected translated]
        rfl
      rw [rejected]
      exact iff_of_false (by simp) (by simp)
  | ok t =>
      obtain ⟨lookup, cache, -, prepared⟩ := prepare_translated translated d
      have opened : ∃ c, (p.cursor e d).1 = .ok c := by
        change ∃ c, (p.prepare e d).1.map _ = .ok c
        rw [prepared]
        exact ⟨_, rfl⟩
      exact iff_of_true opened ⟨t, rfl⟩

/-- A prepared expression was translated, and its settings come from its options. -/
theorem settings_prepare {ready : PreparedQuery} (prepared : (p.prepare e d).1 = .ok ready) :
    ∃ t, (p.translate e).1 = .ok t ∧ ready.settings = p.settingsFor t.options := by
  cases translated : (p.translate e).1 with
  | error error =>
      rw [prepare_rejected translated] at prepared
      cases prepared
  | ok t =>
      obtain ⟨lookup, cache, -, result⟩ := prepare_translated translated d
      rw [result] at prepared
      cases prepared
      exact ⟨t, rfl, rfl⟩

/-- A cursor at the beginning of an expression has the settings of its options. -/
theorem settings_cursor {c : Cursor} (opened : (p.cursor e d).1 = .ok c) :
    (c.state = .notStarted ∧ c.pages = 0) ∧
      ∃ t, (p.translate e).1 = .ok t ∧ c.settings = p.settingsFor t.options := by
  change (p.prepare e d).1.map _ = _ at opened
  cases prepared : (p.prepare e d).1 with
  | error error =>
      rw [prepared] at opened
      cases opened
  | ok ready =>
      rw [prepared] at opened
      cases opened
      exact ⟨⟨rfl, rfl⟩, settings_prepare prepared⟩

/-- A resumed cursor is one at the beginning, set to the token. -/
theorem resume_ok {t : ResumeToken} {c : Cursor} (resumed : (p.resume e t d).1 = .ok c) :
    ∃ first, (p.cursor e d).1 = .ok first ∧ c = { first with nextToken := some t.token } := by
  change (p.cursor e d).1.bind _ = _ at resumed
  cases opened : (p.cursor e d).1 with
  | error error =>
      rw [opened] at resumed
      cases resumed
  | ok first =>
      rw [opened] at resumed
      by_cases same : t.fingerprint = first.query.fingerprint
      · simp only [Except.bind, Cursor.resumeFrom, if_pos same] at resumed
        cases resumed
        exact ⟨first, rfl, rfl⟩
      · simp only [Except.bind, Cursor.resumeFrom, if_neg same] at resumed
        cases resumed

/-- A cursor that is opened has not begun, and has the settings of its expression's options. -/
theorem enter_opened {x : Entry} {c : Cursor} (opened : (p.enter d x).1.cursor? = some c) :
    (c.state = .notStarted ∧ c.pages = 0) ∧
      ∃ t, (p.translate x.expression).1 = .ok t ∧ c.settings = p.settingsFor t.options := by
  cases x with
  | executeBlocking e => cases opened
  | execute e => exact settings_cursor (Reply.cursor?_opened opened)
  | request x =>
      cases x with
      | compile e | compiled e | explain e => cases opened
      | cursor e => exact settings_cursor (Reply.cursor?_opened opened)
      | resume e t =>
          obtain ⟨first, started, rfl⟩ := resume_ok (Reply.cursor?_opened opened)
          have settings := settings_cursor started
          exact settings

/-! ### Any entries before -/

variable {r : MappingRegistry} {models : List QueryModel}

/-- Entries do not lead away from the registry, and the defaults stay. -/
theorem Follows.enter (follows : p.Follows r models) (sound : r.Sound) (d : Diagnostics)
    (x : Entry) :
    ∃ models', (p.enter d x).2.1.Follows r models' ∧ (p.enter d x).2.1.defaults = p.defaults := by
  have behind (x : Request) :
      ∃ models', (p.behind x).Follows r models' ∧ (p.behind x).defaults = p.defaults := by
    obtain ⟨models', follows', -⟩ := follows.looked sound x
    exact ⟨models', follows', rfl⟩
  cases x with
  | request x =>
      rw [enter_request]
      exact behind x
  | execute e =>
      rw [enter_execute, enter_request]
      exact behind (.cursor e)
  | executeBlocking e => exact ⟨models, follows, rfl⟩

theorem Follows.enterAll (follows : p.Follows r models) (sound : r.Sound) (d : Diagnostics)
    (entries : List Entry) :
    ∃ models', (p.enterAll d entries).1.Follows r models' ∧
      (p.enterAll d entries).1.defaults = p.defaults := by
  induction entries generalizing p d models with
  | nil => exact ⟨models, follows, rfl⟩
  | cons x more ih =>
      obtain ⟨models', follows', defaults⟩ := follows.enter sound d x
      obtain ⟨models'', after, same⟩ := ih follows' (p.enter d x).2.2
      exact ⟨models'', after, same.trans defaults⟩

/-- A provider that keeps to a registry translates what is accepted for one of the mappings. -/
theorem Follows.translate_ok_iff (follows : p.Follows r models) (sound : r.Sound)
    {t : TranslatedQuery} :
    (p.translate e).1 = .ok t ↔
      ∃ m ∈ r.mappings, e.Accepted m ∧ QueryModel.ofMapping m = .ok t.model ∧
        t.options = e.options := by
  rw [Provider.translate, follows.source]
  exact TranslatedQuery.ofExpression_ok_iff sound follows.kept

end Provider

/-! ### Any questions before -/

/-- What a new cache keeps after questions for some entities. -/
def MappingCache.after (source : MappingSource) (asked : List String) : MappingCache :=
  asked.foldl (fun c entity => (c.mappingFor source entity).2) .empty

namespace MappingCache

variable {r : MappingRegistry}

theorem Declared.asking {c : MappingCache} (declared : c.Declared r) (sound : r.Sound)
    (asked : List String) :
    (asked.foldl (fun c entity => (c.mappingFor r.source entity).2) c).Declared r := by
  induction asked generalizing c with
  | nil => exact declared
  | cons entity more ih => exact ih (declared.mappingFor sound entity).2

theorem declared_after (sound : r.Sound) (asked : List String) : (after r.source asked).Declared r :=
  (declared_empty r).asking sound asked

end MappingCache

/-- A provider begins with the defaults that it is built with. -/
theorem ProviderSetup.defaults_build {s : ProviderSetup} {p : Provider} (built : s.build = .ok p) :
    p.defaults = s.defaults := by
  rw [build] at built
  cases source : s.mappingSource with
  | error e =>
      rw [source] at built
      cases built
  | ok source' =>
      rw [source] at built
      cases built
      rfl

/-- An expression is translated where it is accepted for a model to be had. -/
theorem MappingRegistry.Sound.translates_iff {r : MappingRegistry} (sound : r.Sound)
    {e : QueryExpression} {result : Except TranslationError TranslatedQuery}
    (iff : ∀ t, result = .ok t ↔ ∃ m ∈ r.mappings, e.Accepted m ∧
      QueryModel.ofMapping m = .ok t.model ∧ t.options = e.options) :
    (∃ t, result = .ok t) ↔ ∃ m ∈ r.mappings, e.Accepted m := by
  constructor
  · rintro ⟨t, translated⟩
    obtain ⟨m, mem, accepted, -⟩ := (iff t).1 translated
    exact ⟨m, mem, accepted⟩
  · rintro ⟨m, mem, accepted⟩
    obtain ⟨model, built, -⟩ := QueryModel.exists_ofMapping (sound.wellFormed m mem)
    exact ⟨⟨model, e.options⟩, (iff _).2 ⟨m, mem, accepted, built, rfl⟩⟩

/-- Over declared mappings exactly the accepted expressions are translated, whatever was asked before:
each to the model of its entity's mapping, with every option as the outermost operation has it that
sets it. In a provider of those mappings exactly they open cursors, whatever was entered before, and
the settings of a cursor are the provider's defaults only for options that are not set. -/
theorem QueryExpression.translated_iff_accepted {mappings : List EntityMapping}
    {r : MappingRegistry} (registered : MappingRegistry.ofList mappings = .ok r)
    (e : QueryExpression) :
    (∀ asked : List String,
      let result := (TranslatedQuery.ofExpression r.source e (.after r.source asked)).1
      ((∃ t, result = .ok t) ↔ ∃ m ∈ mappings, e.Accepted m) ∧
        ∀ t, result = .ok t → t.options = e.options ∧
          ∃ m ∈ mappings, m.entity = e.rootEntity ∧ QueryModel.ofMapping m = .ok t.model) ∧
    ∀ (s : ProviderSetup) (p : Provider), s.external = none → s.mappings = mappings →
      s.build = .ok p → ∀ (d : Diagnostics) (entries : List Provider.Entry),
        let (p, d) := p.enterAll d entries
        ((∃ c, (p.cursor e d).1 = .ok c) ↔ ∃ m ∈ mappings, e.Accepted m) ∧
          ∀ (x : Provider.Entry) (c : Cursor), x.expression = e →
            (p.enter d x).1.cursor? = some c →
            c.settings = ⟨e.options.pageSize.or s.defaults.pageSize,
              e.options.autoPaginate.getD s.defaults.autoPaginate⟩ := by
  obtain ⟨same, sound⟩ := MappingRegistry.ofList_iff.1 registered
  subst same
  constructor
  · intro asked
    have translated : ∀ t,
        (TranslatedQuery.ofExpression r.source e (.after r.source asked)).1 = .ok t ↔ _ :=
      fun _ => TranslatedQuery.ofExpression_ok_iff sound (MappingCache.declared_after sound asked)
    refine ⟨sound.translates_iff translated, fun t result => ?_⟩
    obtain ⟨m, mem, accepted, built, options⟩ := (translated t).1 result
    exact ⟨options, m, mem, accepted.mapped, built⟩
  · intro s p declared same built d entries
    obtain ⟨r', mappings, sound', follows⟩ := ProviderSetup.follows_build declared built
    obtain ⟨models, after, defaults⟩ := follows.enterAll sound' d entries
    have initial := ProviderSetup.defaults_build built
    rw [← same, ← mappings]
    generalize p.enterAll d entries = reached at after defaults ⊢
    obtain ⟨p', d'⟩ := reached
    have translated : ∀ t, (p'.translate e).1 = .ok t ↔ _ :=
      fun _ => after.translate_ok_iff sound'
    refine ⟨?_, ?_⟩
    · rw [Provider.cursor_opened_iff]
      exact sound'.translates_iff translated
    · rintro x c rfl opened
      obtain ⟨-, t, result, settings⟩ := Provider.enter_opened opened
      obtain ⟨-, -, -, -, options⟩ := (translated t).1 result
      rw [settings, Provider.settingsFor, options, defaults, initial]

/-- Orders, with all properties named twice and the page size set twice. -/
def ordersTwice : QueryExpression :=
  .configure
    (.project
      (.configure (.project (.scan "Order") ["Paid", "Id"]) ⟨some 5, some false⟩)
      ["Id", "Paid"])
    ⟨some 20, none⟩

/-- They are translated, also when people were asked for before; and a provider that has refused to
order them opens a cursor with the outer page size, without pagination. -/
theorem translated_iff_accepted_ordersTwice :
    ∃ r, MappingRegistry.ofList peopleAndOrders.mappings = .ok r ∧
      (∃ t, (TranslatedQuery.ofExpression r.source ordersTwice (.after r.source ["Person"])).1 = .ok t ∧
        t.options = ⟨some 20, some false⟩) ∧
      ∃ p, peopleAndOrders.build = .ok p ∧
        let (p, d) := p.enterAll (.start .recording)
          [.execute (.orderBy (.scan "Order") "Paid" true)]
        ∃ c, (p.cursor ordersTwice d).1 = .ok c ∧ c.settings = ⟨some 20, false⟩ := by
  have registered : MappingRegistry.ofList peopleAndOrders.mappings =
      .ok ⟨peopleAndOrders.mappings⟩ := rfl
  have accepted : ∃ m ∈ peopleAndOrders.mappings, ordersTwice.Accepted m := by
    refine ⟨peopleAndOrders.mappings[1], by simp, ?_⟩
    constructor <;> decide
  obtain ⟨translated, opened⟩ := QueryExpression.translated_iff_accepted registered ordersTwice
  refine ⟨_, registered, ?_, _, rfl, ?_⟩
  · obtain ⟨t, result⟩ := (translated ["Person"]).1.2 accepted
    exact ⟨t, result, ((translated ["Person"]).2 t result).1⟩
  · obtain ⟨⟨-, opens⟩, settings⟩ := opened peopleAndOrders _ rfl rfl rfl (.start .recording)
      [.execute (.orderBy (.scan "Order") "Paid" true)]
    obtain ⟨c, result⟩ := opens accepted
    have given := congrArg (fun result => (Provider.Reply.opened result).cursor?) result
    exact ⟨c, result, settings (.execute ordersTwice) c rfl given⟩

end Keyscan
