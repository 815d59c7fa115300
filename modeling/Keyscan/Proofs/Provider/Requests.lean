import Mathlib.Data.List.ReduceOption
import Keyscan.Provider
import Keyscan.Proofs.Compiled.Cache

/-!
Requests to a provider as lookups on its cache. A request whose expression is translated makes one
lookup, for the model that the expression is translated to, and comes to what the lookup returns or to
nothing; a request that is rejected makes none. So what is known of runs of lookups on a new cache
holds of the requests to a new provider, whatever its source of mappings.
-/

set_option autoImplicit false

namespace Keyscan

/-- The compiled query of an expression that was accepted. -/
def Explanation.query? : Explanation → Option CompiledQuery
  | .accepted query _ _ => some query
  | .rejected _ _ => none

namespace Provider

/-- A use of a provider. -/
inductive Request where
  | compile (e : QueryExpression)
  | compiled (e : QueryExpression)
  | explain (e : QueryExpression)
  | cursor (e : QueryExpression)
  | resume (e : QueryExpression) (t : ResumeToken)

namespace Request

/-- The expression that a request is about. -/
def expression : Request → QueryExpression
  | .compile e | .compiled e | .explain e | .cursor e | .resume e _ => e

/-- How a model is looked up for a request. -/
def lookup : Request → QueryModel → CompiledCache.Call
  | .compiled _ => .require
  | .compile _ | .explain _ | .cursor _ | .resume _ _ => .getOrCompile

@[simp] theorem model_lookup (x : Request) (m : QueryModel) : (x.lookup m).model = m := by
  cases x <;> rfl

end Request

/-- The compiled query that a request comes to, if it comes to one, and the provider afterwards. -/
def answer (p : Provider) (d : Diagnostics) : Request → Option CompiledQuery × Provider × Diagnostics
  | .compile e =>
      let (query, p, d) := p.compile e d
      (query.toOption, p, d)
  | .compiled e =>
      let (query, p) := p.compiled e
      (query.toOption, p, d)
  | .explain e =>
      let (explanation, p, d) := p.explain e d
      (explanation.query?, p, d)
  | .cursor e =>
      let (cursor, p, d) := p.cursor e d
      (cursor.toOption.map Cursor.query, p, d)
  | .resume e t =>
      let (cursor, p, d) := p.resume e t d
      (cursor.toOption.map Cursor.query, p, d)

/-- What requests made one after the other come to. -/
def answers (p : Provider) (d : Diagnostics) : List Request → List (Option CompiledQuery)
  | [] => []
  | x :: more => (p.answer d x).1 :: (p.answer d x).2.1.answers (p.answer d x).2.2 more

/-! ### One request -/

/-- What an expression is translated to, and the mappings kept afterwards. -/
def translate (p : Provider) (e : QueryExpression) :
    Except TranslationError TranslatedQuery × MappingCache :=
  TranslatedQuery.ofExpression p.source e p.mappings

/-- The lookup that a request makes, when its expression is translated. -/
def lookup? (p : Provider) (x : Request) : Option CompiledCache.Call :=
  (p.translate x.expression).1.toOption.map fun t => x.lookup t.model

/-- What the lookup of a request returns, and the cache afterwards. -/
def looked (p : Provider) (x : Request) : Option CompiledQuery × CompiledCache :=
  match p.lookup? x with
  | some call => p.cache.call call
  | none => (none, p.cache)

theorem looked_some {p : Provider} {x : Request} {call : CompiledCache.Call}
    (made : p.lookup? x = some call) : p.looked x = p.cache.call call := by
  rw [looked, made]

theorem looked_none {p : Provider} {x : Request} (made : p.lookup? x = none) :
    p.looked x = (none, p.cache) := by
  rw [looked, made]

/-- The provider behind a request: it has translated the expression and made the lookup. -/
def behind (p : Provider) (x : Request) : Provider :=
  { p with mappings := (p.translate x.expression).2, cache := (p.looked x).2 }

theorem prepare_looked (p : Provider) (e : QueryExpression) (d : Diagnostics) :
    (p.prepare e d).1.toOption.map PreparedQuery.query = (p.looked (.compile e)).1 ∧
      (p.prepare e d).2.1 = p.behind (.compile e) := by
  rw [behind, looked, lookup?, prepare, Request.expression, translate]
  cases TranslatedQuery.ofExpression p.source e p.mappings with
  | mk translated mappings =>
      cases translated with
      | error error => exact ⟨rfl, rfl⟩
      | ok t =>
          simp only [Except.toOption, Option.map_some, Request.lookup, CompiledCache.call]
          cases p.cache.getOrCompile t.model with
          | mk lookup cache => cases lookup <;> exact ⟨rfl, rfl⟩

theorem compiled_looked (p : Provider) (e : QueryExpression) :
    (p.compiled e).1.toOption = (p.looked (.compiled e)).1 ∧
      (p.compiled e).2 = p.behind (.compiled e) := by
  rw [behind, looked, lookup?, compiled, Request.expression, translate]
  cases TranslatedQuery.ofExpression p.source e p.mappings with
  | mk translated mappings =>
      cases translated with
      | error error => exact ⟨rfl, rfl⟩
      | ok t =>
          simp only [Except.toOption, Option.map_some, Request.lookup, CompiledCache.call]
          cases p.cache.require t.model.key <;> exact ⟨rfl, trivial⟩

/-- Setting a cursor to a token does not change what it enumerates. -/
theorem query_resumeFrom {c c' : Cursor} {t : ResumeToken} (resumed : c.resumeFrom t = .ok c') :
    c'.query = c.query := by
  rw [Cursor.resumeFrom] at resumed
  split at resumed
  · cases resumed
    rfl
  · cases resumed

/-- A request leaves the provider behind its lookup. -/
theorem answer_behind (p : Provider) (d : Diagnostics) (x : Request) :
    (p.answer d x).2.1 = p.behind x := by
  cases x with
  | compiled e => exact (p.compiled_looked e).2
  | compile e | cursor e | resume e t => exact (p.prepare_looked e d).2
  | explain e =>
      have prepared := (p.prepare_looked e d).2
      rw [answer, explain]
      generalize p.prepare e d = preparation at prepared ⊢
      obtain ⟨result, p', d'⟩ := preparation
      cases result <;> exact prepared

/-- A request to compile comes to what its lookup returns. -/
theorem answer_compile (p : Provider) (d : Diagnostics) (e : QueryExpression) :
    (p.answer d (.compile e)).1 = (p.looked (.compile e)).1 := by
  rw [← (p.prepare_looked e d).1]
  simp only [answer, compile]
  cases (p.prepare e d).1 <;> rfl

/-- Every request comes to what its lookup returns, if to anything. -/
theorem answer_looked {p : Provider} {d : Diagnostics} {x : Request} {q : CompiledQuery}
    (answered : (p.answer d x).1 = some q) : (p.looked x).1 = some q := by
  cases x with
  | compile e => rw [← answered, p.answer_compile d e]
  | compiled e => rw [← answered, ← (p.compiled_looked e).1]; rfl
  | cursor e =>
      have looked := (p.prepare_looked e d).1
      change _ = (p.looked (.cursor e)).1 at looked
      rw [← looked, ← answered]
      simp only [answer, cursor]
      cases (p.prepare e d).1 <;> rfl
  | explain e =>
      have looked := (p.prepare_looked e d).1
      change _ = (p.looked (.explain e)).1 at looked
      rw [← looked, ← answered, answer, explain]
      generalize p.prepare e d = preparation
      obtain ⟨result, p', d'⟩ := preparation
      cases result <;> rfl
  | resume e t =>
      have looked := (p.prepare_looked e d).1
      change _ = (p.looked (.resume e t)).1 at looked
      rw [← looked]
      simp only [answer, resume, cursor] at answered
      cases prepared : (p.prepare e d).1 with
      | error error =>
          rw [prepared] at answered
          cases answered
      | ok ready =>
          rw [prepared] at answered
          simp only [Except.map, Except.bind] at answered
          cases resumed : (Cursor.start ready.query ready.settings).resumeFrom t with
          | error error =>
              rw [resumed] at answered
              cases answered
          | ok c =>
              rw [resumed] at answered
              cases answered
              rw [query_resumeFrom resumed]
              rfl

/-! ### Runs of requests -/

/-- The lookups that requests make when they are made one after the other. -/
def lookups (p : Provider) (d : Diagnostics) : List Request → List (Option CompiledCache.Call)
  | [] => []
  | x :: more => p.lookup? x :: (p.answer d x).2.1.lookups (p.answer d x).2.2 more

/-- What a request of a run comes to is what its lookup returns, in the same run of lookups. -/
theorem mem_answers {p : Provider} {d : Diagnostics} {requests : List Request}
    {made : Option CompiledCache.Call} {q : CompiledQuery}
    (mem : (made, some q) ∈ (p.lookups d requests).zip (p.answers d requests)) :
    ∃ call, made = some call ∧ (call, some q) ∈
      (p.lookups d requests).reduceOption.zip
        (p.cache.answers (p.lookups d requests).reduceOption) := by
  induction requests generalizing p d with
  | nil => cases mem
  | cons x more ih =>
      have behind : (p.answer d x).2.1.cache = (p.looked x).2 := by rw [p.answer_behind d x]; rfl
      rw [lookups, answers, List.zip_cons_cons] at mem
      rw [lookups]
      cases own : p.lookup? x with
      | none =>
          rw [looked_none own] at behind
          rw [List.reduceOption_cons_of_none]
          rcases List.mem_cons.1 mem with here | later
          · injection here with lookup answered
            have returned := answer_looked answered.symm
            rw [looked_none own] at returned
            cases returned
          · have later_answers := ih later
            rwa [behind] at later_answers
      | some call =>
          rw [looked_some own] at behind
          rw [List.reduceOption_cons_of_some, CompiledCache.answers, ← behind, List.zip_cons_cons]
          rcases List.mem_cons.1 mem with here | later
          · injection here with lookup answered
            have returned := answer_looked answered.symm
            rw [looked_some own] at returned
            exact ⟨call, lookup.trans own, List.mem_cons.2 (.inl (by rw [returned]))⟩
          · obtain ⟨call', same, mem'⟩ := ih later
            exact ⟨call', same, List.mem_cons_of_mem _ mem'⟩

/-- A provider with a new cache returns nothing but the compilations of the models that are looked up
where its lookups agree. -/
theorem own_of_agrees {p : Provider} (new : p.cache = .empty) {d : Diagnostics}
    {requests : List Request}
    (agree : (p.lookups d requests).reduceOption.Pairwise CompiledCache.Call.Agrees)
    {made : Option CompiledCache.Call} {q : CompiledQuery}
    (mem : (made, some q) ∈ (p.lookups d requests).zip (p.answers d requests)) :
    ∃ call, made = some call ∧ CompiledQuery.ofModel call.model = .ok q := by
  obtain ⟨call, same, mem'⟩ := mem_answers mem
  rw [new] at mem'
  exact ⟨call, same, (CompiledCache.faithful_iff _).2 agree call q mem'⟩

end Provider

end Keyscan
