import Keyscan.Compiled.Cache
import Keyscan.Proofs.Compiled.Compilation

/-!
Runs of lookups on the cache. What the cache holds under a key is the compilation of the first model
of that key that was looked up to be compiled (`Holds`), and every call is answered with it. So each
model gets its own compilation exactly when no model of the same key was compiled before a different
one (`faithful_iff`).
-/

set_option autoImplicit false

namespace Keyscan.CompiledCache

/-! ### One lookup -/

section Lookup

variable {c : CompiledCache} {m : QueryModel}

/-- A model whose key is kept is a hit. -/
theorem getOrCompile_kept {q : CompiledQuery} (kept : c.get? m.key = some q) :
    c.getOrCompile m = (.ok ⟨q, true⟩, { c with hits := c.hits + 1 }) := by
  rw [getOrCompile, kept]

/-- A model whose key is not kept is compiled, and its query is kept. -/
theorem getOrCompile_new (new : c.get? m.key = none) :
    c.getOrCompile m =
      (.ok ⟨.compiled m, false⟩,
        { c with entries := (m.key, .compiled m) :: c.entries, compilations := c.compilations + 1 }) := by
  rw [getOrCompile, new]
  simp only [CompiledQuery.ofModel_eq]

/-- A lookup that compiles what is not there never fails. -/
theorem exists_getOrCompile (c : CompiledCache) (m : QueryModel) :
    ∃ lookup cache, c.getOrCompile m = (.ok lookup, cache) := by
  cases kept : c.get? m.key with
  | some q => exact ⟨_, _, getOrCompile_kept kept⟩
  | none => exact ⟨_, _, getOrCompile_new kept⟩

end Lookup

/-! ### Calls -/

/-- A lookup for a model. -/
inductive Call where
  | getOrCompile (m : QueryModel)
  | get (m : QueryModel)
  | require (m : QueryModel)

namespace Call

/-- The model that is looked up. -/
def model : Call → QueryModel
  | .getOrCompile m | .get m | .require m => m

/-- The models that are compiled when they are not there: one or none. -/
def compiles : Call → List QueryModel
  | .getOrCompile m => [m]
  | .get _ | .require _ => []

/-- An earlier call leaves a later one what it asks for: where it compiles under the same key, it is
for the same model. -/
def Agrees (earlier later : Call) : Prop :=
  ∀ m ∈ earlier.compiles, m.key = later.model.key → m = later.model

end Call

/-- The query that a call returns, if it returns one, and the cache afterwards. -/
def call (c : CompiledCache) : Call → Option CompiledQuery × CompiledCache
  | .getOrCompile m =>
      let (lookup, c) := c.getOrCompile m
      (lookup.toOption.map Lookup.query, c)
  | .get m => (c.get? m.key, c)
  | .require m => ((c.require m.key).toOption, c)

/-- What calls made one after the other return. -/
def answers (c : CompiledCache) : List Call → List (Option CompiledQuery)
  | [] => []
  | x :: more => (c.call x).1 :: (c.call x).2.answers more

/-- On a new cache every query that calls return is what their models compile to. -/
def Faithful (calls : List Call) : Prop :=
  ∀ x q, (x, some q) ∈ calls.zip (empty.answers calls) → CompiledQuery.ofModel x.model = .ok q

/-! ### What a cache holds -/

/-- The first of some models with a key. -/
def firstUnder? (models : List QueryModel) (key : String) : Option QueryModel :=
  models.find? (·.key == key)

theorem firstUnder?_append (models more : List QueryModel) (key : String) :
    firstUnder? (models ++ more) key = (firstUnder? models key).or (firstUnder? more key) :=
  List.find?_append

/-- Under every key there is the compilation of the first of some models with the key. -/
def Holds (c : CompiledCache) (models : List QueryModel) : Prop :=
  ∀ key, c.get? key = (firstUnder? models key).map CompiledQuery.compiled

theorem holds_empty : empty.Holds [] := fun _ => rfl

variable {c : CompiledCache} {models : List QueryModel}

/-- Compiling answers with the first model of the key, which is the model itself when the key is new. -/
theorem Holds.getOrCompile (holds : c.Holds models) (m : QueryModel) :
    ∃ first hit c', firstUnder? (models ++ [m]) m.key = some first ∧
      c.getOrCompile m = (.ok ⟨.compiled first, hit⟩, c') ∧ c'.Holds (models ++ [m]) := by
  have own : firstUnder? [m] m.key = some m := by simp [firstUnder?]
  have here := holds m.key
  rw [CompiledCache.getOrCompile, here]
  cases found : firstUnder? models m.key with
  | some first =>
      refine ⟨first, true, _, ?_, rfl, fun key => ?_⟩
      · rw [firstUnder?_append, found, Option.some_or]
      · rw [firstUnder?_append]
        have kept : ({ c with hits := c.hits + 1 } : CompiledCache).get? key = c.get? key := rfl
        rw [kept, holds key]
        by_cases same : m.key = key
        · rw [← same, found, Option.some_or]
        · have apart : firstUnder? [m] key = none := by simp [firstUnder?, same]
          rw [apart, Option.or_none]
  | none =>
      refine ⟨m, false, { c with
        entries := (m.key, .compiled m) :: c.entries, compilations := c.compilations + 1 },
        ?_, by simp, fun key => ?_⟩
      · rw [firstUnder?_append, found, Option.none_or, own]
      · rw [firstUnder?_append, get?, List.lookup_cons]
        by_cases same : key = m.key
        · simp [same, found, own]
        · have apart : firstUnder? [m] key = none := by simp [firstUnder?, Ne.symm same]
          rw [apart, Option.or_none, ← holds key, get?, beq_false_of_ne same]

/-- Every call is answered with the first model of its key, its own included when it compiles. -/
theorem Holds.call (holds : c.Holds models) (x : Call) :
    (c.call x).1 = (firstUnder? (models ++ x.compiles) x.model.key).map CompiledQuery.compiled ∧
      (c.call x).2.Holds (models ++ x.compiles) := by
  cases x with
  | getOrCompile m =>
      obtain ⟨first, hit, c', here, result, holds'⟩ := holds.getOrCompile m
      rw [CompiledCache.call, result]
      exact ⟨by rw [Call.compiles, Call.model, here]; rfl, holds'⟩
  | get m =>
      rw [Call.compiles, List.append_nil]
      exact ⟨holds m.key, holds⟩
  | require m =>
      rw [Call.compiles, List.append_nil]
      refine ⟨?_, holds⟩
      rw [CompiledCache.call, CompiledCache.require, holds m.key, Call.model]
      cases firstUnder? models m.key <;> rfl

/-- Every answer of a run is that of a cache which holds some models. -/
theorem Holds.answers (holds : c.Holds models) {calls : List Call} {x : Call}
    {o : Option CompiledQuery} (mem : (x, o) ∈ calls.zip (c.answers calls)) :
    ∃ (c' : CompiledCache) (models' : List QueryModel), c'.Holds models' ∧ o = (c'.call x).1 := by
  induction calls generalizing c models with
  | nil => cases mem
  | cons y more ih =>
      rw [CompiledCache.answers, List.zip_cons_cons] at mem
      rcases List.mem_cons.1 mem with here | later
      · cases here
        exact ⟨c, models, holds, rfl⟩
      · exact ih (holds.call y).2 later

/-- Looking up a model to be compiled always returns a query. -/
theorem getOrCompile_answered (calls : List Call) (m : QueryModel) :
    (.getOrCompile m, none) ∉ calls.zip (empty.answers calls) := by
  intro mem
  obtain ⟨c, models, holds, answer⟩ := holds_empty.answers mem
  obtain ⟨first, hit, c', -, result, -⟩ := holds.getOrCompile m
  rw [CompiledCache.call, result] at answer
  cases answer

/-! ### Faithful runs -/

/-- Models that are equal where their keys are. -/
def Consistent (models : List QueryModel) : Prop :=
  ∀ m ∈ models, ∀ n ∈ models, m.key = n.key → m = n

theorem firstUnder?_some {key : String} {first : QueryModel}
    (found : firstUnder? models key = some first) : first ∈ models ∧ first.key = key :=
  ⟨List.mem_of_find?_eq_some found, by simpa using List.find?_some found⟩

theorem exists_firstUnder? {m : QueryModel} (mem : m ∈ models) :
    ∃ first, firstUnder? models m.key = some first := by
  rw [← Option.isSome_iff_exists, firstUnder?, List.find?_isSome]
  exact ⟨m, mem, by simp⟩

theorem Call.eq_model_of_mem {x : Call} {m : QueryModel} (mem : m ∈ x.compiles) : m = x.model := by
  cases x with
  | getOrCompile n => exact List.mem_singleton.1 mem
  | get n => cases mem
  | require n => cases mem

theorem compiled_inj {m n : QueryModel}
    (same : CompiledQuery.compiled m = CompiledQuery.compiled n) : m = n :=
  congrArg CompiledQuery.model same

/-- A call returns nothing but its own query exactly when no other model of its key was compiled. -/
theorem Holds.answer_iff (holds : c.Holds models) (consistent : Consistent models) (x : Call) :
    (∀ q, (c.call x).1 = some q → CompiledQuery.compiled x.model = q) ↔
      ∀ m ∈ models, m.key = x.model.key → m = x.model := by
  rw [(holds.call x).1]
  constructor
  · intro own m mem key
    obtain ⟨first, found⟩ := exists_firstUnder? mem
    obtain ⟨first_mem, first_key⟩ := firstUnder?_some found
    have answer : firstUnder? (models ++ x.compiles) x.model.key = some first := by
      rw [firstUnder?_append, ← key, found, Option.some_or]
    have same := compiled_inj (own (.compiled first) (by rw [answer]; rfl))
    rw [same]
    exact consistent m mem first first_mem first_key.symm
  · intro agree q answer
    obtain ⟨first, found, rfl⟩ := Option.map_eq_some_iff.1 answer
    obtain ⟨first_mem, first_key⟩ := firstUnder?_some found
    rcases List.mem_append.1 first_mem with earlier | own
    · rw [agree first earlier first_key]
    · rw [Call.eq_model_of_mem own]

/-- Models stay consistent when the model of a call joins them that agrees with all of them. -/
theorem Consistent.append (consistent : Consistent models) {x : Call}
    (agree : ∀ m ∈ models, m.key = x.model.key → m = x.model) :
    Consistent (models ++ x.compiles) := by
  intro m mem n mem' key
  rcases List.mem_append.1 mem with before | own <;>
    rcases List.mem_append.1 mem' with before' | own'
  · exact consistent m before n before' key
  · rw [Call.eq_model_of_mem own'] at key ⊢
    exact agree m before key
  · rw [Call.eq_model_of_mem own] at key ⊢
    exact (agree n before' key.symm).symm
  · rw [Call.eq_model_of_mem own, Call.eq_model_of_mem own']

/-- Calls on a cache that holds consistent models return their own queries exactly when they agree with
those models and each other. -/
theorem Holds.answers_iff (calls : List Call) (holds : c.Holds models)
    (consistent : Consistent models) :
    (∀ x q, (x, some q) ∈ calls.zip (c.answers calls) → CompiledQuery.compiled x.model = q) ↔
      (∀ x ∈ calls, ∀ m ∈ models, m.key = x.model.key → m = x.model) ∧
        calls.Pairwise Call.Agrees := by
  induction calls generalizing c models with
  | nil => simp
  | cons x more ih =>
      have own := holds.answer_iff consistent x
      have later := fun agree => ih (holds.call x).2 (consistent.append agree)
      simp only [CompiledCache.answers, List.zip_cons_cons, List.mem_cons, Prod.mk.injEq]
      rw [List.pairwise_cons]
      constructor
      · intro faithful
        have agree := own.1 fun q answer => faithful x q (.inl ⟨rfl, answer.symm⟩)
        obtain ⟨rest, pairwise⟩ := (later agree).1 fun y q mem => faithful y q (.inr mem)
        refine ⟨?_, fun y mem m compiled => ?_, pairwise⟩
        · rintro y (rfl | mem) m before
          · exact agree m before
          · exact rest y mem m (List.mem_append_left _ before)
        · exact rest y mem m (List.mem_append_right _ compiled)
      · rintro ⟨agree, here, pairwise⟩ y q (⟨rfl, answer⟩ | mem)
        · exact own.2 (agree _ (.inl rfl)) q answer.symm
        · refine (later (agree x (.inl rfl))).2 ⟨fun z mem m compiled => ?_, pairwise⟩ y q mem
          rcases List.mem_append.1 compiled with before | compiled
          · exact agree z (.inr mem) m before
          · exact here z mem m compiled

/-- The calls of a run return nothing but their own queries exactly when each agrees with all earlier
ones. -/
theorem faithful_iff (calls : List Call) : Faithful calls ↔ calls.Pairwise Call.Agrees := by
  have no_model : ∀ x ∈ calls, ∀ m ∈ ([] : List QueryModel), m.key = x.model.key → m = x.model :=
    fun _ _ _ mem => nomatch mem
  simp only [Faithful, CompiledQuery.ofModel_eq, Except.ok.injEq]
  rw [holds_empty.answers_iff calls (fun _ mem => nomatch mem), and_iff_right no_model]

end Keyscan.CompiledCache
