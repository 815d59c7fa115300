import Mathlib.Data.Finset.Card
import Keyscan.Proofs.Compiled.Cache

/-!
The books of the cache. After any calls on a new cache there is one entry for each key that was looked
up to be compiled, compiled at the first of these calls and kept from then on, and all later calls of
the key are hits.

What one call keeps is `Sound`: entries have keys of their own, those of the models compiled so far,
and the counters add up to the calls. `Bookkept` is what that comes to for a whole run.
-/

set_option autoImplicit false

namespace Keyscan.CompiledCache

/-- The cache after calls made one after the other. -/
def afterCalls (c : CompiledCache) (calls : List Call) : CompiledCache :=
  calls.foldl (fun c x => (c.call x).2) c

/-- The models that are looked up to be compiled, in order. -/
def compiledModels (calls : List Call) : List QueryModel := calls.flatMap Call.compiles

/-- Their keys, once for each call. -/
def compiledKeys (calls : List Call) : List String := (compiledModels calls).map QueryModel.key

theorem afterCalls_append (c : CompiledCache) (calls more : List Call) :
    c.afterCalls (calls ++ more) = (c.afterCalls calls).afterCalls more :=
  List.foldl_append

/-! ### What one call keeps -/

/-- The books of a cache agree with the models that have been compiled or found, in order. -/
structure Sound (c : CompiledCache) (models : List QueryModel) : Prop where
  holds : c.Holds models
  keys_distinct : (c.entries.map Prod.fst).Nodup
  mem_keys : ∀ key, key ∈ c.entries.map Prod.fst ↔ key ∈ models.map QueryModel.key
  compilations : c.compilations = c.size
  hits : c.hits + c.size = models.length

theorem sound_empty : empty.Sound [] where
  holds := holds_empty
  keys_distinct := List.nodup_nil
  mem_keys _ := Iff.rfl
  compilations := rfl
  hits := rfl

variable {c : CompiledCache} {models : List QueryModel} {key : String}

/-- A key is kept exactly when a model of it has been compiled. -/
theorem Holds.exists_iff (holds : c.Holds models) :
    (∃ q, c.get? key = some q) ↔ key ∈ models.map QueryModel.key := by
  rw [← Option.isSome_iff_exists, holds key, Option.isSome_map, firstUnder?, List.find?_isSome]
  simp

theorem Holds.notMem (holds : c.Holds models) (new : c.get? key = none) :
    key ∉ models.map QueryModel.key := by
  rw [← holds.exists_iff, new]
  simp

/-- A lookup that compiles keeps the books: a hit is counted, or an entry is made and counted. -/
theorem Sound.getOrCompile (sound : c.Sound models) (m : QueryModel) :
    (c.getOrCompile m).2.Sound (models ++ [m]) := by
  obtain ⟨first, hit, c', -, result, holds⟩ := sound.holds.getOrCompile m
  have hits := sound.hits
  cases kept : c.get? m.key with
  | some q =>
      have known := sound.holds.exists_iff.1 ⟨q, kept⟩
      rw [getOrCompile_kept kept] at result ⊢
      cases result
      exact {
        holds := holds
        keys_distinct := sound.keys_distinct
        mem_keys := fun key => by
          rw [List.map_append, List.mem_append, sound.mem_keys key]
          exact ⟨.inl, fun mem => mem.elim id fun own => by rwa [List.mem_singleton.1 own]⟩
        compilations := sound.compilations
        hits := by
          rw [List.length_append, List.length_singleton, ← hits]
          exact Nat.add_right_comm _ _ _ }
  | none =>
      have new := mt (sound.mem_keys m.key).1 (sound.holds.notMem kept)
      rw [getOrCompile_new kept] at result ⊢
      cases result
      exact {
        holds := holds
        keys_distinct := List.nodup_cons.2 ⟨new, sound.keys_distinct⟩
        mem_keys := fun key => by
          rw [List.map_append, List.mem_append, ← sound.mem_keys key, List.map_cons, List.mem_cons]
          exact or_comm.trans (or_congr_right List.mem_singleton.symm)
        compilations := congrArg Nat.succ sound.compilations
        hits := by
          rw [List.length_append, List.length_singleton, ← hits]
          rfl }

/-- So does every other call, which changes nothing. -/
theorem Sound.call (sound : c.Sound models) (x : Call) :
    (c.call x).2.Sound (models ++ x.compiles) := by
  cases x with
  | getOrCompile m => exact sound.getOrCompile m
  | get m | require m =>
      rw [Call.compiles, List.append_nil]
      exact sound

/-- The books are kept through any number of calls. -/
theorem Sound.afterCalls (sound : c.Sound models) (calls : List Call) :
    (c.afterCalls calls).Sound (models ++ compiledModels calls) := by
  induction calls generalizing c models with
  | nil =>
      rw [compiledModels, List.flatMap_nil, List.append_nil]
      exact sound
  | cons x more ih =>
      rw [compiledModels, List.flatMap_cons, ← List.append_assoc]
      exact ih (sound.call x)

/-! ### What the books say -/

/-- As many entries as there are different keys. -/
theorem Sound.size_eq (sound : c.Sound models) :
    c.size = (models.map QueryModel.key).toFinset.card := by
  have same : (models.map QueryModel.key).toFinset = (c.entries.map Prod.fst).toFinset := by
    ext key
    rw [List.mem_toFinset, List.mem_toFinset, sound.mem_keys]
  rw [same, List.toFinset_card_of_nodup sound.keys_distinct, List.length_map, size]

/-- An entry is the compilation of a model of its key. -/
theorem Holds.own (holds : c.Holds models) {q : CompiledQuery} (kept : c.get? key = some q) :
    q.key = key ∧ CompiledQuery.ofModel q.model = .ok q := by
  rw [holds key] at kept
  obtain ⟨first, found, rfl⟩ := Option.map_eq_some_iff.1 kept
  exact ⟨(firstUnder?_some found).2, CompiledQuery.ofModel_eq first⟩

/-- An entry stays while other models are compiled. -/
theorem Holds.kept (holds : c.Holds models) {c' : CompiledCache} {more : List QueryModel}
    (holds' : c'.Holds (models ++ more)) {q : CompiledQuery} (kept : c.get? key = some q) :
    c'.get? key = some q := by
  rw [holds key] at kept
  obtain ⟨first, found, rfl⟩ := Option.map_eq_some_iff.1 kept
  rw [holds' key, firstUnder?_append, found, Option.some_or, Option.map_some]

/-- A lookup that compiles is a hit exactly when a model of the key has been compiled. -/
theorem Holds.hit (holds : c.Holds models) (m : QueryModel) :
    ∃ q, (c.getOrCompile m).1 = .ok ⟨q, decide (m.key ∈ models.map QueryModel.key)⟩ := by
  cases kept : c.get? m.key with
  | some q =>
      rw [getOrCompile_kept kept, decide_eq_true (holds.exists_iff.1 ⟨q, kept⟩)]
      exact ⟨q, rfl⟩
  | none =>
      rw [getOrCompile_new kept, decide_eq_false (holds.notMem kept)]
      exact ⟨_, rfl⟩

/-- A query is required successfully exactly when it is kept. -/
theorem require_ok_iff {q : CompiledQuery} : c.require key = .ok q ↔ c.get? key = some q := by
  rw [require]
  cases c.get? key <;> simp

/-! ### Any run -/

/-- The books of a new cache after calls. -/
structure Bookkept (calls : List Call) (c : CompiledCache) : Prop where
  /-- There is an entry for each key that was looked up to be compiled. -/
  size_eq : c.size = (compiledKeys calls).toFinset.card
  compilations_eq : c.compilations = c.size
  /-- All lookups that compile but those that made the entries were hits. -/
  hits_add_size : c.hits + c.size = (compiledKeys calls).length
  /-- A lookup that compiles is answered, and is a hit exactly when its key was compiled before. -/
  looked : ∀ m, ∃ q, (c.getOrCompile m).1 = .ok ⟨q, decide (m.key ∈ compiledKeys calls)⟩
  /-- What a hit returns is the query of the first call that compiled the key. -/
  first : ∀ earlier m later, calls = earlier ++ .getOrCompile m :: later →
    m.key ∉ compiledKeys earlier →
      ∃ q, CompiledQuery.ofModel m = .ok q ∧
        ((empty.afterCalls earlier).getOrCompile m).1 = .ok ⟨q, false⟩ ∧
        ∀ n, n.key = m.key → (c.getOrCompile n).1 = .ok ⟨q, true⟩
  /-- The entry under a key is the compilation of a model of the key. -/
  own : ∀ key q, c.get? key = some q → q.key = key ∧ CompiledQuery.ofModel q.model = .ok q
  /-- No entry is replaced or removed. -/
  kept : ∀ key q, c.get? key = some q → ∀ more, (c.afterCalls more).get? key = some q
  /-- Only lookups that compile change anything. -/
  unchanged : ∀ m, c.afterCalls [.get m] = c ∧ c.afterCalls [.require m] = c
  required : ∀ key, (∃ q, c.require key = .ok q) ↔ key ∈ compiledKeys calls
  required_eq : ∀ key q, c.require key = .ok q ↔ c.get? key = some q

/-- The query of the first call that compiles a key is kept, and returned by every later one. -/
theorem Sound.first (sound : c.Sound models) {m : QueryModel}
    (new : m.key ∉ models.map QueryModel.key) (later : List Call) :
    (c.getOrCompile m).1 = .ok ⟨.compiled m, false⟩ ∧
      ∀ n, n.key = m.key →
        ((c.afterCalls (.getOrCompile m :: later)).getOrCompile n).1 = .ok ⟨.compiled m, true⟩ := by
  have absent : c.get? m.key = none := by
    rw [← sound.holds.exists_iff, ← Option.isSome_iff_exists] at new
    simpa using new
  have compiled := getOrCompile_new absent
  refine ⟨by rw [compiled], fun n same => ?_⟩
  have sound' := sound.getOrCompile m
  have here : (c.getOrCompile m).2.get? m.key = some (.compiled m) := by
    rw [compiled]
    exact List.lookup_cons_self
  have stays := sound'.holds.kept (sound'.afterCalls later).holds here
  rw [← same] at stays
  exact congrArg Prod.fst (getOrCompile_kept stays)

/-- The books of a new cache are kept in any run of calls. -/
theorem bookkept_afterCalls (calls : List Call) : Bookkept calls (empty.afterCalls calls) := by
  have sound : (empty.afterCalls calls).Sound (compiledModels calls) := sound_empty.afterCalls calls
  exact {
    size_eq := sound.size_eq
    compilations_eq := sound.compilations
    hits_add_size := by
      rw [sound.hits, compiledKeys, List.length_map]
    looked := sound.holds.hit
    first := fun earlier m later parts new => by
      obtain ⟨compiled, hits⟩ := (sound_empty.afterCalls earlier).first new later
      refine ⟨.compiled m, CompiledQuery.ofModel_eq m, compiled, fun n same => ?_⟩
      rw [parts, afterCalls_append]
      exact hits n same
    own := fun key q kept => sound.holds.own kept
    kept := fun key q kept more => sound.holds.kept (sound.afterCalls more).holds kept
    unchanged := fun m => ⟨rfl, rfl⟩
    required := fun key => by
      simp only [require_ok_iff]
      exact sound.holds.exists_iff
    required_eq := fun key q => require_ok_iff }

end Keyscan.CompiledCache
