import Mathlib.Data.Finset.Card
import Keyscan.Proofs.Mapping.Registry

/-!
The cache in front of any source of mappings, also one that answers differently each time. What calls
on a new cache have returned is their log, and the cache follows from it: it keeps the first mapping
that was returned for each entity, and has asked the source once for each of these and once for each
call that failed.

What one call keeps is `Sound`, and `Lawful` is what that comes to for any run. Entities do not get in
each other's way: asked about one of them alone, and told the same about it, a cache answers the same
(`run_alone`).
-/

set_option autoImplicit false

namespace Keyscan.MappingCache

/-- What calls have asked for, and what they returned, in order. -/
abbrev Log := List (String × Except MappingError EntityMapping)

namespace Log

/-- The first mapping that was returned for an entity. -/
def first? (log : Log) (entity : String) : Option EntityMapping :=
  log.findSome? fun call => if call.1 = entity then call.2.toOption else none

/-- The entities that a mapping was returned for, once for each call. -/
def found (log : Log) : List String := (log.filter (·.2.isOk)).map Prod.fst

/-- The number of calls that failed. -/
def failures (log : Log) : Nat := log.countP fun call => !call.2.isOk

end Log

/-- Calls one after the other: what they return, and the cache afterwards. -/
def run (source : MappingSource) : List String → MappingCache → Log × MappingCache
  | [], c => ([], c)
  | entity :: more, c =>
      let (answer, c) := c.mappingFor source entity
      let (log, c) := run source more c
      ((entity, answer) :: log, c)

/-- What the source is asked about an entity during calls, and answers. -/
def heard (source : MappingSource) (entity : String) :
    List String → MappingCache → List (Except MappingError EntityMapping)
  | [], _ => []
  | name :: more, c =>
      let others := heard source entity more (c.mappingFor source name).2
      if name = entity ∧ c.find? entity = none then source c.lookups entity :: others else others

/-! ### One call -/

variable {c : MappingCache} {source : MappingSource} {entity : String}

/-- What is kept is returned, whatever the source would answer, and nothing changes. -/
theorem mappingFor_kept {m : EntityMapping} (kept : c.find? entity = some m)
    (source : MappingSource) : c.mappingFor source entity = (.ok m, c) := by
  rw [mappingFor, kept]

theorem consult_ok_iff {asked : Nat} {m : EntityMapping} :
    consult source asked entity = .ok m ↔ source asked entity = .ok m ∧ m.validate = .ok () := by
  rw [consult]
  cases source asked entity with
  | error e => simp [bind, Except.bind]
  | ok found =>
      cases valid : found.validate with
      | error e =>
          simp only [bind, Except.bind, valid]
          constructor
          · intro impossible
            cases impossible
          · rintro ⟨⟨⟩, fits⟩
            rw [valid] at fits
            cases fits
      | ok u =>
          simp only [bind, Except.bind, valid]
          constructor
          · rintro ⟨⟩
            exact ⟨rfl, valid⟩
          · exact And.left

theorem consult_error_iff {asked : Nat} {e : MappingError} :
    consult source asked entity = .error e ↔
      source asked entity = .error e ∨
        ∃ m, source asked entity = .ok m ∧ m.validate = .error e := by
  rw [consult]
  cases source asked entity with
  | error e => simp [bind, Except.bind]
  | ok found =>
      cases valid : found.validate <;> simp [bind, Except.bind, valid]

/-- What is not kept is asked for, once: a valid answer is kept under the name, and after any other
only the question is on record. -/
theorem mappingFor_new (new : c.find? entity = none) :
    c.mappingFor source entity =
      (consult source c.lookups entity,
        ⟨(consult source c.lookups entity).toOption.elim c.resolved
            fun m => (entity, m) :: c.resolved,
          c.lookups + 1⟩) := by
  rw [mappingFor, new]
  cases consult source c.lookups entity <;> rfl

/-- A call for an entity touches nothing that is kept for others. -/
theorem find?_mappingFor_of_ne {other : String} (ne : entity ≠ other) :
    (c.mappingFor source other).2.find? entity = c.find? entity := by
  cases kept : c.find? other with
  | some m => rw [mappingFor_kept kept]
  | none =>
      rw [mappingFor_new kept]
      cases consult source c.lookups other with
      | error e => rfl
      | ok m =>
          change ((other, m) :: c.resolved).lookup entity = c.resolved.lookup entity
          rw [List.lookup_cons, beq_false_of_ne ne]

/-- Asked about an entity for the first time, a cache keeps what it returns, and nothing else. -/
theorem find?_mappingFor_of_new (new : c.find? entity = none) :
    (c.mappingFor source entity).2.find? entity =
      (consult source c.lookups entity).toOption := by
  rw [mappingFor_new new]
  cases consult source c.lookups entity with
  | error e => exact new
  | ok m =>
      change ((entity, m) :: c.resolved).lookup entity = some m
      rw [List.lookup_cons, beq_self_eq_true]

/-! ### The log of calls -/

section

variable {log : Log} {answer : Except MappingError EntityMapping}

theorem Log.first?_append_same :
    Log.first? (log ++ [(entity, answer)]) entity = (log.first? entity).or answer.toOption := by
  simp [Log.first?, List.findSome?_append]

theorem Log.first?_append_of_ne {other : String} (ne : entity ≠ other) :
    Log.first? (log ++ [(other, answer)]) entity = log.first? entity := by
  simp [Log.first?, List.findSome?_append, ne.symm]

/-- An entity has been found when a mapping was returned for it. -/
theorem Log.first?_eq_none_iff : log.first? entity = none ↔ entity ∉ log.found := by
  rw [Log.first?, List.findSome?_eq_none_iff, Log.found]
  constructor
  · intro never found
    obtain ⟨⟨name, answer⟩, returned, rfl⟩ := List.mem_map.1 found
    obtain ⟨mem, ok⟩ := List.mem_filter.1 returned
    cases answer with
    | error e => cases ok
    | ok m => simpa [Except.toOption] using never _ mem
  · rintro never ⟨name, answer⟩ mem
    cases answer with
    | error e => simp [Except.toOption]
    | ok m =>
        refine if_neg ?_
        rintro rfl
        exact never (List.mem_map_of_mem (List.mem_filter.2 ⟨mem, rfl⟩))

theorem Log.found_append_ok {m : EntityMapping} :
    Log.found (log ++ [(entity, .ok m)]) = log.found ++ [entity] := by
  simp [Log.found, Except.isOk, Except.toBool]

theorem Log.failures_append_ok {m : EntityMapping} :
    Log.failures (log ++ [(entity, .ok m)]) = log.failures := by
  simp [Log.failures, Except.isOk, Except.toBool]

/-- The questions that calls came to: one for each entity found, and one for each failure. -/
def Log.questions (log : Log) : Nat := log.found.toFinset.card + log.failures

theorem Log.questions_append_error {e : MappingError} :
    Log.questions (log ++ [(entity, .error e)]) = log.questions + 1 := by
  simp [Log.questions, Log.found, Log.failures, Except.isOk, Except.toBool, Nat.add_assoc]

/-- An entity that is found again takes no question. -/
theorem Log.questions_append_ok_of_mem {m : EntityMapping} (mem : entity ∈ log.found) :
    Log.questions (log ++ [(entity, .ok m)]) = log.questions := by
  rw [Log.questions, Log.questions, found_append_ok, failures_append_ok, List.toFinset_append,
    Finset.union_eq_left.2 (by simpa using mem)]

theorem Log.questions_append_ok_of_notMem {m : EntityMapping} (new : entity ∉ log.found) :
    Log.questions (log ++ [(entity, .ok m)]) = log.questions + 1 := by
  have distinct : (log.found ++ [entity]).toFinset = insert entity log.found.toFinset := by
    ext name
    simp
  rw [Log.questions, Log.questions, found_append_ok, failures_append_ok, distinct,
    Finset.card_insert_of_notMem (by simpa using new), Nat.add_right_comm]

end

/-! ### Runs -/

/-- The cache is what the log of its calls says. -/
structure Sound (c : MappingCache) (log : Log) : Prop where
  kept : ∀ entity, c.find? entity = log.first? entity
  asked : c.lookups = log.questions
  valid : ∀ entity m, (entity, .ok m) ∈ log → m.validate = .ok ()

theorem Sound.empty : Sound .empty [] :=
  ⟨fun _ => rfl, rfl, fun _ _ mem => nomatch mem⟩

theorem Sound.valid_first? {log : Log} (sound : c.Sound log) {m : EntityMapping}
    (first : log.first? entity = some m) : m.validate = .ok () := by
  obtain ⟨⟨name, answer⟩, mem, found⟩ := List.exists_of_findSome?_eq_some first
  cases answer with
  | error e => simp [Except.toOption] at found
  | ok other =>
      obtain ⟨-, rfl⟩ : name = entity ∧ other = m := by simpa [Except.toOption] using found
      exact sound.valid name other mem

/-- One more call keeps the cache and its log in step. -/
theorem Sound.mappingFor {log : Log} (sound : c.Sound log) (source : MappingSource)
    (entity : String) :
    (c.mappingFor source entity).2.Sound
      (log ++ [(entity, (c.mappingFor source entity).1)]) := by
  cases kept : c.find? entity with
  | some m =>
      have first : log.first? entity = some m := by rw [← sound.kept, kept]
      have mem : entity ∈ log.found := by
        by_contra new
        rw [Log.first?_eq_none_iff.2 new] at first
        cases first
      rw [mappingFor_kept kept]
      refine ⟨fun name => ?_, ?_, fun name m' returned => ?_⟩
      · by_cases same : name = entity
        · rw [same, Log.first?_append_same, sound.kept, first]
          rfl
        · rw [Log.first?_append_of_ne same, sound.kept]
      · rw [Log.questions_append_ok_of_mem mem, sound.asked]
      · rcases List.mem_append.1 returned with before | last
        · exact sound.valid name m' before
        · obtain ⟨-, rfl⟩ : name = entity ∧ m' = m := by simpa using last
          exact sound.valid_first? first
  | none =>
      have first : log.first? entity = none := by rw [← sound.kept, kept]
      have answered : (c.mappingFor source entity).1 = consult source c.lookups entity := by
        rw [mappingFor_new kept]
      have lookups : (c.mappingFor source entity).2.lookups = c.lookups + 1 := by
        rw [mappingFor_new kept]
      refine ⟨fun name => ?_, ?_, fun name m returned => ?_⟩
      · by_cases same : name = entity
        · rw [same, Log.first?_append_same, first, Option.none_or, answered,
            find?_mappingFor_of_new kept]
        · rw [Log.first?_append_of_ne same, find?_mappingFor_of_ne same, sound.kept]
      · rw [lookups, sound.asked, answered]
        cases consult source c.lookups entity with
        | error e => rw [Log.questions_append_error]
        | ok m => rw [Log.questions_append_ok_of_notMem (Log.first?_eq_none_iff.1 first)]
      · rcases List.mem_append.1 returned with before | last
        · exact sound.valid name m before
        · obtain ⟨-, found⟩ := Prod.mk.inj (List.mem_singleton.1 last)
          rw [answered] at found
          exact (consult_ok_iff.1 found.symm).2

theorem run_cons (source : MappingSource) (entity : String) (more : List String)
    (c : MappingCache) :
    run source (entity :: more) c =
      ((entity, (c.mappingFor source entity).1) ::
          (run source more (c.mappingFor source entity).2).1,
        (run source more (c.mappingFor source entity).2).2) := rfl

/-- A run keeps the cache and the log of all its calls in step. -/
theorem Sound.run (source : MappingSource) (calls : List String) {log : Log}
    (sound : c.Sound log) :
    (run source calls c).2.Sound (log ++ (MappingCache.run source calls c).1) := by
  induction calls generalizing c log with
  | nil => simpa [MappingCache.run] using sound
  | cons entity more ih => simpa [MappingCache.run] using ih (sound.mappingFor source entity)

theorem run_names (source : MappingSource) (calls : List String) (c : MappingCache) :
    (run source calls c).1.map Prod.fst = calls := by
  induction calls generalizing c with
  | nil => rfl
  | cons entity more ih => rw [run, List.map_cons, ih]

/-- Left alone with an entity and told the same about it, a cache returns the same for it: the calls
for others in between make no difference. -/
theorem run_alone {c c' : MappingCache} {source alone : MappingSource} {entity : String}
    (calls : List String) (kept : c'.find? entity = c.find? entity)
    (told : ∀ i answer, (heard source entity calls c)[i]? = some answer →
      alone (c'.lookups + i) entity = answer) :
    (run alone (calls.filter (· = entity)) c').1 =
      (run source calls c).1.filter (·.1 = entity) := by
  induction calls generalizing c c' with
  | nil => rfl
  | cons name more ih =>
      by_cases same : name = entity
      · subst same
        rw [List.filter_cons_of_pos (by simp), run_cons, run_cons,
          List.filter_cons_of_pos (by simp)]
        cases here : c.find? name with
        | some m =>
            rw [heard, if_neg (by simp [here]), mappingFor_kept here] at told
            rw [mappingFor_kept here, mappingFor_kept (kept.trans here)]
            exact congrArg _ (ih kept told)
        | none =>
            rw [heard, if_pos ⟨rfl, here⟩] at told
            have first : alone c'.lookups name = source c.lookups name := told 0 _ rfl
            have answers : consult alone c'.lookups name = consult source c.lookups name := by
              rw [consult, consult, first]
            have lookups : (c'.mappingFor alone name).2.lookups = c'.lookups + 1 := by
              rw [mappingFor_new (kept.trans here)]
            have next : (c'.mappingFor alone name).2.find? name =
                (c.mappingFor source name).2.find? name := by
              rw [find?_mappingFor_of_new here, find?_mappingFor_of_new (kept.trans here), answers]
            have returned : (c'.mappingFor alone name).1 = (c.mappingFor source name).1 := by
              rw [mappingFor_new here, mappingFor_new (kept.trans here), answers]
            rw [returned]
            refine congrArg _ (ih next fun i answer later => ?_)
            rw [lookups, Nat.add_assoc, Nat.add_comm 1]
            exact told (i + 1) answer later
      · rw [List.filter_cons_of_neg (by simpa using same), run_cons,
          List.filter_cons_of_neg (by simpa using same)]
        rw [heard, if_neg fun both => same both.1] at told
        exact ih (kept.trans (find?_mappingFor_of_ne (Ne.symm same)).symm) told

/-- What a run on a new cache comes to, said of its log and of the call that follows it, whatever
source that call is made to. -/
structure Lawful (source : MappingSource) (calls : List String) (log : Log) (c : MappingCache) :
    Prop where
  /-- Every call is on the log. -/
  names : log.map Prod.fst = calls
  /-- The first mapping returned for an entity is returned from then on, and no source is asked. -/
  kept : ∀ entity m, log.first? entity = some m →
    ∀ later : MappingSource, c.mappingFor later entity = (.ok m, c)
  /-- Until then every call asks. -/
  asked : ∀ entity, log.first? entity = none → ∀ later : MappingSource,
    (c.mappingFor later entity).1 = consult later c.lookups entity ∧
      (c.mappingFor later entity).2.lookups = c.lookups + 1
  /-- A call fails on the source's failure or on a fault of its mapping. It keeps nothing, so that the
  next call for the entity asks again. -/
  failed : ∀ entity e, ∀ later : MappingSource, (c.mappingFor later entity).1 = .error e →
    (later c.lookups entity = .error e ∨
        ∃ m, later c.lookups entity = .ok m ∧ m.validate = .error e) ∧
      (c.mappingFor later entity).2 = ⟨c.resolved, c.lookups + 1⟩ ∧
      ∀ again : MappingSource, ((c.mappingFor later entity).2.mappingFor again entity).1 =
        consult again (c.lookups + 1) entity
  /-- No mapping with a fault is returned. -/
  valid : ∀ entity m, (entity, .ok m) ∈ log → m.validate = .ok ()
  /-- The calls for one entity return what they would if there were no others. -/
  apart : ∀ (entity : String) (alone : MappingSource),
    (∀ i answer, (heard source entity calls empty)[i]? = some answer → alone i entity = answer) →
    (run alone (calls.filter (· = entity)) empty).1 = log.filter (·.1 = entity)
  /-- The source was asked once for each entity found and once for each failure. -/
  lookups : c.lookups = log.found.toFinset.card + log.failures

/-- Any calls to any source make a lawful run. -/
theorem run_lawful (source : MappingSource) (calls : List String) :
    Lawful source calls (run source calls empty).1 (run source calls empty).2 := by
  have sound : (run source calls empty).2.Sound (run source calls empty).1 :=
    Sound.empty.run source calls
  refine
    { names := run_names source calls empty
      kept := fun entity m first later => ?_
      asked := fun entity never later => ?_
      failed := fun entity e later failed => ?_
      valid := sound.valid
      apart := fun entity alone told => ?_
      lookups := sound.asked }
  · exact mappingFor_kept ((sound.kept entity).trans first) later
  · rw [mappingFor_new ((sound.kept entity).trans never)]
    exact ⟨rfl, rfl⟩
  · cases here : (run source calls empty).2.find? entity with
    | some m =>
        rw [mappingFor_kept here] at failed
        cases failed
    | none =>
        rw [mappingFor_new here] at failed ⊢
        change consult _ _ _ = .error e at failed
        simp only [failed]
        refine ⟨consult_error_iff.1 failed, rfl, fun again => ?_⟩
        have still : find? ⟨(run source calls empty).2.resolved,
            (run source calls empty).2.lookups + 1⟩ entity = none := here
        exact congrArg Prod.fst (mappingFor_new still)
  · refine run_alone calls rfl fun i answer said => ?_
    rw [show empty.lookups + i = i from Nat.zero_add i]
    exact told i answer said

end Keyscan.MappingCache
