import Mathlib.Data.List.Nodup
import Keyscan.Proofs.Mapping

/-!
The registry as a source of mappings. It is built exactly from well-formed mappings of different
entities, and the cache in front of it answers as the registry does, whatever was asked before.
-/

set_option autoImplicit false

namespace Keyscan

namespace MappingRegistry

/-- Well-formed mappings, one for each entity. -/
structure Sound (r : MappingRegistry) : Prop where
  wellFormed : ∀ m ∈ r.mappings, m.WellFormed
  entities_distinct : (r.mappings.map EntityMapping.entity).Nodup

theorem find?_eq_none_iff {r : MappingRegistry} {entity : String} :
    r.find? entity = none ↔ entity ∉ r.mappings.map EntityMapping.entity := by
  rw [find?, List.find?_eq_none]
  simp

/-- A mapping comes last in the registry, when it is well formed and its entity is new; any other is
refused and leaves no trace. -/
theorem add_cases (r : MappingRegistry) (m : EntityMapping) :
    ((m.WellFormed ∧ m.entity ∉ r.mappings.map EntityMapping.entity) ∧
        r.add m = (.ok (), ⟨r.mappings ++ [m]⟩)) ∨
      (¬ (m.WellFormed ∧ m.entity ∉ r.mappings.map EntityMapping.entity) ∧
        ∃ e, r.add m = (.error e, r)) := by
  rw [← EntityMapping.validate_iff, ← find?_eq_none_iff, add]
  cases valid : m.validate with
  | error e => exact .inr ⟨(fun fits => nomatch fits.1), e, rfl⟩
  | ok u =>
      cases found : r.find? m.entity with
      | some other => exact .inr ⟨(fun fits => nomatch fits.2), _, rfl⟩
      | none => exact .inl ⟨⟨rfl, rfl⟩, rfl⟩

theorem add_ok_iff {r : MappingRegistry} {m : EntityMapping} :
    (r.add m).1 = .ok () ↔
      m.WellFormed ∧ m.entity ∉ r.mappings.map EntityMapping.entity := by
  obtain ⟨fits, added⟩ | ⟨unfit, e, refused⟩ := add_cases r m
  · rw [added]
    exact iff_of_true rfl fits
  · rw [refused]
    exact iff_of_false (fun ok => nomatch ok) unfit

theorem add_of_ok {r : MappingRegistry} {m : EntityMapping} (ok : (r.add m).1 = .ok ()) :
    (r.add m).2 = ⟨r.mappings ++ [m]⟩ := by
  obtain ⟨-, added⟩ | ⟨-, e, refused⟩ := add_cases r m
  · rw [added]
  · rw [refused] at ok
    cases ok

theorem add_of_error {r : MappingRegistry} {m : EntityMapping} {e : MappingError}
    (error : (r.add m).1 = .error e) : (r.add m).2 = r := by
  obtain ⟨-, added⟩ | ⟨-, e, refused⟩ := add_cases r m
  · rw [added] at error
    cases error
  · rw [refused]

theorem register_eq (r : MappingRegistry) (m : EntityMapping) :
    r.register m = (r.add m).1.map fun _ => (r.add m).2 := rfl

/-- What registering a mapping takes, and what it does. -/
theorem register_iff {r r' : MappingRegistry} {m : EntityMapping} :
    r.register m = .ok r' ↔
      m.WellFormed ∧ m.entity ∉ r.mappings.map EntityMapping.entity ∧
        r' = ⟨r.mappings ++ [m]⟩ := by
  rw [← and_assoc, ← add_ok_iff, register_eq]
  cases answer : (r.add m).1 with
  | error e => simp [Except.map]
  | ok u => simp [Except.map, add_of_ok answer, eq_comm]

theorem foldlM_register_iff {mappings : List EntityMapping} {r r' : MappingRegistry} :
    mappings.foldlM register r = .ok r' ↔
      (∀ m ∈ mappings, m.WellFormed) ∧
        Fresh (r.mappings.map EntityMapping.entity) (mappings.map EntityMapping.entity) ∧
        r' = ⟨r.mappings ++ mappings⟩ := by
  induction mappings generalizing r with
  | nil =>
      rw [List.foldlM_nil, List.append_nil]
      simp [pure, Except.pure, fresh_nil, eq_comm]
  | cons m rest ih =>
      rw [List.foldlM_cons, List.forall_mem_cons, List.map_cons, fresh_cons]
      constructor
      · intro built
        cases registered : r.register m with
        | error e =>
            rw [registered] at built
            cases built
        | ok next =>
            rw [registered] at built
            obtain ⟨wellFormed, new, rfl⟩ := register_iff.1 registered
            obtain ⟨others, fresh, rfl⟩ := ih.1 built
            refine ⟨⟨wellFormed, others⟩, ⟨new, ?_⟩, by simp⟩
            simpa [Fresh, or_comm] using fresh
      · rintro ⟨⟨wellFormed, others⟩, ⟨new, fresh⟩, rfl⟩
        rw [register_iff.2 ⟨wellFormed, new, rfl⟩]
        refine ih.2 ⟨others, ?_, by simp⟩
        simpa [Fresh, or_comm] using fresh

/-- A list of mappings makes a registry exactly when they are sound, and then it holds them all. -/
theorem ofList_iff {mappings : List EntityMapping} {r : MappingRegistry} :
    ofList mappings = .ok r ↔ r.mappings = mappings ∧ r.Sound := by
  rw [ofList, foldlM_register_iff]
  constructor
  · rintro ⟨wellFormed, fresh, rfl⟩
    exact ⟨rfl, wellFormed, fresh.1⟩
  · rintro ⟨rfl, wellFormed, distinct⟩
    exact ⟨wellFormed, ⟨distinct, fun _ _ => List.not_mem_nil⟩, rfl⟩

variable {r : MappingRegistry}

theorem mem_of_find? {entity : String} {m : EntityMapping} (found : r.find? entity = some m) :
    m ∈ r.mappings ∧ m.entity = entity :=
  ⟨List.mem_of_find?_eq_some found, by simpa using List.find?_some found⟩

/-- A declared mapping is found under its entity. -/
theorem Sound.find? (sound : r.Sound) {m : EntityMapping} (mem : m ∈ r.mappings) :
    r.find? m.entity = some m := by
  cases found : r.find? m.entity with
  | none => exact absurd (List.mem_map_of_mem mem) (find?_eq_none_iff.1 found)
  | some first =>
      obtain ⟨first_mem, entity⟩ := mem_of_find? found
      rw [List.inj_on_of_nodup_map sound.entities_distinct first_mem mem entity]

end MappingRegistry

namespace MappingCache

variable {r : MappingRegistry} {c : MappingCache}

/-- What is kept for an entity is what a registry declares for it. -/
def Declared (c : MappingCache) (r : MappingRegistry) : Prop :=
  ∀ entity m, c.find? entity = some m → r.find? entity = some m

theorem declared_empty (r : MappingRegistry) : empty.Declared r :=
  fun _ _ kept => nomatch kept

/-- A sound registry is never refused. -/
theorem consult_source (sound : r.Sound) (asked : Nat) (entity : String) :
    consult r.source asked entity = r.resolve entity := by
  rw [consult, MappingRegistry.source, MappingRegistry.resolve]
  cases found : r.find? entity with
  | none => rfl
  | some m =>
      have valid := EntityMapping.validate_iff.2
        (sound.wellFormed m (MappingRegistry.mem_of_find? found).1)
      simp only [bind, Except.bind, valid]

/-- In front of a sound registry the cache answers as the registry does, and keeps what it declares. -/
theorem Declared.mappingFor (declared : c.Declared r) (sound : r.Sound) (entity : String) :
    (c.mappingFor r.source entity).1 = r.resolve entity ∧
      (c.mappingFor r.source entity).2.Declared r := by
  rw [MappingCache.mappingFor]
  cases kept : c.find? entity with
  | some m =>
      refine ⟨?_, declared⟩
      rw [MappingRegistry.resolve, declared entity m kept]
  | none =>
      rw [consult_source sound, MappingRegistry.resolve]
      cases found : r.find? entity with
      | none => exact ⟨rfl, declared⟩
      | some m =>
          refine ⟨rfl, fun other m' here => ?_⟩
          rw [find?, List.lookup_cons] at here
          by_cases same : other = entity
          · rw [same, found]
            simpa [same] using here
          · rw [beq_false_of_ne same] at here
            exact declared other m' here

end MappingCache

end Keyscan
