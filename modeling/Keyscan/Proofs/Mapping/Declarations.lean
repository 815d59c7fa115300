import Keyscan.Proofs.Mapping.Registry

/-!
A registry as what it declares. A list of mappings makes one exactly when they are well formed and no
two are of the same entity. It then answers for each entity with the mapping of the list, in whatever
order they came.

Mappings that come one at a time may be refused. A refusal leaves the registry as it was, so that after
any number of them it is the one that the accepted mappings make (`foldlM_accepted`).
-/

set_option autoImplicit false

namespace Keyscan.MappingRegistry

/-- A registry answers for the entities of a list and no others, each with its mapping there. -/
structure Declares (r : MappingRegistry) (mappings : List EntityMapping) : Prop where
  size : r.size = mappings.length
  declared : ∀ m ∈ mappings, r.resolve m.entity = .ok m
  unknown : ∀ entity, entity ∉ mappings.map EntityMapping.entity →
    r.resolve entity = .error (.unknownEntity entity)

section

variable {r r' : MappingRegistry} {mappings other : List EntityMapping}

/-- The order of the mappings says nothing. -/
theorem Declares.perm (declares : r.Declares mappings) (reordered : other.Perm mappings) :
    r.Declares other where
  size := declares.size.trans reordered.length_eq.symm
  declared m mem := declares.declared m (reordered.subset mem)
  unknown entity absent :=
    declares.unknown entity fun mem => absent ((reordered.map _).symm.subset mem)

/-- Registries that declare the same answer alike. -/
theorem Declares.resolve_eq (declares : r.Declares mappings) (too : r'.Declares mappings)
    (entity : String) : r.resolve entity = r'.resolve entity := by
  by_cases mem : entity ∈ mappings.map EntityMapping.entity
  · obtain ⟨m, declared, rfl⟩ := List.mem_map.1 mem
    rw [declares.declared m declared, too.declared m declared]
  · rw [declares.unknown entity mem, too.unknown entity mem]

/-- A sound registry declares what it holds. -/
theorem Sound.declares (sound : r.Sound) : r.Declares r.mappings where
  size := rfl
  declared m mem := by rw [resolve, sound.find? mem]
  unknown entity absent := by rw [resolve, find?_eq_none_iff.2 absent]

theorem declares_of_ofList (built : ofList mappings = .ok r) : r.Declares mappings := by
  obtain ⟨rfl, sound⟩ := ofList_iff.1 built
  exact sound.declares

/-- The lists that make a registry. -/
theorem exists_ofList_iff :
    (∃ r, ofList mappings = .ok r) ↔
      (mappings.map EntityMapping.entity).Nodup ∧ ∀ m ∈ mappings, m.WellFormed := by
  constructor
  · rintro ⟨r, built⟩
    obtain ⟨rfl, sound⟩ := ofList_iff.1 built
    exact ⟨sound.entities_distinct, sound.wellFormed⟩
  · rintro ⟨distinct, wellFormed⟩
    exact ⟨⟨mappings⟩, ofList_iff.2 ⟨rfl, wellFormed, distinct⟩⟩

/-- A reordered list makes a registry too, which answers alike. -/
theorem exists_ofList_of_perm (built : ofList mappings = .ok r) (reordered : other.Perm mappings) :
    ∃ r', ofList other = .ok r' ∧ ∀ entity, r'.resolve entity = r.resolve entity := by
  obtain ⟨distinct, wellFormed⟩ := exists_ofList_iff.1 ⟨r, built⟩
  obtain ⟨r', rebuilt⟩ : ∃ r', ofList other = .ok r' :=
    exists_ofList_iff.2
      ⟨(reordered.map _).nodup_iff.2 distinct, fun m mem => wellFormed m (reordered.subset mem)⟩
  exact ⟨r', rebuilt,
    (declares_of_ofList rebuilt).resolve_eq ((declares_of_ofList built).perm reordered)⟩

end

/-! ### One mapping at a time -/

/-- Mappings that were offered to a registry, with its answers. -/
abbrev Offers := List (EntityMapping × Except MappingError Unit)

/-- The mappings that were accepted. -/
def Offers.accepted (offers : Offers) : List EntityMapping :=
  (offers.filter (·.2.isOk)).map Prod.fst

/-- Adds mappings one after the other, whatever becomes of each. -/
def addAll : List EntityMapping → MappingRegistry → Offers × MappingRegistry
  | [], r => ([], r)
  | m :: more, r =>
      let (answer, r) := r.add m
      let (offers, r) := addAll more r
      ((m, answer) :: offers, r)

theorem addAll_cons (m : EntityMapping) (more : List EntityMapping) (r : MappingRegistry) :
    addAll (m :: more) r =
      ((m, (r.add m).1) :: (addAll more (r.add m).2).1, (addAll more (r.add m).2).2) := rfl

theorem register_of_ok {r : MappingRegistry} {m : EntityMapping} (added : (r.add m).1 = .ok ()) :
    r.register m = .ok (r.add m).2 := by
  rw [register_eq, added]
  rfl

/-- The accepted mappings alone make the same registry. -/
theorem foldlM_accepted (mappings : List EntityMapping) (r : MappingRegistry) :
    (addAll mappings r).1.accepted.foldlM register r = .ok (addAll mappings r).2 := by
  induction mappings generalizing r with
  | nil => rfl
  | cons m more ih =>
      rw [addAll_cons]
      cases answer : (r.add m).1 with
      | ok u =>
          have first : Offers.accepted ((m, .ok u) :: (addAll more (r.add m).2).1) =
              m :: (addAll more (r.add m).2).1.accepted := rfl
          rw [first, List.foldlM_cons, register_of_ok answer]
          exact ih (r.add m).2
      | error e =>
          have refused : Offers.accepted ((m, .error e) :: (addAll more (r.add m).2).1) =
              (addAll more (r.add m).2).1.accepted := rfl
          rw [refused, add_of_error answer]
          exact ih r

/-- What becomes of a list of mappings, together and one at a time. -/
structure Lawful (mappings : List EntityMapping) : Prop where
  /-- Together they make a registry when nothing is wrong with any of them and their entities differ,
  and only then. -/
  accepted : (∃ r, ofList mappings = .ok r) ↔
    (mappings.map EntityMapping.entity).Nodup ∧ ∀ m ∈ mappings, m.WellFormed
  /-- The registry answers with them. -/
  declares : ∀ r, ofList mappings = .ok r → r.Declares mappings
  /-- In any other order they make one that answers alike. -/
  reordered : ∀ r, ofList mappings = .ok r → ∀ other, other.Perm mappings →
    ∃ r', ofList other = .ok r' ∧ ∀ entity, r'.resolve entity = r.resolve entity
  /-- After them, a further mapping that is refused changes no answer. -/
  refused : ∀ m e, ((addAll mappings empty).2.add m).1 = .error e →
    ((addAll mappings empty).2.add m).2.size = (addAll mappings empty).2.size ∧
      ∀ entity, ((addAll mappings empty).2.add m).2.resolve entity =
        (addAll mappings empty).2.resolve entity
  /-- It is refused for a fault, or because its entity is taken. -/
  refused_iff : ∀ m, (∃ e, ((addAll mappings empty).2.add m).1 = .error e) ↔
    ¬ m.WellFormed ∨ ∃ taken ∈ (addAll mappings empty).1.accepted, taken.entity = m.entity
  /-- What was accepted is all that counts. -/
  registers : ofList (addAll mappings empty).1.accepted = .ok (addAll mappings empty).2

/-- Declaring mappings is lawful, whatever they are. -/
theorem ofList_lawful (mappings : List EntityMapping) : Lawful mappings := by
  have registers : ofList (addAll mappings empty).1.accepted = .ok (addAll mappings empty).2 :=
    foldlM_accepted mappings empty
  refine
    { accepted := exists_ofList_iff
      declares := fun r built => declares_of_ofList built
      reordered := fun r built other perm => exists_ofList_of_perm built perm
      refused := fun m e refused => ?_
      refused_iff := fun m => ?_
      registers }
  · rw [add_of_error refused]
    exact ⟨rfl, fun _ => rfl⟩
  · obtain ⟨held, -⟩ := ofList_iff.1 registers
    have answers : (∃ e, ((addAll mappings empty).2.add m).1 = .error e) ↔
        ¬ ((addAll mappings empty).2.add m).1 = .ok () := by
      cases ((addAll mappings empty).2.add m).1 <;> simp
    rw [answers, add_ok_iff, held, Classical.not_and_iff_not_or_not, Classical.not_not,
      List.mem_map]

end Keyscan.MappingRegistry
