import Keyscan.Mapping.Basic

/-!
Where mappings come from: sources that may answer differently each time, the registry of mappings
declared up front, and the cache that asks a source once for each entity.
-/

set_option autoImplicit false

namespace Keyscan

/-- A source of mappings. Its answer may depend on how often it has been asked before. -/
abbrev MappingSource := Nat → String → Except MappingError EntityMapping

/-- Mappings declared up front, one for each entity. -/
structure MappingRegistry where
  mappings : List EntityMapping
  deriving DecidableEq, Repr

namespace MappingRegistry

def empty : MappingRegistry := ⟨[]⟩

def size (r : MappingRegistry) : Nat := r.mappings.length

def isEmpty (r : MappingRegistry) : Bool := r.mappings.isEmpty

/-- The mapping declared for an entity. -/
def find? (r : MappingRegistry) (entity : String) : Option EntityMapping :=
  r.mappings.find? (·.entity == entity)

/-- The mapping declared for an entity, which must be there. -/
def resolve (r : MappingRegistry) (entity : String) : Except MappingError EntityMapping :=
  match r.find? entity with
  | some m => .ok m
  | none => .error (.unknownEntity entity)

/-- Adds a mapping without a fault for an entity that has none yet: the answer, and the registry
afterwards. -/
def add (r : MappingRegistry) (m : EntityMapping) : Except MappingError Unit × MappingRegistry :=
  match m.validate with
  | .error e => (.error e, r)
  | .ok () =>
      if (r.find? m.entity).isSome then
        (.error (.invalid m.entity "entity is already mapped"), r)
      else (.ok (), ⟨r.mappings ++ [m]⟩)

/-- The registry with one mapping more. -/
def register (r : MappingRegistry) (m : EntityMapping) : Except MappingError MappingRegistry :=
  let (answer, r) := r.add m
  answer.map fun _ => r

/-- The registry of the mappings in a list. -/
def ofList (mappings : List EntityMapping) : Except MappingError MappingRegistry :=
  mappings.foldlM register empty

/-- The registry as a source, which always answers alike. -/
def source (r : MappingRegistry) : MappingSource := fun _ entity => r.resolve entity

end MappingRegistry

/-- What a source has answered: the valid mappings by the name asked for, and how often it was
asked. -/
structure MappingCache where
  resolved : List (String × EntityMapping)
  lookups : Nat
  deriving DecidableEq, Repr

namespace MappingCache

def empty : MappingCache := ⟨[], 0⟩

/-- The mapping that is kept for an entity. -/
def find? (c : MappingCache) (entity : String) : Option EntityMapping :=
  c.resolved.lookup entity

/-- The source's answer to one question, refused when the mapping has a fault. -/
def consult (source : MappingSource) (asked : Nat) (entity : String) :
    Except MappingError EntityMapping := do
  let m ← source asked entity
  m.validate
  .ok m

/-- The mapping for an entity, and the cache afterwards. The source is asked only while no valid
answer for the entity is kept. -/
def mappingFor (c : MappingCache) (source : MappingSource) (entity : String) :
    Except MappingError EntityMapping × MappingCache :=
  match c.find? entity with
  | some m => (.ok m, c)
  | none =>
      match consult source c.lookups entity with
      | .ok m => (.ok m, ⟨(entity, m) :: c.resolved, c.lookups + 1⟩)
      | .error e => (.error e, { c with lookups := c.lookups + 1 })

end MappingCache

end Keyscan
