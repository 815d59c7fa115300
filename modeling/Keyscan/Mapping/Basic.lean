import Keyscan.Scalar.Kind
import Keyscan.Text.Blank

/-!
Mappings: which table an entity is stored in, and which attribute each of its properties is read from
and as what kind. `EntityMapping.validate` finds the first fault of a declaration.
-/

set_option autoImplicit false

namespace Keyscan

/-- One mapped property. -/
structure PropertyMapping where
  name : String
  /-- The attribute when it is named differently from the property. -/
  explicitAttribute : Option String
  kind : ScalarKind
  /-- Whether an absent or null attribute is read as null. -/
  nullable : Bool
  deriving DecidableEq, Repr

/-- The attribute that a property is read from. -/
def PropertyMapping.attributeName (p : PropertyMapping) : String := p.explicitAttribute.getD p.name

/-- The mapping of an entity onto a table, with its properties in declaration order. -/
structure EntityMapping where
  entity : String
  table : String
  properties : List PropertyMapping
  deriving DecidableEq, Repr

/-- Why an entity has no usable mapping. -/
inductive MappingError where
  | unknownEntity (entity : String)
  | invalid (entity reason : String)
  deriving DecidableEq, Repr

namespace MappingError

/-- The stable code of an error. -/
def code : MappingError → String
  | .unknownEntity _ => "AERO_MAPPING_UNKNOWN_ENTITY"
  | .invalid _ _ => "AERO_MAPPING_INVALID"

/-- The entity that is concerned. -/
def entity : MappingError → String
  | .unknownEntity entity => entity
  | .invalid entity _ => entity

/-- What is wrong, without the code. -/
def message : MappingError → String
  | .unknownEntity entity => s!"No mapping declared for entity '{entity}'"
  | .invalid _ reason => reason

/-- The line that reports an error. -/
def display : MappingError → String
  | e@(.unknownEntity _) => s!"[REJECT] {e.code}: {e.message}"
  | e@(.invalid entity _) => s!"[REJECT] {e.code}: {e.message} [entity '{entity}']"

end MappingError

namespace EntityMapping

/-- The property with a name, the first of several. -/
def property? (m : EntityMapping) (name : String) : Option PropertyMapping :=
  m.properties.find? (·.name == name)

/-- Checks the properties in order against the names and attributes seen before. -/
def validateProperties (entity : String) :
    (names attributes : List String) → List PropertyMapping → Except MappingError Unit
  | _, _, [] => .ok ()
  | names, attributes, p :: rest =>
      if Text.isBlank p.name || Text.isBlank p.attributeName then
        .error (.invalid entity "property and attribute names must not be empty")
      else if p.name ∈ names then
        .error (.invalid entity s!"duplicate property '{p.name}'")
      else if p.attributeName ∈ attributes then
        .error (.invalid entity s!"duplicate attribute '{p.attributeName}'")
      else validateProperties entity (p.name :: names) (p.attributeName :: attributes) rest

/-- Checks a declaration: entity and table are named, there is a property, and every property and
attribute name is used once. -/
def validate (m : EntityMapping) : Except MappingError Unit :=
  if Text.isBlank m.entity then
    .error (.invalid "<unnamed>" "entity name must not be empty")
  else if Text.isBlank m.table then
    .error (.invalid m.entity "table name must not be empty")
  else if m.properties.isEmpty then
    .error (.invalid m.entity "mapping must declare at least one property")
  else validateProperties m.entity [] [] m.properties

/-- A declaration without a fault, said of all its properties at once. -/
structure WellFormed (m : EntityMapping) : Prop where
  entity_named : Text.isBlank m.entity = false
  table_named : Text.isBlank m.table = false
  has_property : m.properties ≠ []
  properties_named : ∀ p ∈ m.properties, Text.isBlank p.name = false
  attributes_named : ∀ p ∈ m.properties, Text.isBlank p.attributeName = false
  properties_distinct : (m.properties.map PropertyMapping.name).Nodup
  attributes_distinct : (m.properties.map PropertyMapping.attributeName).Nodup

end EntityMapping

end Keyscan
