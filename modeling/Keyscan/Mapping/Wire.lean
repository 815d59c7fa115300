import Keyscan.Mapping.Basic

/-!
The JSON form of mappings. An attribute named like its property may be left out, and is left out when
it was not given; whether a property is nullable may be left out too, but is always written.
-/

set_option autoImplicit false

namespace Keyscan

namespace PropertyMapping

def toJson (p : PropertyMapping) : Json :=
  .object
    (("name", .string p.name) ::
      (p.explicitAttribute.elim [] fun a => [("attribute", .string a)]) ++
        [("kind", p.kind.toJson), ("nullable", .bool p.nullable)])

def fields (origin : JsonOrigin) : List Json.Field :=
  [.of "name" true Json.asString, .of "attribute" false (Json.asOptional Json.asString),
    .of "kind" true (ScalarKind.decode origin), .of "nullable" false Json.asBool]

def decode (origin : JsonOrigin) (j : Json) : Except DecodeError PropertyMapping := do
  let members ← Json.fieldsOf origin "PropertyMapping" (fields origin) j
  let name ← Json.requiredField Json.asString "name" members
  let explicitAttribute ← Json.fieldOr (Json.asOptional Json.asString) none "attribute" members
  let kind ← Json.requiredField (ScalarKind.decode origin) "kind" members
  let nullable ← Json.fieldOr Json.asBool false "nullable" members
  .ok { name, explicitAttribute, kind, nullable }

/-- The part of a value that decoding looks at. -/
def shape : Json.Shape := .ofFields (fields .text)

end PropertyMapping

namespace EntityMapping

def toJson (m : EntityMapping) : Json :=
  .object
    [("entity", .string m.entity), ("table", .string m.table),
      ("properties", .array (m.properties.map PropertyMapping.toJson))]

/-- The compact text of the JSON form. -/
def wire (m : EntityMapping) : String := m.toJson.print

def fields (origin : JsonOrigin) : List Json.Field :=
  [.of "entity" true Json.asString, .of "table" true Json.asString,
    .shaped "properties" true (.list PropertyMapping.shape)
      (Json.asList (PropertyMapping.decode origin))]

def decode (origin : JsonOrigin) (j : Json) : Except DecodeError EntityMapping := do
  let members ← Json.fieldsOf origin "EntityMapping" (fields origin) j
  let entity ← Json.requiredField Json.asString "entity" members
  let table ← Json.requiredField Json.asString "table" members
  let properties ←
    Json.requiredField (Json.asList (PropertyMapping.decode origin)) "properties" members
  .ok { entity, table, properties }

/-- The part of a value that decoding looks at. -/
def shape : Json.Shape := .ofFields (fields .text)

end EntityMapping

end Keyscan
