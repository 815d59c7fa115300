import Keyscan.Mapping.Wire
import Keyscan.Proofs.Json.Structures

/-!
Mappings read back from their JSON form, straight from text or from a tree. An attribute that is left
out was not given, so the reader's default is what the writer meant.
-/

set_option autoImplicit false

namespace Keyscan

open Json (decode_step fieldsOf_written check_shaped)

/-- A kind is read back from its name. -/
theorem ScalarKind.decode_toJson (origin : JsonOrigin) (k : ScalarKind) :
    decode origin k.toJson = .ok k := by
  have named : ofName? k.name = some k := by
    cases k with
    | integer k => cases k <;> rfl
    | real f => cases f <;> rfl
    | _ => rfl
  rw [toJson, decode, decodeName, named]

namespace PropertyMapping

/-- A property is read back from its JSON form, with or without an attribute. -/
theorem decode_toJson (origin : JsonOrigin) (p : PropertyMapping) :
    decode origin p.toJson = .ok p := by
  obtain ⟨name, explicit, kind, nullable⟩ := p
  have kindRead := ScalarKind.decode_toJson origin kind
  have distinct : ["name", "attribute", "kind", "nullable"].Nodup := by decide
  unfold decode
  cases explicit with
  | none =>
      refine decode_step (fieldsOf_written distinct (.field rfl (.leftOut
        (.field (check_shaped kindRead) (.field rfl .nil))))) ?_
      exact decode_step rfl (decode_step rfl (decode_step kindRead (decode_step rfl rfl)))
  | some a =>
      refine decode_step (fieldsOf_written distinct (.field rfl (.field rfl
        (.field (check_shaped kindRead) (.field rfl .nil))))) ?_
      exact decode_step rfl (decode_step rfl (decode_step kindRead (decode_step rfl rfl)))

theorem exact_toJson (p : PropertyMapping) : p.toJson.Exact := by
  obtain ⟨name, explicit, kind, nullable⟩ := p
  cases explicit with
  | none => exact ⟨trivial, trivial, trivial, trivial⟩
  | some a => exact ⟨trivial, trivial, trivial, trivial, trivial⟩

theorem depth_toJson (p : PropertyMapping) : p.toJson.depth ≤ 1 := by
  obtain ⟨name, explicit, kind, nullable⟩ := p
  cases explicit <;> exact Nat.le_refl 1

end PropertyMapping

namespace EntityMapping

/-- A mapping is read back from its JSON form, its properties in order. -/
theorem decode_toJson (origin : JsonOrigin) (m : EntityMapping) :
    decode origin m.toJson = .ok m := by
  have distinct : ["entity", "table", "properties"].Nodup := by decide
  have properties := Json.asList_array (PropertyMapping.decode_toJson origin) m.properties
  unfold decode
  refine decode_step (fieldsOf_written distinct (.field rfl (.field rfl
    (.field (check_shaped properties) .nil)))) ?_
  exact decode_step rfl (decode_step rfl (decode_step properties rfl))

theorem exact_toJson (m : EntityMapping) : m.toJson.Exact :=
  ⟨trivial, trivial, Json.exact_array PropertyMapping.exact_toJson m.properties, trivial⟩

theorem depth_toJson (m : EntityMapping) : m.toJson.depth ≤ 3 := by
  have properties := Json.depth_array PropertyMapping.depth_toJson m.properties
  simp only [toJson, Json.depth, Json.depthMembers] at properties ⊢
  omega

end EntityMapping

end Keyscan
