import Keyscan.Config
import Keyscan.Proofs.Mapping.Wire

/-!
Configurations read back from their text. What the writer leaves out is what the reader fills in, and
validation looks at the configuration only, so the text of a configuration is accepted exactly when
the configuration is valid, and is refused for the same reason as the configuration otherwise
(`ofText_wire`).
-/

set_option autoImplicit false

namespace Keyscan

open Json (decode_step fieldsOf_written check_shaped)

/-! ### Numbers of fixed width -/

namespace Json

@[simp] theorem asUInt32_nat (n : UInt32) : asUInt32 (.nat n.toNat) = .ok n := by
  rw [asUInt32, asNatural_nat n.toNat_lt]
  exact congrArg Except.ok UInt32.ofNat_toNat

@[simp] theorem asUInt64_nat (n : UInt64) : asUInt64 (.nat n.toNat) = .ok n := by
  rw [asUInt64, asNatural_nat n.toNat_lt]
  exact congrArg Except.ok UInt64.ofNat_toNat

theorem exact_uint32 (n : UInt32) : (nat n.toNat).Exact :=
  exact_nat (Nat.lt_trans n.toNat_lt (by decide))

theorem exact_uint64 (n : UInt64) : (nat n.toNat).Exact := exact_nat n.toNat_lt

end Json

namespace RetryConfig

/-- Retries and delays are read back, over their whole ranges. -/
theorem decode_toJson (r : RetryConfig) : decode r.toJson = .ok r := by
  have distinct : ["max_retries", "base_delay_ms", "max_delay_ms"].Nodup := by decide
  have retries := Json.asUInt32_nat r.maxRetries
  have base := Json.asUInt64_nat r.baseDelay
  have most := Json.asUInt64_nat r.maxDelay
  unfold decode
  refine decode_step (fieldsOf_written distinct (.field (check_shaped retries)
    (.field (check_shaped base) (.field (check_shaped most) .nil)))) ?_
  exact decode_step retries (decode_step base (decode_step most rfl))

theorem exact_toJson (r : RetryConfig) : r.toJson.Exact :=
  ⟨Json.exact_uint32 _, Json.exact_uint64 _, Json.exact_uint64 _, trivial⟩

end RetryConfig

namespace ProviderConfig

variable {c : ProviderConfig}

/-- A page size is read back, and so is its absence. -/
theorem asOptional_pageSize (size : Option UInt32) :
    Json.asOptional Json.asUInt32 (size.elim .null fun n => .nat n.toNat) = .ok size := by
  cases size with
  | none => rfl
  | some n =>
      change (Json.asUInt32 (.nat n.toNat)).map some = _
      rw [Json.asUInt32_nat]
      rfl

/-- A configuration is read back from its JSON form. -/
theorem decode_toJson (c : ProviderConfig) : decode c.toJson = .ok c := by
  have distinct :
      ["default_page_size", "auto_paginate", "retry", "log_diagnostics", "mappings"].Nodup := by
    decide
  have size := asOptional_pageSize c.defaultPageSize
  have retry := c.retry.decode_toJson
  have mappings := Json.asList_array (EntityMapping.decode_toJson .text) c.mappings
  unfold decode
  refine decode_step (fieldsOf_written distinct (.field (check_shaped size) (.field rfl
    (.field (check_shaped retry) (.field rfl (.field (check_shaped mappings) .nil)))))) ?_
  exact decode_step size (decode_step rfl (decode_step retry (decode_step rfl
    (decode_step mappings rfl))))

theorem exact_toJson (c : ProviderConfig) : c.toJson.Exact := by
  have size : (c.defaultPageSize.elim Json.null fun n => .nat n.toNat).Exact := by
    cases c.defaultPageSize with
    | none => trivial
    | some n => exact Json.exact_uint32 n
  exact ⟨size, trivial, c.retry.exact_toJson, trivial,
    Json.exact_array EntityMapping.exact_toJson c.mappings, trivial⟩

theorem depth_toJson (c : ProviderConfig) : c.toJson.depth ≤ Json.depthLimit := by
  have size : (c.defaultPageSize.elim Json.null fun n => .nat n.toNat).depth = 0 := by
    cases c.defaultPageSize <;> rfl
  have retry : c.retry.toJson.depth = 1 := rfl
  have mappings := Json.depth_array EntityMapping.depth_toJson c.mappings
  have limit : 5 ≤ Json.depthLimit := by decide
  simp only [toJson, Json.depth, Json.depthMembers] at size retry mappings ⊢
  omega

/-- The text of a configuration is read as the configuration, valid or not. -/
theorem read_wire (c : ProviderConfig) : read c.wire = .ok c := by
  rw [read, wire, Json.read?_print c.exact_toJson, if_pos c.depth_toJson]
  simp only [decode_toJson]
  rfl

/-- The text of a configuration is accepted or refused as the configuration is. -/
theorem ofText_wire (c : ProviderConfig) : ofText c.wire = c.validate.map fun _ => c := by
  rw [ofText, read_wire]
  cases valid : c.validate <;> simp [bind, Except.bind, Except.map, valid]

/-- Different configurations have different texts. -/
theorem wire_inj {other : ProviderConfig} (same : other.wire = c.wire) : other = c := by
  have read := read_wire other
  rw [same, read_wire] at read
  exact (Except.ok.inj read).symm

/-- A valid configuration is read back from its text with every field as it was, so the text of what
is read is the same again. No other configuration has that text. -/
theorem ofText_wire_of_valid (valid : c.validate = .ok ()) :
    (∃ back, ofText c.wire = .ok back ∧
      back.defaultPageSize = c.defaultPageSize ∧ back.autoPaginate = c.autoPaginate ∧
      back.retry = c.retry ∧ back.logDiagnostics = c.logDiagnostics ∧
      back.mappings = c.mappings ∧ back.wire = c.wire) ∧
    ∀ other : ProviderConfig, other.wire = c.wire → other = c := by
  refine ⟨⟨c, ?_, rfl, rfl, rfl, rfl, rfl, rfl⟩, fun _ same => wire_inj same⟩
  rw [ofText_wire, valid]
  rfl

/-- The greatest numbers there are, and attributes that are given, one of them in vain, or not. -/
def widest : ProviderConfig where
  defaultPageSize := some 4294967295
  autoPaginate := false
  retry := ⟨4294967295, 18446744073709551615, 18446744073709551615⟩
  logDiagnostics := false
  mappings :=
    [⟨"Person", "people \"2\"\n",
        [⟨"Id", none, .uuid, false⟩, ⟨"Age", some "Age", .integer .int, true⟩]⟩,
      ⟨"Order", "people \"2\"\n", [⟨"Id", some "pk\\", .dateTimeOffset, true⟩]⟩]

/-- They are all read back. -/
theorem ofText_wire_widest :
    widest.validate = .ok () ∧
      (∃ back, ofText widest.wire = .ok back ∧
        back.defaultPageSize = some 4294967295 ∧ back.autoPaginate = false ∧
        back.retry = ⟨4294967295, 18446744073709551615, 18446744073709551615⟩ ∧
        back.logDiagnostics = false ∧ back.mappings = widest.mappings ∧
        back.wire = widest.wire) ∧
      ∀ other : ProviderConfig, other.wire = widest.wire → other = widest := by
  have valid : widest.validate = .ok () := by decide +kernel
  exact ⟨valid, ofText_wire_of_valid valid⟩

end ProviderConfig

end Keyscan
