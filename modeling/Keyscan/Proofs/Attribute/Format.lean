import Keyscan.Proofs.Attribute.Wire
import Keyscan.Proofs.Json.Trees

/-!
The format of attribute values. `Tagged` describes the JSON values that are decoded, by the seven tags
and without the decoder. What is decoded is well formed, and its wire form is the JSON value that it
was decoded from, in key order and with `{"NULL": true}` for `{"NULL": false}`. So two JSON values are
decoded alike only when they differ in no more than that.
-/

set_option autoImplicit false

namespace Keyscan

namespace Json

/-! ### Null payloads -/

/-- Whether the members are those of `{"NULL": false}`. -/
def isFalseNull : List (String × Json) → Bool
  | [(key, .bool false)] => key == "NULL"
  | _ => false

mutual

/-- The value with `{"NULL": true}` in place of every `{"NULL": false}`. -/
def nullsTrue : Json → Json
  | .array items => .array (nullsTrueItems items)
  | .object members =>
      if isFalseNull members then .object [("NULL", .bool true)]
      else .object (nullsTrueMembers members)
  | j => j

def nullsTrueItems : List Json → List Json
  | [] => []
  | x :: rest => nullsTrue x :: nullsTrueItems rest

def nullsTrueMembers : List (String × Json) → List (String × Json)
  | [] => []
  | (k, x) :: rest => (k, nullsTrue x) :: nullsTrueMembers rest

end

theorem nullsTrueMembers_eq (members : List (String × Json)) :
    nullsTrueMembers members = members.map fun p => (p.1, nullsTrue p.2) := by
  induction members with
  | nil => rfl
  | cons p rest ih => rw [nullsTrueMembers, ih, List.map_cons]

/-- Members none of which is a boolean are not those of `{"NULL": false}`. -/
theorem nullsTrue_object {members : List (String × Json)}
    (plain : ∀ p ∈ members, ∀ b, p.2 ≠ .bool b) :
    nullsTrue (.object members) = .object (nullsTrueMembers members) := by
  have other : isFalseNull members = false := by
    rw [isFalseNull]
    rintro key rfl
    exact plain _ List.mem_cons_self false rfl
  rw [nullsTrue, if_neg (by simp [other])]

end Json

namespace Attribute

/-! ### The format -/

/-- The JSON values that are attribute values: objects with exactly one member, whose key is a tag and
whose value a payload for it. -/
inductive Tagged : Json → Prop
  | string (s : String) : Tagged (.object [("S", .string s)])
  /-- The text of a number is not white space only. -/
  | number {text : String} (some_text : ∃ c ∈ text.toList, Text.isBlankChar c = false) :
      Tagged (.object [("N", .string text)])
  | bool (b : Bool) : Tagged (.object [("BOOL", .bool b)])
  /-- A null value may be written with either boolean. -/
  | null (b : Bool) : Tagged (.object [("NULL", .bool b)])
  | binary {text : String} (canonical : Text.Base64.Canonical text.toList) :
      Tagged (.object [("B", .string text)])
  | list {items : List Json} (tagged : ∀ x ∈ items, Tagged x) : Tagged (.object [("L", .array items)])
  | map {members : List (String × Json)} (tagged : ∀ p ∈ members, Tagged p.2) :
      Tagged (.object [("M", .object members)])

/-- A text is not blank when it has a character that is no white space. -/
theorem isBlank_eq_false_iff {text : String} :
    Text.isBlank text = false ↔ ∃ c ∈ text.toList, Text.isBlankChar c = false := by
  rw [Text.isBlank, List.all_eq_false]
  simp only [Bool.not_eq_true]

/-! ### Items and entries -/

/-- Items are decoded one after the other. -/
theorem decodeItems_cons_ok {x : Json} {rest : List Json} {items : List Attribute} :
    decodeItems (x :: rest) = .ok items ↔
      ∃ a more, decode x = .ok a ∧ decodeItems rest = .ok more ∧ items = a :: more := by
  rw [decodeItems]
  cases decode x with
  | error e => simp [bind, Except.bind]
  | ok a => cases decodeItems rest <;> simp [bind, Except.bind, eq_comm]

/-- Entries are decoded one after the other. -/
theorem decodeEntries_cons_ok {k : String} {x : Json} {rest : List (String × Json)}
    {entries : List (String × Attribute)} :
    decodeEntries ((k, x) :: rest) = .ok entries ↔
      ∃ a more, decode x = .ok a ∧ decodeEntries rest = .ok more ∧ entries = (k, a) :: more := by
  rw [decodeEntries]
  cases decode x with
  | error e => simp [bind, Except.bind]
  | ok a => cases decodeEntries rest <;> simp [bind, Except.bind, eq_comm]

/-! ### Acceptance -/

mutual

/-- What is decoded has the format. -/
theorem tagged_of_decode : (j : Json) → (a : Attribute) → decode j = .ok a → Tagged j
  | .object [(tag, .array items)], a, read => by
      obtain ⟨_, _, ⟨⟩, reads⟩ := decode_ok_iff.1 read
      cases reads with
      | list decoded => exact .list (tagged_of_decodeItems items _ decoded)
  | .object [(tag, .object members)], a, read => by
      obtain ⟨_, _, ⟨⟩, reads⟩ := decode_ok_iff.1 read
      cases reads with
      | map decoded => exact .map (tagged_of_decodeEntries members _ decoded)
  | .object [(tag, .string s)], a, read => by
      obtain ⟨_, _, ⟨⟩, reads⟩ := decode_ok_iff.1 read
      cases reads with
      | string => exact .string s
      | number some_text => exact .number (isBlank_eq_false_iff.1 some_text)
      | binary bytes => exact .binary (Text.Base64.canonical_encode bytes)
  | .object [(tag, .bool b)], a, read => by
      obtain ⟨_, _, ⟨⟩, reads⟩ := decode_ok_iff.1 read
      cases reads with
      | bool => exact .bool b
      | null => exact .null b
  | .object [(tag, .null)], a, read | .object [(tag, .number _)], a, read => by
      obtain ⟨_, _, ⟨⟩, reads⟩ := decode_ok_iff.1 read
      cases reads
  | .object [], a, read | .object (_ :: _ :: _), a, read | .null, a, read | .bool _, a, read
  | .number _, a, read | .string _, a, read | .array _, a, read => by
      obtain ⟨_, _, ⟨⟩, -⟩ := decode_ok_iff.1 read

theorem tagged_of_decodeItems : (payload : List Json) → (items : List Attribute) →
    decodeItems payload = .ok items → ∀ x ∈ payload, Tagged x
  | [], _, _ => nofun
  | x :: rest, items, read => by
      obtain ⟨a, more, own, others, -⟩ := decodeItems_cons_ok.1 read
      exact List.forall_mem_cons.2
        ⟨tagged_of_decode x a own, tagged_of_decodeItems rest more others⟩

theorem tagged_of_decodeEntries : (payload : List (String × Json)) →
    (entries : List (String × Attribute)) → decodeEntries payload = .ok entries →
    ∀ p ∈ payload, Tagged p.2
  | [], _, _ => nofun
  | (k, x) :: rest, entries, read => by
      obtain ⟨a, more, own, others, -⟩ := decodeEntries_cons_ok.1 read
      exact List.forall_mem_cons.2
        ⟨tagged_of_decode x a own, tagged_of_decodeEntries rest more others⟩

end

/-! ### What decoding keeps -/

/-- A value decoded as `a` from `j` is well formed, and its wire form is `j` as a tree with every null
payload true. -/
def Restores (j : Json) (a : Attribute) : Prop :=
  a.WellFormed ∧ a.toJson = j.canonical.nullsTrue

theorem wellFormedEntries_iff {entries : List (String × Attribute)} :
    WellFormedEntries entries ↔ ∀ p ∈ entries, p.2.WellFormed := by
  induction entries with
  | nil => exact iff_of_true trivial nofun
  | cons p rest ih => rw [WellFormedEntries, ih, List.forall_mem_cons]

theorem entriesToJson_eq (entries : List (String × Attribute)) :
    entriesToJson entries = entries.map fun p => (p.1, p.2.toJson) := by
  induction entries with
  | nil => rfl
  | cons p rest ih => rw [entriesToJson, ih, List.map_cons]

/-- Items that are restored one by one are restored together. -/
theorem exists_decodeItems {payload : List Json}
    (each : ∀ x ∈ payload, ∃ a, decode x = .ok a ∧ Restores x a) :
    ∃ items, decodeItems payload = .ok items ∧ WellFormedItems items ∧
      itemsToJson items = Json.nullsTrueItems (Json.canonicalItems payload) := by
  induction payload with
  | nil => exact ⟨[], rfl, trivial, rfl⟩
  | cons x rest ih =>
      rw [List.forall_mem_cons] at each
      obtain ⟨⟨a, own, wellFormed, restored⟩, others⟩ := each
      obtain ⟨more, decoded, wellFormed', restored'⟩ := ih others
      refine ⟨a :: more, decodeItems_cons_ok.2 ⟨a, more, own, decoded, rfl⟩,
        ⟨wellFormed, wellFormed'⟩, ?_⟩
      rw [itemsToJson, restored, restored', Json.canonicalItems, Json.nullsTrueItems]

/-- Entries that are restored one by one are restored together, still in their order. -/
theorem exists_decodeEntries {payload : List (String × Json)}
    (each : ∀ p ∈ payload, ∃ a, decode p.2 = .ok a ∧ Restores p.2 a) :
    ∃ entries, decodeEntries payload = .ok entries ∧ (∀ p ∈ entries, p.2.WellFormed) ∧
      (entries.map fun p => (p.1, p.2.toJson)) =
        payload.map fun p => (p.1, p.2.canonical.nullsTrue) := by
  induction payload with
  | nil => exact ⟨[], rfl, nofun, rfl⟩
  | cons p rest ih =>
      rw [List.forall_mem_cons] at each
      obtain ⟨⟨a, own, wellFormed, restored⟩, others⟩ := each
      obtain ⟨more, decoded, wellFormed', restored'⟩ := ih others
      refine ⟨(p.1, a) :: more, decodeEntries_cons_ok.2 ⟨a, more, own, decoded, rfl⟩,
        List.forall_mem_cons.2 ⟨wellFormed, wellFormed'⟩, ?_⟩
      rw [List.map_cons, List.map_cons, restored, restored']

/-- The canonical form of a value of the format is an object. -/
theorem Tagged.canonical_ne_bool {j : Json} (tagged : Tagged j) (b : Bool) : j.canonical ≠ .bool b := by
  cases tagged <;> exact nofun

/-- The members of a map's payload, as a tree with every null payload true. -/
theorem nullsTrue_canonical_object {payload : List (String × Json)}
    (tagged : ∀ p ∈ payload, Tagged p.2) :
    (Json.object payload).canonical.nullsTrue =
      .object (Json.nullsTrueMembers (Json.canonicalMembers payload)) := by
  rw [Json.canonical, Json.nullsTrue_object]
  intro p mem b
  rw [Json.canonicalMembers_eq] at mem
  obtain ⟨source, given, rfl⟩ := List.mem_map.1 (Entries.mem_of_mem_ofList mem)
  exact (tagged source given).canonical_ne_bool b

/-- What has the format is decoded and restored. -/
theorem Tagged.exists_decode {j : Json} (tagged : Tagged j) :
    ∃ a, decode j = .ok a ∧ Restores j a := by
  induction tagged with
  | string s => exact ⟨_, decode_ok_iff.2 ⟨"S", _, rfl, .string s⟩, trivial, rfl⟩
  | number some_text =>
      have not_blank := isBlank_eq_false_iff.2 some_text
      exact ⟨_, decode_ok_iff.2 ⟨"N", _, rfl, .number not_blank⟩, not_blank, rfl⟩
  | bool b =>
      refine ⟨_, decode_ok_iff.2 ⟨"BOOL", _, rfl, .bool b⟩, trivial, ?_⟩
      cases b <;> rfl
  | null b =>
      refine ⟨_, decode_ok_iff.2 ⟨"NULL", _, rfl, .null b⟩, trivial, ?_⟩
      cases b <;> rfl
  | binary canonical =>
      obtain ⟨bytes, decoded⟩ := Text.Base64.canonical_iff.1 canonical
      rw [Text.Base64.decode_ok_iff.1 decoded]
      exact ⟨_, decode_ok_iff.2 ⟨"B", _, rfl, .binary bytes⟩, trivial, rfl⟩
  | list _ ih =>
      obtain ⟨items, decoded, wellFormed, restored⟩ := exists_decodeItems ih
      refine ⟨_, decode_ok_iff.2 ⟨"L", _, rfl, .list decoded⟩, wellFormed, ?_⟩
      rw [toJson, restored]
      rfl
  | @map payload tagged ih =>
      obtain ⟨entries, decoded, wellFormed, restored⟩ := exists_decodeEntries ih
      refine ⟨_, decode_ok_iff.2 ⟨"M", _, rfl, .map decoded⟩, ⟨Entries.sorted_ofList entries, ?_⟩, ?_⟩
      · exact wellFormedEntries_iff.2 fun p mem => wellFormed p (Entries.mem_of_mem_ofList mem)
      · have own : (Json.object [("M", .object payload)]).canonical.nullsTrue =
            .object [("M", (Json.object payload).canonical.nullsTrue)] := rfl
        rw [toJson, own, nullsTrue_canonical_object tagged, entriesToJson_eq, Entries.map_ofList,
          restored, Json.canonicalMembers_eq, Json.nullsTrueMembers_eq, Entries.map_ofList,
          List.map_map]
        rfl

/-- What is decoded restores what it was decoded from. -/
theorem restores_of_decode {j : Json} {a : Attribute} (read : decode j = .ok a) : Restores j a := by
  obtain ⟨a', read', restores⟩ := (tagged_of_decode j a read).exists_decode
  cases read.symm.trans read'
  exact restores

/-- Well-formed values with one wire form are one value. -/
theorem WellFormed.eq_of_toJson {a b : Attribute} (a_ok : a.WellFormed) (b_ok : b.WellFormed)
    (same : a.toJson = b.toJson) : a = b := by
  have read := decode_toJson a a_ok
  rw [same, decode_toJson b b_ok] at read
  exact (Except.ok.inj read).symm

/-- The decoder accepts exactly the JSON values of the format. The wire form of what it returns is the
value that was decoded, as a tree with every null payload true: so, for a value that is a tree, the
value itself but for the null payloads. Hence another value of the format is decoded alike exactly
when it is the same tree up to the null payloads. -/
theorem decode_iff_tagged (j : Json) :
    ((∃ a, decode j = .ok a) ↔ Tagged j) ∧
    ∀ a, decode j = .ok a →
      a.toJson = j.canonical.nullsTrue ∧ (j.Ordered → a.toJson = j.nullsTrue) ∧
      ∀ j', decode j' = .ok a ↔ Tagged j' ∧ j'.canonical.nullsTrue = j.canonical.nullsTrue := by
  refine ⟨⟨fun ⟨a, read⟩ => tagged_of_decode j a read, fun tagged => ?_⟩, fun a read => ?_⟩
  · obtain ⟨a, read, -⟩ := tagged.exists_decode
    exact ⟨a, read⟩
  · obtain ⟨wellFormed, restored⟩ := restores_of_decode read
    refine ⟨restored, fun ordered => ?_, fun j' => ⟨fun read' => ?_, fun ⟨tagged, same⟩ => ?_⟩⟩
    · rw [restored, Json.canonical_of_ordered j ordered]
    · exact ⟨tagged_of_decode j' a read', (restores_of_decode read').2.symm.trans restored⟩
    · obtain ⟨a', read', wellFormed', restored'⟩ := tagged.exists_decode
      rw [read', wellFormed'.eq_of_toJson wellFormed (restored'.trans (same.trans restored.symm))]

/-- A map whose null value is written with `false`, with its members out of order. -/
def falseNull : Json :=
  .object [("M", .object [("b", .object [("NULL", .bool false)]), ("a", .object [("S", .string "s")])])]

/-- Its wire form has the members in order, and `true` for the null value. -/
theorem decode_iff_tagged_falseNull :
    Tagged falseNull ∧ decode falseNull = .ok (.map [("a", .string "s"), ("b", .null)]) ∧
      toJson (.map [("a", .string "s"), ("b", .null)]) = falseNull.canonical.nullsTrue := by
  obtain ⟨format, kept⟩ := decode_iff_tagged falseNull
  have read : decode falseNull = .ok (.map [("a", .string "s"), ("b", .null)]) := by
    rfl
  exact ⟨format.1 ⟨_, read⟩, read, (kept _ read).1⟩

end Attribute

end Keyscan
