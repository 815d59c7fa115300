import Keyscan.Proofs.Json.Values
import Keyscan.Proofs.SortedMap
import Keyscan.Proofs.Text.PaddedBase64
import Keyscan.Record

/-!
The wire form read back. What decoding does is said once, by the seven tags (`decode_ok_iff`): a value
is read from an object with one member, and `Reads` tells what the tag makes of the payload. From it
every well-formed value is read back from its JSON value, by induction on the value, and from its text
exactly when its JSON nests no more than the limit. A record adds an object around its values.
-/

set_option autoImplicit false

namespace Keyscan

namespace Attribute

/-! ### What is decoded -/

/-- What a tag makes of a payload. -/
inductive Reads : String → Json → Attribute → Prop
  | string (s : String) : Reads "S" (.string s) (.string s)
  | number {text : String} (some_text : Text.isBlank text = false) :
      Reads "N" (.string text) (.number text)
  | bool (b : Bool) : Reads "BOOL" (.bool b) (.bool b)
  | null (b : Bool) : Reads "NULL" (.bool b) .null
  | binary (bytes : List UInt8) : Reads "B" (.string (Text.Base64.encode bytes)) (.binary bytes)
  | list {payload : List Json} {items : List Attribute} (read : decodeItems payload = .ok items) :
      Reads "L" (.array payload) (.list items)
  | map {payload : List (String × Json)} {entries : List (String × Attribute)}
      (read : decodeEntries payload = .ok entries) :
      Reads "M" (.object payload) (.map (Entries.ofList entries))

/-- The tags of payloads that are neither lists nor maps. -/
theorem reads_of_decodeLeaf {tag : String} {payload : Json} {a : Attribute}
    (read : decodeLeaf tag payload = .ok a) : Reads tag payload a := by
  rw [decodeLeaf] at read
  split at read
  · subst tag
    cases payload <;> cases read
    exact .string _
  split at read
  · subst tag
    cases payload with
    | string text =>
        cases blank : Text.isBlank text with
        | true => simp [Json.asString, bind, Except.bind, blank] at read
        | false =>
            simp only [Json.asString, bind, Except.bind, blank] at read
            cases read
            exact .number blank
    | _ => cases read
  split at read
  · subst tag
    cases payload <;> cases read
    exact .bool _
  split at read
  · subst tag
    cases payload <;> cases read
    exact .null _
  split at read
  · subst tag
    cases payload with
    | string text =>
        cases decoded : Text.Base64.decode text with
        | error e => simp [Json.asString, bind, Except.bind, decoded] at read
        | ok bytes =>
            simp only [Json.asString, bind, Except.bind, decoded] at read
            cases read
            rw [Text.Base64.decode_ok_iff.1 decoded]
            exact .binary bytes
    | _ => cases read
  · cases read

/-- A payload is decoded as its tag says. -/
theorem decodePayload_ok_iff {tag : String} {payload : Json} {a : Attribute} :
    decodePayload tag payload = .ok a ↔ Reads tag payload a := by
  constructor
  · intro read
    cases payload with
    | array items =>
        rw [decodePayload] at read
        split at read
        · subst tag
          cases decoded : decodeItems items with
          | error e =>
              rw [decoded] at read
              cases read
          | ok as =>
              rw [decoded] at read
              cases read
              exact .list decoded
        split at read
        · cases read
        · exact reads_of_decodeLeaf read
    | object members =>
        rw [decodePayload] at read
        split at read
        · subst tag
          cases decoded : decodeEntries members with
          | error e =>
              rw [decoded] at read
              cases read
          | ok entries =>
              rw [decoded] at read
              cases read
              exact .map decoded
        split at read
        · cases read
        · exact reads_of_decodeLeaf read
    | null | bool | number | string =>
        rw [decodePayload] at read
        · split at read
          · cases read
          split at read
          · cases read
          · exact reads_of_decodeLeaf read
        all_goals exact nofun
  · rintro (s | some_text | b | b | bytes | read | read)
    · rfl
    · simp [decodePayload, decodeLeaf, Json.asString, bind, Except.bind, some_text]
    · rfl
    · rfl
    · simp [decodePayload, decodeLeaf, Json.asString, bind, Except.bind]
    · rw [decodePayload, if_pos rfl, read]
      rfl
    · rw [decodePayload, if_pos rfl, read]
      rfl

/-- A value is decoded from an object whose only member has a tag and a payload for it. -/
theorem decode_ok_iff {j : Json} {a : Attribute} :
    decode j = .ok a ↔ ∃ tag payload, j = .object [(tag, payload)] ∧ Reads tag payload a := by
  constructor
  · intro read
    match j with
    | .object [] => cases read
    | .object [(tag, payload)] =>
        refine ⟨tag, payload, rfl, decodePayload_ok_iff.1 ?_⟩
        rw [decode] at read
        cases decoded : decodePayload tag payload with
        | error e =>
            rw [decoded] at read
            cases read
        | ok a' =>
            rw [decoded] at read
            exact read
    | .object ((tag, payload) :: p :: rest) =>
        rw [decode] at read
        cases decoded : decodePayload tag payload with
        | error e =>
            rw [decoded] at read
            cases read
        | ok a' =>
            rw [decoded] at read
            cases read
    | .null | .bool _ | .number _ | .string _ | .array _ => cases read
  · rintro ⟨tag, payload, rfl, reads⟩
    rw [decode, decodePayload_ok_iff.2 reads]
    rfl

/-- The attributes of a record are decoded like the entries of a map. -/
theorem decodeMembers_decode (members : List (String × Json)) :
    Json.decodeMembers decode members = decodeEntries members := by
  induction members with
  | nil => rfl
  | cons p rest ih => rw [Json.decodeMembers, decodeEntries, ih]

/-! ### Values read back -/

mutual

/-- A well-formed value is decoded from its wire form. -/
theorem decode_toJson : (a : Attribute) → a.WellFormed → decode a.toJson = .ok a
  | .string s, _ => decode_ok_iff.2 ⟨"S", _, rfl, .string s⟩
  | .number _, some_text => decode_ok_iff.2 ⟨"N", _, rfl, .number some_text⟩
  | .bool b, _ => decode_ok_iff.2 ⟨"BOOL", _, rfl, .bool b⟩
  | .null, _ => decode_ok_iff.2 ⟨"NULL", _, rfl, .null true⟩
  | .binary bytes, _ => decode_ok_iff.2 ⟨"B", _, rfl, .binary bytes⟩
  | .list items, wellFormed =>
      decode_ok_iff.2 ⟨"L", _, rfl, .list (decodeItems_itemsToJson items wellFormed)⟩
  | .map entries, ⟨sorted, wellFormed⟩ => by
      have read := Reads.map (decodeEntries_entriesToJson entries wellFormed)
      rw [Entries.ofList_of_sorted sorted] at read
      exact decode_ok_iff.2 ⟨"M", _, rfl, read⟩

/-- Well-formed items are decoded from their wire forms. -/
theorem decodeItems_itemsToJson : (items : List Attribute) → WellFormedItems items →
    decodeItems (itemsToJson items) = .ok items
  | [], _ => rfl
  | a :: rest, ⟨own, others⟩ => by
      rw [itemsToJson, decodeItems, decode_toJson a own, decodeItems_itemsToJson rest others]
      rfl

/-- Well-formed entries are decoded from their wire forms. -/
theorem decodeEntries_entriesToJson : (entries : List (String × Attribute)) →
    WellFormedEntries entries → decodeEntries (entriesToJson entries) = .ok entries
  | [], _ => rfl
  | (k, a) :: rest, ⟨own, others⟩ => by
      rw [entriesToJson, decodeEntries, decode_toJson a own, decodeEntries_entriesToJson rest others]
      rfl

end

mutual

/-- Wire forms have no numbers. -/
theorem exact_toJson : (a : Attribute) → a.toJson.Exact
  | .string _ | .number _ | .bool _ | .null | .binary _ => ⟨trivial, trivial⟩
  | .list items => ⟨exact_itemsToJson items, trivial⟩
  | .map entries => ⟨exact_entriesToJson entries, trivial⟩

theorem exact_itemsToJson : (items : List Attribute) → Json.ExactItems (itemsToJson items)
  | [] => trivial
  | a :: rest => ⟨exact_toJson a, exact_itemsToJson rest⟩

theorem exact_entriesToJson : (entries : List (String × Attribute)) →
    Json.ExactMembers (entriesToJson entries)
  | [] => trivial
  | (_, a) :: rest => ⟨exact_toJson a, exact_entriesToJson rest⟩

end

/-- The value in a text of the wire form. -/
def ofText? (text : String) : Option Attribute :=
  (Json.read? text).bind fun j => (decode j).toOption

/-- A well-formed value is read back from its text when its JSON nests no more than the limit, and
otherwise not read at all. -/
theorem ofText?_wire {a : Attribute} (wellFormed : a.WellFormed) :
    ofText? a.wire = if a.toJson.depth ≤ Json.depthLimit then some a else none := by
  rw [ofText?, wire, Json.read?_print (exact_toJson a)]
  by_cases within : a.toJson.depth ≤ Json.depthLimit
  · rw [if_pos within, if_pos within, Option.bind_some, decode_toJson a wellFormed]
    rfl
  · rw [if_neg within, if_neg within]
    rfl

end Attribute

namespace Record

/-- A record of well-formed values is decoded from its wire form. -/
theorem decode_toJson {r : Record} (wellFormed : r.WellFormed) : decode r.toJson = .ok r := by
  rw [decode, toJson, Json.asMembers, Attribute.decodeMembers_decode,
    Attribute.decodeEntries_entriesToJson r.entries wellFormed]
  exact congrArg Except.ok r.ofList_entries

/-- The record in a text of the wire form. -/
def ofText? (text : String) : Option Record :=
  (Json.read? text).bind fun j => (decode j).toOption

/-- A record of well-formed values is read back from its text when its JSON nests no more than the
limit, and otherwise not read at all. -/
theorem ofText?_wire {r : Record} (wellFormed : r.WellFormed) :
    ofText? r.wire = if r.toJson.depth ≤ Json.depthLimit then some r else none := by
  have exact : r.toJson.Exact := Attribute.exact_entriesToJson r.entries
  rw [ofText?, wire, Json.read?_print exact]
  by_cases within : r.toJson.depth ≤ Json.depthLimit
  · rw [if_pos within, if_pos within, Option.bind_some, decode_toJson wellFormed]
    rfl
  · rw [if_neg within, if_neg within]
    rfl

/-- The JSON of a record nests one object more than its values. -/
theorem depth_toJson_le_iff {r : Record} {limit : Nat} :
    r.toJson.depth ≤ limit + 1 ↔ ∀ p ∈ r.entries, p.2.toJson.depth ≤ limit := by
  have members (entries : List (String × Attribute)) :
      Json.depthMembers (Attribute.entriesToJson entries) ≤ limit ↔
        ∀ p ∈ entries, p.2.toJson.depth ≤ limit := by
    induction entries with
    | nil => exact iff_of_true (Nat.zero_le limit) nofun
    | cons p rest ih =>
        rw [Attribute.entriesToJson, Json.depthMembers, Nat.max_le, ih, List.forall_mem_cons]
  rw [toJson, Json.depth, Nat.add_le_add_iff_right, members]

end Record

/-- A well-formed value is read back from the text of its wire form exactly when its JSON nests at
most 127 arrays and objects. A record of well-formed values is read back exactly when its own JSON
does, that is, when the JSON of every value nests one less. -/
theorem wire_read_back_iff :
    (∀ a : Attribute, a.WellFormed →
      (Attribute.ofText? a.wire = some a ↔ a.toJson.depth ≤ 127)) ∧
    ∀ r : Record, r.WellFormed →
      ((Record.ofText? r.wire = some r ↔ r.toJson.depth ≤ 127) ∧
        (r.toJson.depth ≤ 127 ↔ ∀ p ∈ r.entries, p.2.toJson.depth ≤ 126)) := by
  refine ⟨fun a wellFormed => ?_, fun r wellFormed => ⟨?_, Record.depth_toJson_le_iff⟩⟩
  · rw [Attribute.ofText?_wire wellFormed, Option.ite_none_right_eq_some]
    exact and_iff_left rfl
  · rw [Record.ofText?_wire wellFormed, Option.ite_none_right_eq_some]
    exact and_iff_left rfl

/-- A map of a text with a quote and a line end, numbers with blanks around them, bytes of every
length modulo three, and a list that holds a null value. -/
def mixedValue : Attribute :=
  .map
    [ ("", .string "a\"\n\x01é😀"), ("B", .list [.binary [], .binary [0], .binary [1, 255], .null]),
      ("N", .map [("x\x7f", .number " 1e9 ")]) ]

/-- It is read back, alone and in a record. -/
theorem wire_read_back_mixedValue :
    mixedValue.WellFormed ∧ Attribute.ofText? mixedValue.wire = some mixedValue ∧
      Record.ofText? (Record.wire ⟨[("value", mixedValue)], by decide⟩) =
        some ⟨[("value", mixedValue)], by decide⟩ := by
  obtain ⟨values, records⟩ := wire_read_back_iff
  have wellFormed : mixedValue.WellFormed := by
    simp only [mixedValue, Attribute.WellFormed, Attribute.WellFormedItems,
      Attribute.WellFormedEntries]
    decide
  refine ⟨wellFormed, (values mixedValue wellFormed).2 ?_, ((records ⟨_, by decide⟩ ?_).1).2 ?_⟩
  · decide
  · exact ⟨wellFormed, trivial⟩
  · decide

/-- Lists in each other, with a null value in the innermost. -/
def nestedLists : Nat → Attribute
  | 0 => .null
  | n + 1 => .list [nestedLists n]

theorem wellFormed_nestedLists (n : Nat) : (nestedLists n).WellFormed := by
  induction n with
  | zero => trivial
  | succ n ih => exact ⟨ih, trivial⟩

/-- Each list adds an array and an object. -/
theorem depth_nestedLists (n : Nat) : (nestedLists n).toJson.depth = 2 * n + 1 := by
  induction n with
  | zero => rfl
  | succ n ih =>
      have nested : (nestedLists (n + 1)).toJson.depth =
          max (max (nestedLists n).toJson.depth 0 + 1) 0 + 1 := rfl
      rw [nested, ih]
      omega

/-- A value whose JSON nests 127 arrays and objects is read back alone, but a record of it is not. -/
theorem wire_unread_nestedLists :
    (nestedLists 63).WellFormed ∧ (nestedLists 63).toJson.depth = 127 ∧
      Record.ofText? (Record.wire ⟨[("a", nestedLists 63)], by decide⟩) = none := by
  have depth := depth_nestedLists 63
  have wellFormed := wellFormed_nestedLists 63
  have record : Record.WellFormed ⟨[("a", nestedLists 63)], by decide⟩ := ⟨wellFormed, trivial⟩
  refine ⟨wellFormed, depth, ?_⟩
  rw [Record.ofText?_wire record, if_neg]
  rw [Json.depthLimit, Record.depth_toJson_le_iff]
  intro within
  have least := within _ List.mem_cons_self
  rw [depth] at least
  omega

end Keyscan
