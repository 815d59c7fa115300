import Mathlib.Data.List.Nodup
import Keyscan.Json.Decoding
import Keyscan.Proofs.Json.Values

/-!
Structures and lists decoded from what was written for them. An object with a member for each field,
but for those that are left out, is taken as it stands (`fieldsOf_written`), so a decoder finds each
value under its name. A list is decoded when every item is, and it is exact and nested as its items
are.
-/

set_option autoImplicit false

namespace Keyscan.Json

/-! ### Structures -/

/-- What follows when a part is decoded. -/
theorem decode_step {α β : Type} {part : Except DecodeError α} {more : α → Except DecodeError β}
    {x : α} {y : β} (read : part = .ok x) (others : more x = .ok y) : (part >>= more) = .ok y := by
  rw [read]
  exact others

/-- A value that is decoded is fit for the field of its decoder. -/
theorem check_shaped {α : Type} {name : String} {required : Bool} {shape : Shape}
    {decode : Json → Except DecodeError α} {j : Json} {x : α} (read : decode j = .ok x) :
    (Field.shaped name required shape decode).check j = .ok () := by
  change (decode j).map _ = _
  rw [read]
  rfl

/-- Members written for the fields in order, each with a fit value. Fields may be left out. -/
inductive Written : List Field → List (String × Json) → Prop
  | nil : Written [] []
  | field {f : Field} {fields : List Field} {x : Json} {members : List (String × Json)} :
      f.check x = .ok () → Written fields members → Written (f :: fields) ((f.name, x) :: members)
  | leftOut {f : Field} {fields : List Field} {members : List (String × Json)} :
      Written fields members → Written (f :: fields) members

section Structures

variable {fields : List Field} {members : List (String × Json)}

theorem Written.keys_sublist (written : Written fields members) :
    (members.map (·.1)).Sublist (fields.map Field.name) := by
  induction written with
  | nil => exact .slnil
  | field _ _ ih => exact ih.cons_cons _
  | leftOut _ ih => exact ih.cons _

/-- Every member that is written is fit for a field with its key. -/
theorem Written.exists_field (written : Written fields members) {p : String × Json}
    (mem : p ∈ members) : ∃ f ∈ fields, f.name = p.1 ∧ f.check p.2 = .ok () := by
  induction written with
  | nil => cases mem
  | field fit _ ih =>
      rcases List.mem_cons.1 mem with rfl | behind
      · exact ⟨_, List.mem_cons_self, rfl, fit⟩
      · obtain ⟨f, among, own⟩ := ih behind
        exact ⟨f, List.mem_cons_of_mem _ among, own⟩
  | leftOut _ ih =>
      obtain ⟨f, among, own⟩ := ih mem
      exact ⟨f, List.mem_cons_of_mem _ among, own⟩

/-- Members that were not seen before, each fit for the field with its key, are kept. -/
theorem checkMembers_ok {seen : List String} (distinct : (members.map (·.1)).Nodup)
    (new : ∀ p ∈ members, p.1 ∉ seen)
    (fit : ∀ p ∈ members, ∃ f, fields.find? (·.name == p.1) = some f ∧ f.check p.2 = .ok ()) :
    checkMembers fields seen members = .ok members := by
  induction members generalizing seen with
  | nil => rfl
  | cons p rest ih =>
      rw [List.map_cons, List.nodup_cons] at distinct
      rw [List.forall_mem_cons] at new fit
      obtain ⟨⟨f, found, fits⟩, others⟩ := fit
      have later : ∀ q ∈ rest, q.1 ∉ p.1 :: seen := by
        intro q mem own
        rcases List.mem_cons.1 own with same | before
        · exact distinct.1 (same ▸ List.mem_map_of_mem mem)
        · exact new.2 q mem before
      rw [checkMembers, found]
      simp only [if_neg new.1, fits, ih distinct.2 later others, bind, Except.bind]

/-- The object that is written for a structure is taken as it stands. -/
theorem fieldsOf_written {origin : JsonOrigin} {name : String}
    (distinct : (fields.map Field.name).Nodup) (written : Written fields members) :
    fieldsOf origin name fields (.object members) = .ok members := by
  refine checkMembers_ok (written.keys_sublist.nodup distinct) (fun _ _ => List.not_mem_nil) ?_
  intro p mem
  obtain ⟨f, among, key, fit⟩ := written.exists_field mem
  refine ⟨f, ?_, fit⟩
  obtain ⟨g, found⟩ : ∃ g, fields.find? (·.name == p.1) = some g :=
    Option.isSome_iff_exists.1 (List.find?_isSome.2 ⟨f, among, beq_iff_eq.2 key⟩)
  have named : g.name = p.1 := by simpa using List.find?_some found
  rw [found, List.inj_on_of_nodup_map distinct (List.mem_of_find?_eq_some found) among
    (named.trans key.symm)]

end Structures

/-! ### Numbers and lists -/

/-- A natural number is decoded in every range that reaches so far. -/
theorem asNatural_nat {bits n : Nat} (fits : n < Nat.pow 2 bits) : asNatural bits (.nat n) = .ok n :=
  if_pos ⟨Int.natCast_nonneg n, Int.ofNat_lt.2 fits⟩

theorem exact_nat {n : Nat} (small : n < wordLimit) : (nat n).Exact :=
  ⟨n, rfl, by omega, by omega⟩

section Lists

variable {α : Type} {write : α → Json}

theorem asList_array {decode : Json → Except DecodeError α}
    (read : ∀ x, decode (write x) = .ok x) (xs : List α) :
    asList decode (.array (xs.map write)) = .ok xs := by
  rw [asList]
  induction xs with
  | nil => rfl
  | cons x xs ih => simp only [List.map_cons, decodeItems, read, ih, bind, Except.bind]

theorem exact_array (exact : ∀ x, (write x).Exact) (xs : List α) :
    (Json.array (xs.map write)).Exact := by
  rw [Exact]
  induction xs with
  | nil => trivial
  | cons x xs ih => exact ⟨exact x, ih⟩

theorem depth_array {most : Nat} (nested : ∀ x, (write x).depth ≤ most) (xs : List α) :
    (Json.array (xs.map write)).depth ≤ most + 1 := by
  rw [depth]
  induction xs with
  | nil => exact Nat.le_add_left _ _
  | cons x xs ih =>
      exact Nat.succ_le_succ (Nat.max_le.2 ⟨nested x, Nat.le_of_succ_le_succ ih⟩)

end Lists

end Keyscan.Json
