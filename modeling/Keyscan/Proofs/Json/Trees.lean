import Keyscan.Json.Decoding
import Keyscan.Proofs.SortedMap

/-!
Trees: JSON values whose objects have their members in key order, each key once. Bringing a value into
canonical form puts the canonical forms of its members one after the other into a sorted map
(`canonicalMembers_eq`), and leaves a tree as it is (`canonical_of_ordered`).
-/

set_option autoImplicit false

namespace Keyscan.Json

mutual

/-- The members of every object are in strictly increasing order of their keys, so that no key occurs
twice. -/
def Ordered : Json → Prop
  | .array items => OrderedItems items
  | .object members => Entries.Sorted members ∧ OrderedMembers members
  | _ => True

/-- Every item is ordered. -/
def OrderedItems : List Json → Prop
  | [] => True
  | x :: rest => Ordered x ∧ OrderedItems rest

/-- The value of every member is ordered. -/
def OrderedMembers : List (String × Json) → Prop
  | [] => True
  | (_, x) :: rest => Ordered x ∧ OrderedMembers rest

end

/-! ### The canonical form -/

/-- A member with a new key is placed by inserting it. -/
theorem place_eq_insert {k : String} {x : Json} {members : List (String × Json)}
    (new : members.any (·.1 == k) = false) :
    canonicalMembers.place k x members = Entries.insert k x members := by
  induction members with
  | nil => rfl
  | cons p rest ih =>
      obtain ⟨k', y⟩ := p
      simp only [List.any_cons, Bool.or_eq_false_iff, beq_eq_false_iff_ne] at new
      rw [canonicalMembers.place, Entries.insert, if_neg (Ne.symm new.1), ih new.2]

/-- The members of the canonical form are the canonical members in key order, the last of several with
one key. -/
theorem canonicalMembers_eq (members : List (String × Json)) :
    canonicalMembers members = Entries.ofList (members.map fun p => (p.1, canonical p.2)) := by
  induction members with
  | nil => rfl
  | cons p rest ih =>
      obtain ⟨k, x⟩ := p
      rw [canonicalMembers, List.map_cons, Entries.ofList_cons, ← ih]
      by_cases later : (canonicalMembers rest).any (·.1 == k) = true
      · rw [if_pos later, if_pos later]
      · rw [if_neg later, if_neg later, place_eq_insert (Bool.eq_false_iff.2 later)]

mutual

/-- A tree is in canonical form. -/
theorem canonical_of_ordered : (j : Json) → j.Ordered → j.canonical = j
  | .null, _ | .bool _, _ | .number _, _ | .string _, _ => rfl
  | .array items, ordered => congrArg Json.array (canonicalItems_of_ordered items ordered)
  | .object members, ⟨sorted, ordered⟩ => by
      rw [canonical, canonicalMembers_eq, map_canonical_of_ordered members ordered,
        Entries.ofList_of_sorted sorted]

theorem canonicalItems_of_ordered : (items : List Json) → OrderedItems items →
    canonicalItems items = items
  | [], _ => rfl
  | x :: rest, ⟨own, others⟩ => by
      rw [canonicalItems, canonical_of_ordered x own, canonicalItems_of_ordered rest others]

theorem map_canonical_of_ordered : (members : List (String × Json)) → OrderedMembers members →
    members.map (fun p => (p.1, canonical p.2)) = members
  | [], _ => rfl
  | (k, x) :: rest, ⟨own, others⟩ => by
      rw [List.map_cons, canonical_of_ordered x own, map_canonical_of_ordered rest others]

end

end Keyscan.Json
