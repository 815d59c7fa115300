import Keyscan.SortedMap

/-!
Entries put in order. Sorted entries are determined by what they hold under each key (`ext_get?`), and
of entries inserted one by one, the last under a key is the one that is held (`get?_ofList_cons`,
`ofList_cons`).
-/

set_option autoImplicit false

namespace Keyscan

namespace Entries

variable {α β : Type} {key : String} {x : α} {entries : List (String × α)}

/-! ### Lookup in order -/

/-- Keys behind the one looked up are not found. -/
theorem get?_of_before (before : ∀ p ∈ entries, key < p.1) : get? key entries = none := by
  induction entries with
  | nil => rfl
  | cons p rest ih =>
      obtain ⟨k, y⟩ := p
      rw [List.forall_mem_cons] at before
      have different : key ≠ k := fun same => String.lt_irrefl k (same ▸ before.1)
      rw [get?, if_neg different, ih before.2]

/-- A key is found where an entry has it. -/
theorem get?_isSome : (get? key entries).isSome = entries.any (·.1 == key) := by
  induction entries with
  | nil => rfl
  | cons p rest ih =>
      obtain ⟨k, y⟩ := p
      by_cases same : key = k
      · simp [get?, same]
      · simp [get?, same, Ne.symm same, ih]

/-- No key in front of the first one is found. -/
theorem first_le {k : String} (sorted : Sorted ((k, x) :: entries))
    (found : (get? key ((k, x) :: entries)).isSome = true) : k ≤ key := by
  refine String.not_lt.1 fun before => ?_
  have above := (List.pairwise_cons.1 sorted).1
  rw [get?_of_before (List.forall_mem_cons.2
    ⟨before, fun p mem => String.lt_trans before (above p mem)⟩)] at found
  cases found

/-- Sorted entries that hold the same under every key are the same. -/
theorem ext_get? {xs ys : List (String × α)} (left : Sorted xs) (right : Sorted ys)
    (same : ∀ k, get? k xs = get? k ys) : xs = ys := by
  induction xs generalizing ys with
  | nil =>
      cases ys with
      | nil => rfl
      | cons q ys =>
          have held := same q.1
          simp [get?] at held
  | cons p xs ih =>
      obtain ⟨k, x⟩ := p
      cases ys with
      | nil =>
          have held := same k
          simp [get?] at held
      | cons q ys =>
          obtain ⟨k', y⟩ := q
          have first : k = k' :=
            String.le_antisymm (first_le left (by rw [same]; simp [get?]))
              (first_le right (by rw [← same]; simp [get?]))
          subst first
          obtain ⟨above, left'⟩ := List.pairwise_cons.1 left
          obtain ⟨above', right'⟩ := List.pairwise_cons.1 right
          have value : x = y := by simpa [get?] using same k
          have others : xs = ys := ih left' right' fun other => by
            by_cases own : other = k
            · rw [own, get?_of_before above, get?_of_before above']
            · simpa [get?, own] using same other
          rw [value, others]

/-! ### Insertion -/

/-- Inserting one entry after the other puts the later ones over what was there. -/
theorem get?_foldl_insert (pairs : List (String × α)) (k : String) :
    get? k (pairs.foldl (fun entries p => insert p.1 p.2 entries) entries) =
      (get? k (ofList pairs)).or (get? k entries) := by
  induction pairs generalizing entries with
  | nil => rfl
  | cons p rest ih =>
      rw [ofList, List.foldl_cons, List.foldl_cons, ih, ih, get?_insert, get?_insert]
      cases get? k (ofList rest) with
      | some y => rfl
      | none => by_cases own : k = p.1 <;> simp [own, get?]

/-- Of several entries with one key the last is held. -/
theorem get?_ofList_cons (p : String × α) (rest : List (String × α)) (k : String) :
    get? k (ofList (p :: rest)) =
      (get? k (ofList rest)).or (if k = p.1 then some p.2 else none) := by
  rw [ofList, List.foldl_cons, get?_foldl_insert, get?_insert]
  rfl

/-- So the first of several entries is inserted when no later one has its key. -/
theorem ofList_cons (p : String × α) (rest : List (String × α)) :
    ofList (p :: rest) =
      if (ofList rest).any (·.1 == p.1) then ofList rest else insert p.1 p.2 (ofList rest) := by
  have sorted := sorted_ofList rest
  have held (k : String) := get?_ofList_cons p rest k
  rw [← get?_isSome]
  cases later : get? p.1 (ofList rest) with
  | some y =>
      rw [Option.isSome_some, if_pos rfl]
      refine ext_get? (sorted_ofList _) sorted fun k => ?_
      rw [held]
      by_cases own : k = p.1
      · rw [own, later]
        rfl
      · rw [if_neg own, Option.or_none]
  | none =>
      rw [Option.isSome_none, if_neg Bool.false_ne_true]
      refine ext_get? (sorted_ofList _) (sorted_insert sorted) fun k => ?_
      rw [held, get?_insert]
      by_cases own : k = p.1
      · rw [if_pos own, if_pos own, own, later]
        rfl
      · rw [if_neg own, if_neg own, Option.or_none]

/-- Sorted entries are in order already. -/
theorem ofList_of_sorted (sorted : Sorted entries) : ofList entries = entries := by
  refine ext_get? (sorted_ofList entries) sorted fun k => ?_
  induction entries with
  | nil => rfl
  | cons p rest ih =>
      obtain ⟨above, sorted⟩ := List.pairwise_cons.1 sorted
      rw [get?_ofList_cons, ih sorted]
      by_cases own : k = p.1
      · rw [own, get?_of_before above]
        simp [get?]
      · simp [get?, own]

theorem mem_foldl_insert {p : String × α} {pairs : List (String × α)}
    (mem : p ∈ pairs.foldl (fun entries p => insert p.1 p.2 entries) entries) :
    p ∈ pairs ∨ p ∈ entries := by
  induction pairs generalizing entries with
  | nil => exact .inr mem
  | cons q rest ih =>
      rcases ih mem with later | here
      · exact .inl (List.mem_cons_of_mem q later)
      · rcases mem_insert here with rfl | before
        · exact .inl List.mem_cons_self
        · exact .inr before

/-- Every entry comes from the list. -/
theorem mem_of_mem_ofList {p : String × α} {pairs : List (String × α)} (mem : p ∈ ofList pairs) :
    p ∈ pairs :=
  (mem_foldl_insert mem).resolve_right List.not_mem_nil

/-- Values can be replaced before or after an insertion. -/
theorem map_insert (f : α → β) :
    (insert key x entries).map (fun p => (p.1, f p.2)) =
      insert key (f x) (entries.map fun p => (p.1, f p.2)) := by
  induction entries with
  | nil => rfl
  | cons p rest ih =>
      obtain ⟨k, y⟩ := p
      simp only [insert, List.map_cons]
      split
      · rfl
      · split
        · rfl
        · rw [List.map_cons, ih]

theorem map_ofList (f : α → β) (pairs : List (String × α)) :
    (ofList pairs).map (fun p => (p.1, f p.2)) = ofList (pairs.map fun p => (p.1, f p.2)) := by
  have folded (start : List (String × α)) :
      (pairs.foldl (fun entries p => insert p.1 p.2 entries) start).map (fun p => (p.1, f p.2)) =
        (pairs.map fun p => (p.1, f p.2)).foldl (fun entries p => insert p.1 p.2 entries)
          (start.map fun p => (p.1, f p.2)) := by
    induction pairs generalizing start with
    | nil => rfl
    | cons p rest ih => rw [List.foldl_cons, ih, map_insert]; rfl
  exact folded []

end Entries

/-- The entries of a map make the map again. -/
theorem SortedMap.ofList_entries {α : Type} (m : SortedMap α) : ofList m.entries = m := by
  cases m with
  | mk entries sorted => simp only [ofList, Entries.ofList_of_sorted sorted]

end Keyscan
