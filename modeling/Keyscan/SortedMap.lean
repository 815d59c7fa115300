/-!
Finite maps from texts, kept as entries in strictly increasing order of their keys. Keys are ordered
by code points, which is also the order of their UTF-8 bytes.

The operations are written on plain entry lists first, because a recursive data type can nest only
those; `SortedMap` then joins a list with the proof of its order.
-/

set_option autoImplicit false

namespace Keyscan.Entries

variable {α : Type}

/-- Entries in strictly increasing order of their keys, so that no key occurs twice. -/
def Sorted (entries : List (String × α)) : Prop :=
  entries.Pairwise fun x y => x.1 < y.1

instance (entries : List (String × α)) : Decidable (Sorted entries) :=
  inferInstanceAs (Decidable (entries.Pairwise _))

/-- Puts an entry at its place and replaces the one that has the same key. -/
def insert (key : String) (x : α) : List (String × α) → List (String × α)
  | [] => [(key, x)]
  | (k, y) :: rest =>
      if key < k then (key, x) :: (k, y) :: rest
      else if key = k then (key, x) :: rest
      else (k, y) :: insert key x rest

/-- Inserts one entry after the other, so that the last of several with one key stays. -/
def ofList (pairs : List (String × α)) : List (String × α) :=
  pairs.foldl (fun entries p => insert p.1 p.2 entries) []

/-- What the first entry with the key holds. -/
def get? (key : String) : List (String × α) → Option α
  | [] => none
  | (k, y) :: rest => if key = k then some y else get? key rest

/-! ### Order -/

theorem mem_insert {key : String} {x : α} {p : String × α} {entries : List (String × α)}
    (h : p ∈ insert key x entries) : p = (key, x) ∨ p ∈ entries := by
  induction entries with
  | nil => simpa [insert] using h
  | cons q rest ih =>
      obtain ⟨k, y⟩ := q
      rw [insert] at h
      split at h
      · simpa using h
      · split at h
        · rcases List.mem_cons.1 h with h | h
          · exact .inl h
          · exact .inr (List.mem_cons_of_mem _ h)
        · rcases List.mem_cons.1 h with h | h
          · exact .inr (h ▸ List.mem_cons_self)
          · exact (ih h).imp id (List.mem_cons_of_mem _)

theorem sorted_nil : Sorted ([] : List (String × α)) := List.Pairwise.nil

/-- Insertion keeps the order, and so the keys distinct. -/
theorem sorted_insert {key : String} {x : α} {entries : List (String × α)}
    (h : Sorted entries) : Sorted (insert key x entries) := by
  induction entries with
  | nil => simp [insert, Sorted]
  | cons q rest ih =>
      obtain ⟨k, y⟩ := q
      obtain ⟨below, tail⟩ := List.pairwise_cons.1 h
      rw [insert]
      split
      · rename_i before
        refine List.pairwise_cons.2 ⟨fun p hp => ?_, h⟩
        rcases List.mem_cons.1 hp with rfl | hp
        · exact before
        · exact String.lt_trans before (below p hp)
      · rename_i notBefore
        split
        · rename_i same
          exact List.pairwise_cons.2 ⟨fun p hp => same ▸ below p hp, tail⟩
        · rename_i different
          refine List.pairwise_cons.2 ⟨fun p hp => ?_, ih tail⟩
          rcases mem_insert hp with rfl | hp
          · rcases String.le_total k key with le | le
            · exact Decidable.byContradiction fun n =>
                different (String.le_antisymm (String.not_lt.1 n) le)
            · exact absurd (String.le_antisymm le (String.not_lt.1 notBefore)) different
          · exact below p hp

theorem sorted_foldl_insert (pairs : List (String × α)) {entries : List (String × α)}
    (h : Sorted entries) :
    Sorted (pairs.foldl (fun entries p => insert p.1 p.2 entries) entries) := by
  induction pairs generalizing entries with
  | nil => exact h
  | cons p rest ih => exact ih (sorted_insert h)

/-- Entries inserted one by one are in order, whatever order they came in. -/
theorem sorted_ofList (pairs : List (String × α)) : Sorted (ofList pairs) :=
  sorted_foldl_insert pairs sorted_nil

theorem sorted_filter {p : String × α → Bool} {entries : List (String × α)} (h : Sorted entries) :
    Sorted (entries.filter p) :=
  List.Pairwise.filter p h

/-! ### Lookup -/

/-- After an insertion a lookup finds the new value under its key and the old ones elsewhere. -/
theorem get?_insert (key k : String) (x : α) (entries : List (String × α)) :
    get? k (insert key x entries) = if k = key then some x else get? k entries := by
  induction entries with
  | nil => simp [insert, get?]
  | cons q rest ih =>
      obtain ⟨k', y⟩ := q
      rw [insert]
      split
      · simp [get?]
      · split
        · rename_i same
          subst same
          by_cases hk : k = key <;> simp [get?, hk]
        · rename_i different
          by_cases hk : k = k'
          · subst hk
            simp [get?, Ne.symm different]
          · simp [get?, hk, ih]

end Keyscan.Entries

namespace Keyscan

/-- A finite map from texts. -/
structure SortedMap (α : Type) where
  entries : List (String × α)
  sorted : Entries.Sorted entries

namespace SortedMap

variable {α : Type}

instance [DecidableEq α] : DecidableEq (SortedMap α)
  | ⟨xs, _⟩, ⟨ys, _⟩ =>
      if h : xs = ys then .isTrue (by subst h; rfl) else .isFalse fun e => h (congrArg entries e)

def empty : SortedMap α := ⟨[], Entries.sorted_nil⟩

instance : Inhabited (SortedMap α) := ⟨empty⟩

/-- The map with one entry put or replaced. -/
def insert (m : SortedMap α) (key : String) (x : α) : SortedMap α :=
  ⟨Entries.insert key x m.entries, Entries.sorted_insert m.sorted⟩

/-- The map with the given entries; of several with one key the last stays. -/
def ofList (pairs : List (String × α)) : SortedMap α :=
  ⟨Entries.ofList pairs, Entries.sorted_ofList pairs⟩

/-- What the map holds under a key. -/
def get? (m : SortedMap α) (key : String) : Option α := Entries.get? key m.entries

/-- The keys in increasing order. -/
def keys (m : SortedMap α) : List String := m.entries.map (·.1)

def size (m : SortedMap α) : Nat := m.entries.length

def isEmpty (m : SortedMap α) : Bool := m.entries.isEmpty

/-- The entries whose key passes the test. -/
def filterKeys (m : SortedMap α) (p : String → Bool) : SortedMap α :=
  ⟨m.entries.filter fun e => p e.1, Entries.sorted_filter m.sorted⟩

@[simp]
theorem get?_insert (m : SortedMap α) (key k : String) (x : α) :
    (m.insert key x).get? k = if k = key then some x else m.get? k :=
  Entries.get?_insert key k x m.entries

end SortedMap

end Keyscan
