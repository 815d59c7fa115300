import Keyscan.Query.Model

/-!
Keys of models. A key is the names of a model in a row, with a character between each two. Where no
name holds the character that stands behind it, the key can be taken apart again, and so two models
with one key are equal. Without that they may differ: entity `A` in table `b@c` and entity `A@b` in
table `c` have the same key.
-/

set_option autoImplicit false

namespace Keyscan

namespace Text

/-- Two splits of a list are the same where the first parts do not hold what the second parts begin
with. -/
theorem append_inj_of_head? {α : Type} {xs ys rest rest' : List α}
    (same : xs ++ rest = ys ++ rest') (xs_ends : ∀ c ∈ xs, rest'.head? ≠ some c)
    (ys_ends : ∀ c ∈ ys, rest.head? ≠ some c) : xs = ys ∧ rest = rest' := by
  induction xs generalizing ys with
  | nil =>
      cases ys with
      | nil => exact ⟨rfl, same⟩
      | cons y ys =>
          rw [List.nil_append] at same
          exact absurd (by rw [same]; rfl) (ys_ends y List.mem_cons_self)
  | cons x xs ih =>
      cases ys with
      | nil =>
          rw [List.nil_append] at same
          exact absurd (by rw [← same]; rfl) (xs_ends x List.mem_cons_self)
      | cons y ys =>
          obtain ⟨rfl, tail⟩ := List.cons.inj same
          obtain ⟨rfl, rfl⟩ := ih tail (fun c mem => xs_ends c (List.mem_cons_of_mem _ mem))
            (fun c mem => ys_ends c (List.mem_cons_of_mem _ mem))
          exact ⟨rfl, rfl⟩

/-- A name is known by what stands in front of a character that it does not hold. -/
theorem append_cons_inj {name name' : String} {c : Char} {rest rest' : List Char}
    (same : name.toList ++ c :: rest = name'.toList ++ c :: rest') (ends : c ∉ name.toList)
    (ends' : c ∉ name'.toList) : name = name' ∧ rest = rest' := by
  have differs : ∀ {x : Char} {s : List Char} {more : List Char}, c ∉ s → x ∈ s →
      (c :: more).head? ≠ some x := by
    rintro x s more notMem mem equal
    exact notMem (Option.some.inj equal ▸ mem)
  obtain ⟨names, tail⟩ := append_inj_of_head? same (fun _ mem => differs ends mem)
    (fun _ mem => differs ends' mem)
  exact ⟨String.toList_inj.1 names, (List.cons.inj tail).2⟩

end Text

namespace ScalarKind

/-- Kinds differ in their names. -/
theorem name_inj {k k' : ScalarKind} (same : k.name = k'.name) : k = k' := by
  have distinct : ∀ k ∈ all, ∀ k' ∈ all, k.name = k'.name → k = k' := by decide
  exact distinct k (mem_all k) k' (mem_all k') same

/-- No name of a kind holds a character that follows it in a key. -/
theorem name_plain (k : ScalarKind) : '?' ∉ k.name.toList ∧ '|' ∉ k.name.toList := by
  have plain : ∀ k ∈ all, '?' ∉ k.name.toList ∧ '|' ∉ k.name.toList := by decide
  exact plain k (mem_all k)

end ScalarKind

namespace QueryModel

/-! ### Characters of a key -/

/-- What stands behind the kind of a property: a mark when the property is nullable. -/
def nullableMark (p : ProjectedProperty) : List Char := if p.nullable then ['?'] else []

/-- The characters that properties contribute to a key. -/
def propertyChars : List ProjectedProperty → List Char
  | [] => []
  | p :: rest =>
      '|' :: (p.property.toList ++ '=' :: (p.attributeName.toList ++ ':' ::
        (p.kind.name.toList ++ (nullableMark p ++ propertyChars rest))))

theorem propertyChars_eq (properties : List ProjectedProperty) :
    (String.join (properties.map propertyKey)).toList = propertyChars properties := by
  induction properties with
  | nil => rfl
  | cons p rest ih =>
      have mark : (if p.nullable = true then "?" else "").toList = nullableMark p := by
        rw [nullableMark]
        split <;> rfl
      rw [String.toList_join] at ih ⊢
      rw [List.map_cons, List.flatMap_cons, ih, propertyChars, propertyKey, String.toList_append,
        mark]
      simp [String.toList_append, toString]

theorem key_toList (m : QueryModel) :
    m.key.toList = m.entity.toList ++ '@' :: (m.table.toList ++ propertyChars m.properties) := by
  rw [key, String.toList_append, propertyChars_eq]
  simp [String.toList_append, toString]

/-! ### Keys taken apart -/

/-- Names of a model that do not hold the character behind them in the key. -/
structure Separable (m : QueryModel) : Prop where
  entity : '@' ∉ m.entity.toList
  table : '|' ∉ m.table.toList
  property : ∀ p ∈ m.properties, '=' ∉ p.property.toList
  attributeName : ∀ p ∈ m.properties, ':' ∉ p.attributeName.toList

/-- Behind the kind of a property there is its mark, the next property or nothing. -/
theorem kind_ends (k : ScalarKind) (p : ProjectedProperty) (rest : List ProjectedProperty) :
    ∀ c ∈ k.name.toList, (nullableMark p ++ propertyChars rest).head? ≠ some c := by
  obtain ⟨question, bar⟩ := k.name_plain
  rintro c mem equal
  rw [nullableMark] at equal
  split at equal
  · exact question (Option.some.inj equal ▸ mem)
  · cases rest with
    | nil => cases equal
    | cons p rest => exact bar (Option.some.inj equal ▸ mem)

/-- A mark is told from what stands behind it. -/
theorem mark_inj {p q : ProjectedProperty} {rest rest' : List ProjectedProperty}
    (same : nullableMark p ++ propertyChars rest = nullableMark q ++ propertyChars rest') :
    p.nullable = q.nullable ∧ propertyChars rest = propertyChars rest' := by
  have unmarked : ∀ (rest : List ProjectedProperty) (cs : List Char),
      '?' :: cs ≠ propertyChars rest := by
    rintro (_ | ⟨p, rest⟩) cs equal
    · cases equal
    · exact absurd (List.cons.inj equal).1 (by decide)
  cases hp : p.nullable <;> cases hq : q.nullable <;>
    simp only [nullableMark, hp, hq, if_true, Bool.false_eq_true, if_false, List.nil_append,
      List.cons_append] at same
  · exact ⟨rfl, same⟩
  · exact absurd same.symm (unmarked _ _)
  · exact absurd same (unmarked _ _)
  · exact ⟨rfl, (List.cons.inj same).2⟩

/-- Properties of separable names are known by their characters. -/
theorem propertyChars_inj {properties others : List ProjectedProperty}
    (names : ∀ p ∈ properties, '=' ∉ p.property.toList ∧ ':' ∉ p.attributeName.toList)
    (names' : ∀ p ∈ others, '=' ∉ p.property.toList ∧ ':' ∉ p.attributeName.toList)
    (same : propertyChars properties = propertyChars others) : properties = others := by
  induction properties generalizing others with
  | nil =>
      cases others with
      | nil => rfl
      | cons q others => cases same
  | cons p properties ih =>
      cases others with
      | nil => cases same
      | cons q others =>
          rw [List.forall_mem_cons] at names names'
          obtain ⟨property, same⟩ :=
            Text.append_cons_inj (List.cons.inj same).2 names.1.1 names'.1.1
          obtain ⟨attributeName, same⟩ := Text.append_cons_inj same names.1.2 names'.1.2
          obtain ⟨kindName, same⟩ := Text.append_inj_of_head? same (kind_ends _ q others)
            (kind_ends _ p properties)
          obtain ⟨nullable, same⟩ := mark_inj same
          have kind := ScalarKind.name_inj (String.toList_inj.1 kindName)
          have head : p = q := by
            cases p
            cases q
            congr
          rw [head, ih names.2 names'.2 same]

/-- Models of separable names with one key are equal. -/
theorem key_inj {m n : QueryModel} (left : m.Separable) (right : n.Separable)
    (same : m.key = n.key) : m = n := by
  have chars := congrArg String.toList same
  rw [key_toList, key_toList] at chars
  obtain ⟨entity, chars⟩ := Text.append_cons_inj chars left.entity right.entity
  -- behind a table there is a property or nothing
  have table_ends : ∀ {s : String} (properties : List ProjectedProperty), '|' ∉ s.toList →
      ∀ c ∈ s.toList, (propertyChars properties).head? ≠ some c := by
    rintro s (_ | ⟨p, rest⟩) notMem c mem equal
    · cases equal
    · exact notMem (Option.some.inj equal ▸ mem)
  obtain ⟨table, chars⟩ := Text.append_inj_of_head? chars (table_ends n.properties left.table)
    (table_ends m.properties right.table)
  have properties := propertyChars_inj
    (fun p mem => ⟨left.property p mem, left.attributeName p mem⟩)
    (fun p mem => ⟨right.property p mem, right.attributeName p mem⟩) chars
  have tableName := String.toList_inj.1 table
  cases m
  cases n
  congr

end QueryModel

end Keyscan
