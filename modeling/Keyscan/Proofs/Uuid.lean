import Mathlib.Data.String.Basic
import Keyscan.Uuid

/-!
Identifiers read back. The text of an identifier is its digits with hyphens between the groups, so
taking the hyphens out leaves the digits, and putting them in again gives the text.
-/

set_option autoImplicit false

namespace Keyscan

/-- A text of characters below 128 takes a byte for each. -/
theorem utf8ByteSize_ascii {cs : List Char} (ascii : ∀ c ∈ cs, c.toNat < 128) :
    (String.ofList cs).utf8ByteSize = cs.length := by
  rw [String.utf8ByteSize_ofList]
  induction cs with
  | nil => rfl
  | cons c cs ih =>
      rw [List.forall_mem_cons] at ascii
      have one : c.utf8Size = 1 := by
        rw [Char.utf8Size_eq_one_iff, UInt32.le_iff_toNat_le]
        exact Nat.le_of_lt_succ ascii.1
      rw [String.utf8Len_cons, ih ascii.2, one, List.length_cons]

/-- The lowercase hexadecimal digits by their numbers. -/
theorem toNat_of_isLowerHex {c : Char} (hex : isLowerHex c = true) :
    48 ≤ c.toNat ∧ c.toNat ≤ 57 ∨ 97 ≤ c.toNat ∧ c.toNat ≤ 102 := by
  simp only [isLowerHex, Bool.or_eq_true, Bool.and_eq_true, decide_eq_true_eq] at hex
  rcases hex with digit | ⟨low, high⟩
  · exact .inl (Char.isDigit_iff_toNat.1 digit)
  · exact .inr ⟨UInt32.le_iff_toNat_le.1 low, UInt32.le_iff_toNat_le.1 high⟩

/-- Characters that are no capital letters stay as they are in lowercase. -/
theorem toLower_eq_self {c : Char} (noCapital : c.toNat < 65 ∨ 90 < c.toNat) : c.toLower = c := by
  refine dif_neg ?_
  rintro ⟨low, high⟩
  have least : 65 ≤ c.toNat := UInt32.le_iff_toNat_le.1 low
  have most : c.toNat ≤ 90 := UInt32.le_iff_toNat_le.1 high
  omega

namespace Uuid

/-! ### Groups -/

section Hyphenate

variable {lengths : List Nat} {digits : List Char}

/-- The groups after the first follow a hyphen. -/
theorem hyphenate_cons_cons (n m : Nat) (more : List Nat) (digits : List Char) :
    hyphenate (n :: m :: more) digits =
      digits.take n ++ '-' :: hyphenate (m :: more) (digits.drop n) := by
  simp [hyphenate]

/-- Between digits there are hyphens only. -/
theorem mem_hyphenate : ∀ c ∈ hyphenate lengths digits, c ∈ digits ∨ c = '-' := by
  induction lengths generalizing digits with
  | nil => simp [hyphenate]
  | cons n more ih =>
      cases more with
      | nil => exact fun c mem => .inl (List.mem_of_mem_take mem)
      | cons m more =>
          intro c mem
          rw [hyphenate_cons_cons] at mem
          rcases List.mem_append.1 mem with group | behind
          · exact .inl (List.mem_of_mem_take group)
          · rcases List.mem_cons.1 behind with hyphen | later
            · exact .inr hyphen
            · exact (ih c later).imp_left List.mem_of_mem_drop

/-- Without the hyphens the digits are left, when the groups take them all. -/
theorem filter_hyphenate (complete : lengths.foldr (· + ·) 0 = digits.length)
    (unhyphened : ∀ c ∈ digits, c ≠ '-') :
    (hyphenate lengths digits).filter (· != '-') = digits := by
  have kept {cs : List Char} (within : ∀ c ∈ cs, c ≠ '-') : cs.filter (· != '-') = cs := by
    rw [List.filter_eq_self]
    intro c mem
    simpa using within c mem
  induction lengths generalizing digits with
  | nil =>
      rw [List.length_eq_zero_iff.1 complete.symm]
      rfl
  | cons n more ih =>
      cases more with
      | nil =>
          have whole : digits.take n = digits := List.take_of_length_le (Nat.le_of_eq complete.symm)
          rw [hyphenate, whole, kept unhyphened]
      | cons m more =>
          rw [List.foldr_cons] at complete
          have behind : (m :: more).foldr (· + ·) 0 = (digits.drop n).length := by
            rw [List.length_drop]
            omega
          have rest := ih behind fun c mem => unhyphened c (List.mem_of_mem_drop mem)
          have group := kept fun c mem => unhyphened c (List.mem_of_mem_take (i := n) mem)
          rw [hyphenate_cons_cons, List.filter_append, group, List.filter_cons_of_neg (by simp),
            rest, List.take_append_drop]

/-- There is a hyphen between any two groups. -/
theorem length_hyphenate (complete : lengths.foldr (· + ·) 0 = digits.length)
    (some_group : lengths ≠ []) :
    (hyphenate lengths digits).length + 1 = digits.length + lengths.length := by
  induction lengths generalizing digits with
  | nil => exact absurd rfl some_group
  | cons n more ih =>
      rw [List.foldr_cons] at complete
      cases more with
      | nil =>
          have whole : digits.take n = digits := List.take_of_length_le (Nat.le_of_eq complete.symm)
          rw [hyphenate, whole]
          rfl
      | cons m more =>
          have behind : (m :: more).foldr (· + ·) 0 = (digits.drop n).length := by
            rw [List.length_drop]
            omega
          have rest := ih behind (List.cons_ne_nil m more)
          rw [List.length_drop] at rest
          rw [hyphenate_cons_cons, List.length_append, List.length_take, List.length_cons,
            List.length_cons]
          omega

end Hyphenate

/-! ### Written identifiers -/

variable (u : Uuid)

/-- What stands in the text of an identifier is a lowercase digit or a hyphen. -/
theorem mem_text : ∀ c ∈ hyphenate groupLengths u.digits, isLowerHex c = true ∨ c = '-' :=
  fun c mem => (mem_hyphenate c mem).imp_left (List.all_eq_true.1 u.lowerHex c)

/-- The text of an identifier takes 36 bytes. -/
theorem utf8ByteSize_print : u.print.utf8ByteSize = 36 := by
  have complete : groupLengths.foldr (· + ·) 0 = u.digits.length := u.length_eq.symm
  have length := length_hyphenate complete (by decide)
  have groups : groupLengths.length = 5 := rfl
  rw [print, utf8ByteSize_ascii]
  · rw [u.length_eq, groups] at length
    omega
  · intro c mem
    rcases u.mem_text c mem with hex | rfl
    · have numbers := toNat_of_isLowerHex hex
      omega
    · decide

/-- A written identifier is read as it was. -/
theorem read_print : read u.print = .ok u := by
  have lower : (hyphenate groupLengths u.digits).map Char.toLower =
      hyphenate groupLengths u.digits := by
    have same : ∀ c ∈ hyphenate groupLengths u.digits, c.toLower = id c := by
      intro c mem
      rcases u.mem_text c mem with hex | rfl
      · have numbers := toNat_of_isLowerHex hex
        exact toLower_eq_self (by omega)
      · rfl
    rw [List.map_congr_left same, List.map_id]
  have unhyphened : ∀ c ∈ u.digits, c ≠ '-' := by
    rintro c mem rfl
    exact absurd (List.all_eq_true.1 u.lowerHex _ mem) (by decide)
  have complete : groupLengths.foldr (· + ·) 0 = u.digits.length := u.length_eq.symm
  have digits : ofDigits? u.digits = some u := dif_pos ⟨u.length_eq, u.lowerHex⟩
  have text : read? (hyphenate groupLengths u.digits) = some u := by
    rw [read?]
    simp only [lower, filter_hyphenate complete unhyphened, digits, Option.bind_eq_bind,
      Option.bind_some, if_true]
  rw [read, if_neg (fun wrong => wrong u.utf8ByteSize_print), print, String.toList_ofList, text]

end Uuid

end Keyscan
