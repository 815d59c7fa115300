import Keyscan.Number.Literal

/-!
Decimal text of natural numbers read back. Reading stops at the first digit that carries the value
beyond the bound; the text of a number within the bound has none, because values only grow.
-/

set_option autoImplicit false

namespace Keyscan

/-- Further digits never make a value smaller. -/
theorem le_ofDigitChars (cs : List Char) (value : Nat) :
    value ≤ Nat.ofDigitChars 10 cs value := by
  induction cs generalizing value with
  | nil => simp
  | cons c rest ih =>
      rw [Nat.ofDigitChars_cons]
      have tail := ih (10 * value + (c.toNat - '0'.toNat))
      omega

/-- Digits end where a text begins that has none in front. -/
theorem span_digits {digits rest : List Char} (all : ∀ c ∈ digits, c.isDigit = true)
    (ends : ∀ c ∈ rest.head?, c.isDigit = false) :
    (digits ++ rest).takeWhile Char.isDigit = digits ∧
      (digits ++ rest).dropWhile Char.isDigit = rest := by
  rw [List.takeWhile_append_of_pos all, List.dropWhile_append_of_pos all]
  cases rest with
  | nil => simp
  | cons c more =>
      have stop := ends c rfl
      simp [stop]

/-- Only zero has a zero as its first digit. -/
theorem eq_zero_of_head?_toDigits {n : Nat} (zero : (Nat.toDigits 10 n).head? = some '0') :
    n = 0 := by
  induction n using Nat.strongRecOn with
  | ind n ih =>
      rw [Nat.toDigits_eq_if (by decide)] at zero
      split at zero
      · rename_i small
        have all : ∀ d : Fin 10, [d.1.digitChar].head? = some '0' → d.1 = 0 := by decide
        exact all ⟨n, small⟩ zero
      · rename_i large
        obtain ⟨d, more, begins⟩ := List.exists_cons_of_ne_nil
          (Nat.toDigits_ne_nil : Nat.toDigits 10 (n / 10) ≠ [])
        rw [begins] at zero
        have first := ih (n / 10) (by omega) (by rw [begins]; exact zero)
        omega

/-- The digits of a number have it as their value. -/
theorem digitsValue_toDigits (n : Nat) : digitsValue (Nat.toDigits 10 n) = n := by
  have value : digitsValue (Nat.toDigits 10 n) = Nat.ofDigitChars 10 (Nat.toDigits 10 n) 0 := by
    rw [Nat.ofDigitChars_eq_foldl]
    rfl
  rw [value, Nat.ofDigitChars_ten_toDigits]

/-- Digits are read as their value, which must be within the bound. -/
theorem readDigits_eq {bound : Nat} (overflow : IntegerError) {cs : List Char} {value : Nat}
    (digits : ∀ c ∈ cs, c.isDigit = true) (within : Nat.ofDigitChars 10 cs value ≤ bound) :
    readDigits bound overflow value cs = .ok (Nat.ofDigitChars 10 cs value) := by
  induction cs generalizing value with
  | nil => simp [readDigits]
  | cons c rest ih =>
      have digit := digits c List.mem_cons_self
      rw [Nat.ofDigitChars_cons] at within ⊢
      have next : 10 * value + digitValue c ≤ bound :=
        Nat.le_trans (le_ofDigitChars rest _) within
      rw [readDigits, if_pos digit, if_pos next]
      exact ih (fun d hd => digits d (List.mem_cons_of_mem _ hd)) within

/-- The digits of a number are read as the number. -/
theorem readSomeDigits_toDigits {bound n : Nat} (overflow : IntegerError) (within : n ≤ bound) :
    readSomeDigits bound overflow (Nat.toDigits 10 n) = .ok n := by
  have nonempty : (Nat.toDigits 10 n).isEmpty = false := by simp [Nat.toDigits_ne_nil]
  have value : Nat.ofDigitChars 10 (Nat.toDigits 10 n) 0 = n := Nat.ofDigitChars_ten_toDigits
  have digits : ∀ c ∈ Nat.toDigits 10 n, c.isDigit = true :=
    fun c hc => Nat.isDigit_of_mem_toDigits (by decide) (by decide) hc
  rw [readSomeDigits, nonempty, if_neg (by simp),
    readDigits_eq overflow digits (by rw [value]; exact within), value]

/-- The digits of a natural number are read as the number in every range that reaches so far. -/
theorem readInteger_toDigits {low high : Int} {n : Nat} (within : n ≤ high.toNat) :
    readInteger low high (Nat.toDigits 10 n) = .ok n := by
  have read := readSomeDigits_toDigits .tooLarge within
  cases digits : Nat.toDigits 10 n with
  | nil => exact absurd digits Nat.toDigits_ne_nil
  | cons c rest =>
      have digit : c.isDigit = true :=
        Nat.isDigit_of_mem_toDigits (by decide) (by decide) (digits ▸ List.mem_cons_self)
      have notPlus : c ≠ '+' := by rintro rfl; exact absurd digit (by decide)
      have notMinus : ¬ (c = '-' ∧ low < 0) := by rintro ⟨rfl, _⟩; exact absurd digit (by decide)
      rw [digits] at read
      simp only [readInteger, if_neg notPlus, if_neg notMinus, read]
      rfl

/-- The digits of a natural number are read as the number when it has no more bits than allowed. -/
theorem readNatural_toDigits {bits n : Nat} (within : n < Nat.pow 2 bits) :
    readNatural bits (Nat.toDigits 10 n) = .ok n := by
  have bound : n ≤ ((Nat.pow 2 bits - 1 : Nat) : Int).toNat := by
    rw [Int.toNat_natCast]
    omega
  rw [readNatural, readInteger_toDigits bound]
  rfl

/-- The text of an integer is read as the integer in every range that holds it. -/
theorem readInteger_toString {low high n : Int} (least : low ≤ n) (most : n ≤ high) :
    readInteger low high (toString n).toList = .ok n := by
  cases n with
  | ofNat m =>
      have text : (toString (Int.ofNat m)).toList = Nat.toDigits 10 m := String.toList_ofList
      have within : m ≤ high.toNat := by
        simp only [Int.ofNat_eq_natCast] at most
        omega
      rw [text, readInteger_toDigits within]
      rfl
  | negSucc m =>
      have text : (toString (Int.negSucc m)).toList = '-' :: Nat.toDigits 10 (m + 1) := by
        have digits : (toString (m + 1)).toList = Nat.toDigits 10 (m + 1) := String.toList_ofList
        have sign : toString (Int.negSucc m) = "-" ++ toString (m + 1) := rfl
        rw [sign, String.toList_append, digits]
        rfl
      have negative : low < 0 := Int.lt_of_le_of_lt least (Int.negSucc_lt_zero m)
      have within : m + 1 ≤ (-low).toNat := by
        rw [Int.negSucc_eq] at least
        omega
      rw [text, readInteger, if_neg (by decide), if_pos ⟨rfl, negative⟩,
        readSomeDigits_toDigits .tooSmall within]
      rfl

end Keyscan
