import Mathlib.Algebra.Order.Field.Rat
import Mathlib.Data.List.TakeWhile
import Mathlib.Tactic.Positivity
import Keyscan.Number.Decimal
import Keyscan.Proofs.Number.Digits

/-!
Decimal text read back. A decimal is written with all its places, so its digits, point taken out, are
those of its mantissa; reading pushes them one after the other, and neither the mantissa nor the scale
leaves its bounds on the way. What is read is the decimal itself (`read_display`), except that minus
zero loses its sign. It is the same number (`sameNumber_unsigned`), and `sameNumber` compares numbers
(`sameNumber_iff`).
-/

set_option autoImplicit false

namespace Keyscan

namespace Decimal

/-! ### Numbers -/

/-- The mantissa under the sign. -/
def signed (d : Decimal) : ℤ := if d.negative then -(d.mantissa : ℤ) else d.mantissa

/-- The number that a decimal denotes. -/
def value (d : Decimal) : ℚ := d.signed / 10 ^ d.scale

theorem signed_mul (d : Decimal) (places : ℕ) :
    d.signed * 10 ^ places =
      if d.negative then -((d.mantissa * 10 ^ places : ℕ) : ℤ)
      else ((d.mantissa * 10 ^ places : ℕ) : ℤ) := by
  rw [signed]
  split <;> simp

/-- Decimals compare as the numbers that they denote. -/
theorem sameNumber_iff (x y : Decimal) : x.sameNumber y = true ↔ x.value = y.value := by
  have scaled : x.value = y.value ↔ x.signed * 10 ^ y.scale = y.signed * 10 ^ x.scale := by
    rw [value, value, div_eq_div_iff (by positivity) (by positivity)]
    norm_cast
  have zero : x.mantissa = 0 ↔ x.mantissa * 10 ^ y.scale = 0 := by simp
  rw [scaled, sameNumber, signed_mul, signed_mul]
  simp only [Nat.pow_eq, Bool.and_eq_true, Bool.or_eq_true, beq_iff_eq, zero]
  -- On one scale, numbers are the same when their digits are, and their signs unless these are zero.
  generalize x.mantissa * 10 ^ y.scale = left
  generalize y.mantissa * 10 ^ x.scale = right
  cases x.negative <;> cases y.negative <;>
    simp only [Bool.false_eq_true, reduceCtorEq, if_true, if_false, true_or, false_or,
      true_and] <;> omega

/-- Zero has no sign as a number. -/
theorem sameNumber_unsigned (d : Decimal) :
    (ofParts d.negative d.mantissa d.scale d.mantissa_lt d.scale_le).sameNumber d = true := by
  rw [sameNumber_iff, value, value, signed, signed]
  by_cases zero : d.mantissa = 0 <;> simp [ofParts, zero]

/-! ### Digits -/

namespace Progress

/-- What has been read once the digits are taken, too. -/
def pushAll (p : Progress) (digits : List Char) : Progress := digits.foldl push p

variable (p : Progress) (digits : List Char)

theorem pushAll_cons (c : Char) : p.pushAll (c :: digits) = (p.push c).pushAll digits := by
  rw [pushAll, pushAll, List.foldl_cons]

theorem mantissa_pushAll : (p.pushAll digits).mantissa = Nat.ofDigitChars 10 digits p.mantissa := by
  induction digits generalizing p with
  | nil => simp [pushAll]
  | cons c digits ih =>
      have next : (p.push c).mantissa = 10 * p.mantissa + (c.toNat - '0'.toNat) := rfl
      rw [pushAll_cons, ih, Nat.ofDigitChars_cons, next]

theorem pointSeen_pushAll : (p.pushAll digits).pointSeen = p.pointSeen := by
  induction digits generalizing p with
  | nil => rfl
  | cons c digits ih =>
      rw [pushAll_cons, ih]
      rfl

theorem scale_pushAll :
    (p.pushAll digits).scale = if p.pointSeen then p.scale + digits.length else p.scale := by
  induction digits generalizing p with
  | nil => simp [pushAll]
  | cons c digits ih =>
      rw [pushAll_cons, ih, push, List.length_cons]
      cases p.pointSeen
      · simp
      · simp only [if_true]
        omega

theorem digitSeen_pushAll {digits : List Char} (some_digit : digits ≠ []) :
    (p.pushAll digits).digitSeen = true := by
  induction digits generalizing p with
  | nil => exact absurd rfl some_digit
  | cons c digits ih =>
      rw [pushAll_cons]
      cases digits with
      | nil => rfl
      | cons d digits => exact ih (p.push c) (List.cons_ne_nil d digits)

end Progress

/-- Digits are taken one after the other where neither the mantissa nor the scale leaves its bounds. -/
theorem readDigitsFrom_append {p : Progress} {digits : List Char} (rest : List Char)
    (all : ∀ c ∈ digits, c.isDigit = true)
    (within : Nat.ofDigitChars 10 digits p.mantissa < mantissaLimit)
    (room : if p.pointSeen then p.scale + digits.length ≤ 28 else p.scale = 0) :
    readDigitsFrom p (digits ++ rest) = readDigitsFrom (p.pushAll digits) rest := by
  induction digits generalizing p with
  | nil => rfl
  | cons c digits ih =>
      rw [List.forall_mem_cons] at all
      rw [Nat.ofDigitChars_cons] at within
      have next : (p.push c).mantissa < mantissaLimit :=
        Nat.lt_of_le_of_lt (le_ofDigitChars digits _) within
      have open_ : ¬ (p.scale = 28 ∧ ¬ (p.wide = true ∧ c = '_')) := by
        split at room
        · simp only [List.length_cons] at room
          omega
        · omega
      have still : if (p.push c).pointSeen then (p.push c).scale + digits.length ≤ 28
          else (p.push c).scale = 0 := by
        rw [Progress.push]
        cases seen : p.pointSeen
        · simpa [seen] using room
        · simp only [seen, if_true, List.length_cons] at room ⊢
          omega
      rw [List.cons_append, readDigitsFrom, if_neg open_, if_pos all.1, if_pos next,
        ih all.2 within still, Progress.pushAll_cons]

/-- A point and the digits behind it end a number: they fit when there are no more of them than a
decimal has places. -/
theorem readDigitsFrom_point {p : Progress} {fraction : List Char} (whole : p.pointSeen = false)
    (unscaled : p.scale = 0) (all : ∀ c ∈ fraction, c.isDigit = true) (some_digit : fraction ≠ [])
    (most : fraction.length ≤ 28)
    (within : Nat.ofDigitChars 10 fraction p.mantissa < mantissaLimit) :
    readDigitsFrom p ('.' :: fraction) =
      .ok ({ p with pointSeen := true : Progress }.pushAll fraction) := by
  have inside : ¬ (p.scale = 28 ∧ ¬ (p.wide = true ∧ '.' = '_')) := by omega
  have first : '.' = '.' ∧ (!p.pointSeen) = true := by simp [whole]
  have digits := readDigitsFrom_append (p := { p with pointSeen := true }) [] all within
    (by simp [unscaled, most])
  rw [List.append_nil] at digits
  rw [readDigitsFrom, if_neg inside, if_neg (by decide), if_pos first, digits, readDigitsFrom,
    if_pos (Progress.digitSeen_pushAll _ some_digit)]

/-! ### Positional text -/

/-- Digits with a point are the digits before it and those behind it, as many as there are places. -/
theorem exists_pointed (digits : List Char) (places : Nat) :
    ∃ zeros whole fraction, pointed digits places =
        (if places = 0 then whole else whole ++ '.' :: fraction) ∧
      whole ≠ [] ∧ fraction.length = places ∧
      whole ++ fraction = List.replicate zeros '0' ++ digits := by
  have long : places < (List.replicate (places + 1 - digits.length) '0' ++ digits).length := by
    simp only [List.length_append, List.length_replicate]
    omega
  refine ⟨places + 1 - digits.length, _, _, rfl, ?_, ?_, List.take_append_drop _ _⟩
  · apply List.ne_nil_of_length_pos
    rw [List.length_take]
    omega
  · rw [List.length_drop]
    omega

/-- The text of a number with a point in it: digits that denote the number, with a point in front of
the last of them. -/
theorem exists_pointed_toDigits (n places : Nat) :
    ∃ whole fraction, pointed (Nat.toDigits 10 n) places =
        (if places = 0 then whole else whole ++ '.' :: fraction) ∧
      whole ≠ [] ∧ fraction.length = places ∧
      (∀ c ∈ whole, c.isDigit = true) ∧ (∀ c ∈ fraction, c.isDigit = true) ∧
      Nat.ofDigitChars 10 fraction (Nat.ofDigitChars 10 whole 0) = n := by
  obtain ⟨zeros, whole, fraction, text, some_digit, behind, parts⟩ :=
    exists_pointed (Nat.toDigits 10 n) places
  have all : ∀ c ∈ whole ++ fraction, c.isDigit = true := by
    rw [parts]
    intro c mem
    rcases List.mem_append.1 mem with padding | digit
    · rw [List.eq_of_mem_replicate padding]
      rfl
    · exact Nat.isDigit_of_mem_toDigits (by decide) (by decide) digit
  rw [List.forall_mem_append] at all
  refine ⟨whole, fraction, text, some_digit, behind, all.1, all.2, ?_⟩
  rw [← Nat.ofDigitChars_append, parts, Nat.ofDigitChars_append, Nat.ofDigitChars_replicate_zero,
    Nat.mul_zero, Nat.ofDigitChars_ten_toDigits]

/-- The digits of a number with a point in them are read as the number, with the places behind the
point as the scale. -/
theorem readDigitsFrom_pointed {n places : Nat} (within : n < mantissaLimit) (most : places ≤ 28) :
    ∃ p, readDigitsFrom .start (pointed (Nat.toDigits 10 n) places) = .ok p ∧
      p.mantissa = n ∧ p.scale = places := by
  obtain ⟨whole, fraction, text, some_digit, behind, wholeDigits, fractionDigits, number⟩ :=
    exists_pointed_toDigits n places
  let p := Progress.start.pushAll whole
  have mantissa : p.mantissa = Nat.ofDigitChars 10 whole 0 := Progress.mantissa_pushAll _ _
  have scale : p.scale = 0 := Progress.scale_pushAll _ _
  have wholeRead (rest : List Char) : readDigitsFrom .start (whole ++ rest) = readDigitsFrom p rest :=
    readDigitsFrom_append rest wholeDigits
      (Nat.lt_of_le_of_lt (le_ofDigitChars fraction _) (number.symm ▸ within)) rfl
  by_cases integer : places = 0
  · have empty : fraction = [] := List.length_eq_zero_iff.1 (behind.trans integer)
    have read := wholeRead []
    rw [List.append_nil, readDigitsFrom, if_pos (Progress.digitSeen_pushAll _ some_digit)] at read
    rw [if_pos integer] at text
    refine ⟨p, by rw [text, read], ?_, scale.trans integer.symm⟩
    rw [mantissa, ← number, empty, Nat.ofDigitChars_nil]
  · have someFraction : fraction ≠ [] := by
      rintro rfl
      exact integer behind.symm
    have point := readDigitsFrom_point (Progress.pointSeen_pushAll _ _) scale fractionDigits
      someFraction (behind ▸ most) (by rw [mantissa, number]; exact within)
    rw [if_neg integer] at text
    refine ⟨_, by rw [text, wholeRead, point], ?_, ?_⟩
    · rw [Progress.mantissa_pushAll, mantissa, number]
    · rw [Progress.scale_pushAll, if_pos rfl, scale, behind, Nat.zero_add]

/-! ### Written decimals -/

/-- A text of a sign, digits and a point has no exponent. -/
theorem read_eq_readPlain {cs : List Char} (plain : ∀ c ∈ cs, isExponentMark c = false) :
    read cs = readPlain cs := by
  have unmarked : cs.dropWhile (!isExponentMark ·) = [] := by
    rw [List.dropWhile_eq_nil_iff]
    intro c mem
    rw [plain c mem]
    rfl
  rw [read, unmarked]

/-- What stands in a number with a point is a digit or the point. -/
theorem plain_pointed (n places : Nat) :
    ∀ c ∈ pointed (Nat.toDigits 10 n) places, c.isDigit = true ∨ c = '.' := by
  obtain ⟨whole, fraction, text, -, -, wholeDigits, fractionDigits, -⟩ :=
    exists_pointed_toDigits n places
  intro c mem
  rw [text] at mem
  split at mem
  · exact .inl (wholeDigits c mem)
  · rcases List.mem_append.1 mem with digit | behind
    · exact .inl (wholeDigits c digit)
    · rcases List.mem_cons.1 behind with point | digit
      · exact .inr point
      · exact .inl (fractionDigits c digit)

/-- A number with a point begins with a digit. -/
theorem head_pointed (n places : Nat) :
    ∃ c rest, pointed (Nat.toDigits 10 n) places = c :: rest ∧ c.isDigit = true := by
  obtain ⟨whole, fraction, text, some_digit, -, wholeDigits, -⟩ := exists_pointed_toDigits n places
  obtain ⟨c, more, rfl⟩ := List.exists_cons_of_ne_nil some_digit
  have digit := wholeDigits c List.mem_cons_self
  split at text
  · exact ⟨c, more, text, digit⟩
  · exact ⟨c, more ++ '.' :: fraction, text, digit⟩

/-- A sign in front of a number is taken off. -/
theorem readPlain_signed (negative : Bool) {text rest : List Char} {c : Char} (begins : text = c :: rest)
    (digit : c.isDigit = true) :
    readPlain ((if negative then ['-'] else []) ++ text) =
      (readDigitsFrom .start text).bind fun p => p.toDecimal negative := by
  have notMinus : c ≠ '-' := by rintro rfl; exact absurd digit (by decide)
  have notPlus : c ≠ '+' := by rintro rfl; exact absurd digit (by decide)
  cases negative with
  | true => simp [readPlain]
  | false => simp [begins, readPlain, notMinus, notPlus]

/-- The text of a decimal has no exponent. -/
theorem plain_display (d : Decimal) : ∀ c ∈ d.display.toList, isExponentMark c = false := by
  intro c mem
  rw [display, String.toList_ofList] at mem
  rcases List.mem_append.1 mem with sign | body
  · have minus : c = '-' := by split at sign <;> simp_all
    rw [minus]
    rfl
  · rcases plain_pointed d.mantissa d.scale c body with digit | rfl
    · have notLower : c ≠ 'e' := by rintro rfl; exact absurd digit (by decide)
      have notUpper : c ≠ 'E' := by rintro rfl; exact absurd digit (by decide)
      simp [isExponentMark, notLower, notUpper]
    · rfl

/-- A written decimal is read as it was, except that minus zero loses its sign. -/
theorem read_display (d : Decimal) :
    read d.display.toList =
      .ok (ofParts d.negative d.mantissa d.scale d.mantissa_lt d.scale_le) := by
  obtain ⟨c, rest, begins, digit⟩ := head_pointed d.mantissa d.scale
  obtain ⟨p, read, mantissa, scale⟩ := readDigitsFrom_pointed d.mantissa_lt d.scale_le
  rw [read_eq_readPlain (plain_display d), display, String.toList_ofList,
    readPlain_signed _ begins digit, read]
  have within : p.mantissa < mantissaLimit := mantissa ▸ d.mantissa_lt
  have places : p.scale ≤ 28 := scale ▸ d.scale_le
  change p.toDecimal d.negative = _
  rw [Progress.toDecimal, dif_pos within, dif_pos places]
  simp only [mantissa, scale]

end Decimal

end Keyscan
