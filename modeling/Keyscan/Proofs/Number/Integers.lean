import Keyscan.Proofs.Number.Digits

/-!
Which texts are integers, and what reading makes of those that are not. `IntegerText` says what a text
denotes, with no regard to any range. Reading goes from left to right, so a text is refused as too
large or too small as soon as some beginning of it is an integer beyond the range, whatever stands
behind that beginning (`readInteger_overflow_iff`).
-/

set_option autoImplicit false

namespace Keyscan

/-- The integer that a text of one or more digits behind an optional sign denotes. A minus sign is one
only where negative numbers are wanted. -/
inductive IntegerText (signed : Bool) : List Char → Int → Prop
  | plain {digits : List Char} (nonempty : digits ≠ []) (all : ∀ c ∈ digits, c.isDigit = true) :
      IntegerText signed digits (digitsValue digits)
  | plus {digits : List Char} (nonempty : digits ≠ []) (all : ∀ c ∈ digits, c.isDigit = true) :
      IntegerText signed ('+' :: digits) (digitsValue digits)
  | minus {digits : List Char} (negative : signed = true) (nonempty : digits ≠ [])
      (all : ∀ c ∈ digits, c.isDigit = true) :
      IntegerText signed ('-' :: digits) (-(digitsValue digits : Int))

/-! ### Digits -/

section Digits

variable {bound value : Nat} (overflow : IntegerError)

theorem ofDigitChars_eq_digitsValue (cs : List Char) : Nat.ofDigitChars 10 cs 0 = digitsValue cs := by
  rw [Nat.ofDigitChars_eq_foldl]
  rfl

/-- Digits that lead beyond the bound are refused for that, whatever stands behind them. -/
theorem readDigits_beyond {front : List Char} (digits : ∀ c ∈ front, c.isDigit = true)
    (within : value ≤ bound) (beyond : bound < Nat.ofDigitChars 10 front value) (back : List Char) :
    readDigits bound overflow value (front ++ back) = .error overflow := by
  induction front generalizing value with
  | nil =>
      rw [Nat.ofDigitChars_nil] at beyond
      omega
  | cons c rest ih =>
      rw [Nat.ofDigitChars_cons] at beyond
      rw [List.cons_append, readDigits, if_pos (digits c List.mem_cons_self)]
      by_cases next : 10 * value + digitValue c ≤ bound
      · rw [if_pos next]
        exact ih (fun d mem => digits d (List.mem_cons_of_mem c mem)) next beyond
      · rw [if_neg next]

/-- A character that is no digit is refused behind digits within the bound. -/
theorem readDigits_junk {front : List Char} {c : Char} (digits : ∀ d ∈ front, d.isDigit = true)
    (within : Nat.ofDigitChars 10 front value ≤ bound) (junk : c.isDigit = false)
    (back : List Char) :
    readDigits bound overflow value (front ++ c :: back) = .error .invalidDigit := by
  induction front generalizing value with
  | nil => rw [List.nil_append, readDigits, if_neg (by simp [junk])]
  | cons d rest ih =>
      rw [Nat.ofDigitChars_cons] at within
      have next : 10 * value + digitValue d ≤ bound :=
        Nat.le_trans (le_ofDigitChars rest _) within
      rw [List.cons_append, readDigits, if_pos (digits d List.mem_cons_self), if_pos next]
      exact ih (fun e mem => digits e (List.mem_cons_of_mem d mem)) within

/-- A text is digits within the bound, or digits beyond it come first, or something else does. -/
theorem digits_cases (within : value ≤ bound) (cs : List Char) :
    ((∀ c ∈ cs, c.isDigit = true) ∧ Nat.ofDigitChars 10 cs value ≤ bound) ∨
    (∃ front back, cs = front ++ back ∧ (∀ c ∈ front, c.isDigit = true) ∧
      bound < Nat.ofDigitChars 10 front value) ∨
    ∃ front c back, cs = front ++ c :: back ∧ (∀ d ∈ front, d.isDigit = true) ∧
      Nat.ofDigitChars 10 front value ≤ bound ∧ c.isDigit = false := by
  induction cs generalizing value with
  | nil => exact .inl ⟨nofun, by rwa [Nat.ofDigitChars_nil]⟩
  | cons c rest ih =>
      have value_cons (ds : List Char) : Nat.ofDigitChars 10 (c :: ds) value =
          Nat.ofDigitChars 10 ds (10 * value + digitValue c) :=
        Nat.ofDigitChars_cons
      by_cases digit : c.isDigit = true
      · by_cases next : 10 * value + digitValue c ≤ bound
        · rcases ih next with ⟨all, last⟩ | ⟨front, back, rfl, all, beyond⟩ |
            ⟨front, d, back, rfl, all, last, junk⟩
          · exact .inl ⟨List.forall_mem_cons.2 ⟨digit, all⟩, by rwa [value_cons]⟩
          · exact .inr (.inl ⟨c :: front, back, rfl, List.forall_mem_cons.2 ⟨digit, all⟩,
              by rwa [value_cons]⟩)
          · exact .inr (.inr ⟨c :: front, d, back, rfl, List.forall_mem_cons.2 ⟨digit, all⟩,
              by rwa [value_cons], junk⟩)
        · refine .inr (.inl ⟨[c], rest, rfl, List.forall_mem_singleton.2 digit, ?_⟩)
          rw [value_cons, Nat.ofDigitChars_nil]
          omega
      · exact .inr (.inr ⟨[], c, rest, rfl, nofun, by rwa [Nat.ofDigitChars_nil],
          Bool.eq_false_iff.2 digit⟩)

theorem readSomeDigits_of_ne_nil {cs : List Char} (nonempty : cs ≠ []) :
    readSomeDigits bound overflow cs = readDigits bound overflow 0 cs :=
  if_neg (by rwa [List.isEmpty_iff])

/-- Digits within the bound are read as their value. -/
theorem readSomeDigits_within {cs : List Char} (nonempty : cs ≠ [])
    (digits : ∀ c ∈ cs, c.isDigit = true) (within : digitsValue cs ≤ bound) :
    readSomeDigits bound overflow cs = .ok (digitsValue cs) := by
  rw [← ofDigitChars_eq_digitsValue] at within ⊢
  rw [readSomeDigits_of_ne_nil overflow nonempty, readDigits_eq overflow digits within]

theorem readSomeDigits_beyond {front : List Char} (nonempty : front ≠ [])
    (digits : ∀ c ∈ front, c.isDigit = true) (beyond : bound < digitsValue front)
    (back : List Char) : readSomeDigits bound overflow (front ++ back) = .error overflow := by
  rw [← ofDigitChars_eq_digitsValue] at beyond
  rw [readSomeDigits_of_ne_nil overflow (List.append_ne_nil_of_left_ne_nil nonempty back),
    readDigits_beyond overflow digits (Nat.zero_le bound) beyond]

/-- A text is read when it is digits within the bound, refused as beyond the bound when it begins with
digits that are, and refused as something else than digits otherwise. -/
theorem readSomeDigits_cases (bound : Nat) (overflow : IntegerError) (cs : List Char) :
    (cs ≠ [] ∧ (∀ c ∈ cs, c.isDigit = true) ∧ digitsValue cs ≤ bound ∧
      readSomeDigits bound overflow cs = .ok (digitsValue cs)) ∨
    (∃ front back, cs = front ++ back ∧ front ≠ [] ∧ (∀ c ∈ front, c.isDigit = true) ∧
      bound < digitsValue front) ∨
    readSomeDigits bound overflow cs = .error .invalidDigit := by
  by_cases nonempty : cs = []
  · subst nonempty
    exact .inr (.inr rfl)
  rcases digits_cases (Nat.zero_le bound) cs with ⟨all, last⟩ | ⟨front, back, rfl, all, beyond⟩ |
    ⟨front, c, back, rfl, all, last, junk⟩
  · rw [ofDigitChars_eq_digitsValue] at last
    exact .inl ⟨nonempty, all, last, readSomeDigits_within overflow nonempty all last⟩
  · refine .inr (.inl ⟨front, back, rfl, ?_, all, ofDigitChars_eq_digitsValue front ▸ beyond⟩)
    rintro rfl
    exact Nat.not_lt_zero bound beyond
  · rw [readSomeDigits_of_ne_nil overflow nonempty]
    exact .inr (.inr (readDigits_junk overflow all last junk back))

end Digits

/-! ### Signs -/

theorem not_integerText_nil {signed : Bool} {n : Int} : ¬ IntegerText signed [] n := by
  intro text
  cases text with
  | plain nonempty _ => exact nonempty rfl

/-- A text that begins with no sign is an integer when it is digits. -/
theorem integerText_plain_iff {signed : Bool} {c : Char} (plus : c ≠ '+')
    (minus : ¬ (c = '-' ∧ signed = true)) {cs : List Char} {n : Int} :
    IntegerText signed (c :: cs) n ↔
      (∀ d ∈ c :: cs, d.isDigit = true) ∧ n = digitsValue (c :: cs) := by
  constructor
  · intro text
    cases text with
    | plain _ all => exact ⟨all, rfl⟩
    | plus _ _ => exact absurd rfl plus
    | minus negative _ _ => exact absurd ⟨rfl, negative⟩ minus
  · rintro ⟨all, rfl⟩
    exact .plain (List.cons_ne_nil c cs) all

theorem integerText_plus_iff {signed : Bool} {cs : List Char} {n : Int} :
    IntegerText signed ('+' :: cs) n ↔
      cs ≠ [] ∧ (∀ d ∈ cs, d.isDigit = true) ∧ n = digitsValue cs := by
  constructor
  · intro text
    cases text with
    | plain _ all => exact absurd (all '+' List.mem_cons_self) (by decide)
    | plus nonempty all => exact ⟨nonempty, all, rfl⟩
  · rintro ⟨nonempty, all, rfl⟩
    exact .plus nonempty all

theorem integerText_minus_iff {signed : Bool} (negative : signed = true) {cs : List Char} {n : Int} :
    IntegerText signed ('-' :: cs) n ↔
      cs ≠ [] ∧ (∀ d ∈ cs, d.isDigit = true) ∧ n = -(digitsValue cs : Int) := by
  constructor
  · intro text
    cases text with
    | plain _ all => exact absurd (all '-' List.mem_cons_self) (by decide)
    | minus _ nonempty all => exact ⟨nonempty, all, rfl⟩
  · rintro ⟨nonempty, all, rfl⟩
    exact .minus negative nonempty all

section Signs

variable {low high : Int}

/-- How a text is read as an integer: as digits behind a sign, or none, up to a bound that is the end of
the range on the side of the sign. The same sign stands in front of every beginning of the text that is
an integer. -/
structure SignedDigits (low high : Int) (cs sign digits : List Char) (bound : Nat)
    (overflow : IntegerError) (value : Nat → Int) : Prop where
  parts : cs = sign ++ digits
  overflows : overflow.isOverflow = true
  read : readInteger low high cs = (readSomeDigits bound overflow digits).map value
  range : ∀ m, m ≤ bound ↔ low ≤ value m ∧ value m ≤ high
  texts : ∀ front back n, cs = front ++ back →
    (IntegerText (decide (low < 0)) front n ↔ ∃ ds, front = sign ++ ds ∧ ds ≠ [] ∧
      (∀ d ∈ ds, d.isDigit = true) ∧ n = value (digitsValue ds))

/-- Every text but the empty one is read so. -/
theorem exists_signedDigits (below : low ≤ 0) (above : 0 ≤ high) (c : Char) (rest : List Char) :
    ∃ sign digits bound overflow value,
      SignedDigits low high (c :: rest) sign digits bound overflow value := by
  by_cases plus : c = '+'
  · subst plus
    refine ⟨['+'], rest, high.toNat, .tooLarge, fun n => n, rfl, rfl, rfl, fun m => ?_, ?_⟩
    · omega
    · rintro (_ | ⟨d, front⟩) back n parts
      · exact iff_of_false not_integerText_nil (by simp)
      · cases parts
        simp [integerText_plus_iff]
  by_cases minus : c = '-' ∧ low < 0
  · obtain ⟨rfl, negative⟩ := minus
    refine ⟨['-'], rest, (-low).toNat, .tooSmall, fun n => -(n : Int), rfl, rfl, ?_, fun m => ?_, ?_⟩
    · rw [readInteger, if_neg plus, if_pos ⟨rfl, negative⟩]
      cases readSomeDigits (-low).toNat .tooSmall rest <;> rfl
    · omega
    · rintro (_ | ⟨d, front⟩) back n parts
      · exact iff_of_false not_integerText_nil (by simp)
      · cases parts
        simp [integerText_minus_iff, negative]
  · refine ⟨[], c :: rest, high.toNat, .tooLarge, fun n => n, rfl, rfl, ?_, fun m => ?_, ?_⟩
    · rw [readInteger, if_neg plus, if_neg minus]
      rfl
    · omega
    · rintro (_ | ⟨d, front⟩) back n parts
      · exact iff_of_false not_integerText_nil (by simp)
      · cases parts
        rw [integerText_plain_iff plus (by simpa using minus)]
        simp

namespace SignedDigits

variable {cs sign digits : List Char} {bound : Nat} {overflow : IntegerError} {value : Nat → Int}

theorem ok_iff (signed : SignedDigits low high cs sign digits bound overflow value) {n : Int} :
    readInteger low high cs = .ok n ↔
      IntegerText (decide (low < 0)) cs n ∧ low ≤ n ∧ n ≤ high := by
  rw [signed.read, signed.texts cs [] n (List.append_nil cs).symm]
  constructor
  · intro given
    rcases readSomeDigits_cases bound overflow digits with ⟨nonempty, all, last, read⟩ |
      ⟨front, back, rfl, nonempty, all, beyond⟩ | read
    · rw [read] at given
      cases given
      exact ⟨⟨digits, signed.parts, nonempty, all, rfl⟩, (signed.range _).1 last⟩
    · rw [readSomeDigits_beyond overflow nonempty all beyond] at given
      cases given
    · rw [read] at given
      cases given
  · rintro ⟨⟨ds, parts, nonempty, all, rfl⟩, within⟩
    obtain rfl : digits = ds := List.append_cancel_left (signed.parts.symm.trans parts)
    rw [readSomeDigits_within overflow nonempty all ((signed.range _).2 within)]
    rfl

theorem overflow_iff (signed : SignedDigits low high cs sign digits bound overflow value) :
    (∃ e, readInteger low high cs = .error e ∧ e.isOverflow = true) ↔
      ∃ front back n, cs = front ++ back ∧ IntegerText (decide (low < 0)) front n ∧
        ¬ (low ≤ n ∧ n ≤ high) := by
  rw [signed.read]
  constructor
  · rintro ⟨e, refused, overflows⟩
    rcases readSomeDigits_cases bound overflow digits with ⟨-, -, -, read⟩ |
      ⟨front, back, rfl, nonempty, all, beyond⟩ | read
    · rw [read] at refused
      cases refused
    · have parts := signed.parts
      rw [← List.append_assoc] at parts
      refine ⟨sign ++ front, back, value (digitsValue front), parts,
        (signed.texts _ back _ parts).2 ⟨front, rfl, nonempty, all, rfl⟩, ?_⟩
      rw [← signed.range]
      exact Nat.not_le.2 beyond
    · rw [read] at refused
      cases refused
      cases overflows
  · rintro ⟨front, back, n, parts, text, beyond⟩
    obtain ⟨ds, rfl, nonempty, all, rfl⟩ := (signed.texts front back n parts).1 text
    rw [← signed.range, Nat.not_le] at beyond
    rw [List.append_assoc] at parts
    have same : digits = ds ++ back := List.append_cancel_left (signed.parts.symm.trans parts)
    refine ⟨overflow, ?_, signed.overflows⟩
    rw [same, readSomeDigits_beyond overflow nonempty all beyond]
    rfl

end SignedDigits

/-- Reading gives the integer that the text denotes when it is within the range, and nothing else. -/
theorem readInteger_ok_iff (below : low ≤ 0) (above : 0 ≤ high) {cs : List Char} {n : Int} :
    readInteger low high cs = .ok n ↔
      IntegerText (decide (low < 0)) cs n ∧ low ≤ n ∧ n ≤ high := by
  cases cs with
  | nil =>
      refine iff_of_false (fun given => ?_) fun text => not_integerText_nil text.1
      cases given
  | cons c rest =>
      obtain ⟨_, _, _, _, _, signed⟩ := exists_signedDigits below above c rest
      exact signed.ok_iff

/-- A text is refused as too large or too small exactly when it begins with an integer beyond the
range. -/
theorem readInteger_overflow_iff (below : low ≤ 0) (above : 0 ≤ high) {cs : List Char} :
    (∃ e, readInteger low high cs = .error e ∧ e.isOverflow = true) ↔
      ∃ front back n, cs = front ++ back ∧ IntegerText (decide (low < 0)) front n ∧
        ¬ (low ≤ n ∧ n ≤ high) := by
  cases cs with
  | nil =>
      refine iff_of_false ?_ ?_
      · rintro ⟨e, refused, overflows⟩
        cases refused
        cases overflows
      · rintro ⟨front, back, n, parts, text, -⟩
        rw [(List.nil_eq_append_iff.1 parts).1] at text
        exact not_integerText_nil text
  | cons c rest =>
      obtain ⟨_, _, _, _, _, signed⟩ := exists_signedDigits below above c rest
      exact signed.overflow_iff

end Signs

/-- Reading a natural number gives what the text denotes, behind a plus sign or none, when it has no more
bits than allowed. -/
theorem readNatural_ok_iff {bits : Nat} {cs : List Char} {n : Nat} :
    readNatural bits cs = .ok n ↔ IntegerText false cs n ∧ n < Nat.pow 2 bits := by
  have positive : 0 < Nat.pow 2 bits := Nat.pow_pos (by decide)
  have given (m : Int) : readInteger 0 (Nat.pow 2 bits - 1 : Nat) cs = .ok m ↔
      IntegerText false cs m ∧ 0 ≤ m ∧ m ≤ (Nat.pow 2 bits - 1 : Nat) :=
    readInteger_ok_iff (Int.le_refl 0) (Int.natCast_nonneg _)
  rw [readNatural]
  constructor
  · intro read
    cases integer : readInteger 0 (Nat.pow 2 bits - 1 : Nat) cs with
    | error e =>
        rw [integer] at read
        cases read
    | ok m =>
        rw [integer] at read
        cases read
        obtain ⟨text, least, most⟩ := (given m).1 integer
        rw [Int.toNat_of_nonneg least]
        exact ⟨text, by omega⟩
  · rintro ⟨text, within⟩
    rw [(given n).2 ⟨text, by omega, by omega⟩]
    rfl

end Keyscan
