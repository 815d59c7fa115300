import Keyscan.Proofs.Number.Integers
import Keyscan.Proofs.Scalar.Exact

/-!
Integers of the four kinds from the text of a number. A text is read exactly when it denotes an integer
of the kind. Of the texts that are not read, those are out of range that are an integer beyond the kind
or begin with one, since the fault that comes first from the left is reported; all others are malformed.
-/

set_option autoImplicit false

namespace Keyscan

namespace IntegerKind

/-- Whether a minus sign may stand in front. -/
def isSigned : IntegerKind → Bool
  | .byte => false
  | .short | .int | .long => true

/-- A minus sign is allowed by the kinds with negative integers. -/
theorem isSigned_eq (k : IntegerKind) : k.isSigned = decide (k.low < 0) := by
  cases k <;> rfl

theorem low_le_zero (k : IntegerKind) : k.low ≤ 0 := by
  cases k <;> decide

theorem zero_le_high (k : IntegerKind) : 0 ≤ k.high := by
  cases k <;> decide

end IntegerKind

namespace Codec

/-- Whether a conversion has failed with a code. -/
def FailsWith (code : String) (result : Except ConversionError ScalarValue) : Prop :=
  ∃ e, result = .error e ∧ e.code = code

/-- A conversion fails with one code. -/
theorem FailsWith.unique {code code' : String} {result : Except ConversionError ScalarValue}
    (fails : FailsWith code result) (fails' : FailsWith code' result) : code = code' := by
  obtain ⟨e, rfl, rfl⟩ := fails
  obtain ⟨e', same, rfl⟩ := fails'
  rw [Except.error.inj same]

section Integers

variable {k : IntegerKind} {text : String}

/-- An integer that is read is within the range already. -/
theorem readInteger_of_ok {n : Int} (read : Keyscan.readInteger k.low k.high text.toList = .ok n) :
    ∃ within, readInteger k text = .ok (.integer k ⟨n, within⟩) := by
  have within := ((readInteger_ok_iff k.low_le_zero k.zero_le_high).1 read).2
  refine ⟨within, ?_⟩
  rw [readInteger, read]
  exact dif_pos within

/-- The code of a text that is no integer of the range tells whether it overflows. -/
theorem readInteger_of_error {e : IntegerError}
    (read : Keyscan.readInteger k.low k.high text.toList = .error e) :
    FailsWith (if e.isOverflow then "AERO_CONVERSION_OUT_OF_RANGE" else "AERO_CONVERSION_MALFORMED")
      (readInteger k text) := by
  rw [readInteger, read]
  cases overflows : e.isOverflow with
  | true => exact ⟨_, if_pos overflows, rfl⟩
  | false => exact ⟨_, if_neg (by simp [overflows]), rfl⟩

/-- A text is read as the integer of the kind that it denotes. -/
theorem readInteger_value_iff {v : ScalarValue} :
    readInteger k text = .ok v ↔ ∃ n, ∃ within : k.low ≤ n ∧ n ≤ k.high,
      v = .integer k ⟨n, within⟩ ∧ IntegerText k.isSigned text.toList n := by
  constructor
  · intro value
    cases read : Keyscan.readInteger k.low k.high text.toList with
    | error e =>
        obtain ⟨error, failed, -⟩ := readInteger_of_error read
        rw [failed] at value
        cases value
    | ok n =>
        obtain ⟨within, value'⟩ := readInteger_of_ok read
        rw [value'] at value
        rw [readInteger_ok_iff k.low_le_zero k.zero_le_high, ← k.isSigned_eq] at read
        exact ⟨n, within, (Except.ok.inj value).symm, read.1⟩
  · rintro ⟨n, within, rfl, denotes⟩
    rw [k.isSigned_eq] at denotes
    have read := (readInteger_ok_iff k.low_le_zero k.zero_le_high).2 ⟨denotes, within⟩
    exact (readInteger_of_ok read).2

/-- A text is out of range when it begins with an integer beyond the kind. -/
theorem readInteger_outOfRange_iff :
    FailsWith "AERO_CONVERSION_OUT_OF_RANGE" (readInteger k text) ↔
      ∃ front back n, text.toList = front ++ back ∧ IntegerText k.isSigned front n ∧
        ¬ (k.low ≤ n ∧ n ≤ k.high) := by
  rw [k.isSigned_eq, ← readInteger_overflow_iff k.low_le_zero k.zero_le_high]
  cases read : Keyscan.readInteger k.low k.high text.toList with
  | ok n =>
      obtain ⟨within, value⟩ := readInteger_of_ok read
      refine iff_of_false ?_ ?_
      · rintro ⟨e, failed, -⟩
        rw [value] at failed
        cases failed
      · rintro ⟨e, failed, -⟩
        cases failed
  | error e =>
      have fails := readInteger_of_error read
      cases overflows : e.isOverflow with
      | true =>
          rw [overflows, if_pos rfl] at fails
          exact iff_of_true fails ⟨e, rfl, overflows⟩
      | false =>
          rw [overflows, if_neg Bool.false_ne_true] at fails
          refine iff_of_false (fun other => absurd (fails.unique other) (by decide)) ?_
          rintro ⟨e', same, overflows'⟩
          rw [← Except.error.inj same, overflows] at overflows'
          cases overflows'

/-- A text that is not read is out of range or malformed. -/
theorem readInteger_fails_iff :
    (∃ e, readInteger k text = .error e) ↔
      FailsWith "AERO_CONVERSION_OUT_OF_RANGE" (readInteger k text) ∨
        FailsWith "AERO_CONVERSION_MALFORMED" (readInteger k text) := by
  constructor
  · rintro ⟨e, failed⟩
    cases read : Keyscan.readInteger k.low k.high text.toList with
    | ok n =>
        obtain ⟨within, value⟩ := readInteger_of_ok read
        rw [failed] at value
        cases value
    | error e' =>
        have fails := readInteger_of_error read
        split at fails
        · exact .inl fails
        · exact .inr fails
  · rintro (⟨e, failed, -⟩ | ⟨e, failed, -⟩) <;> exact ⟨e, failed⟩

end Integers

/-- Reading the text of a number as an integer of a kind, nullable or not, gives the integer that the
text denotes when it is one of the kind, and nothing else. A text that denotes an integer beyond the
kind is out of range, and only a text that denotes none is malformed. Every text that is not read is
one or the other, and it is out of range exactly when it begins with an integer beyond the kind. -/
theorem read_integer_iff (k : IntegerKind) (nullable : Bool) (text : String) :
    let result := read (.integer k) nullable (some (.number text))
    (∀ v, result = .ok v ↔ ∃ n, ∃ within : k.low ≤ n ∧ n ≤ k.high,
      v = .integer k ⟨n, within⟩ ∧ IntegerText k.isSigned text.toList n) ∧
    (∀ n, IntegerText k.isSigned text.toList n → ¬ (k.low ≤ n ∧ n ≤ k.high) →
      FailsWith "AERO_CONVERSION_OUT_OF_RANGE" result) ∧
    (FailsWith "AERO_CONVERSION_MALFORMED" result → ∀ n, ¬ IntegerText k.isSigned text.toList n) ∧
    ((∃ e, result = .error e) ↔ FailsWith "AERO_CONVERSION_OUT_OF_RANGE" result ∨
      FailsWith "AERO_CONVERSION_MALFORMED" result) ∧
    (FailsWith "AERO_CONVERSION_OUT_OF_RANGE" result ↔ ∃ front back n,
      text.toList = front ++ back ∧ IntegerText k.isSigned front n ∧
        ¬ (k.low ≤ n ∧ n ≤ k.high)) := by
  intro result
  have given : result = readInteger k text := read_present (.integer k) nullable rfl
  have beyond (n : Int) (denotes : IntegerText k.isSigned text.toList n)
      (outside : ¬ (k.low ≤ n ∧ n ≤ k.high)) :
      FailsWith "AERO_CONVERSION_OUT_OF_RANGE" (readInteger k text) :=
    readInteger_outOfRange_iff.2 ⟨_, [], n, (List.append_nil _).symm, denotes, outside⟩
  rw [given]
  refine ⟨fun v => readInteger_value_iff, beyond, fun malformed n denotes => ?_,
    readInteger_fails_iff, readInteger_outOfRange_iff⟩
  by_cases within : k.low ≤ n ∧ n ≤ k.high
  · obtain ⟨e, failed, -⟩ := malformed
    rw [readInteger_value_iff.2 ⟨n, within, rfl, denotes⟩] at failed
    cases failed
  · exact absurd ((beyond n denotes within).unique malformed) (by decide)

/-- Zeros in front do not matter at either end of a range. One more than the greatest byte is out of
range with or without junk behind it, and a minus sign makes no byte, not even before zero. -/
theorem read_integer_ends :
    read (.integer .byte) false (some (.number "+00255")) = .ok (.integer .byte ⟨255, by decide⟩) ∧
      read (.integer .short) true (some (.number "-032768")) =
        .ok (.integer .short ⟨-32768, by decide⟩) ∧
      FailsWith "AERO_CONVERSION_OUT_OF_RANGE" (read (.integer .byte) true (some (.number "0256"))) ∧
      FailsWith "AERO_CONVERSION_OUT_OF_RANGE" (read (.integer .byte) true (some (.number "256x"))) ∧
      ∀ n, ¬ IntegerText IntegerKind.byte.isSigned "-0".toList n := by
  obtain ⟨greatest, -⟩ := read_integer_iff .byte false "+00255"
  obtain ⟨least, -⟩ := read_integer_iff .short true "-032768"
  obtain ⟨-, beyond, -⟩ := read_integer_iff .byte true "0256"
  obtain ⟨-, -, -, -, begins⟩ := read_integer_iff .byte true "256x"
  obtain ⟨-, -, malformed, -⟩ := read_integer_iff .byte true "-0"
  have digits (text : String) (all : text.toList.all Char.isDigit = true) :
      ∀ c ∈ text.toList, c.isDigit = true :=
    List.all_eq_true.1 all
  refine ⟨(greatest _).2 ⟨255, by decide, rfl, .plus ?_ (digits "00255" rfl)⟩,
    (least _).2 ⟨-32768, by decide, rfl, .minus rfl ?_ (digits "032768" rfl)⟩,
    beyond 256 (.plain ?_ (digits "0256" rfl)) (by decide),
    begins.2 ⟨"256".toList, ['x'], 256, rfl, .plain ?_ (digits "256" rfl), by decide⟩,
    malformed ⟨_, rfl, rfl⟩⟩
  all_goals decide

end Codec

end Keyscan
