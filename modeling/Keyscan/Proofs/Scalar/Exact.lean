import Keyscan.Proofs.Number.Decimal
import Keyscan.Proofs.Scalar.Codec
import Keyscan.Proofs.Uuid

/-!
Values that are written without loss. Texts, booleans, integers, decimals, identifiers and instants of
universal time are read back as what they were written from, by nullable properties and others alike;
of these only an instant beyond the years of four digits cannot be written. Null is written as null and
read back as null where that is allowed.
-/

set_option autoImplicit false

namespace Keyscan

/-- The kinds that are written without loss. The text of binary numbers and of instants with an offset
follows rules of its own. -/
def ScalarKind.isExact : ScalarKind → Bool
  | .real _ | .dateTimeOffset => false
  | _ => true

/-- Whether a clock in universal time shows a year of four digits at the instant. -/
def Instant.HasFourDigitYear (i : Instant) : Prop :=
  0 ≤ (i.clock .utc).date.year ∧ (i.clock .utc).date.year ≤ 9999

namespace ScalarValue

/-- The same value, and for decimals the same number. -/
def SameValue : ScalarValue → ScalarValue → Prop
  | .decimal x, .decimal y => x.value = y.value
  | x, y => x = y

/-- An instant of universal time that has no text of its own. -/
def IsBeyondYears (v : ScalarValue) : Prop :=
  ∃ i, v = .dateTime i ∧ ¬ i.HasFourDigitYear

/-- Of the exact kinds the same values are those that compare as such. -/
theorem sameValue_iff {v w : ScalarValue} {kind : ScalarKind} (ofKind : v.kind? = some kind)
    (exact_ : kind.isExact = true) : w.SameValue v ↔ w.denotesSame v = true := by
  cases v with
  | real f x =>
      cases ofKind
      cases exact_
  | dateTimeOffset i o =>
      cases ofKind
      cases exact_
  | decimal d => cases w <;> simp [SameValue, denotesSame, Decimal.sameNumber_iff]
  | _ => cases w <;> simp [SameValue, denotesSame]

end ScalarValue

namespace Codec

/-- What is there is read the same whether the property is nullable or not. -/
theorem read_present (kind : ScalarKind) (nullable : Bool) {a : Attribute}
    (present : isAbsent (some a) = false) :
    read kind nullable (some a) = readRequired kind (some a) := by
  rw [read, present, Bool.and_false, if_neg (by decide)]

theorem readInteger_toString (k : IntegerKind) (n : BoundedInt k) :
    readInteger k (toString n.1) = .ok (.integer k n) := by
  rw [readInteger, Keyscan.readInteger_toString n.2.1 n.2.2]
  exact dif_pos n.2

theorem readDecimal_display (d : Decimal) :
    readDecimal d.display =
      .ok (.decimal (.ofParts d.negative d.mantissa d.scale d.mantissa_lt d.scale_le)) := by
  rw [readDecimal, Decimal.read_display]

theorem readUuid_print (u : Uuid) : readUuid (some (.string u.print)) = .ok (.uuid u) := by
  simp only [readUuid, Uuid.read_print]

theorem readInstant_printUtc {i : Instant} (year : i.HasFourDigitYear) :
    readInstant .dateTime (some (.string (Iso8601.printUtc i))) = .ok (some (i, .utc)) := by
  simp only [readInstant, Iso8601.read_printUtc i year]

/-- A value that is read from what is there is read by nullable properties, too. -/
theorem reads_back {v w : ScalarValue} {kind : ScalarKind} {a : Attribute}
    (ofKind : v.kind? = some kind) (exact_ : kind.isExact = true)
    (present : isAbsent (some a) = false) (required : readRequired kind (some a) = .ok w)
    (value : w.SameValue v) :
    ∀ nullable, ∃ w, read kind nullable (some a) = .ok w ∧ w.SameValue v ∧
      w.denotesSame v = true :=
  fun nullable => ⟨w, (read_present kind nullable present).trans required, value,
    (ScalarValue.sameValue_iff ofKind exact_).1 value⟩

/-- Of the exact kinds only instants in years of more or fewer digits cannot be written. -/
theorem write_fails_iff {v : ScalarValue} {kind : ScalarKind} (ofKind : v.kind? = some kind)
    (exact_ : kind.isExact = true) : (∃ e, write v = .error e) ↔ v.IsBeyondYears := by
  constructor
  · rintro ⟨e, failed⟩
    cases v with
    | dateTime i =>
        rw [write, isoText] at failed
        split at failed
        next => cases failed
        next year => exact ⟨i, rfl, year⟩
    | real f x =>
        cases ofKind
        cases exact_
    | dateTimeOffset i o =>
        cases ofKind
        cases exact_
    | _ => cases failed
  · rintro ⟨i, rfl, year⟩
    exact ⟨_, if_neg year⟩

/-- What can be written of the exact kinds is read back as the same value. -/
theorem read_write {v : ScalarValue} {kind : ScalarKind} (ofKind : v.kind? = some kind)
    (exact_ : kind.isExact = true) (within : ¬ v.IsBeyondYears) :
    ∃ a, write v = .ok a ∧ ∀ nullable, ∃ w,
      read kind nullable (some a) = .ok w ∧ w.SameValue v ∧ w.denotesSame v = true := by
  cases v with
  | null => cases ofKind
  | real f x =>
      cases ofKind
      cases exact_
  | dateTimeOffset i o =>
      cases ofKind
      cases exact_
  | string s =>
      cases ofKind
      exact ⟨_, rfl, reads_back rfl exact_ rfl rfl rfl⟩
  | bool b =>
      cases ofKind
      exact ⟨_, rfl, reads_back rfl exact_ rfl rfl rfl⟩
  | integer k n =>
      cases ofKind
      exact ⟨_, rfl, reads_back rfl exact_ rfl (readInteger_toString k n) rfl⟩
  | decimal d =>
      cases ofKind
      have value := (Decimal.sameNumber_iff _ d).1 d.sameNumber_unsigned
      exact ⟨_, rfl, reads_back rfl exact_ rfl (readDecimal_display d) value⟩
  | uuid u =>
      cases ofKind
      exact ⟨_, rfl, reads_back rfl exact_ rfl (readUuid_print u) rfl⟩
  | dateTime i =>
      cases ofKind
      have year : i.HasFourDigitYear := by
        by_contra other
        exact within ⟨i, rfl, other⟩
      have required : readRequired .dateTime (some (.string (Iso8601.printUtc i))) =
          .ok (.dateTime i) := by
        rw [readRequired, readInstant_printUtc year]
        rfl
      exact ⟨_, if_pos year, reads_back rfl exact_ rfl required rfl⟩

/-- Writing fails only for an instant of universal time in a year that has no four digits; every other
value of these kinds is read back as the same value, whether null is allowed or not, and null is read
back as null where it is. -/
theorem read_write_exact :
    (∀ (v : ScalarValue) (kind : ScalarKind), v.kind? = some kind → kind.isExact = true →
        ((∃ e, write v = .error e) ↔ v.IsBeyondYears) ∧
          (¬ v.IsBeyondYears → ∃ a, write v = .ok a ∧ ∀ nullable, ∃ w,
            read kind nullable (some a) = .ok w ∧ w.SameValue v ∧ w.denotesSame v = true)) ∧
      write .null = .ok .null ∧ ∀ kind, read kind true (some .null) = .ok .null :=
  ⟨fun _ _ ofKind exact_ => ⟨write_fails_iff ofKind exact_, read_write ofKind exact_⟩, rfl,
    fun _ => rfl⟩

/-- Minus zero with two places. -/
def minusZero : Decimal := ⟨true, 0, 2, by decide, by decide⟩

/-- Minus zero is written with its sign and read back as zero; a leap second is read back as it was. -/
theorem read_write_minusZero_leapSecond :
    ((ScalarValue.decimal minusZero).kind? = some .decimal ∧ ScalarKind.decimal.isExact = true ∧
      ¬ (ScalarValue.decimal minusZero).IsBeyondYears ∧
      write (.decimal minusZero) = .ok (.number "-0.00") ∧
      ∀ nullable, ∃ w, read .decimal nullable (some (.number "-0.00")) = .ok w ∧
        w.SameValue (.decimal minusZero) ∧ w.denotesSame (.decimal minusZero) = true) ∧
    ((ScalarValue.dateTime leapSecond).kind? = some .dateTime ∧
      ScalarKind.dateTime.isExact = true ∧
      ¬ (ScalarValue.dateTime leapSecond).IsBeyondYears ∧
      write (.dateTime leapSecond) = .ok (.string "2016-12-31T23:59:60.500Z") ∧
      ∀ nullable, ∃ w,
        read .dateTime nullable (some (.string "2016-12-31T23:59:60.500Z")) = .ok w ∧
          w.SameValue (.dateTime leapSecond) ∧ w.denotesSame (.dateTime leapSecond) = true) := by
  have zeroWithin : ¬ (ScalarValue.decimal minusZero).IsBeyondYears := by rintro ⟨i, ⟨⟩, -⟩
  have leapWithin : ¬ (ScalarValue.dateTime leapSecond).IsBeyondYears := by
    rintro ⟨i, same, beyond⟩
    cases same
    exact beyond (by rw [Instant.HasFourDigitYear]; decide)
  have zeroWritten : write (.decimal minusZero) = .ok (.number "-0.00") := by rfl
  have leapWritten : write (.dateTime leapSecond) = .ok (.string "2016-12-31T23:59:60.500Z") := by rfl
  obtain ⟨a, zeroText, zeroRead⟩ :=
    (read_write_exact.1 (.decimal minusZero) .decimal rfl rfl).2 zeroWithin
  obtain ⟨b, leapText, leapRead⟩ :=
    (read_write_exact.1 (.dateTime leapSecond) .dateTime rfl rfl).2 leapWithin
  obtain rfl : .number "-0.00" = a := Except.ok.inj (zeroWritten.symm.trans zeroText)
  obtain rfl : .string "2016-12-31T23:59:60.500Z" = b :=
    Except.ok.inj (leapWritten.symm.trans leapText)
  exact ⟨⟨rfl, rfl, zeroWithin, zeroWritten, zeroRead⟩, rfl, rfl, leapWithin, leapWritten, leapRead⟩

end Codec

end Keyscan
