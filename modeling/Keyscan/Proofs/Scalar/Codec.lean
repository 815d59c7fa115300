import Keyscan.Proofs.Time.Iso8601
import Keyscan.Scalar.Codec

/-!
Values written as attributes and read back. An instant with an offset is written as text whose offset
has no seconds, so it is read back as the same instant exactly when its offset is one of whole minutes.
-/

set_option autoImplicit false

namespace Keyscan.Codec

/-- An instant with an offset is written as its text when the clock there shows a year of four
digits. -/
theorem write_dateTimeOffset {i : Instant} {o : Offset} {a : Attribute}
    (written : write (.dateTimeOffset i o) = .ok a) :
    (0 ≤ (i.clock o).date.year ∧ (i.clock o).date.year ≤ 9999) ∧
      a = .string (Iso8601.print i o) := by
  rw [write, isoText] at written
  split at written
  next year =>
    cases written
    exact ⟨year, rfl⟩
  next => cases written

/-- A text is read as an instant in the same way whether the property is nullable or not. -/
theorem read_dateTimeOffset (nullable : Bool) (text : String) :
    read .dateTimeOffset nullable (some (.string text)) =
      match Iso8601.read text with
      | .ok (i, o) => .ok (.dateTimeOffset i o)
      | .error e => malformed .dateTimeOffset text ("not ISO-8601: " ++ e.message) := by
  have present : isAbsent (some (.string text)) = false := rfl
  rw [read, present, Bool.and_false, if_neg (by decide), readRequired, readInstant]
  cases Iso8601.read text <;> rfl

/-- A written instant is read back, by a nullable property or another, as the same instant exactly
when its offset is one of whole minutes; and then with its offset. -/
theorem read_write_dateTimeOffset_iff {i : Instant} {o : Offset} {a : Attribute}
    (written : write (.dateTimeOffset i o) = .ok a) (nullable : Bool) :
    ((∃ v, read .dateTimeOffset nullable (some a) = .ok v ∧
        v.denotesSame (.dateTimeOffset i o) = true) ↔ o.seconds % 60 = 0) ∧
      (o.seconds % 60 = 0 →
        read .dateTimeOffset nullable (some a) = .ok (.dateTimeOffset i o)) := by
  obtain ⟨year, rfl⟩ := write_dateTimeOffset written
  have back (whole : o.seconds % 60 = 0) :
      read .dateTimeOffset nullable (some (.string (Iso8601.print i o))) =
        .ok (.dateTimeOffset i o) := by
    rw [read_dateTimeOffset, Iso8601.read_print_of_wholeMinutes i o year whole]
  refine ⟨⟨?_, fun whole => ⟨_, back whole, ?_⟩⟩, back⟩
  · rintro ⟨v, same, denotes⟩
    rw [read_dateTimeOffset] at same
    cases text : Iso8601.read (Iso8601.print i o) with
    | error e =>
        rw [text] at same
        cases same
    | ok r =>
        obtain ⟨j, p⟩ := r
        rw [text] at same
        cases same
        obtain rfl : j = i := by simpa [ScalarValue.denotesSame] using denotes
        exact Iso8601.wholeMinutes_of_read_print j o year text
  · simp [ScalarValue.denotesSame]

/-- A half of the leap second at the end of 2016 has passed. -/
def leapSecond : Instant := ⟨1483228799, 1500000000, by decide, by decide, by decide, by decide⟩

/-- Five and a half hours ahead. -/
def halfHourZone : Offset := ⟨19800, by decide, by decide⟩

/-- The leap second in another time zone. -/
theorem read_write_leapSecond :
    write (.dateTimeOffset leapSecond halfHourZone) =
        .ok (.string "2017-01-01T05:29:60.500+05:30") ∧
      ((∃ v, read .dateTimeOffset true (some (.string "2017-01-01T05:29:60.500+05:30")) = .ok v ∧
          v.denotesSame (.dateTimeOffset leapSecond halfHourZone) = true) ↔
        halfHourZone.seconds % 60 = 0) ∧
      (halfHourZone.seconds % 60 = 0 →
        read .dateTimeOffset true (some (.string "2017-01-01T05:29:60.500+05:30")) =
          .ok (.dateTimeOffset leapSecond halfHourZone)) := by
  have written : write (.dateTimeOffset leapSecond halfHourZone) =
      .ok (.string "2017-01-01T05:29:60.500+05:30") := by rfl
  exact ⟨written, read_write_dateTimeOffset_iff written true⟩

/-- Half a minute ahead. -/
def halfMinute : Offset := ⟨30, by decide, by decide⟩

/-- The beginning of 1970 is written half a minute ahead of universal time, and read as the last half
minute of 1969. -/
theorem read_write_halfMinute :
    write (.dateTimeOffset .epoch halfMinute) = .ok (.string "1970-01-01T00:00:30+00:01") ∧
      ∀ nullable, ∃ i o,
        read .dateTimeOffset nullable (some (.string "1970-01-01T00:00:30+00:01")) =
            .ok (.dateTimeOffset i o) ∧
          i.seconds = -30 ∧
          (ScalarValue.dateTimeOffset i o).denotesSame (.dateTimeOffset .epoch halfMinute) = false := by
  have text : Iso8601.readStrict? "1970-01-01T00:00:30+00:01".toList =
      some (⟨-30, 0, by decide, by decide, by decide, by decide⟩,
        ⟨60, by decide, by decide⟩) := by
    decide +kernel
  refine ⟨by rfl, fun nullable => ?_⟩
  rw [read_dateTimeOffset, Iso8601.read, text]
  exact ⟨_, _, rfl, rfl, by decide⟩

end Keyscan.Codec
