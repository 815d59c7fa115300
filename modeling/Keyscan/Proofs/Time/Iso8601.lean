import Keyscan.Proofs.Number.Digits
import Keyscan.Proofs.Time.Calendar
import Keyscan.Time.Iso8601

/-!
Printed instants read back. The text of a clock is one of numbers with a fixed number of digits
(`faceText`); the strict form reads them as the clock that the text shows, and the lax form refuses
the offset behind it. So what a printed instant is read as depends on its offset as printed, in whole
minutes (`read_print`): it is read as it was exactly when the offset is one of whole minutes
(`read_print_of_wholeMinutes`, `wholeMinutes_of_read_print`). In universal time it always is
(`read_printUtc`).
-/

set_option autoImplicit false

namespace Keyscan

theorem Offset.of_ofSeconds? {seconds : Int} {o : Offset} (h : ofSeconds? seconds = some o) :
    o.seconds = seconds := by
  rw [ofSeconds?] at h
  split at h
  · cases h
    rfl
  · cases h

theorem Instant.of_ofParts? {seconds : Int} {nanos : Nat} {i : Instant}
    (h : ofParts? seconds nanos = some i) : i.seconds = seconds ∧ i.nanos = nanos := by
  rw [ofParts?] at h
  split at h
  · cases h
    exact ⟨rfl, rfl⟩
  · cases h

/-- The parts of an instant are those of one. -/
theorem Instant.ofParts?_parts (i : Instant) : ofParts? i.seconds i.nanos = some i := by
  rw [ofParts?, dif_pos ⟨i.first_le, i.le_last, i.nanos_lt, i.leap_at_minute_end⟩]

/-- The seconds of an offset as it is printed, in whole minutes. -/
def Offset.printed (o : Offset) : Int :=
  let minutes : Int := ((o.seconds.natAbs + 30) / 60 : Nat)
  if o.seconds < 0 then -(60 * minutes) else 60 * minutes

/-- What the text of a clock shows. A leap second away from the end of a minute is printed as the
second after it, as offsets of no whole minutes make it. -/
def ClockTime.shown (c : ClockTime) : ClockTime :=
  if 1000000000 ≤ c.nanos ∧ c.second ≠ 59 then
    { c with second := c.second + 1, nanos := c.nanos - 1000000000 }
  else c

namespace Iso8601

/-! ### Digits -/

theorem digitValue_digitChar {d : Nat} (h : d < 10) : digitValue d.digitChar = d :=
  Nat.toNat_digitChar_sub_48_of_lt_ten h

/-- A number padded to one digit more is its tenth part and its last digit. -/
theorem zeroPadded_succ {width : Nat} (some_digit : 0 < width) (n : Nat) :
    zeroPadded (width + 1) n = zeroPadded width (n / 10) ++ [Nat.digitChar (n % 10)] := by
  rcases Nat.lt_or_ge n 10 with small | large
  · have tenth : n / 10 = 0 := Nat.div_eq_of_lt small
    rw [zeroPadded, zeroPadded, Nat.toDigits_of_lt_base small, tenth, Nat.toDigits_zero,
      Nat.mod_eq_of_lt small]
    simp [← List.replicate_succ', Nat.sub_add_cancel some_digit]
  · rw [zeroPadded, zeroPadded, Nat.toDigits_of_base_le (by decide) large]
    simp

theorem zeroPadded_one {n : Nat} (h : n < 10) : zeroPadded 1 n = [n.digitChar] := by
  simp [zeroPadded, Nat.toDigits_of_lt_base h]

/-- Numbers below a hundred have two digits. -/
theorem zeroPadded_two {n : Nat} (h : n < 100) :
    zeroPadded 2 n = [(n / 10).digitChar, (n % 10).digitChar] := by
  rw [zeroPadded_succ Nat.one_pos, zeroPadded_one (by omega)]
  rfl

/-- Four digits are two and two. -/
theorem zeroPadded_four (n : Nat) :
    zeroPadded 4 n = zeroPadded 2 (n / 100) ++ zeroPadded 2 (n % 100) := by
  rw [zeroPadded_succ (by decide), zeroPadded_succ (by decide), zeroPadded_two (n := n % 100) (by omega)]
  have tens : n / 10 / 10 = n / 100 := Nat.div_div_eq_div_mul _ _ _
  have third : n % 100 / 10 = n / 10 % 10 := by omega
  have fourth : n % 100 % 10 = n % 10 := by omega
  rw [tens, third, fourth, List.append_assoc]
  rfl

theorem twoDigits?_digitChars {n : Nat} (h : n < 100) :
    twoDigits? (n / 10).digitChar (n % 10).digitChar = some (n : Int) := by
  have tens : n / 10 < 10 := by omega
  have ones : n % 10 < 10 := by omega
  have digits : (n / 10).digitChar.isDigit = true ∧ (n % 10).digitChar.isDigit = true := by
    simp [Nat.isDigit_digitChar, tens, ones]
  rw [twoDigits?, if_pos digits, digitValue_digitChar tens, digitValue_digitChar ones]
  congr 1
  omega

theorem isDigit_of_mem_zeroPadded (width n : Nat) :
    ∀ c ∈ zeroPadded width n, c.isDigit = true := by
  intro c mem
  rcases List.mem_append.1 mem with padding | digits
  · rw [List.eq_of_mem_replicate padding]
    rfl
  · exact Nat.isDigit_of_mem_toDigits (by decide) (by decide) digits

theorem length_zeroPadded (width : Nat) {n : Nat} (some_digit : 0 < width) (h : n < Nat.pow 10 width) :
    (zeroPadded width n).length = width := by
  have digits := (Nat.length_toDigits_le_iff (b := 10) (by decide) some_digit).2 h
  simp only [zeroPadded, List.length_append, List.length_replicate]
  omega

theorem digitsValue_zeroPadded (width n : Nat) : digitsValue (zeroPadded width n) = n := by
  have value : digitsValue (zeroPadded width n) = Nat.ofDigitChars 10 (zeroPadded width n) 0 := by
    rw [Nat.ofDigitChars_eq_foldl]
    rfl
  rw [value, zeroPadded, Nat.ofDigitChars_append, Nat.ofDigitChars_replicate_zero]
  simp

/-! ### Fractions -/

/-- A text whose first character, if any, neither is a digit nor begins a fraction. -/
def EndsFraction (rest : List Char) : Prop :=
  ∀ c ∈ rest.head?, c.isDigit = false ∧ c ≠ '.'

/-- A fraction of up to nine digits is read as the nanoseconds that it shows. -/
theorem readFraction?_zeroPadded {width n : Nat} {rest : List Char} (some_digit : 0 < width)
    (most : width ≤ 9) (h : n < Nat.pow 10 width) (ends : EndsFraction rest) :
    readFraction? ('.' :: zeroPadded width n ++ rest) = some (n * Nat.pow 10 (9 - width), rest) := by
  obtain ⟨taken, dropped⟩ := span_digits
    (isDigit_of_mem_zeroPadded width n) fun c mem => (ends c mem).1
  have length := length_zeroPadded width some_digit h
  have nonempty : zeroPadded width n ≠ [] := by
    intro empty
    rw [empty] at length
    exact absurd length (Nat.ne_of_lt some_digit)
  have kept : (zeroPadded width n).take 9 = zeroPadded width n :=
    List.take_of_length_le (by omega)
  simp [readFraction?, taken, dropped, nonempty, fractionNanos, kept, digitsValue_zeroPadded, length]

/-- Nanoseconds are read back from their fraction, whatever its number of digits. -/
theorem readFraction?_printFraction {nanos : Nat} {rest : List Char} (h : nanos < 1000000000)
    (ends : EndsFraction rest) :
    readFraction? (printFraction nanos ++ rest) = some (nanos, rest) := by
  by_cases none_left : nanos = 0
  · subst none_left
    cases rest with
    | nil => rfl
    | cons c more =>
        have point := (ends c rfl).2
        simp [printFraction, readFraction?, point]
  · rw [printFraction, if_neg none_left]
    by_cases millis : nanos % 1000000 = 0
    · rw [if_pos millis, readFraction?_zeroPadded (by decide) (by decide)
        (show nanos / 1000000 < 1000 by omega) ends]
      simp
      omega
    · rw [if_neg millis]
      by_cases micros : nanos % 1000 = 0
      · rw [if_pos micros, readFraction?_zeroPadded (by decide) (by decide)
          (show nanos / 1000 < 1000000 by omega) ends]
        simp
        omega
      · rw [if_neg micros, readFraction?_zeroPadded (by decide) (by decide) h ends]
        simp

/-! ### Offsets -/

/-- Exactly the offsets of whole minutes are printed as they are. -/
theorem printed_eq_iff (o : Offset) : o.printed = o.seconds ↔ o.seconds % 60 = 0 := by
  simp only [Offset.printed]
  split <;> omega

/-- A printed offset is read as what it shows, if that is less than a day. -/
theorem readOffset?_printOffset (o : Offset) :
    readOffset? (printOffset o) = Offset.ofSeconds? o.printed := by
  have low := o.gt_day
  have high := o.lt_day
  obtain ⟨minutes, count⟩ : ∃ minutes, minutes = (o.seconds.natAbs + 30) / 60 := ⟨_, rfl⟩
  have hours : minutes / 60 < 100 := by omega
  have rest : minutes % 60 < 100 := by omega
  have valid : ¬ (60 : Int) ≤ ((minutes % 60 : Nat) : Int) := by omega
  have whole : 3600 * ((minutes / 60 : Nat) : Int) + 60 * ((minutes % 60 : Nat) : Int) =
      60 * (minutes : Int) := by omega
  simp only [printOffset, Offset.printed, ← count, zeroPadded_two hours, zeroPadded_two rest]
  by_cases behind : o.seconds < 0
  · simp only [if_pos behind, List.cons_append, List.nil_append, readOffset?]
    simp only [twoDigits?_digitChars hours, twoDigits?_digitChars rest, Option.bind_eq_bind,
      Option.bind_some, whole]
    rw [if_neg valid, if_neg (by decide), if_pos (.inl trivial)]
  · simp only [if_neg behind, List.cons_append, List.nil_append, readOffset?]
    simp only [twoDigits?_digitChars hours, twoDigits?_digitChars rest, Option.bind_eq_bind,
      Option.bind_some, whole]
    rw [if_neg valid, if_true]

/-- The sign of an offset ends the fraction before it. -/
theorem endsFraction_printOffset (o : Offset) : EndsFraction (printOffset o) := by
  intro c mem
  have sign : (printOffset o).head? = some (if o.seconds < 0 then '-' else '+') := rfl
  rw [sign, Option.mem_some_iff] at mem
  rw [← mem]
  split <;> decide

/-! ### Clocks -/

/-- The text of a date and a time of day, with a fraction of nanoseconds. -/
def faceText (year month day hour minute second nanos : Nat) : List Char :=
  zeroPadded 4 year ++ '-' :: zeroPadded 2 month ++ '-' :: zeroPadded 2 day ++
    'T' :: zeroPadded 2 hour ++ ':' :: zeroPadded 2 minute ++ ':' :: zeroPadded 2 second ++
      printFraction nanos

section Face

variable {year month day hour minute second nanos : Nat} (hyear : year < 10000)
  (hmonth : month < 100) (hday : day < 100) (hhour : hour < 100) (hminute : minute < 100)
  (hsecond : second < 100) (hnanos : nanos < 1000000000)
include hyear hmonth hday hhour hminute hsecond hnanos

/-- A clock in front of an offset is read in the strict form as the clock that it shows. -/
theorem readStrict?_faceText {rest : List Char} (ends : EndsFraction rest) :
    readStrict? (faceText year month day hour minute second nanos ++ rest) =
      (readOffset? rest).bind fun offset =>
        (clock? year month day hour minute second nanos).bind fun clock =>
          (Instant.ofParts? (clock.seconds - offset.seconds) clock.nanos).map (·, offset) := by
  have century : year / 100 < 100 := by omega
  have ofCentury : year % 100 < 100 := by omega
  have years : 100 * ((year / 100 : Nat) : Int) + ((year % 100 : Nat) : Int) = year := by omega
  simp only [faceText, zeroPadded_four, zeroPadded_two century, zeroPadded_two ofCentury,
    zeroPadded_two hmonth, zeroPadded_two hday, zeroPadded_two hhour, zeroPadded_two hminute,
    zeroPadded_two hsecond, List.cons_append, List.nil_append, readStrict?]
  simp only [twoDigits?_digitChars century, twoDigits?_digitChars ofCentury,
    twoDigits?_digitChars hmonth, twoDigits?_digitChars hday, twoDigits?_digitChars hhour,
    twoDigits?_digitChars hminute, twoDigits?_digitChars hsecond, Option.bind_eq_bind,
    Option.bind_some, readFraction?_printFraction hnanos ends, years]
  rw [if_neg (by simp)]
  simp only [Option.map_eq_bind]
  rfl

end Face

/-! ### The lax form -/

/-- No digit is white space. -/
theorem not_isBlankChar_of_isDigit {c : Char} (digit : c.isDigit = true) :
    Text.isBlankChar c = false := by
  have bounds : 48 ≤ c.toNat ∧ c.toNat ≤ 57 := Char.isDigit_iff_toNat.1 digit
  simp only [Text.isBlankChar, Bool.or_eq_false_iff, Bool.and_eq_false_iff, beq_eq_false_iff_ne,
    decide_eq_false_iff_not]
  omega

/-- Digits in front of another character are taken whole. -/
theorem takeDigits_eq {most : Nat} {digits : List Char} {c : Char} (rest : List Char)
    (all : ∀ d ∈ digits, d.isDigit = true) (nonempty : digits ≠ [])
    (within : digits.length ≤ most) (stop : c.isDigit = false) :
    takeDigits most (digits ++ c :: rest) = .ok (digitsValue digits, c :: rest) := by
  have taken : ((digits ++ c :: rest).takeWhile Char.isDigit).take most = digits := by
    rw [List.takeWhile_append_of_pos all]
    simp [stop, List.take_of_length_le within]
  obtain ⟨d, more, rfl⟩ := List.exists_cons_of_ne_nil nonempty
  rw [takeDigits, taken]
  · simp
  · simp

/-- Digits do not begin with white space. -/
theorem dropWhile_digits {digits : List Char} (rest : List Char) (all : ∀ d ∈ digits, d.isDigit = true)
    (nonempty : digits ≠ []) :
    (digits ++ rest).dropWhile Text.isBlankChar = digits ++ rest := by
  obtain ⟨d, more, rfl⟩ := List.exists_cons_of_ne_nil nonempty
  have first := not_isBlankChar_of_isDigit (all d List.mem_cons_self)
  simp [first]

theorem zeroPadded_ne_nil (width n : Nat) : zeroPadded width n ≠ [] := by
  simp [zeroPadded, Nat.toDigits_ne_nil]

/-- A field of two digits within its bounds. -/
theorem takeField_zeroPadded {low high n : Nat} {c : Char} {rest : List Char} (least : low ≤ n)
    (most : n ≤ high) (two : n < 100) (stop : c.isDigit = false) :
    takeField low high (zeroPadded 2 n ++ c :: rest) = .ok ((n : Int), c :: rest) := by
  have digits := isDigit_of_mem_zeroPadded 2 n
  have length := length_zeroPadded 2 (by decide) two
  rw [takeField, dropWhile_digits _ digits (zeroPadded_ne_nil 2 n),
    takeDigits_eq rest digits (zeroPadded_ne_nil 2 n) (Nat.le_of_eq length) stop,
    digitsValue_zeroPadded]
  have inside : ¬ (n < low ∨ high < n) := by omega
  change (if n < low ∨ high < n then _ else _) = _
  rw [if_neg inside]

/-- A year of four digits. -/
theorem takeYear_zeroPadded {n : Nat} {c : Char} {rest : List Char} (four : n < 10000)
    (stop : c.isDigit = false) :
    takeYear (zeroPadded 4 n ++ c :: rest) = .ok ((n : Int), c :: rest) := by
  have digits := isDigit_of_mem_zeroPadded 4 n
  have length := length_zeroPadded 4 (by decide) four
  have taken := takeDigits_eq rest digits (zeroPadded_ne_nil 4 n) (Nat.le_of_eq length) stop
  rw [digitsValue_zeroPadded] at taken
  have dropped := dropWhile_digits (c :: rest) digits (zeroPadded_ne_nil 4 n)
  obtain ⟨d, more, eq⟩ := List.exists_cons_of_ne_nil (zeroPadded_ne_nil 4 n)
  have digit := digits d (by rw [eq]; exact List.mem_cons_self)
  rw [eq, List.cons_append] at taken dropped ⊢
  have notMinus : d ≠ '-' := by rintro rfl; exact absurd digit (by decide)
  have notPlus : d ≠ '+' := by rintro rfl; exact absurd digit (by decide)
  have inside : ¬ ((n : Int) < -2147483648 ∨ 2147483648 ≤ (n : Int)) := by omega
  simp only [takeYear, dropped, taken]
  split
  next other same => exact absurd (List.cons.inj same).1 notMinus
  next other same => exact absurd (List.cons.inj same).1 notPlus
  next =>
    change (if (n : Int) < -2147483648 ∨ 2147483648 ≤ (n : Int) then _ else _) = _
    rw [if_neg inside]

/-- A fraction is taken whole in the lax form too. -/
theorem takeFraction_zeroPadded (width n : Nat) {c : Char} (rest : List Char)
    (stop : c.isDigit = false) :
    ∃ nanos, takeFraction ('.' :: zeroPadded width n ++ c :: rest) = .ok (nanos, c :: rest) := by
  have within : (zeroPadded width n).length ≤ (zeroPadded width n ++ c :: rest).length := by simp
  have taken := takeDigits_eq rest (isDigit_of_mem_zeroPadded width n) (zeroPadded_ne_nil width n)
    within stop
  refine ⟨fractionNanos ((zeroPadded width n ++ c :: rest).takeWhile Char.isDigit), ?_⟩
  simp only [List.cons_append, takeFraction, taken]
  rfl

/-- What stands behind the seconds is a fraction and the rest, and does not begin with a digit. -/
theorem takeFraction_printFraction (nanos : Nat) {c : Char} (rest : List Char)
    (stop : c.isDigit = false) (point : c ≠ '.') :
    (∃ d more, printFraction nanos ++ c :: rest = d :: more ∧ d.isDigit = false) ∧
      ∃ n, takeFraction (printFraction nanos ++ c :: rest) = .ok (n, c :: rest) := by
  rw [printFraction]
  split
  · refine ⟨⟨c, rest, rfl, stop⟩, 0, ?_⟩
    simp [takeFraction, point]
  · split
    · exact ⟨⟨_, _, rfl, rfl⟩, takeFraction_zeroPadded _ _ rest stop⟩
    · split
      · exact ⟨⟨_, _, rfl, rfl⟩, takeFraction_zeroPadded _ _ rest stop⟩
      · exact ⟨⟨_, _, rfl, rfl⟩, takeFraction_zeroPadded _ _ rest stop⟩

/-- The lax form has no offset, so one behind a clock is too much. -/
theorem readLax_faceText {year month day hour minute second : Nat} (nanos : Nat) (hyear : year < 10000)
    (hmonth : 1 ≤ month ∧ month ≤ 12) (hday : 1 ≤ day ∧ day ≤ 31) (hhour : hour ≤ 23)
    (hminute : minute ≤ 59) (hsecond : second ≤ 60) {c : Char} (rest : List Char)
    (stop : c.isDigit = false) (point : c ≠ '.') :
    readLax (faceText year month day hour minute second nanos ++ c :: rest) = .error .trailing := by
  obtain ⟨⟨d, more, behind, notDigit⟩, n, fraction⟩ :=
    takeFraction_printFraction nanos rest stop point
  rw [behind] at fraction
  simp only [faceText, List.append_assoc, List.cons_append, behind, readLax,
    takeYear_zeroPadded hyear (c := '-') rfl,
    takeField_zeroPadded hmonth.1 hmonth.2 (by omega) (c := '-') rfl,
    takeField_zeroPadded hday.1 hday.2 (by omega) (c := 'T') rfl,
    takeField_zeroPadded (Nat.zero_le hour) hhour (by omega) (c := ':') rfl,
    takeField_zeroPadded (Nat.zero_le minute) hminute (by omega) (c := ':') rfl,
    takeField_zeroPadded (Nat.zero_le second) hsecond (by omega) notDigit,
    takeChar, if_true, bind, Except.bind, fraction]
  rfl

/-! ### Printed instants -/

section Printed

variable {c : ClockTime} (ofDay : c.OfDay) (nanos_lt : c.nanos < 2000000000)
  (year : 0 ≤ c.date.year ∧ c.date.year ≤ 9999)
include ofDay nanos_lt year

/-- A clock is printed as numbers that are all in range, and these are read as what the text shows. -/
theorem printClock_eq :
    ∃ year month day hour minute second nanos : Nat,
      printClock c = faceText year month day hour minute second nanos ∧
        clock? year month day hour minute second nanos = some c.shown ∧
        year < 10000 ∧ (1 ≤ month ∧ month ≤ 12) ∧ (1 ≤ day ∧ day ≤ 31) ∧ hour ≤ 23 ∧
        minute ≤ 59 ∧ second ≤ 60 ∧ nanos < 1000000000 := by
  obtain ⟨exists_, hour, minute, second⟩ := ofDay
  obtain ⟨⟨y, mo, d⟩, h, mi, s, nanos⟩ := c
  have mem := exists_.mem
  simp only at hour minute second year nanos_lt mem
  have hy : (y.toNat : Int) = y := by omega
  have hmo : (mo.toNat : Int) = mo := by omega
  have hd : (d.toNat : Int) = d := by omega
  have hh : (h.toNat : Int) = h := by omega
  have hmi : (mi.toNat : Int) = mi := by omega
  have hs : (s.toNat : Int) = s := by omega
  by_cases leap : 1000000000 ≤ nanos
  · refine ⟨y.toNat, mo.toNat, d.toNat, h.toNat, mi.toNat, s.toNat + 1, nanos - 1000000000, ?_, ?_,
      by omega, by omega, by omega, by omega, by omega, by omega, by omega⟩
    · simp [printClock, printYear, year, leap, faceText]
    · rw [Int.natCast_add, hy, hmo, hd, hh, hmi, hs, Int.natCast_one, clock?,
        if_pos ⟨exists_, hour.2, minute.2, by omega⟩, ClockTime.shown]
      by_cases last : s = 59
      · simp [last, Nat.sub_add_cancel leap]
      · rw [if_neg (by omega), if_pos ⟨leap, last⟩]
  · refine ⟨y.toNat, mo.toNat, d.toNat, h.toNat, mi.toNat, s.toNat, nanos, ?_, ?_,
      by omega, by omega, by omega, by omega, by omega, by omega, by omega⟩
    · simp [printClock, printYear, year, leap, faceText]
    · rw [hy, hmo, hd, hh, hmi, hs, clock?, if_pos ⟨exists_, hour.2, minute.2, by omega⟩,
        if_neg (by omega), ClockTime.shown, if_neg fun shown => leap shown.1]

/-- A printed clock with an offset behind it is read as what it shows minus the offset. -/
theorem readStrict?_printClock {rest : List Char} (ends : EndsFraction rest) :
    readStrict? (printClock c ++ rest) =
      (readOffset? rest).bind fun offset =>
        (Instant.ofParts? (c.shown.seconds - offset.seconds) c.shown.nanos).map (·, offset) := by
  obtain ⟨y, mo, d, h, mi, s, nanos, text, shown, hy, hmo, hd, hh, hmi, hs, hnanos⟩ :=
    printClock_eq ofDay nanos_lt year
  rw [text, readStrict?_faceText hy (by omega) (by omega) (by omega) (by omega) (by omega) hnanos
    ends]
  simp only [shown, Option.bind_some]

end Printed

/-- A printed instant is read in local time minus the offset as printed. An offset that is printed as
a whole day is none. -/
theorem read_print (i : Instant) (o : Offset)
    (year : 0 ≤ (i.clock o).date.year ∧ (i.clock o).date.year ≤ 9999) :
    read (print i o) =
      match (Offset.ofSeconds? o.printed).bind fun printed =>
          (Instant.ofParts? ((i.clock o).shown.seconds - printed.seconds)
            (i.clock o).shown.nanos).map (·, printed) with
      | some r => .ok r
      | none => .error .trailing := by
  have ofDay := ClockTime.ofDay_ofSeconds (i.seconds + o.seconds) i.nanos
  obtain ⟨y, mo, d, h, mi, s, nanos, text, -, hy, hmo, hd, hh, hmi, hs, -⟩ :=
    printClock_eq ofDay i.nanos_lt year
  have strict := readStrict?_printClock ofDay i.nanos_lt year (endsFraction_printOffset o)
  rw [readOffset?_printOffset] at strict
  obtain ⟨sign, rest, behind, notDigit, notPoint⟩ : ∃ sign rest, printOffset o = sign :: rest ∧
      sign.isDigit = false ∧ sign ≠ '.' := by
    have ends := endsFraction_printOffset o
    exact ⟨_, _, rfl, ends _ rfl⟩
  have lax := readLax_faceText nanos hy hmo hd hh hmi hs rest notDigit notPoint
  rw [← behind, ← text] at lax
  rw [read, print, String.toList_ofList, Instant.clock, strict, lax]
  rfl

/-- In an offset of whole minutes a leap second ends a minute there too, and is shown as it is. -/
theorem shown_clock {i : Instant} {o : Offset} (whole : o.seconds % 60 = 0) :
    (i.clock o).shown = i.clock o := by
  rw [ClockTime.shown, if_neg]
  rintro ⟨leap, second⟩
  have minute := i.leap_at_minute_end leap
  refine second ?_
  simp only [Instant.clock, ClockTime.ofSeconds]
  omega

/-- So what is shown in such an offset is the instant. -/
theorem ofParts?_shown {i : Instant} {o : Offset} (whole : o.seconds % 60 = 0) :
    Instant.ofParts? ((i.clock o).shown.seconds - o.seconds) (i.clock o).shown.nanos = some i := by
  have seconds : (i.clock o).seconds - o.seconds = i.seconds := by
    rw [Instant.clock, ClockTime.seconds_ofSeconds, Int.add_sub_cancel]
  have nanos : (i.clock o).nanos = i.nanos := rfl
  rw [shown_clock whole, seconds, nanos, i.ofParts?_parts]

/-- In universal time every instant is printed to be read as it was. -/
theorem read_printUtc (i : Instant)
    (year : 0 ≤ (i.clock .utc).date.year ∧ (i.clock .utc).date.year ≤ 9999) :
    read (printUtc i) = .ok (i, .utc) := by
  have ends : EndsFraction ['Z'] := by
    intro c mem
    obtain rfl : 'Z' = c := by simpa using mem
    decide
  have ofDay : (i.clock .utc).OfDay := ClockTime.ofDay_ofSeconds (i.seconds + 0) i.nanos
  have strict := readStrict?_printClock ofDay i.nanos_lt year ends
  have offset : readOffset? ['Z'] = some .utc := rfl
  rw [offset, Option.bind_some, ofParts?_shown rfl] at strict
  rw [read, printUtc, String.toList_ofList, strict]
  rfl

section

variable (i : Instant) (o : Offset)
  (year : 0 ≤ (i.clock o).date.year ∧ (i.clock o).date.year ≤ 9999)
include year

/-- With an offset of whole minutes the printed instant is read as it was. -/
theorem read_print_of_wholeMinutes (whole : o.seconds % 60 = 0) : read (print i o) = .ok (i, o) := by
  have offset : Offset.ofSeconds? o.printed = some o := by
    rw [(printed_eq_iff o).2 whole, Offset.ofSeconds?, dif_pos ⟨o.gt_day, o.lt_day⟩]
  rw [read_print i o year, offset, Option.bind_some, ofParts?_shown whole]
  rfl

/-- With any other offset it is not: the offset is printed as another one, and a leap second as the
second after it. -/
theorem wholeMinutes_of_read_print {p : Offset} (same : read (print i o) = .ok (i, p)) :
    o.seconds % 60 = 0 := by
  rw [read_print i o year] at same
  cases offset : Offset.ofSeconds? o.printed with
  | none =>
      rw [offset] at same
      cases same
  | some printed =>
      cases parts : Instant.ofParts? ((i.clock o).shown.seconds - printed.seconds)
          (i.clock o).shown.nanos with
      | none =>
          rw [offset, Option.bind_some, parts] at same
          cases same
      | some j =>
          rw [offset, Option.bind_some, parts] at same
          obtain ⟨rfl, -⟩ := Prod.mk.inj (Except.ok.inj same)
          obtain ⟨seconds, nanos⟩ := Instant.of_ofParts? parts
          rw [← printed_eq_iff, ← Offset.of_ofSeconds? offset]
          by_cases leap : 1000000000 ≤ (j.clock o).nanos ∧ (j.clock o).second ≠ 59
          · -- The leap second is lost.
            have shown : (j.clock o).shown.nanos = j.nanos - 1000000000 := by
              rw [ClockTime.shown, if_pos leap]
              rfl
            have long : 1000000000 ≤ j.nanos := leap.1
            omega
          · have shown : (j.clock o).shown.seconds = j.seconds + o.seconds := by
              rw [ClockTime.shown, if_neg leap, Instant.clock, ClockTime.seconds_ofSeconds]
            omega

end

end Iso8601

end Keyscan
