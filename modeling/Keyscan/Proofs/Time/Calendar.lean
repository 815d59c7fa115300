import Keyscan.Time.Instant

/-!
The calendar there and back: every number of days is the number of its date, and the date is one that
the calendar has.

Both follow from taking a day of an era of 400 years apart, from the first of March on, into centuries,
spans of four years, years and days (`EraDay`): the year that `Date.ofDayNumber` computes from the day
is that of its parts.
-/

set_option autoImplicit false

namespace Keyscan

namespace Date

/-- A day of an era by its parts. The last year of a span has a day more, but not at the end of a
century, unless that ends the era. -/
structure EraDay (day : Int) where
  centuries : Int
  spans : Int
  years : Int
  days : Int
  eq : day = 36524 * centuries + 1461 * spans + 365 * years + days
  centuries_mem : 0 ≤ centuries ∧ centuries ≤ 3
  spans_mem : 0 ≤ spans ∧ spans ≤ 24
  years_mem : 0 ≤ years ∧ years ≤ 3
  days_mem : 0 ≤ days ∧ days ≤ 365
  leap : days = 365 → years = 3 ∧ (spans < 24 ∨ centuries = 3)

namespace EraDay

/-- The parts of a day. -/
def parts {day : Int} (first : 0 ≤ day) (last : day < 146097) : EraDay day :=
  let centuries := min (day / 36524) 3
  let ofCentury := day - 36524 * centuries
  let spans := ofCentury / 1461
  let ofSpan := ofCentury - 1461 * spans
  let years := min (ofSpan / 365) 3
  { centuries, spans, years
    days := ofSpan - 365 * years
    eq := by omega
    centuries_mem := by omega
    spans_mem := by omega
    years_mem := by omega
    days_mem := by omega
    leap := by omega }

variable {day : Int} (p : EraDay day)

/-- The year of the era. -/
def year : Int := 100 * p.centuries + 4 * p.spans + p.years

theorem year_mem : 0 ≤ p.year ∧ p.year < 400 := by
  have centuries := p.centuries_mem
  have spans := p.spans_mem
  have years := p.years_mem
  simp only [year]
  omega

/-- The year of a day, with its leap days taken out before it is divided. -/
theorem div_eq_year : (day - day / 1460 + day / 36524 - day / 146096) / 365 = p.year := by
  obtain ⟨c, s, y, d, eq, hc, hs, hy, hd, leap⟩ := p
  simp only [year]
  -- What the quotients count too much: a day at the end of a span, and one at the end of the era.
  let ahead := (24 * c + s + 365 * y + d) / 1460
  let final := day / 146096
  have spans : day / 1460 = 25 * c + s + ahead := by
    rw [eq, show 36524 * c + 1461 * s + 365 * y + d =
      24 * c + s + 365 * y + d + 1460 * (25 * c + s) by omega,
      Int.add_mul_ediv_left _ _ (by decide)]
    omega
  have centuries : day / 36524 = c + final := by
    have within : 1461 * s + 365 * y + d < 36524 ∨ day = 146096 ∧ c = 3 := by
      by_cases leapDay : d = 365
      · have := leap leapDay
        omega
      · omega
    rcases within with within | ⟨rfl, rfl⟩
    · have : final = 0 := by omega
      omega
    · rfl
  have ahead_mem : 0 ≤ ahead ∧ ahead ≤ 1 ∧ (d = 0 → ahead = 0) ∧ (d = 365 → ahead = 1) := by
    by_cases leapDay : d = 365
    · have := leap leapDay
      omega
    · omega
  rw [spans, centuries]
  omega

/-- The day within its year. -/
theorem sub_year_eq : day - (365 * p.year + p.year / 4 - p.year / 100) = p.days := by
  have spans : p.year / 4 = 25 * p.centuries + p.spans := by
    have := p.years_mem
    simp only [year]
    omega
  have centuries : p.year / 100 = p.centuries := by
    have := p.years_mem
    have := p.spans_mem
    simp only [year]
    omega
  have eq := p.eq
  rw [spans, centuries, year]
  omega

theorem mem_era (p : EraDay day) : 0 ≤ day ∧ day < 146097 := by
  obtain ⟨c, s, y, d, eq, hc, hs, hy, hd, leap⟩ := p
  by_cases leapDay : d = 365
  · have := leap leapDay
    omega
  · omega

/-- A leap day ends the February of a leap year, in every era. -/
theorem isLeapYear (era : Int) (leapDay : p.days = 365) :
    Date.isLeapYear (p.year + 400 * era + 1) = true := by
  obtain ⟨years, spans⟩ := p.leap leapDay
  have spans_mem := p.spans_mem
  simp only [Date.isLeapYear, year, years, Bool.and_eq_true, Bool.or_eq_true, beq_iff_eq,
    bne_iff_ne]
  omega

end EraDay

/-- Every day is one of an era. -/
theorem exists_eraDay (n : Int) :
    ∃ era day, n + marchOffset = 146097 * era + day ∧ Nonempty (EraDay day) :=
  ⟨_, _, (Int.mul_ediv_add_emod (n + marchOffset) 146097).symm,
    ⟨.parts (Int.emod_nonneg _ (by decide)) (Int.emod_lt_of_pos _ (by decide))⟩⟩

section OfDayNumber

variable {n era day : Int} (number : n + marchOffset = 146097 * era + day) (p : EraDay day)
include number

/-- The date of a day of an era. -/
theorem ofDayNumber_eq :
    ofDayNumber n =
      let month := (5 * p.days + 2) / 153
      let year := p.year + 400 * era
      { year := if month < 10 then year else year + 1
        month := if month < 10 then month + 3 else month - 9
        day := p.days - (153 * month + 2) / 5 + 1 } := by
  have day_mem := p.mem_era
  have eras : (n + marchOffset) / 146097 = era := by omega
  have days : (n + marchOffset) % 146097 = day := by omega
  simp only [ofDayNumber, eras, days, p.div_eq_year, p.sub_year_eq]

end OfDayNumber

/-- The number of the date of a day is the number of the day. -/
theorem dayNumber_ofDayNumber (n : Int) : (ofDayNumber n).dayNumber = n := by
  obtain ⟨era, day, number, ⟨p⟩⟩ := exists_eraDay n
  have year := p.year_mem
  have days := p.days_mem
  have ofYear := p.sub_year_eq
  have fours : (p.year + 400 * era) / 4 = p.year / 4 + 100 * era := by omega
  have hundreds : (p.year + 400 * era) / 100 = p.year / 100 + 4 * era := by omega
  have eras : (p.year + 400 * era) / 400 = era := by omega
  rw [ofDayNumber_eq number p, dayNumber]
  by_cases early : (5 * p.days + 2) / 153 < 10
  · simp only [if_pos early]
    rw [if_neg (by omega), if_neg (by omega), fours, hundreds, eras, Int.add_sub_cancel]
    omega
  · simp only [if_neg early]
    rw [if_pos (by omega), if_pos (by omega), Int.add_sub_cancel, Int.sub_add_cancel, fours,
      hundreds, eras]
    omega

/-- The calendar has the date of every day. -/
theorem exists_ofDayNumber (n : Int) : (ofDayNumber n).Exists := by
  obtain ⟨era, day, number, ⟨p⟩⟩ := exists_eraDay n
  have days := p.days_mem
  have leap := p.isLeapYear era
  rw [ofDayNumber_eq number p, Exists]
  obtain ⟨month, index⟩ : ∃ month, (5 * p.days + 2) / 153 = month := ⟨_, rfl⟩
  simp only [index, daysInMonth]
  -- The months are counted from March; February comes last.
  obtain rfl | rfl | rfl | rfl | rfl | rfl | rfl | rfl | rfl | rfl | rfl | rfl : month = 0 ∨
      month = 1 ∨ month = 2 ∨ month = 3 ∨ month = 4 ∨ month = 5 ∨ month = 6 ∨ month = 7 ∨
      month = 8 ∨ month = 9 ∨ month = 10 ∨ month = 11 := by omega
  case inr.inr.inr.inr.inr.inr.inr.inr.inr.inr.inr =>
    by_cases leapDay : p.days = 365
    · simp [leapDay, leap leapDay]
    · simp only [Int.reduceLT, if_false, Int.reduceSub, if_true]
      split <;> omega
  all_goals
    simp
    omega

/-- The calendar has twelve months, of 31 days at the most. -/
theorem Exists.mem {d : Date} (h : d.Exists) :
    1 ≤ d.month ∧ d.month ≤ 12 ∧ 1 ≤ d.day ∧ d.day ≤ 31 := by
  obtain ⟨first, last⟩ := h
  rw [daysInMonth] at last
  split at last
  · split at last <;> omega
  · split at last
    · omega
    · split at last <;> omega

end Date

namespace ClockTime

/-- A clock that shows a date of the calendar and a time of day. -/
structure OfDay (c : ClockTime) : Prop where
  date : c.date.Exists
  hour : 0 ≤ c.hour ∧ c.hour ≤ 23
  minute : 0 ≤ c.minute ∧ c.minute ≤ 59
  second : 0 ≤ c.second ∧ c.second ≤ 59

theorem ofDay_ofSeconds (seconds : Int) (nanos : Nat) : (ofSeconds seconds nanos).OfDay where
  date := Date.exists_ofDayNumber _
  hour := by simp only [ofSeconds]; omega
  minute := by simp only [ofSeconds]; omega
  second := by simp only [ofSeconds]; omega

/-- The clock at a number of seconds shows that number. -/
theorem seconds_ofSeconds (time : Int) (nanos : Nat) : (ofSeconds time nanos).seconds = time := by
  simp only [ofSeconds, seconds, Date.dayNumber_ofDayNumber]
  omega

end ClockTime

end Keyscan
