/-!
The proleptic Gregorian calendar: dates as numbers of days since 1970-01-01, and back.
-/

set_option autoImplicit false

namespace Keyscan

/-- A date by year, month and day. -/
structure Date where
  year : Int
  month : Int
  day : Int
  deriving DecidableEq, Repr

namespace Date

/-- Leap years are those divisible by four, of the centuries only every fourth. -/
def isLeapYear (year : Int) : Bool :=
  year % 4 == 0 && (year % 100 != 0 || year % 400 == 0)

/-- The number of days of a month, zero for a number that names no month. -/
def daysInMonth (year month : Int) : Int :=
  if month = 2 then (if isLeapYear year then 29 else 28)
  else if month = 4 ∨ month = 6 ∨ month = 9 ∨ month = 11 then 30
  else if 1 ≤ month ∧ month ≤ 12 then 31
  else 0

/-- Whether the calendar has the date. -/
def Exists (d : Date) : Prop :=
  1 ≤ d.day ∧ d.day ≤ daysInMonth d.year d.month

instance (d : Date) : Decidable d.Exists := inferInstanceAs (Decidable (_ ∧ _))

/-- Days from 0000-03-01 to 1970-01-01. Years are counted from March here, so that a leap day is the
last day of its year. -/
def marchOffset : Int := 719468

/-- The days from 1970-01-01 to the date. -/
def dayNumber (d : Date) : Int :=
  let year := if d.month ≤ 2 then d.year - 1 else d.year
  let month := if d.month ≤ 2 then d.month + 9 else d.month - 3
  365 * year + year / 4 - year / 100 + year / 400 + (153 * month + 2) / 5 + (d.day - 1) -
    marchOffset

/-- The date so many days after 1970-01-01. -/
def ofDayNumber (n : Int) : Date :=
  let days := n + marchOffset
  let era := days / 146097
  let dayOfEra := days % 146097
  let yearOfEra := (dayOfEra - dayOfEra / 1460 + dayOfEra / 36524 - dayOfEra / 146096) / 365
  let dayOfYear := dayOfEra - (365 * yearOfEra + yearOfEra / 4 - yearOfEra / 100)
  let month := (5 * dayOfYear + 2) / 153
  let year := yearOfEra + 400 * era
  { year := if month < 10 then year else year + 1
    month := if month < 10 then month + 3 else month - 9
    day := dayOfYear - (153 * month + 2) / 5 + 1 }

end Date

/-- A date with a time of day. The seconds of a leap second run on in the nanoseconds, from
1000000000 to 1999999999. -/
structure ClockTime where
  date : Date
  hour : Int
  minute : Int
  second : Int
  nanos : Nat
  deriving DecidableEq, Repr

namespace ClockTime

/-- The clock at a number of seconds since 1970-01-01T00:00:00. -/
def ofSeconds (seconds : Int) (nanos : Nat) : ClockTime :=
  let time := seconds % 86400
  ⟨.ofDayNumber (seconds / 86400), time / 3600, time / 60 % 60, time % 60, nanos⟩

/-- The seconds since 1970-01-01T00:00:00 that the clock shows. -/
def seconds (c : ClockTime) : Int :=
  86400 * c.date.dayNumber + 3600 * c.hour + 60 * c.minute + c.second

end ClockTime

end Keyscan
