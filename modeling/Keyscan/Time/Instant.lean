import Keyscan.Time.Calendar

/-!
Instants of universal time to the nanosecond, and fixed offsets of local time from it.
-/

set_option autoImplicit false

namespace Keyscan

/-- The first second of the year -262143. -/
def firstSecond : Int := -8334601228800

/-- The last second of the year 262142. -/
def lastSecond : Int := 8210266876799

/-- Seconds since 1970-01-01T00:00:00 and the nanoseconds within the second. A leap second runs on
in the nanoseconds of the second before it, which is the last of a minute. -/
structure Instant where
  seconds : Int
  nanos : Nat
  first_le : firstSecond ≤ seconds
  le_last : seconds ≤ lastSecond
  nanos_lt : nanos < 2000000000
  leap_at_minute_end : 1000000000 ≤ nanos → seconds % 60 = 59
  deriving DecidableEq

namespace Instant

/-- The instant with the given parts, when there is one. -/
def ofParts? (seconds : Int) (nanos : Nat) : Option Instant :=
  if h : firstSecond ≤ seconds ∧ seconds ≤ lastSecond ∧ nanos < 2000000000 ∧
      (1000000000 ≤ nanos → seconds % 60 = 59) then
    some ⟨seconds, nanos, h.1, h.2.1, h.2.2.1, h.2.2.2⟩
  else none

/-- 1970-01-01T00:00:00. -/
def epoch : Instant := ⟨0, 0, by decide, by decide, by decide, by decide⟩

instance : Inhabited Instant := ⟨epoch⟩

end Instant

/-- Seconds that local time is ahead of universal time, less than a day either way. -/
structure Offset where
  seconds : Int
  gt_day : -86400 < seconds
  lt_day : seconds < 86400
  deriving DecidableEq

namespace Offset

/-- The offset of so many seconds, when it is less than a day. -/
def ofSeconds? (seconds : Int) : Option Offset :=
  if h : -86400 < seconds ∧ seconds < 86400 then some ⟨seconds, h.1, h.2⟩ else none

/-- Universal time itself. -/
def utc : Offset := ⟨0, by decide, by decide⟩

end Offset

/-- What a clock at the offset shows at the instant. -/
def Instant.clock (i : Instant) (offset : Offset) : ClockTime :=
  .ofSeconds (i.seconds + offset.seconds) i.nanos

end Keyscan
