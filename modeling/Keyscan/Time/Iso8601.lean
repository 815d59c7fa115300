import Keyscan.Number.Literal
import Keyscan.Text.Blank
import Keyscan.Time.Instant

/-!
Text of instants in the ISO 8601 form with date, time, fraction and offset. Printing keeps every
nanosecond and rounds the offset to whole minutes. Reading first takes the strict form with an
offset; text that is not of it is read as universal time in a laxer form without one, and only the
fault of the second reading is reported.
-/

set_option autoImplicit false

namespace Keyscan.Iso8601

/-! ### Printing -/

/-- Digits of a number, filled up with zeros on the left. -/
def zeroPadded (width n : Nat) : List Char :=
  let digits := Nat.toDigits 10 n
  List.replicate (width - digits.length) '0' ++ digits

/-- Years of four digits stand as they are, all others carry their sign. -/
def printYear (year : Int) : List Char :=
  if 0 ≤ year ∧ year ≤ 9999 then zeroPadded 4 year.toNat
  else (if year < 0 then '-' else '+') :: zeroPadded 4 year.natAbs

/-- The fraction of a second in three, six or nine digits, whichever first is exact. -/
def printFraction (nanos : Nat) : List Char :=
  if nanos = 0 then []
  else if nanos % 1000000 = 0 then '.' :: zeroPadded 3 (nanos / 1000000)
  else if nanos % 1000 = 0 then '.' :: zeroPadded 6 (nanos / 1000)
  else '.' :: zeroPadded 9 nanos

/-- The offset in hours and minutes, rounded to the nearest minute. -/
def printOffset (o : Offset) : List Char :=
  let minutes := (o.seconds.natAbs + 30) / 60
  (if o.seconds < 0 then '-' else '+') ::
    (zeroPadded 2 (minutes / 60) ++ ':' :: zeroPadded 2 (minutes % 60))

/-- What a clock shows. A leap second is the second after 59. -/
def printClock (c : ClockTime) : List Char :=
  let leap := 1000000000 ≤ c.nanos
  let second := if leap then c.second.toNat + 1 else c.second.toNat
  let nanos := if leap then c.nanos - 1000000000 else c.nanos
  printYear c.date.year ++ '-' :: zeroPadded 2 c.date.month.toNat ++
    '-' :: zeroPadded 2 c.date.day.toNat ++ 'T' :: zeroPadded 2 c.hour.toNat ++
    ':' :: zeroPadded 2 c.minute.toNat ++ ':' :: zeroPadded 2 second ++ printFraction nanos

/-- The instant in local time with its offset. -/
def print (i : Instant) (o : Offset) : String :=
  String.ofList (printClock (i.clock o) ++ printOffset o)

/-- The instant in universal time, marked by a `Z`. -/
def printUtc (i : Instant) : String :=
  String.ofList (printClock (i.clock .utc) ++ ['Z'])

/-! ### The strict form -/

/-- A number of exactly two digits. -/
def twoDigits? (a b : Char) : Option Int :=
  if a.isDigit ∧ b.isDigit then some (digitValue a * 10 + digitValue b : Nat) else none

/-- Nanoseconds by the first nine digits of a fraction. -/
def fractionNanos (digits : List Char) : Nat :=
  let kept := digits.take 9
  digitsValue kept * Nat.pow 10 (9 - kept.length)

/-- An optional fraction: a point and one or more digits. -/
def readFraction? (cs : List Char) : Option (Nat × List Char) :=
  match cs with
  | '.' :: rest =>
      let digits := rest.takeWhile Char.isDigit
      if digits.isEmpty then none
      else some (fractionNanos digits, rest.dropWhile Char.isDigit)
  | _ => some (0, cs)

/-- The seconds of an offset: `Z`, or a sign with hours and minutes. -/
def readOffset? (cs : List Char) : Option Offset :=
  match cs with
  | [z] => if z = 'Z' ∨ z = 'z' then some .utc else none
  | [sign, h1, h2, ':', m1, m2] => do
      let hours ← twoDigits? h1 h2
      let minutes ← twoDigits? m1 m2
      let seconds := 3600 * hours + 60 * minutes
      if 60 ≤ minutes then none
      else if sign = '+' then Offset.ofSeconds? seconds
      else if sign = '-' ∨ sign = '\u2212' then Offset.ofSeconds? (-seconds)
      else none
  | _ => none

/-- The clock with the given fields, if the calendar and the day have it. Second 60 is the leap
second after 59. -/
def clock? (year month day hour minute second : Int) (nanos : Nat) : Option ClockTime :=
  let date : Date := ⟨year, month, day⟩
  if date.Exists ∧ hour ≤ 23 ∧ minute ≤ 59 ∧ second ≤ 60 then
    if second = 60 then some ⟨date, hour, minute, 59, nanos + 1000000000⟩
    else some ⟨date, hour, minute, second, nanos⟩
  else none

/-- Reads the strict form: a date of four, two and two digits, a `T` or a space, a time with
seconds, an optional fraction and an offset. -/
def readStrict? (cs : List Char) : Option (Instant × Offset) :=
  match cs with
  | y1 :: y2 :: y3 :: y4 :: '-' :: mo1 :: mo2 :: '-' :: d1 :: d2 :: separator ::
      h1 :: h2 :: ':' :: mi1 :: mi2 :: ':' :: s1 :: s2 :: rest => do
      if separator ≠ 'T' ∧ separator ≠ 't' ∧ separator ≠ ' ' then none
      let century ← twoDigits? y1 y2
      let yearOfCentury ← twoDigits? y3 y4
      let month ← twoDigits? mo1 mo2
      let day ← twoDigits? d1 d2
      let hour ← twoDigits? h1 h2
      let minute ← twoDigits? mi1 mi2
      let second ← twoDigits? s1 s2
      let (nanos, rest) ← readFraction? rest
      let offset ← readOffset? rest
      let clock ← clock? (100 * century + yearOfCentury) month day hour minute second nanos
      let instant ← Instant.ofParts? (clock.seconds - offset.seconds) clock.nanos
      some (instant, offset)
  | _ => none

/-! ### The lax form -/

/-- Why a text is not of the lax form. -/
inductive Fault where
  | tooShort
  | invalid
  | outOfRange
  | trailing
  deriving DecidableEq, Repr

/-- The text of a fault. -/
def Fault.message : Fault → String
  | .tooShort => "premature end of input"
  | .invalid => "input contains invalid characters"
  | .outOfRange => "input is out of range"
  | .trailing => "trailing input"

/-- The leading digits of a text, at most so many and at least one, and the rest. -/
def takeDigits (most : Nat) (cs : List Char) : Except Fault (Nat × List Char) :=
  let digits := (cs.takeWhile Char.isDigit).take most
  match cs with
  | [] => .error .tooShort
  | _ => if digits.isEmpty then .error .invalid
      else .ok (digitsValue digits, cs.drop digits.length)

/-- A signed year of any number of digits, or one of up to four digits. -/
def takeYear (cs : List Char) : Except Fault (Int × List Char) := do
  let cs := cs.dropWhile Text.isBlankChar
  let (year, rest) ←
    match cs with
    | '-' :: digits => (takeDigits digits.length digits).map fun r => (-(r.1 : Int), r.2)
    | '+' :: digits => (takeDigits digits.length digits).map fun r => ((r.1 : Int), r.2)
    | _ => (takeDigits 4 cs).map fun r => ((r.1 : Int), r.2)
  if year < -2147483648 ∨ 2147483648 ≤ year then .error .outOfRange else .ok (year, rest)

/-- A number of one or two digits between two bounds. -/
def takeField (low high : Nat) (cs : List Char) : Except Fault (Int × List Char) := do
  let (n, rest) ← takeDigits 2 (cs.dropWhile Text.isBlankChar)
  if n < low ∨ high < n then .error .outOfRange else .ok ((n : Int), rest)

/-- One given character. -/
def takeChar (c : Char) : List Char → Except Fault (List Char)
  | [] => .error .tooShort
  | d :: rest => if d = c then .ok rest else .error .invalid

/-- An optional fraction: a point and one or more digits. -/
def takeFraction (cs : List Char) : Except Fault (Nat × List Char) :=
  match cs with
  | '.' :: rest => do
      let digits := rest.takeWhile Char.isDigit
      let (_, rest) ← takeDigits rest.length rest
      .ok (fractionNanos digits, rest)
  | _ => .ok (0, cs)

/-- Reads the lax form, as universal time. -/
def readLax (cs : List Char) : Except Fault Instant := do
  let (year, cs) ← takeYear cs
  let cs ← takeChar '-' cs
  let (month, cs) ← takeField 1 12 cs
  let cs ← takeChar '-' cs
  let (day, cs) ← takeField 1 31 cs
  let cs ← takeChar 'T' cs
  let (hour, cs) ← takeField 0 23 cs
  let cs ← takeChar ':' cs
  let (minute, cs) ← takeField 0 59 cs
  let cs ← takeChar ':' cs
  let (second, cs) ← takeField 0 60 cs
  let (nanos, cs) ← takeFraction cs
  if !cs.isEmpty then .error .trailing
  else
    match clock? year month day hour minute second nanos with
    | none => .error .outOfRange
    | some clock =>
        match Instant.ofParts? clock.seconds clock.nanos with
        | none => .error .outOfRange
        | some instant => .ok instant

/-- Reads a text of either form, with the offset it was written in. -/
def read (text : String) : Except Fault (Instant × Offset) :=
  match readStrict? text.toList with
  | some r => .ok r
  | none => (readLax text.toList).map fun i => (i, .utc)

end Keyscan.Iso8601
