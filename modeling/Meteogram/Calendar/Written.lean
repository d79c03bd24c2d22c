import Meteogram.Calendar.Instant
import Meteogram.Text.Digits

/-!
# Written dates and times

The texts of an instant: the timestamp `2024-03-17T15:42:09` that labels and records carry, the
same with a blank and a fraction, and the names of days and months that table headings use.
A year outside 0 to 9999 carries a sign and at least four digits.
-/

namespace Meteogram

open Text

namespace Date

/-- Four digits, and a sign where they do not say the year. -/
def yearChars (year : Int) : List Char :=
  if 0 ≤ year ∧ year ≤ 9999 then padded 4 year.toNat
  else (if year < 0 then '-' else '+') :: padded 4 year.natAbs

/-- Year, month and day: `2024-03-17`. -/
def chars (d : Date) : List Char :=
  yearChars d.year ++ '-' :: padded 2 d.month ++ '-' :: padded 2 d.day

/-- The English name of a month, counted from 1. -/
def monthName (month : Nat) : String :=
  (["January", "February", "March", "April", "May", "June", "July", "August", "September",
    "October", "November", "December"][month - 1]?).getD ""

/-- The English name of a day of the week, Monday being 0. -/
def weekdayName (weekday : Nat) : String :=
  (["Monday", "Tuesday", "Wednesday", "Thursday", "Friday", "Saturday", "Sunday"][weekday]?).getD ""

end Date

namespace Instant

/-- Hour and minute: `15:42`. -/
def hourMinuteChars (t : Instant) : List Char :=
  padded 2 t.hour ++ ':' :: padded 2 t.minute

/-- Hour, minute and second: `15:42:09`. -/
def clockChars (t : Instant) : List Char :=
  t.hourMinuteChars ++ ':' :: padded 2 t.clockSecond

/-- A fraction of a second in as few groups of three digits as say it, nothing for a whole second. -/
def fractionChars (nanos : Nat) : List Char :=
  if nanos = 0 then []
  else if nanos % 1000000 = 0 then '.' :: padded 3 (nanos / 1000000)
  else if nanos % 1000 = 0 then '.' :: padded 6 (nanos / 1000)
  else '.' :: padded 9 nanos

/-- The timestamp `2024-03-17T15:42:09`, without the fraction. -/
def isoChars (t : Instant) : List Char := t.date.chars ++ 'T' :: t.clockChars

/-- The timestamp `2024-03-17T15:42:09`, without the fraction. -/
def iso (t : Instant) : String := String.ofList t.isoChars

/-- Date and time with a blank between them and the fraction after them. -/
def exact (t : Instant) : String :=
  String.ofList (t.date.chars ++ ' ' :: t.clockChars ++ fractionChars t.fraction)

end Instant

end Meteogram
