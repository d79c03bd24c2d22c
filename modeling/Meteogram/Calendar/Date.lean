/-!
# Dates of the proleptic Gregorian calendar

A date is a year, a month and a day of the month; the *day number* counts days from 1970-01-01.
`Date.dayNumber` adds up the lengths of the years, months and days before a date, and
`Date.ofDayNumber` finds the date again. The calendar of this library runs from
-262143-01-01 to +262142-12-31; `Date.ofYmd?` and `Date.pred?` stay inside it.
-/

namespace Meteogram

/-- A day of the proleptic Gregorian calendar; year 0 is the year before year 1. -/
structure Date where
  year : Int
  month : Nat
  day : Nat
deriving DecidableEq, Repr

namespace Date

/-- Every fourth year is a leap year, except the centuries that 400 does not divide. -/
def isLeap (year : Int) : Bool :=
  year % 4 == 0 && (year % 100 != 0 || year % 400 == 0)

/-- The number of days of a month, counted from 1, in a leap or a common year. -/
def monthLength (leap : Bool) (month : Nat) : Nat :=
  match month with
  | 2 => if leap then 29 else 28
  | 4 | 6 | 9 | 11 => 30
  | _ => 31

theorem monthLength_pos (leap : Bool) (month : Nat) : 0 < monthLength leap month := by
  unfold monthLength
  split
  · split <;> decide
  all_goals decide

theorem monthLength_le (leap : Bool) (month : Nat) : monthLength leap month ≤ 31 := by
  unfold monthLength
  split
  · split <;> decide
  all_goals decide

/-- The days of a year that lie before the first of the given month. -/
def daysBeforeMonth (leap : Bool) : Nat → Nat
  | 0 => 0
  | 1 => 0
  | month + 2 => daysBeforeMonth leap (month + 1) + monthLength leap (month + 1)

/-- The days from 0001-01-01 to the first of January of the given year. -/
def daysBeforeYear (year : Int) : Int :=
  365 * (year - 1) + (year - 1) / 4 - (year - 1) / 100 + (year - 1) / 400

/-- The days from 0001-01-01 to 1970-01-01. -/
def epochDays : Int := 719162

/-- Days from 1970-01-01 to a date, negative before it. -/
def dayNumber (d : Date) : Int :=
  daysBeforeYear d.year + daysBeforeMonth (isLeap d.year) d.month + d.day - 1 - epochDays

/-- The year that contains a day. The average year length gives a year that is off by at most one. -/
def yearOfDayNumber (n : Int) : Int :=
  let days := n + epochDays
  let guess := 400 * days / 146097 + 1
  if days < daysBeforeYear guess then guess - 1
  else if daysBeforeYear (guess + 1) ≤ days then guess + 1
  else guess

/-- Month and day of the month of the day that comes `rest` days after the first of `month`,
looking at the given number of months at most. -/
def splitYear (leap : Bool) : Nat → Nat → Nat → Nat × Nat
  | 0, month, rest => (month, rest + 1)
  | more + 1, month, rest =>
    if rest < monthLength leap month then (month, rest + 1)
    else splitYear leap more (month + 1) (rest - monthLength leap month)

/-- The date with the given day number. -/
def ofDayNumber (n : Int) : Date :=
  let year := yearOfDayNumber n
  let (month, day) := splitYear (isLeap year) 11 1 (n + epochDays - daysBeforeYear year).toNat
  ⟨year, month, day⟩

def minYear : Int := -262143

def maxYear : Int := 262142

/-- The day number of -262143-01-01, the first day of the calendar. -/
def minDay : Int := -96465292

/-- The day number of +262142-12-31, the last day of the calendar. -/
def maxDay : Int := 95026236

/-- The date with these parts, if the month has that day and the year is in the calendar. -/
def ofYmd? (year : Int) (month day : Nat) : Option Date :=
  if minYear ≤ year ∧ year ≤ maxYear ∧ 1 ≤ month ∧ month ≤ 12 ∧ 1 ≤ day ∧
      day ≤ monthLength (isLeap year) month then
    some ⟨year, month, day⟩
  else none

/-- The day before, if it is in the calendar. -/
def pred? (d : Date) : Option Date :=
  let before := d.dayNumber - 1
  if minDay ≤ before ∧ before ≤ maxDay then some (ofDayNumber before) else none

/-- The number of days of a month: the day of the month of the day before the next month begins.
Unknown where the calendar ends before that can be said. -/
def daysInMonth? (year : Int) (month : Nat) : Option Nat :=
  if 1 ≤ month ∧ month ≤ 12 then
    let next := if month = 12 then ofYmd? (year + 1) 1 1 else ofYmd? year (month + 1) 1
    (next.bind pred?).map (·.day)
  else none

/-- Day of the week of a day number, Monday being 0; 1970-01-01 was a Thursday. -/
def weekday (n : Int) : Nat := ((n + 3) % 7).toNat

end Date

end Meteogram
