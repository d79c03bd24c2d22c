import Meteogram.Calendar.Instant
import Meteogram.Text.Digits

/-!
# Ranges of numbered slots

An index axis does not derive its bounds from the records: it shows the hours of a day, the days of
one month, the months of a year or a plain run of numbers. The slots are 32-bit words.
-/

namespace Meteogram

/-- A dense range of numbered slots. -/
inductive IndexRange where
  /-- The hours 0 to 23. -/
  | hoursOfDay
  /-- The days of one month, from 1. -/
  | daysOfMonth (year : Int) (month : Nat)
  /-- The months 0 to 11. -/
  | monthsOfYear
  /-- The numbers from `first` on, `count` of them. -/
  | span (first count : Nat)
deriving DecidableEq, Repr

namespace IndexRange

/-- One more than the largest slot a word can hold. -/
def slotLimit : Nat := 4294967296

def first : IndexRange → Nat
  | hoursOfDay => 0
  | monthsOfYear => 0
  | daysOfMonth _ _ => 1
  | span first _ => first

/-- What an invalid range is called in its error. -/
def invalidText : IndexRange → String
  | daysOfMonth year month =>
    String.ofList (Text.signedPadded 4 year ++ '-' :: Text.padded 2 month)
  | span first count =>
    String.ofList ("span of ".toList ++ Text.digits count ++ " from ".toList ++ Text.digits first)
  | _ => ""

/-- The number of slots, `none` for an unknown month, an empty span and one that leaves the words. -/
def length? : IndexRange → Option Nat
  | hoursOfDay => some 24
  | monthsOfYear => some 12
  | daysOfMonth year month => Date.daysInMonth? year month
  | span first count => if count = 0 ∨ slotLimit ≤ first + count then none else some count

/-- The last slot of a valid range. -/
def last? (r : IndexRange) : Option Nat := r.length?.map fun n => r.first + n - 1

def isEmpty (r : IndexRange) : Bool :=
  match r.length? with
  | some n => n == 0
  | none => true

/-- The slot of an instant, if the range has a calendar meaning and contains the instant. -/
def indexOf? (r : IndexRange) (t : Instant) : Option Nat :=
  match r with
  | hoursOfDay => some t.hour
  | monthsOfYear => some (t.date.month - 1)
  | daysOfMonth year month =>
    if t.date.year = year ∧ t.date.month = month then some t.date.day else none
  | span _ _ => none

end IndexRange

end Meteogram
