import Meteogram.Calendar.Instant
import Meteogram.Text.Scan

/-!
# Reading dates and times

The shapes of time that station archives and aggregate queries write: a timestamp with an offset
(kept as the wall clock of that offset), a timestamp, a date, a month and a year. `Instant.read?`
tries them in this order on the text without the white space around it.
-/

namespace Meteogram

open Text

namespace Instant

/-- The instant that a clock shows on a date; the second 60 is the leap second after 59. -/
def ofClock? (d : Date) (hour minute second nano : Nat) : Option Instant :=
  if hour < 24 ∧ minute < 60 ∧ second ≤ 60 ∧ nano < 1000000000 then
    ofParts? (d.dayNumber * 86400 + (hour * 3600 + minute * 60 + min second 59 : Nat))
      (nano + second / 60 * 1000000000)
  else none

/-- Reads a year, a month and a day with hyphens between them. -/
def readDate? (cs : List Char) : Option (Date × List Char) := do
  let (year, cs) ← year? cs
  let (month, cs) ← pair? (← char? '-' cs)
  let (day, cs) ← pair? (← char? '-' cs)
  return (← Date.ofYmd? year month day, cs)

/-- Reads hour, minute and second with colons between them. -/
def readClock? (cs : List Char) : Option ((Nat × Nat × Nat) × List Char) := do
  let (hour, cs) ← pair? cs
  let (minute, cs) ← pair? (← char? ':' cs)
  let (second, cs) ← pair? (← char? ':' cs)
  return ((hour, minute, second), cs)

/-- Reads `2024-03-17`, the first instant of that day. -/
def ofDateChars? (cs : List Char) : Option Instant := do
  let d ← finished? (← readDate? cs)
  midnight? d.dayNumber

/-- Reads a date and a time of day with `T` between them. -/
def ofTimestampChars? (cs : List Char) : Option Instant := do
  let (d, cs) ← readDate? cs
  let (hour, minute, second) ← finished? (← readClock? (← char? 'T' cs))
  ofClock? d hour minute second 0

/-- Reads a date and a time of day with white space, or nothing, between them. -/
def ofBlankTimestampChars? (cs : List Char) : Option Instant := do
  let (d, cs) ← readDate? cs
  let (hour, minute, second) ← finished? (← readClock? (trimStart cs))
  ofClock? d hour minute second 0

/-- Reads the fraction of a second after a point, in nanoseconds; digits after the ninth are
dropped. Without a point the fraction is zero. -/
def readFraction? : List Char → Option (Nat × List Char)
  | '.' :: cs => do
    let ds := leadingDigits (some 9) cs
    let (n, _) ← number? 1 (some 9) cs
    return (n * Nat.pow 10 (9 - ds.length), cs.dropWhile isDigit)
  | cs => some (0, cs)

/-- Reads `Z` or an offset of less than a day as `+hh:mm`; the hyphen may also be a minus sign. -/
def readOffset? : List Char → Option (Unit × List Char)
  | 'Z' :: cs => some ((), cs)
  | 'z' :: cs => some ((), cs)
  | sign :: cs => do
    if sign = '+' ∨ sign = '-' ∨ sign = '−' then
      let (hours, cs) ← number? 2 (some 2) cs
      let (minutes, cs) ← number? 2 (some 2) (← char? ':' cs)
      if hours < 24 ∧ minutes < 60 then some ((), cs) else none
    else none
  | [] => none

/-- Reads the timestamp of RFC 3339, every part in its full width, as the wall clock it shows. -/
def ofRfc3339Chars? (cs : List Char) : Option Instant := do
  let (year, cs) ← number? 4 (some 4) cs
  let (month, cs) ← number? 2 (some 2) (← char? '-' cs)
  let (day, cs) ← number? 2 (some 2) (← char? '-' cs)
  let cs ← match cs with
    | c :: rest => if c = 'T' ∨ c = 't' ∨ c = ' ' then some rest else none
    | [] => none
  let (hour, cs) ← number? 2 (some 2) cs
  let (minute, cs) ← number? 2 (some 2) (← char? ':' cs)
  let (second, cs) ← number? 2 (some 2) (← char? ':' cs)
  let (nano, cs) ← readFraction? cs
  let _ ← finished? (← readOffset? cs)
  ofClock? (← Date.ofYmd? year month day) hour minute second nano

/-- Reads a trimmed text: the first shape that fits decides. A text of four bytes may be a year. -/
def ofChars? (cs : List Char) : Option Instant :=
  ofRfc3339Chars? cs
    <|> ofTimestampChars? cs
    <|> ofBlankTimestampChars? cs
    <|> ofDateChars? cs
    <|> ofDateChars? (cs ++ "-01".toList)
    <|> (if (String.ofList cs).utf8ByteSize = 4 then ofDateChars? (cs ++ "-01-01".toList) else none)

/-- The instant that a text denotes, white space around it aside. -/
def read? (s : String) : Option Instant := ofChars? (trim s.toList)

end Instant

end Meteogram
