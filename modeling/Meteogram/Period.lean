import Meteogram.Calendar.Instant
import Meteogram.Text.Blank

/-!
# Bucket periods

A period cuts the calendar into buckets. `Period.truncate` gives the start of the bucket that
contains an instant and `Period.advance` the start of the next one. The raw period has no step:
every instant is its own bucket.
-/

namespace Meteogram

/-- The granularity of a calendar axis. -/
inductive Period where
  | raw
  | hour
  | day
  | month
  | year
deriving DecidableEq, Repr, Inhabited

namespace Period

def name : Period → String
  | raw => "none"
  | hour => "hour"
  | day => "day"
  | month => "month"
  | year => "year"

/-- Whether the period has a step, and so fills the gaps between observations. -/
def isStepped : Period → Bool
  | raw => false
  | _ => true

/-- The period with a name, in any case and with white space around it; no name means raw. -/
def ofName? (s : String) : Option Period :=
  match Text.folded s with
  | "" | "none" | "raw" => some raw
  | "hour" => some hour
  | "day" => some day
  | "month" => some month
  | "year" => some year
  | _ => none

/-- The start of the bucket that contains an instant. -/
def truncate (p : Period) (t : Instant) : Instant :=
  match p with
  | raw => t
  | hour => (Instant.ofSecond? (t.second - t.second % 3600)).getD t
  | day => (Instant.midnight? t.dayNumber).getD t
  | month => (Instant.midnight? (Date.dayNumber ⟨t.date.year, t.date.month, 1⟩)).getD t
  | year => (Instant.midnight? (Date.dayNumber ⟨t.date.year, 1, 1⟩)).getD t

/-- One period later, unless the period has no step or the calendar ends. -/
def advance (p : Period) (t : Instant) : Option Instant :=
  match p with
  | raw => none
  | hour => t.addSeconds? 3600
  | day => t.addSeconds? 86400
  | month => t.addMonths? 1
  | year => t.addMonths? 12

end Period

end Meteogram
