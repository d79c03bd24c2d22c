import Meteogram.Dataset
import Meteogram.Table.Spec

/-!
# Tables

A table has one row per record of a dataset, in record order: gaps of the calendar have no row. The
heading of a row says when the record was, as exactly as the period of the dataset does.
-/

namespace Meteogram

structure TableRow where
  heading : String
  cells : List String
deriving DecidableEq, Repr

structure Table where
  rows : List TableRow
deriving DecidableEq, Repr, Inhabited

/-- A reason for which there is no table. -/
inductive TableError where
  /-- The time of the record at a position is no instant of the calendar. -/
  | invalidTime (position : Nat)
  | noColumns
  /-- The clock leaves the calendar at the time of a record. This is no error that is answered: the
  program stops. -/
  | clockOverflow
deriving DecidableEq, Repr

def TableError.message : TableError → String
  | invalidTime position =>
    "Record " ++ Text.decimal position ++ " has a time that cannot be read as a calendar instant"
  | noColumns => "Table has no columns"
  | clockOverflow => Reading.overflowMessage

/-- The heading of a bucket: the day of the week and of the month, the month, the year, or date and
time. -/
def Period.heading (p : Period) (t : Instant) : String :=
  match p with
  | day => Date.weekdayName (Date.weekday t.dayNumber) ++ " " ++ Text.decimal t.date.day
  | month => Date.monthName t.date.month
  | year => String.ofList (Date.yearChars t.date.year)
  | raw | hour => String.ofList (t.date.chars ++ ' ' :: t.hourMinuteChars)

namespace Table

/-- The rows of records, from a position on. -/
def rowsFrom (period : Period) (columns : List TableColumn) (offset : Offset) (position : Nat) :
    List Record → Except TableError (List TableRow)
  | [] => .ok []
  | r :: rs => do
    let t ← (r.time.reading offset).orElse (.invalidTime position) .clockOverflow
    let row := ⟨period.heading t, columns.map fun c => c.format (r.get c.field)⟩
    return row :: (← rowsFrom period columns offset (position + 1) rs)

/-- The table of a dataset; the offset reads times that are numbers of seconds. -/
def ofDataset (dataset : Dataset) (spec : TableSpec) (offset : Offset) : Except TableError Table := do
  if spec.columns.isEmpty then .error .noColumns
  return ⟨← rowsFrom dataset.period spec.columns offset 0 dataset.data⟩

def length (t : Table) : Nat := t.rows.length

def isEmpty (t : Table) : Bool := t.rows.isEmpty

end Table

end Meteogram
