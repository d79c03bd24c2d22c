import Meteogram.Archive.Error
import Meteogram.Dataset

/-!
# Records of frames

Every row of a frame becomes a record. The time column may hold epoch seconds, dates, timestamps or
texts; every other column of numbers becomes a field, and columns of other types are left out. Integers
of 8 and of 16 bits are taken for neither seconds nor numbers.
-/

namespace Meteogram

namespace RecordTime

/-- The first instant of a date that is counted from 1970-01-01. The calendar counts from 0001-01-01
in a word of 32 bits, which goes around at its end. -/
def ofDays? (days : Int32) : Option RecordTime :=
  let fromYearOne : Int32 := days + 719163
  ofDayNumber? (fromYearOne.toInt - 719163)

/-- The instant of a timestamp. -/
def ofTicks? (unit : TickUnit) (ticks : Int64) : Option RecordTime :=
  let second := ticks.toInt / unit.perSecond
  let nano := (ticks.toInt % unit.perSecond).toNat * (1000000000 / unit.perSecond)
  (Instant.ofParts? second nano).map .instant

end RecordTime

namespace CellType

/-- The record time that a cell denotes, if cells of the type can be times. -/
def timeOf? : (type : CellType) → Option (type.Value → Option RecordTime)
  | int64 => some fun n => some (.number n)
  | int32 => some fun n => some (.number n.toInt64)
  | word32 => some fun n => some (.number (Int64.ofNat n.toNat))
  | word64 => some fun n => (signedWord? n).map .number
  | date => some RecordTime.ofDays?
  | ticks unit => some (RecordTime.ofTicks? unit)
  | text => some fun s => (Instant.read? s).map .instant
  | _ => none

/-- Whether columns of the type become fields. -/
def isField : CellType → Bool
  | int64 | int32 | word32 | word64 | double | single => true
  | _ => false

/-- The number in a cell of a field, if columns of the type become fields. -/
def fieldOf? (type : CellType) : Option (type.Value → Float) :=
  if type.isField then type.toFloat? else none

end CellType

namespace Column

/-- The times of cells, from a row on; every row needs one. -/
def timesFrom {α : Type} (time : α → Option RecordTime) (row : Nat) :
    List (Option α) → Except ArchiveError (List RecordTime)
  | [] => .ok []
  | cell :: cells =>
    match cell.bind time with
    | none => .error (.invalidTime row)
    | some t => do return t :: (← timesFrom time (row + 1) cells)

/-- The record times of a column. -/
def times (c : Column) : Except ArchiveError (List RecordTime) :=
  match c.type.timeOf? with
  | some time => timesFrom time 0 c.cells
  | none => .error (.unsupportedTimeColumn c.name c.type)

/-- The cells of a column that becomes a field, as doubles. -/
def floats? (c : Column) : Option (List (Option Float)) :=
  c.type.fieldOf?.map fun toFloat => c.cells.map (·.map toFloat)

end Column

namespace Frame

/-- The columns that become fields, the time apart. -/
def fieldColumns (f : Frame) (timeColumn : String) : List (String × List (Option Float)) :=
  f.columns.filterMap fun c =>
    if c.name = timeColumn then none else c.floats?.map fun cells => (c.name, cells)

/-- The fields of a row. -/
def fieldsOf (columns : List (String × List (Option Float))) (row : Nat) : Fields :=
  columns.foldl (fun fields column => fields.set column.1 (column.2[row]?).join) .empty

/-- The records of a frame, in row order. -/
def records (f : Frame) (timeColumn : String) : Except ArchiveError (List Record) := do
  match f.column? timeColumn with
  | none => .error (.columnNotFound timeColumn)
  | some c =>
    let times ← c.times
    let columns := f.fieldColumns timeColumn
    return times.mapIdx fun row time => ⟨time, fieldsOf columns row⟩

/-- The dataset of a frame whose rows are buckets of a period. -/
def toDataset (f : Frame) (timeColumn : String) (period : Period) : Except ArchiveError Dataset := do
  return .new period (← f.records timeColumn)

end Frame

end Meteogram
