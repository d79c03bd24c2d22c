import Meteogram.Archive.Frame

/-!
# Windows

A window keeps the rows whose time is after its lower bound and not after its upper bound. Dates and
timestamps compare by their counts; a row without a time is dropped. A stored frame is asked first
whether the window can hold a row, and not read if its times show that it cannot.
-/

namespace Meteogram

/-- Whether a count is after the lower bound and not after the upper one. -/
def insideWindow (lower upper : Int64) (n : Int) : Bool := lower.toInt < n && n ≤ upper.toInt

namespace CellType

/-- Whether a cell is in a window, if cells of the type compare with a number. -/
def inWindow? (lower upper : Int64) : (type : CellType) → Option (type.Value → Bool)
  | int64 => some fun n => insideWindow lower upper n.toInt
  | int32 => some fun n => insideWindow lower upper n.toInt
  | int16 => some fun n => insideWindow lower upper n.toInt
  | int8 => some fun n => insideWindow lower upper n.toInt
  | word32 => some fun n => insideWindow lower upper n.toNat
  | word64 => some fun n => insideWindow lower upper n.toNat
  | double => some fun x => nearestDouble lower < x && x ≤ nearestDouble upper
  | single => some fun x => lower.toFloat32 < x && x ≤ upper.toFloat32
  | bool => some fun b => insideWindow lower upper b.toNat
  | date => some fun n => insideWindow lower upper n.toInt
  | ticks _ => some fun n => insideWindow lower upper n.toInt
  | text => none

/-- Whether a value is what is not a number. -/
def isNaN : (type : CellType) → type.Value → Bool
  | double, x => x.isNaN
  | single, x => x.isNaN
  | _, _ => false

end CellType

/-- Whether the cells can be told to be in a window at all: not where there are none, and not where
what is not a number hides the bounds of the others. -/
def Column.isBounded (c : Column) : Bool :=
  !c.cells.isEmpty && !c.cells.any (·.any c.type.isNaN)

namespace Frame

/-- The name of the column that holds the time of a row. -/
def timeName : String := "time"

/-- The rows with `lower < time ≤ upper`. -/
def window (f : Frame) (lower upper : Int64) : Except FrameError Frame := do
  let time ← f.column timeName
  match time.type.inWindow? lower upper with
  | some keep => return f.keep (rowsWhere time keep)
  | none => .error (.unsuitableColumn timeName time.type)

/-- The rows of a stored frame with `lower < time ≤ upper`. -/
def storedWindow (f : Frame) (lower upper : Int64) : Except FrameError Frame := do
  if (← f.column timeName).isBounded then f.window lower upper else return f.keep []

end Frame

end Meteogram
