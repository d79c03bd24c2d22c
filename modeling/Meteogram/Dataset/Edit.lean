import Meteogram.RunningTotal
import Meteogram.Dataset

/-!
# Editing datasets

Records are added and taken away at the end of a dataset, and changed in place.
-/

namespace Meteogram

namespace Dataset

/-- No records, no window and no unit. -/
def empty : Dataset := ⟨none, none, none, []⟩

/-- Adds a record at the end. -/
def push (d : Dataset) (r : Record) : Dataset := { d with data := d.data ++ [r] }

/-- Takes the last record away. -/
def pop? (d : Dataset) : Option (Record × Dataset) :=
  d.data.getLast?.map fun r => (r, { d with data := d.data.dropLast })

/-- Sets a field of the record in a row. -/
def setField? (d : Dataset) (row : Nat) (field : String) (value : Option Float) :
    Option (Record × Dataset) :=
  d.data[row]?.map fun r =>
    let r := r.set field value
    (r, { d with data := d.data.set row r })

/-- Gives every record its running total of `field` under the name `output`. -/
def annotate (d : Dataset) (field output : String) : Dataset :=
  { d with data := annotateRunningTotal d.data field output }

end Dataset

end Meteogram
