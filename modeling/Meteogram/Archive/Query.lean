import Meteogram.Archive.Aggregate
import Meteogram.Archive.File
import Meteogram.Archive.Records

/-!
# Archive queries

A query cuts an archive to a window, brings its rows into an order or aggregates them, and makes a
dataset of them.
-/

namespace Meteogram

/-- The rows that are asked for. -/
structure ArchiveQuery where
  /-- Raw rows, days or months. -/
  period : Period
  /-- Epoch seconds that come before the window. -/
  lower : Option Int64
  /-- The last epoch second of the window. -/
  upper : Option Int64
deriving DecidableEq, Repr

namespace ArchiveQuery

/-- How a query turns the rows of the window into buckets; not every period has a way. -/
def bucketing? (q : ArchiveQuery) (offset : Offset) : Option (Frame → Except FrameError Frame) :=
  match q.period with
  | .raw => some (·.sortBy Frame.timeName)
  | .day => some (·.daily offset)
  | .month => some (·.monthly offset)
  | _ => none

/-- The rows in the window. A bound that is not given lets every row through. -/
def cut (q : ArchiveQuery) (a : Archive) : Except FrameError Frame :=
  match q.lower, q.upper with
  | none, none => a.frame
  | lower, upper => a.window (lower.getD Int64.minValue) (upper.getD Int64.maxValue)

/-- The dataset of a frame of buckets, with the window of the query. -/
def toDataset (q : ArchiveQuery) (buckets : Frame) : Except ArchiveError Dataset := do
  let dataset ← buckets.toDataset Frame.timeName q.period
  return { dataset with lower := q.lower.map .number, upper := q.upper.map .number }

end ArchiveQuery

end Meteogram
