import Meteogram.Align.Slot

/-!
# Aligned frames

The result of an alignment: labels of a dense axis and, for every requested field, one value or
`none` per label. `Aligner.alignFields` places the records of several fields on one shared axis and
`Aligner.align` those of one field.
-/

namespace Meteogram

/-- One field on a dense axis. -/
structure AlignedSeries where
  labels : List Label
  values : List (Option Float)
deriving DecidableEq, Repr

/-- Several fields on one dense axis. -/
structure AlignedFrame where
  labels : List Label
  columns : List (String × List (Option Float))
deriving DecidableEq, Repr

namespace AlignedFrame

/-- The values of a field. -/
def column? (f : AlignedFrame) (field : String) : Option (List (Option Float)) :=
  (f.columns.find? (·.1 == field)).map (·.2)

/-- One field of the frame on its own. -/
def series? (f : AlignedFrame) (field : String) : Option AlignedSeries :=
  (f.column? field).map (⟨f.labels, ·⟩)

def length (f : AlignedFrame) : Nat := f.labels.length

def isEmpty (f : AlignedFrame) : Bool := f.labels.isEmpty

/-- Labels and columns of slots. -/
def ofSlots {κ : Type} (label : κ → Label) (fields : List String) (slots : List (Slot κ)) :
    AlignedFrame where
  labels := slots.map fun slot => label slot.bucket
  columns := fields.map fun f => (f, slots.map fun slot => slot.record.bind (·.get f))

end AlignedFrame

/-- Lays records on a scale. -/
def Scale.align {κ : Type} (s : Scale κ) (policy : DuplicatePolicy) (records : List Record)
    (fields : List String) : Except AlignError AlignedFrame := do
  if records.isEmpty then .error .emptyInput
  if let some f := fields.find? (fun f => !records.any (·.has f)) then .error (.unknownField f)
  let buckets ← s.bucketsFrom 0 records
  match buckets with
  | [] => .error .emptyInput
  | first :: rest =>
    let (start, last) := s.bounds first (rest.getLastD first)
    let walk ← s.layFrom policy 0 (.fromStart start) (buckets.zip records)
    return .ofSlots s.label fields (s.finish walk last)

/-- What a view fixes for all its alignments. -/
structure AlignOptions where
  offset : Offset
  duplicates : DuplicatePolicy
deriving DecidableEq, Repr, Inhabited

/-- How records are laid on an axis. The offset reads times that are numbers of seconds; the window
widens a calendar axis, and its upper bound is not part of it. -/
structure Aligner where
  axis : Axis
  options : AlignOptions
  lower : Option RecordTime
  upper : Option RecordTime
deriving DecidableEq, Repr

namespace Aligner

/-- Several fields on one shared axis. -/
def alignFields (a : Aligner) (records : List Record) (fields : List String) :
    Except AlignError AlignedFrame :=
  match a.axis with
  | .calendar period => do
    let s ← CalendarScale.new period a.options.offset a.lower a.upper
    s.toScale.align a.options.duplicates records fields
  | .index range => do
    let s ← IndexScale.new range
    s.toScale.align a.options.duplicates records fields

/-- One field on its axis. -/
def align (a : Aligner) (records : List Record) (field : String) :
    Except AlignError AlignedSeries := do
  let frame ← a.alignFields records [field]
  return ⟨frame.labels, (frame.columns.head?.map (·.2)).getD []⟩

/-- The aligner of a dataset: its own period unless an axis is given, and its window. -/
def ofDataset (d : Dataset) (axis : Option Axis) (options : AlignOptions) : Aligner :=
  ⟨axis.getD (.calendar d.period), options, d.lower, d.upper⟩

end Aligner

/-- One field of records on a calendar axis, in UTC, with bounds taken from the records. -/
def align (records : List Record) (field : String) (period : Period) :
    Except AlignError AlignedSeries :=
  Aligner.align ⟨.calendar period, default, none, none⟩ records field

end Meteogram
