import Meteogram.Align.Axis

/-!
# Scales

A scale says how an axis places records: the bucket of a record's time, the bucket after a bucket,
where the axis begins and ends, and the label of a bucket. Calendar buckets are known by their first
instant, slots by their number.
-/

namespace Meteogram

/-- How an axis places records in buckets of type `κ`. -/
structure Scale (κ : Type) where
  /-- The bucket of the record at a position with the given time. -/
  bucketOf : Nat → RecordTime → Except AlignError κ
  /-- The next bucket, `none` where the scale does not step. -/
  step : κ → Option κ
  /-- First and last bucket of the axis, given the buckets of the first and the last record. -/
  bounds : κ → κ → κ × κ
  label : κ → Label
  /-- Whether a bucket comes before another. -/
  before : κ → κ → Bool
  /-- A number of steps that is enough to get from one bucket past another. -/
  reach : κ → κ → Nat

/-- A calendar cut by a period, with a resolved window; `upper` is not part of it. -/
structure CalendarScale where
  period : Period
  offset : Offset
  lower : Option Instant
  upper : Option Instant
deriving DecidableEq, Repr

namespace CalendarScale

/-- The instant of a bound of the window, if there is a bound. -/
def resolve (offset : Offset) : Option RecordTime → Except AlignError (Option Instant)
  | none => .ok none
  | some time =>
    ((time.reading offset).orElse (.invalidWindow time.text) .clockOverflow).map some

/-- A window on the raw period changes nothing, but it has to denote instants on any calendar. -/
def new (period : Period) (offset : Offset) (lower upper : Option RecordTime) :
    Except AlignError CalendarScale := do
  return ⟨period, offset, ← resolve offset lower, ← resolve offset upper⟩

def bucketOf (s : CalendarScale) (position : Nat) (time : RecordTime) :
    Except AlignError Instant :=
  ((time.reading s.offset).orElse (.invalidTime position) .clockOverflow).map s.period.truncate

/-- The earlier of two instants. -/
def earlier (a b : Instant) : Instant := if b < a then b else a

/-- The later of two instants. -/
def later (a b : Instant) : Instant := if a < b then b else a

/-- The axis begins with the first record or the window, whichever is earlier, and ends with the
last record or the last second before the end of the window, whichever is later. -/
def bounds (s : CalendarScale) (first last : Instant) : Instant × Instant :=
  if s.period.isStepped then
    let start := match s.lower with
      | some t => earlier first (s.period.truncate t)
      | none => first
    let stop := match s.upper.bind (·.addSeconds? (-1)) with
      | some t => later last (s.period.truncate t)
      | none => last
    (start, stop)
  else (first, last)

/-- Every step of a period is at least an hour. -/
def toScale (s : CalendarScale) : Scale Instant where
  bucketOf := s.bucketOf
  step := s.period.advance
  bounds := s.bounds
  label := .instant
  before a b := a < b
  reach a b := ((b.second - a.second) / 3600).toNat + 2

end CalendarScale

/-- A valid range of slots with its first and last one. -/
structure IndexScale where
  range : IndexRange
  first : Nat
  last : Nat
deriving DecidableEq, Repr

namespace IndexScale

def new (range : IndexRange) : Except AlignError IndexScale :=
  match range.last? with
  | some last => .ok ⟨range, range.first, last⟩
  | none => .error (.invalidIndexRange range.invalidText)

/-- The slot that a time says: a number itself, an instant by its place in the range. -/
def slotOf? (s : IndexScale) : RecordTime → Option Nat
  | .number n =>
    if 0 ≤ n.toInt ∧ n.toInt < IndexRange.slotLimit then some n.toInt.toNat else none
  | .instant t => s.range.indexOf? t

def bucketOf (s : IndexScale) (position : Nat) (time : RecordTime) : Except AlignError Nat :=
  match s.slotOf? time with
  | none => .error (.invalidTime position)
  | some i =>
    if i < s.first ∨ s.last < i then .error (.indexOutOfRange position i s.first s.last)
    else .ok i

/-- An index axis always shows its whole range. -/
def toScale (s : IndexScale) : Scale Nat where
  bucketOf := s.bucketOf
  step i := if i + 1 < IndexRange.slotLimit then some (i + 1) else none
  bounds _ _ := (s.first, s.last)
  label := .index
  before a b := a < b
  reach a b := b - a + 1

end IndexScale

end Meteogram
