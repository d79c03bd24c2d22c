import Meteogram.Archive.Group

/-!
# Daily and monthly aggregates

A row is stamped with the end of its interval in epoch seconds, so it belongs to the local day of
the second before: a row at midnight closes the day that has just ended. `Frame.daily` has one row
per local day, `Frame.monthly` one per local month, built from the extremes and totals of its days.
-/

namespace Meteogram

/-- The day in which a number of milliseconds since 1970-01-01 falls, if it can be counted. -/
def dayOfMillis? (millis : Int64) : DayKey :=
  let day := millis.toInt / 86400000
  if Int32.minValue.toInt ≤ day ∧ day ≤ Int32.maxValue.toInt then some (Int32.ofInt day) else none

namespace CellType

/-- The day of a time that counts seconds, moved by `shift` seconds. A word keeps its width and goes
around at its end where the width holds what is added or multiplied, and becomes a signed word of 64
bits where it does not, as one without a sign does to move back; where that word cannot hold it, it
has no day. Dates, timestamps and texts are no seconds. -/
def dayOf? (shift : Int64) : (type : CellType) → Option (type.Value → DayKey)
  | int64 => some fun n => dayOfMillis? ((n + shift) * 1000)
  | int32 => some fun n => dayOfMillis? ((n + shift.toInt32) * 1000).toInt64
  | int16 => some fun n =>
    if Int16.minValue.toInt64 ≤ shift ∧ shift ≤ Int16.maxValue.toInt64 then
      dayOfMillis? ((n + shift.toInt16) * 1000).toInt64
    else dayOfMillis? ((n.toInt64 + shift) * 1000)
  | int8 => some fun n =>
    if Int8.minValue.toInt64 ≤ shift ∧ shift ≤ Int8.maxValue.toInt64 then
      dayOfMillis? ((n + shift.toInt8).toInt64 * 1000)
    else dayOfMillis? ((n.toInt64 + shift) * 1000)
  | word32 => some fun n =>
    if shift < 0 then dayOfMillis? ((n.toUInt64.toInt64 + shift) * 1000)
    else dayOfMillis? ((n + shift.toUInt64.toUInt32) * 1000).toUInt64.toInt64
  | word64 => some fun n =>
    if shift < 0 then (signedWord? n).bind fun n => dayOfMillis? ((n + shift) * 1000)
    else (signedWord? ((n + shift.toUInt64) * 1000)).bind dayOfMillis?
  | bool => some fun b => dayOfMillis? ((Int64.ofNat b.toNat + shift) * 1000)
  | double => some fun x => (wholePart? ((x + nearestDouble shift) * 1000)).bind dayOfMillis?
  | single => some fun x =>
    (wholePart? ((x + shift.toFloat32) * 1000).toFloat).bind dayOfMillis?
  | _ => none

end CellType

/-- The first day of the month in which a day lies. -/
def monthStart (day : Int32) : Int32 :=
  let d := Date.ofDayNumber day.toInt
  Int32.ofInt (Date.dayNumber ⟨d.year, d.month, 1⟩)

namespace Frame

/-- The local day of every row. -/
def localDays (f : Frame) (offset : Offset) : Except FrameError (List DayKey) := do
  let time ← f.column timeName
  match time.type.dayOf? (Int64.ofInt (offset.seconds - 1)) with
  | some day => return time.cells.map (·.bind day)
  | none => .error (.unsuitableColumn timeName time.type)

/-- Extremes of temperature and gusts, total rain, mean wind and pressure. -/
def dailyPlan : Plan where
  steps := [
    ⟨"lo_temp", .least, "lo_temp"⟩, ⟨"hi_temp", .greatest, "hi_temp"⟩,
    ⟨"rain_fall", .total, "rain_fall"⟩, ⟨"avg_wind_speed", .mean, "avg_wind_speed"⟩,
    ⟨"hi_wind_speed", .greatest, "hi_wind_speed"⟩, ⟨"barometer", .mean, "barometer"⟩]
  distinct := by decide

/-- What a month needs of its days. -/
def monthDayPlan : Plan where
  steps := [
    ⟨"lo_temp", .least, "lo_temp"⟩, ⟨"hi_temp", .greatest, "hi_temp"⟩,
    ⟨"rain_fall", .total, "rain_fall"⟩]
  distinct := by decide

/-- Mean extremes of the days, total rain and the wettest day. -/
def monthlyPlan : Plan where
  steps := [
    ⟨"lo_temp", .mean, "lo_temp"⟩, ⟨"hi_temp", .mean, "hi_temp"⟩,
    ⟨"rain_fall", .total, "rain"⟩, ⟨"rain_fall", .greatest, "rain_24h"⟩]
  distinct := by decide

/-- One row per local day in increasing order, rows without a time as one day of their own. -/
def daily (f : Frame) (offset : Offset) : Except FrameError Frame := do
  f.summarise dailyPlan (Group.ofKeys (← f.localDays offset))

/-- One row per local month, its time being the first day of the month. -/
def monthly (f : Frame) (offset : Offset) : Except FrameError Frame := do
  let days := Group.ofKeys (← f.localDays offset)
  let byDay ← f.summarise monthDayPlan days
  byDay.summarise monthlyPlan (Group.ofKeys (days.map fun g => g.day.map monthStart))

end Frame

end Meteogram
