import Meteogram.Period
import Meteogram.Record

/-!
# Datasets

A dataset is what a station answers with: records, the period of their buckets, and the window that
was asked for. The window runs from after `from` up to `to`, and widens an axis of calendar buckets
beyond the records. A missing unit means raw observations.
-/

namespace Meteogram

structure Dataset where
  lower : Option RecordTime
  upper : Option RecordTime
  unit : Option Period
  data : List Record
deriving DecidableEq, Repr, Inhabited

namespace Period

/-- The reason for which a text is refused as a period. -/
def unsupported (s : String) : String := "Unsupported bucket period '" ++ s ++ "'"

def toJson (p : Period) : Json.Value := .text p.name

def decode : Json.Decoder Period := fun depth v => do
  let s ← Json.Decoder.string depth v
  match Period.ofName? s with
  | some p => .ok p
  | none => .error (.refused (unsupported s))

end Period

namespace Dataset

/-- A dataset without a window. -/
def new (unit : Period) (data : List Record) : Dataset := ⟨none, none, some unit, data⟩

/-- The period of the buckets. -/
def period (d : Dataset) : Period := d.unit.getD .raw

/-- The text of a dataset: its window, its unit and its records as flat objects. -/
def toJson (d : Dataset) : Json.Value :=
  let orNull {α : Type} (f : α → Json.Value) : Option α → Json.Value
    | some a => f a
    | none => .null
  .object [
    ("from", orNull RecordTime.toJson d.lower),
    ("to", orNull RecordTime.toJson d.upper),
    ("unit", orNull Period.toJson d.unit),
    ("data", .array (d.data.map Record.toJson))]

/-- What has been read of a dataset. -/
structure Draft where
  lower : Option (Option RecordTime)
  upper : Option (Option RecordTime)
  unit : Option (Option Period)
  data : Option (List Record)

open Json Json.Decoder

def members : Json.Decoder.Fields Draft where
  member s key depth v :=
    match key with
    | "from" => do
      return some { s with lower := ← once key s.lower (optional RecordTime.decode) depth v }
    | "to" => do
      return some { s with upper := ← once key s.upper (optional RecordTime.decode) depth v }
    | "unit" => do
      return some { s with unit := ← once key s.unit (optional Period.decode) depth v }
    | "data" => do
      return some { s with data := ← once key s.data (list Record.decode) depth v }
    | _ => .ok none

/-- The array form has the members in the order from, to, unit, data; what is missing is nothing. -/
def ofItems (items : Items) : Json.Result (Dataset × Items) := do
  let (lower, items) ← items.next? (optional RecordTime.decode)
  let (upper, items) ← items.next? (optional RecordTime.decode)
  let (unit, items) ← items.next? (optional Period.decode)
  let (data, items) ← items.next? (list Record.decode)
  return (⟨lower.getD none, upper.getD none, unit.getD none, data.getD []⟩, items)

/-- Unknown members are skipped, and every member may be missing. -/
def decode : Json.Decoder Dataset :=
  struct "struct Dataset" members ⟨none, none, none, none⟩
    (fun s => .ok ⟨s.lower.getD none, s.upper.getD none, s.unit.getD none, s.data.getD []⟩) ofItems

/-- Reads a dataset from its text. -/
def ofJson (text : String) : Json.Result Dataset := Json.Decoder.run decode text

end Dataset

end Meteogram
