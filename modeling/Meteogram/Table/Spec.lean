import Meteogram.Decimal.Fixed
import Meteogram.Json.Decode
import Meteogram.Json.Value

/-!
# Table columns

A column shows one field with a unit and a number of decimal places. A table is described by its
columns; two descriptions are built in.
-/

namespace Meteogram

structure TableColumn where
  field : String
  unit : String
  /-- Decimal places. -/
  precision : Nat
deriving DecidableEq, Repr

structure TableSpec where
  columns : List TableColumn
deriving DecidableEq, Repr, Inhabited

/-- The tables of the station viewer. -/
inductive TableKind where
  /-- Raw archive rows: temperature only. -/
  | archive
  /-- Daily or monthly aggregates: extremes, rain and gusts. -/
  | aggregate
deriving DecidableEq, Repr

namespace TableColumn

/-- A column with one decimal place. -/
def new (field unit : String) : TableColumn := ⟨field, unit, 1⟩

/-- The text of a cell: the value and the unit, or nothing without a value. -/
def format (c : TableColumn) : Option Float → String
  | some x => Decimal.fixed c.precision x ++ " " ++ c.unit
  | none => ""

end TableColumn

namespace TableKind

def spec : TableKind → TableSpec
  | archive => ⟨[.new "temp" "°C"]⟩
  | aggregate =>
    ⟨[.new "lo_temp" "°C", .new "hi_temp" "°C", .new "rain_fall" "mm", .new "hi_wind_speed" "m/s"]⟩

def decode : Json.Decoder TableKind :=
  .enumeration [("archive", archive), ("aggregate", aggregate)]

end TableKind

open Json Json.Decoder

namespace TableColumn

/-- What has been read of a column. -/
structure Draft where
  field : Option String
  unit : Option String
  precision : Option Nat

/-- A number of decimal places: a word of 64 bits. -/
def decodePrecision : Json.Decoder Nat := fun depth v =>
  (integer 0 18446744073709551615 "usize" depth v).map (·.toNat)

def members : Decoder.Fields Draft where
  member s key depth v :=
    match key with
    | "field" => do return some { s with field := ← once key s.field string depth v }
    | "unit" => do return some { s with unit := ← once key s.unit string depth v }
    | "precision" => do
      return some { s with precision := ← once key s.precision decodePrecision depth v }
    | _ => .ok none

def ofDraft (s : Draft) : Json.Result TableColumn := do
  return {
    field := ← required "field" s.field
    unit := ← required "unit" s.unit
    precision := s.precision.getD 1 }

def ofItems (items : Items) : Json.Result (TableColumn × Items) := do
  let expected := "struct TableColumn with 3 elements"
  let (field, items) ← items.next expected string
  let (unit, items) ← items.next expected string
  let (precision, items) ← items.next? decodePrecision
  return (⟨field, unit, precision.getD 1⟩, items)

/-- A column without a precision has one decimal place. -/
def decode : Json.Decoder TableColumn :=
  struct "struct TableColumn" members ⟨none, none, none⟩ ofDraft ofItems

def toJson (c : TableColumn) : Json.Value :=
  .object [("field", .text c.field), ("unit", .text c.unit), ("precision", .integer c.precision)]

end TableColumn

namespace TableSpec

def members : Decoder.Fields (Option (List TableColumn)) where
  member s key depth v :=
    match key with
    | "columns" => do return some (← once key s (list TableColumn.decode) depth v)
    | _ => .ok none

def ofItems (items : Items) : Json.Result (TableSpec × Items) := do
  let (columns, items) ← items.next "struct TableSpec with 1 element" (list TableColumn.decode)
  return (⟨columns⟩, items)

def decode : Json.Decoder TableSpec :=
  struct "struct TableSpec" members none (fun s => (required "columns" s).map TableSpec.mk) ofItems

def toJson (t : TableSpec) : Json.Value := .object [("columns", .array (t.columns.map (·.toJson)))]

end TableSpec

end Meteogram
