import Meteogram.Chart.Spec
import Meteogram.Json.Decode
import Meteogram.Json.Value

/-!
# Written chart descriptions

Chart descriptions as JSON. A record may also be written as the array of its members; members that
have a default may be missing, in an array at its end.
-/

namespace Meteogram

open Json Json.Decoder

/-- The name of a value in a list of named values. -/
def nameIn {α : Type} [DecidableEq α] (names : List (String × α)) (a : α) : String :=
  ((names.find? (·.2 = a)).map (·.1)).getD ""

namespace SeriesKind

def names : List (String × SeriesKind) := [("line", line), ("bar", bar), ("bubble", bubble)]

def name : SeriesKind → String := nameIn names

end SeriesKind

namespace AxisPosition

def names : List (String × AxisPosition) := [("left", left), ("right", right)]

def name : AxisPosition → String := nameIn names

end AxisPosition

namespace PointStyle

def names : List (String × PointStyle) :=
  [("circle", circle), ("rect", rect), ("triangle", triangle), ("cross", cross), ("star", star)]

def name : PointStyle → String := nameIn names

end PointStyle

namespace SeriesSpec

/-- What has been read of a series. -/
structure Draft where
  kind : Option SeriesKind
  label : Option String
  field : Option String
  axis : Option String
  color : Option String
  pointStyle : Option (Option PointStyle)
  hidePoints : Option Bool

def members : Decoder.Fields Draft where
  member s key depth v :=
    match key with
    | "kind" => do
      return some { s with kind := ← once key s.kind (enumeration SeriesKind.names) depth v }
    | "label" => do return some { s with label := ← once key s.label string depth v }
    | "field" => do return some { s with field := ← once key s.field string depth v }
    | "axis" => do return some { s with axis := ← once key s.axis string depth v }
    | "color" => do return some { s with color := ← once key s.color string depth v }
    | "point_style" => do
      let decodeStyle := optional (enumeration PointStyle.names)
      return some { s with pointStyle := ← once key s.pointStyle decodeStyle depth v }
    | "hide_points" => do return some { s with hidePoints := ← once key s.hidePoints bool depth v }
    | _ => .ok none

def ofDraft (s : Draft) : Json.Result SeriesSpec := do
  return {
    kind := ← required "kind" s.kind
    label := ← required "label" s.label
    field := ← required "field" s.field
    axis := ← required "axis" s.axis
    color := ← required "color" s.color
    pointStyle := s.pointStyle.getD none
    hidePoints := s.hidePoints.getD false }

def ofItems (items : Items) : Json.Result (SeriesSpec × Items) := do
  let expected := "struct SeriesSpec with 7 elements"
  let (kind, items) ← items.next expected (enumeration SeriesKind.names)
  let (label, items) ← items.next expected string
  let (field, items) ← items.next expected string
  let (axis, items) ← items.next expected string
  let (color, items) ← items.next expected string
  let (pointStyle, items) ← items.next? (optional (enumeration PointStyle.names))
  let (hidePoints, items) ← items.next? bool
  return (⟨kind, label, field, axis, color, pointStyle.getD none, hidePoints.getD false⟩, items)

def decode : Json.Decoder SeriesSpec :=
  struct "struct SeriesSpec" members ⟨none, none, none, none, none, none, none⟩ ofDraft ofItems

def toJson (s : SeriesSpec) : Json.Value :=
  .object [
    ("kind", .text s.kind.name), ("label", .text s.label), ("field", .text s.field),
    ("axis", .text s.axis), ("color", .text s.color),
    ("point_style", .ofText? (s.pointStyle.map (·.name))), ("hide_points", .bool s.hidePoints)]

end SeriesSpec

namespace AxisSpec

/-- What has been read of an axis. -/
structure Draft where
  id : Option String
  position : Option AxisPosition
  label : Option String
  unit : Option String

def members : Decoder.Fields Draft where
  member s key depth v :=
    match key with
    | "id" => do return some { s with id := ← once key s.id string depth v }
    | "position" => do
      let decodePosition := enumeration AxisPosition.names
      return some { s with position := ← once key s.position decodePosition depth v }
    | "label" => do return some { s with label := ← once key s.label string depth v }
    | "unit" => do return some { s with unit := ← once key s.unit string depth v }
    | _ => .ok none

def ofDraft (s : Draft) : Json.Result AxisSpec := do
  return {
    id := ← required "id" s.id
    position := ← required "position" s.position
    label := ← required "label" s.label
    unit := ← required "unit" s.unit }

def ofItems (items : Items) : Json.Result (AxisSpec × Items) := do
  let expected := "struct AxisSpec with 4 elements"
  let (id, items) ← items.next expected string
  let (position, items) ← items.next expected (enumeration AxisPosition.names)
  let (label, items) ← items.next expected string
  let (unit, items) ← items.next expected string
  return (⟨id, position, label, unit⟩, items)

def decode : Json.Decoder AxisSpec :=
  struct "struct AxisSpec" members ⟨none, none, none, none⟩ ofDraft ofItems

def toJson (a : AxisSpec) : Json.Value :=
  .object [
    ("id", .text a.id), ("position", .text a.position.name), ("label", .text a.label),
    ("unit", .text a.unit)]

end AxisSpec

namespace RunningTotalSpec

/-- What has been read of a running total. -/
structure Draft where
  source : Option String
  output : Option String

def members : Decoder.Fields Draft where
  member s key depth v :=
    match key with
    | "source" => do return some { s with source := ← once key s.source string depth v }
    | "output" => do return some { s with output := ← once key s.output string depth v }
    | _ => .ok none

def ofDraft (s : Draft) : Json.Result RunningTotalSpec := do
  return { source := ← required "source" s.source, output := ← required "output" s.output }

def ofItems (items : Items) : Json.Result (RunningTotalSpec × Items) := do
  let expected := "struct RunningTotalSpec with 2 elements"
  let (source, items) ← items.next expected string
  let (output, items) ← items.next expected string
  return (⟨source, output⟩, items)

def decode : Json.Decoder RunningTotalSpec :=
  struct "struct RunningTotalSpec" members ⟨none, none⟩ ofDraft ofItems

def toJson (t : RunningTotalSpec) : Json.Value :=
  .object [("source", .text t.source), ("output", .text t.output)]

end RunningTotalSpec

namespace ChartSpec

/-- What has been read of a chart. -/
structure Draft where
  title : Option String
  reverseLegend : Option Bool
  series : Option (List SeriesSpec)
  axes : Option (List AxisSpec)
  runningTotal : Option (Option RunningTotalSpec)

def members : Decoder.Fields Draft where
  member s key depth v :=
    match key with
    | "title" => do return some { s with title := ← once key s.title string depth v }
    | "reverse_legend" => do
      return some { s with reverseLegend := ← once key s.reverseLegend bool depth v }
    | "series" => do
      return some { s with series := ← once key s.series (list SeriesSpec.decode) depth v }
    | "axes" => do return some { s with axes := ← once key s.axes (list AxisSpec.decode) depth v }
    | "running_total" => do
      let decodeTotal := optional RunningTotalSpec.decode
      return some { s with runningTotal := ← once key s.runningTotal decodeTotal depth v }
    | _ => .ok none

def ofDraft (s : Draft) : Json.Result ChartSpec := do
  return {
    title := ← required "title" s.title
    reverseLegend := s.reverseLegend.getD false
    series := ← required "series" s.series
    axes := ← required "axes" s.axes
    runningTotal := s.runningTotal.getD none }

def ofItems (items : Items) : Json.Result (ChartSpec × Items) := do
  let expected := "struct ChartSpec with 5 elements"
  let (title, items) ← items.next expected string
  let (reverseLegend, items) ← items.next? bool
  let (series, items) ← items.next expected (list SeriesSpec.decode)
  let (axes, items) ← items.next expected (list AxisSpec.decode)
  let (runningTotal, items) ← items.next? (optional RunningTotalSpec.decode)
  return (⟨title, reverseLegend.getD false, series, axes, runningTotal.getD none⟩, items)

def decode : Json.Decoder ChartSpec :=
  struct "struct ChartSpec" members ⟨none, none, none, none, none⟩ ofDraft ofItems

/-- The description with every member present. -/
def toJson (c : ChartSpec) : Json.Value :=
  .object [
    ("title", .text c.title), ("reverse_legend", .bool c.reverseLegend),
    ("series", .array (c.series.map (·.toJson))), ("axes", .array (c.axes.map (·.toJson))),
    ("running_total", (c.runningTotal.map (·.toJson)).getD .null)]

end ChartSpec

end Meteogram
