import Meteogram.Chart.Config
import Meteogram.Chart.SpecText

/-!
# Written chart configurations

The JSON that a browser draws: bars by default, one dataset per series, a time or category scale
below and linear scales at the sides. Only lines carry line options, and only those that are set.
-/

namespace Meteogram

open Json

/-- How a time scale shows the buckets of a period. -/
structure TimeOptions where
  unit : String
  stepSize : Nat
  tooltipFormat : String
deriving DecidableEq, Repr

/-- Raw observations leave the choice to the drawing. -/
def Period.timeOptions : Period → Option TimeOptions
  | raw => none
  | hour => some ⟨"hour", 3, "D MMMM YYYY HH:mm"⟩
  | day => some ⟨"day", 2, "D MMMM YYYY"⟩
  | month => some ⟨"month", 1, "MMMM YYYY"⟩
  | year => some ⟨"year", 1, "YYYY"⟩

namespace LineStyle

/-- The members that a line adds to its dataset. -/
def jsonMembers (l : LineStyle) : List (String × Value) :=
  [("fill", .bool false), ("spanGaps", .bool false), ("lineTension", .float 0),
      ("borderWidth", .integer 2)] ++
    (l.pointStyle.map fun p => ("pointStyle", Value.text p.name)).toList ++
    if l.hidePoints then
      [("pointRadius", .integer 0), ("pointHitRadius", .integer 4), ("pointHoverRadius", .integer 4)]
    else []

end LineStyle

def ChartDataset.toJson (d : ChartDataset) : Value :=
  .object ([
    ("type", .text d.kind.name), ("label", .text d.label), ("yAxisID", .text d.yAxisId),
    ("backgroundColor", .text d.color), ("borderColor", .text d.color),
    ("data", .array (d.data.map .ofFloat?))] ++ (d.line.map (·.jsonMembers)).getD [])

namespace XScale

/-- The formats in which the ticks of a time scale are written. -/
def displayFormats : Value :=
  .object [("hour", .text "HH:mm"), ("day", .text "D"), ("month", .text "MMM")]

def timeJson (p : Period) : Value :=
  let options := match p.timeOptions with
    | some o =>
      [("unit", Value.text o.unit), ("stepSize", .integer o.stepSize),
        ("tooltipFormat", .text o.tooltipFormat)]
    | none => []
  .object (options ++ [("displayFormats", displayFormats)])

def toJson (x : XScale) : Value :=
  let (type, options) := match x with
    | .time p => ("time", [("time", timeJson p)])
    | .category => ("category", [])
  .object ([
    ("type", .text type), ("gridLines", .object [("offsetGridLines", .bool false)])] ++ options ++
    [("scaleLabel", .object [("display", .bool true), ("fontStyle", .text "bold")])])

end XScale

def YAxis.toJson (y : YAxis) : Value :=
  .object [
    ("type", .text "linear"), ("position", .text y.position.name), ("id", .text y.id),
    ("scaleLabel", .object [
      ("display", .bool true), ("labelString", .text y.caption), ("fontStyle", .text "bold")])]

namespace ChartConfig

def dataJson (c : ChartConfig) : Value :=
  .object [
    ("labels", .array (c.labels.map (·.toJson))), ("datasets", .array (c.datasets.map (·.toJson)))]

def optionsJson (c : ChartConfig) : Value :=
  .object [
    ("title", .object [
      ("display", .bool true), ("fontSize", .integer 16), ("text", .text c.title)]),
    ("legend", .object [("position", .text "bottom"), ("reverse", .bool c.reverseLegend)]),
    ("tooltips", .object [
      ("mode", .text "index"), ("intersect", .bool false), ("position", .text "nearest"),
      ("bodySpacing", .integer 5)]),
    ("scales", .object [
      ("xAxes", .array [c.xScale.toJson]), ("yAxes", .array (c.yAxes.map (·.toJson)))])]

def toJson (c : ChartConfig) : Value :=
  .object [
    ("type", .text SeriesKind.bar.name), ("data", c.dataJson), ("options", c.optionsJson)]

end ChartConfig

end Meteogram
