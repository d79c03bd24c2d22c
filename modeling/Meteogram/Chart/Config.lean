import Meteogram.Align.Frame
import Meteogram.Chart.Spec
import Meteogram.RunningTotal

/-!
# Chart configurations

`ChartConfig.ofDataset` turns a chart description and a dataset into what a chart needs to be drawn:
the labels of one shared axis, the values of every series on it, and the vertical axes. A declared
running total is computed over the records first, so it is aligned like any other field.
-/

namespace Meteogram

/-- A reason for which there is no chart. -/
inductive ChartError where
  | align (e : AlignError)
  /-- A series is drawn against an axis that the chart does not declare. -/
  | unknownAxis (series axis : String)
  | noSeries
deriving DecidableEq, Repr

def ChartError.message : ChartError → String
  | align e => e.message
  | unknownAxis series axis =>
    "Series '" ++ series ++ "' refers to axis '" ++ axis ++ "', which the chart does not declare"
  | noSeries => "Chart has no series"

/-- How a line shows its points. -/
structure LineStyle where
  pointStyle : Option PointStyle
  hidePoints : Bool
deriving DecidableEq, Repr

/-- The values of one series, one per label, and how they are drawn. -/
structure ChartDataset where
  kind : SeriesKind
  label : String
  yAxisId : String
  color : String
  data : List (Option Float)
  /-- Only lines have one. -/
  line : Option LineStyle
deriving DecidableEq, Repr

/-- The horizontal axis: time, cut by a period, or slots side by side. -/
inductive XScale where
  | time (period : Period)
  | category
deriving DecidableEq, Repr

/-- A vertical axis under its caption. -/
structure YAxis where
  id : String
  position : AxisPosition
  caption : String
deriving DecidableEq, Repr

structure ChartConfig where
  title : String
  reverseLegend : Bool
  labels : List Label
  datasets : List ChartDataset
  xScale : XScale
  yAxes : List YAxis
deriving DecidableEq, Repr

def Axis.xScale : Axis → XScale
  | calendar p => .time p
  | index _ => .category

namespace SeriesSpec

/-- The series with its values. -/
def withData (s : SeriesSpec) (data : List (Option Float)) : ChartDataset where
  kind := s.kind
  label := s.label
  yAxisId := s.axis
  color := s.color
  data := data
  line := if s.kind = .line then some ⟨s.pointStyle, s.hidePoints⟩ else none

end SeriesSpec

namespace AxisSpec

/-- The axis as it is drawn: its caption is the label with the unit in brackets. -/
def toYAxis (a : AxisSpec) : YAxis := ⟨a.id, a.position, a.label ++ " (" ++ a.unit ++ ")"⟩

end AxisSpec

namespace ChartSpec

/-- What is wrong with a description on its own: it has no series, or a series has no axis. -/
def fault? (spec : ChartSpec) : Option ChartError :=
  if spec.series.isEmpty then some .noSeries
  else (spec.series.find? fun s => (spec.axis? s.axis).isNone).map fun s =>
    .unknownAxis s.label s.axis

/-- The records that the chart shows: with the running total, if it declares one. -/
def annotated (spec : ChartSpec) (records : List Record) : List Record :=
  match spec.runningTotal with
  | some total => annotateRunningTotal records total.source total.output
  | none => records

end ChartSpec

namespace ChartConfig

/-- The chart of aligned records. -/
def ofFrame (spec : ChartSpec) (axis : Axis) (frame : AlignedFrame) : ChartConfig where
  title := spec.title
  reverseLegend := spec.reverseLegend
  labels := frame.labels
  datasets := spec.series.map fun s =>
    s.withData ((frame.column? s.field).getD (frame.labels.map fun _ => none))
  xScale := axis.xScale
  yAxes := spec.axes.map (·.toYAxis)

/-- The chart of a dataset, on the given axis or on the calendar of its own period. -/
def ofDataset (spec : ChartSpec) (dataset : Dataset) (axis : Option Axis) (options : AlignOptions) :
    Except ChartError ChartConfig := do
  if let some e := spec.fault? then .error e
  let aligner := Aligner.ofDataset dataset axis options
  match aligner.alignFields (spec.annotated dataset.data) spec.fields with
  | .error e => .error (.align e)
  | .ok frame => return ofFrame spec aligner.axis frame

end ChartConfig

end Meteogram
