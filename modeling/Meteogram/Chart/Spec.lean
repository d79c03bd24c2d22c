/-!
# Chart descriptions

A chart is described by its series, the vertical axes they are drawn against, and at most one field
that is accumulated before anything is drawn.
-/

namespace Meteogram

inductive SeriesKind where
  | line
  | bar
  | bubble
deriving DecidableEq, Repr

inductive AxisPosition where
  | left
  | right
deriving DecidableEq, Repr

inductive PointStyle where
  | circle
  | rect
  | triangle
  | cross
  | star
deriving DecidableEq, Repr

/-- One plotted series: the record field it shows and the vertical axis it belongs to. -/
structure SeriesSpec where
  kind : SeriesKind
  label : String
  field : String
  axis : String
  color : String
  pointStyle : Option PointStyle
  hidePoints : Bool
deriving DecidableEq, Repr

/-- A vertical axis. -/
structure AxisSpec where
  id : String
  position : AxisPosition
  label : String
  unit : String
deriving DecidableEq, Repr

/-- A field that accumulates another one. -/
structure RunningTotalSpec where
  source : String
  output : String
deriving DecidableEq, Repr

structure ChartSpec where
  title : String
  reverseLegend : Bool
  series : List SeriesSpec
  axes : List AxisSpec
  runningTotal : Option RunningTotalSpec
deriving DecidableEq, Repr

namespace ChartSpec

/-- The declared axis with an id, the first of several. -/
def axis? (spec : ChartSpec) (id : String) : Option AxisSpec := spec.axes.find? (·.id == id)

/-- The first occurrences in a list. -/
def firstOccurrences : List String → List String → List String
  | seen, [] => seen.reverse
  | seen, a :: rest =>
    if seen.contains a then firstOccurrences seen rest else firstOccurrences (a :: seen) rest

/-- The record fields that the chart reads, in series order, each once. -/
def fields (spec : ChartSpec) : List String := firstOccurrences [] (spec.series.map (·.field))

end ChartSpec

end Meteogram
