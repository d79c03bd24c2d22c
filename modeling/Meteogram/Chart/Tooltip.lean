import Meteogram.Chart.Spec
import Meteogram.Decimal.Fixed

/-!
# Tooltips

The line that a chart shows over one value: label, value with one decimal, and unit.
-/

namespace Meteogram

namespace ChartSpec

/-- The tooltip of a value of the series at a position; nothing over a gap or beyond the series. An
undeclared axis has no unit. -/
def tooltip? (spec : ChartSpec) (series : Nat) (value : Option Float) : Option String := do
  let s ← spec.series[series]?
  let x ← value
  let unit := ((spec.axis? s.axis).map (·.unit)).getD ""
  return s.label ++ " : " ++ Decimal.fixed 1 x ++ " " ++ unit

end ChartSpec

end Meteogram
