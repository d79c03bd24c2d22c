/-!
# Compass points

The sixteen-point label of a wind direction.
-/

namespace Meteogram

namespace Compass

/-- The points clockwise from north. -/
def points : List String :=
  ["N", "NNE", "NE", "ENE", "E", "ESE", "SE", "SSE", "S", "SSW", "SW", "WSW", "W", "WNW", "NW", "NNW"]

/-- The label of an unknown direction. -/
def unknown : String := "-"

/-- The whole part of a double: what is behind the point is dropped. -/
def truncated (x : Float) : Float := if x < 0 then x.ceil else x.floor

/-- The point of a direction in degrees from north. Fractions of a degree are dropped first; a
direction below zero, of a full turn or more, or no number at all is unknown. -/
def label (degrees : Float) : String :=
  let degrees := truncated degrees
  if degrees.isNaN || degrees < 0 then unknown
  else (points[(degrees / 22.5).toUInt64.toNat]?).getD unknown

end Compass

end Meteogram
