import Meteogram.Chart.SpecText

/-!
# Built-in charts

The charts of the station viewer: temperature, wind, pressure and rain. Charts of the archive show
raw rows, charts of aggregates daily or monthly ones.
-/

namespace Meteogram

inductive ChartKind where
  | archiveTemp
  | archiveWind
  | aggrWind
  | aggrBarometer
  | aggrTemp
  | aggrTempRain
  | aggrRain
deriving DecidableEq, Repr

namespace ChartKind

/-- All built-in charts in their order. -/
def all : List ChartKind :=
  [.archiveTemp, .archiveWind, .aggrWind, .aggrBarometer, .aggrTemp, .aggrTempRain, .aggrRain]

def key : ChartKind → String
  | archiveTemp => "archive_temp"
  | archiveWind => "archive_wind"
  | aggrWind => "aggr_wind"
  | aggrBarometer => "aggr_barometer"
  | aggrTemp => "aggr_temp"
  | aggrTempRain => "aggr_temp_rain"
  | aggrRain => "aggr_rain"

/-- Reads the key of a built-in chart. -/
def decode : Json.Decoder ChartKind := .enumeration (all.map fun kind => (kind.key, kind))

/-- A vertical axis on the left. -/
def onLeft (label unit : String) : AxisSpec := ⟨"y-axis-1", .left, label, unit⟩

/-- A vertical axis on the right. -/
def onRight (label unit : String) : AxisSpec := ⟨"y-axis-2", .right, label, unit⟩

/-- A line, with its points shown or not. -/
def lineOf (label field axis color : String) (style : Option PointStyle) (hide : Bool) : SeriesSpec :=
  ⟨.line, label, field, axis, color, style, hide⟩

/-- Bars. -/
def barOf (label field axis color : String) : SeriesSpec :=
  ⟨.bar, label, field, axis, color, none, false⟩

/-- The description of the chart: temperature, dew point and humidity of raw archive rows. -/
def archiveTempSpec : ChartSpec where
  title := "Températures, humidité, point de rosée"
  reverseLegend := false
  series := [
    lineOf "Température" "temp" "y-axis-1" "rgba(237, 86, 27, 1)"
      (some .circle) true,
    lineOf "Point de rosée" "dew_point" "y-axis-1" "rgba(80, 180, 50, 1)"
      (some .rect) true,
    lineOf "Humidité" "humidity" "y-axis-2" "rgba(5, 141, 199, 1)"
      none true]
  axes := [onLeft "Température" "°C", onRight "Humidité" "%"]
  runningTotal := none

/-- The description of the chart: wind speed and direction of raw archive rows. -/
def archiveWindSpec : ChartSpec where
  title := "Vent"
  reverseLegend := false
  series := [
    lineOf "Vent moyen" "avg_wind_speed" "y-axis-1" "rgba(69, 114, 167, 1)"
      (some .circle) true,
    ⟨.bubble, "Direction", "avg_wind_dir", "y-axis-2", "rgba(170, 70, 70, 1)",
      none, false⟩]
  axes := [onLeft "Vent" "m/s", onRight "Direction" "°"]
  runningTotal := none

/-- The description of the chart: mean wind and gusts of aggregates. -/
def aggrWindSpec : ChartSpec where
  title := "Vent"
  reverseLegend := false
  series := [
    lineOf "Vent moyen" "avg_wind_speed" "y-axis-1" "rgba(128, 105, 155, 1)"
      (some .rect) false,
    lineOf "Rafale" "hi_wind_speed" "y-axis-1" "rgba(86, 65, 112, 1)"
      (some .circle) false]
  axes := [onLeft "Vent" "m/s"]
  runningTotal := none

/-- The description of the chart: mean pressure of aggregates. -/
def aggrBarometerSpec : ChartSpec where
  title := "Pression au niveau de la mer"
  reverseLegend := false
  series := [
    lineOf "Pression moyenne" "barometer" "y-axis-1" "rgba(137, 165, 78, 1)"
      (some .circle) false]
  axes := [onLeft "Pression" "hPa"]
  runningTotal := none

/-- The description of the chart: lowest and highest temperature of aggregates. -/
def aggrTempSpec : ChartSpec where
  title := "Températures"
  reverseLegend := false
  series := [
    lineOf "Température minimale" "lo_temp" "y-axis-1" "rgba(69, 114, 167, 1)"
      (some .circle) false,
    lineOf "Température maximale" "hi_temp" "y-axis-1" "rgba(170, 70, 70, 1)"
      (some .rect) false]
  axes := [onLeft "Températures" "°C"]
  runningTotal := none

/-- The description of the chart: temperatures and rain of aggregates. -/
def aggrTempRainSpec : ChartSpec where
  title := "Températures"
  reverseLegend := false
  series := [
    lineOf "Température minimale" "lo_temp" "y-axis-1" "rgba(69, 114, 167, 1)"
      (some .circle) false,
    lineOf "Température maximale" "hi_temp" "y-axis-1" "rgba(170, 70, 70, 1)"
      (some .rect) false,
    barOf "Précipitations" "rain_fall" "y-axis-2"
      "rgba(162, 190, 163, 1)"]
  axes := [onLeft "Températures" "°C", onRight "Précipitations" "mm"]
  runningTotal := none

/-- The description of the chart: rain of aggregates, with its total since the first of them. -/
def aggrRainSpec : ChartSpec where
  title := "Précipitations"
  reverseLegend := true
  series := [
    lineOf "Cumul annuel" "rain_sum" "y-axis-2" "rgba(0, 0, 0, 1)"
      (some .rect) false,
    lineOf "Précipitations maximales sur 24h" "rain_24h" "y-axis-1" "rgba(18, 137, 186, 1)"
      (some .circle) false,
    barOf "Précipitations" "rain" "y-axis-1"
      "rgba(162, 190, 163, 1)"]
  axes := [onLeft "Précipitations" "mm", onRight "Cumul annuel" "mm"]
  runningTotal := some ⟨"rain", "rain_sum"⟩

/-- The description of a built-in chart. -/
def spec : ChartKind → ChartSpec
  | archiveTemp => archiveTempSpec
  | archiveWind => archiveWindSpec
  | aggrWind => aggrWindSpec
  | aggrBarometer => aggrBarometerSpec
  | aggrTemp => aggrTempSpec
  | aggrTempRain => aggrTempRainSpec
  | aggrRain => aggrRainSpec

end ChartKind

end Meteogram
