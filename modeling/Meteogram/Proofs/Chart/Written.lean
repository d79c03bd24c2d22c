import Meteogram.Chart.ConfigText

/-!
# The written horizontal axis

A browser learns from the text of a chart how its labels run: along a time axis in units of the
period, or side by side as categories. What stands in a written value is found by the names of the
members on the way to it.
-/
namespace Meteogram

namespace Json.Value

/-- What stands in a value at the end of a path of member names. -/
def at? : Value → List String → Option Value
  | v, [] => some v
  | .object members, name :: path => (members.lookup name).bind fun v => v.at? path
  | _, _ :: _ => none

end Json.Value

open Json

/-- Whether a written axis is one of time that is cut by a period: in units of its name, or without
units where the period has no step. -/
structure IsTimeAxis (x : Value) (p : Period) : Prop where
  type : x.at? ["type"] = some (.text "time")
  time : (x.at? ["time"]).isSome = true
  unit : x.at? ["time", "unit"] = if p.isStepped then some (.text p.name) else none

/-- Whether a written axis is one of categories. -/
structure IsCategoryAxis (x : Value) : Prop where
  type : x.at? ["type"] = some (.text "category")
  time : x.at? ["time"] = none

namespace XScale

theorem at_type (x : XScale) : x.toJson.at? ["type"] =
    some (.text (match x with | time _ => "time" | category => "category")) := by
  cases x <;> rfl

theorem at_time (x : XScale) : x.toJson.at? ["time"] =
    match x with | time p => some (timeJson p) | category => none := by
  cases x <;> rfl

/-- The unit of a time axis is that of its period. -/
theorem at_unit (p : Period) : (time p).toJson.at? ["time", "unit"] =
    if p.isStepped then some (.text p.name) else none := by
  cases p <;> rfl

theorem isTimeAxis_iff {x : XScale} {p : Period} : IsTimeAxis x.toJson p ↔ x = time p := by
  constructor
  · rintro ⟨htype, -, hunit⟩
    cases x with
    | time q =>
      rw [at_unit] at hunit
      cases q <;> cases p <;> simp [Period.isStepped, Period.name] at hunit ⊢
    | category => simp [at_type] at htype
  · rintro rfl
    exact ⟨at_type _, by rw [at_time]; rfl, at_unit p⟩

theorem isCategoryAxis_iff {x : XScale} : IsCategoryAxis x.toJson ↔ x = category := by
  constructor
  · rintro ⟨htype, -⟩
    cases x with
    | time p => simp [at_type] at htype
    | category => rfl
  · rintro rfl
    exact ⟨at_type _, at_time _⟩

end XScale

/-- A written chart has one horizontal axis, that of its scale. -/
theorem ChartConfig.at_xAxes (config : ChartConfig) :
    config.toJson.at? ["options", "scales", "xAxes"] = some (.array [config.xScale.toJson]) := rfl

end Meteogram
