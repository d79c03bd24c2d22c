import Meteogram.Proofs.RunningTotal

/-!
# Annotations

An annotation lays one field over records and leaves them otherwise as they were. Its totals are
those of the records as they came, also where the field that is laid over them is the one that is
summed, so that a total never enters a total. Two annotations of which neither sets what the other
sums or sets may be made in either order.
-/
namespace Meteogram

/-- The record `r'` says what `r` says, but for one field, which has a value of its own. -/
structure Record.Overlays (r' r : Record) (name : String) (value : Float) : Prop where
  time_eq : r'.time = r.time
  has_self : r'.has name = true
  get_self : r'.get name = some value
  has_other : ∀ other ≠ name, r'.has other = r.has other
  get_other : ∀ other ≠ name, r'.get other = r.get other

/-- Setting a field lays it over a record, and nothing else does. -/
theorem Record.overlays_iff {r' r : Record} {name : String} {value : Float} :
    r'.Overlays r name value ↔ r' = r.set name (some value) := by
  constructor
  · intro h
    refine ext_of_has_get h.time_eq (fun other => ?_) fun other => ?_
    · by_cases hother : other = name
      · simp [hother, h.has_self]
      · simp [hother, h.has_other other hother]
    · by_cases hother : other = name
      · simp [hother, h.get_self]
      · simp [hother, h.get_other other hother]
  · rintro rfl
    exact ⟨rfl, by simp, by simp, fun other h => by simp [h], fun other h => by simp [h]⟩

/-- The records that an annotation makes of others: as many of them in the same order, each laid
over with the sum up to its place. -/
structure IsAnnotation (records annotated : List Record) (source output : String) : Prop where
  length_eq : annotated.length = records.length
  overlays : ∀ (i : ℕ) (r : Record), records[i]? = some r →
    ∃ r', annotated[i]? = some r' ∧ r'.Overlays r output (totalUpTo records source i)

variable {records : List Record} {source output field : String}

theorem isAnnotation_iff {annotated : List Record} :
    IsAnnotation records annotated source output ↔
      annotated = annotateRunningTotal records source output := by
  constructor
  · intro h
    apply List.ext_getElem?
    intro i
    rw [getElem?_annotateRunningTotal]
    cases hr : records[i]? with
    | none =>
      rw [List.getElem?_eq_none_iff] at hr
      simpa [h.length_eq] using hr
    | some r =>
      obtain ⟨r', hr', hover⟩ := h.overlays i r hr
      rw [hr', Option.map_some, Record.overlays_iff.mp hover]
  · rintro rfl
    refine ⟨by simp [annotateRunningTotal], fun i r hr => ⟨_, ?_, Record.overlays_iff.mpr rfl⟩⟩
    rw [getElem?_annotateRunningTotal, hr, Option.map_some]

/-! ## Columns of annotated records -/

theorem map_get_annotateRunningTotal_self :
    (annotateRunningTotal records source output).map (·.get output) =
      (runningTotal records source).map some := by
  apply List.ext_getElem?
  intro i
  rw [List.getElem?_map, List.getElem?_map, getElem?_annotateRunningTotal, getElem?_runningTotal,
    Option.map_map, Option.map_map]
  simp [Function.comp_def]

/-- A sum depends on the column of its field alone. -/
theorem totalUpTo_congr {records' : List Record}
    (h : records.map (·.get field) = records'.map (·.get field)) (i : ℕ) :
    totalUpTo records field i = totalUpTo records' field i := by
  have hcolumn (rs : List Record) : totalUpTo rs field i =
      ((rs.map (·.get field)).take (i + 1)).foldl (fun sum value => sum + value.getD 0) 0 := by
    rw [totalUpTo, ← List.map_take, List.foldl_map]
  rw [hcolumn, hcolumn, h]

/-- An annotation is not noticed by the sums of another field. -/
theorem totalUpTo_annotateRunningTotal (h : field ≠ output) (i : ℕ) :
    totalUpTo (annotateRunningTotal records source output) field i = totalUpTo records field i :=
  totalUpTo_congr (map_get_annotateRunningTotal h records source) i

theorem runningTotal_annotateRunningTotal (h : field ≠ output) :
    runningTotal (annotateRunningTotal records source output) field =
      runningTotal records field := by
  apply List.ext_getElem?
  intro i
  rw [getElem?_runningTotal, getElem?_runningTotal, getElem?_annotateRunningTotal,
    totalUpTo_annotateRunningTotal h, Option.map_map]
  rfl

/-! ## Two annotations -/

variable {source' output' : String}

theorem annotateRunningTotal_comm (hne : output ≠ output') (h : output ≠ source')
    (h' : output' ≠ source) :
    annotateRunningTotal (annotateRunningTotal records source output) source' output' =
      annotateRunningTotal (annotateRunningTotal records source' output') source output := by
  apply List.ext_getElem?
  intro i
  -- Each of the two sums is that of the records as they came, so only the order of setting differs.
  simp only [getElem?_annotateRunningTotal, totalUpTo_annotateRunningTotal h.symm,
    totalUpTo_annotateRunningTotal h'.symm, Option.map_map]
  exact congrArg (records[i]?.map ·) (funext fun r => r.set_comm hne _ _)

/-- Totals of the same field have equal columns. -/
theorem map_get_annotateRunningTotal_twice (hne : output ≠ output') (h : output ≠ source) :
    (annotateRunningTotal (annotateRunningTotal records source output) source output').map
        (·.get output) =
      (annotateRunningTotal (annotateRunningTotal records source output) source output').map
        (·.get output') := by
  rw [map_get_annotateRunningTotal hne, map_get_annotateRunningTotal_self,
    map_get_annotateRunningTotal_self, runningTotal_annotateRunningTotal h.symm]

/-- An annotation lays the sums of one field over the records and does nothing else to them, and it
is the only list of records that does. Annotations that do not set what the other sums or sets are
independent: they may be made in either order, and a field that is summed under two names has the
same column under both, whether it is summed in two lists of records or in one. -/
theorem annotateRunningTotal_overlays (records : List Record) (source output : String) :
    (∀ annotated, annotated = annotateRunningTotal records source output ↔
      IsAnnotation records annotated source output) ∧
    (∀ source' output', output ≠ output' → output ≠ source' → output' ≠ source →
      annotateRunningTotal (annotateRunningTotal records source output) source' output' =
        annotateRunningTotal (annotateRunningTotal records source' output') source output) ∧
    ∀ output', (annotateRunningTotal records source output).map (·.get output) =
        (annotateRunningTotal records source output').map (·.get output') ∧
      (output ≠ output' → output ≠ source →
        let both := annotateRunningTotal (annotateRunningTotal records source output) source output'
        both.map (·.get output) = both.map (·.get output')) := by
  refine ⟨fun annotated => isAnnotation_iff.symm, fun source' output' => annotateRunningTotal_comm,
    fun output' => ⟨?_, map_get_annotateRunningTotal_twice⟩⟩
  rw [map_get_annotateRunningTotal_self, map_get_annotateRunningTotal_self]

/-- A total under the name of its source, which may change places with a total of another field, and
a field that is summed under two names; one value is missing and one absent. -/
theorem annotateRunningTotal_overlays_of_rain :
    let records := [((Record.new (.number 1)).set "rain" (some 1)).set "temp" (some 5),
      (Record.new (.number 2)).set "rain" none,
      ((Record.new (.number 3)).set "rain" (some 3)).set "temp" (some 2.5)]
    let rain := annotateRunningTotal records "rain" "rain"
    let heat := annotateRunningTotal records "temp" "heat"
    let both := annotateRunningTotal (annotateRunningTotal records "rain" "sum") "rain" "total"
    IsAnnotation records rain "rain" "rain" ∧
      rain.map (·.get "rain") = [some 1, some 1, some 4] ∧
      heat.map (·.get "heat") = [some 5, some 5, some 7.5] ∧
      annotateRunningTotal rain "temp" "heat" = annotateRunningTotal heat "rain" "rain" ∧
      both.map (·.get "sum") = both.map (·.get "total") := by
  intro records rain heat both
  obtain ⟨hrain, hcomm, -⟩ := annotateRunningTotal_overlays records "rain" "rain"
  obtain ⟨-, -, hcolumns⟩ := annotateRunningTotal_overlays records "rain" "sum"
  exact ⟨(hrain rain).mp rfl, by decide +kernel, by decide +kernel,
    hcomm "temp" "heat" (by decide) (by decide) (by decide),
    (hcolumns "total").2 (by decide) (by decide)⟩

end Meteogram
