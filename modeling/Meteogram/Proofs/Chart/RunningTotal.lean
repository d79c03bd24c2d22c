import Meteogram.Proofs.Chart.Assembly

/-!
# Running totals in charts

A declared running total is summed over the records before they are laid on the axis. A bucket
therefore shows the total at its latest record, with the records of the same bucket that this one
has replaced, whatever the width of the buckets. Series over other fields do not notice the total.
-/
namespace Meteogram

namespace Aligner

variable {a : Aligner} {records : List Record} {label : Label} {position : ℕ}

/-- The latest record of a bucket carries the total up to its position. -/
theorem IsLatest.latest?_annotateRunningTotal (h : a.IsLatest records label position)
    (source output : String) :
    ∃ r, records[position]? = some r ∧ a.latest? records label = some r ∧
      a.latest? (annotateRunningTotal records source output) label =
        some (r.set output (some (totalUpTo records source position))) := by
  obtain ⟨r, hr, -⟩ := h.bucket
  refine ⟨r, hr, latest?_eq_some_iff.mpr ⟨position, h, hr⟩, latest?_eq_some_iff.mpr ⟨position, ?_, ?_⟩⟩
  · exact h.of_times (map_time_annotateRunningTotal records source output)
  · rw [getElem?_annotateRunningTotal, hr, Option.map_some]

theorem latest?_annotateRunningTotal_eq_none (source output : String)
    (h : a.latest? records label = none) :
    a.latest? (annotateRunningTotal records source output) label = none := by
  by_contra hne
  obtain ⟨r, hr⟩ := Option.ne_none_iff_exists'.mp hne
  obtain ⟨position, hlatest, -⟩ := latest?_eq_some_iff.mp hr
  obtain ⟨r', -, hr', -⟩ := (hlatest.of_times
    (map_time_annotateRunningTotal records source output).symm).latest?_annotateRunningTotal
      source output
  rw [h] at hr'
  cases hr'

/-- What the latest record says of another field is not changed by a total. -/
theorem get_latest?_annotateRunningTotal (records : List Record) (label : Label) (source : String)
    {output field : String} (hne : field ≠ output) :
    (a.latest? (annotateRunningTotal records source output) label).bind (·.get field) =
      (a.latest? records label).bind (·.get field) := by
  cases hlatest : a.latest? records label with
  | none => rw [latest?_annotateRunningTotal_eq_none source output hlatest]
  | some r =>
    obtain ⟨position, h, -⟩ := latest?_eq_some_iff.mp hlatest
    obtain ⟨r', -, hr', hset⟩ := h.latest?_annotateRunningTotal source output
    rw [hlatest, Option.some.injEq] at hr'
    subst hr'
    simp [hset, hne]

end Aligner

namespace ChartConfig

/-- How a chart with a running total shows a series of records: the series over the total has the
total at the latest record of each bucket, and nothing where there is no record; any other series is
that of the records as they were. -/
structure Accumulates (config : ChartConfig) (a : Aligner) (records : List Record)
    (total : RunningTotalSpec) (s : SeriesSpec) (d : ChartDataset) : Prop where
  length : d.data.length = config.labels.length
  sum : s.field = total.output → ∀ (i : ℕ) (label : Label), config.labels[i]? = some label →
    ∀ j, a.IsLatest records label j → ∃ sum, (runningTotal records total.source)[j]? = some sum ∧
      sum = totalUpTo records total.source j ∧ d.data[i]? = some (some sum)
  gap : s.field = total.output → ∀ (i : ℕ) (label : Label), config.labels[i]? = some label →
    (d.data[i]? = some none ↔ ∀ r ∈ records, a.bucketOf? r.time ≠ some label)
  other : s.field ≠ total.output → a.align records s.field = .ok ⟨config.labels, d.data⟩

variable {spec : ChartSpec} {dataset : Dataset} {axis : Option Axis} {options : AlignOptions}
  {config : ChartConfig}

/-- A chart with a running total accumulates over all records of its dataset, under every policy for
shared buckets and on every axis, also where the total has the name of its source or of a field of
another series. -/
theorem totals_of_ofDataset {total : RunningTotalSpec} (htotal : spec.runningTotal = some total)
    (h : ofDataset spec dataset axis options = .ok config) :
    List.Forall₂
      (config.Accumulates (Aligner.ofDataset dataset axis options) dataset.data total)
      spec.series config.datasets := by
  obtain ⟨frame, hframe, rfl⟩ := exists_frame_of_ofDataset h
  rw [ofFrame, List.forall₂_map_right_iff, List.forall₂_same]
  intro s hs
  have hmem := ChartSpec.field_mem_fields hs
  generalize Aligner.ofDataset dataset axis options = a at hframe ⊢
  rw [Aligner.column?_of_alignFields hframe hmem, Option.getD_some]
  rw [show spec.annotated dataset.data =
    annotateRunningTotal dataset.data total.source total.output by
      simp [ChartSpec.annotated, htotal]] at hframe ⊢
  have hvalue : ∀ (i : ℕ) (label : Label), frame.labels[i]? = some label →
      (a.latestValues (annotateRunningTotal dataset.data total.source total.output) frame.labels
        s.field)[i]? =
      some ((a.latest? (annotateRunningTotal dataset.data total.source total.output) label).bind
        (·.get s.field)) := by
    intro i label hi
    rw [Aligner.latestValues, List.getElem?_map, hi, Option.map_some]
  refine ⟨List.length_map _, ?_, ?_, ?_⟩
  · intro hfield i label hi j hj
    obtain ⟨r, hr, -, hset⟩ := hj.latest?_annotateRunningTotal total.source total.output
    refine ⟨totalUpTo dataset.data total.source j, ?_, rfl, ?_⟩
    · rw [getElem?_runningTotal, hr, Option.map_some]
    · refine (hvalue i label hi).trans ?_
      simp [hset, hfield]
  · intro hfield i label hi
    rw [← Aligner.latest?_eq_none_iff]
    refine Eq.congr_left (hvalue i label hi) |>.trans ?_
    cases hlatest : a.latest? dataset.data label with
    | none =>
      rw [Aligner.latest?_annotateRunningTotal_eq_none _ _ hlatest]
      simp
    | some r =>
      obtain ⟨j, hj, -⟩ := Aligner.latest?_eq_some_iff.mp hlatest
      obtain ⟨r', -, -, hset⟩ := hj.latest?_annotateRunningTotal total.source total.output
      simp [hset, hfield]
  · intro hfield
    have hknown := (isKnown_annotateRunningTotal.mp
      (Aligner.isKnown_of_alignFields hframe s.field hmem)).resolve_left fun h => hfield h.1
    refine (Aligner.align_of_times hframe
      (map_time_annotateRunningTotal dataset.data total.source total.output).symm hknown).trans ?_
    simp only [Aligner.latestValues, SeriesSpec.withData,
      Aligner.get_latest?_annotateRunningTotal _ _ _ hfield]

/-- Two records of one day, a day without any, and a total under the name of its source. -/
theorem totals_of_three_days :
    let bar : SeriesSpec := ⟨.bar, "Rain", "rain", "y", "blue", none, false⟩
    let spec : ChartSpec := ⟨"Rain", false, [bar, { bar with field := "temp" }],
      [⟨"y", .left, "Rain", "mm"⟩], some ⟨"rain", "rain"⟩⟩
    let records := [(Record.new (.number 3600)).set "rain" (some 1),
      ((Record.new (.number 7200)).set "rain" (some 2)).set "temp" (some 9),
      (Record.new (.number 180000)).set "rain" none]
    let dataset : Dataset := ⟨none, none, some .day, records⟩
    ∃ config, ofDataset spec dataset none default = .ok config ∧
      config.labels.length = 3 ∧
      List.Forall₂ (config.Accumulates (.ofDataset dataset none default) records ⟨"rain", "rain"⟩)
        spec.series config.datasets := by
  intro bar spec records dataset
  obtain ⟨config, h, hlength⟩ : ∃ config, ofDataset spec dataset none default = .ok config ∧
      config.labels.length = 3 := ⟨_, rfl, rfl⟩
  exact ⟨config, h, hlength, totals_of_ofDataset rfl h⟩

end ChartConfig

end Meteogram
