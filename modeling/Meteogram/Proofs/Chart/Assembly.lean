import Meteogram.Proofs.Align.Columns
import Meteogram.Proofs.Chart.Written
import Meteogram.Proofs.Record
import Meteogram.Proofs.RunningTotal

/-!
# Charts put together

All series of a chart share the labels of one alignment over the fields that they read, each field
once. A series therefore shows what aligning its field alone shows, whatever the other series read,
and there is a column for each of them. A chart is refused for its description first, and then for
what the alignment refuses.
-/
namespace Meteogram

namespace ChartSpec

variable {spec : ChartSpec} {records : List Record}

theorem firstOccurrences_eq (seen fields : List String) :
    firstOccurrences seen fields = List.eraseDupsBy.loop (· == ·) fields seen := by
  induction fields generalizing seen with
  | nil => rfl
  | cons f rest ih =>
    simp only [firstOccurrences, List.eraseDupsBy.loop, List.contains_eq_any_beq, ih]
    cases seen.any (f == ·) <;> rfl

theorem fields_eq (spec : ChartSpec) : spec.fields = (spec.series.map (·.field)).eraseDups :=
  firstOccurrences_eq [] _

theorem field_mem_fields {s : SeriesSpec} (hs : s ∈ spec.series) : s.field ∈ spec.fields := by
  rw [fields_eq, List.mem_eraseDups]
  exact List.mem_map_of_mem hs

/-- Whether the axis that a series is drawn against is declared. -/
def Declares (spec : ChartSpec) (s : SeriesSpec) : Prop := ∃ y ∈ spec.axes, y.id = s.axis

theorem axis?_eq_none_iff {s : SeriesSpec} :
    (spec.axis? s.axis).isNone = true ↔ ¬ spec.Declares s := by
  simp [axis?, Declares]

theorem fault?_eq_none_iff :
    spec.fault? = none ↔ spec.series ≠ [] ∧ ∀ s ∈ spec.series, spec.Declares s := by
  unfold fault?
  split_ifs with h
  · simp [List.isEmpty_iff.mp h]
  · rw [Option.map_eq_none_iff, List.find?_eq_none]
    simp only [axis?_eq_none_iff, not_not]
    rw [List.isEmpty_iff] at h
    exact (and_iff_right h).symm

/-- The first series without an axis decides. -/
theorem fault?_of_undeclared {i : ℕ} {s : SeriesSpec} (hi : spec.series[i]? = some s)
    (hbefore : ∀ s' ∈ spec.series.take i, spec.Declares s') (h : ¬ spec.Declares s) :
    spec.fault? = some (.unknownAxis s.label s.axis) := by
  obtain ⟨hlt, rfl⟩ := List.getElem?_eq_some_iff.mp hi
  have hseries : spec.series.isEmpty = false := by
    rw [List.isEmpty_eq_false_iff]
    exact List.ne_nil_of_length_pos (by omega)
  have hfind : (spec.series.find? fun s => (spec.axis? s.axis).isNone) = some spec.series[i] := by
    rw [List.find?_eq_some_iff_append]
    refine ⟨axis?_eq_none_iff.mpr h, spec.series.take i, spec.series.drop (i + 1), ?_, ?_⟩
    · rw [← List.drop_eq_getElem_cons hlt, List.take_append_drop]
    · intro s' hs'
      rw [Bool.not_eq_true', ← Bool.not_eq_true, axis?_eq_none_iff, not_not]
      exact hbefore s' hs'
  rw [fault?, hseries, hfind]
  rfl

/-- A running total leaves the times of records as they are. -/
theorem map_time_annotated (spec : ChartSpec) (records : List Record) :
    (spec.annotated records).map (·.time) = records.map (·.time) := by
  unfold annotated
  cases spec.runningTotal with
  | none => rfl
  | some total => exact map_time_annotateRunningTotal records total.source total.output

theorem exists_of_annotated :
    ∀ r ∈ spec.annotated records, ∃ r' ∈ records, r'.time = r.time := by
  intro r hr
  have hmem : r.time ∈ (spec.annotated records).map (·.time) := List.mem_map_of_mem hr
  rw [spec.map_time_annotated] at hmem
  exact List.mem_map.mp hmem

end ChartSpec

/-- What is wrong first with a chart whose fields are aligned with this result. -/
inductive ChartFault (spec : ChartSpec) (aligned : Except AlignError AlignedFrame) :
    ChartError → Prop
  | noSeries (h : spec.series = []) : ChartFault spec aligned .noSeries
  | unknownAxis {i : ℕ} {s : SeriesSpec} (hi : spec.series[i]? = some s)
    (hbefore : ∀ s' ∈ spec.series.take i, spec.Declares s') (h : ¬ spec.Declares s) :
    ChartFault spec aligned (.unknownAxis s.label s.axis)
  | align (hseries : spec.series ≠ []) (haxes : ∀ s ∈ spec.series, spec.Declares s)
    {e : AlignError} (h : aligned = .error e) : ChartFault spec aligned (.align e)

/-- The horizontal axis is of the kind of the labels, which are all of one kind. -/
theorem Aligner.xScale_iff_of_alignFields {a : Aligner} {records : List Record}
    {fields : List String} {frame : AlignedFrame}
    (h : a.alignFields records fields = .ok frame) :
    ((∃ p, a.axis = .calendar p ∧ a.axis.xScale = .time p) ↔
      ∀ l ∈ frame.labels, ∃ t, l = .instant t) ∧
    (a.axis.xScale = .category ↔ ∀ l ∈ frame.labels, ∃ i, l = .index i) := by
  obtain ⟨l, hl⟩ := List.exists_mem_of_ne_nil _ (labels_ne_nil h)
  cases ha : a.axis with
  | calendar p =>
    have hinstant := exists_instant_of_label ha h
    have hindex : ¬ ∀ l ∈ frame.labels, ∃ i, l = .index i := by
      intro hindex
      obtain ⟨t, rfl⟩ := hinstant l hl
      obtain ⟨i, hi⟩ := hindex _ hl
      cases hi
    exact ⟨iff_of_true ⟨p, rfl, rfl⟩ hinstant, iff_of_false nofun hindex⟩
  | index range =>
    have hindex := exists_index_of_label ha h
    have hinstant : ¬ ∀ l ∈ frame.labels, ∃ t, l = .instant t := by
      intro hinstant
      obtain ⟨i, rfl⟩ := hindex l hl
      obtain ⟨t, ht⟩ := hinstant _ hl
      cases ht
    exact ⟨iff_of_false (by rintro ⟨p, hp, -⟩; cases hp) hinstant, iff_of_true rfl hindex⟩

namespace ChartConfig

variable {spec : ChartSpec} {dataset : Dataset} {axis : Option Axis} {options : AlignOptions}
  {config : ChartConfig}

theorem ofDataset_of_fault {e : ChartError} (h : spec.fault? = some e) (dataset : Dataset)
    (axis : Option Axis) (options : AlignOptions) :
    ofDataset spec dataset axis options = .error e := by
  simp only [ofDataset, h]
  rfl

/-- What is left of a chart once its description is in order. -/
theorem ofDataset_of_declared (h : spec.fault? = none) (dataset : Dataset) (axis : Option Axis)
    (options : AlignOptions) :
    ofDataset spec dataset axis options =
      match (Aligner.ofDataset dataset axis options).alignFields (spec.annotated dataset.data)
        spec.fields with
      | .error e => .error (.align e)
      | .ok frame => .ok (ofFrame spec (Aligner.ofDataset dataset axis options).axis frame) := by
  simp only [ofDataset, h]
  rfl

theorem exists_frame_of_ofDataset (h : ofDataset spec dataset axis options = .ok config) :
    ∃ frame, (Aligner.ofDataset dataset axis options).alignFields (spec.annotated dataset.data)
      spec.fields = .ok frame ∧
        config = ofFrame spec (Aligner.ofDataset dataset axis options).axis frame := by
  cases hfault : spec.fault? with
  | some e => rw [ofDataset_of_fault hfault] at h; cases h
  | none =>
    rw [ofDataset_of_declared hfault] at h
    cases hframe : (Aligner.ofDataset dataset axis options).alignFields
        (spec.annotated dataset.data) spec.fields with
    | error e => rw [hframe] at h; cases h
    | ok frame => rw [hframe] at h; exact ⟨frame, rfl, (Except.ok.inj h).symm⟩

theorem declares_of_ofDataset (h : ofDataset spec dataset axis options = .ok config) :
    ∀ s ∈ spec.series, spec.Declares s := by
  cases hfault : spec.fault? with
  | some e => rw [ofDataset_of_fault hfault] at h; cases h
  | none => exact (ChartSpec.fault?_eq_none_iff.mp hfault).2

theorem ofDataset_eq_error_iff {e : ChartError} :
    ofDataset spec dataset axis options = .error e ↔
      ChartFault spec ((Aligner.ofDataset dataset axis options).alignFields
        (spec.annotated dataset.data) spec.fields) e := by
  constructor
  · intro h
    by_cases hseries : spec.series = []
    · rw [ofDataset_of_fault (e := .noSeries) (by simp [ChartSpec.fault?, hseries])] at h
      exact Except.error.inj h ▸ .noSeries hseries
    by_cases haxes : ∀ s ∈ spec.series, spec.Declares s
    · rw [ofDataset_of_declared (ChartSpec.fault?_eq_none_iff.mpr ⟨hseries, haxes⟩)] at h
      cases haligned : (Aligner.ofDataset dataset axis options).alignFields
          (spec.annotated dataset.data) spec.fields with
      | error e' =>
        rw [haligned] at h
        exact Except.error.inj h ▸ .align hseries haxes rfl
      | ok frame => rw [haligned] at h; cases h
    · obtain ⟨i, s, hi, hs, hbefore⟩ := exists_first_not haxes
      rw [ofDataset_of_fault (ChartSpec.fault?_of_undeclared hi hbefore hs)] at h
      exact Except.error.inj h ▸ .unknownAxis hi hbefore hs
  · intro h
    cases h with
    | noSeries h => exact ofDataset_of_fault (by simp [ChartSpec.fault?, h]) dataset axis options
    | unknownAxis hi hbefore h =>
      exact ofDataset_of_fault (ChartSpec.fault?_of_undeclared hi hbefore h) dataset axis options
    | align hseries haxes h =>
      rw [ofDataset_of_declared (ChartSpec.fault?_eq_none_iff.mpr ⟨hseries, haxes⟩), h]

/-- How a chart shows a series of records that are aligned to a frame. -/
structure Shows (config : ChartConfig) (a : Aligner) (records : List Record) (frame : AlignedFrame)
    (s : SeriesSpec) (d : ChartDataset) : Prop where
  drawn : d = s.withData d.data
  column : frame.column? s.field = some d.data
  alone : a.align records s.field = .ok ⟨config.labels, d.data⟩
  length : d.data.length = config.labels.length
  axis : ∃ y ∈ config.yAxes, y.id = d.yAxisId

/-- A chart is refused for the first thing that is wrong with it. Otherwise it has one dataset for
each series, in order, with the values of its field alone, one for each label, against an axis of
the chart; and its horizontal axis is of the kind of its labels, and is written so: as one of time in
units of the period, or as one of categories. -/
theorem series_of_ofDataset (spec : ChartSpec) (dataset : Dataset) (axis : Option Axis)
    (options : AlignOptions) :
    let a := Aligner.ofDataset dataset axis options
    let records := spec.annotated dataset.data
    let aligned := a.alignFields records (spec.series.map (·.field)).eraseDups
    (∀ e, ofDataset spec dataset axis options = .error e ↔ ChartFault spec aligned e) ∧
    ((∃ config, ofDataset spec dataset axis options = .ok config) ↔
      ∀ e, ¬ ChartFault spec aligned e) ∧
    ∀ config, ofDataset spec dataset axis options = .ok config →
      ∃ frame, aligned = .ok frame ∧ config.labels = frame.labels ∧
        List.Forall₂ (config.Shows a records frame) spec.series config.datasets ∧
        ((∃ p, a.axis = .calendar p ∧ config.xScale = .time p) ↔
          ∀ l ∈ config.labels, ∃ t, l = .instant t) ∧
        (config.xScale = .category ↔ ∀ l ∈ config.labels, ∃ i, l = .index i) ∧
        ∃ x, config.toJson.at? ["options", "scales", "xAxes"] = some (.array [x]) ∧
          ((∃ p, a.axis = .calendar p ∧ IsTimeAxis x p) ↔
            ∀ l ∈ config.labels, ∃ t, l = .instant t) ∧
          (IsCategoryAxis x ↔ ∀ l ∈ config.labels, ∃ i, l = .index i) := by
  intro a records aligned
  have herror : ∀ e, ofDataset spec dataset axis options = .error e ↔
      ChartFault spec aligned e := by
    intro e
    rw [ofDataset_eq_error_iff, spec.fields_eq]
  refine ⟨herror, ?_, ?_⟩
  · simp only [← herror]
    cases ofDataset spec dataset axis options <;> simp
  · intro config h
    obtain ⟨frame, hframe, rfl⟩ := exists_frame_of_ofDataset h
    obtain ⟨htime, hcategory⟩ := Aligner.xScale_iff_of_alignFields hframe
    refine ⟨frame, by rw [← hframe, spec.fields_eq], rfl, ?_, htime, hcategory, _, at_xAxes _, ?_⟩
    · rw [ofFrame, List.forall₂_map_right_iff, List.forall₂_same]
      intro s hs
      have hcolumn := Aligner.column?_of_alignFields hframe (ChartSpec.field_mem_fields hs)
      obtain ⟨y, hy, hid⟩ := declares_of_ofDataset h s hs
      rw [hcolumn, Option.getD_some]
      exact ⟨rfl, hcolumn, Aligner.align_of_alignFields hframe (ChartSpec.field_mem_fields hs),
        List.length_map _, y.toYAxis, List.mem_map_of_mem hy, hid⟩
    · simp only [XScale.isTimeAxis_iff, XScale.isCategoryAxis_iff]
      exact ⟨htime, hcategory⟩

/-- A bar and a line over the same field by days, and two axes with the same id. -/
theorem series_of_bar_and_line :
    let bar : SeriesSpec := ⟨.bar, "Rain", "rain", "y", "blue", none, false⟩
    let y : AxisSpec := ⟨"y", .left, "Rain", "mm"⟩
    let spec : ChartSpec := ⟨"Rain", false, [bar, { bar with kind := .line }], [y, y], none⟩
    let records := [(Record.new (.number 3600)).set "rain" (some 1),
      (Record.new (.number 180000)).set "rain" none]
    let dataset : Dataset := ⟨none, none, some .day, records⟩
    ∃ config frame, ofDataset spec dataset none default = .ok config ∧
      List.Forall₂ (config.Shows (.ofDataset dataset none default) records frame) spec.series
        config.datasets ∧
      config.datasets.map (·.data) = [[some 1, none, none], [some 1, none, none]] ∧
      ∃ x, config.toJson.at? ["options", "scales", "xAxes"] = some (.array [x]) ∧
        x.at? ["type"] = some (.text "time") ∧ x.at? ["time", "unit"] = some (.text "day") := by
  intro bar y spec records dataset
  obtain ⟨config, h, hdata⟩ : ∃ config, ofDataset spec dataset none default = .ok config ∧
      config.datasets.map (·.data) = [[some 1, none, none], [some 1, none, none]] := by
    exact ⟨_, rfl, rfl⟩
  obtain ⟨frame, haligned, hlabels, hshows, -, -, x, hx, htime, -⟩ :=
    (series_of_ofDataset spec dataset none default).2.2 config h
  obtain ⟨p, hp, haxis⟩ := htime.mpr (hlabels ▸ Aligner.exists_instant_of_label rfl haligned)
  cases hp
  exact ⟨config, frame, h, hshows, hdata, x, hx, haxis.type, haxis.unit⟩

end ChartConfig

end Meteogram
