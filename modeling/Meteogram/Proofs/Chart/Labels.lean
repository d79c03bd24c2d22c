import Meteogram.Chart.ConfigText
import Meteogram.Proofs.Calendar.Written
import Meteogram.Proofs.Chart.Assembly

/-!
# Written labels

A label is written as a timestamp or as the number of a slot, and read as what is written: a
timestamp does not show the fraction of a second. Labels that differ in nothing else are written
alike. Buckets of a stepped calendar begin without a fraction, so only the raw calendar, on which
every instant is a bucket, has such labels.
-/
namespace Meteogram

namespace Instant

theorem withoutFraction_mono {a b : Instant} (h : a ≤ b) :
    a.withoutFraction ≤ b.withoutFraction := by
  rw [le_iff] at h ⊢
  simp only [withoutFraction]
  omega

end Instant

namespace Label

/-- The label without the fraction of its second. -/
def withoutFraction : Label → Label
  | instant t => .instant t.withoutFraction
  | index i => .index i

/-- The label that an entry of written labels denotes. -/
def ofJson? : Json.Value → Option Label
  | .text s => (Instant.read? s).map .instant
  | .integer n => some (.index n.toNat)
  | _ => none

/-- A written label is read as what it shows. -/
theorem ofJson?_toJson (l : Label) : ofJson? l.toJson = some l.withoutFraction := by
  cases l with
  | instant t => simp [toJson, ofJson?, withoutFraction, Instant.read?_iso]
  | index i => rfl

theorem toJson_eq_iff {a b : Label} :
    a.toJson = b.toJson ↔ a.withoutFraction = b.withoutFraction := by
  constructor
  · intro h
    have hread := congrArg ofJson? h
    rwa [ofJson?_toJson, ofJson?_toJson, Option.some.injEq] at hread
  · intro h
    have hshown (l : Label) : l.withoutFraction.toJson = l.toJson := by
      cases l with
      | instant t => exact congrArg Json.Value.text t.iso_withoutFraction
      | index i => rfl
    rw [← hshown a, h, hshown b]

instance (a b : Label) : Decidable (a < b) :=
  match a, b with
  | instant t, instant u => inferInstanceAs (Decidable (t < u))
  | index i, index j => inferInstanceAs (Decidable (i < j))
  | instant _, index _ => isFalse id
  | index _, instant _ => isFalse id

theorem irrefl (l : Label) : ¬ l < l := by
  cases l with
  | instant t => exact lt_irrefl t
  | index i => exact lt_irrefl i

/-- Written labels keep their order or become equal. -/
theorem withoutFraction_of_lt {a b : Label} (h : a < b) :
    a.withoutFraction < b.withoutFraction ∨ a.withoutFraction = b.withoutFraction := by
  cases a with
  | instant t =>
    cases b with
    | instant u =>
      have hle : t.withoutFraction ≤ u.withoutFraction :=
        Instant.withoutFraction_mono (le_of_lt (show t < u from h))
      exact (lt_or_eq_of_le hle).imp id (congrArg Label.instant)
    | index j => exact h.elim
  | index i =>
    cases b with
    | instant u => exact h.elim
    | index j => exact .inl h

end Label

namespace Aligner

variable {a : Aligner} {records : List Record} {fields : List String} {frame : AlignedFrame}

/-- The labels of a frame stand in strictly increasing order. -/
theorem increasing_of_alignFields (h : a.alignFields records fields = .ok frame) :
    frame.labels.Pairwise (· < ·) := by
  obtain ⟨κ, _, s, hs⟩ := exists_laysOn (axisFault?_of_alignFields h)
  rw [hs.alignFields_eq] at h
  obtain ⟨first, rest, w, hal⟩ := Scale.isAligned_of_align hs.lawful h
  have hincreasing := (hal.laidOut hs.lawful).increasing
  rw [hal.frame_eq, AlignedFrame.ofSlots, List.pairwise_map]
  rw [List.pairwise_map] at hincreasing
  exact hincreasing.imp fun hab => (hs.lawful.label_lt _ _).mpr hab

/-- Only the raw calendar has labels with a fraction. -/
theorem map_withoutFraction_of_alignFields (ha : a.axis ≠ .calendar .raw)
    (h : a.alignFields records fields = .ok frame) :
    frame.labels.map Label.withoutFraction = frame.labels := by
  refine (List.map_congr_left fun l hl => ?_).trans (List.map_id _)
  cases haxis : a.axis with
  | index range =>
    obtain ⟨i, rfl⟩ := exists_index_of_label haxis h l hl
    rfl
  | calendar p =>
    have hp : p.isStepped = true := Period.isStepped_of_ne_raw (by rintro rfl; exact ha haxis)
    obtain ⟨-, -, buckets, -, -, hlabels, hstart, -⟩ := exists_run_of_alignFields haxis hp h
    rw [hlabels] at hl
    obtain ⟨t, ht, rfl⟩ := List.mem_map.mp hl
    have hfraction : t.fraction = 0 := by rw [Instant.fraction, (hstart t ht).nano_eq]
    exact congrArg Label.instant (Instant.withoutFraction_eq_self_iff.mpr hfraction)

end Aligner

namespace ChartConfig

variable {spec : ChartSpec} {dataset : Dataset} {axis : Option Axis} {options : AlignOptions}
  {config : ChartConfig}

/-- Labels in strictly increasing order are written in the same order, and some of them alike if
they differ in nothing that is shown. -/
theorem nodup_written_iff {labels : List Label} (h : labels.Pairwise (· < ·)) :
    (labels.map (·.toJson)).Nodup ↔ (labels.map Label.withoutFraction).Pairwise (· < ·) := by
  rw [List.Nodup, List.pairwise_map, List.pairwise_map]
  constructor
  · intro hnodup
    refine (h.and hnodup).imp fun hab => ?_
    exact (Label.withoutFraction_of_lt hab.1).resolve_right (mt Label.toJson_eq_iff.mpr hab.2)
  · intro hlt
    refine hlt.imp fun {a b} hab heq => ?_
    rw [Label.toJson_eq_iff.mp heq] at hab
    exact Label.irrefl _ hab

/-- The labels of a chart are written so that each is read as itself without the fraction of its
second. They are written in their order, and differ unless two of them lie in one shown second. That
happens only where raw observations do. -/
theorem written_labels_of_ofDataset (h : ofDataset spec dataset axis options = .ok config) :
    let a := Aligner.ofDataset dataset axis options
    let written := config.labels.map (·.toJson)
    let shown := config.labels.map Label.withoutFraction
    config.labels.Pairwise (· < ·) ∧
    written.map Label.ofJson? = shown.map some ∧
    shown.Pairwise (fun l m => l < m ∨ l = m) ∧
    (written.Nodup ↔ shown.Pairwise (· < ·)) ∧
    (a.axis ≠ .calendar .raw → shown = config.labels ∧ written.Nodup) ∧
    (a.axis = .calendar .raw → (written.Nodup ↔
      ∀ r ∈ dataset.data, ∀ r' ∈ dataset.data, ∀ t t', a.instant? r.time = some t →
        a.instant? r'.time = some t' → t.withoutFraction = t'.withoutFraction → t = t')) := by
  intro a written shown
  obtain ⟨frame, hframe, rfl⟩ := exists_frame_of_ofDataset h
  have hincreasing : frame.labels.Pairwise (· < ·) := Aligner.increasing_of_alignFields hframe
  have hnodup := nodup_written_iff hincreasing
  refine ⟨hincreasing, ?_, ?_, hnodup, ?_, ?_⟩
  · simp only [written, shown, List.map_map, Function.comp_def, Label.ofJson?_toJson]
  · exact List.pairwise_map.mpr (hincreasing.imp Label.withoutFraction_of_lt)
  · intro ha
    have hshown : shown = frame.labels := Aligner.map_withoutFraction_of_alignFields ha hframe
    refine ⟨hshown, hnodup.mpr ?_⟩
    change shown.Pairwise (· < ·)
    rw [hshown]
    exact hincreasing
  · intro ha
    obtain ⟨instants, hinstants, hlabels⟩ := Aligner.instants_of_alignFields ha hframe
    have hmem (t : Instant) : t ∈ instants ↔ ∃ r ∈ dataset.data, a.instant? r.time = some t := by
      have htimes := congrArg (List.map a.instant?) (spec.map_time_annotated dataset.data)
      rw [List.map_map, List.map_map] at htimes
      rw [← List.mem_map_of_injective (Option.some_injective _), ← hinstants]
      change _ ∈ (spec.annotated dataset.data).map (a.instant? ∘ (·.time)) ↔ _
      rw [htimes, List.mem_map]
      rfl
    have hwritten : written = instants.dedup.map fun t => (Label.instant t).toJson := by
      simp only [written, ofFrame, hlabels, List.map_map, Function.comp_def]
    rw [hwritten, List.nodup_map_iff_inj_on (List.nodup_dedup instants)]
    simp only [List.mem_dedup, hmem, Label.toJson_eq_iff, Label.withoutFraction,
      Label.instant.injEq]
    constructor
    · intro hdistinct r hr r' hr' t t' ht ht' heq
      exact hdistinct t ⟨r, hr, ht⟩ t' ⟨r', hr', ht'⟩ heq
    · rintro hdistinct t ⟨r, hr, ht⟩ t' ⟨r', hr', ht'⟩ heq
      exact hdistinct r hr r' hr' t t' ht ht' heq

/-- A chart of raw observations at the given instants. -/
def ofInstants (instants : List Instant) : Except ChartError ChartConfig :=
  ofDataset ⟨"Rain", false, [⟨.line, "Rain", "rain", "y", "blue", none, false⟩],
      [⟨"y", .left, "Rain", "mm"⟩], none⟩
    ⟨none, none, none, instants.map fun t => (Record.new (.instant t)).set "rain" (some 1)⟩
    none default

/-- Half a second before a leap second, in it, and after it. -/
theorem written_labels_of_leap_second :
    let instants : List Instant := [⟨1483228799, 500000000, by decide, by decide, by decide⟩,
      ⟨1483228799, 1250000000, by decide, by decide, by decide⟩,
      ⟨1483228800, 0, by decide, by decide, by decide⟩]
    ∃ config, ofInstants instants = .ok config ∧ config.labels = instants.map .instant ∧
      config.labels.map (·.text) =
        ["2016-12-31T23:59:59", "2016-12-31T23:59:60", "2017-01-01T00:00:00"] ∧
      (config.labels.map (·.toJson)).Nodup ∧
      (config.labels.map (·.toJson)).map Label.ofJson? =
        (config.labels.map Label.withoutFraction).map some := by
  intro instants
  obtain ⟨config, h, hlabels, htexts⟩ : ∃ config, ofInstants instants = .ok config ∧
      config.labels = instants.map .instant ∧ config.labels.map (·.text) =
        ["2016-12-31T23:59:59", "2016-12-31T23:59:60", "2017-01-01T00:00:00"] :=
    ⟨_, rfl, rfl, by decide +kernel⟩
  obtain ⟨-, hread, -, hnodup, -, -⟩ := written_labels_of_ofDataset h
  refine ⟨config, h, hlabels, htexts, hnodup.mpr ?_, hread⟩
  rw [hlabels]
  decide +kernel

/-- Two observations within one second have two labels that are written alike. -/
theorem written_labels_of_one_second :
    ∃ config, ofInstants [⟨1704067200, 100000000, by decide, by decide, by decide⟩,
        ⟨1704067200, 200000000, by decide, by decide, by decide⟩] = .ok config ∧
      config.labels.Nodup ∧
      config.labels.map (·.toJson) =
        [.text "2024-01-01T00:00:00", .text "2024-01-01T00:00:00"] ∧
      ¬ (config.labels.map (·.toJson)).Nodup := by
  refine ⟨_, rfl, by decide +kernel, rfl, fun h => ?_⟩
  exact (List.nodup_cons.mp h).1 List.mem_cons_self

end ChartConfig

end Meteogram
