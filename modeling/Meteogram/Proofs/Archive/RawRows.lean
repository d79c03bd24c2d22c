import Meteogram.Proofs.Align.Faults
import Meteogram.Proofs.Archive.BuiltIn
import Meteogram.Proofs.Archive.Rows

/-!
# Raw rows of archives

A query that does not aggregate sorts the rows of its window by their stamps. Picking rows of a frame
picks their records, so that no row is lost, doubled or mixed with another one. Epoch seconds that do
not decrease have buckets that do not decrease, whatever the period and the clock, so a chart of raw
rows on a calendar is never refused for their order.
-/
namespace Meteogram

/-- Where a function is defined on a whole list, what it selects is its image. -/
theorem eq_filterMap_of_map_some {α β : Type} {l : List α} {l' : List β} {f : β → Option α}
    (h : l.map some = l'.map f) : l = l'.filterMap f := by
  have hsome := congrArg (List.filterMap id) h
  simpa [List.filterMap_map, Function.comp_def] using hsome

theorem exists_map_some {α : Type} {l : List (Option α)} {l' : List α} (h : l.Perm (l'.map some)) :
    ∃ l'' : List α, l = l''.map some := by
  have hsome : ∀ x ∈ l, x.isSome = true := by
    intro x hx
    obtain ⟨a, -, rfl⟩ := List.mem_map.mp (h.mem_iff.mp hx)
    rfl
  refine ⟨l.filterMap id, ?_⟩
  rw [List.map_filterMap_some_eq_filter_map_isSome, List.map_id, List.filter_eq_self.mpr hsome]

theorem eq_filterMap_range {α : Type} (l : List α) :
    l = (List.range l.length).filterMap (l[·]?) := by
  apply eq_filterMap_of_map_some
  apply List.ext_getElem
  · simp
  · intro i hi _
    rw [List.length_map] at hi
    simp [List.getElem?_eq_getElem hi]

/-! Stamps are in a linear order with the missing ones first. -/

namespace CellType

theorem before?_some {a b : Int64} : int64.before? (some b) (some a) = false ↔ a ≤ b := by
  rw [before?, before, decide_eq_false_iff_not, Int64.not_lt]

theorem before?_trans {a b c : Option Int64} (hab : int64.before? b a = false)
    (hbc : int64.before? c b = false) : int64.before? c a = false := by
  cases a with
  | none => cases c <;> rfl
  | some a =>
    cases b with
    | none => cases hab
    | some b =>
      cases c with
      | none => cases hbc
      | some c =>
        rw [before?_some] at *
        exact Int64.le_trans hab hbc

theorem before?_total (a b : Option Int64) :
    int64.before? b a = false ∨ int64.before? a b = false := by
  cases a with
  | none => cases b <;> simp [before?]
  | some a =>
    cases b with
    | none => exact .inr rfl
    | some b =>
      rw [before?_some, before?_some]
      exact Int64.le_total a b

end CellType

theorem Column.pick_range (c : Column) : c.pick (List.range c.cells.length) = c := by
  rw [pick, map_cell]

theorem Column.cell_pick (c : Column) {rows : List ℕ} {i row : ℕ} (h : rows[i]? = some row) :
    (c.pick rows).cell i = c.cell row := by
  change ((rows.map c.cell)[i]?).join = c.cell row
  rw [List.getElem?_map, h, Option.map_some, Option.join_some]

namespace Frame

variable {f g : Frame} {name : String} {rows : List ℕ} {all picked : List Record}

/-- Records are made from columns alone. -/
theorem records_congr (h : f.columns = g.columns) (name : String) :
    f.records name = g.records name := by
  simp only [records, column?, fieldColumns, h]

theorem IsRecordOf.of_pick {i row : ℕ} {r : Record} (h : (f.pick rows).IsRecordOf name i r)
    (hi : rows[i]? = some row) : f.IsRecordOf name row r where
  time := by
    obtain ⟨c', hc', hname, ht⟩ := h.time
    obtain ⟨c, hc, rfl⟩ := List.mem_map.mp hc'
    refine ⟨c, hc, hname, ?_⟩
    rwa [Column.HasTime, c.cell_pick hi] at ht
  has_iff field := by
    rw [h.has_iff]
    constructor
    · rintro ⟨c', hc', hname⟩
      obtain ⟨c, hc, rfl⟩ := List.mem_map.mp hc'
      exact ⟨c, hc, hname⟩
    · rintro ⟨c, hc, hname⟩
      exact ⟨c.pick rows, List.mem_map_of_mem hc, hname⟩
  get_eq c hc hname toFloat ht := by
    rw [← c.cell_pick hi]
    exact h.get_eq (c.pick rows) (List.mem_map_of_mem hc) hname toFloat ht

/-- Picked rows have the records of the rows that are picked. -/
theorem records_pick (hall : f.records name = .ok all)
    (hpicked : (f.pick rows).records name = .ok picked) (hrows : ∀ row ∈ rows, row < f.height) :
    picked = rows.filterMap (all[·]?) := by
  have hlength : picked.length = rows.length := length_of_records hpicked
  apply eq_filterMap_of_map_some
  apply List.ext_getElem
  · simpa using hlength
  · intro i hi hi'
    rw [List.length_map] at hi hi'
    have hrow : rows[i] < all.length := by
      rw [length_of_records hall]
      exact hrows _ (List.getElem_mem hi')
    have hpick := (isRecordOf_of_records hpicked (List.getElem?_eq_getElem hi)).of_pick
      (List.getElem?_eq_getElem hi')
    rw [List.getElem_map, List.getElem_map, List.getElem?_eq_getElem hrow,
      hpick.unique (isRecordOf_of_records hall (List.getElem?_eq_getElem hrow))]

variable {stamps : List Int64}

/-- A frame with stamps in all rows has records, and these are their times. -/
theorem HasStamps.exists_records (h : f.HasStamps (stamps.map some)) :
    ∃ records, f.records timeName = .ok records ∧ records.map (·.time) = stamps.map .number := by
  refine Frame.exists_records h rfl ?_
  simp only [List.map_map]
  rfl

theorem HasStamps.length_eq (h : f.HasStamps (stamps.map some)) : stamps.length = f.height := by
  rw [← f.height_eq _ (mem_of_column? h), List.length_map]

theorem pairwise_rowsInOrder (stamps : List (Option Int64)) :
    ((rowsInOrder ⟨timeName, .int64, stamps⟩).map (Column.cell ⟨timeName, .int64, stamps⟩)).Pairwise
      fun a b => CellType.int64.before? b a = false := by
  rw [List.pairwise_map]
  refine (List.pairwise_mergeSort ?_ ?_ (List.range stamps.length)).imp fun h => by simpa using h
  · intro a b c hab hbc
    rw [Bool.not_eq_true'] at *
    exact CellType.before?_trans hab hbc
  · intro a b
    rw [Bool.or_eq_true, Bool.not_eq_true', Bool.not_eq_true']
    exact CellType.before?_total _ _

theorem perm_rowsInOrder (c : Column) : (rowsInOrder c).Perm (List.range c.cells.length) :=
  List.mergeSort_perm _ _

/-- Sorting by stamps picks every row once, and the stamps do not decrease. -/
theorem HasStamps.sortBy (h : f.HasStamps (stamps.map some)) :
    ∃ (order : List ℕ) (sorted : List Int64), f.sortBy timeName = .ok (f.pick order) ∧
      order.Perm (List.range f.height) ∧ (f.pick order).HasStamps (sorted.map some) ∧
      sorted.Pairwise (· ≤ ·) := by
  have hperm := perm_rowsInOrder ⟨timeName, .int64, stamps.map some⟩
  have hheight : (stamps.map some).length = f.height := f.height_eq _ (mem_of_column? h)
  have hcells := hperm.map (Column.cell ⟨timeName, .int64, stamps.map some⟩)
  rw [Column.map_cell ⟨timeName, .int64, stamps.map some⟩] at hcells
  obtain ⟨sorted, hsorted⟩ := exists_map_some hcells
  have hpairwise := pairwise_rowsInOrder (stamps.map some)
  refine ⟨_, sorted, by rw [Frame.sortBy, h.column_eq]; rfl, hheight ▸ hperm, ?_, ?_⟩
  · rw [HasStamps, column?_pick, show f.column? timeName = some _ from h, Option.map_some]
    exact congrArg (fun cells => some (Column.mk timeName .int64 cells)) hsorted
  · rw [hsorted, List.pairwise_map] at hpairwise
    exact hpairwise.imp CellType.before?_some.mp

end Frame

namespace ArchiveQuery

variable {q : ArchiveQuery} {a : Archive} {f : Frame} {stamps : List Int64}

/-- Whether a time is inside all bounds that are given. -/
def admits (q : ArchiveQuery) : RecordTime → Bool
  | .number n => q.lower.all (· < n) && q.upper.all (n ≤ ·)
  | .instant _ => false

/-- The rows whose stamps are inside the bounds. -/
def rowsOf (q : ArchiveQuery) (stamps : List Int64) : List ℕ :=
  Frame.rowsWhere ⟨Frame.timeName, .int64, stamps.map some⟩ fun n => q.admits (.number n)

/-- The least number stands for a lower bound that is not given: no time of the calendar is there. -/
theorem insideWindow_getD {n : Int64} (hmin : Int64.minValue < n) :
    insideWindow (q.lower.getD Int64.minValue) (q.upper.getD Int64.maxValue) n.toInt =
      q.admits (.number n) := by
  have hl : decide ((q.lower.getD Int64.minValue).toInt < n.toInt) = q.lower.all (· < n) := by
    cases q.lower with
    | none => exact decide_eq_true (Int64.lt_iff_toInt_lt.mp hmin)
    | some l => exact decide_eq_decide.mpr Int64.lt_iff_toInt_lt.symm
  have hu : decide (n.toInt ≤ (q.upper.getD Int64.maxValue).toInt) = q.upper.all (n ≤ ·) := by
    cases q.upper with
    | none => exact decide_eq_true (Int64.le_iff_toInt_le.mp (Int64.le_maxValue n))
    | some u => exact decide_eq_decide.mpr Int64.le_iff_toInt_le.symm
  rw [insideWindow, hl, hu, admits]

theorem cell_map_some {row : ℕ} (h : row < stamps.length) :
    Column.cell ⟨Frame.timeName, .int64, stamps.map some⟩ row = some stamps[row] := by
  change ((stamps.map some)[row]?).join = _
  rw [List.getElem?_map, List.getElem?_eq_getElem h, Option.map_some, Option.join_some]

theorem rowsWhere_eq_rowsOf (hmin : ∀ n ∈ stamps, Int64.minValue < n) :
    Frame.rowsWhere ⟨Frame.timeName, .int64, stamps.map some⟩ (fun n =>
      insideWindow (q.lower.getD Int64.minValue) (q.upper.getD Int64.maxValue) n.toInt) =
        q.rowsOf stamps := by
  refine List.filter_congr fun row hrow => ?_
  have hlt : row < stamps.length := by simpa using hrow
  rw [cell_map_some hlt]
  exact insideWindow_getD (hmin _ (List.getElem_mem hlt))

theorem rowsOf_of_unbounded (hl : q.lower = none) (hu : q.upper = none) :
    q.rowsOf stamps = List.range stamps.length := by
  rw [rowsOf, Frame.rowsWhere, List.length_map, List.filter_eq_self]
  intro row hrow
  rw [cell_map_some (List.mem_range.mp hrow), Option.any_some, admits, hl, hu]
  rfl

/-- The records of the rows that are inside the bounds. -/
theorem filterMap_rowsOf {all : List Record} (h : all.map (·.time) = stamps.map .number) :
    (q.rowsOf stamps).filterMap (all[·]?) = all.filter (q.admits ·.time) := by
  have hlength : all.length = stamps.length := by simpa using congrArg List.length h
  conv_rhs => rw [eq_filterMap_range all]
  rw [rowsOf, Frame.rowsWhere, List.filterMap_filter, List.filter_filterMap, List.length_map,
    hlength]
  refine List.filterMap_congr fun row hrow => ?_
  have hlt : row < stamps.length := List.mem_range.mp hrow
  have htime := List.getElem_of_eq h (show row < (all.map (·.time)).length by simpa [hlength])
  rw [List.getElem_map, List.getElem_map] at htime
  rw [cell_map_some hlt, List.getElem?_eq_getElem (hlength ▸ hlt), Option.any_some, ← htime]
  rfl

/-- A query leaves the rows that it admits, in their order. -/
theorem exists_cut_pick (q : ArchiveQuery) (hf : a.frame = .ok f)
    (h : f.HasStamps (stamps.map some)) (hmin : ∀ n ∈ stamps, Int64.minValue < n) :
    ∃ g, q.cut a = .ok g ∧ g.columns = (f.pick (q.rowsOf stamps)).columns := by
  by_cases hbounds : q.lower = none ∧ q.upper = none
  · refine ⟨f, (cut_of_unbounded hbounds.1 hbounds.2 a).trans hf, ?_⟩
    rw [rowsOf_of_unbounded hbounds.1 hbounds.2, h.length_eq]
    refine (List.map_id f.columns).symm.trans (List.map_congr_left fun c hc => ?_)
    rw [← f.height_eq c hc, c.pick_range]
    rfl
  · refine ⟨f.keep (q.rowsOf stamps), ?_, rfl⟩
    rw [cut_of_bounded hbounds, Archive.window_of_hasStamps hf h, Frame.window, h.column_eq,
      ← rowsWhere_eq_rowsOf hmin]
    rfl

theorem hasStamps_of_cut {g : Frame} (h : f.HasStamps (stamps.map some))
    (hcolumns : g.columns = (f.pick (q.rowsOf stamps)).columns) :
    g.HasStamps ((stamps.filter fun n => q.admits (.number n)).map some) := by
  have hcells := Column.map_cell_rowsWhere ⟨Frame.timeName, .int64, stamps.map some⟩
    fun n => q.admits (.number n)
  rw [List.filter_map] at hcells
  have hcolumn : g.column? Frame.timeName = (f.pick (q.rowsOf stamps)).column? Frame.timeName := by
    rw [Frame.column?, hcolumns, Frame.column?]
  rw [Frame.HasStamps, hcolumn, Frame.column?_pick, show f.column? Frame.timeName = some _ from h,
    Option.map_some]
  exact congrArg (fun cells => some (Column.mk Frame.timeName .int64 cells)) hcells

/-- A query that does not aggregate has the records of the rows that it admits, each once, and their
times do not decrease. -/
theorem exists_records (q : ArchiveQuery) (hf : a.frame = .ok f)
    (h : f.HasStamps (stamps.map some)) (hmin : ∀ n ∈ stamps, Int64.minValue < n)
    {all : List Record} (hall : f.records Frame.timeName = .ok all)
    (htimes : all.map (·.time) = stamps.map .number) :
    ∃ (cut buckets : Frame) (records : List Record) (times : List Int64),
      q.cut a = .ok cut ∧ cut.sortBy Frame.timeName = .ok buckets ∧
      buckets.records Frame.timeName = .ok records ∧
      records.Perm (all.filter (q.admits ·.time)) ∧ records.map (·.time) = times.map .number ∧
      times.Pairwise (· ≤ ·) := by
  obtain ⟨cut, hcut, hcolumns⟩ := q.exists_cut_pick hf h hmin
  have hkept := hasStamps_of_cut h hcolumns
  obtain ⟨kept, hkeptRecords, -⟩ := hkept.exists_records
  have hkept_eq : kept = all.filter (q.admits ·.time) := by
    rw [← filterMap_rowsOf htimes]
    refine Frame.records_pick hall (by rw [← Frame.records_congr hcolumns, hkeptRecords]) ?_
    intro row hrow
    rw [← h.length_eq]
    simpa using (List.mem_filter.mp hrow).1
  obtain ⟨order, times, hsort, hperm, hsorted, hpairwise⟩ := hkept.sortBy
  obtain ⟨records, hrecords, hrecordTimes⟩ := hsorted.exists_records
  refine ⟨cut, _, records, times, hcut, hsort, hrecords, ?_, hrecordTimes, hpairwise⟩
  have hlength : kept.length = cut.height := Frame.length_of_records hkeptRecords
  have hpicked := Frame.records_pick hkeptRecords hrecords fun row hrow =>
    List.mem_range.mp (hperm.mem_iff.mp hrow)
  rw [hpicked, ← hkept_eq]
  conv_rhs => rw [eq_filterMap_range kept]
  exact (hlength ▸ hperm).filterMap _

end ArchiveQuery

namespace Aligner

variable {a : Aligner} {p : Period}

/-- A later epoch second has no earlier bucket. -/
theorem not_lt_of_bucketOf? (ha : a.axis = .calendar p) {m n : Int64} {b c : Label} (h : m ≤ n)
    (hb : a.bucketOf? (.number m) = some b) (hc : a.bucketOf? (.number n) = some c) : ¬ c < b := by
  simp only [bucketOf?, ha, Option.map_eq_some_iff] at hb hc
  obtain ⟨t, ht, rfl⟩ := hb
  obtain ⟨u, hu, rfl⟩ := hc
  obtain ⟨u', hu', hle, -⟩ := Offset.exists_instantOf? ht hu (Int64.le_iff_toInt_le.mp h) le_rfl
  rw [show a.options.offset.instantOf? n.toInt = some u from hu, Option.some.injEq] at hu'
  subst hu'
  exact (p.truncate_mono hle).not_gt

/-- Epoch seconds that do not decrease are never refused for their order on a calendar. -/
theorem alignFields_ne_unsorted (ha : a.axis = .calendar p) {records : List Record}
    {times : List Int64} (htimes : records.map (·.time) = times.map .number)
    (hsorted : times.Pairwise (· ≤ ·)) (fields : List String) (position : ℕ) :
    a.alignFields records fields ≠ .error (.unsorted position) := by
  intro h
  cases hfault : a.axisFault? with
  | some e =>
    rw [alignFields_of_axisFault hfault, Except.error.injEq] at h
    subst h
    rcases axisFault?_cases hfault with h | ⟨text, h⟩ | ⟨text, h⟩ <;> cases h
  | none =>
    have hs := laysOn_calendarScale ha hfault
    rw [hs.alignFields_eq, Scale.align_eq_error_iff hs.lawful hs.bucketOf_error,
      ← hs.bucketOf?_eq] at h
    generalize he : AlignError.unsorted position = e at h
    cases h with
    | noRecord h => cases he
    | unknownField hr hi hbefore h => cases he
    | noBucket hf hi hbefore h =>
      simp only [timeError, ha] at he
      rcases a.lack_cases _ (.invalidTime _) with h | h <;> rw [h] at he <;> cases he
    | @misplaced hf buckets hb i b c hi hi' hbefore _ h =>
      cases h with
      | again hp h => cases he
      | earlier hlt =>
        have hbuckets : times.map (fun n => a.bucketOf? (.number n)) = buckets.map some := by
          rw [← hb, ← Function.comp_def, ← List.map_map, ← htimes, List.map_map]
          rfl
        have htime {j : ℕ} {l : Label} (hj : buckets[j]? = some l) :
            ∃ n, times[j]? = some n ∧ a.bucketOf? (.number n) = some l := by
          have hmap := congrArg (·[j]?) hbuckets
          simpa [hj] using hmap
        obtain ⟨m, hm, hb'⟩ := htime hi
        obtain ⟨n, hn, hc'⟩ := htime hi'
        obtain ⟨hmlt, rfl⟩ := List.getElem?_eq_some_iff.mp hm
        obtain ⟨hnlt, rfl⟩ := List.getElem?_eq_some_iff.mp hn
        have hle := List.pairwise_iff_getElem.mp hsorted i (i + 1) hmlt hnlt (Nat.lt_succ_self i)
        exact not_lt_of_bucketOf? ha hle hb' hc' hlt

end Aligner

namespace View

variable {v : View} {files : String → Option FileContent} {q : ArchiveQuery}

/-- Records in the order of their epoch seconds are never refused for their order by a chart on a
calendar. -/
theorem chart_ne_unsorted {dataset : Dataset} {times : List Int64}
    (htimes : dataset.data.map (·.time) = times.map .number) (hsorted : times.Pairwise (· ≤ ·))
    (v : View) (spec : ChartSpec) {axis : Option Axis}
    (haxis : ∀ range, axis ≠ some (.index range)) (position : ℕ) :
    v.chart spec dataset axis ≠ .error (.chart (.align (.unsorted position))) := by
  obtain ⟨p, hp⟩ : ∃ p, (Aligner.ofDataset dataset axis v.settings.alignOptions).axis =
      .calendar p := by
    cases axis with
    | none => exact ⟨dataset.period, rfl⟩
    | some axis =>
      cases axis with
      | calendar p => exact ⟨p, rfl⟩
      | index range => exact absurd rfl (haxis range)
  intro h
  cases hconfig : ChartConfig.ofDataset spec dataset axis v.settings.alignOptions with
  | ok config => rw [chart, hconfig] at h; cases h
  | error e =>
    rw [chart, hconfig] at h
    cases h
    cases ChartConfig.ofDataset_eq_error_iff.mp hconfig with
    | align hseries haxes h =>
      exact Aligner.alignFields_ne_unsorted hp ((spec.map_time_annotated _).trans htimes) hsorted
        spec.fields position h

/-- Raw rows of an archive are always ready for a chart. A query that does not aggregate has the
records of exactly those rows whose stamps are inside its bounds, each once, in the order of their
stamps; and no chart of them on a calendar, with any settings, is refused for their order. -/
theorem archiveDataset_of_raw {path : String} {archive : Archive} {frame : Frame}
    {stamps : List Int64} (hraw : q.period = .raw) (hpath : v.settings.archivePath = some path)
    (harchive : Archive.load ⟨path, files path⟩ = .ok archive) (hframe : archive.frame = .ok frame)
    (hstamps : frame.HasStamps (stamps.map some))
    (hcalendar : ∀ n ∈ stamps, ∃ (offset : Offset) (t : Instant),
      offset.instantOf? n.toInt = some t) :
    ∃ (all : List Record) (dataset : Dataset) (times : List Int64),
      frame.records Frame.timeName = .ok all ∧
      all.map (·.time) = stamps.map .number ∧ v.archiveDataset files q = .ok dataset ∧
      dataset.data.Perm (all.filter (q.admits ·.time)) ∧
      dataset.data.map (·.time) = times.map .number ∧ times.Pairwise (· ≤ ·) ∧
      ∀ (other : View) (spec : ChartSpec) (axis : Option Axis),
        (∀ range, axis ≠ some (.index range)) → ∀ position,
          other.chart spec dataset axis ≠ .error (.chart (.align (.unsorted position))) := by
  have hmin : ∀ n ∈ stamps, Int64.minValue < n := by
    intro n hn
    obtain ⟨offset, t, ht⟩ := hcalendar n hn
    have hlo := (Offset.instantOf?_eq_some.mp ht).2.1
    simp only [minSecond, Date.minDay] at hlo
    rw [Int64.lt_iff_toInt_lt, Int64.toInt_minValue]
    omega
  obtain ⟨all, hall, htimes⟩ := hstamps.exists_records
  obtain ⟨cut, buckets, records, times, hcut, hbuckets, hrecords, hperm, hrecordTimes, hsorted⟩ :=
    q.exists_records hframe hstamps hmin hall htimes
  have hbucketing : q.bucketing? v.settings.utcOffset = some (·.sortBy Frame.timeName) := by
    rw [ArchiveQuery.bucketing?, hraw]
  exact ⟨all, _, times, hall, htimes,
    exists_archiveDataset hpath harchive hbucketing hcut hbuckets hrecords, hperm, hrecordTimes,
    hsorted, fun other spec axis haxis => chart_ne_unsorted hrecordTimes hsorted other spec haxis⟩

/-- Four rows in no order, two of them at one time and one after the only bound. -/
theorem archiveDataset_of_four_rows :
    let frame : Frame :=
      { columns := [⟨"time", .int64,
            [some 1704240000, some 1704153600, some 1704326400, some 1704240000]⟩,
          ⟨"temp", .double, [some 4.5, none, some 5, some 6.25]⟩]
        height := 4
        height_eq := by simp
        distinct := by decide }
    let files (_ : String) := some (FileContent.frame frame)
    let v : View := ⟨⟨⟨3600, by decide⟩, .reject, none, some "station.parquet"⟩⟩
    let q : ArchiveQuery := ⟨.raw, none, some 1704240000⟩
    ∃ dataset, v.archiveDataset files q = .ok dataset ∧ dataset.data.length = 3 ∧
      ∀ spec position, v.chart spec dataset (some (.calendar .day)) ≠
        .error (.chart (.align (.unsorted position))) := by
  intro frame files v q
  have hformat : ArchiveFile.format? "station.parquet" = some .parquet := by decide +kernel
  have hload : Archive.load ⟨"station.parquet", files "station.parquet"⟩ =
      .ok ⟨.parquet, .ok frame⟩ := by
    simp only [Archive.load, files, hformat]
  let stamps : List Int64 := [1704240000, 1704153600, 1704326400, 1704240000]
  have hcalendar : ∀ n ∈ stamps, ∃ (offset : Offset) (t : Instant),
      offset.instantOf? n.toInt = some t := by
    have hsome : stamps.all (fun n => (v.settings.utcOffset.instantOf? n.toInt).isSome) = true := by
      decide +kernel
    exact fun n hn => ⟨_, Option.isSome_iff_exists.mp (List.all_eq_true.mp hsome n hn)⟩
  have hstamps : frame.HasStamps (stamps.map some) := rfl
  obtain ⟨all, dataset, times, -, hall, hdataset, hperm, -, -, hchart⟩ :=
    archiveDataset_of_raw (v := v) (q := q) rfl rfl hload rfl hstamps hcalendar
  refine ⟨dataset, hdataset, ?_, fun spec => hchart v spec _ nofun⟩
  have hcount : (all.filter (q.admits ·.time)).length =
      ((stamps.map RecordTime.number).filter q.admits).length := by
    rw [← hall, List.filter_map, List.length_map]
    rfl
  rw [hperm.length_eq, hcount]
  decide

end View

end Meteogram
