import Mathlib.Tactic
import Meteogram.Proofs.Archive.Cut
import Meteogram.Proofs.Archive.Extreme
import Meteogram.Proofs.Archive.Total

/-!
# Days of archives

A row of an archive belongs to the day on which an axis has the second before its stamp, and its day
has one row in the aggregate. This row summarises the rows of its day and no others, so that a total
over all days is the total over all rows.
-/
namespace Meteogram

/-! ### Dates of rows -/

/-- The date that a day counts. -/
def DayKey.date? (key : DayKey) : Option Date := key.map fun day => Date.ofDayNumber day.toInt

/-- The date of the bucket of a row: an axis of days has it where it has the second before its
stamp. -/
def Offset.dateOf? (offset : Offset) (stamp : Option Int64) : Option Date :=
  stamp.bind fun n => ((RecordTime.number (n - 1)).toInstant? offset).map fun t =>
    (Period.day.truncate t).date

theorem DayKey.date?_injective : Function.Injective DayKey.date? := by
  refine Option.map_injective fun a b h => ?_
  have hnumber := congrArg Date.dayNumber h
  simp only [Date.dayNumber_ofDayNumber] at hnumber
  exact Int32.toInt_inj.mp hnumber

namespace Offset

variable {offset : Offset}

theorem instantOf?_of_pred {n : Int64} {t : Instant}
    (h : (RecordTime.number (n - 1)).toInstant? offset = some t) :
    offset.instantOf? (n.toInt - 1) = some t := by
  have hsecond := (instantOf?_eq_some.mp h).1.1
  have hone : (1 : Int64).toInt = 1 := rfl
  have hpred : (n - 1).toInt = n.toInt - 1 := by
    have hmem := t.inCalendar
    have hlt := offset.lt_day
    have hlo := n.le_toInt
    have hhi := n.toInt_lt
    simp only [minSecond, maxSecond, Date.minDay, Date.maxDay] at hmem
    rw [Int64.toInt_sub, hone, Int.bmod_def] at hsecond ⊢
    split_ifs at hsecond ⊢ <;> omega
  rw [← hpred]
  exact h

/-- The archive and the axis agree on the day of a row. -/
theorem date?_dayOf? {stamp : Option Int64} (hinside : ∀ n, stamp = some n →
    ∃ t, (RecordTime.number (n - 1)).toInstant? offset = some t) :
    DayKey.date? (stamp.bind offset.dayOf?) = offset.dateOf? stamp := by
  cases stamp with
  | none => rfl
  | some n =>
    obtain ⟨t, ht⟩ := hinside n rfl
    have hday : (Period.day.truncate t).dayNumber = t.dayNumber := Period.number_truncate .day t
    rw [dateOf?, Option.bind_some, Option.bind_some, ht, dayOf?_eq (instantOf?_of_pred ht),
      DayKey.date?, Option.map_some, Option.map_some, t.toInt_ofInt_dayNumber, Instant.date, hday]

end Offset

/-- The rows of a date. -/
def rowsOn (offset : Offset) (stamps : List (Option Int64)) (date : Option Date) : List ℕ :=
  rowsWith (fun stamp => offset.dateOf? stamp == date) stamps

section dates

variable {offset : Offset} {stamps : List (Option Int64)}
  (hinside : ∀ n, some n ∈ stamps → ∃ t, (RecordTime.number (n - 1)).toInstant? offset = some t)

include hinside

theorem map_date?_dayOf? :
    (stamps.map (·.bind offset.dayOf?)).map DayKey.date? = stamps.map offset.dateOf? := by
  rw [List.map_map]
  refine List.map_congr_left fun stamp hstamp => ?_
  exact Offset.date?_dayOf? fun n hn => hinside n (hn ▸ hstamp)

/-- A group of rows holds the rows of its date. -/
theorem rowsOf_eq_rowsOn (day : DayKey) :
    Group.rowsOf (stamps.map (·.bind offset.dayOf?)) day = rowsOn offset stamps day.date? := by
  rw [Group.rowsOf_eq_rowsWith]
  refine rowsWith_map fun stamp hstamp => ?_
  rw [← Offset.date?_dayOf? fun n hn => hinside n (hn ▸ hstamp), Bool.eq_iff_iff, beq_iff_eq,
    beq_iff_eq, DayKey.date?_injective.eq_iff]

end dates

/-! ### Columns of aggregates -/

namespace Frame

variable {f g : Frame} {plan : Plan} {keys : List DayKey}

/-- Every group has a cell in a summarised column, which says of its rows what a summary says. -/
theorem exists_cells_of_summarise (hg : f.summarise plan (Group.ofKeys keys) = .ok g)
    (hlength : keys.length = f.height) {p : PlanStep} (hp : p ∈ plan.steps) {c : Column}
    (hc : f.column? p.source = some c) (hnumeric : c.type.isNumeric = true) :
    ∃ cells : DayKey → Option (c.type.summaryType p.summary).Value,
      g.column? p.output =
        some ⟨p.output, c.type.summaryType p.summary, (DayKey.distinct keys).map cells⟩ ∧
      ∀ day, c.type.IsSummary f.parts p.summary ((Group.rowsOf keys day).filterMap c.cell)
        (cells day) := by
  obtain ⟨c', hc', hcolumn⟩ := column?_of_summarise hg hp
  rw [hc, Option.some.injEq] at hc'
  subst hc'
  rw [Column.summarise_ofKeys] at hcolumn
  refine ⟨_, hcolumn, fun day => ?_⟩
  have hcells : keys.length = c.cells.length :=
    hlength.trans (f.height_eq c (mem_of_column? hc)).symm
  exact Column.isSummary hnumeric f.parts (hcells ▸ List.filter_sublist) p.summary

/-- Totals of numbers are sums. -/
theorem exists_totals_of_summarise (hg : f.summarise plan (Group.ofKeys keys) = .ok g)
    {source output : String} (hp : ⟨source, .total, output⟩ ∈ plan.steps) {c : Column}
    (hc : f.column? source = some c) (hnumeric : c.type.isNumeric = true) :
    ∃ totals : DayKey → c.type.totalType.Value,
      g.column? output =
        some ⟨output, c.type.totalType, (DayKey.distinct keys).map fun day => some (totals day)⟩ ∧
      (∀ day, (Group.rowsOf keys day).filterMap c.cell = [] →
        c.type.totalType.isFinite (totals day) = true ∧ c.type.totalType.units (totals day) = 0) ∧
      ∀ day, c.type.AddsExactly ((Group.rowsOf keys day).filterMap c.cell) →
        c.type.totalType.isFinite (totals day) = true ∧
          c.type.totalType.IsSum (c.type.exactSum ((Group.rowsOf keys day).filterMap c.cell))
            (totals day) := by
  obtain ⟨sum, hsum, hzero, hexact⟩ := CellType.exists_total hnumeric
  obtain ⟨c', hc', hcolumn⟩ := column?_of_summarise hg hp
  rw [hc, Option.some.injEq] at hc'
  subst hc'
  refine ⟨fun day => sum ((Group.rowsOf keys day).filterMap c.cell), ?_, ?_, fun day => hexact _⟩
  · rw [hcolumn, Column.summarise_ofKeys]
    refine congrArg (fun cells => some (Column.mk output c.type.totalType cells)) ?_
    exact List.map_congr_left fun day _ => hsum _
  · intro day hnil
    simp only [hnil]
    exact hzero

/-- The sum of all values is the sum of the values of groups that hold every row once. -/
theorem exactSum_flatMap_of_perm {c : Column} (hc : c ∈ f.columns) {κ : Type} {days : List κ}
    {rowsOf : κ → List ℕ} (h : (days.flatMap rowsOf).Perm (List.range f.height)) :
    c.type.exactSum (days.flatMap fun day => (rowsOf day).filterMap c.cell) =
      c.type.exactSum c.values := by
  have hvalues : c.values = (List.range f.height).filterMap c.cell := by
    rw [Column.values, ← c.map_cell, List.reduceOption, List.filterMap_map, f.height_eq c hc]
    rfl
  rw [hvalues, ← List.filterMap_flatMap]
  exact CellType.exactSum_of_perm (h.filterMap c.cell)

theorem map_name_of_summarise {groups : List Group} (hg : f.summarise plan groups = .ok g) :
    g.columns.map (·.name) = timeName :: plan.steps.map (·.output) := by
  obtain ⟨columns, hsummary, hcolumns⟩ := summarise_eq_ok hg
  rw [hcolumns, List.map_cons, (of_summaryColumns hsummary).1]
  rfl

variable {stamps : List (Option Int64)}

/-- An archive has a row for every day of its rows, in the order of days and with the rows without a
time as the first of them. The day of a row is that of its bucket on an axis of days, every row is in
one day, and the cells of a day summarise the cells of its rows without the missing ones. Where the
totals of the days are exact, they add up to the total of all rows. -/
theorem HasStamps.summaries_of_daily (h : f.HasStamps stamps) (offset : Offset)
    (hinside : ∀ n, some n ∈ stamps →
      ∃ t, (RecordTime.number (n - 1)).toInstant? offset = some t)
    (hnumbers : f.HasNumbers
      ["lo_temp", "hi_temp", "rain_fall", "avg_wind_speed", "hi_wind_speed", "barometer"]) :
    ∃ g days, f.daily offset = .ok g ∧
      g.columns.map (·.name) = [timeName, "lo_temp", "hi_temp", "rain_fall", "avg_wind_speed",
        "hi_wind_speed", "barometer"] ∧
      g.column? timeName = some ⟨timeName, .date, days⟩ ∧ g.height = days.length ∧
      days.Pairwise (fun a b => DayKey.before a b = true) ∧
      (none ∈ stamps → days.head? = some none) ∧ none ∉ days.tail ∧
      (∀ date, date ∈ days.map DayKey.date? ↔ date ∈ stamps.map offset.dateOf?) ∧
      (days.flatMap fun day => rowsOn offset stamps (DayKey.date? day)).Perm
        (List.range f.height) ∧
      (∀ p ∈ [("lo_temp", Summary.least), ("hi_temp", .greatest), ("rain_fall", .total),
          ("avg_wind_speed", .mean), ("hi_wind_speed", .greatest), ("barometer", .mean)],
        ∃ c cells, f.column? p.1 = some c ∧
          g.column? p.1 = some ⟨p.1, c.type.summaryType p.2, days.map cells⟩ ∧
          ∀ day ∈ days, c.type.IsSummary f.parts p.2
            ((rowsOn offset stamps (DayKey.date? day)).filterMap c.cell) (cells day)) ∧
      ∃ c totals, f.column? "rain_fall" = some c ∧
        g.column? "rain_fall" =
          some ⟨"rain_fall", c.type.totalType, days.map fun day => some (totals day)⟩ ∧
        (∀ day ∈ days, (rowsOn offset stamps (DayKey.date? day)).filterMap c.cell = [] →
          c.type.totalType.isFinite (totals day) = true ∧
            c.type.totalType.units (totals day) = 0) ∧
        ((∀ day ∈ days, c.type.HasExactTotal
            ((rowsOn offset stamps (DayKey.date? day)).filterMap c.cell)) →
          c.type.totalType.exactSum (days.map totals) = c.type.exactSum c.values) := by
  set keys := stamps.map (·.bind offset.dayOf?) with hkeys
  have hlength : keys.length = f.height := h.length_keys
  have hrows : Group.rowsOf keys = fun day => rowsOn offset stamps (DayKey.date? day) :=
    funext fun day => rowsOf_eq_rowsOn hinside day
  have hperm := Group.flatMap_rowsOf_perm keys
  rw [hrows, hlength] at hperm
  obtain ⟨g, hg, -⟩ :=
    (show f.HasNumbers (dailyPlan.steps.map (·.source)) from hnumbers).summarise (Group.ofKeys keys)
  have hdaily : f.daily offset = .ok g := by
    rw [daily, h.localDays, Except.ok_bind, hg]
  refine ⟨g, DayKey.distinct keys, hdaily, map_name_of_summarise hg, ?_, ?_,
    DayKey.pairwise_distinct keys, ?_, DayKey.none_not_mem_tail (DayKey.pairwise_distinct keys), ?_,
    hperm, ?_, ?_⟩
  · rw [column?_summarise hg, timeColumn, Group.map_day_ofKeys]
  · rw [(size_of_summarise hg).1, Group.ofKeys, List.length_map]
  · intro hnone
    refine DayKey.head?_eq_none (DayKey.pairwise_distinct keys) (DayKey.mem_distinct.mpr ?_)
    exact List.mem_map.mpr ⟨none, hnone, rfl⟩
  · intro date
    simp only [← map_date?_dayOf? hinside, List.mem_map, DayKey.mem_distinct, hkeys]
  · intro p hp
    have hstep : p.1 ∈ dailyPlan.steps.map (·.source) ∧
        (⟨p.1, p.2, p.1⟩ : PlanStep) ∈ dailyPlan.steps := by
      revert p
      decide
    obtain ⟨c, hc, hnumeric⟩ := hnumbers p.1 hstep.1
    obtain ⟨cells, hcolumn, hcells⟩ := exists_cells_of_summarise hg hlength hstep.2 hc hnumeric
    rw [hrows] at hcells
    exact ⟨c, cells, hc, hcolumn, fun day _ => hcells day⟩
  · obtain ⟨c, hc, hnumeric⟩ := hnumbers "rain_fall" (by decide)
    obtain ⟨totals, hcolumn, hzero, htotals⟩ := exists_totals_of_summarise hg
      (show ⟨"rain_fall", .total, "rain_fall"⟩ ∈ dailyPlan.steps by decide) hc hnumeric
    rw [hrows] at hzero htotals
    refine ⟨c, totals, hc, hcolumn, fun day _ => hzero day, fun hexact => ?_⟩
    have hsums : ∀ day ∈ DayKey.distinct keys, c.type.totalType.units (totals day) =
        c.type.exactSum ((rowsOn offset stamps (DayKey.date? day)).filterMap c.cell) := by
      intro day hday
      obtain ⟨hadds, x, hx⟩ := hexact day hday
      exact (htotals day hadds).2.eq_of_fits hx
    rw [CellType.exactSum_eq hsums]
    exact exactSum_flatMap_of_perm (mem_of_column? hc) hperm

/-- Five rows around the beginning of 1970 at an offset of one hour, one of them without a time: a row
at midnight is the last one of its day. -/
theorem summaries_of_new_year :
    let offset : Offset := ⟨3600, by decide⟩
    let stamps : List (Option Int64) :=
      [some (-3599), none, some (-3600), some (-7200), some (-10800)]
    let cells : List (Option Float) := [some 1.5, some 2.25, none, some (-3.5), some 4.5]
    let frame := uniform stamps .double cells [] rfl
    ∃ g days, ∃ totals : DayKey → Float, ∃ means : DayKey → Option Float,
      frame.daily offset = .ok g ∧ g.column? timeName = some ⟨timeName, .date, days⟩ ∧
      days.map DayKey.date? = [none, some ⟨1969, 12, 31⟩, some ⟨1970, 1, 1⟩] ∧
      (days.flatMap fun day => rowsOn offset stamps (DayKey.date? day)).Perm (List.range 5) ∧
      g.column? "rain_fall" = some ⟨"rain_fall", .double, days.map fun day => some (totals day)⟩ ∧
      CellType.exactSum .double (days.map totals) =
        CellType.exactSum .double [1.5, 2.25, -3.5, 4.5] ∧
      g.column? "avg_wind_speed" = some ⟨"avg_wind_speed", .double, days.map means⟩ ∧
      means (some (-1)) = some 0.5 := by
  intro offset stamps cells frame
  have hinside : ∀ n, some n ∈ stamps →
      ∃ t, (RecordTime.number (n - 1)).toInstant? offset = some t := by
    intro n hn
    apply Option.isSome_iff_exists.mp
    simp only [stamps, List.mem_cons, Option.some.injEq, reduceCtorEq, List.not_mem_nil, or_false,
      false_or] at hn
    rcases hn with rfl | rfl | rfl | rfl <;> decide +kernel
  have hstamps : frame.HasStamps stamps := rfl
  obtain ⟨g, days, hdaily, -, htime, -, -, -, -, -, hperm, hsummaries, c, totals, hc, htotals, -,
    hexact⟩ := hstamps.summaries_of_daily offset hinside
      fun name hname => ⟨_, column?_uniform rfl hname, rfl⟩
  have hrainFall : frame.column? "rain_fall" = some ⟨"rain_fall", .double, cells⟩ :=
    column?_uniform rfl (by decide)
  obtain rfl := Option.some.inj (hrainFall.symm.trans hc)
  obtain ⟨c, means, hc, hmeans, hmean⟩ := hsummaries ("avg_wind_speed", .mean) (by decide)
  have hwind : frame.column? "avg_wind_speed" = some ⟨"avg_wind_speed", .double, cells⟩ :=
    column?_uniform rfl (by decide)
  obtain rfl := Option.some.inj (hwind.symm.trans hc)
  have hkeys : cellsOf? (frame.daily offset) timeName .date = some [none, some (-1), some 0] := by
    decide +kernel
  obtain rfl := Option.some.inj (hkeys.symm.trans (cellsOf?_of_column? hdaily htime))
  have hvalues : ∀ day ∈ [none, some (-1), some 0], CellType.HasExactTotal .double
      ((rowsOn offset stamps (DayKey.date? day)).filterMap
        (Column.cell ⟨"rain_fall", .double, cells⟩)) := by
    intro day hday
    simp only [List.mem_cons, List.not_mem_nil, or_false] at hday
    rcases hday with rfl | rfl | rfl
    · exact ⟨by decide +kernel, (2.25 : Float), by decide +kernel⟩
    · exact ⟨by decide +kernel, (1 : Float), by decide +kernel⟩
    · exact ⟨by decide +kernel, (1.5 : Float), by decide +kernel⟩
  have hrows : (rowsOn offset stamps (DayKey.date? (some (-1)))).filterMap
      (Column.cell ⟨"avg_wind_speed", .double, cells⟩) = [(-3.5 : Float), 4.5] := by decide +kernel
  have hmean : CellType.IsMean .double [-3.5, 4.5] (means (some (-1))) :=
    hrows ▸ hmean (some (-1)) (by decide)
  refine ⟨g, _, totals, means, hdaily, htime, by decide +kernel, hperm, htotals, ?_, hmeans, ?_⟩
  · exact (hexact hvalues).trans (by decide +kernel)
  · exact (hmean.eq_meanOf? (by decide +kernel)).trans (by decide +kernel)

end Frame

end Meteogram
