import Mathlib.Tactic
import Meteogram.Proofs.Archive.Cut
import Meteogram.Proofs.Archive.Daily

/-!
# Months of archives

A month has one row in the aggregate by months, which is formed of the rows that its days have in the
aggregate by days. Its total is the one of its rows as well, since the rows of a month are those of its
days, each row once.
-/
namespace Meteogram

/-- The first day of the month of a date. -/
def Date.firstOfMonth (d : Date) : Date := ⟨d.year, d.month, 1⟩

theorem Date.IsValid.firstOfMonth {d : Date} (h : d.IsValid) : d.firstOfMonth.IsValid :=
  isValid_first _ ⟨h.month_pos, h.month_le⟩

/-- The first day of the month of an instant is the first day of the month of its date. -/
theorem date?_monthStart_dayNumber (t : Instant) :
    DayKey.date? (some (monthStart (Int32.ofInt t.dayNumber))) = some t.date.firstOfMonth := by
  have hdate : Date.ofDayNumber (Period.month.truncate t).dayNumber = t.date.firstOfMonth := by
    rw [Period.dayNumber_truncate_month]
    exact Date.ofDayNumber_dayNumber (Instant.isValid_date t).firstOfMonth
  rw [monthStart_dayNumber, DayKey.date?, Option.map_some, Instant.toInt_ofInt_dayNumber, hdate]

/-- The rows of the month that begins at a date. -/
def rowsIn (offset : Offset) (stamps : List (Option Int64)) (month : Option Date) : List ℕ :=
  rowsWith (fun stamp => (offset.dateOf? stamp).map Date.firstOfMonth == month) stamps

/-- Some days that are in a month. -/
def daysIn (days : List DayKey) (month : DayKey) : List DayKey :=
  days.filter fun day => (DayKey.date? day).map Date.firstOfMonth == DayKey.date? month

section months

variable {offset : Offset} {stamps : List (Option Int64)}
  (hinside : ∀ n, some n ∈ stamps → ∃ t, (RecordTime.number (n - 1)).toInstant? offset = some t)

include hinside

theorem date?_map_monthStart {day : DayKey} (hday : day ∈ stamps.map (·.bind offset.dayOf?)) :
    DayKey.date? (day.map monthStart) = (DayKey.date? day).map Date.firstOfMonth := by
  obtain ⟨stamp, hstamp, rfl⟩ := List.mem_map.mp hday
  cases stamp with
  | none => rfl
  | some n =>
    obtain ⟨t, ht⟩ := hinside n hstamp
    rw [Option.bind_some, Offset.dayOf?_eq (Offset.instantOf?_of_pred ht), Option.map_some,
      date?_monthStart_dayNumber, DayKey.date?, Option.map_some, Option.map_some,
      t.toInt_ofInt_dayNumber, Instant.date]

theorem daysIn_eq {days : List DayKey} (hdays : ∀ day ∈ days, day ∈ stamps.map (·.bind offset.dayOf?))
    (month : DayKey) : daysIn days month = days.filter (·.map monthStart == month) := by
  refine List.filter_congr fun day hday => ?_
  rw [← date?_map_monthStart hinside (hdays day hday), Bool.eq_iff_iff, beq_iff_eq, beq_iff_eq,
    DayKey.date?_injective.eq_iff]

/-- The rows of a month are those of its days, each of them once. -/
theorem rowsIn_perm (month : DayKey) : (rowsIn offset stamps (DayKey.date? month)).Perm
    ((daysIn (DayKey.distinct (stamps.map (·.bind offset.dayOf?))) month).flatMap fun day =>
      rowsOn offset stamps (DayKey.date? day)) := by
  set keys := stamps.map (·.bind offset.dayOf?) with hkeys
  have hrows : Group.rowsOf keys = fun day => rowsOn offset stamps (DayKey.date? day) :=
    funext fun day => rowsOf_eq_rowsOn hinside day
  have hselected : rowsWith (·.map monthStart == month) keys =
      rowsIn offset stamps (DayKey.date? month) := by
    refine rowsWith_map fun stamp hstamp => ?_
    rw [← Offset.date?_dayOf? fun n hn => hinside n (hn ▸ hstamp),
      ← date?_map_monthStart hinside (List.mem_map_of_mem hstamp), Bool.eq_iff_iff, beq_iff_eq,
      beq_iff_eq, DayKey.date?_injective.eq_iff]
  rw [daysIn_eq hinside (fun day => DayKey.mem_distinct.mp), ← hrows, ← hselected]
  exact Group.rowsWith_perm_flatMap _ keys

/-- What sums up the totals of the days of a month sums up the rows of the month. -/
theorem isSum_rowsIn {c : Column} {type : CellType} {totals : DayKey → type.Value} {month : DayKey}
    {x : type.Value}
    (htotals : ∀ day ∈ daysIn (DayKey.distinct (stamps.map (·.bind offset.dayOf?))) month,
      type.IsSum (c.type.exactSum ((rowsOn offset stamps (DayKey.date? day)).filterMap c.cell))
        (totals day))
    (hx : type.IsSum (type.exactSum
      ((daysIn (DayKey.distinct (stamps.map (·.bind offset.dayOf?))) month).map totals)) x) :
    type.IsSum (c.type.exactSum ((rowsIn offset stamps (DayKey.date? month)).filterMap c.cell))
      x := by
  have hperm := CellType.exactSum_of_perm ((rowsIn_perm hinside month).filterMap c.cell)
  rw [List.filterMap_flatMap] at hperm
  rw [CellType.IsSum, hperm]
  exact Int.ModEq.trans hx (CellType.exactSum_modEq htotals)

/-- The months of the days of rows are the months of the dates of rows. -/
theorem mem_map_monthStart_iff {date : Option Date} :
    date ∈ ((DayKey.distinct (stamps.map (·.bind offset.dayOf?))).map (·.map monthStart)).map
        DayKey.date? ↔
      date ∈ stamps.map fun stamp => (offset.dateOf? stamp).map Date.firstOfMonth := by
  have hmonths : ((stamps.map (·.bind offset.dayOf?)).map (·.map monthStart)).map DayKey.date? =
      stamps.map fun stamp => (offset.dateOf? stamp).map Date.firstOfMonth := by
    rw [List.map_map, List.map_map]
    refine List.map_congr_left fun stamp hstamp => ?_
    rw [Function.comp_apply, Function.comp_apply,
      date?_map_monthStart hinside (List.mem_map_of_mem hstamp),
      Offset.date?_dayOf? fun n hn => hinside n (hn ▸ hstamp)]
  rw [← hmonths]
  simp only [List.mem_map, DayKey.mem_distinct]

end months

namespace Group

/-- The values beside the groups of days. -/
theorem filterMap_rowsOf_map {α : Type} (days : List DayKey) (monthOf : DayKey → DayKey)
    (cells : DayKey → Option α) (month : DayKey) :
    (rowsOf (days.map monthOf) month).filterMap (fun row => ((days.map cells)[row]?).join) =
      (days.filter fun day => monthOf day == month).filterMap cells := by
  have hrows : rowsOf (days.map monthOf) month = rowsWith (fun day => monthOf day == month) days := by
    rw [rowsOf_eq_rowsWith]
    exact rowsWith_map fun _ _ => rfl
  have hmap := map_rowsWith_map (fun day => monthOf day == month) days cells
  have hvalues := congrArg (List.filterMap id) hmap
  rwa [List.filterMap_map, List.filterMap_map, ← hrows] at hvalues

end Group

namespace Frame

variable {f g g' daily byDay monthly : Frame} {plan plan' : Plan} {groups : List Group}
  {keys : List DayKey}

/-- Plans that share a step give the same column for it. -/
theorem column?_eq_of_summarise (hg : f.summarise plan groups = .ok g)
    (hg' : f.summarise plan' groups = .ok g') {p : PlanStep} (hp : p ∈ plan.steps)
    (hp' : p ∈ plan'.steps) : g.column? p.output = g'.column? p.output := by
  obtain ⟨c, hc, hcolumn⟩ := column?_of_summarise hg hp
  obtain ⟨c', hc', hcolumn'⟩ := column?_of_summarise hg' hp'
  rw [hc, Option.some.injEq] at hc'
  subst hc'
  rw [hcolumn, hcolumn']

/-- The days of a month, by the key that the archive has for it. -/
abbrev daysOf (keys : List DayKey) (month : DayKey) : List DayKey :=
  (DayKey.distinct keys).filter (·.map monthStart == month)

section byDay

variable (hmonths : byDay.summarise monthlyPlan
    (Group.ofKeys ((DayKey.distinct keys).map (·.map monthStart))) = .ok monthly)

include hmonths

/-- A column by months summarises a column by days. -/
theorem exists_cells_of_months (hdays : f.summarise monthDayPlan (Group.ofKeys keys) = .ok byDay)
    {p : PlanStep} (hp : p ∈ monthlyPlan.steps) {name : String}
    {type : CellType} {cells : DayKey → Option type.Value}
    (hc : byDay.column? p.source = some ⟨name, type, (DayKey.distinct keys).map cells⟩)
    (hnumeric : type.isNumeric = true) :
    ∃ cells' : DayKey → Option (type.summaryType p.summary).Value,
      monthly.column? p.output = some ⟨p.output, type.summaryType p.summary,
        (DayKey.distinct ((DayKey.distinct keys).map (·.map monthStart))).map cells'⟩ ∧
      ∀ month, type.IsSummary [] p.summary ((daysOf keys month).filterMap cells) (cells' month) := by
  have hlength : ((DayKey.distinct keys).map (·.map monthStart)).length = byDay.height := by
    rw [(size_of_summarise hdays).1, List.length_map, Group.ofKeys, List.length_map]
  obtain ⟨cells', hcolumn, hcells'⟩ := exists_cells_of_summarise hmonths hlength hp hc hnumeric
  refine ⟨cells', hcolumn, fun month => ?_⟩
  rw [← Group.filterMap_rowsOf_map, ← (size_of_summarise hdays).2]
  exact hcells' month

/-- Totals of totals are sums of the same type. -/
theorem exists_totals_of_months {source output : String}
    (hp : ⟨source, .total, output⟩ ∈ monthlyPlan.steps) {name : String} {type : CellType}
    (htype : type.totalType = type) {totals : DayKey → type.Value}
    (hc : byDay.column? source =
      some ⟨name, type, (DayKey.distinct keys).map fun day => some (totals day)⟩)
    (hnumeric : type.isNumeric = true) :
    ∃ totals' : DayKey → type.Value,
      monthly.column? output = some ⟨output, type,
        (DayKey.distinct ((DayKey.distinct keys).map (·.map monthStart))).map fun month =>
          some (totals' month)⟩ ∧
      ∀ month, type.AddsExactly ((daysOf keys month).map totals) →
        type.IsSum (type.exactSum ((daysOf keys month).map totals)) (totals' month) := by
  have hvalues (month : DayKey) := Group.filterMap_rowsOf_map (DayKey.distinct keys)
    (·.map monthStart) (fun day => some (totals day)) month
  simp only [List.filterMap_eq_map'] at hvalues
  have htotals := exists_totals_of_summarise hmonths hp hc hnumeric
  dsimp only at htotals
  rw [htype] at htotals
  obtain ⟨totals', hcolumn, -, htotals'⟩ := htotals
  refine ⟨totals', hcolumn, fun month hadds => ?_⟩
  rw [daysOf, ← hvalues] at hadds ⊢
  exact (htotals' month hadds).2

/-- The greatest total of a day is the one of a day of the month. -/
theorem exists_wettest_of_months
    (hdays : f.summarise monthDayPlan (Group.ofKeys keys) = .ok byDay) {source output : String}
    (hp : ⟨source, .greatest, output⟩ ∈ monthlyPlan.steps) {name : String} {type : CellType}
    {totals : DayKey → type.Value}
    (hc : byDay.column? source =
      some ⟨name, type, (DayKey.distinct keys).map fun day => some (totals day)⟩)
    (hnumeric : type.isNumeric = true) :
    ∃ wettest : DayKey → type.Value,
      monthly.column? output = some ⟨output, type,
        (DayKey.distinct ((DayKey.distinct keys).map (·.map monthStart))).map fun month =>
          some (wettest month)⟩ ∧
      ∀ month ∈ (DayKey.distinct keys).map (·.map monthStart),
        (∃ day ∈ daysOf keys month, totals day = wettest month) ∧
        ∀ day ∈ daysOf keys month, type.before (wettest month) (totals day) = false := by
  obtain ⟨cells, hcolumn, hcells⟩ : ∃ cells : DayKey → Option type.Value,
      monthly.column? output = some ⟨output, type,
        (DayKey.distinct ((DayKey.distinct keys).map (·.map monthStart))).map cells⟩ ∧
      ∀ month, type.IsExtreme (fun a b => type.before b a) [] ((daysOf keys month).map totals)
        (cells month) := by
    obtain ⟨cells, hcolumn, hcells⟩ := exists_cells_of_months hmonths hdays hp hc hnumeric
    refine ⟨cells, hcolumn, fun month => ?_⟩
    rw [← List.filterMap_eq_map']
    exact hcells month
  -- A month is the month of some day, so that it has a greatest total.
  have hsome : ∀ month ∈ (DayKey.distinct keys).map (·.map monthStart),
      cells month = some ((cells month).getD (totals month)) := by
    intro month hmonth
    obtain ⟨day, hday, rfl⟩ := List.mem_map.mp hmonth
    have hmem : totals day ∈ (daysOf keys (day.map monthStart)).map totals :=
      List.mem_map_of_mem (List.mem_filter.mpr ⟨hday, by simp⟩)
    cases hcell : cells (day.map monthStart) with
    | none =>
      rw [(hcells _).eq_none_iff.mp hcell] at hmem
      cases hmem
    | some x => rfl
  refine ⟨fun month => (cells month).getD (totals month), ?_, fun month hmonth => ⟨?_, ?_⟩⟩
  · rw [hcolumn]
    refine congrArg (fun cells => some (Column.mk output type cells)) ?_
    exact List.map_congr_left fun month hmonth => hsome month (DayKey.mem_distinct.mp hmonth)
  · exact List.mem_map.mp ((hcells month).mem _ (hsome month hmonth))
  · intro day hday
    exact (hcells month).not_before _ (hsome month hmonth) _ (List.mem_map_of_mem hday)

/-- Means of months are formed of what summarises days. -/
theorem exists_means_of_months (hdaily : f.summarise dailyPlan (Group.ofKeys keys) = .ok daily)
    (hdays : f.summarise monthDayPlan (Group.ofKeys keys) = .ok byDay)
    (hlength : keys.length = f.height) {name : String} {summary : Summary}
    (hday : ⟨name, summary, name⟩ ∈ dailyPlan.steps)
    (hday' : ⟨name, summary, name⟩ ∈ monthDayPlan.steps)
    (hmonth : ⟨name, .mean, name⟩ ∈ monthlyPlan.steps) {c : Column}
    (hc : f.column? name = some c) (hnumeric : c.type.isNumeric = true) :
    ∃ (extremes : DayKey → Option (c.type.summaryType summary).Value)
      (means : DayKey → Option (c.type.summaryType summary).meanType.Value),
      daily.column? name =
        some ⟨name, c.type.summaryType summary, (DayKey.distinct keys).map extremes⟩ ∧
      monthly.column? name = some ⟨name, (c.type.summaryType summary).meanType,
        (DayKey.distinct ((DayKey.distinct keys).map (·.map monthStart))).map means⟩ ∧
      (∀ day, c.type.IsSummary f.parts summary ((Group.rowsOf keys day).filterMap c.cell)
        (extremes day)) ∧
      ∀ month, (c.type.summaryType summary).IsMean ((daysOf keys month).filterMap extremes)
        (means month) := by
  obtain ⟨extremes, hcolumn, hextremes⟩ :=
    exists_cells_of_summarise hdaily hlength hday hc hnumeric
  have hcolumn' := (column?_eq_of_summarise hdays hdaily hday' hday).trans hcolumn
  obtain ⟨means, hmeans, hmean⟩ := exists_cells_of_months hmonths hdays hmonth hcolumn'
    (CellType.isNumeric_summaryType hnumeric summary)
  exact ⟨extremes, means, hcolumn, hmeans, hextremes, hmean⟩

/-- The rain of months is formed of the totals of days. -/
theorem exists_rain_of_months (hdaily : f.summarise dailyPlan (Group.ofKeys keys) = .ok daily)
    (hdays : f.summarise monthDayPlan (Group.ofKeys keys) = .ok byDay) {c : Column}
    (hc : f.column? "rain_fall" = some c) (hnumeric : c.type.isNumeric = true) :
    ∃ totals rain wettest : DayKey → c.type.totalType.Value,
      daily.column? "rain_fall" = some ⟨"rain_fall", c.type.totalType,
        (DayKey.distinct keys).map fun day => some (totals day)⟩ ∧
      monthly.column? "rain" = some ⟨"rain", c.type.totalType,
        (DayKey.distinct ((DayKey.distinct keys).map (·.map monthStart))).map fun month =>
          some (rain month)⟩ ∧
      monthly.column? "rain_24h" = some ⟨"rain_24h", c.type.totalType,
        (DayKey.distinct ((DayKey.distinct keys).map (·.map monthStart))).map fun month =>
          some (wettest month)⟩ ∧
      (∀ day, (Group.rowsOf keys day).filterMap c.cell = [] →
        c.type.totalType.isFinite (totals day) = true ∧ c.type.totalType.units (totals day) = 0) ∧
      (∀ day, c.type.AddsExactly ((Group.rowsOf keys day).filterMap c.cell) →
        c.type.totalType.isFinite (totals day) = true ∧
          c.type.totalType.IsSum (c.type.exactSum ((Group.rowsOf keys day).filterMap c.cell))
            (totals day)) ∧
      (∀ month, c.type.totalType.AddsExactly ((daysOf keys month).map totals) →
        c.type.totalType.IsSum (c.type.totalType.exactSum ((daysOf keys month).map totals))
          (rain month)) ∧
      ∀ month ∈ (DayKey.distinct keys).map (·.map monthStart),
        (∃ day ∈ daysOf keys month, totals day = wettest month) ∧
        ∀ day ∈ daysOf keys month,
          c.type.totalType.before (wettest month) (totals day) = false := by
  have hstep : (⟨"rain_fall", .total, "rain_fall"⟩ : PlanStep) ∈ dailyPlan.steps ∧
      (⟨"rain_fall", .total, "rain_fall"⟩ : PlanStep) ∈ monthDayPlan.steps := by decide
  have hnumeric' := CellType.isNumeric_summaryType hnumeric .total
  obtain ⟨totals, hcolumn, hzero, htotals⟩ :=
    exists_totals_of_summarise hdaily hstep.1 hc hnumeric
  have hcolumn' := (column?_eq_of_summarise hdays hdaily hstep.2 hstep.1).trans hcolumn
  obtain ⟨rain, hrain, hsum⟩ := exists_totals_of_months hmonths
    (show ⟨"rain_fall", .total, "rain"⟩ ∈ monthlyPlan.steps by decide)
    c.type.totalType_totalType hcolumn' hnumeric'
  obtain ⟨wettest, hwettest, hgreatest⟩ := exists_wettest_of_months hmonths hdays
    (show ⟨"rain_fall", .greatest, "rain_24h"⟩ ∈ monthlyPlan.steps by decide) hcolumn' hnumeric'
  exact ⟨totals, rain, wettest, hcolumn, hrain, hwettest, hzero, htotals, hsum, hgreatest⟩

end byDay

variable {stamps : List (Option Int64)}

/-- An archive has a row for every month of its rows, in the order of months. Its rain is the sum of the
totals of the days of the month and of all rows of the month, where no addition rounds; its wettest day
is a day with rows, and no day of the month has a greater total. A day without rain counts as zero. Its
temperatures are the means of the extremes of those days of the month that have any. -/
theorem HasStamps.months_of_days (h : f.HasStamps stamps) (offset : Offset)
    (hinside : ∀ n, some n ∈ stamps →
      ∃ t, (RecordTime.number (n - 1)).toInstant? offset = some t)
    (hnumbers : f.HasNumbers
      ["lo_temp", "hi_temp", "rain_fall", "avg_wind_speed", "hi_wind_speed", "barometer"]) :
    ∃ daily monthly days months, f.daily offset = .ok daily ∧ f.monthly offset = .ok monthly ∧
      daily.column? timeName = some ⟨timeName, .date, days⟩ ∧
      monthly.column? timeName = some ⟨timeName, .date, months⟩ ∧
      monthly.height = months.length ∧
      months.Pairwise (fun a b => DayKey.before a b = true) ∧
      (∀ date, date ∈ months.map DayKey.date? ↔
        date ∈ stamps.map fun stamp => (offset.dateOf? stamp).map Date.firstOfMonth) ∧
      (∃ c, ∃ totals rain wettest : DayKey → c.type.totalType.Value,
        f.column? "rain_fall" = some c ∧
        daily.column? "rain_fall" =
          some ⟨"rain_fall", c.type.totalType, days.map fun day => some (totals day)⟩ ∧
        monthly.column? "rain" =
          some ⟨"rain", c.type.totalType, months.map fun month => some (rain month)⟩ ∧
        monthly.column? "rain_24h" =
          some ⟨"rain_24h", c.type.totalType, months.map fun month => some (wettest month)⟩ ∧
        (∀ day ∈ days, (rowsOn offset stamps (DayKey.date? day)).filterMap c.cell = [] →
          c.type.totalType.isFinite (totals day) = true ∧
            c.type.totalType.units (totals day) = 0) ∧
        ∀ month ∈ months,
          (∃ day ∈ daysIn days month, rowsOn offset stamps (DayKey.date? day) ≠ [] ∧
            totals day = wettest month) ∧
          (∀ day ∈ daysIn days month,
            c.type.totalType.before (wettest month) (totals day) = false) ∧
          ((∀ day ∈ daysIn days month, c.type.AddsExactly
              ((rowsOn offset stamps (DayKey.date? day)).filterMap c.cell)) →
            (∀ day ∈ daysIn days month,
              c.type.totalType.units (totals day) ≤ c.type.totalType.units (wettest month)) ∧
            (c.type.totalType.AddsExactly ((daysIn days month).map totals) →
              c.type.totalType.IsSum (c.type.totalType.exactSum ((daysIn days month).map totals))
                (rain month) ∧
              c.type.totalType.IsSum (c.type.exactSum
                ((rowsIn offset stamps (DayKey.date? month)).filterMap c.cell)) (rain month)))) ∧
      ∀ p ∈ [("lo_temp", Summary.least), ("hi_temp", .greatest)], ∃ c extremes means,
        f.column? p.1 = some c ∧
        daily.column? p.1 = some ⟨p.1, c.type.summaryType p.2, days.map extremes⟩ ∧
        monthly.column? p.1 =
          some ⟨p.1, (c.type.summaryType p.2).meanType, months.map means⟩ ∧
        (∀ day ∈ days, c.type.IsSummary f.parts p.2
          ((rowsOn offset stamps (DayKey.date? day)).filterMap c.cell) (extremes day)) ∧
        ∀ month ∈ months, (c.type.summaryType p.2).IsMean ((daysIn days month).filterMap extremes)
          (means month) := by
  set keys := stamps.map (·.bind offset.dayOf?) with hkeys
  have hlength : keys.length = f.height := h.length_keys
  have hrows : Group.rowsOf keys = fun day => rowsOn offset stamps (DayKey.date? day) :=
    funext fun day => rowsOf_eq_rowsOn hinside day
  have hdaysOf : daysOf keys = daysIn (DayKey.distinct keys) :=
    funext fun month => (daysIn_eq hinside (fun day => DayKey.mem_distinct.mp) month).symm
  have hcolumns : ∀ p ∈ dailyPlan.steps, ∃ c, f.column? p.source = some c := by
    intro p hp
    have hsource : p.source ∈ dailyPlan.steps.map (·.source) := List.mem_map_of_mem hp
    exact (hnumbers p.source hsource).imp fun _ hc => hc.1
  obtain ⟨⟨daily, hdaily⟩, monthly, hmonthly⟩ := exists_aggregates (h.localDays offset) hcolumns
  have hbyDate : f.summarise dailyPlan (Group.ofKeys keys) = .ok daily := by
    rwa [Frame.daily, h.localDays, Except.ok_bind] at hdaily
  obtain ⟨byDay, hdays, hmonths⟩ :=
    Except.bind_eq_ok.mp ((monthly_eq (h.localDays offset)).symm.trans hmonthly)
  refine ⟨daily, monthly, DayKey.distinct keys,
    DayKey.distinct ((DayKey.distinct keys).map (·.map monthStart)), hdaily, hmonthly, ?_, ?_, ?_,
    DayKey.pairwise_distinct _, ?_, ?_, ?_⟩
  · rw [column?_summarise hbyDate, timeColumn, Group.map_day_ofKeys]
  · rw [column?_summarise hmonths, timeColumn, Group.map_day_ofKeys]
  · rw [(size_of_summarise hmonths).1, Group.ofKeys, List.length_map]
  · intro date
    rw [← mem_map_monthStart_iff hinside]
    simp only [List.mem_map, DayKey.mem_distinct, hkeys]
  · obtain ⟨c, hc, hnumeric⟩ := hnumbers "rain_fall" (by decide)
    obtain ⟨totals, rain, wettest, hcolumn, hrain, hwettest, hzero, htotals, hsum, hgreatest⟩ :=
      exists_rain_of_months hmonths hbyDate hdays hc hnumeric
    rw [hrows] at hzero htotals
    rw [hdaysOf] at hsum hgreatest
    refine ⟨c, totals, rain, wettest, hc, hcolumn, hrain, hwettest, fun day _ => hzero day, ?_⟩
    intro month hmonth
    rw [DayKey.mem_distinct] at hmonth
    obtain ⟨⟨wet, hwet, heq⟩, hle⟩ := hgreatest month hmonth
    refine ⟨⟨wet, hwet, ?_, heq⟩, hle, fun hadds => ⟨fun day hday => ?_, fun hadds' => ?_⟩⟩
    · have hday := DayKey.mem_distinct.mp (List.mem_of_mem_filter hwet)
      have hne := Group.rowsOf_ne_nil hday
      rwa [hrows] at hne
    · rw [← heq] at hle ⊢
      exact CellType.units_le_units (CellType.isNumeric_summaryType hnumeric .total) (htotals day (hadds day hday)).1
        (htotals wet (hadds wet hwet)).1 (hle day hday)
    · have hmonthly := hsum month hadds'
      exact ⟨hmonthly, isSum_rowsIn hinside (fun day hday => (htotals day (hadds day hday)).2)
        hmonthly⟩
  · intro p hp
    have hstep : p.1 ∈ dailyPlan.steps.map (·.source) ∧
        (⟨p.1, p.2, p.1⟩ : PlanStep) ∈ dailyPlan.steps ∧
        (⟨p.1, p.2, p.1⟩ : PlanStep) ∈ monthDayPlan.steps ∧
        (⟨p.1, .mean, p.1⟩ : PlanStep) ∈ monthlyPlan.steps := by
      revert p
      decide
    obtain ⟨hname, hday, hday', hmonth⟩ := hstep
    obtain ⟨c, hc, hnumeric⟩ := hnumbers p.1 hname
    obtain ⟨extremes, means, hcolumn, hmeans, hextremes, hmean⟩ :=
      exists_means_of_months hmonths hbyDate hdays hlength hday hday' hmonth hc hnumeric
    rw [hrows] at hextremes
    rw [hdaysOf] at hmean
    exact ⟨c, extremes, means, hc, hcolumn, hmeans, fun day _ => hextremes day,
      fun month _ => hmean month⟩

/-- Five rows at the end of January 2024 at an offset of one hour: a day without rain, two rows of the
last day, one of them at midnight, and a row of February. -/
theorem months_of_january :
    let offset : Offset := ⟨3600, by decide⟩
    let stamps : List (Option Int64) :=
      [some 1706526000, some 1706612400, some 1706698800, some 1706742000, some 1706742001]
    let cells : List (Option Float) := [some 0.75, none, some 1.5, some 2.25, some 0.5]
    let frame := uniform stamps .double cells [] rfl
    let january : DayKey := some 19723
    let february : DayKey := some 19754
    let days : List DayKey := [some 19751, some 19752, some 19753, february]
    ∃ daily monthly, ∃ totals rain wettest : DayKey → Float, ∃ lowest : DayKey → Option Float,
      frame.daily offset = .ok daily ∧ frame.monthly offset = .ok monthly ∧
      daily.column? "rain_fall" =
        some ⟨"rain_fall", .double, days.map fun day => some (totals day)⟩ ∧
      monthly.column? timeName = some ⟨timeName, .date, [january, february]⟩ ∧
      monthly.column? "rain" =
        some ⟨"rain", .double, [some (rain january), some (rain february)]⟩ ∧
      CellType.units .double (rain january) = CellType.units .double (4.5 : Float) ∧
      (∃ day ∈ daysIn days january, totals day = wettest january) ∧
      monthly.column? "lo_temp" = some ⟨"lo_temp", .double, [lowest january, lowest february]⟩ ∧
      lowest january = some 1.125 := by
  intro offset stamps cells frame january february days
  have hinside : ∀ n, some n ∈ stamps →
      ∃ t, (RecordTime.number (n - 1)).toInstant? offset = some t := by
    intro n hn
    apply Option.isSome_iff_exists.mp
    simp only [stamps, List.mem_cons, Option.some.injEq, List.not_mem_nil, or_false] at hn
    rcases hn with rfl | rfl | rfl | rfl | rfl <;> decide +kernel
  have hstamps : frame.HasStamps stamps := rfl
  obtain ⟨daily, monthly, days', months, hdaily, hmonthly, hdays, hmonths, -, -, -,
    ⟨c, totals, rain, wettest, hc, htotals, hrain, -, -, hmonth⟩, hmeans⟩ :=
    hstamps.months_of_days offset hinside fun name hname => ⟨_, column?_uniform rfl hname, rfl⟩
  have hrainFall : frame.column? "rain_fall" = some ⟨"rain_fall", .double, cells⟩ :=
    column?_uniform rfl (by decide)
  obtain rfl := Option.some.inj (hrainFall.symm.trans hc)
  change DayKey → Float at totals rain wettest
  replace htotals : daily.column? "rain_fall" =
    some ⟨"rain_fall", .double, days'.map fun day => some (totals day)⟩ := htotals
  obtain ⟨c, extremes, lowest, hc, hextremes, hlowest, -, hmean⟩ :=
    hmeans ("lo_temp", .least) List.mem_cons_self
  have hloTemp : frame.column? "lo_temp" = some ⟨"lo_temp", .double, cells⟩ :=
    column?_uniform rfl (by decide)
  obtain rfl := Option.some.inj (hloTemp.symm.trans hc)
  change DayKey → Option Float at extremes lowest
  replace hextremes : daily.column? "lo_temp" = some ⟨"lo_temp", .double, days'.map extremes⟩ :=
    hextremes
  have hdayKeys : cellsOf? (frame.daily offset) timeName .date = some days := by decide +kernel
  obtain rfl := Option.some.inj (hdayKeys.symm.trans (cellsOf?_of_column? hdaily hdays))
  have hmonthKeys : cellsOf? (frame.monthly offset) timeName .date = some [january, february] := by
    decide +kernel
  obtain rfl := Option.some.inj (hmonthKeys.symm.trans (cellsOf?_of_column? hmonthly hmonths))
  have hjanuary : daysIn days january = [some 19751, some 19752, some 19753] := by decide +kernel
  have hrains : cellsOf? (frame.daily offset) "rain_fall" .double =
      some [some 0.75, some 0, some 3.75, some 0.5] := by decide +kernel
  have hminima : cellsOf? (frame.daily offset) "lo_temp" .double =
      some [some 0.75, none, some 1.5, some 0.5] := by decide +kernel
  have hfirst : (daysIn days january).map totals = [0.75, 0, 3.75] := by
    have heq := hrains.symm.trans (cellsOf?_of_column? hdaily htotals)
    simp only [days, List.map_cons, Option.some.injEq, List.cons.injEq] at heq
    rw [hjanuary, List.map_cons, List.map_cons, List.map_singleton, ← heq.1, ← heq.2.1, ← heq.2.2.1]
  have hlow : (daysIn days january).filterMap extremes = [0.75, 1.5] := by
    have heq := hminima.symm.trans (cellsOf?_of_column? hdaily hextremes)
    simp only [days, List.map_cons, Option.some.injEq, List.cons.injEq] at heq
    simp [hjanuary, ← heq.1, ← heq.2.1, ← heq.2.2.1]
  obtain ⟨⟨wet, hwet, -, heq⟩, -, hexact⟩ := hmonth january List.mem_cons_self
  have hadds : ∀ day ∈ daysIn days january,
      CellType.AddsExactly .double ((rowsOn offset stamps (DayKey.date? day)).filterMap
        (Column.cell ⟨"rain_fall", .double, cells⟩)) := by
    rw [hjanuary]
    intro day hday
    simp only [List.mem_cons, List.not_mem_nil, or_false] at hday
    rcases hday with rfl | rfl | rfl <;> decide +kernel
  have hadds' : CellType.AddsExactly .double ((daysIn days january).map totals) := by
    rw [hfirst]
    decide +kernel
  have hsum := ((hexact hadds).2 hadds').2
  have hrows : CellType.units .double (4.5 : Float) = CellType.exactSum .double
      ((rowsIn offset stamps (DayKey.date? january)).filterMap
        (Column.cell ⟨"rain_fall", .double, cells⟩)) := by
    decide +kernel
  have hmean : CellType.IsMean .double ((daysIn days january).filterMap extremes)
      (lowest january) := hmean january List.mem_cons_self
  rw [hlow] at hmean
  refine ⟨daily, monthly, totals, rain, wettest, lowest, hdaily, hmonthly, htotals, hmonths, hrain,
    (hsum.eq_of_fits hrows).trans hrows.symm, ⟨wet, hwet, heq⟩, hlowest, ?_⟩
  exact (hmean.eq_meanOf? (by decide +kernel)).trans (by decide +kernel)

end Frame

end Meteogram
