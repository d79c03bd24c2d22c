import Mathlib.Tactic
import Meteogram.Proofs.Archive.Days

/-!
# Archives cut at midnights

A window between midnights is aggregated to those rows of the aggregate of the whole archive whose day
lies in it, by days and, between the first midnights of months, by months. It takes local columns:
what is known of the cells of a whole column can otherwise show in the summary of some of them.
-/
namespace Meteogram

namespace Frame

variable {f g : Frame} {stamps : List (Option Int64)} {lower upper : Int64} {offset : Offset}

/-- Whether what is formed of the days of a month does not depend on the days of other months. -/
def HasLocalDays (f : Frame) (offset : Offset) : Prop :=
  ∀ keys byDay, f.localDays offset = .ok keys →
    f.summarise monthDayPlan (Group.ofKeys keys) = .ok byDay → byDay.IsLocal monthlyPlan

/-- The lowest and highest temperatures of days have means that are formed alike, if all temperatures
have. -/
theorem HasStamps.hasLocalDays (h : f.HasStamps stamps)
    (hmeans : ∀ name ∈ ["lo_temp", "hi_temp"], ∀ c, f.column? name = some c →
      c.type.AveragesAlike c.cells) : f.HasLocalDays offset := by
  intro keys byDay hkeys hbyDay
  rw [h.localDays, Except.ok.injEq] at hkeys
  have hlength : keys.length = f.height := hkeys ▸ h.length_keys
  have hparts := (size_of_summarise hbyDay).2
  have hextreme : ∀ p ∈ monthDayPlan.steps, p.summary = .least ∨ p.summary = .greatest →
      p.source ∈ ["lo_temp", "hi_temp"] → ∀ c, byDay.column? p.output = some c →
        c.type.AveragesAlike c.cells :=
    fun p hp hsummary hname =>
      averagesAlike_of_summarise hlength hp hsummary (hmeans p.source hname) hbyDay
  intro p hp c hc
  simp only [monthlyPlan, List.mem_cons, List.not_mem_nil, or_false] at hp
  rcases hp with rfl | rfl | rfl | rfl
  · exact hextreme ⟨"lo_temp", .least, "lo_temp"⟩ (by decide) (.inl rfl) (by decide) c hc
  · exact hextreme ⟨"hi_temp", .greatest, "hi_temp"⟩ (by decide) (.inr rfl) (by decide) c hc
  · trivial
  · exact fun _ hne => absurd hparts hne

theorem monthly_eq {keys : List DayKey} (h : f.localDays offset = .ok keys) :
    f.monthly offset = f.summarise monthDayPlan (Group.ofKeys keys) >>= fun byDay =>
      byDay.summarise monthlyPlan
        (Group.ofKeys ((DayKey.distinct keys).map fun key => key.map monthStart)) := by
  rw [monthly, h, Except.ok_bind]
  simp only [Group.ofKeys, List.map_map, Function.comp_def]

/-- Only a missing column keeps a frame from being aggregated. -/
theorem exists_aggregates {keys : List DayKey} (h : f.localDays offset = .ok keys)
    (hcolumns : ∀ p ∈ dailyPlan.steps, ∃ c, f.column? p.source = some c) :
    (∃ g, f.daily offset = .ok g) ∧ ∃ g, f.monthly offset = .ok g := by
  have hdays : ∀ p ∈ monthDayPlan.steps, ∃ q ∈ dailyPlan.steps, q.source = p.source := by decide
  have hmonths : ∀ p ∈ monthlyPlan.steps, ∃ q ∈ monthDayPlan.steps, q.output = p.source := by
    decide
  constructor
  · rw [daily, h, Except.ok_bind]
    exact exists_summarise hcolumns _
  · have hsources : ∀ p ∈ monthDayPlan.steps, ∃ c, f.column? p.source = some c := by
      intro p hp
      obtain ⟨q, hq, hsource⟩ := hdays p hp
      exact hsource ▸ hcolumns q hq
    obtain ⟨byDay, hbyDay⟩ := exists_summarise hsources (Group.ofKeys keys)
    rw [monthly_eq h, hbyDay, Except.ok_bind]
    refine exists_summarise (fun p hp => ?_) _
    obtain ⟨q, hq, houtput⟩ := hmonths p hp
    obtain ⟨c, -, hc⟩ := column?_of_summarise hbyDay hq
    exact ⟨_, houtput ▸ hc⟩

/-- A month that begins at a day holds no day before it. -/
theorem le_dayNumber_truncate_iff {first : Instant} (h : Period.month.IsStart first) (t : Instant) :
    first.dayNumber ≤ (Period.month.truncate t).dayNumber ↔ first.dayNumber ≤ t.dayNumber := by
  have htruncate := (Period.truncate_second .month rfl t).1
  obtain ⟨hlo, hhi⟩ := Period.month.startSecond_number t
  have hfirst := h.second_eq
  have hmidnight : Period.month.startSecond (Period.month.number first) % 86400 = 0 :=
    Int.mul_emod_left _ _
  simp only [Instant.dayNumber, htruncate, hfirst]
  constructor
  · -- A month begins no later than any of its days.
    intro hle
    omega
  · -- No month begins within another one.
    intro hle
    have hlt := Period.month.startSecond_strictMono.lt_iff_lt.mp
      (show Period.month.startSecond (Period.month.number first) <
        Period.month.startSecond (Period.month.number t + 1) by omega)
    have hmono := Period.month.startSecond_strictMono.monotone (Int.lt_add_one_iff.mp hlt)
    omega

theorem isIn_monthStart {first stop : Instant} (hfirst : Period.month.IsStart first)
    (hstop : Period.month.IsStart stop)
    (hinside : ∀ n, some n ∈ stamps → ∃ t, offset.instantOf? (n.toInt - 1) = some t) :
    ∀ key ∈ stamps.map (·.bind offset.dayOf?),
      DayKey.isIn first.dayNumber stop.dayNumber (key.map monthStart) =
        DayKey.isIn first.dayNumber stop.dayNumber key := by
  intro key hkey
  obtain ⟨stamp, hstamp, rfl⟩ := List.mem_map.mp hkey
  cases stamp with
  | none => rfl
  | some n =>
    obtain ⟨t, ht⟩ := hinside n hstamp
    have hlower := le_dayNumber_truncate_iff hfirst t
    have hupper := le_dayNumber_truncate_iff hstop t
    rw [Option.bind_some, Offset.dayOf?_eq ht, Option.map_some, monthStart_dayNumber]
    simp only [DayKey.isIn, Option.any_some, Instant.toInt_ofInt_dayNumber, ← Bool.decide_and,
      decide_eq_decide]
    omega

/-- Selecting days before they are summarised day by day is selecting them afterwards. -/
theorem daily_keep {keys : List DayKey} {first stop : ℤ} (hlength : keys.length = f.height)
    (hdays : f.localDays offset = .ok keys)
    (hselected : (f.keep (rowsWith (DayKey.isIn first stop) keys)).localDays offset =
      .ok (keys.filter (DayKey.isIn first stop))) (hlocal : f.IsLocal dailyPlan) :
    (f.keep (rowsWith (DayKey.isIn first stop) keys)).daily offset =
      (f.daily offset).map (·.keepDays first stop) := by
  rw [daily, hselected, Except.ok_bind, daily, hdays, Except.ok_bind]
  exact summarise_keepDays hlocal hlength first stop

/-- Selecting days of whole months before they are summarised month by month is selecting these months
afterwards. -/
theorem monthly_keep {keys : List DayKey} {first stop : ℤ} (hlength : keys.length = f.height)
    (hdays : f.localDays offset = .ok keys)
    (hselected : (f.keep (rowsWith (DayKey.isIn first stop) keys)).localDays offset =
      .ok (keys.filter (DayKey.isIn first stop)))
    (hmonths : ∀ key ∈ keys,
      DayKey.isIn first stop (key.map monthStart) = DayKey.isIn first stop key)
    (hlocal : f.IsLocal monthDayPlan) (hmonthly : f.HasLocalDays offset) :
    (f.keep (rowsWith (DayKey.isIn first stop) keys)).monthly offset =
      (f.monthly offset).map (·.keepDays first stop) := by
  rw [monthly_eq hselected, monthly_eq hdays, summarise_keepDays hlocal hlength]
  cases hbyDay : f.summarise monthDayPlan (Group.ofKeys keys) with
  | error e => rfl
  | ok byDay =>
    -- The condition on days holds of the first day of a month as of any other, so that the frame of
    -- days is selected by the keys of its months.
    have hmonths' : ∀ key ∈ DayKey.distinct keys,
        DayKey.isIn first stop (key.map monthStart) = DayKey.isIn first stop key :=
      fun key hkey => hmonths key (DayKey.mem_distinct.mp hkey)
    have hrows : byDay.dayRows first stop = rowsWith (DayKey.isIn first stop)
        ((DayKey.distinct keys).map fun key => key.map monthStart) := by
      rw [dayRows_of_summarise hbyDay, rowsWith_map hmonths']
    have hkeys : (DayKey.distinct (keys.filter (DayKey.isIn first stop))).map
          (fun key => key.map monthStart) =
        ((DayKey.distinct keys).map fun key => key.map monthStart).filter
          (DayKey.isIn first stop) := by
      rw [DayKey.distinct_filter, List.filter_map]
      exact congrArg (List.map _) (List.filter_congr hmonths').symm
    have hheight : ((DayKey.distinct keys).map fun key => key.map monthStart).length =
        byDay.height := by
      rw [(size_of_summarise hbyDay).1, List.length_map, ← Group.map_day_ofKeys, List.length_map]
    change (byDay.keep (byDay.dayRows first stop)).summarise monthlyPlan _ = _
    rw [hrows, hkeys]
    exact summarise_keepDays (hmonthly keys byDay hdays hbyDay) hheight first stop

theorem HasStamps.daily_window (h : f.HasStamps stamps) {first stop : Instant}
    (hlower : offset.instantOf? lower.toInt = some first)
    (hupper : offset.instantOf? upper.toInt = some stop) (hfirst : Period.day.IsStart first)
    (hstop : Period.day.IsStart stop)
    (hinside : ∀ n, some n ∈ stamps → ∃ t, offset.instantOf? (n.toInt - 1) = some t)
    (hlocal : f.IsLocal dailyPlan) :
    (f.window lower upper >>= fun g => g.daily offset) =
      (f.daily offset).map (·.keepDays first.dayNumber stop.dayNumber) := by
  obtain ⟨g, hg, rfl, hselected⟩ := h.window_eq_keep hlower hupper hfirst hstop hinside
  rw [hg, Except.ok_bind]
  exact daily_keep h.length_keys (h.localDays offset) hselected hlocal

theorem HasStamps.monthly_window (h : f.HasStamps stamps) {first stop : Instant}
    (hlower : offset.instantOf? lower.toInt = some first)
    (hupper : offset.instantOf? upper.toInt = some stop) (hfirst : Period.month.IsStart first)
    (hstop : Period.month.IsStart stop)
    (hinside : ∀ n, some n ∈ stamps → ∃ t, offset.instantOf? (n.toInt - 1) = some t)
    (hlocal : f.IsLocal monthDayPlan) (hmonthly : f.HasLocalDays offset) :
    (f.window lower upper >>= fun g => g.monthly offset) =
      (f.monthly offset).map (·.keepDays first.dayNumber stop.dayNumber) := by
  have hfirst' : Period.day.IsStart first :=
    Period.truncate_of_isStart rfl hfirst ▸ Period.isStart_day_month first
  have hstop' : Period.day.IsStart stop :=
    Period.truncate_of_isStart rfl hstop ▸ Period.isStart_day_month stop
  obtain ⟨g, hg, rfl, hselected⟩ := h.window_eq_keep hlower hupper hfirst' hstop' hinside
  rw [hg, Except.ok_bind]
  exact monthly_keep h.length_keys (h.localDays offset) hselected
    (isIn_monthStart hfirst hstop hinside) hlocal hmonthly

/-- An archive may be cut before it is aggregated or afterwards. Between midnights the window of a frame
is aggregated to the days in it of the aggregate of the whole frame, the rows without a time being
dropped, and between the first midnights of months to the months, where the lowest and the highest
temperatures also have means that are formed alike. Windows that follow one another hold
the rows of the window over both, each once. A frame with all columns has its aggregates, and their
days follow one another likewise. -/
theorem HasStamps.aggregates_of_window (h : f.HasStamps stamps) (offset : Offset)
    (hinside : ∀ n, some n ∈ stamps → ∃ t, offset.instantOf? (n.toInt - 1) = some t)
    {lower upper : Int64} {first stop : Instant}
    (hlower : offset.instantOf? lower.toInt = some first)
    (hupper : offset.instantOf? upper.toInt = some stop) :
    (Period.day.IsStart first → Period.day.IsStart stop → f.IsLocal dailyPlan →
      (f.window lower upper >>= fun g => g.daily offset) =
        (f.daily offset).map (·.keepDays first.dayNumber stop.dayNumber)) ∧
    (Period.month.IsStart first → Period.month.IsStart stop → f.IsLocal monthDayPlan →
      (∀ name ∈ ["lo_temp", "hi_temp"], ∀ c, f.column? name = some c →
        c.type.AveragesAlike c.cells) →
      (f.window lower upper >>= fun g => g.monthly offset) =
        (f.monthly offset).map (·.keepDays first.dayNumber stop.dayNumber)) ∧
    (∀ a b, f.window a b = .ok (f.keep (rowsWith (inWindow a b) stamps))) ∧
    (∀ a b c, a ≤ b → b ≤ c → (rowsWith (inWindow a c) stamps).Perm
      (rowsWith (inWindow a b) stamps ++ rowsWith (inWindow b c) stamps)) ∧
    ((∀ p ∈ dailyPlan.steps, ∃ c, f.column? p.source = some c) →
      (∃ g, f.daily offset = .ok g) ∧ ∃ g, f.monthly offset = .ok g) ∧
    ∀ g, f.daily offset = .ok g ∨ f.monthly offset = .ok g → ∀ a b c, a ≤ b → b ≤ c →
      g.dayRows a c = g.dayRows a b ++ g.dayRows b c := by
  refine ⟨?_, ?_, h.window_eq, ?_, exists_aggregates (h.localDays offset), ?_⟩
  · intro hfirst hstop hlocal
    exact h.daily_window hlower hupper hfirst hstop hinside hlocal
  · intro hfirst hstop hlocal hmeans
    exact h.monthly_window hlower hupper hfirst hstop hinside hlocal (h.hasLocalDays hmeans)
  · intro a b c hab hbc
    exact rowsWith_inWindow_perm stamps (Int64.le_iff_toInt_le.mp hab)
      (Int64.le_iff_toInt_le.mp hbc)
  · intro g hg a b c hab hbc
    rcases hg with hg | hg
    · rw [daily, h.localDays, Except.ok_bind] at hg
      exact dayRows_append hg hab hbc
    · rw [monthly_eq (h.localDays offset)] at hg
      obtain ⟨byDay, -, hg⟩ := Except.bind_eq_ok.mp hg
      exact dayRows_append hg hab hbc

/-! ### Frames with the same cells in every column -/

/-- A frame of stamps in which all columns that are aggregated have the same cells. -/
def uniform (stamps : List (Option Int64)) (type : CellType) (cells : List (Option type.Value))
    (parts : List ℕ) (h : cells.length = stamps.length) : Frame where
  columns := ⟨timeName, .int64, stamps⟩ ::
    (dailyPlan.steps.map (·.source)).map fun name => ⟨name, type, cells⟩
  height := stamps.length
  parts := parts
  height_eq := by simp [h]
  distinct := by
    change (timeName :: dailyPlan.steps.map (·.source)).Nodup
    decide

section uniform

variable {type : CellType} {cells : List (Option type.Value)} {parts : List ℕ}
  (hlength : cells.length = stamps.length)

theorem column?_uniform {name : String} (hname : name ∈ dailyPlan.steps.map (·.source)) :
    (uniform stamps type cells parts hlength).column? name = some ⟨name, type, cells⟩ :=
  column?_eq_some.mpr ⟨List.mem_cons_of_mem _ (List.mem_map_of_mem hname), rfl⟩

theorem isLocal_uniform {plan : Plan}
    (hsources : ∀ p ∈ plan.steps, p.source ∈ dailyPlan.steps.map (·.source))
    (hranks : type.AreComparable cells.reduceOption) (hmeans : type.AveragesAlike cells) :
    (uniform stamps type cells parts hlength).IsLocal plan := by
  rintro ⟨source, summary, output⟩ hp c hc
  rw [column?_uniform hlength (hsources _ hp)] at hc
  cases hc
  cases summary with
  | least => exact fun _ _ => hranks
  | greatest => exact fun _ _ => hranks
  | total => trivial
  | mean => exact hmeans

end uniform

/-- Five rows around January 2024, one without a time, at an offset of one hour and read in two
parts. -/
theorem aggregates_of_january :
    let offset : Offset := ⟨3600, by decide⟩
    let stamps : List (Option Int64) :=
      [none, some 1704063600, some 1704063601, some 1706742000, some 1706742001]
    let cells : List (Option Float) := [some 1.5, some 2.5, none, some 3.5, some 4.5]
    let frame := uniform stamps .double cells [2, 3] rfl
    (frame.window 1704063600 1706742000 >>= fun g => g.daily offset) =
        (frame.daily offset).map (·.keepDays 19723 19754) ∧
      (frame.window 1704063600 1706742000 >>= fun g => g.monthly offset) =
        (frame.monthly offset).map (·.keepDays 19723 19754) ∧
      (∃ g, frame.daily offset = .ok g) ∧ ∃ g, frame.monthly offset = .ok g := by
  intro offset stamps cells frame
  let first : Instant := ⟨1704067200, 0, by decide, by decide, by decide⟩
  let stop : Instant := ⟨1706745600, 0, by decide, by decide, by decide⟩
  have hlower : offset.instantOf? (1704063600 : Int64).toInt = some first := by decide +kernel
  have hupper : offset.instantOf? (1706742000 : Int64).toInt = some stop := by decide +kernel
  have hinside : ∀ n, some n ∈ stamps → ∃ t, offset.instantOf? (n.toInt - 1) = some t := by
    intro n hn
    apply Option.isSome_iff_exists.mp
    simp only [stamps, List.mem_cons, Option.some.injEq, reduceCtorEq, List.not_mem_nil, or_false,
      false_or] at hn
    rcases hn with rfl | rfl | rfl | rfl <;> decide +kernel
  have hranks : CellType.AreComparable .double cells.reduceOption := by
    have hvalues : ∀ a ∈ ([1.5, 2.5, 3.5, 4.5] : List Float),
        ∀ b ∈ ([1.5, 2.5, 3.5, 4.5] : List Float), a ≠ b →
          CellType.before .double a b = true ∨ CellType.before .double b a = true := by
      decide +kernel
    exact hvalues
  have hmeans : CellType.AveragesAlike .double cells := by
    refine ⟨fun _ x hx => ?_, fun _ _ => rfl⟩
    have hvalues : ∀ y ∈ ([1.5, 2.5, 3.5, 4.5] : List Float), y ≠ -0.0 := by decide +kernel
    have hmem : x ∈ cells.reduceOption := List.reduceOption_mem_iff.mpr hx
    exact hvalues x hmem
  have hstamps : frame.HasStamps stamps := rfl
  have htemps : ∀ name ∈ ["lo_temp", "hi_temp"], ∀ c, frame.column? name = some c →
      c.type.AveragesAlike c.cells := by
    intro name hname c hc
    have hsource : name ∈ dailyPlan.steps.map (·.source) := by
      simp only [List.mem_cons, List.not_mem_nil, or_false] at hname
      rcases hname with rfl | rfl <;> decide
    rw [column?_uniform rfl hsource] at hc
    cases hc
    exact hmeans
  obtain ⟨hdaily, hmonthly, -, -, hexists, -⟩ :=
    hstamps.aggregates_of_window offset hinside hlower hupper
  refine ⟨?_, ?_, hexists fun p hp => ⟨_, column?_uniform rfl (List.mem_map_of_mem hp)⟩⟩
  · exact hdaily ⟨by decide, rfl⟩ ⟨by decide, rfl⟩ (isLocal_uniform rfl (by decide) hranks hmeans)
  · exact hmonthly ⟨by decide +kernel, rfl⟩ ⟨by decide +kernel, rfl⟩
      (isLocal_uniform rfl (by decide) hranks hmeans) htemps

/-- The cells of a column of a result, if it has this type. -/
def cellsOf? (result : Except FrameError Frame) (name : String) (type : CellType) :
    Option (List (Option type.Value)) :=
  match result with
  | .ok g => (g.column? name).bind fun c =>
    if h : c.type = type then some (h ▸ c.cells) else none
  | .error _ => none

theorem cellsOf?_of_column? {result : Except FrameError Frame} (hresult : result = .ok f)
    {name : String} {type : CellType} {cells : List (Option type.Value)}
    (hc : f.column? name = some ⟨name, type, cells⟩) : cellsOf? result name type = some cells := by
  rw [hresult, cellsOf?, hc, Option.bind_some, dif_pos rfl]

/-- Columns have to be local. A day that is cut out of an archive is aggregated to a negative zero, to
the timestamp of its only row or to what is not a number, where the aggregate of the archive has zero,
a rounded timestamp and a number: the sum no longer starts from zero as no cell is missing, the frame
has one row left, and the rest of the parts rise. -/
theorem aggregates_of_window_ne :
    let lower : Int64 := 1704067200
    let upper : Int64 := 1704153600
    let first : Instant := ⟨1704067200, 0, by decide, by decide, by decide⟩
    let stop : Instant := ⟨1704153600, 0, by decide, by decide, by decide⟩
    let zeros := uniform [some 1704070800, some 1704074400, some 1704157200] .double
      [some (-0.0), some (-0.0), none] [] rfl
    let ticks := uniform [some 1704070800, some 1704157200] (.ticks .nano)
      [some 9007199254740993, some 9007199254740994] [] rfl
    let parts := uniform [some 1704063600, some 1704070800, some 1704074400] .double
      [some 9.5, some 1.5, some (0 / 0)] [1, 1, 1] rfl
    let commutes (f : Frame) : Prop := (f.window lower upper >>= fun g => g.daily .utc) =
      (f.daily .utc).map (·.keepDays first.dayNumber stop.dayNumber)
    (Offset.utc.instantOf? lower.toInt = some first ∧ Period.day.IsStart first) ∧
      (Offset.utc.instantOf? upper.toInt = some stop ∧ Period.day.IsStart stop) ∧
      ¬ commutes zeros ∧ ¬ commutes ticks ∧ ¬ commutes parts := by
  intro lower upper first stop zeros ticks parts commutes
  refine ⟨⟨by decide, ⟨by decide, rfl⟩⟩, ⟨by decide, ⟨by decide, rfl⟩⟩, ?_, ?_, ?_⟩
  · intro h
    have hcells := congrArg (fun result => cellsOf? result "avg_wind_speed" .double) h
    revert hcells
    decide +kernel
  · intro h
    have hcells := congrArg (fun result => cellsOf? result "barometer" (.ticks .nano)) h
    revert hcells
    decide +kernel
  · intro h
    have hcells := congrArg (fun result => cellsOf? result "hi_temp" .double) h
    revert hcells
    decide +kernel

end Frame

end Meteogram
