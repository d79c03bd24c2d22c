import Meteogram.Chart.Preset
import Meteogram.Proofs.Align.Independence
import Meteogram.Proofs.Archive.Chart

/-!
# Built-in charts of archives

The rows of an archive with the columns that a built-in chart needs can always be laid on the days
or the months of its axis, whatever rows they are: rows of one day become one bucket, and buckets come
in the order of their days. A record that shares a bucket with another one, or that is earlier than
the one before it, does not arise. What can be missing is a field: the least and the greatest of
integers of 8 or of 16 bits are of the same type, and columns of that type are left out of records. A
chart of days that reads one of them is refused; means and totals are wider, so that charts of months
are always drawn.
-/
namespace Meteogram

/-- What succeeds unless something in a list is bad, and fails for the first that is. -/
theorem Except.eq_iff_of_first {ε α β : Type} {x : Except ε α} {bs : List β} {bad : β → Prop}
    {error : β → ε} (hok : (∀ b ∈ bs, ¬ bad b) → ∃ a, x = .ok a)
    (herror : ∀ i b, bs[i]? = some b → bad b → (∀ b' ∈ bs.take i, ¬ bad b') →
      x = .error (error b)) :
    ((∃ a, x = .ok a) ↔ ∀ b ∈ bs, ¬ bad b) ∧
    ∀ e, x = .error e ↔
      ∃ i b, bs[i]? = some b ∧ bad b ∧ (∀ b' ∈ bs.take i, ¬ bad b') ∧ e = error b := by
  by_cases h : ∀ b ∈ bs, ¬ bad b
  · obtain ⟨a, rfl⟩ := hok h
    refine ⟨iff_of_true ⟨a, rfl⟩ h, fun e => iff_of_false nofun ?_⟩
    rintro ⟨i, b, hi, hb, -⟩
    exact h b (List.mem_of_getElem? hi) hb
  · obtain ⟨i, b, hi, hb, hbefore⟩ := exists_first_not h
    rw [not_not] at hb
    obtain rfl := herror i b hi hb hbefore
    refine ⟨iff_of_false nofun h, fun e => ⟨?_, ?_⟩⟩
    · rintro ⟨⟩
      exact ⟨i, b, hi, hb, hbefore, rfl⟩
    · rintro ⟨j, b', hj, hb', hbefore', rfl⟩
      exact herror j b' hj hb' hbefore'

/-- Days on which instants begin, in increasing order, are days of increasing instants. -/
theorem DayKey.exists_instants {p : Period} {keys : List DayKey}
    (hsorted : keys.Pairwise (fun a b => DayKey.before a b = true))
    (h : ∀ k ∈ keys, ∃ t : Instant, p.IsStart t ∧ Period.day.IsStart t ∧
      k = some (Int32.ofInt t.dayNumber)) :
    ∃ instants : List Instant, keys.map (·.bind RecordTime.ofDays?) =
        instants.map (some ∘ .instant) ∧
      instants.Pairwise (· < ·) ∧ ∀ t ∈ instants, p.IsStart t := by
  obtain ⟨instants, rfl, hstart⟩ : ∃ instants : List Instant,
      keys = instants.map (fun t => some (Int32.ofInt t.dayNumber)) ∧
        ∀ t ∈ instants, p.IsStart t ∧ Period.day.IsStart t := by
    clear hsorted
    induction keys with
    | nil => exact ⟨[], rfl, by simp⟩
    | cons k keys ih =>
      rw [List.forall_mem_cons] at h
      obtain ⟨t, ht, hday, rfl⟩ := h.1
      obtain ⟨instants, rfl, hstart⟩ := ih h.2
      exact ⟨t :: instants, rfl, List.forall_mem_cons.mpr ⟨⟨ht, hday⟩, hstart⟩⟩
  refine ⟨instants, ?_, ?_, fun t ht => (hstart t ht).1⟩
  · rw [List.map_map]
    apply List.map_congr_left
    intro t ht
    rw [Function.comp_apply, Option.bind_some, RecordTime.ofDays?_dayNumber (hstart t ht).2]
    rfl
  · rw [List.pairwise_map] at hsorted
    refine hsorted.imp_of_mem ?_
    intro a b ha hb hab
    rw [DayKey.before, decide_eq_true_iff, Int32.lt_iff_toInt_lt, a.toInt_ofInt_dayNumber,
      b.toInt_ofInt_dayNumber] at hab
    exact ((hstart a ha).2.lt_iff (hstart b hb).2).mpr hab

/-- Records at the starts of increasing buckets, all of them with those of the named fields that are
not lost. -/
structure AreBuckets (p : Period) (names : List String) (lost : String → Prop)
    (records : List Record) : Prop where
  ne_nil : records ≠ []
  has : ∀ name ∈ names, ∀ r ∈ records, r.has name = true ↔ ¬ lost name
  increasing : ∃ instants : List Instant, records.map (·.time) = instants.map .instant ∧
    instants.Pairwise (· < ·) ∧ ∀ t ∈ instants, p.IsStart t

section AreBuckets

variable {p : Period} {names : List String} {lost : String → Prop} {records : List Record}

theorem AreBuckets.congr (h : AreBuckets p names lost records) {lost' : String → Prop}
    (hlost : ∀ name, lost name ↔ lost' name) : AreBuckets p names lost' records where
  ne_nil := h.ne_nil
  has name hname r hr := (h.has name hname r hr).trans (not_congr (hlost name))
  increasing := h.increasing

/-- Records at the starts of increasing buckets can be laid under every policy for shared buckets. -/
theorem AreBuckets.exists_alignFields (h : AreBuckets p names lost records) {a : Aligner}
    (ha : a.axis = .calendar p) (hp : p.isStepped = true) (hfault : a.axisFault? = none)
    {records' : List Record} (htimes : records'.map (·.time) = records.map (·.time))
    {fields : List String} (hknown : ∀ f ∈ fields, IsKnown records' f) :
    ∃ frame, a.alignFields records' fields = .ok frame := by
  obtain ⟨instants, hinstants, hsorted, hstart⟩ := h.increasing
  have hclock := congrArg (List.map a.instant?) (htimes.trans hinstants)
  rw [List.map_map, List.map_map] at hclock
  have hkeys : instants.map p.truncate = instants :=
    (List.map_congr_left fun t ht => Period.truncate_of_isStart hp (hstart t ht)).trans
      (List.map_id _)
  have hchain : (instants.map p.truncate).IsChain a.options.duplicates.Follows := by
    rw [hkeys]
    exact (hsorted.imp fun hlt => Or.inl hlt).isChain
  have hne : records' ≠ [] := by
    rintro rfl
    exact h.ne_nil (List.map_eq_nil_iff.mp htimes.symm)
  exact Aligner.exists_alignFields_of_instants ha hfault hclock hchain hne hknown

theorem Aligner.boundFault?_eq_none {a : Aligner} {bound : Option Int64}
    (h : ∀ b, bound = some b → ∃ t, a.options.offset.instantOf? b.toInt = some t) :
    a.boundFault? (bound.map .number) = none := by
  cases bound with
  | none => rfl
  | some b =>
    obtain ⟨t, ht⟩ := h b rfl
    simp [boundFault?, show a.instant? (.number b) = some t from ht]

/-- There is nothing wrong with a calendar axis between seconds inside the calendar. -/
theorem Aligner.axisFault?_eq_none {a : Aligner} (ha : a.axis = .calendar p)
    {lower upper : Option Int64} (hl : a.lower = lower.map .number)
    (hu : a.upper = upper.map .number)
    (h : ∀ b, lower = some b ∨ upper = some b →
      ∃ t, a.options.offset.instantOf? b.toInt = some t) : a.axisFault? = none := by
  simp only [axisFault?, ha, Option.orElse_eq_none]
  rw [hl, hu]
  exact ⟨boundFault?_eq_none fun b hb => h b (.inl hb),
    boundFault?_eq_none fun b hb => h b (.inr hb)⟩

/-- What a chart knows: the fields of the records, and its own running total. -/
theorem ChartSpec.isKnown_annotated {spec : ChartSpec} {field : String} (hne : records ≠ []) :
    IsKnown (spec.annotated records) field ↔
      spec.runningTotal.map (·.output) = some field ∨ IsKnown records field := by
  unfold annotated
  cases htotal : spec.runningTotal with
  | none => simp
  | some total => simp [isKnown_annotateRunningTotal, hne, eq_comm (a := field)]

/-- A chart knows the fields of such records that are not lost, if its running total is not lost. -/
theorem AreBuckets.isKnown_annotated (h : AreBuckets p names lost records) {spec : ChartSpec}
    (htotal : ∀ f, spec.runningTotal.map (·.output) = some f → ¬ lost f) {f : String}
    (hf : f ∈ names ∨ spec.runningTotal.map (·.output) = some f) :
    IsKnown (spec.annotated records) f ↔ ¬ lost f := by
  rw [ChartSpec.isKnown_annotated h.ne_nil]
  by_cases houtput : spec.runningTotal.map (·.output) = some f
  · exact iff_of_true (.inl houtput) (htotal f houtput)
  · rw [or_iff_right houtput]
    have hname := hf.resolve_right houtput
    obtain ⟨r, hr⟩ := List.exists_mem_of_ne_nil _ h.ne_nil
    constructor
    · rintro ⟨r', hr', hhas⟩
      exact (h.has f hname r' hr').mp hhas
    · intro hkept
      exact ⟨r, hr, (h.has f hname r hr).mpr hkept⟩

/-- A well described chart of such records is drawn if none of its fields is lost, and is refused for
the first one otherwise. -/
theorem AreBuckets.ofDataset_iff {dataset : Dataset} (h : AreBuckets p names lost dataset.data)
    (hp : p.isStepped = true) (hperiod : dataset.period = p) {spec : ChartSpec}
    (hspec : spec.fault? = none)
    (hknown : ∀ f ∈ spec.fields, IsKnown (spec.annotated dataset.data) f ↔ ¬ lost f)
    {options : AlignOptions} (hfault : (Aligner.ofDataset dataset none options).axisFault? = none) :
    ((∃ config, ChartConfig.ofDataset spec dataset none options = .ok config) ↔
      ∀ f ∈ spec.fields, ¬ lost f) ∧
    ∀ e, ChartConfig.ofDataset spec dataset none options = .error e ↔
      ∃ i f, spec.fields[i]? = some f ∧ lost f ∧ (∀ g ∈ spec.fields.take i, ¬ lost g) ∧
        e = .align (.unknownField f) := by
  have htimes := spec.map_time_annotated dataset.data
  refine Except.eq_iff_of_first ?_ ?_
  · intro hkept
    obtain ⟨frame, hframe⟩ := h.exists_alignFields (congrArg Axis.calendar hperiod) hp hfault
      htimes fun f hf => (hknown f hf).mpr (hkept f hf)
    exact ⟨_, by rw [ChartConfig.ofDataset_of_declared hspec, hframe]⟩
  · intro i f hi hlost hbefore
    have hne : spec.annotated dataset.data ≠ [] := by
      intro hnil
      rw [hnil] at htimes
      exact h.ne_nil (List.map_eq_nil_iff.mp htimes.symm)
    have hunknown : ¬ IsKnown (spec.annotated dataset.data) f := by
      rw [hknown f (List.mem_of_getElem? hi), not_not]
      exact hlost
    have halign := Aligner.alignFields_eq_unknownField_iff.mpr ⟨⟨hfault, hne⟩, i, hi,
      fun g hg => (hknown g (List.mem_of_mem_take hg)).mpr (hbefore g hg), hunknown⟩
    rw [ChartConfig.ofDataset_of_declared hspec, halign]

end AreBuckets

namespace Frame

variable {f : Frame} {names : List String} {stamps : List (Option Int64)} {offset : Offset}

/-- Whether the columns of two frames are of the same types. -/
def HasTypesOf (g f : Frame) : Prop :=
  ∀ name, (g.column? name).map (·.type) = (f.column? name).map (·.type)

theorem hasTypesOf_keep (f : Frame) (rows : List ℕ) : (f.keep rows).HasTypesOf f := by
  intro name
  rw [column?_keep, Option.map_map]
  rfl

/-- A column has a counterpart of its type. -/
theorem HasTypesOf.exists_column {g : Frame} (h : g.HasTypesOf f) {name : String} {c : Column}
    (hc : f.column? name = some c) : ∃ c', g.column? name = some c' ∧ c'.type = c.type := by
  have htype := h name
  rw [hc] at htype
  exact Option.map_eq_some_iff.mp htype

theorem HasTypesOf.symm {g : Frame} (h : g.HasTypesOf f) : f.HasTypesOf g := fun name => (h name).symm

theorem HasTypesOf.hasNumbers {g : Frame} (h : g.HasTypesOf f) (hnumbers : f.HasNumbers names) :
    g.HasNumbers names := by
  intro name hname
  obtain ⟨c, hc, hnumeric⟩ := hnumbers name hname
  obtain ⟨c', hc', htype⟩ := h.exists_column hc
  exact ⟨c', hc', htype ▸ hnumeric⟩

/-- Whether the records of rows that are summarised by a plan lose a column, because its summary is
narrow. -/
def Loses (f : Frame) (plan : Plan) (name : String) : Prop :=
  ∃ step ∈ plan.steps, step.output = name ∧
    ∃ c, f.column? step.source = some c ∧ (c.type.summaryType step.summary).isNarrow = true

/-- Whether the records of a frame's days or months lack a column: an extreme of days whose cells are
narrow. -/
def Lacks (f : Frame) (p : Period) (name : String) : Prop :=
  p = .day ∧ name ∈ ["lo_temp", "hi_temp", "hi_wind_speed"] ∧
    ∃ c, f.column? name = some c ∧ c.type.isNarrow = true

theorem not_lacks_month (f : Frame) (name : String) : ¬ f.Lacks .month name := by
  rintro ⟨hp, -⟩
  cases hp

theorem HasTypesOf.lacks_iff {g : Frame} (h : g.HasTypesOf f) {p : Period} {name : String} :
    g.Lacks p name ↔ f.Lacks p name := by
  have hmp {f g : Frame} (h : g.HasTypesOf f) : f.Lacks p name → g.Lacks p name := by
    rintro ⟨hp, hname, c, hc, hnarrow⟩
    obtain ⟨c', hc', htype⟩ := h.exists_column hc
    exact ⟨hp, hname, c', hc', htype ▸ hnarrow⟩
  exact ⟨hmp h.symm, hmp h⟩

/-- Of the columns of days, only the extremes are narrow. -/
theorem loses_dailyPlan_iff {name : String} : f.Loses dailyPlan name ↔ f.Lacks .day name := by
  simp only [Loses, Lacks, dailyPlan, List.mem_cons, List.not_mem_nil, or_false, exists_eq_or_imp,
    exists_eq_left, CellType.summaryType, CellType.isNarrow_totalType, CellType.isNarrow_meanType]
  constructor
  · rintro (⟨rfl, h⟩ | ⟨rfl, h⟩ | ⟨-, -, -, ⟨⟩⟩ | ⟨-, -, -, ⟨⟩⟩ | ⟨rfl, h⟩ | ⟨-, -, -, ⟨⟩⟩)
    · exact ⟨trivial, .inl rfl, h⟩
    · exact ⟨trivial, .inr (.inl rfl), h⟩
    · exact ⟨trivial, .inr (.inr rfl), h⟩
  · rintro ⟨-, rfl | rfl | rfl, h⟩
    · exact .inl ⟨rfl, h⟩
    · exact .inr (.inl ⟨rfl, h⟩)
    · exact .inr (.inr (.inr (.inr (.inl ⟨rfl, h⟩))))

/-- Months lose no column: the means and the totals that they are made from are not narrow. -/
theorem not_loses_monthlyPlan {byDay : Frame} {groups : List Group}
    (h : f.summarise monthDayPlan groups = .ok byDay) (name : String) :
    ¬ byDay.Loses monthlyPlan name := by
  obtain ⟨c, -, hrain⟩ := column?_of_summarise h
    (show ⟨"rain_fall", .total, "rain_fall"⟩ ∈ monthDayPlan.steps by simp [monthDayPlan])
  simp only [Loses, monthlyPlan, List.mem_cons, List.not_mem_nil, or_false, exists_eq_or_imp,
    exists_eq_left, CellType.summaryType, CellType.isNarrow_totalType, CellType.isNarrow_meanType]
  rintro (⟨-, -, -, ⟨⟩⟩ | ⟨-, -, -, ⟨⟩⟩ | ⟨-, -, -, ⟨⟩⟩ | ⟨-, c', hc', hnarrow⟩)
  obtain rfl := Option.some.inj (hc'.symm.trans hrain)
  change c.type.totalType.isNarrow = true at hnarrow
  rw [CellType.isNarrow_totalType] at hnarrow
  cases hnarrow

/-- A summarised frame has records, one for each day, with all columns of its plan that are not
lost. -/
theorem HasNumbers.exists_buckets {p : Period} {plan : Plan} {keys : List DayKey}
    (h : f.HasNumbers (plan.steps.map (·.source)))
    (hkeys : ∀ k ∈ keys, ∃ t : Instant, p.IsStart t ∧ Period.day.IsStart t ∧
      k = some (Int32.ofInt t.dayNumber)) (hne : keys ≠ []) :
    ∃ g records, f.summarise plan (Group.ofKeys keys) = .ok g ∧
      g.records timeName = .ok records ∧
      AreBuckets p (plan.steps.map (·.output)) (f.Loses plan) records := by
  obtain ⟨g, hg, hnumbers⟩ := h.summarise (Group.ofKeys keys)
  obtain ⟨instants, htimes, hsorted, hstart⟩ := DayKey.exists_instants
    (DayKey.pairwise_distinct keys) (fun k hk => hkeys k (DayKey.mem_distinct.mp hk))
  have hcells : (timeColumn (Group.ofKeys keys)).cells.map (·.bind RecordTime.ofDays?) =
      (instants.map RecordTime.instant).map some := by
    change ((Group.ofKeys keys).map (·.day)).map (·.bind RecordTime.ofDays?) = _
    rw [Group.map_day_ofKeys, htimes, List.map_map]
  obtain ⟨records, hrecords, hrecordTimes⟩ := exists_records (column?_summarise hg) rfl hcells
  refine ⟨g, records, hg, hrecords, ?_, ?_, instants, hrecordTimes, hsorted, hstart⟩
  · rintro rfl
    obtain ⟨k, hk⟩ := List.exists_mem_of_ne_nil _ hne
    have hmem := List.mem_map_of_mem (f := (·.bind RecordTime.ofDays?))
      (DayKey.mem_distinct.mpr hk)
    rw [htimes, List.map_eq_nil_iff.mp hrecordTimes.symm] at hmem
    cases hmem
  · intro name hname r hr
    have hplan := List.nodup_cons.mp plan.distinct
    obtain ⟨c, hc, hnumeric⟩ := hnumbers name hname
    rw [has_of_records hrecords hc (fun heq => hplan.1 (heq ▸ hname)) r hr, CellType.isField_eq,
      hnumeric, Bool.true_and, Bool.not_eq_true', ← Bool.not_eq_true, not_iff_not]
    obtain ⟨step, hstep, rfl⟩ := List.mem_map.mp hname
    obtain ⟨source, hsource, hsummary⟩ := column?_of_summarise hg hstep
    obtain rfl := Option.some.inj (hc.symm.trans hsummary)
    constructor
    · intro hnarrow
      exact ⟨step, hstep, rfl, source, hsource, hnarrow⟩
    · rintro ⟨step', hstep', heq, source', hsource', hnarrow⟩
      obtain rfl := List.inj_on_of_nodup_map hplan.2 hstep' hstep heq
      obtain rfl := Option.some.inj (hsource.symm.trans hsource')
      exact hnarrow

/-- The days of rows are days of instants. -/
theorem exists_dayStart (hcalendar : ∀ stamp ∈ stamps, ∃ n t, stamp = some n ∧
      offset.instantOf? (n.toInt - 1) = some t) :
    ∀ k ∈ stamps.map (·.bind offset.dayOf?), ∃ t : Instant, Period.day.IsStart t ∧
      k = some (Int32.ofInt t.dayNumber) := by
  intro k hk
  obtain ⟨stamp, hstamp, rfl⟩ := List.mem_map.mp hk
  obtain ⟨n, t, rfl, ht⟩ := hcalendar stamp hstamp
  refine ⟨Period.day.truncate t, Period.isStart_truncate .day rfl t, ?_⟩
  rw [Option.bind_some, Offset.dayOf?_eq ht,
    show (Period.day.truncate t).dayNumber = t.dayNumber from Period.number_truncate .day t]

theorem HasStamps.exists_daily (h : f.HasStamps stamps)
    (hnumbers : f.HasNumbers (dailyPlan.steps.map (·.source)))
    (hcalendar : ∀ stamp ∈ stamps, ∃ n t, stamp = some n ∧
      offset.instantOf? (n.toInt - 1) = some t) (hne : stamps ≠ []) :
    ∃ g records, f.daily offset = .ok g ∧ g.records timeName = .ok records ∧
      AreBuckets .day (dailyPlan.steps.map (·.output)) (f.Lacks .day) records := by
  have hkeys : ∀ k ∈ stamps.map (·.bind offset.dayOf?), ∃ t : Instant, Period.day.IsStart t ∧
      Period.day.IsStart t ∧ k = some (Int32.ofInt t.dayNumber) := by
    intro k hk
    obtain ⟨t, ht, hday⟩ := exists_dayStart hcalendar k hk
    exact ⟨t, ht, ht, hday⟩
  obtain ⟨g, records, hg, hrecords, hbuckets⟩ :=
    hnumbers.exists_buckets hkeys (by simpa using hne)
  exact ⟨g, records, by rw [daily, h.localDays, Except.ok_bind, hg], hrecords,
    hbuckets.congr fun name => loses_dailyPlan_iff⟩

theorem HasStamps.exists_monthly (h : f.HasStamps stamps)
    (hnumbers : f.HasNumbers (monthDayPlan.steps.map (·.source)))
    (hcalendar : ∀ stamp ∈ stamps, ∃ n t, stamp = some n ∧
      offset.instantOf? (n.toInt - 1) = some t) (hne : stamps ≠ []) :
    ∃ g records, f.monthly offset = .ok g ∧ g.records timeName = .ok records ∧
      AreBuckets .month (monthlyPlan.steps.map (·.output)) (f.Lacks .month) records := by
  obtain ⟨byDay, hbyDay, hdayNumbers⟩ :=
    hnumbers.summarise (Group.ofKeys (stamps.map (·.bind offset.dayOf?)))
  have hsources : byDay.HasNumbers (monthlyPlan.steps.map (·.source)) := by
    intro name hname
    refine hdayNumbers name ?_
    revert hname
    simp [monthlyPlan, monthDayPlan]
  have hkeys : ∀ k ∈ (Group.ofKeys (stamps.map (·.bind offset.dayOf?))).map
      (fun g => g.day.map monthStart), ∃ t : Instant, Period.month.IsStart t ∧
        Period.day.IsStart t ∧ k = some (Int32.ofInt t.dayNumber) := by
    intro k hk
    obtain ⟨group, hgroup, rfl⟩ := List.mem_map.mp hk
    have hday := List.mem_map_of_mem (f := Group.day) hgroup
    rw [Group.map_day_ofKeys, DayKey.mem_distinct] at hday
    obtain ⟨t, -, ht⟩ := exists_dayStart hcalendar _ hday
    refine ⟨Period.month.truncate t, Period.isStart_truncate .month rfl t,
      Period.isStart_day_month t, ?_⟩
    rw [ht, Option.map_some, monthStart_dayNumber]
  have hmonths : (Group.ofKeys (stamps.map (·.bind offset.dayOf?))).map
      (fun g => g.day.map monthStart) ≠ [] := by
    simpa using Group.ofKeys_ne_nil (List.map_eq_nil_iff.not.mpr hne)
  obtain ⟨g, records, hg, hrecords, hbuckets⟩ := hsources.exists_buckets hkeys hmonths
  refine ⟨g, records, ?_, hrecords, hbuckets.congr fun name => ?_⟩
  · rw [monthly, h.localDays, Except.ok_bind]
    exact Except.bind_eq_ok.mpr ⟨byDay, hbyDay, hg⟩
  · exact iff_of_false (not_loses_monthlyPlan hbyDay name) (not_lacks_month f name)

end Frame

namespace ArchiveQuery

/-- One bound is enough for the rows to be cut, the least or the greatest number in the place of the
other. -/
theorem cut_of_bounded {q : ArchiveQuery} (h : ¬ (q.lower = none ∧ q.upper = none)) (a : Archive) :
    q.cut a = a.window (q.lower.getD Int64.minValue) (q.upper.getD Int64.maxValue) := by
  obtain ⟨period, lower, upper⟩ := q
  cases lower with
  | some l => rfl
  | none =>
    cases upper with
    | some u => rfl
    | none => exact absurd ⟨rfl, rfl⟩ h

theorem cut_of_unbounded {q : ArchiveQuery} (hl : q.lower = none) (hu : q.upper = none)
    (a : Archive) : q.cut a = a.frame := by
  rw [cut, hl, hu]

theorem cut_cases (q : ArchiveQuery) (a : Archive) :
    q.cut a = a.frame ∨
      q.cut a = a.window (q.lower.getD Int64.minValue) (q.upper.getD Int64.maxValue) := by
  by_cases h : q.lower = none ∧ q.upper = none
  · exact .inl (cut_of_unbounded h.1 h.2 a)
  · exact .inr (cut_of_bounded h a)

/-- The rows of a query: some of the rows of the archive, and all that are inside its bounds. -/
theorem exists_cut (q : ArchiveQuery) {a : Archive} {f : Frame} {stamps : List (Option Int64)}
    (hf : a.frame = .ok f) (h : f.HasStamps stamps) :
    ∃ g kept, q.cut a = .ok g ∧ g.HasStamps kept ∧ g.HasTypesOf f ∧
      (∀ stamp ∈ kept, stamp ∈ stamps) ∧
      ∀ n, some n ∈ stamps → Int64.minValue < n → (∀ l, q.lower = some l → l < n) →
        (∀ u, q.upper = some u → n ≤ u) → some n ∈ kept := by
  rcases q.cut_cases a with hcut | hcut
  · exact ⟨f, stamps, hcut.trans hf, h, fun _ => rfl, fun _ => id, fun n hn _ _ _ => hn⟩
  · obtain ⟨g, hg, hs⟩ := Archive.exists_window hf h (q.lower.getD Int64.minValue)
      (q.upper.getD Int64.maxValue)
    obtain ⟨rows, rfl⟩ := Archive.exists_keep_of_window hf hg
    refine ⟨_, _, hcut.trans hg, hs, f.hasTypesOf_keep rows,
      fun stamp hstamp => List.mem_of_mem_filter hstamp, ?_⟩
    intro n hn hmin hlower hupper
    have hl : q.lower.getD Int64.minValue < n := by
      cases hq : q.lower with
      | none => exact hmin
      | some l => exact hlower l hq
    have hu : n ≤ q.upper.getD Int64.maxValue := by
      cases hq : q.upper with
      | none => exact Int64.le_maxValue n
      | some u => exact hupper u hq
    rw [List.mem_filter, Frame.inWindow_iff]
    exact ⟨hn, n, rfl, Int64.lt_iff_toInt_lt.mp hl, Int64.le_iff_toInt_le.mp hu⟩

end ArchiveQuery

namespace ChartKind

/-- The built-in charts of days and of months, with the columns that their rows are made from. -/
inductive Draws : ChartKind → Period → List String → Prop
  | days {kind : ChartKind} (h : kind ∈ [aggrWind, aggrBarometer, aggrTemp, aggrTempRain]) :
    Draws kind .day
      ["lo_temp", "hi_temp", "rain_fall", "avg_wind_speed", "hi_wind_speed", "barometer"]
  | months {kind : ChartKind} (h : kind ∈ [aggrTemp, aggrRain]) :
    Draws kind .month ["lo_temp", "hi_temp", "rain_fall"]

end ChartKind

namespace View

variable {v : View} {files : String → Option FileContent} {q : ArchiveQuery}

/-- A query is answered if all its stages are. -/
theorem exists_archiveDataset {path : String} {archive : Archive}
    {toBuckets : Frame → Except FrameError Frame} {cut buckets : Frame} {records : List Record}
    (hpath : v.settings.archivePath = some path)
    (harchive : Archive.load ⟨path, files path⟩ = .ok archive)
    (hbucketing : q.bucketing? v.settings.utcOffset = some toBuckets)
    (hcut : q.cut archive = .ok cut) (hbuckets : toBuckets cut = .ok buckets)
    (hrecords : buckets.records Frame.timeName = .ok records) :
    v.archiveDataset files q =
      .ok ⟨q.lower.map .number, q.upper.map .number, some q.period, records⟩ := by
  have htoDataset : q.toDataset buckets =
      .ok ⟨q.lower.map .number, q.upper.map .number, some q.period, records⟩ := by
    simp only [ArchiveQuery.toDataset, Frame.toDataset, hrecords, Except.ok_bind]
    rfl
  simp only [archiveDataset, hpath, harchive, hbucketing, hcut, hbuckets, htoDataset,
    Except.mapError_ok, Except.ok_bind]

/-- The chart of an archive whose query gives records at buckets. -/
theorem archiveChart_iff {p : Period} {names : List String} {lost : String → Prop}
    {dataset : Dataset} {spec : ChartSpec} (hdataset : v.archiveDataset files q = .ok dataset)
    (h : AreBuckets p names lost dataset.data) (hp : p.isStepped = true)
    (hperiod : dataset.period = p) (hspec : spec.fault? = none)
    (hfields : ∀ f ∈ spec.fields, f ∈ names ∨ spec.runningTotal.map (·.output) = some f)
    (htotal : ∀ f, spec.runningTotal.map (·.output) = some f → ¬ lost f)
    (hfault : (Aligner.ofDataset dataset none v.settings.alignOptions).axisFault? = none) :
    ((∃ config, v.archiveChart files spec q none = .ok config) ↔ ∀ f ∈ spec.fields, ¬ lost f) ∧
    ∀ e, v.archiveChart files spec q none = .error e ↔
      ∃ i f, spec.fields[i]? = some f ∧ lost f ∧ (∀ g ∈ spec.fields.take i, ¬ lost g) ∧
        e = .chart (.align (.unknownField f)) := by
  obtain ⟨hok, herror⟩ := h.ofDataset_iff hp hperiod hspec
    (fun f hf => h.isKnown_annotated htotal (hfields f hf)) hfault
  have hchart : v.archiveChart files spec q none =
      (ChartConfig.ofDataset spec dataset none v.settings.alignOptions).mapError .chart := by
    rw [archiveChart, hdataset]
    rfl
  refine Except.eq_iff_of_first ?_ ?_
  · intro hkept
    obtain ⟨config, hconfig⟩ := hok.mpr hkept
    exact ⟨config, by rw [hchart, hconfig, Except.mapError_ok]⟩
  · intro i f hi hlost hbefore
    rw [hchart, (herror _).mpr ⟨i, f, hi, hlost, hbefore, rfl⟩]
    rfl

/-- Built-in charts of days and months are drawn for every sound archive, one with epoch seconds
inside the calendar and numbers in the columns that are needed, if no extreme that they show is of
narrow numbers. Otherwise they are refused for the first such extreme as an unknown field. -/
theorem archiveChart_of_draws {kind : ChartKind} {needed : List String} {path : String}
    {archive : Archive} {frame : Frame} {stamps : List Int64} (hkind : kind.Draws q.period needed)
    (hpath : v.settings.archivePath = some path)
    (harchive : Archive.load ⟨path, files path⟩ = .ok archive) (hframe : archive.frame = .ok frame)
    (hstamps : frame.HasStamps (stamps.map some)) (hneeded : frame.HasNumbers needed)
    (hcalendar : ∀ n ∈ stamps, ∃ t, v.settings.utcOffset.instantOf? (n.toInt - 1) = some t)
    (hbounds : ∀ b, q.lower = some b ∨ q.upper = some b →
      ∃ t, v.settings.utcOffset.instantOf? b.toInt = some t)
    (hkept : ∃ n ∈ stamps, (∀ l, q.lower = some l → l < n) ∧ ∀ u, q.upper = some u → n ≤ u) :
    ((∃ config, v.archiveChart files kind.spec q none = .ok config) ↔
      ∀ name ∈ kind.spec.fields, ¬ frame.Lacks q.period name) ∧
    ∀ e, v.archiveChart files kind.spec q none = .error e ↔
      ∃ i name, kind.spec.fields[i]? = some name ∧ frame.Lacks q.period name ∧
        (∀ name' ∈ kind.spec.fields.take i, ¬ frame.Lacks q.period name') ∧
        e = .chart (.align (.unknownField name)) := by
  obtain ⟨cut, kept, hcut, hkeptStamps, htypes, hsubset, hmem⟩ := q.exists_cut hframe hstamps
  have hinside : ∀ stamp ∈ kept, ∃ n t, stamp = some n ∧
      v.settings.utcOffset.instantOf? (n.toInt - 1) = some t := by
    intro stamp hstamp
    obtain ⟨n, hn, rfl⟩ := List.mem_map.mp (hsubset stamp hstamp)
    obtain ⟨t, ht⟩ := hcalendar n hn
    exact ⟨n, t, rfl, ht⟩
  have hne : kept ≠ [] := by
    obtain ⟨n, hn, hl, hu⟩ := hkept
    refine List.ne_nil_of_mem (hmem n (List.mem_map_of_mem hn) ?_ hl hu)
    obtain ⟨t, ht⟩ := hcalendar n hn
    have hlo := (Offset.instantOf?_eq_some.mp ht).2.1
    simp only [minSecond, Date.minDay] at hlo
    rw [Int64.lt_iff_toInt_lt, Int64.toInt_minValue]
    omega
  have hfault : ∀ records, (Aligner.ofDataset ⟨q.lower.map .number, q.upper.map .number,
      some q.period, records⟩ none v.settings.alignOptions).axisFault? = none :=
    fun _ => Aligner.axisFault?_eq_none rfl rfl rfl hbounds
  have hnumbers := htypes.hasNumbers hneeded
  generalize hperiod : q.period = p at hkind
  cases hkind with
  | days h =>
    obtain ⟨buckets, records, hbuckets, hrecords, hrows⟩ :=
      hkeptStamps.exists_daily hnumbers hinside hne
    have hbucketing : q.bucketing? v.settings.utcOffset = some (·.daily v.settings.utcOffset) := by
      rw [ArchiveQuery.bucketing?, hperiod]
    refine archiveChart_iff
      (exists_archiveDataset hpath harchive hbucketing hcut hbuckets hrecords)
      (hrows.congr fun _ => htypes.lacks_iff) rfl hperiod ?_ ?_ ?_ (hfault records)
    · fin_cases h <;> rfl
    · fin_cases h <;> decide
    · have hnone : kind.spec.runningTotal = none := by fin_cases h <;> rfl
      simp [hnone]
  | months h =>
    obtain ⟨buckets, records, hbuckets, hrecords, hrows⟩ :=
      hkeptStamps.exists_monthly hnumbers hinside hne
    have hbucketing : q.bucketing? v.settings.utcOffset = some (·.monthly v.settings.utcOffset) := by
      rw [ArchiveQuery.bucketing?, hperiod]
    refine archiveChart_iff
      (exists_archiveDataset hpath harchive hbucketing hcut hbuckets hrecords)
      (hrows.congr fun _ => htypes.lacks_iff) rfl hperiod ?_ ?_
      (fun name _ => frame.not_lacks_month name) (hfault records)
    · fin_cases h <;> rfl
    · fin_cases h <;> decide

/-- Two rows, the later one first, columns without any values, and a policy that refuses shared
buckets. -/
theorem archiveChart_of_two_days :
    let missing (name : String) : Column := ⟨name, .double, [none, none]⟩
    let frame : Frame :=
      { columns := [⟨"time", .int64, [some 1704240000, some 1704153600]⟩, missing "lo_temp",
          missing "hi_temp", missing "rain_fall", missing "avg_wind_speed",
          missing "hi_wind_speed", missing "barometer"]
        height := 2
        height_eq := by simp [missing]
        distinct := by decide }
    let files (_ : String) := some (FileContent.frame frame)
    let v : View := ⟨⟨⟨3600, by decide⟩, .reject, none, some "station.parquet"⟩⟩
    let q : ArchiveQuery := ⟨.day, some 1704063600, none⟩
    ∃ config, v.archiveChart files ChartKind.aggrWind.spec q none = .ok config := by
  intro missing frame files v q
  have hbound : ∃ t, v.settings.utcOffset.instantOf? 1704063600 = some t :=
    Option.isSome_iff_exists.mp (by decide +kernel)
  have hfirst : ∃ t, v.settings.utcOffset.instantOf? 1704239999 = some t :=
    Option.isSome_iff_exists.mp (by decide +kernel)
  have hsecond : ∃ t, v.settings.utcOffset.instantOf? 1704153599 = some t :=
    Option.isSome_iff_exists.mp (by decide +kernel)
  have hneeded : frame.HasNumbers
      ["lo_temp", "hi_temp", "rain_fall", "avg_wind_speed", "hi_wind_speed", "barometer"] := by
    simp only [Frame.HasNumbers, List.forall_mem_cons]
    exact ⟨⟨_, rfl, rfl⟩, ⟨_, rfl, rfl⟩, ⟨_, rfl, rfl⟩, ⟨_, rfl, rfl⟩, ⟨_, rfl, rfl⟩,
      ⟨_, rfl, rfl⟩, List.forall_mem_nil _⟩
  have hformat : ArchiveFile.format? "station.parquet" = some .parquet := by decide +kernel
  have hload : Archive.load ⟨"station.parquet", files "station.parquet"⟩ =
      .ok ⟨.parquet, .ok frame⟩ := by
    simp only [Archive.load, files, hformat]
  have hstamps : frame.HasStamps (([1704240000, 1704153600] : List Int64).map some) := rfl
  have hwide : ∀ c ∈ frame.columns, c.type.isNarrow = false := by
    simp [frame, missing, CellType.isNarrow]
  refine (archiveChart_of_draws (q := q) (.days (by decide)) rfl hload rfl hstamps hneeded ?_ ?_
    ⟨1704153600, by decide, ?_, ?_⟩).1.mpr ?_
  · simpa using ⟨hfirst, hsecond⟩
  · rintro b (hb | hb)
    · cases hb
      exact hbound
    · cases hb
  · intro l hl
    cases hl
    decide
  · intro u hu
    cases hu
  · rintro name - ⟨-, -, c, hc, hnarrow⟩
    rw [hwide c (Frame.mem_of_column? hc)] at hnarrow
    cases hnarrow

/-- One row whose lowest temperature is an integer of 16 bits: the day has a lowest temperature, its
record has none, and the chart of temperatures is refused. -/
theorem archiveChart_of_narrow_extreme :
    let zero (name : String) : Column := ⟨name, .int64, [some 0]⟩
    let frame? := Frame.ofColumns? [⟨"time", .int64, [some 1704153600]⟩,
      ⟨"lo_temp", .int16, [some 3]⟩, zero "hi_temp", zero "rain_fall", zero "avg_wind_speed",
      zero "hi_wind_speed", zero "barometer"]
    let files (_ : String) := frame?.map FileContent.frame
    let v : View := ⟨⟨⟨0, by decide⟩, .lastWins, none, some "station.parquet"⟩⟩
    let q : ArchiveQuery := ⟨.day, none, none⟩
    (frame?.bind fun frame => (frame.daily v.settings.utcOffset).toOption.bind fun days =>
      (days.column? "lo_temp").map (·.type)) = some .int16 ∧
    v.archiveChart files ChartKind.aggrTemp.spec q none =
      .error (.chart (.align (.unknownField "lo_temp"))) := by
  decide +kernel

end View

end Meteogram
