import Meteogram.Proofs.Align.Spans
import Meteogram.Proofs.Archive.Aggregate
import Meteogram.Proofs.Chart.Assembly
import Meteogram.View

/-!
# Charts of archives

A chart of aggregated rows without an axis of its own shows the window of its query. The window
drops rows up to its lower bound, a row belongs to the second before its stamp, and the axis ends
one second before the upper bound: with these three together no row is in a bucket outside the
window, so that the axis does not depend on the rows.
-/
namespace Meteogram

namespace View

variable {v : View} {files : String → Option FileContent} {q : ArchiveQuery}

/-- The type of the time column of the archive, where there is one. -/
def archiveTimeType? (v : View) (files : String → Option FileContent) : Option CellType := do
  let path ← v.settings.archivePath
  let archive ← (Archive.load ⟨path, files path⟩).toOption
  let frame ← archive.frame.toOption
  let time ← frame.column? Frame.timeName
  return time.type

/-- The stages of a query that is answered. -/
theorem exists_of_archiveDataset {dataset : Dataset}
    (h : v.archiveDataset files q = .ok dataset) :
    ∃ path archive toBuckets cut buckets records, v.settings.archivePath = some path ∧
      Archive.load ⟨path, files path⟩ = .ok archive ∧
      q.bucketing? v.settings.utcOffset = some toBuckets ∧
      q.cut archive = .ok cut ∧ toBuckets cut = .ok buckets ∧
      buckets.records Frame.timeName = .ok records ∧
      dataset = ⟨q.lower.map .number, q.upper.map .number, some q.period, records⟩ := by
  unfold archiveDataset at h
  cases hpath : v.settings.archivePath with
  | none => simp [hpath] at h
  | some path =>
    simp only [hpath] at h
    obtain ⟨archive, harchive, h⟩ := Except.bind_eq_ok.mp h
    rw [Except.mapError_eq_ok] at harchive
    cases hbuckets : q.bucketing? v.settings.utcOffset with
    | none => simp [hbuckets] at h
    | some toBuckets =>
      simp only [hbuckets] at h
      obtain ⟨buckets, hb, h⟩ := Except.bind_eq_ok.mp h
      rw [Except.mapError_eq_ok] at hb h
      obtain ⟨cut, hcut, hb⟩ := Except.bind_eq_ok.mp hb
      obtain ⟨plain, hplain, h⟩ := Except.bind_eq_ok.mp h
      obtain ⟨records, hrecords, hplain⟩ := Except.bind_eq_ok.mp hplain
      cases hplain
      cases h
      exact ⟨path, archive, toBuckets, cut, buckets, records, rfl, harchive, rfl, hcut, hb,
        hrecords, rfl⟩

variable {lower upper : Int64} {dataset : Dataset} {first stop : Instant}

theorem exists_hasStamps_of_archive {path : String} {archive : Archive}
    (hpath : v.settings.archivePath = some path)
    (harchive : Archive.load ⟨path, files path⟩ = .ok archive)
    (htime : v.archiveTimeType? files = some .int64) :
    ∃ frame stamps, archive.frame = .ok frame ∧ frame.HasStamps stamps := by
  simp only [archiveTimeType?, hpath, harchive, Except.toOption, Option.bind_eq_bind,
    Option.bind_some] at htime
  cases hframe : archive.frame with
  | error e => simp [hframe] at htime
  | ok frame =>
    simp only [hframe, Option.bind_some] at htime
    obtain ⟨c, hc, htype⟩ := Option.bind_eq_some_iff.mp htime
    obtain ⟨stamps, hstamps⟩ := Frame.exists_hasStamps hc (Option.some.inj htype)
    exact ⟨frame, stamps, rfl, hstamps⟩

/-- The records of an aggregate stand at buckets of the window. -/
theorem exists_instant_of_archiveDataset (hq : q.period = .day ∨ q.period = .month)
    (hl : q.lower = some lower) (hu : q.upper = some upper)
    (htime : v.archiveTimeType? files = some .int64) (h : v.archiveDataset files q = .ok dataset)
    (hfirst : v.settings.utcOffset.instantOf? lower.toInt = some first)
    (hstop : v.settings.utcOffset.instantOf? upper.toInt = some stop) :
    ∀ r ∈ dataset.data, ∃ t last, r.time = .instant (q.period.truncate t) ∧ first ≤ t ∧ t ≤ last ∧
      v.settings.utcOffset.instantOf? (upper.toInt - 1) = some last := by
  obtain ⟨path, archive, toBuckets, cut, buckets, records, hpath, harchive, hb, hcut, hbuckets,
    hrecords, rfl⟩ := exists_of_archiveDataset h
  obtain ⟨frame, stamps, hframe, hstamps⟩ := exists_hasStamps_of_archive hpath harchive htime
  rw [ArchiveQuery.cut, hl, hu] at hcut
  change archive.window lower upper = .ok cut at hcut
  have hkept := Archive.hasStamps_of_window hframe hstamps hcut
  have hinside : ∀ stamp ∈ stamps.filter (Frame.inWindow lower upper), ∃ n t, stamp = some n ∧
      v.settings.utcOffset.instantOf? (n.toInt - 1) = some t := by
    intro stamp hstamp
    obtain ⟨n, rfl, hlo, hhi⟩ := Frame.inWindow_iff.mp (List.mem_filter.mp hstamp).2
    obtain ⟨t, ht, -⟩ := Offset.exists_instantOf? hfirst hstop
      (show lower.toInt ≤ n.toInt - 1 by omega) (by omega)
    exact ⟨n, t, rfl, ht⟩
  intro r hr
  obtain ⟨n, t, hn, ht, htruncate⟩ :=
    ArchiveQuery.exists_stamp_of_bucketing hq hb hkept hinside hbuckets hrecords r hr
  obtain ⟨n', heq, hlo, hhi⟩ := Frame.inWindow_iff.mp (List.mem_filter.mp hn).2
  cases heq
  obtain ⟨last, hlast, -⟩ := Offset.exists_instantOf? hfirst hstop
    (show lower.toInt ≤ upper.toInt - 1 by omega) (by omega)
  obtain ⟨t', ht', hle, hle'⟩ := Offset.exists_instantOf? hfirst hlast
    (show lower.toInt ≤ n.toInt - 1 by omega) (by omega)
  rw [ht, Option.some.injEq] at ht'
  subst ht'
  exact ⟨t, last, htruncate, hle, hle', hlast⟩

/-- A chart without an axis of its own is that of the records on the calendar of the query, in its
window; the bounds of the window are instants. -/
theorem exists_of_archiveChart {spec : ChartSpec} {config : ChartConfig}
    (hl : q.lower = some lower) (hu : q.upper = some upper)
    (h : v.archiveChart files spec q none = .ok config) :
    ∃ dataset frame first stop, v.archiveDataset files q = .ok dataset ∧
      (⟨.calendar q.period, v.settings.alignOptions, some (.number lower),
        some (.number upper)⟩ : Aligner).alignFields (spec.annotated dataset.data) spec.fields =
          .ok frame ∧
      config.labels = frame.labels ∧
      v.settings.utcOffset.instantOf? lower.toInt = some first ∧
      v.settings.utcOffset.instantOf? upper.toInt = some stop := by
  obtain ⟨dataset, hdataset, hchart⟩ := Except.bind_eq_ok.mp h
  obtain ⟨frame, hframe, rfl⟩ :=
    ChartConfig.exists_frame_of_ofDataset ((Except.mapError_eq_ok _ _ _).mp hchart)
  obtain ⟨-, -, -, -, -, records, -, -, -, -, -, -, rfl⟩ := exists_of_archiveDataset hdataset
  rw [hl, hu] at hframe
  have hfault := Aligner.axisFault?_of_alignFields hframe
  simp only [Aligner.axisFault?, Aligner.ofDataset, Option.getD_none, Option.map_some,
    Option.orElse_eq_none] at hfault
  obtain ⟨first, hfirst⟩ := Aligner.exists_instant_of_boundFault hfault.1
  obtain ⟨stop, hstop⟩ := Aligner.exists_instant_of_boundFault hfault.2
  exact ⟨_, frame, first, stop, hdataset, hframe, rfl, hfirst, hstop⟩

/-- The chart of an aggregate shows all days or months of the window of its query, from that of the
lower bound to that of the second before the upper one, and no record is outside. -/
theorem labels_of_archiveChart {spec : ChartSpec} {config : ChartConfig}
    (hq : q.period = .day ∨ q.period = .month) (hl : q.lower = some lower)
    (hu : q.upper = some upper) (htime : v.archiveTimeType? files = some .int64)
    (h : v.archiveChart files spec q none = .ok config) :
    ∃ first last, v.settings.utcOffset.instantOf? lower.toInt = some first ∧
      v.settings.utcOffset.instantOf? (upper.toInt - 1) = some last ∧
      q.period.Spans (q.period.truncate first) (q.period.truncate last) config.labels ∧
      ∀ dataset, v.archiveDataset files q = .ok dataset → ∀ r ∈ dataset.data, ∃ t,
        r.time = .instant t ∧ q.period.truncate first ≤ t ∧ t ≤ q.period.truncate last := by
  have hp : q.period.isStepped = true := by rcases hq with hp | hp <;> rw [hp] <;> rfl
  obtain ⟨dataset, frame, first, stop, hdataset, hframe, hlabels, hfirst, hstop⟩ :=
    exists_of_archiveChart hl hu h
  have hrecord := exists_instant_of_archiveDataset hq hl hu htime hdataset hfirst hstop
  obtain ⟨last, hlast⟩ : ∃ last,
      v.settings.utcOffset.instantOf? (upper.toInt - 1) = some last := by
    obtain ⟨r, hr⟩ := List.exists_mem_of_ne_nil _ (Aligner.ne_nil_of_alignFields hframe)
    obtain ⟨r', hr', -⟩ := ChartSpec.exists_of_annotated r hr
    obtain ⟨-, last, -, -, -, hlast⟩ := hrecord r' hr'
    exact ⟨last, hlast⟩
  have hinside : ∀ r ∈ dataset.data, ∃ t, r.time = .instant t ∧ q.period.truncate t = t ∧
      q.period.truncate first ≤ t ∧ t ≤ q.period.truncate last := by
    intro r hr
    obtain ⟨t, last', ht, hle, hle', hlast'⟩ := hrecord r hr
    rw [hlast, Option.some.injEq] at hlast'
    subst hlast'
    exact ⟨_, ht, Period.truncate_of_isStart hp (q.period.isStart_truncate hp t),
      q.period.truncate_mono hle, q.period.truncate_mono hle'⟩
  refine ⟨first, last, hfirst, hlast, ?_, ?_⟩
  · rw [hlabels]
    have hback := Offset.addSeconds?_of_instantOf? hstop hlast
    rw [show upper.toInt - 1 - upper.toInt = -1 by omega] at hback
    refine Aligner.spans_of_window rfl hp hframe hfirst ?_ ?_
    · change (v.settings.utcOffset.instantOf? upper.toInt).bind (·.addSeconds? (-1)) = some last
      rw [hstop]
      exact hback
    · intro r hr
      obtain ⟨r', hr', htime'⟩ := ChartSpec.exists_of_annotated r hr
      obtain ⟨t, ht, heq, hle, hle'⟩ := hinside r' hr'
      exact ⟨t, by rw [← htime', ht]; rfl, by rwa [heq], by rwa [heq]⟩
  · intro dataset' hd r hr
    rw [hdataset, Except.ok.injEq] at hd
    subst hd
    obtain ⟨t, ht, -, hle, hle'⟩ := hinside r hr
    exact ⟨t, ht, hle, hle'⟩

/-- A clock one hour ahead of UTC, three months, and one row at the midnight that ends January. -/
theorem labels_of_three_months :
    let column (name : String) (cell : Int64) : Column := ⟨name, .int64, [some cell]⟩
    let frame? := Frame.ofColumns? [column "time" 1706742000, column "lo_temp" 3,
      column "hi_temp" 8, column "rain_fall" 2]
    let files (_ : String) := frame?.map FileContent.frame
    let v : View := ⟨⟨⟨3600, by decide⟩, .lastWins, none, some "station.parquet"⟩⟩
    let q : ArchiveQuery := ⟨.month, some 1704063600, some 1711926000⟩
    let spec : ChartSpec :=
      ⟨"Rain", false, [⟨.bar, "Rain", "rain", "y", "blue", none, false⟩],
        [⟨"y", .left, "Rain", "mm"⟩], none⟩
    ∃ config first last, v.archiveChart files spec q none = .ok config ∧
      first.date = ⟨2024, 1, 1⟩ ∧ last.date = ⟨2024, 3, 31⟩ ∧
      Period.month.Spans (Period.month.truncate first) (Period.month.truncate last)
        config.labels := by
  intro column frame? files v q spec
  obtain ⟨config, h⟩ : ∃ config, v.archiveChart files spec q none = .ok config := by
    have hok : (v.archiveChart files spec q none).isOk = true := by decide +kernel
    cases hc : v.archiveChart files spec q none with
    | error e => rw [hc] at hok; cases hok
    | ok config => exact ⟨config, rfl⟩
  have htime : v.archiveTimeType? files = some .int64 := by decide +kernel
  obtain ⟨first, last, hfirst, hlast, hspans, -⟩ :=
    labels_of_archiveChart (.inr rfl) rfl rfl htime h
  have hdates : (v.settings.utcOffset.instantOf? 1704063600).map (·.date) = some ⟨2024, 1, 1⟩ ∧
      (v.settings.utcOffset.instantOf? 1711925999).map (·.date) = some ⟨2024, 3, 31⟩ := by
    decide +kernel
  rw [show v.settings.utcOffset.instantOf? 1704063600 = some first from hfirst,
    show v.settings.utcOffset.instantOf? 1711925999 = some last from hlast] at hdates
  exact ⟨config, first, last, h, Option.some.inj hdates.1, Option.some.inj hdates.2, hspans⟩

end View

end Meteogram
