import Meteogram.Archive.Query
import Meteogram.Proofs.Archive.Group
import Meteogram.Proofs.Archive.LocalDay
import Meteogram.Proofs.Archive.Records
import Meteogram.Proofs.Archive.Window

/-!
# Times of aggregated rows

The rows of an aggregate are its groups: their times are the different keys of the rows that went
into it, and as records they stand at the instants at which these days or months begin.
-/
namespace Meteogram

namespace Frame

variable {f g : Frame} {stamps : List (Option Int64)} {records : List Record}

/-- The records of an aggregate stand at the days of its groups. -/
theorem map_time_of_summarise {plan : Plan} {groups : List Group}
    (hg : f.summarise plan groups = .ok g) (h : g.records timeName = .ok records) :
    groups.map (fun group => group.day.bind RecordTime.ofDays?) =
      records.map fun r => some r.time := by
  have htimes := map_time_of_records (column?_summarise hg) rfl h
  change (groups.map (·.day)).map (·.bind RecordTime.ofDays?) = _ at htimes
  rw [← htimes, List.map_map]
  rfl

theorem HasStamps.localDays (h : f.HasStamps stamps) (offset : Offset) :
    f.localDays offset = .ok (stamps.map (·.bind offset.dayOf?)) := by
  rw [Frame.localDays, h.column_eq]
  rfl

theorem exists_key_of_summarise {plan : Plan} {keys : List DayKey}
    (hg : f.summarise plan (Group.ofKeys keys) = .ok g) (h : g.records timeName = .ok records) :
    ∀ r ∈ records, ∃ key ∈ keys, key.bind RecordTime.ofDays? = some r.time := by
  intro r hr
  have hmem : some r.time ∈ records.map fun r => some r.time := List.mem_map_of_mem hr
  rw [← map_time_of_summarise hg h] at hmem
  obtain ⟨group, hgroup, htime⟩ := List.mem_map.mp hmem
  have hday : group.day ∈ (Group.ofKeys keys).map (·.day) := List.mem_map_of_mem hgroup
  rw [Group.map_day_ofKeys, DayKey.mem_distinct] at hday
  exact ⟨group.day, hday, htime⟩

theorem HasStamps.exists_stamp_of_daily (h : f.HasStamps stamps) {offset : Offset}
    (hg : f.daily offset = .ok g) (hr : g.records timeName = .ok records) :
    ∀ r ∈ records, ∃ stamp ∈ stamps,
      (stamp.bind offset.dayOf?).bind RecordTime.ofDays? = some r.time := by
  intro r hmem
  rw [daily, h.localDays, Except.ok_bind] at hg
  obtain ⟨key, hkey, htime⟩ := exists_key_of_summarise hg hr r hmem
  obtain ⟨stamp, hstamp, rfl⟩ := List.mem_map.mp hkey
  exact ⟨stamp, hstamp, htime⟩

theorem HasStamps.exists_stamp_of_monthly (h : f.HasStamps stamps) {offset : Offset}
    (hg : f.monthly offset = .ok g) (hr : g.records timeName = .ok records) :
    ∀ r ∈ records, ∃ stamp ∈ stamps,
      ((stamp.bind offset.dayOf?).map monthStart).bind RecordTime.ofDays? = some r.time := by
  intro r hmem
  rw [monthly, h.localDays, Except.ok_bind] at hg
  obtain ⟨byDay, -, hg⟩ := Except.bind_eq_ok.mp hg
  obtain ⟨key, hkey, htime⟩ := exists_key_of_summarise hg hr r hmem
  obtain ⟨group, hgroup, rfl⟩ := List.mem_map.mp hkey
  have hday : group.day ∈ (Group.ofKeys (stamps.map (·.bind offset.dayOf?))).map (·.day) :=
    List.mem_map_of_mem hgroup
  rw [Group.map_day_ofKeys, DayKey.mem_distinct] at hday
  obtain ⟨stamp, hstamp, heq⟩ := List.mem_map.mp hday
  exact ⟨stamp, hstamp, by rw [heq]; exact htime⟩

end Frame

/-- A record of an aggregate stands at the start of the bucket of a row, one second before its
stamp. -/
theorem ArchiveQuery.exists_stamp_of_bucketing {q : ArchiveQuery}
    (hq : q.period = .day ∨ q.period = .month) {offset : Offset}
    {toBuckets : Frame → Except FrameError Frame} (hb : q.bucketing? offset = some toBuckets)
    {f g : Frame} {stamps : List (Option Int64)} (h : f.HasStamps stamps)
    (hinside : ∀ stamp ∈ stamps, ∃ n t, stamp = some n ∧ offset.instantOf? (n.toInt - 1) = some t)
    (hg : toBuckets f = .ok g) {records : List Record}
    (hr : g.records Frame.timeName = .ok records) :
    ∀ r ∈ records, ∃ n t, some n ∈ stamps ∧ offset.instantOf? (n.toInt - 1) = some t ∧
      r.time = .instant (q.period.truncate t) := by
  intro r hmem
  rcases hq with hp | hp
  · rw [bucketing?, hp, Option.some.injEq] at hb
    subst hb
    obtain ⟨stamp, hstamp, htime⟩ := h.exists_stamp_of_daily hg hr r hmem
    obtain ⟨n, t, rfl, ht⟩ := hinside stamp hstamp
    refine ⟨n, t, hstamp, ht, ?_⟩
    have hday : (Period.day.truncate t).dayNumber = t.dayNumber := Period.number_truncate .day t
    rw [Option.bind_some, Offset.dayOf?_eq ht, Option.bind_some, ← hday,
      RecordTime.ofDays?_dayNumber (Period.isStart_truncate .day rfl t)] at htime
    rw [hp]
    exact (Option.some.inj htime).symm
  · rw [bucketing?, hp, Option.some.injEq] at hb
    subst hb
    obtain ⟨stamp, hstamp, htime⟩ := h.exists_stamp_of_monthly hg hr r hmem
    obtain ⟨n, t, rfl, ht⟩ := hinside stamp hstamp
    refine ⟨n, t, hstamp, ht, ?_⟩
    rw [Option.bind_some, Offset.dayOf?_eq ht, Option.map_some, monthStart_dayNumber,
      Option.bind_some, RecordTime.ofDays?_dayNumber (Period.isStart_day_month t)] at htime
    rw [hp]
    exact (Option.some.inj htime).symm

end Meteogram
