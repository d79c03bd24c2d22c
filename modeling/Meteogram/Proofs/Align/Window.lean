import Mathlib.Order.Bounds.Basic
import Meteogram.Proofs.Align.Spans
import Meteogram.Proofs.Calendar.Partition
import Meteogram.Proofs.Calendar.Written

/-!
# The upper bound of a window

The upper bound of a window is not part of it: the axis ends with the last bucket that begins before
the bound, or with the last record. This bucket is found from the second before the bound, so that a
fraction of a second is left out of account. It matters where a bucket begins within the second of the
bound, and nowhere else.
-/
namespace Meteogram

namespace Instant

variable {t u : Instant}

/-- One second before a leap second is the second that it extends. -/
theorem addSeconds?_neg_one (t : Instant) : t.addSeconds? (-1) =
    if t.nano < 1000000000 then ofParts? (t.second - 1) t.nano
    else ofParts? t.second (t.nano - 1000000000) := by
  rw [addSeconds?, if_neg (by decide : ¬ (0 : ℤ) < -1), if_pos (by decide : (-1 : ℤ) < 0),
    add_neg_cancel_right]
  rfl

theorem second_of_back (h : t.addSeconds? (-1) = some u) :
    u.second = if t.nano < 1000000000 then t.second - 1 else t.second := by
  rw [addSeconds?_neg_one] at h
  split_ifs at h ⊢
  · exact (ofParts?_eq_some.mp h).1
  · exact (ofParts?_eq_some.mp h).1

/-- Only the first second of the calendar has none before it. -/
theorem exists_back (h : minSecond < t.second) : ∃ u, t.addSeconds? (-1) = some u := by
  have hhi := t.inCalendar.2
  have hlt := t.nano_lt
  rw [addSeconds?_neg_one]
  split_ifs
  · exact ⟨_, ofParts?_self ⟨t.second - 1, t.nano, by omega, by omega, by omega⟩⟩
  · have hnano : t.nano - 1000000000 < 1000000000 := by omega
    generalize t.nano - 1000000000 = nano at hnano ⊢
    exact ⟨_, ofParts?_self ⟨t.second, nano, t.inCalendar, by omega, by omega⟩⟩

end Instant

namespace Period

/-- The starts of buckets before an instant. -/
def startsBefore (p : Period) (t : Instant) : Set Instant := {b | p.truncate b = b ∧ b < t}

variable {p : Period} {b t u : Instant}

/-- No bucket begins with a leap second or the second that it extends. -/
theorem IsStart.second_ne (hp : p.isStepped = true) (hb : p.IsStart b)
    (ht : 1000000000 ≤ t.nano) : b.second ≠ t.second := by
  have hleap := t.leap_at_59 ht
  have hstart := hb.second_eq
  cases p with
  | raw => cases hp
  | hour => simp only [startSecond] at hstart; omega
  | day => simp only [startSecond] at hstart; omega
  | month => simp only [startSecond] at hstart; omega
  | year => simp only [startSecond] at hstart; omega

theorem IsStart.lt_withoutFraction_iff (hp : p.isStepped = true) (hb : p.IsStart b) :
    b < t.withoutFraction ↔ b.second < t.second := by
  have hne := hb.second_ne (t := t) hp
  rw [Instant.lt_iff, hb.nano_eq]
  change b.second < t.second ∨ b.second = t.second ∧ 0 < t.nano / 1000000000 * 1000000000 ↔ _
  omega

/-- A bucket begins before an instant without its fraction if it does so no later than in the second
before. -/
theorem IsStart.lt_withoutFraction_iff_of_back (hp : p.isStepped = true) (hb : p.IsStart b)
    (h : t.addSeconds? (-1) = some u) : b < t.withoutFraction ↔ b.second ≤ u.second := by
  have hne := hb.second_ne (t := t) hp
  rw [hb.lt_withoutFraction_iff hp, Instant.second_of_back h]
  split_ifs <;> omega

/-- The last bucket that begins before an instant without its fraction is that of the second before. -/
theorem isGreatest_startsBefore (hp : p.isStepped = true) (h : t.addSeconds? (-1) = some u) :
    IsGreatest (p.startsBefore t.withoutFraction) (p.truncate u) := by
  have hstart := isStart_truncate p hp u
  constructor
  · refine ⟨truncate_of_isStart hp hstart, ?_⟩
    rw [hstart.lt_withoutFraction_iff_of_back hp h, hstart.second_eq, number_truncate]
    exact (p.startSecond_number u).1
  · rintro b ⟨hb, hlt⟩
    have hbstart := isStart_of_truncate_eq hp hb
    rw [hbstart.lt_withoutFraction_iff_of_back hp h] at hlt
    rw [← hb]
    apply p.truncate_mono
    rw [Instant.le_iff, hbstart.nano_eq]
    omega

/-- Before the first second of the calendar no bucket begins. -/
theorem startsBefore_eq_empty (hp : p.isStepped = true) (h : t.addSeconds? (-1) = none) :
    p.startsBefore t.withoutFraction = ∅ := by
  rw [Set.eq_empty_iff_forall_notMem]
  rintro b ⟨hb, hlt⟩
  rw [(isStart_of_truncate_eq hp hb).lt_withoutFraction_iff hp] at hlt
  obtain ⟨u, hu⟩ := Instant.exists_back (b.inCalendar.1.trans_lt hlt)
  rw [h] at hu
  cases hu

/-- Whether a bucket begins before an instant and in the same second. -/
def StartsWithin (p : Period) (t : Instant) : Prop :=
  p.truncate t < t ∧ (p.truncate t).second = t.second

/-- A fraction of a second keeps all starts before an instant but that of the bucket which begins with
the same second. -/
theorem mem_startsBefore_iff (hp : p.isStepped = true) :
    b ∈ p.startsBefore t ↔
      b ∈ p.startsBefore t.withoutFraction ∨ b = p.truncate t ∧ p.StartsWithin t := by
  have htruncate := isStart_truncate p hp t
  constructor
  · rintro ⟨hb, hlt⟩
    have hbstart := isStart_of_truncate_eq hp hb
    rcases Instant.lt_iff.mp hlt with hsecond | ⟨hsecond, hnano⟩
    · exact .inl ⟨hb, (hbstart.lt_withoutFraction_iff hp).mpr hsecond⟩
    · have hnumber : p.number t = p.number b :=
        number_of_second_eq (hsecond ▸ hbstart.second_eq)
      have heq : b = p.truncate t := by
        rw [Instant.eq_iff, hbstart.nano_eq, htruncate.nano_eq, hbstart.second_eq,
          htruncate.second_eq, number_truncate, hnumber]
        exact ⟨rfl, rfl⟩
      exact .inr ⟨heq, heq ▸ hlt, heq ▸ hsecond⟩
  · rintro (⟨hb, hlt⟩ | ⟨rfl, hlt, -⟩)
    · have hbstart := isStart_of_truncate_eq hp hb
      rw [hbstart.lt_withoutFraction_iff hp] at hlt
      exact ⟨hb, Instant.lt_iff.mpr (.inl hlt)⟩
    · exact ⟨truncate_of_isStart hp htruncate, hlt⟩

/-- The last of some bucket and those that begin before an instant without its fraction is the last one
before the instant as well, unless a later bucket begins within the second. -/
theorem isGreatest_insert_startsBefore_iff (hp : p.isStepped = true) {last stop : Instant}
    (h : IsGreatest (insert last (p.startsBefore t.withoutFraction)) stop) :
    IsGreatest (insert last (p.startsBefore t)) stop ↔
      ¬ (p.StartsWithin t ∧ last < p.truncate t) := by
  constructor
  · rintro hgreatest ⟨hwithin, hlast⟩
    have hle : p.truncate t ≤ stop :=
      hgreatest.2 (.inr ((mem_startsBefore_iff hp).mpr (.inr ⟨rfl, hwithin⟩)))
    rcases h.1 with rfl | ⟨hstop, hlt⟩
    · exact absurd hlast (not_lt.mpr hle)
    · rw [(isStart_of_truncate_eq hp hstop).lt_withoutFraction_iff hp] at hlt
      have hsecond := hwithin.2
      rw [Instant.le_iff] at hle
      omega
  · intro hnot
    constructor
    · exact h.1.imp_right fun hstop => (mem_startsBefore_iff hp).mpr (.inl hstop)
    · rintro b (rfl | hb)
      · exact h.2 (.inl rfl)
      · rcases (mem_startsBefore_iff hp).mp hb with hbefore | ⟨rfl, hwithin⟩
        · exact h.2 (.inr hbefore)
        · have hle : p.truncate t ≤ last := not_lt.mp fun hlt => hnot ⟨hwithin, hlt⟩
          exact hle.trans (h.2 (.inl rfl))

end Period

namespace Aligner

variable {a : Aligner} {p : Period} {records : List Record} {fields : List String}
  {frame : AlignedFrame}

/-- A calendar axis ends with the last record or with the last bucket that begins before the upper bound
without its fraction of a second. This is the last bucket that begins before the bound itself, unless
the last record is before a bucket that begins within the second of the bound. -/
theorem isGreatest_of_alignFields (ha : a.axis = .calendar p) (hp : p.isStepped = true)
    (h : a.alignFields records fields = .ok frame) {t : Instant}
    (ht : a.upper.bind a.instant? = some t) :
    ∃ last stop, records.getLast?.bind (fun r => a.instant? r.time) = some last ∧
      frame.labels.getLast? = some (.instant stop) ∧
      IsGreatest (insert (p.truncate last) (p.startsBefore t.withoutFraction)) stop ∧
      (IsGreatest (insert (p.truncate last) (p.startsBefore t)) stop ↔
        ¬ (p.StartsWithin t ∧ p.truncate last < p.truncate t)) := by
  obtain ⟨start, stop, -, hstop, hspans⟩ := spans_of_alignFields ha hp h
  obtain ⟨last, hlast, hmax⟩ := Option.map_eq_some_iff.mp hstop
  rw [ht, Option.bind_some] at hmax
  have hgreatest : IsGreatest (insert (p.truncate last) (p.startsBefore t.withoutFraction)) stop := by
    cases hback : t.addSeconds? (-1) with
    | none =>
      rw [hback] at hmax
      rw [Period.startsBefore_eq_empty hp hback, ← hmax, insert_empty_eq]
      exact isGreatest_singleton
    | some u =>
      rw [hback] at hmax
      rw [← hmax]
      exact (Period.isGreatest_startsBefore hp hback).insert (p.truncate last)
  exact ⟨last, stop, hlast, hspans.getLast?_eq, hgreatest,
    Period.isGreatest_insert_startsBefore_iff hp hgreatest⟩

/-- One record in January 2024 and a bound in the middle of the leap second that ends February. -/
theorem isGreatest_of_leap_second :
    let t : Instant := ⟨1709251199, 1250000000, by decide, by decide, by decide⟩
    let a : Aligner := ⟨.calendar .month, default, none, some (.instant t)⟩
    let records := [(Record.new (.number 1705276800)).set "rain" (some 1)]
    ∃ frame last stop, a.alignFields records ["rain"] = .ok frame ∧
      frame.labels.getLast? = some (.instant stop) ∧
      IsGreatest (insert (Period.month.truncate last) (Period.month.startsBefore t)) stop ∧
      stop.date = ⟨2024, 2, 1⟩ := by
  intro t a records
  obtain ⟨frame, h⟩ : ∃ frame, a.alignFields records ["rain"] = .ok frame := ⟨_, rfl⟩
  obtain ⟨last, stop, -, hlast, -, hiff⟩ := isGreatest_of_alignFields (p := .month) rfl rfl h rfl
  have hwithin : (Period.month.truncate t).second ≠ t.second := by decide +kernel
  refine ⟨frame, last, stop, h, hlast, hiff.mpr fun hbad => hwithin hbad.1.2, ?_⟩
  have hstop : a.stop? .month records = some stop := by
    obtain ⟨start, stop', -, hstop', hspans⟩ := spans_of_alignFields (p := .month) rfl rfl h
    rw [hspans.getLast?_eq, Option.some.injEq, Label.instant.injEq] at hlast
    rw [hstop', hlast]
  have hdate : (a.stop? .month records).map (·.date) = some ⟨2024, 2, 1⟩ := by decide +kernel
  rw [hstop] at hdate
  exact Option.some.inj hdate

/-- Half a second after the third of January 2024 has begun, an axis of days up to there ends with the
second of January, although the third begins before the bound. -/
theorem not_isGreatest_of_half_second :
    let t : Instant := ⟨1704240000, 500000000, by decide, by decide, by decide⟩
    let a : Aligner := ⟨.calendar .day, default, none, some (.instant t)⟩
    let records := [(Record.new (.number 1704067200)).set "rain" (some 1)]
    Instant.read? "2024-01-03T00:00:00.5Z" = some t ∧
      ∃ frame last stop, a.alignFields records ["rain"] = .ok frame ∧
        records.getLast?.bind (fun r => a.instant? r.time) = some last ∧
        frame.labels.getLast? = some (.instant stop) ∧ stop.date = ⟨2024, 1, 2⟩ ∧
        ¬ IsGreatest (insert (Period.day.truncate last) (Period.day.startsBefore t)) stop := by
  intro t a records
  let first : Instant := ⟨1704067200, 0, by decide, by decide, by decide⟩
  let second : Instant := ⟨1704153600, 0, by decide, by decide, by decide⟩
  let third : Instant := ⟨1704240000, 0, by decide, by decide, by decide⟩
  refine ⟨by decide +kernel, _, first, second, rfl, by decide +kernel, by decide +kernel,
    by decide +kernel, fun h => ?_⟩
  have hthird : third ∈ Period.day.startsBefore t := ⟨by decide, by decide⟩
  exact absurd (h.2 (.inr hthird)) (by decide)

end Aligner

end Meteogram
