import Meteogram.IndexRange
import Meteogram.Proofs.Calendar.Written

/-!
# Ranges of slots

A valid range is not empty, and its slots fit in a word, the one after the last included. The length
of a month is read off the day before the next month; it is the length that the Gregorian calendar
gives, wherever the calendar has that day and the one after it. What an instant says on a valid range
is a slot of it.
-/
namespace Meteogram

namespace Date

theorem pred?_eq_some {d p : Date} :
    d.pred? = some p ↔
      (p.IsValid ∧ p.dayNumber + 1 = d.dayNumber) ∧ minYear ≤ p.year ∧ p.year ≤ maxYear := by
  rw [pred?, Option.ite_none_right_eq_some, Option.some.injEq]
  constructor
  · rintro ⟨hmem, rfl⟩
    obtain ⟨hv, hday⟩ := ofDayNumber_spec (d.dayNumber - 1)
    rw [← dayNumber_mem_calendar hv, hday]
    exact ⟨⟨hv, by omega⟩, hmem⟩
  · rintro ⟨⟨hv, hday⟩, hyear⟩
    have hbefore : d.dayNumber - 1 = p.dayNumber := by omega
    rw [hbefore]
    exact ⟨(dayNumber_mem_calendar hv).mpr hyear,
      dayNumber_injective (isValid_ofDayNumber _) hv (dayNumber_ofDayNumber _)⟩

/-- The last day of a month. -/
def lastOfMonth (year : ℤ) (month : ℕ) : Date := ⟨year, month, monthLength (isLeap year) month⟩

/-- The first day of the month after a month. -/
def firstOfNextMonth (year : ℤ) (month : ℕ) : Date :=
  if month = 12 then ⟨year + 1, 1, 1⟩ else ⟨year, month + 1, 1⟩

section
variable (year : ℤ) {month : ℕ} (hm : 1 ≤ month ∧ month ≤ 12)
include hm

theorem isValid_lastOfMonth : (lastOfMonth year month).IsValid :=
  ⟨hm.1, hm.2, monthLength_pos .., le_rfl⟩

theorem isValid_firstOfNextMonth : (firstOfNextMonth year month).IsValid := by
  unfold firstOfNextMonth
  split_ifs
  · exact isValid_first _ ⟨le_rfl, by decide⟩
  · exact isValid_first _ ⟨Nat.le_add_left .., by omega⟩

theorem dayNumber_lastOfMonth :
    (lastOfMonth year month).dayNumber + 1 = (firstOfNextMonth year month).dayNumber := by
  have hlast := dayNumber_eq_monthDay (isValid_lastOfMonth year hm)
  have hnext := dayNumber_eq_monthDay (isValid_firstOfNextMonth year hm)
  have hnumber : (firstOfNextMonth year month).monthNumber =
      (lastOfMonth year month).monthNumber + 1 := by
    unfold firstOfNextMonth
    split_ifs <;> simp only [monthNumber, lastOfMonth] <;> omega
  have hfirst : (firstOfNextMonth year month).day = 1 := by
    unfold firstOfNextMonth
    split_ifs <;> rfl
  have hlength := monthLength_pos (isLeap year) month
  rw [hnumber, monthDay_succ, ofMonthNumber_monthNumber (isValid_lastOfMonth year hm), hfirst] at hnext
  simp only [lastOfMonth] at hlast hnext ⊢
  omega

end

/-- A month has the days that the Gregorian calendar gives it, if the calendar of this library goes on
after it. -/
theorem daysInMonth?_eq_some {year : ℤ} {month n : ℕ} :
    daysInMonth? year month = some n ↔
      (1 ≤ month ∧ month ≤ 12) ∧ (minYear ≤ year ∧ year ≤ maxYear) ∧
        ¬ (year = maxYear ∧ month = 12) ∧ n = monthLength (isLeap year) month := by
  rw [daysInMonth?, Option.ite_none_right_eq_some]
  refine and_congr_right fun hm => ?_
  have hnext : (if month = 12 then ofYmd? (year + 1) 1 1 else ofYmd? year (month + 1) 1) =
      ofYmd? (firstOfNextMonth year month).year (firstOfNextMonth year month).month
        (firstOfNextMonth year month).day := by
    unfold firstOfNextMonth
    split_ifs <;> rfl
  have hyear : (firstOfNextMonth year month).year = if month = 12 then year + 1 else year := by
    unfold firstOfNextMonth
    split_ifs <;> rfl
  rw [hnext, Option.map_eq_some_iff]
  constructor
  · rintro ⟨d, hd, rfl⟩
    obtain ⟨next, hofYmd, hpred⟩ := Option.bind_eq_some_iff.mp hd
    obtain ⟨rfl, -, -, hmax⟩ := ofYmd?_eq_some.mp hofYmd
    obtain ⟨⟨hv, hday⟩, hmem⟩ := pred?_eq_some.mp hpred
    have hlast : d = lastOfMonth year month := by
      apply dayNumber_injective hv (isValid_lastOfMonth year hm)
      have hlast := dayNumber_lastOfMonth year hm
      change d.dayNumber + 1 = (firstOfNextMonth year month).dayNumber at hday
      omega
    subst hlast
    refine ⟨hmem, ?_, rfl⟩
    rintro ⟨rfl, rfl⟩
    rw [hyear, if_pos rfl] at hmax
    exact absurd hmax (by decide)
  · rintro ⟨hmem, hlast, rfl⟩
    refine ⟨lastOfMonth year month, Option.bind_eq_some_iff.mpr ⟨firstOfNextMonth year month,
      ofYmd?_eq_some.mpr ⟨rfl, isValid_firstOfNextMonth year hm, ?_⟩,
      pred?_eq_some.mpr ⟨⟨isValid_lastOfMonth year hm, dayNumber_lastOfMonth year hm⟩, hmem⟩⟩, rfl⟩
    rw [hyear]
    split_ifs <;> omega

end Date

namespace IndexRange

/-- What an instant says on a valid range is a slot of the range. -/
theorem indexOf?_mem {range : IndexRange} {n i : ℕ} {t : Instant} (h : range.length? = some n)
    (hi : range.indexOf? t = some i) : range.first ≤ i ∧ i < range.first + n := by
  have hv := t.isValid_date
  cases range with
  | hoursOfDay =>
    cases h
    cases hi
    exact ⟨Nat.zero_le _, by simpa [first] using t.hour_lt⟩
  | monthsOfYear =>
    cases h
    cases hi
    have hmonth := hv.month_pos
    have hmonth' := hv.month_le
    simp only [first]
    omega
  | daysOfMonth year month =>
    rw [indexOf?, Option.ite_none_right_eq_some] at hi
    obtain ⟨⟨rfl, rfl⟩, hday⟩ := hi
    cases hday
    obtain ⟨-, -, -, rfl⟩ := Date.daysInMonth?_eq_some.mp h
    have hday := hv.day_pos
    have hday' := hv.day_le
    simp only [first]
    omega
  | span start count => cases hi

/-- The slots of a month are the numbers of its days. -/
theorem mem_daysOfMonth_iff {year : ℤ} {month n : ℕ}
    (h : (daysOfMonth year month).length? = some n) (i : ℕ) :
    (daysOfMonth year month).first ≤ i ∧ i < (daysOfMonth year month).first + n ↔
      (⟨year, month, i⟩ : Date).IsValid := by
  obtain ⟨hm, -, -, rfl⟩ := Date.daysInMonth?_eq_some.mp h
  simp only [first]
  constructor
  · rintro ⟨hlo, hhi⟩
    exact ⟨hm.1, hm.2, hlo, by dsimp only; omega⟩
  · intro hv
    have hlo := hv.day_pos
    have hhi := hv.day_le
    dsimp only at hlo hhi
    omega

/-- A valid range is not empty and stays in the words, with the slot after its last one. -/
theorem length?_mem {range : IndexRange} {n : ℕ} (h : range.length? = some n) :
    1 ≤ n ∧ range.first + n < slotLimit := by
  cases range with
  | hoursOfDay => cases h; decide
  | monthsOfYear => cases h; decide
  | daysOfMonth year month =>
    obtain ⟨-, -, -, rfl⟩ := Date.daysInMonth?_eq_some.mp h
    have hpos := Date.monthLength_pos (Date.isLeap year) month
    have hle := Date.monthLength_le (Date.isLeap year) month
    simp only [first, slotLimit]
    omega
  | span start count =>
    simp only [length?] at h
    split_ifs at h
    cases h
    simp only [first]
    omega

theorem last?_eq_some {range : IndexRange} {last : ℕ} :
    range.last? = some last ↔ ∃ n, range.length? = some n ∧ last + 1 = range.first + n := by
  rw [last?, Option.map_eq_some_iff]
  refine exists_congr fun n => and_congr_right fun h => ?_
  have hpos := (length?_mem h).1
  omega

theorem first_le_last {range : IndexRange} {last : ℕ} (h : range.last? = some last) :
    range.first ≤ last ∧ last < slotLimit := by
  obtain ⟨n, hn, hlast⟩ := last?_eq_some.mp h
  have hmem := length?_mem hn
  omega

end IndexRange

end Meteogram
