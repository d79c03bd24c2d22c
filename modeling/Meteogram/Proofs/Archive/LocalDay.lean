import Meteogram.Archive.Aggregate
import Meteogram.Archive.Records
import Meteogram.Proofs.Calendar.Bucket

/-!
# Local days of archive rows

A row is stamped with the end of its interval, so its day is that of the second before. The archive
counts days in words of 32 and 64 bits: inside the calendar none of them goes around, and outside
the calendar none comes back into it. Days of the archive and buckets of an axis are therefore cut
at the same instants.
-/
namespace Meteogram

theorem toInt_add_eq {a b : Int64} (hlo : -2 ^ 63 ≤ a.toInt + b.toInt)
    (hhi : a.toInt + b.toInt < 2 ^ 63) : (a + b).toInt = a.toInt + b.toInt := by
  rw [Int64.toInt_add]
  exact Int.bmod_eq_of_le (by omega) (by omega)

theorem toInt_mul_eq {a b : Int64} (hlo : -2 ^ 63 ≤ a.toInt * b.toInt)
    (hhi : a.toInt * b.toInt < 2 ^ 63) : (a * b).toInt = a.toInt * b.toInt := by
  rw [Int64.toInt_mul]
  exact Int.bmod_eq_of_le (by omega) (by omega)

/-- The local day of a row with a stamp in epoch seconds. -/
def Offset.dayOf? (offset : Offset) (stamp : Int64) : DayKey :=
  dayOfMillis? ((stamp + Int64.ofInt (offset.seconds - 1)) * 1000)

namespace Instant

/-- Days of the calendar fit in a word. -/
theorem toInt_ofInt_dayNumber (t : Instant) : (Int32.ofInt t.dayNumber).toInt = t.dayNumber := by
  obtain ⟨hlo, hhi⟩ := t.dayNumber_mem
  simp only [Date.minDay, Date.maxDay] at hlo hhi
  exact Int32.toInt_ofInt_of_le (by omega) (by omega)

end Instant

/-- The day of a row is the day of the clock one second before its stamp. -/
theorem Offset.dayOf?_eq {offset : Offset} {stamp : Int64} {t : Instant}
    (h : offset.instantOf? (stamp.toInt - 1) = some t) :
    offset.dayOf? stamp = some (Int32.ofInt t.dayNumber) := by
  obtain ⟨⟨hsecond, -⟩, -⟩ := instantOf?_eq_some.mp h
  have hmem := t.inCalendar
  simp only [minSecond, maxSecond, Date.minDay, Date.maxDay] at hmem
  have hshift : (Int64.ofInt (offset.seconds - 1)).toInt = offset.seconds - 1 := by
    have hlt := offset.lt_day
    exact Int64.toInt_ofInt_of_le (by omega) (by omega)
  have hsum : (stamp + Int64.ofInt (offset.seconds - 1)).toInt = t.second := by
    rw [toInt_add_eq (by omega) (by omega)]
    omega
  have hproduct : (stamp + Int64.ofInt (offset.seconds - 1)).toInt * (1000 : Int64).toInt =
      t.second * 1000 := by rw [hsum]; rfl
  have hmillis : ((stamp + Int64.ofInt (offset.seconds - 1)) * 1000).toInt = t.second * 1000 := by
    rw [toInt_mul_eq (by omega) (by omega), hproduct]
  have hday : t.second * 1000 / 86400000 = t.dayNumber := by
    simp only [Instant.dayNumber]
    omega
  obtain ⟨hlo, hhi⟩ := t.dayNumber_mem
  simp only [Date.minDay, Date.maxDay] at hlo hhi
  have hmin : Int32.minValue.toInt = -2147483648 := rfl
  have hmax : Int32.maxValue.toInt = 2147483647 := rfl
  simp only [dayOf?, dayOfMillis?, hmillis, hday]
  rw [if_pos (by omega)]

/-- A count of days is read as this day and no other, whether or not the calendar has it. -/
theorem RecordTime.ofDays?_eq (days : Int32) : ofDays? days = ofDayNumber? days.toInt := by
  have hshift : (719163 : Int32).toInt = 719163 := rfl
  have hlo := days.le_toInt
  have hhi := days.toInt_lt
  simp only [ofDays?, Int32.toInt_add, hshift]
  by_cases hfits : days.toInt + 719163 < 2 ^ 31
  · rw [Int.bmod_eq_of_le (by omega) (by omega), Int.add_sub_cancel]
  · have hwrap : (days.toInt + 719163).bmod (2 ^ 32) = days.toInt + 719163 - 2 ^ 32 := by
      rw [Int.bmod_def]
      split_ifs <;> omega
    have hnone : ∀ n, n < Date.minDay ∨ Date.maxDay < n → ofDayNumber? n = none := by
      intro n hn
      cases hm : Instant.midnight? n with
      | none => rw [ofDayNumber?, hm]; rfl
      | some t =>
        have hmem := t.inCalendar
        simp only [(Instant.midnight?_eq_some.mp hm).1, minSecond, maxSecond] at hmem
        omega
    rw [hwrap, hnone _ (by simp only [Date.minDay]; omega),
      hnone _ (by simp only [Date.maxDay]; omega)]

/-- The day of a midnight is read as this midnight. -/
theorem RecordTime.ofDays?_dayNumber {t : Instant} (h : Period.day.IsStart t) :
    ofDays? (Int32.ofInt t.dayNumber) = some (.instant t) := by
  rw [ofDays?_eq, t.toInt_ofInt_dayNumber, ofDayNumber?, Option.map_eq_some_iff]
  exact ⟨t, Instant.midnight?_eq_some.mpr ⟨h.second_eq, h.nano_eq⟩, rfl⟩

theorem Period.dayNumber_truncate_month (t : Instant) : (month.truncate t).dayNumber =
    Date.dayNumber ⟨t.date.year, t.date.month, 1⟩ := by
  have hsecond := (truncate_second .month rfl t).1
  have hfirst := Date.ofMonthNumber_monthNumber (Instant.isValid_date t)
  simp only [Instant.dayNumber, hsecond, startSecond, number, Date.monthDay, hfirst]
  omega

/-- A month begins with its first day. -/
theorem monthStart_dayNumber (t : Instant) :
    monthStart (Int32.ofInt t.dayNumber) = Int32.ofInt (Period.month.truncate t).dayNumber := by
  simp only [monthStart, t.toInt_ofInt_dayNumber, Period.dayNumber_truncate_month]
  rfl

end Meteogram
