import Meteogram.Calendar.Instant
import Meteogram.Proofs.Calendar.Gregorian

/-!
# The order of instants

Instants are ordered by their second and, within it, by their fraction. The date of an instant is
the day its second lies in; moving it by seconds or months is described by the second or the date
of the result.
-/
namespace Meteogram.Instant

theorem eq_iff {a b : Instant} : a = b ↔ a.second = b.second ∧ a.nano = b.nano := by
  cases a
  cases b
  simp

instance : LinearOrder Instant where
  le_refl a := by simp [le_iff]
  le_trans a b c := by simp only [le_iff]; omega
  lt_iff_le_not_ge a b := by simp only [lt_iff, le_iff]; omega
  le_antisymm a b := by simp only [le_iff, eq_iff]; omega
  le_total a b := by simp only [le_iff]; omega
  toDecidableLE := inferInstance
  toDecidableEq := inferInstance
  toDecidableLT := inferInstance

theorem ofSecond?_eq_some {second : ℤ} {t : Instant} :
    ofSecond? second = some t ↔ t.second = second ∧ t.nano = 0 := ofParts?_eq_some

theorem ofSecond?_isSome {second : ℤ} :
    (ofSecond? second).isSome = true ↔ minSecond ≤ second ∧ second ≤ maxSecond := by
  simp [ofSecond?, ofParts?]

theorem midnight?_eq_some {day : ℤ} {t : Instant} :
    midnight? day = some t ↔ t.second = day * 86400 ∧ t.nano = 0 := ofSecond?_eq_some

/-- The days of instants are the days of the calendar. -/
theorem dayNumber_mem (t : Instant) : Date.minDay ≤ t.dayNumber ∧ t.dayNumber ≤ Date.maxDay := by
  have h := t.inCalendar
  simp only [minSecond, maxSecond, Date.minDay, Date.maxDay] at h
  simp only [dayNumber, Date.minDay, Date.maxDay]
  omega

theorem isValid_date (t : Instant) : t.date.IsValid := Date.isValid_ofDayNumber _

@[simp] theorem dayNumber_date (t : Instant) : t.date.dayNumber = t.dayNumber :=
  Date.dayNumber_ofDayNumber _

theorem date_eq_iff {t : Instant} {d : Date} (h : d.IsValid) :
    t.date = d ↔ t.dayNumber = d.dayNumber := by
  constructor
  · rintro rfl
    exact (dayNumber_date t).symm
  · intro hd
    exact Date.dayNumber_injective (isValid_date t) h (by rw [dayNumber_date, hd])

/-- The year of an instant is a year of the calendar. -/
theorem year_mem (t : Instant) : Date.minYear ≤ t.date.year ∧ t.date.year ≤ Date.maxYear := by
  rw [← Date.dayNumber_mem_calendar (isValid_date t), dayNumber_date]
  exact dayNumber_mem t

/-- Moving by months moves the date and keeps the time of day. -/
theorem addMonths?_eq_some {t u : Instant} {months : ℕ} :
    t.addMonths? months = some u ↔
      u.date = t.date.addMonths months ∧ u.second % 86400 = t.second % 86400 ∧ u.nano = t.nano := by
  have hv := Date.isValid_addMonths (isValid_date t) months
  unfold addMonths?
  simp only [Option.bind_eq_some_iff, Date.ofYmd?_eq_some, ofParts?_eq_some]
  change (∃ d, (d = t.date.addMonths months ∧ d.IsValid ∧
    Date.minYear ≤ (t.date.addMonths months).year ∧
      (t.date.addMonths months).year ≤ Date.maxYear) ∧
        u.second = d.dayNumber * 86400 + t.second % 86400 ∧ u.nano = t.nano) ↔ _
  constructor
  · rintro ⟨d, ⟨rfl, -, -⟩, hs, hn⟩
    refine ⟨(date_eq_iff hv).mpr ?_, by omega, hn⟩
    simp only [dayNumber]
    omega
  · rintro ⟨hd, hs, hn⟩
    refine ⟨_, ⟨rfl, hv, hd ▸ year_mem u⟩, ?_, hn⟩
    have hday := (date_eq_iff hv).mp hd
    simp only [dayNumber] at hday
    omega

theorem addSeconds?_of_nano_eq_zero {t : Instant} (h : t.nano = 0) (seconds : ℤ) :
    t.addSeconds? seconds = ofSecond? (t.second + seconds) := by
  simp [addSeconds?, ofSecond?, h]

/-- From the midnight that begins a month, months lead to the midnight that begins another one. -/
theorem addMonths?_of_first {t : Instant} {m : ℤ} (hs : t.second = Date.monthDay m * 86400)
    (hn : t.nano = 0) (months : ℕ) :
    t.addMonths? months = midnight? (Date.monthDay (m + months)) := by
  have hfirst : ∀ {u : Instant} {k : ℤ}, u.second = Date.monthDay k * 86400 →
      u.date = Date.ofMonthNumber k := by
    intro u k hu
    rw [date_eq_iff (Date.isValid_ofMonthNumber k), dayNumber, hu]
    exact Int.mul_ediv_cancel _ (by decide)
  have hmoved : t.date.addMonths months = Date.ofMonthNumber (m + months) := by
    rw [hfirst hs]
    have hlen := Date.monthLength_pos (Date.isLeap (Date.ofMonthNumber (m + months)).year)
      (Date.ofMonthNumber (m + months)).month
    simp only [Date.addMonths, Date.monthNumber_ofMonthNumber]
    rw [Nat.min_eq_left (show (Date.ofMonthNumber m).day ≤ _ from hlen)]
    rfl
  ext u
  rw [addMonths?_eq_some, midnight?_eq_some, hmoved, hn]
  constructor
  · rintro ⟨hd, hmod, hnano⟩
    rw [date_eq_iff (Date.isValid_ofMonthNumber _), dayNumber] at hd
    refine ⟨?_, hnano⟩
    rw [Date.monthDay, ← hd]
    omega
  · rintro ⟨hsecond, hnano⟩
    exact ⟨hfirst hsecond, by omega, hnano⟩

theorem lt_of_addSeconds? {t u : Instant} {seconds : ℤ} (hpos : 0 < seconds)
    (h : t.addSeconds? seconds = some u) : t < u := by
  unfold addSeconds? at h
  rw [lt_iff]
  split_ifs at h with hleap
  · have hu := (ofParts?_eq_some.mp h).1
    omega
  · have hu := (ofParts?_eq_some.mp h).1
    omega

theorem lt_of_addMonths? {t u : Instant} {months : ℕ} (hpos : 0 < months)
    (h : t.addMonths? months = some u) : t < u := by
  obtain ⟨hd, -, -⟩ := addMonths?_eq_some.mp h
  have ht := (Date.monthDay_le_dayNumber (isValid_date t)).2
  have hu := (Date.monthDay_le_dayNumber (isValid_date u)).1
  rw [hd, Date.monthNumber_addMonths, ← hd] at hu
  have hmono := Date.monthDay_strictMono.monotone
    (show t.date.monthNumber + 1 ≤ t.date.monthNumber + months by omega)
  rw [dayNumber_date] at ht hu
  simp only [dayNumber] at ht hu
  rw [lt_iff]
  omega

end Meteogram.Instant

namespace Meteogram.Reading

variable {r : Reading}

theorem instant?_eq_some {t : Instant} : r.instant? = some t ↔ r = .shown t := by
  cases r <;> simp [instant?]

end Meteogram.Reading

namespace Meteogram.Offset

variable {offset : Offset}

theorem reading_eq_shown {epoch : ℤ} {t : Instant} :
    offset.reading epoch = .shown t ↔
      (t.second = epoch + offset.seconds ∧ t.nano = 0) ∧ minSecond ≤ epoch ∧ epoch ≤ maxSecond := by
  unfold reading
  rw [← Instant.ofSecond?_isSome]
  cases hu : Instant.ofSecond? epoch with
  | none => simp
  | some u =>
    dsimp only
    rw [(Instant.ofSecond?_eq_some.mp hu).1, ← Instant.ofSecond?_eq_some]
    cases Instant.ofSecond? (epoch + offset.seconds) <;> simp

/-- A clock leaves the calendar at a moment inside of it whose reading is outside. -/
theorem reading_eq_overflow {epoch : ℤ} :
    offset.reading epoch = .overflow ↔ (minSecond ≤ epoch ∧ epoch ≤ maxSecond) ∧
      ¬ (minSecond ≤ epoch + offset.seconds ∧ epoch + offset.seconds ≤ maxSecond) := by
  unfold reading
  rw [← Instant.ofSecond?_isSome, ← Instant.ofSecond?_isSome]
  cases hu : Instant.ofSecond? epoch with
  | none => simp
  | some u =>
    dsimp only
    rw [(Instant.ofSecond?_eq_some.mp hu).1]
    cases Instant.ofSecond? (epoch + offset.seconds) <;> simp

theorem instantOf?_eq_some {epoch : ℤ} {t : Instant} :
    offset.instantOf? epoch = some t ↔
      (t.second = epoch + offset.seconds ∧ t.nano = 0) ∧ minSecond ≤ epoch ∧ epoch ≤ maxSecond := by
  rw [instantOf?, Reading.instant?_eq_some, reading_eq_shown]

/-- Between two instants of the calendar lie instants of the calendar. -/
theorem exists_instantOf? {a b n : ℤ} {t u : Instant} (ha : offset.instantOf? a = some t)
    (hb : offset.instantOf? b = some u) (han : a ≤ n) (hnb : n ≤ b) :
    ∃ v, offset.instantOf? n = some v ∧ t ≤ v ∧ v ≤ u := by
  obtain ⟨⟨hts, htn⟩, hta⟩ := instantOf?_eq_some.mp ha
  obtain ⟨⟨hus, hun⟩, hub⟩ := instantOf?_eq_some.mp hb
  have ht := t.inCalendar
  have hu := u.inCalendar
  obtain ⟨v, hv⟩ := Option.isSome_iff_exists.mp
    (Instant.ofSecond?_isSome.mpr (show minSecond ≤ n + offset.seconds ∧ _ ≤ maxSecond by omega))
  rw [Instant.ofSecond?_eq_some] at hv
  refine ⟨v, instantOf?_eq_some.mpr ⟨hv, by omega⟩, ?_, ?_⟩
  · rw [Instant.le_iff]
    omega
  · rw [Instant.le_iff]
    omega

/-- One second earlier on the clock is one second earlier since the epoch. -/
theorem addSeconds?_of_instantOf? {a n : ℤ} {t u : Instant} (ha : offset.instantOf? a = some t)
    (hn : offset.instantOf? n = some u) : t.addSeconds? (n - a) = some u := by
  obtain ⟨⟨hts, htn⟩, -⟩ := instantOf?_eq_some.mp ha
  obtain ⟨⟨hus, hun⟩, -⟩ := instantOf?_eq_some.mp hn
  rw [Instant.addSeconds?_of_nano_eq_zero htn, Instant.ofSecond?_eq_some]
  exact ⟨by omega, hun⟩

end Meteogram.Offset
