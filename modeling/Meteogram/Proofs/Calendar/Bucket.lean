import Meteogram.Period
import Meteogram.Proofs.Calendar.Instant

/-!
# Buckets of a period

A stepped period numbers its buckets: hours and days from the epoch, months and years from year 0.
`startSecond` says where the bucket with a number begins, `number` in which bucket an instant lies.
Truncation gives the start of that bucket and never falls back to the instant itself; advancing from
the start of a bucket gives the start of the next one, if the calendar contains it.
-/
namespace Meteogram.Period

/-- The second at which the bucket with a number begins. -/
def startSecond : Period → ℤ → ℤ
  | raw, n => n
  | hour, n => n * 3600
  | day, n => n * 86400
  | month, n => Date.monthDay n * 86400
  | year, n => Date.monthDay (n * 12) * 86400

/-- The number of the bucket in which an instant lies. -/
def number : Period → Instant → ℤ
  | raw, t => t.second
  | hour, t => t.second / 3600
  | day, t => t.dayNumber
  | month, t => t.date.monthNumber
  | year, t => t.date.year

/-- The start of the bucket with a number, where the calendar has it. -/
def start? (p : Period) (n : ℤ) : Option Instant := Instant.ofSecond? (p.startSecond n)

theorem isStepped_of_ne_raw {p : Period} (h : p ≠ raw) : p.isStepped = true := by
  cases p <;> simp_all [isStepped]

theorem startSecond_strictMono (p : Period) : StrictMono p.startSecond := by
  intro m n h
  cases p with
  | raw => exact h
  | hour => simp only [startSecond]; omega
  | day => simp only [startSecond]; omega
  | month =>
    have hd := Date.monthDay_strictMono h
    simp only [startSecond]
    omega
  | year =>
    have hd := Date.monthDay_strictMono (show m * 12 < n * 12 by omega)
    simp only [startSecond]
    omega

/-- An instant lies between the start of its bucket and that of the next one. -/
theorem startSecond_number (p : Period) (t : Instant) :
    p.startSecond (p.number t) ≤ t.second ∧ t.second < p.startSecond (p.number t + 1) := by
  have hday : t.dayNumber * 86400 ≤ t.second ∧ t.second < (t.dayNumber + 1) * 86400 := by
    simp only [Instant.dayNumber]
    omega
  have hmonth := Date.monthDay_le_dayNumber (Instant.isValid_date t)
  rw [Instant.dayNumber_date] at hmonth
  cases p with
  | raw => simp only [startSecond, number]; omega
  | hour => simp only [startSecond, number]; omega
  | day => exact hday
  | month => simp only [startSecond, number]; omega
  | year =>
    have hy := Date.year_eq_monthNumber_div (Instant.isValid_date t)
    have hlo := Date.monthDay_strictMono.monotone
      (show t.date.year * 12 ≤ t.date.monthNumber by omega)
    have hhi := Date.monthDay_strictMono.monotone
      (show t.date.monthNumber + 1 ≤ (t.date.year + 1) * 12 by omega)
    simp only [startSecond, number]
    omega

theorem number_eq {p : Period} {t : Instant} {n : ℤ} (hlo : p.startSecond n ≤ t.second)
    (hhi : t.second < p.startSecond (n + 1)) : p.number t = n := by
  obtain ⟨h, h'⟩ := p.startSecond_number t
  have hle := p.startSecond_strictMono.lt_iff_lt.mp (h.trans_lt hhi)
  have hge := p.startSecond_strictMono.lt_iff_lt.mp (hlo.trans_lt h')
  omega

theorem number_of_second_eq {p : Period} {t : Instant} {n : ℤ}
    (h : t.second = p.startSecond n) : p.number t = n :=
  number_eq h.ge (h ▸ p.startSecond_strictMono (lt_add_one n))

/-- Later instants lie in later buckets or in the same one. -/
theorem number_mono (p : Period) {a b : Instant} (h : a ≤ b) : p.number a ≤ p.number b := by
  have hsecond : a.second ≤ b.second := by
    rw [Instant.le_iff] at h
    omega
  have ha := (p.startSecond_number a).1
  have hb := (p.startSecond_number b).2
  have hlt := p.startSecond_strictMono.lt_iff_lt.mp ((ha.trans hsecond).trans_lt hb)
  omega

/-- Every bucket of a stepped period lasts an hour at least. -/
theorem startSecond_succ (p : Period) (h : p.isStepped = true) (n : ℤ) :
    p.startSecond n + 3600 ≤ p.startSecond (n + 1) := by
  cases p with
  | raw => cases h
  | hour => simp only [startSecond]; omega
  | day => simp only [startSecond]; omega
  | month =>
    have hd := Date.monthDay_strictMono (lt_add_one n)
    simp only [startSecond]
    omega
  | year =>
    have hd := Date.monthDay_strictMono (show n * 12 < (n + 1) * 12 by omega)
    simp only [startSecond]
    omega

theorem startSecond_add (p : Period) (h : p.isStepped = true) (n : ℤ) (count : ℕ) :
    p.startSecond n + 3600 * count ≤ p.startSecond (n + count) := by
  induction count with
  | zero => simp
  | succ count ih =>
    have hs := p.startSecond_succ h (n + count)
    push_cast
    rw [← add_assoc]
    omega

/-- An instant at which a bucket begins. -/
structure IsStart (p : Period) (t : Instant) : Prop where
  second_eq : t.second = p.startSecond (p.number t)
  nano_eq : t.nano = 0

theorem IsStart.lt_iff {p : Period} {a b : Instant} (ha : p.IsStart a) (hb : p.IsStart b) :
    a < b ↔ p.number a < p.number b := by
  rw [Instant.lt_iff, ha.nano_eq, hb.nano_eq, ha.second_eq, hb.second_eq,
    p.startSecond_strictMono.lt_iff_lt]
  omega

/-- The calendar begins with a bucket of every period. -/
theorem exists_startSecond_eq_minSecond (p : Period) : ∃ n, p.startSecond n = minSecond := by
  cases p with
  | raw => exact ⟨minSecond, rfl⟩
  | hour => exact ⟨Date.minDay * 24, by decide⟩
  | day => exact ⟨Date.minDay, rfl⟩
  | month => exact ⟨Date.minYear * 12, by decide⟩
  | year => exact ⟨Date.minYear, by decide⟩

/-- The bucket of an instant of the calendar begins in the calendar. -/
theorem startSecond_mem (p : Period) (t : Instant) :
    minSecond ≤ p.startSecond (p.number t) ∧ p.startSecond (p.number t) ≤ maxSecond := by
  obtain ⟨n, hn⟩ := p.exists_startSecond_eq_minSecond
  obtain ⟨hlo, hhi⟩ := p.startSecond_number t
  obtain ⟨hmin, hmax⟩ := t.inCalendar
  refine ⟨?_, hlo.trans hmax⟩
  have hlt := p.startSecond_strictMono.lt_iff_lt.mp
    (show p.startSecond n < p.startSecond (p.number t + 1) by omega)
  rw [← hn]
  exact p.startSecond_strictMono.monotone (by omega)

/-- The start of the bucket of an instant, as truncation computes it before it would fall back to the
instant itself. -/
def bucketStart? (p : Period) (t : Instant) : Option Instant :=
  match p with
  | raw => some t
  | hour => Instant.ofSecond? (t.second - t.second % 3600)
  | day => Instant.midnight? t.dayNumber
  | month => Instant.midnight? (Date.dayNumber ⟨t.date.year, t.date.month, 1⟩)
  | year => Instant.midnight? (Date.dayNumber ⟨t.date.year, 1, 1⟩)

theorem truncate_eq_getD (p : Period) (t : Instant) : p.truncate t = (p.bucketStart? t).getD t := by
  cases p <;> rfl

theorem bucketStart?_eq (p : Period) (h : p.isStepped = true) (t : Instant) :
    p.bucketStart? t = p.start? (p.number t) := by
  cases p with
  | raw => cases h
  | hour =>
    simp only [bucketStart?, start?, startSecond, number]
    rw [show t.second - t.second % 3600 = t.second / 3600 * 3600 by omega]
  | day => rfl
  | month =>
    simp only [bucketStart?, start?, startSecond, number, Instant.midnight?, Date.monthDay,
      Date.ofMonthNumber_monthNumber (Instant.isValid_date t)]
  | year =>
    have hfirst : Date.ofMonthNumber (t.date.year * 12) = ⟨t.date.year, 1, 1⟩ := by
      simp [Date.ofMonthNumber]
    simp only [bucketStart?, start?, startSecond, number, Instant.midnight?, Date.monthDay, hfirst]

theorem truncate_eq (p : Period) (h : p.isStepped = true) (t : Instant) :
    p.truncate t = (p.start? (p.number t)).getD t := by
  rw [truncate_eq_getD, bucketStart?_eq p h]

/-- Truncation gives the start of the bucket. -/
theorem truncate_second (p : Period) (h : p.isStepped = true) (t : Instant) :
    (p.truncate t).second = p.startSecond (p.number t) ∧ (p.truncate t).nano = 0 := by
  obtain ⟨u, hu⟩ := Option.isSome_iff_exists.mp (Instant.ofSecond?_isSome.mpr (p.startSecond_mem t))
  rw [truncate_eq p h, start?, hu]
  exact Instant.ofSecond?_eq_some.mp hu

@[simp] theorem number_truncate (p : Period) (t : Instant) :
    p.number (p.truncate t) = p.number t := by
  by_cases h : p = raw
  · subst h; rfl
  · exact number_of_second_eq (truncate_second p (isStepped_of_ne_raw h) t).1

theorem isStart_truncate (p : Period) (h : p.isStepped = true) (t : Instant) :
    p.IsStart (p.truncate t) where
  second_eq := by rw [number_truncate]; exact (truncate_second p h t).1
  nano_eq := (truncate_second p h t).2

/-- A month begins at a midnight. -/
theorem isStart_day_month (t : Instant) : day.IsStart (month.truncate t) := by
  obtain ⟨hsecond, hnano⟩ := truncate_second .month rfl t
  refine ⟨?_, hnano⟩
  simp only [startSecond, number, Instant.dayNumber] at hsecond ⊢
  omega

theorem truncate_mono (p : Period) {a b : Instant} (h : a ≤ b) : p.truncate a ≤ p.truncate b := by
  by_cases hp : p = raw
  · subst hp; exact h
  · have hs := isStepped_of_ne_raw hp
    rw [← not_lt, (isStart_truncate p hs b).lt_iff (isStart_truncate p hs a), number_truncate,
      number_truncate, not_lt]
    exact p.number_mono h

theorem start?_eq_some {p : Period} {n : ℤ} {t : Instant} :
    p.start? n = some t ↔ p.IsStart t ∧ p.number t = n := by
  rw [start?, Instant.ofSecond?_eq_some]
  constructor
  · rintro ⟨hs, hn⟩
    have hnum := number_of_second_eq hs
    exact ⟨⟨by rw [hnum, hs], hn⟩, hnum⟩
  · rintro ⟨⟨hs, hn⟩, rfl⟩
    exact ⟨hs, hn⟩

theorem start?_number {p : Period} (h : p.isStepped = true) (t : Instant) :
    p.start? (p.number t) = some (p.truncate t) :=
  start?_eq_some.mpr ⟨isStart_truncate p h t, number_truncate p t⟩

/-- What truncation computes is in the calendar. -/
theorem bucketStart?_eq_truncate (p : Period) (hp : p.isStepped = true) (t : Instant) :
    p.bucketStart? t = some (p.truncate t) := by
  rw [bucketStart?_eq p hp, start?_number hp]

/-- Truncation changes nothing at the start of a bucket. -/
theorem truncate_of_isStart {p : Period} (hp : p.isStepped = true) {t : Instant}
    (h : p.IsStart t) : p.truncate t = t := by
  have ht := start?_number hp t
  rw [start?_eq_some.mpr ⟨h, rfl⟩] at ht
  exact (Option.some.inj ht).symm

/-- Between two buckets of the calendar lie buckets of the calendar. -/
theorem start?_isSome {p : Period} {a b : Instant} {n : ℤ} (ha : p.number a ≤ n)
    (hb : n ≤ p.number b) : (p.start? n).isSome = true := by
  have hlo := p.startSecond_strictMono.monotone ha
  have hhi := p.startSecond_strictMono.monotone hb
  exact Instant.ofSecond?_isSome.mpr ⟨(p.startSecond_mem a).1.trans hlo,
    hhi.trans (p.startSecond_mem b).2⟩

/-- The start of the bucket that comes so many buckets after the one an instant begins, computed at
once. -/
def after? (p : Period) (t : Instant) (count : ℕ) : Option Instant :=
  match p with
  | raw => none
  | hour => Instant.ofSecond? (t.second + 3600 * count)
  | day => Instant.midnight? (t.dayNumber + count)
  | month => Instant.midnight? (Date.ofMonthNumber (t.date.monthNumber + count)).dayNumber
  | year => Instant.midnight? (Date.dayNumber ⟨t.date.year + count, 1, 1⟩)

theorem after?_of_isStart {p : Period} (hp : p.isStepped = true) {t : Instant} (h : p.IsStart t)
    (count : ℕ) : p.after? t count = p.start? (p.number t + count) := by
  have hs := h.second_eq
  cases p with
  | raw => cases hp
  | hour =>
    simp only [startSecond, number] at hs
    simp only [after?, start?, startSecond, number]
    rw [show t.second + 3600 * count = (t.second / 3600 + count) * 3600 by omega]
  | day => rfl
  | month => rfl
  | year =>
    have hfirst : Date.ofMonthNumber ((t.date.year + count) * 12) =
        ⟨t.date.year + count, 1, 1⟩ := by
      simp [Date.ofMonthNumber]
    simp only [after?, start?, startSecond, number, Instant.midnight?, Date.monthDay, hfirst]

/-- From the start of a bucket one step leads to the start of the next one. -/
theorem advance_of_isStart {p : Period} (hp : p.isStepped = true) {t : Instant}
    (h : p.IsStart t) : p.advance t = p.start? (p.number t + 1) := by
  obtain ⟨hs, hn⟩ := h
  cases p with
  | raw => cases hp
  | hour =>
    simp only [startSecond, number] at hs
    simp only [advance, start?, startSecond, number, Instant.addSeconds?_of_nano_eq_zero hn]
    rw [show t.second + 3600 = (t.second / 3600 + 1) * 3600 by omega]
  | day =>
    simp only [startSecond, number] at hs
    simp only [advance, start?, startSecond, number, Instant.addSeconds?_of_nano_eq_zero hn]
    rw [show t.second + 86400 = (t.dayNumber + 1) * 86400 by omega]
  | month => exact Instant.addMonths?_of_first hs hn 1
  | year =>
    have hm := Instant.addMonths?_of_first hs hn 12
    simp only [advance, start?, startSecond]
    rw [hm, Instant.midnight?]
    congr 3
    push_cast
    ring

theorem lt_of_advance {p : Period} {t u : Instant} (h : p.advance t = some u) : t < u := by
  cases p with
  | raw => cases h
  | hour => exact Instant.lt_of_addSeconds? (by decide) h
  | day => exact Instant.lt_of_addSeconds? (by decide) h
  | month => exact Instant.lt_of_addMonths? (by decide) h
  | year => exact Instant.lt_of_addMonths? (by decide) h

end Meteogram.Period
