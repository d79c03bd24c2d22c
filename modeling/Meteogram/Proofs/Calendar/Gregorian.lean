import Mathlib.Algebra.Order.Ring.Int
import Mathlib.Data.Int.SuccPred
import Mathlib.Order.SuccPred.Archimedean
import Mathlib.Tactic
import Meteogram.Calendar.Date

/-!
# The Gregorian calendar as an enumeration of days

Years, months and days are laid end to end: the first day of a year, of a month and of a day is a
strictly increasing function of its number, and every day lies between the first day of its year or
month and that of the next. Hence dates and day numbers determine each other.
-/
namespace Meteogram.Date

theorem isLeap_iff {year : ℤ} :
    isLeap year = true ↔ year % 4 = 0 ∧ (year % 100 ≠ 0 ∨ year % 400 = 0) := by
  simp [isLeap]

/-- The number of days of a leap or a common year. -/
def yearLength (leap : Bool) : ℕ := if leap then 366 else 365

theorem daysBeforeYear_succ (year : ℤ) :
    daysBeforeYear (year + 1) = daysBeforeYear year + yearLength (isLeap year) := by
  unfold daysBeforeYear yearLength
  by_cases h : isLeap year = true
  · have hy := isLeap_iff.mp h
    simp only [h, if_true]
    omega
  · have hy := mt isLeap_iff.mpr h
    simp only [h, if_false, Bool.false_eq_true]
    omega

/-- The guess of the average year length is off by at most one year. -/
theorem yearOfDayNumber_spec (n : ℤ) :
    daysBeforeYear (yearOfDayNumber n) ≤ n + epochDays ∧
      n + epochDays < daysBeforeYear (yearOfDayNumber n + 1) := by
  simp only [yearOfDayNumber]
  generalize n + epochDays = days
  split_ifs with hlo hhi
  · refine ⟨?_, by simpa using hlo⟩
    unfold daysBeforeYear
    omega
  · refine ⟨hhi, ?_⟩
    unfold daysBeforeYear
    omega
  · exact ⟨by omega, by omega⟩

/-- All months of a year together are the year. -/
theorem daysBeforeMonth_thirteen (leap : Bool) : daysBeforeMonth leap 13 = yearLength leap := by
  cases leap <;> rfl

theorem daysBeforeMonth_succ (leap : Bool) {month : ℕ} (h : 1 ≤ month) :
    daysBeforeMonth leap (month + 1) = daysBeforeMonth leap month + monthLength leap month := by
  obtain ⟨k, rfl⟩ := Nat.exists_eq_add_of_le' h
  rfl

/-- A date that the calendar of any year has. -/
structure IsValid (d : Date) : Prop where
  month_pos : 1 ≤ d.month
  month_le : d.month ≤ 12
  day_pos : 1 ≤ d.day
  day_le : d.day ≤ monthLength (isLeap d.year) d.month

theorem splitYear_spec (leap : Bool) (more month rest : ℕ) (hm : 1 ≤ month)
    (hmore : month + more = 12)
    (hrest : daysBeforeMonth leap month + rest < daysBeforeMonth leap 13) :
    let p := splitYear leap more month rest
    month ≤ p.1 ∧ p.1 ≤ 12 ∧ 1 ≤ p.2 ∧ p.2 ≤ monthLength leap p.1 ∧
      daysBeforeMonth leap p.1 + p.2 = daysBeforeMonth leap month + rest + 1 := by
  induction more generalizing month rest with
  | zero =>
    have hm12 : month = 12 := by omega
    subst hm12
    have hlen : daysBeforeMonth leap 13 = daysBeforeMonth leap 12 + monthLength leap 12 := rfl
    simp only [splitYear]
    omega
  | succ more ih =>
    have hlen := daysBeforeMonth_succ leap hm
    simp only [splitYear]
    split_ifs with hlt
    · dsimp only
      omega
    · have hh := ih (month + 1) (rest - monthLength leap month) (by omega) (by omega) (by omega)
      dsimp only at hh ⊢
      omega

theorem ofDayNumber_spec (n : ℤ) : (ofDayNumber n).IsValid ∧ (ofDayNumber n).dayNumber = n := by
  obtain ⟨hlo, hhi⟩ := yearOfDayNumber_spec n
  rw [daysBeforeYear_succ] at hhi
  simp only [ofDayNumber]
  generalize yearOfDayNumber n = year at hlo hhi ⊢
  have hrest : daysBeforeMonth (isLeap year) 1 + (n + epochDays - daysBeforeYear year).toNat <
      daysBeforeMonth (isLeap year) 13 := by
    rw [daysBeforeMonth_thirteen, show daysBeforeMonth (isLeap year) 1 = 0 from rfl]
    omega
  obtain ⟨hm, hm', hd, hd', hsum⟩ := splitYear_spec (isLeap year) 11 1 _ le_rfl rfl hrest
  rw [show daysBeforeMonth (isLeap year) 1 = 0 from rfl] at hsum
  refine ⟨⟨hm, hm', hd, hd'⟩, ?_⟩
  simp only [dayNumber]
  omega

theorem isValid_ofDayNumber (n : ℤ) : (ofDayNumber n).IsValid := (ofDayNumber_spec n).1

@[simp] theorem dayNumber_ofDayNumber (n : ℤ) : (ofDayNumber n).dayNumber = n :=
  (ofDayNumber_spec n).2

/-- Months counted from January of year 0. -/
def monthNumber (d : Date) : ℤ := d.year * 12 + (d.month - 1 : ℕ)

/-- The first date of the month with a number. -/
def ofMonthNumber (m : ℤ) : Date := ⟨m / 12, (m % 12).toNat + 1, 1⟩

/-- The day number of the first day of a month. -/
def monthDay (m : ℤ) : ℤ := (ofMonthNumber m).dayNumber

/-- Every month has a first day. -/
theorem isValid_first (year : ℤ) {month : ℕ} (hm : 1 ≤ month ∧ month ≤ 12) :
    IsValid ⟨year, month, 1⟩ where
  month_pos := hm.1
  month_le := hm.2
  day_pos := le_rfl
  day_le := monthLength_pos ..

theorem isValid_ofMonthNumber (m : ℤ) : (ofMonthNumber m).IsValid :=
  isValid_first _ ⟨Nat.le_add_left .., by omega⟩

@[simp] theorem monthNumber_ofMonthNumber (m : ℤ) : (ofMonthNumber m).monthNumber = m := by
  simp only [monthNumber, ofMonthNumber]
  omega

theorem ofMonthNumber_monthNumber {d : Date} (h : d.IsValid) :
    ofMonthNumber d.monthNumber = ⟨d.year, d.month, 1⟩ := by
  have hm := h.month_pos
  have hm' := h.month_le
  simp only [ofMonthNumber, monthNumber, Date.mk.injEq, and_true]
  constructor <;> omega

theorem monthDay_succ (m : ℤ) : monthDay (m + 1) =
    monthDay m + monthLength (isLeap (ofMonthNumber m).year) (ofMonthNumber m).month := by
  simp only [monthDay, dayNumber, ofMonthNumber]
  by_cases h : m % 12 = 11
  · have hy : (m + 1) / 12 = m / 12 + 1 := by omega
    have hm : ((m + 1) % 12).toNat = 0 := by omega
    have hm' : (m % 12).toNat = 11 := by omega
    have hlen : daysBeforeMonth (isLeap (m / 12)) 13 = daysBeforeMonth (isLeap (m / 12)) 12 +
        monthLength (isLeap (m / 12)) 12 := rfl
    rw [daysBeforeMonth_thirteen] at hlen
    rw [hy, hm, hm', daysBeforeYear_succ, hlen]
    simp only [daysBeforeMonth]
    push_cast
    ring
  · have hy : (m + 1) / 12 = m / 12 := by omega
    have hm : ((m + 1) % 12).toNat = (m % 12).toNat + 1 := by omega
    rw [hy, hm, daysBeforeMonth_succ _ (Nat.le_add_left ..)]
    push_cast
    ring

theorem monthDay_strictMono : StrictMono monthDay := by
  apply strictMono_int_of_lt_succ
  intro m
  have h := monthLength_pos (isLeap (ofMonthNumber m).year) (ofMonthNumber m).month
  rw [monthDay_succ]
  omega

/-- The days of a month follow its first day. -/
theorem dayNumber_eq_monthDay {d : Date} (h : d.IsValid) :
    d.dayNumber = monthDay d.monthNumber + (d.day - 1 : ℕ) := by
  have hd := h.day_pos
  rw [monthDay, ofMonthNumber_monthNumber h]
  simp only [dayNumber]
  omega

/-- A day lies between the first of its month and the first of the next. -/
theorem monthDay_le_dayNumber {d : Date} (h : d.IsValid) :
    monthDay d.monthNumber ≤ d.dayNumber ∧ d.dayNumber < monthDay (d.monthNumber + 1) := by
  have hd := h.day_pos
  have hd' := h.day_le
  rw [monthDay_succ, ofMonthNumber_monthNumber h, dayNumber_eq_monthDay h]
  dsimp only
  omega

theorem dayNumber_injective {a b : Date} (ha : a.IsValid) (hb : b.IsValid)
    (h : a.dayNumber = b.dayNumber) : a = b := by
  have hal := monthDay_le_dayNumber ha
  have hbl := monthDay_le_dayNumber hb
  have hab := monthDay_strictMono.lt_iff_lt.mp
    (show monthDay a.monthNumber < monthDay (b.monthNumber + 1) by omega)
  have hba := monthDay_strictMono.lt_iff_lt.mp
    (show monthDay b.monthNumber < monthDay (a.monthNumber + 1) by omega)
  have hm : a.monthNumber = b.monthNumber := by omega
  have hday : a.day = b.day := by
    have hda := dayNumber_eq_monthDay ha
    have hdb := dayNumber_eq_monthDay hb
    rw [hm] at hda
    have := ha.day_pos
    have := hb.day_pos
    omega
  have hfirst : (⟨a.year, a.month, 1⟩ : Date) = ⟨b.year, b.month, 1⟩ := by
    rw [← ofMonthNumber_monthNumber ha, ← ofMonthNumber_monthNumber hb, hm]
  obtain ⟨hyear, hmonth, -⟩ := Date.mk.inj hfirst
  cases a
  cases b
  simp only [Date.mk.injEq]
  exact ⟨hyear, hmonth, hday⟩

/-- A date is found again from its day number. -/
theorem ofDayNumber_dayNumber {d : Date} (h : d.IsValid) : ofDayNumber d.dayNumber = d :=
  dayNumber_injective (isValid_ofDayNumber _) h (dayNumber_ofDayNumber _)

theorem year_eq_monthNumber_div {d : Date} (h : d.IsValid) : d.year = d.monthNumber / 12 := by
  have hm := h.month_le
  simp only [monthNumber]
  omega

/-- The days of the calendar are those whose month is in it. -/
theorem dayNumber_mem_calendar {d : Date} (h : d.IsValid) :
    (minDay ≤ d.dayNumber ∧ d.dayNumber ≤ maxDay) ↔ (minYear ≤ d.year ∧ d.year ≤ maxYear) := by
  have hl := monthDay_le_dayNumber h
  have hmin : monthDay (minYear * 12) = minDay := by decide
  have hmax : monthDay ((maxYear + 1) * 12) = maxDay + 1 := by decide
  rw [year_eq_monthNumber_div h]
  have hmono := fun m n => (monthDay_strictMono.lt_iff_lt (a := m) (b := n))
  simp only [minYear, maxYear] at hmin hmax ⊢
  constructor
  · rintro ⟨hlo, hhi⟩
    have hlo' := (hmono _ _).mp
      (show monthDay (-262143 * 12) < monthDay (d.monthNumber + 1) by omega)
    have hhi' := (hmono _ _).mp
      (show monthDay d.monthNumber < monthDay ((262142 + 1) * 12) by omega)
    omega
  · rintro ⟨hlo, hhi⟩
    have hlo' := monthDay_strictMono.monotone (show -262143 * 12 ≤ d.monthNumber by omega)
    have hhi' := monthDay_strictMono.monotone (show d.monthNumber + 1 ≤ (262142 + 1) * 12 by omega)
    omega

/-- So many months later, on the last day of the month where it has no such day. -/
def addMonths (d : Date) (months : ℕ) : Date :=
  let first := ofMonthNumber (d.monthNumber + months)
  { first with day := min d.day (monthLength (isLeap first.year) first.month) }

theorem isValid_addMonths {d : Date} (h : d.IsValid) (months : ℕ) :
    (d.addMonths months).IsValid where
  month_pos := Nat.le_add_left ..
  month_le := (isValid_ofMonthNumber (d.monthNumber + months)).month_le
  day_pos := le_min h.day_pos (monthLength_pos ..)
  day_le := min_le_right ..

@[simp] theorem monthNumber_addMonths (d : Date) (months : ℕ) :
    (d.addMonths months).monthNumber = d.monthNumber + months :=
  monthNumber_ofMonthNumber (d.monthNumber + months)

theorem ofYmd?_eq_some {year : ℤ} {month day : ℕ} {d : Date} :
    ofYmd? year month day = some d ↔
      d = ⟨year, month, day⟩ ∧ d.IsValid ∧ minYear ≤ year ∧ year ≤ maxYear := by
  unfold ofYmd?
  split_ifs with h
  · obtain ⟨hlo, hhi, hm, hm', hd, hd'⟩ := h
    simp only [Option.some.injEq]
    constructor
    · rintro rfl
      exact ⟨rfl, ⟨hm, hm', hd, hd'⟩, hlo, hhi⟩
    · exact fun h => h.1.symm
  · simp only [false_iff]
    rintro ⟨rfl, hv, hlo, hhi⟩
    exact h ⟨hlo, hhi, hv.month_pos, hv.month_le, hv.day_pos, hv.day_le⟩

end Meteogram.Date
