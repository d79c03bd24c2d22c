import Meteogram.Proofs.Calendar.Bucket

/-!
# Buckets that lie end to end

The buckets of a stepped period cut the calendar into pieces: an instant lies in the bucket that
truncation gives, and advancing leads from any instant of a bucket into the next one, or nowhere if
this bucket is the last of the calendar. The buckets of a longer period are made of whole buckets of
a shorter one.
-/
namespace Meteogram.Instant

variable {t u : Instant}

theorem exists_addSeconds? {seconds : ℤ} (hpos : 0 < seconds)
    (h : t.second + seconds ≤ maxSecond) : ∃ u, t.addSeconds? seconds = some u := by
  have hlo := t.inCalendar.1
  have hnano := t.nano_lt
  -- What is moved forward is no leap second any more.
  obtain ⟨nano, hlt, hadd⟩ : ∃ nano < 1000000000,
      t.addSeconds? seconds = ofParts? (t.second + seconds) nano := by
    by_cases hleap : t.nano < 1000000000
    · exact ⟨t.nano, hleap, by rw [addSeconds?, if_pos hleap]⟩
    · exact ⟨t.nano - 1000000000, by omega, by rw [addSeconds?, if_neg hleap, if_pos hpos]⟩
  refine ⟨⟨t.second + seconds, nano, by omega, by omega, by omega⟩, ?_⟩
  rw [hadd, ofParts?_eq_some]
  exact ⟨rfl, rfl⟩

theorem second_of_addSeconds? {seconds : ℤ} (hpos : 0 < seconds)
    (h : t.addSeconds? seconds = some u) : u.second = t.second + seconds := by
  unfold addSeconds? at h
  split_ifs at h
  · exact (ofParts?_eq_some.mp h).1
  · exact (ofParts?_eq_some.mp h).1

/-- Months lead to an instant as long as the year is one of the calendar. -/
theorem exists_addMonths? {months : ℕ} (h : (t.date.addMonths months).year ≤ Date.maxYear) :
    ∃ u, t.addMonths? months = some u := by
  have hv := Date.isValid_addMonths (isValid_date t) months
  have hlo : Date.minYear ≤ (t.date.addMonths months).year := by
    have hmonth := Date.year_eq_monthNumber_div hv
    have hmonth' := Date.year_eq_monthNumber_div (isValid_date t)
    have hmin := (year_mem t).1
    rw [Date.monthNumber_addMonths] at hmonth
    omega
  obtain ⟨hday, hday'⟩ := (Date.dayNumber_mem_calendar hv).mpr ⟨hlo, h⟩
  have hleap := t.leap_at_59
  let u : Instant := ⟨(t.date.addMonths months).dayNumber * 86400 + t.second % 86400, t.nano,
    by simp only [minSecond, maxSecond]; omega, t.nano_lt, by omega⟩
  have hdate : u.date = t.date.addMonths months := by
    rw [date_eq_iff hv, dayNumber]
    change ((t.date.addMonths months).dayNumber * 86400 + t.second % 86400) / 86400 = _
    omega
  refine ⟨u, addMonths?_eq_some.mpr ⟨hdate, ?_, rfl⟩⟩
  change ((t.date.addMonths months).dayNumber * 86400 + t.second % 86400) % 86400 = _
  omega

end Meteogram.Instant

namespace Meteogram.Period

variable {p q : Period} {t u : Instant}

/-! ### The next bucket -/

/-- From anywhere in a bucket one step leads into the next one. -/
theorem number_of_advance (h : p.advance t = some u) : p.number u = p.number t + 1 := by
  cases p with
  | raw => cases h
  | hour =>
    have hsecond := Instant.second_of_addSeconds? (by decide) h
    simp only [number]
    omega
  | day =>
    have hsecond := Instant.second_of_addSeconds? (by decide) h
    simp only [number, Instant.dayNumber]
    omega
  | month =>
    have hdate := (Instant.addMonths?_eq_some.mp h).1
    simp only [number]
    rw [hdate, Date.monthNumber_addMonths]
    rfl
  | year =>
    have hdate := (Instant.addMonths?_eq_some.mp h).1
    have hyear := Date.year_eq_monthNumber_div (Instant.isValid_date u)
    have hyear' := Date.year_eq_monthNumber_div (Instant.isValid_date t)
    simp only [number]
    rw [hyear, hyear', hdate, Date.monthNumber_addMonths]
    omega

/-- A step fails only in the last bucket of the calendar. -/
theorem exists_advance (hp : p.isStepped = true) (h : p.number t < p.number u) :
    ∃ v, p.advance t = some v := by
  have hu := u.inCalendar.2
  -- The calendar ends with a whole day.
  have hend : (maxSecond + 1) % 86400 = 0 := by decide
  have hyears := (Instant.year_mem u).2
  have hyear := Date.year_eq_monthNumber_div (Instant.isValid_date t)
  have hyear' := Date.year_eq_monthNumber_div (Instant.isValid_date u)
  have hmoved (months : ℕ) := Date.year_eq_monthNumber_div
    (Date.isValid_addMonths (Instant.isValid_date t) months)
  simp only [Date.monthNumber_addMonths] at hmoved
  cases p with
  | raw => cases hp
  | hour =>
    simp only [number] at h
    exact Instant.exists_addSeconds? (by decide) (by omega)
  | day =>
    simp only [number, Instant.dayNumber] at h
    exact Instant.exists_addSeconds? (by decide) (by omega)
  | month =>
    simp only [number] at h
    have hmonth := hmoved 1
    exact Instant.exists_addMonths? (by omega)
  | year =>
    simp only [number] at h
    have hmonth := hmoved 12
    exact Instant.exists_addMonths? (by omega)

/-- The next bucket does not depend on where in a bucket a step begins. -/
theorem advance_truncate (hp : p.isStepped = true) (t : Instant) :
    p.advance (p.truncate t) = (p.advance t).map p.truncate := by
  rw [advance_of_isStart hp (isStart_truncate p hp t), number_truncate]
  cases h : p.advance t with
  | some u =>
    rw [← number_of_advance h]
    exact start?_number hp u
  | none =>
    rw [Option.map_none, ← Option.not_isSome_iff_eq_none, Option.isSome_iff_exists]
    rintro ⟨v, hv⟩
    have hnumber := (start?_eq_some.mp hv).2
    obtain ⟨w, hw⟩ := exists_advance hp (show p.number t < p.number v by omega)
    rw [h] at hw
    cases hw

theorem isStart_of_truncate_eq (hp : p.isStepped = true) (h : p.truncate t = t) : p.IsStart t :=
  h ▸ isStart_truncate p hp t

theorem truncate_le (hp : p.isStepped = true) (t : Instant) : p.truncate t ≤ t := by
  obtain ⟨hsecond, hnano⟩ := truncate_second p hp t
  have hle := (p.startSecond_number t).1
  rw [Instant.le_iff]
  omega

/-- Buckets compare as their starts. -/
theorem truncate_le_truncate_iff (hp : p.isStepped = true) :
    p.truncate u ≤ p.truncate t ↔ p.number u ≤ p.number t := by
  rw [← not_lt, (isStart_truncate p hp t).lt_iff (isStart_truncate p hp u), number_truncate,
    number_truncate, not_lt]

theorem advance_eq_none_iff (hp : p.isStepped = true) :
    p.advance t = none ↔ ∀ u, p.truncate u ≤ p.truncate t := by
  constructor
  · intro h u
    rw [truncate_le_truncate_iff hp]
    by_contra hlt
    obtain ⟨v, hv⟩ := exists_advance hp (not_le.mp hlt)
    rw [h] at hv
    cases hv
  · intro h
    by_contra hsome
    obtain ⟨v, hv⟩ := Option.ne_none_iff_exists'.mp hsome
    have hle := (truncate_le_truncate_iff hp).mp (h v)
    have hnumber := number_of_advance hv
    omega

/-- A bucket ends where the next one starts. -/
theorem spans_of_advance_truncate (hp : p.isStepped = true) (h : p.advance (p.truncate t) = some u) :
    t < u ∧ p.truncate u = u ∧ ∀ v, p.truncate v = v → ¬ (p.truncate t < v ∧ v < u) := by
  have hstart := isStart_truncate p hp t
  rw [advance_of_isStart hp hstart, number_truncate] at h
  obtain ⟨hu, hnumber⟩ := start?_eq_some.mp h
  refine ⟨?_, truncate_of_isStart hp hu, ?_⟩
  · have hend := (p.startSecond_number t).2
    rw [← hnumber, ← hu.second_eq] at hend
    exact Instant.lt_iff.mpr (.inl hend)
  · rintro v hv ⟨hlo, hhi⟩
    have hvstart := isStart_of_truncate_eq hp hv
    rw [hstart.lt_iff hvstart, number_truncate] at hlo
    rw [hvstart.lt_iff hu] at hhi
    omega

/-! ### Longer periods -/

/-- The place of a period among those that get longer and longer. -/
def rank : Period → ℕ
  | raw => 0
  | hour => 1
  | day => 2
  | month => 3
  | year => 4

/-- Where a bucket of a longer period begins, one of a shorter period does. -/
theorem exists_startSecond_eq (h : p.rank < q.rank) (n : ℤ) :
    ∃ m, p.startSecond m = q.startSecond n := by
  cases p with
  | raw => exact ⟨_, rfl⟩
  | hour =>
    have hday : ∀ m : ℤ, hour.startSecond (m * 24) = m * 86400 := fun m => by
      simp only [startSecond]
      omega
    cases q with
    | raw => cases h
    | hour => exact absurd h (lt_irrefl _)
    | day => exact ⟨_, hday n⟩
    | month => exact ⟨_, hday (Date.monthDay n)⟩
    | year => exact ⟨_, hday (Date.monthDay (n * 12))⟩
  | day =>
    cases q with
    | month => exact ⟨Date.monthDay n, rfl⟩
    | year => exact ⟨Date.monthDay (n * 12), rfl⟩
    | _ => simp [rank] at h
  | month =>
    cases q with
    | year => exact ⟨n * 12, rfl⟩
    | _ => simp [rank] at h
  | year => cases q <;> simp [rank] at h

/-- A longer bucket begins no later than the shorter one of the same instant. -/
theorem startSecond_le_of_rank_lt (h : p.rank < q.rank) (t : Instant) :
    q.startSecond (q.number t) ≤ p.startSecond (p.number t) := by
  obtain ⟨m, hm⟩ := exists_startSecond_eq h (q.number t)
  have hlo := (q.startSecond_number t).1
  have hhi := (p.startSecond_number t).2
  have hlt := p.startSecond_strictMono.lt_iff_lt.mp
    (show p.startSecond m < p.startSecond (p.number t + 1) by omega)
  rw [← hm]
  exact p.startSecond_strictMono.monotone (by omega)

/-- The start of a shorter bucket lies in the longer bucket. -/
theorem truncate_truncate_of_rank_lt (hp : p.isStepped = true) (h : p.rank < q.rank)
    (t : Instant) : q.truncate (p.truncate t) = q.truncate t := by
  have hsecond := (truncate_second p hp t).1
  have hnumber : q.number (p.truncate t) = q.number t := by
    apply number_eq
    · rw [hsecond]
      exact startSecond_le_of_rank_lt h t
    · rw [hsecond]
      exact (p.startSecond_number t).1.trans_lt (q.startSecond_number t).2
  have hq : q.isStepped = true := by
    apply isStepped_of_ne_raw
    rintro rfl
    cases h
  have hstart := start?_number hq (p.truncate t)
  rw [hnumber, start?_number hq t] at hstart
  exact (Option.some.inj hstart).symm

/-- The buckets of a stepped period lie end to end. Truncation gives the start of the bucket, without
falling back to the instant; it keeps the order, and a start where it is. What follows the start of a
bucket is the start of the next one: it comes after all instants of the bucket, and no bucket starts
in between. From any instant one step leads into this next bucket, unless its bucket is the last one
of the calendar. The start of a bucket lies in the same longer bucket as the instant. -/
theorem buckets_end_to_end (hp : p.isStepped = true) (t : Instant) :
    (p.truncate t = (p.bucketStart? t).getD t ∧ p.bucketStart? t = some (p.truncate t)) ∧
    (p.truncate t ≤ t ∧ p.truncate (p.truncate t) = p.truncate t ∧
      ∀ u, t ≤ u → p.truncate t ≤ p.truncate u) ∧
    (∀ n, p.advance (p.truncate t) = some n → t < n ∧ p.truncate n = n ∧
      ∀ u, p.truncate u = u → ¬ (p.truncate t < u ∧ u < n)) ∧
    (p.advance t = none ↔ p.advance (p.truncate t) = none) ∧
    (p.advance t = none ↔ ∀ u, p.truncate u ≤ p.truncate t) ∧
    (∀ n, p.advance t = some n → p.advance (p.truncate t) = some (p.truncate n)) ∧
    ∀ q : Period, p.rank < q.rank → q.truncate (p.truncate t) = q.truncate t := by
  refine ⟨⟨truncate_eq_getD p t, ?_⟩, ⟨truncate_le hp t, ?_, fun _ => p.truncate_mono⟩,
    fun _ => spans_of_advance_truncate hp, ?_, advance_eq_none_iff hp, ?_,
    fun q hq => truncate_truncate_of_rank_lt hp hq t⟩
  · rw [bucketStart?_eq p hp, start?_number hp]
  · exact truncate_of_isStart hp (isStart_truncate p hp t)
  · rw [advance_truncate hp, Option.map_eq_none_iff]
  · intro n hn
    rw [advance_truncate hp, hn, Option.map_some]

/-- In the middle of a leap second at the end of January 2024 a month leads to the leap second at the
end of February, and from the start of January to the start of February. -/
theorem buckets_end_to_end_in_leap_second :
    let t : Instant := ⟨1706745599, 1500000000, by decide, by decide, by decide⟩
    let january : Instant := ⟨1704067200, 0, by decide, by decide, by decide⟩
    let february : Instant := ⟨1706745600, 0, by decide, by decide, by decide⟩
    let n : Instant := ⟨1709251199, 1500000000, by decide, by decide, by decide⟩
    month.isStepped = true ∧ month.truncate t = january ∧ month.advance t = some n ∧
      month.truncate n = february ∧ month.advance january = some february ∧ t < february ∧
      (∀ u, month.truncate u = u → ¬ (january < u ∧ u < february)) ∧
      year.truncate january = year.truncate t := by
  intro t january february n
  have htruncate : month.truncate t = january := by decide +kernel
  have hadvance : month.advance t = some n := by decide +kernel
  have hnext : month.truncate n = february := by decide +kernel
  obtain ⟨-, -, hbetween, -, -, hstep, hlonger⟩ := buckets_end_to_end (p := month) rfl t
  rw [htruncate] at hbetween hstep hlonger
  have hstart := hstep n hadvance
  rw [hnext] at hstart
  obtain ⟨hlt, -, hnone⟩ := hbetween february hstart
  exact ⟨rfl, htruncate, hadvance, hnext, hstart, hlt, hnone, hlonger .year (by decide)⟩

end Meteogram.Period
