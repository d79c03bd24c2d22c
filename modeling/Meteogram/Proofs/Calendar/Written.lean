import Meteogram.Calendar.Read
import Meteogram.Calendar.Written
import Meteogram.Proofs.Calendar.Instant
import Meteogram.Proofs.Text.Digits

/-!
# Timestamps that are written and read again

The timestamp of an instant is read as this instant, without the fraction that it does not show. A
leap second is shown, so it is kept. Of the shapes of time the one with an offset comes first: it
takes no signed year, and of the others it misses the offset. A timestamp is the second shape.
-/
namespace Meteogram

open Text

namespace Date

variable {d : Date}

theorem day_lt (h : d.IsValid) : d.day < 100 := by
  have hday := h.day_le
  have hlength := monthLength_le (isLeap d.year) d.month
  omega

theorem month_lt (h : d.IsValid) : d.month < 100 := by
  have hmonth := h.month_le
  omega

/-- A text that begins with a digit begins with a year of four digits at most. -/
theorem year?_of_isDigit {cs : List Char} (h : ∃ c ∈ cs.head?, isDigit c = true) :
    year? cs = (number? 1 (some 4) cs).map fun (n, rest) => ((n : ℤ), rest) := by
  obtain ⟨c, hc, hdigit⟩ := h
  cases cs with
  | nil => cases hc
  | cons c' cs =>
    cases hc
    have hstart : trimStart (c :: cs) = c :: cs :=
      trimStart_of_not_isBlank (by simpa using isBlank_of_isDigit hdigit)
    rw [year?, hstart]
    split
    · next heq => cases heq; exact absurd hdigit (by decide)
    · next heq => cases heq; exact absurd hdigit (by decide)
    · rfl

theorem exists_head_padded {width n : ℕ} (rest : List Char) :
    ∃ c ∈ (padded width n ++ rest).head?, isDigit c = true := by
  have hne : padded width n ++ rest ≠ [] :=
    List.append_ne_nil_of_left_ne_nil (padded_ne_nil width n) rest
  have hhead := List.head?_eq_some_head hne
  exact ⟨_, hhead, isDigit_of_mem_head?_padded hhead⟩

/-- A year is read up to what is no digit. -/
theorem year?_yearChars (year : ℤ) {rest : List Char}
    (hrest : ∀ c ∈ rest.head?, isDigit c = false) :
    year? (yearChars year ++ rest) = some (year, rest) := by
  unfold yearChars
  split_ifs with hshort hnegative
  · have hlength : (padded 4 year.toNat).length = 4 := length_padded (by decide) (by omega)
    rw [year?_of_isDigit (exists_head_padded rest),
      number?_of_length (fun _ => isDigit_of_mem_padded) hlength (by decide), valueOf_padded]
    simp [hshort.1]
  · have hleast : 1 ≤ (padded 4 year.natAbs).length :=
      (by decide : 1 ≤ 4).trans (le_length_padded 4 _)
    have hread := number?_of_end (fun _ => isDigit_of_mem_padded) hleast hrest
    rw [valueOf_padded] at hread
    simp [year?, trimStart, isBlank, hread, abs_of_neg hnegative]
  · have hleast : 1 ≤ (padded 4 year.natAbs).length :=
      (by decide : 1 ≤ 4).trans (le_length_padded 4 _)
    have hread := number?_of_end (fun _ => isDigit_of_mem_padded) hleast hrest
    rw [valueOf_padded] at hread
    simp [year?, trimStart, isBlank, hread, abs_of_nonneg (not_lt.mp hnegative)]

theorem not_isBlank_of_mem_padded {width n : ℕ} {c : Char} (h : c ∈ padded width n) :
    isBlank c = false := isBlank_of_isDigit (isDigit_of_mem_padded h)

theorem not_isBlank_of_mem_yearChars {year : ℤ} {c : Char} (h : c ∈ yearChars year) :
    isBlank c = false := by
  unfold yearChars at h
  split_ifs at h
  · exact not_isBlank_of_mem_padded h
  · rcases List.mem_cons.mp h with rfl | h
    · rfl
    · exact not_isBlank_of_mem_padded h
  · rcases List.mem_cons.mp h with rfl | h
    · rfl
    · exact not_isBlank_of_mem_padded h

end Date

namespace Instant

variable {t : Instant}

/-- The instant as it is shown: without the fraction of its second. -/
def withoutFraction (t : Instant) : Instant where
  second := t.second
  nano := t.nano / 1000000000 * 1000000000
  inCalendar := t.inCalendar
  nano_lt := by have := t.nano_lt; omega
  leap_at_59 h := t.leap_at_59 (by omega)

theorem withoutFraction_eq_self_iff : t.withoutFraction = t ↔ t.fraction = 0 := by
  rw [eq_iff]
  simp only [withoutFraction, fraction, true_and]
  omega

theorem clockSecond_withoutFraction (t : Instant) :
    t.withoutFraction.clockSecond = t.clockSecond := by
  simp [clockSecond, withoutFraction, secondOfDay]

/-- A timestamp does not show the fraction. -/
theorem iso_withoutFraction (t : Instant) : t.withoutFraction.iso = t.iso := by
  rw [iso, iso, isoChars, isoChars, clockChars, clockChars, clockSecond_withoutFraction]
  rfl

theorem readDate?_chars {d : Date} (h : d.IsValid)
    (hyear : Date.minYear ≤ d.year ∧ d.year ≤ Date.maxYear) (rest : List Char) :
    readDate? (d.chars ++ rest) = some (d, rest) := by
  have hofYmd : Date.ofYmd? d.year d.month d.day = some d :=
    Date.ofYmd?_eq_some.mpr ⟨rfl, h, hyear⟩
  simp only [readDate?, Date.chars, List.append_assoc, List.cons_append]
  rw [Date.year?_yearChars d.year (by simp [isDigit])]
  simp [pair?_padded (Date.month_lt h), pair?_padded (Date.day_lt h), hofYmd]

theorem readDate?_chars_end {d : Date} (h : d.IsValid)
    (hyear : Date.minYear ≤ d.year ∧ d.year ≤ Date.maxYear) :
    readDate? d.chars = some (d, []) := by
  have hread := readDate?_chars h hyear []
  rwa [List.append_nil] at hread

theorem secondOfDay_lt (t : Instant) : t.secondOfDay < 86400 := by
  simp only [secondOfDay]
  omega

theorem hour_lt (t : Instant) : t.hour < 24 := by
  have h := t.secondOfDay_lt
  simp only [hour]
  omega

theorem minute_lt (t : Instant) : t.minute < 60 := by
  simp only [minute]
  omega

theorem clockSecond_le (t : Instant) : t.clockSecond ≤ 60 := by
  have h := t.nano_lt
  simp only [clockSecond]
  omega

theorem readClock?_clockChars (t : Instant) (rest : List Char) :
    readClock? (t.clockChars ++ rest) = some ((t.hour, t.minute, t.clockSecond), rest) := by
  have hhour : t.hour < 100 := t.hour_lt.trans (by decide)
  have hminute : t.minute < 100 := t.minute_lt.trans (by decide)
  have hsecond : t.clockSecond < 100 := t.clockSecond_le.trans_lt (by decide)
  simp [readClock?, clockChars, hourMinuteChars, pair?_padded hhour, pair?_padded hminute,
    pair?_padded hsecond]

theorem readClock?_clockChars_end (t : Instant) :
    readClock? t.clockChars = some ((t.hour, t.minute, t.clockSecond), []) := by
  have hread := readClock?_clockChars t []
  rwa [List.append_nil] at hread

/-- What a clock shows of an instant, and its fraction, determine it. -/
theorem ofClock?_self (t : Instant) :
    ofClock? t.date t.hour t.minute t.clockSecond t.fraction = some t := by
  have hhour := t.hour_lt
  have hminute := t.minute_lt
  have hsecond := t.clockSecond_le
  have hnano := t.nano_lt
  have hleap := t.leap_at_59
  have hfraction : t.fraction < 1000000000 := Nat.mod_lt _ (by decide)
  rw [ofClock?, if_pos ⟨hhour, hminute, hsecond, hfraction⟩, ofParts?_eq_some, dayNumber_date]
  simp only [dayNumber, hour, minute, clockSecond, secondOfDay, fraction]
  omega

/-- What a clock shows of an instant determines it but for its fraction. -/
theorem ofClock?_withoutFraction (t : Instant) :
    ofClock? t.date t.hour t.minute t.clockSecond 0 = some t.withoutFraction := by
  have hself := t.withoutFraction.ofClock?_self
  have hwhole : t.withoutFraction.fraction = 0 := Nat.mul_mod_left _ _
  rwa [clockSecond_withoutFraction, hwhole] at hself

theorem ofTimestampChars?_isoChars (t : Instant) :
    ofTimestampChars? t.isoChars = some t.withoutFraction := by
  simp [ofTimestampChars?, isoChars, readDate?_chars (isValid_date t) (year_mem t),
    readClock?_clockChars_end, finished?, ofClock?_withoutFraction]

/-- The shape with an offset takes no signed year. -/
theorem ofRfc3339Chars?_of_signed {year : ℤ} (hyear : ¬ (0 ≤ year ∧ year ≤ 9999))
    (rest : List Char) : ofRfc3339Chars? (Date.yearChars year ++ rest) = none := by
  have hsign : isDigit (if year < 0 then '-' else '+') = false := by
    split_ifs <;> decide
  rw [Date.yearChars, if_neg hyear, List.cons_append, ofRfc3339Chars?,
    number?_of_not_isDigit (by decide : 0 < 4) (some 4) hsign]
  rfl

/-- After a date and a time of day with `T` or a blank between them a fraction and an offset are
read. -/
theorem ofRfc3339Chars?_timestamp {t : Instant} (hyear : 0 ≤ t.date.year ∧ t.date.year ≤ 9999)
    {separator : Char} (hseparator : separator = 'T' ∨ separator = ' ') (rest : List Char) :
    ofRfc3339Chars? (t.date.chars ++ separator :: (t.clockChars ++ rest)) = (do
      let (nano, rest) ← readFraction? rest
      let _ ← finished? (← readOffset? rest)
      ofClock? t.date t.hour t.minute t.clockSecond nano) := by
  have hy (rest : List Char) := number?_padded (n := t.date.year.toNat) (by decide : 0 < 4)
    (by omega) rest
  have hm := number?_padded (by decide : 0 < 2) (Date.month_lt (isValid_date t))
  have hd := number?_padded (by decide : 0 < 2) (Date.day_lt (isValid_date t))
  have hh := number?_padded (by decide : 0 < 2) (t.hour_lt.trans (by decide))
  have hmin := number?_padded (by decide : 0 < 2) (t.minute_lt.trans (by decide))
  have hs := number?_padded (by decide : 0 < 2) (t.clockSecond_le.trans_lt (by decide))
  have hdate : Date.ofYmd? (t.date.year.toNat : ℕ) t.date.month t.date.day = some t.date := by
    rw [Int.toNat_of_nonneg hyear.1]
    exact Date.ofYmd?_eq_some.mpr ⟨rfl, isValid_date t, year_mem t⟩
  have hmark : separator = 'T' ∨ separator = 't' ∨ separator = ' ' := hseparator.imp_right .inr
  have hchars : t.date.chars ++ separator :: (t.clockChars ++ rest) =
      padded 4 t.date.year.toNat ++ '-' :: (padded 2 t.date.month ++ '-' :: (padded 2 t.date.day ++
        separator :: (padded 2 t.hour ++ ':' :: (padded 2 t.minute ++
          ':' :: (padded 2 t.clockSecond ++ rest))))) := by
    simp only [Date.chars, Date.yearChars, if_pos hyear, clockChars, hourMinuteChars,
      List.append_assoc, List.cons_append]
  rw [hchars, ofRfc3339Chars?, hy]
  -- What follows the separator is bound once for all of them, and stays so until it is known.
  simp -zeta only [Option.bind_eq_bind, Option.bind_some, char?_cons, hm, hd]
  rw [if_pos hmark]
  simp only [hh, char?_cons, hmin, hs, hdate, Option.bind_some]

/-- A timestamp without an offset does not have the shape with one. -/
theorem ofRfc3339Chars?_without_offset (t : Instant) {separator : Char}
    (hseparator : separator = 'T' ∨ separator = ' ') :
    ofRfc3339Chars? (t.date.chars ++ separator :: t.clockChars) = none := by
  by_cases hyear : 0 ≤ t.date.year ∧ t.date.year ≤ 9999
  · have hread := ofRfc3339Chars?_timestamp hyear hseparator []
    rw [List.append_nil] at hread
    rw [hread]
    simp [readFraction?, readOffset?]
  · simp only [Date.chars, List.append_assoc]
    exact ofRfc3339Chars?_of_signed hyear _

theorem not_isBlank_of_mem_isoChars (t : Instant) : ∀ c ∈ t.isoChars, isBlank c = false := by
  have hpadded (width n : ℕ) : ∀ c ∈ padded width n, isBlank c = false :=
    fun _ => Date.not_isBlank_of_mem_padded
  have hyear : ∀ c ∈ Date.yearChars t.date.year, isBlank c = false :=
    fun _ => Date.not_isBlank_of_mem_yearChars
  simp only [isoChars, Date.chars, clockChars, hourMinuteChars, List.forall_mem_append,
    List.forall_mem_cons]
  exact ⟨⟨⟨hyear, rfl, hpadded _ _⟩, rfl, hpadded _ _⟩, rfl, ⟨hpadded _ _, rfl, hpadded _ _⟩, rfl,
    hpadded _ _⟩

theorem ofChars?_isoChars (t : Instant) : ofChars? t.isoChars = some t.withoutFraction := by
  rw [ofChars?, ofTimestampChars?_isoChars, isoChars, ofRfc3339Chars?_without_offset t (.inl rfl)]
  rfl

/-- The timestamp of an instant denotes it, without its fraction. -/
theorem read?_iso (t : Instant) : read? t.iso = some t.withoutFraction := by
  rw [read?, iso, String.toList_ofList, trim_of_not_isBlank t.not_isBlank_of_mem_isoChars,
    ofChars?_isoChars]

end Instant

end Meteogram
