import Meteogram.Proofs.Calendar.Bucket
import Meteogram.Proofs.Calendar.Written

/-!
# Shapes of time

A time is written in six shapes: as a timestamp with `T` or a blank before the time of day, as a
date, a month or a year, and as a timestamp with a fraction and an offset. They are tried one after
another, and each text of a shape fits its own shape and none before it, so that it denotes the
instant, the start of its day, month or year, or the wall clock that it shows.
-/
namespace Meteogram

open Text

/-- Year and month: `2024-03`. -/
def Date.monthChars (d : Date) : List Char := Date.yearChars d.year ++ '-' :: padded 2 d.month

namespace Instant

/-- The timestamp `2024-03-17 15:42:09`, without the fraction. -/
def blankChars (t : Instant) : List Char := t.date.chars ++ ' ' :: t.clockChars

/-- So many decimal places of a fraction in nanoseconds, after a point if there are any. -/
def placesChars (places nanos : ℕ) : List Char :=
  if places = 0 then [] else '.' :: padded places (nanos / 10 ^ (9 - places))

/-- What says the offset of a timestamp: `Z`, or hours and minutes with a sign. -/
inductive IsZone : List Char → Prop
  | utc : IsZone ['Z']
  | offset {sign : Char} (hsign : sign = '+' ∨ sign = '-') {hours minutes : ℕ} (hhours : hours < 24)
    (hminutes : minutes < 60) : IsZone (sign :: (padded 2 hours ++ ':' :: padded 2 minutes))

/-- A text denotes an instant, whatever white space stands around it. -/
def Denotes (cs : List Char) (t : Instant) : Prop :=
  ∀ left right : List Char, (∀ c ∈ left, isBlank c = true) → (∀ c ∈ right, isBlank c = true) →
    read? (String.ofList (left ++ cs ++ right)) = some t

variable {t : Instant} {cs : List Char}

theorem denotes_of_ofChars? (hhead : ∀ c ∈ cs.head?, isBlank c = false)
    (hlast : ∀ c ∈ cs.getLast?, isBlank c = false) (h : ofChars? cs = some t) : Denotes cs t := by
  intro left right hleft hright
  rw [read?, String.toList_ofList, trim_append hleft hright hhead hlast, h]

/-! ### Texts that begin and end with something -/

theorem not_isBlank_head_yearChars (year : ℤ) (rest : List Char) :
    ∀ c ∈ (Date.yearChars year ++ rest).head?, isBlank c = false := by
  have hne : Date.yearChars year ≠ [] := by
    unfold Date.yearChars
    split_ifs
    · exact padded_ne_nil 4 _
    all_goals exact List.cons_ne_nil _ _
  rw [List.head?_append_of_ne_nil _ hne]
  exact fun c hc => Date.not_isBlank_of_mem_yearChars (List.mem_of_mem_head? hc)

theorem not_isBlank_last_padded (cs : List Char) (c : Char) (width n : ℕ) :
    ∀ c' ∈ (cs ++ c :: padded width n).getLast?, isBlank c' = false := by
  rw [List.getLast?_append_of_ne_nil _ (List.cons_ne_nil _ _),
    List.getLast?_cons_of_ne_nil (padded_ne_nil width n)]
  exact fun c hc => Date.not_isBlank_of_mem_padded (List.mem_of_getLast? hc)

/-! ### Dates, months and years -/

/-- Without a mark between a date and a time of day there is no timestamp with an offset. -/
theorem ofRfc3339Chars?_of_no_mark (h : ∀ c ∈ cs, ¬ (c = 'T' ∨ c = 't' ∨ c = ' ')) :
    ofRfc3339Chars? cs = none := by
  rw [Option.eq_none_iff_forall_ne_some]
  intro t ht
  obtain ⟨⟨year, cs₁⟩, hyear, ht⟩ := Option.bind_eq_some_iff.mp ht
  obtain ⟨cs₂, hhyphen, ht⟩ := Option.bind_eq_some_iff.mp ht
  obtain ⟨⟨month, cs₃⟩, hmonth, ht⟩ := Option.bind_eq_some_iff.mp ht
  obtain ⟨cs₄, hhyphen', ht⟩ := Option.bind_eq_some_iff.mp ht
  obtain ⟨⟨day, cs₅⟩, hday, ht⟩ := Option.bind_eq_some_iff.mp ht
  have hsuffix : cs₅ <:+ cs := (number?_suffix hday).trans <| (char?_suffix hhyphen').trans <|
    (number?_suffix hmonth).trans <| (char?_suffix hhyphen).trans (number?_suffix hyear)
  cases cs₅ with
  | nil => cases ht
  | cons c rest =>
    dsimp only at ht
    rw [if_neg (h c (hsuffix.subset List.mem_cons_self))] at ht
    cases ht

theorem ofRfc3339Chars?_yearChars_append {year : ℤ} {rest : List Char}
    (hrest : ∀ c ∈ rest, isDigit c = true ∨ c = '-') :
    ofRfc3339Chars? (Date.yearChars year ++ rest) = none := by
  by_cases hyear : 0 ≤ year ∧ year ≤ 9999
  · refine ofRfc3339Chars?_of_no_mark fun c hc => ?_
    rw [Date.yearChars, if_pos hyear, List.mem_append] at hc
    rcases hc.imp_left isDigit_of_mem_padded |>.elim .inl (hrest c) with hdigit | rfl
    · rintro (rfl | rfl | rfl) <;> revert hdigit <;> decide
    · decide
  · exact ofRfc3339Chars?_of_signed hyear rest

/-- A text that is no date is a month, if it is a date with a day after it, or else a year. -/
theorem ofChars?_of_readDate? (h : readDate? cs = none) : ofChars? cs =
    (ofRfc3339Chars? cs <|> ofDateChars? (cs ++ "-01".toList) <|>
      if (String.ofList cs).utf8ByteSize = 4 then ofDateChars? (cs ++ "-01-01".toList)
      else none) := by
  simp [ofChars?, ofTimestampChars?, ofBlankTimestampChars?, ofDateChars?, h]

theorem ofDateChars?_chars {d : Date} (h : d.IsValid)
    (hyear : Date.minYear ≤ d.year ∧ d.year ≤ Date.maxYear) :
    ofDateChars? d.chars = midnight? d.dayNumber := by
  simp [ofDateChars?, readDate?_chars_end h hyear, finished?]

theorem readDate?_yearChars (year : ℤ) : readDate? (Date.yearChars year) = none := by
  have hyear : year? (Date.yearChars year ++ []) = _ := Date.year?_yearChars year (by simp)
  rw [List.append_nil] at hyear
  simp [readDate?, hyear, char?]

theorem readDate?_monthChars {d : Date} (h : d.month < 100) : readDate? d.monthChars = none := by
  have hmonth := pair?_padded h []
  rw [List.append_nil] at hmonth
  rw [readDate?, Date.monthChars, Date.year?_yearChars _ (by simp [isDigit])]
  simp [hmonth, char?]

theorem monthChars_append (d : Date) :
    d.monthChars ++ "-01".toList = Date.chars ⟨d.year, d.month, 1⟩ := by
  have hday : padded 2 1 = ['0', '1'] := by decide
  simp [Date.monthChars, Date.chars, hday]

theorem yearChars_append (year : ℤ) :
    Date.yearChars year ++ "-01".toList = Date.monthChars ⟨year, 1, 1⟩ := by
  have hmonth : padded 2 1 = ['0', '1'] := by decide
  simp [Date.monthChars, hmonth]

/-- A date denotes the start of its day. -/
theorem denotes_date (t : Instant) : Denotes t.date.chars (Period.day.truncate t) := by
  have hread := readDate?_chars_end (isValid_date t) (year_mem t)
  have hrfc : ofRfc3339Chars? t.date.chars = none := by
    rw [Date.chars, List.append_assoc]
    refine ofRfc3339Chars?_yearChars_append ?_
    simp only [List.cons_append, List.forall_mem_cons, List.forall_mem_append]
    exact ⟨.inr trivial, fun _ hc => .inl (isDigit_of_mem_padded hc), .inr trivial,
      fun _ hc => .inl (isDigit_of_mem_padded hc)⟩
  have htimestamp : ofTimestampChars? t.date.chars = none := by
    simp [ofTimestampChars?, hread, char?]
  have hblank : ofBlankTimestampChars? t.date.chars = none := by
    simp [ofBlankTimestampChars?, hread, readClock?, pair?, trimStart, number?, leadingDigits]
  have hdate := ofDateChars?_chars (isValid_date t) (year_mem t)
  rw [dayNumber_date] at hdate
  have hstart : midnight? t.dayNumber = some (Period.day.truncate t) :=
    Period.bucketStart?_eq_truncate .day rfl t
  refine denotes_of_ofChars? ?_ (not_isBlank_last_padded _ _ _ _) ?_
  · rw [Date.chars, List.append_assoc]
    exact not_isBlank_head_yearChars _ _
  · rw [ofChars?, hrfc, htimestamp, hblank, hdate, hstart]
    rfl

/-- A year and a month denote the start of the month. -/
theorem denotes_month (t : Instant) : Denotes t.date.monthChars (Period.month.truncate t) := by
  have hvalid := isValid_date t
  have hrfc : ofRfc3339Chars? t.date.monthChars = none := by
    refine ofRfc3339Chars?_yearChars_append ?_
    rw [List.forall_mem_cons]
    exact ⟨.inr rfl, fun _ hc => .inl (isDigit_of_mem_padded hc)⟩
  have hfirst := Date.isValid_first t.date.year ⟨hvalid.month_pos, hvalid.month_le⟩
  have hdate := ofDateChars?_chars hfirst (year_mem t)
  have hstart : midnight? (Date.dayNumber ⟨t.date.year, t.date.month, 1⟩) =
      some (Period.month.truncate t) := Period.bucketStart?_eq_truncate .month rfl t
  refine denotes_of_ofChars? (not_isBlank_head_yearChars _ _) (not_isBlank_last_padded _ _ _ _) ?_
  rw [ofChars?_of_readDate? (readDate?_monthChars (Date.month_lt hvalid)), hrfc, monthChars_append,
    hdate, hstart]
  rfl

/-- A year of four digits denotes the start of the year. -/
theorem denotes_year (t : Instant) (hyear : 0 ≤ t.date.year ∧ t.date.year ≤ 9999) :
    Denotes (Date.yearChars t.date.year) (Period.year.truncate t) := by
  set year := t.date.year
  have hrfc : ofRfc3339Chars? (Date.yearChars year) = none := by
    have hread : ofRfc3339Chars? (Date.yearChars year ++ []) = none :=
      ofRfc3339Chars?_yearChars_append (List.forall_mem_nil _)
    rwa [List.append_nil] at hread
  have hmonth : ofDateChars? (Date.monthChars ⟨year, 1, 1⟩) = none := by
    rw [ofDateChars?, readDate?_monthChars (by decide : 1 < 100)]
    rfl
  have hsize : (String.ofList (Date.yearChars year)).utf8ByteSize = 4 := by
    rw [Date.yearChars, if_pos hyear,
      utf8ByteSize_ofList_of_isDigit fun _ => isDigit_of_mem_padded,
      length_padded (by decide) (by omega)]
  have hfirst := Date.isValid_first year (by decide : 1 ≤ 1 ∧ 1 ≤ 12)
  have hdate := ofDateChars?_chars hfirst (year_mem t)
  have hchars : Date.yearChars year ++ "-01-01".toList = Date.chars ⟨year, 1, 1⟩ := by
    rw [← monthChars_append ⟨year, 1, 1⟩, ← yearChars_append, List.append_assoc]
    rfl
  have hstart : midnight? (Date.dayNumber ⟨year, 1, 1⟩) =
      some (Period.year.truncate t) := Period.bucketStart?_eq_truncate .year rfl t
  refine denotes_of_ofChars? ?_ ?_ ?_
  · exact fun c hc => Date.not_isBlank_of_mem_yearChars (List.mem_of_mem_head? hc)
  · exact fun c hc => Date.not_isBlank_of_mem_yearChars (List.mem_of_getLast? hc)
  · rw [ofChars?_of_readDate? (readDate?_yearChars year), hrfc, yearChars_append, hmonth,
      if_pos hsize, hchars, hdate, hstart]
    rfl

/-! ### Timestamps -/

/-- A timestamp with a blank before the time of day is the third shape: the second one asks for a
`T`. -/
theorem ofChars?_blankChars (t : Instant) : ofChars? t.blankChars = some t.withoutFraction := by
  have hdate := readDate?_chars (isValid_date t) (year_mem t)
  have htimestamp : ofTimestampChars? t.blankChars = none := by
    simp [ofTimestampChars?, blankChars, hdate, char?]
  have hstart : trimStart (' ' :: t.clockChars) = t.clockChars := by
    have hblank : trimStart (' ' :: t.clockChars) = trimStart t.clockChars := rfl
    rw [hblank, clockChars, hourMinuteChars, List.append_assoc, trimStart_padded]
  rw [ofChars?, htimestamp, ofBlankTimestampChars?, blankChars,
    ofRfc3339Chars?_without_offset t (.inr rfl), hdate]
  simp [hstart, readClock?_clockChars_end, finished?, ofClock?_withoutFraction]

theorem IsZone.head {zone : List Char} (h : IsZone zone) :
    ∀ c ∈ zone.head?, isDigit c = false ∧ c ≠ '.' := by
  cases h with
  | utc => simp [isDigit]
  | offset hsign => rcases hsign with rfl | rfl <;> simp [isDigit]

theorem IsZone.last {zone : List Char} (h : IsZone zone) (cs : List Char) :
    ∀ c ∈ (cs ++ zone).getLast?, isBlank c = false := by
  cases h with
  | utc => simp [isBlank]
  | @offset sign _ hours minutes =>
    have happend : cs ++ sign :: (padded 2 hours ++ ':' :: padded 2 minutes) =
        (cs ++ sign :: padded 2 hours) ++ ':' :: padded 2 minutes := by simp
    rw [happend]
    exact not_isBlank_last_padded _ _ _ _

theorem readOffset?_of_isZone {zone : List Char} (h : IsZone zone) :
    readOffset? zone = some ((), []) := by
  cases h with
  | utc => rfl
  | @offset sign hsign hours minutes hhours hminutes =>
    have hh := number?_padded (by decide : 0 < 2) (by omega : hours < 10 ^ 2)
    have hm := number?_padded (by decide : 0 < 2) (by omega : minutes < 10 ^ 2) []
    rw [List.append_nil] at hm
    rcases hsign with rfl | rfl <;> simp [readOffset?, hh, hm, hhours, hminutes]

/-- Decimal places that say the whole fraction are read as this fraction. -/
theorem readFraction?_placesChars {places nanos : ℕ} (hplaces : places ≤ 9)
    (hnanos : nanos < 10 ^ 9) (hdvd : 10 ^ (9 - places) ∣ nanos) {rest : List Char}
    (hrest : ∀ c ∈ rest.head?, isDigit c = false ∧ c ≠ '.') :
    readFraction? (placesChars places nanos ++ rest) = some (nanos, rest) := by
  unfold placesChars
  split_ifs with hzero
  · subst hzero
    have hnone : nanos = 0 := Nat.eq_zero_of_dvd_of_lt hdvd hnanos
    cases rest with
    | nil => rw [hnone]; rfl
    | cons c rest =>
      rw [List.nil_append, hnone, readFraction?]
      rintro cs ⟨⟩
      exact (hrest '.' rfl).2 rfl
  · have hlt : nanos / 10 ^ (9 - places) < 10 ^ places := by
      rw [Nat.div_lt_iff_lt_mul (by positivity), ← pow_add]
      rwa [show places + (9 - places) = 9 by omega]
    have hlength := length_padded (Nat.pos_of_ne_zero hzero) hlt
    have hdigits (c : Char) (hc : c ∈ padded places (nanos / 10 ^ (9 - places))) :
        isDigit c = true := isDigit_of_mem_padded hc
    have hends (c : Char) (hc : c ∈ rest.head?) : isDigit c = false := (hrest c hc).1
    have hleading := leadingDigits_append hdigits (hlength.trans_le hplaces) hends
    have hnumber := number?_of_leadingDigits hleading (by omega : 1 ≤ _)
    have hdrop := dropWhile_isDigit_append hdigits hends
    have hwhole := Nat.div_mul_cancel hdvd
    simp [readFraction?, hleading, hnumber, hdrop, hlength, hwhole]

theorem denotes_of_clock {separator : Char} {u : Instant}
    (h : ofChars? (t.date.chars ++ separator :: t.clockChars) = some u) :
    Denotes (t.date.chars ++ separator :: t.clockChars) u := by
  refine denotes_of_ofChars? ?_ ?_ h
  · simp only [Date.chars, List.append_assoc]
    exact not_isBlank_head_yearChars _ _
  · rw [clockChars, ← List.cons_append, ← List.append_assoc]
    exact not_isBlank_last_padded _ _ _ _

/-- A timestamp with its fraction and any offset denotes the wall clock that it shows. -/
theorem denotes_rfc3339 (t : Instant) (hyear : 0 ≤ t.date.year ∧ t.date.year ≤ 9999) {places : ℕ}
    (hplaces : places ≤ 9) (hdvd : 10 ^ (9 - places) ∣ t.fraction) {zone : List Char}
    (hzone : IsZone zone) :
    Denotes (t.isoChars ++ placesChars places t.fraction ++ zone) t := by
  have hnanos : t.fraction < 10 ^ 9 := Nat.mod_lt _ (by decide)
  refine denotes_of_ofChars? ?_ (hzone.last _) ?_
  · simp only [isoChars, Date.chars, List.append_assoc]
    exact not_isBlank_head_yearChars _ _
  · have hread := ofRfc3339Chars?_timestamp hyear (.inl rfl) (placesChars places t.fraction ++ zone)
    rw [readFraction?_placesChars hplaces hnanos hdvd hzone.head] at hread
    simp only [isoChars, List.append_assoc, List.cons_append]
    rw [ofChars?, hread]
    simp [readOffset?_of_isZone hzone, finished?, ofClock?_self]

/-- The six shapes of a time. A timestamp without a fraction denotes its instant, a leap second
included; a date, a month and a year denote the start of what they name; a timestamp with an offset
denotes the wall clock that it shows, with the fraction, whatever the offset is. Only the shape with
an offset and the year alone need a year of four digits. -/
theorem denotes_shapes (t : Instant) :
    (t.fraction = 0 → Denotes t.isoChars t ∧ Denotes t.blankChars t) ∧
      Denotes t.date.chars (Period.day.truncate t) ∧
      Denotes t.date.monthChars (Period.month.truncate t) ∧
      (0 ≤ t.date.year ∧ t.date.year ≤ 9999 →
        Denotes (Date.yearChars t.date.year) (Period.year.truncate t) ∧
        ∀ (places : ℕ) (zone : List Char), places ≤ 9 → 10 ^ (9 - places) ∣ t.fraction →
          IsZone zone → Denotes (t.isoChars ++ placesChars places t.fraction ++ zone) t) := by
  refine ⟨fun hwhole => ?_, denotes_date t, denotes_month t, fun hyear => ⟨denotes_year t hyear,
    fun _ _ hplaces hdvd hzone => denotes_rfc3339 t hyear hplaces hdvd hzone⟩⟩
  have hself := withoutFraction_eq_self_iff.mpr hwhole
  have hiso := ofChars?_isoChars t
  have hblank := ofChars?_blankChars t
  rw [hself] at hiso hblank
  exact ⟨denotes_of_clock hiso, denotes_of_clock hblank⟩

/-- A leap second, written with a blank, with its month and with a fraction and an offset. -/
theorem denotes_shapes_of_leap_second :
    let t : Instant := ⟨1483228799, 1500000000, by decide, by decide, by decide⟩
    let whole : Instant := ⟨1483228799, 1000000000, by decide, by decide, by decide⟩
    let zone : List Char := '+' :: (padded 2 5 ++ ':' :: padded 2 30)
    (whole.fraction = 0 ∧ Denotes "2016-12-31 23:59:60".toList whole) ∧
      Denotes "2016-12".toList (Period.month.truncate t) ∧
      (0 ≤ t.date.year ∧ t.date.year ≤ 9999) ∧ 10 ^ (9 - 1) ∣ t.fraction ∧ IsZone zone ∧
      Denotes "2016-12-31T23:59:60.5+05:30".toList t := by
  intro t whole zone
  have hwhole : whole.fraction = 0 := by decide
  have hyear : 0 ≤ t.date.year ∧ t.date.year ≤ 9999 := by decide +kernel
  have hdvd : 10 ^ (9 - 1) ∣ t.fraction := by decide
  have hzone : IsZone zone := .offset (.inl rfl) (by decide) (by decide)
  have hblank : whole.blankChars = "2016-12-31 23:59:60".toList := by decide +kernel
  have hmonth : t.date.monthChars = "2016-12".toList := by decide +kernel
  have hrfc : t.isoChars ++ placesChars 1 t.fraction ++ zone =
      "2016-12-31T23:59:60.5+05:30".toList := by decide +kernel
  obtain ⟨hwholeShapes, -⟩ := denotes_shapes whole
  obtain ⟨-, -, hmonthShape, hyearShapes⟩ := denotes_shapes t
  exact ⟨⟨hwhole, hblank ▸ (hwholeShapes hwhole).2⟩, hmonth ▸ hmonthShape, hyear, hdvd, hzone,
    hrfc ▸ (hyearShapes hyear).2 1 zone (by decide) hdvd hzone⟩

end Instant

end Meteogram
