import Meteogram.Proofs.Archive.LocalDay
import Meteogram.Proofs.Archive.Records
import Meteogram.Proofs.Calendar.Shapes

/-!
# Times of cells

What a cell says of the time of its row does not depend on the type that stores it: integers count
seconds since the epoch, dates and timestamps count nanoseconds from the same midnight, and texts
are read. `CellType.Denotes` puts this down without the words in which cells are held, so that a
count that leaves its word or the calendar denotes no time.
-/
namespace Meteogram

/-- The nanoseconds of a tick. -/
def TickUnit.nanos : TickUnit → ℤ
  | milli => 1000000
  | micro => 1000
  | nano => 1

namespace CellType

/-- The integer in a cell of a type of integers. -/
def integer? : (type : CellType) → type.Value → Option ℤ
  | int64, n => some n.toInt
  | int32, n => some n.toInt
  | int16, n => some n.toInt
  | int8, n => some n.toInt
  | word32, n => some n.toNat
  | word64, n => some n.toNat
  | _, _ => none

/-- The nanoseconds since 1970-01-01T00:00:00 that a date or a timestamp counts. -/
def nanos? : (type : CellType) → type.Value → Option ℤ
  | date, days => some (days.toInt * (86400 * 10 ^ 9))
  | ticks unit, n => some (n.toInt * unit.nanos)
  | _, _ => none

/-- The record time that a cell denotes. -/
inductive Denotes : (type : CellType) → type.Value → RecordTime → Prop
  | number {type : CellType} {v : type.Value} {n : Int64} (h : type.integer? v = some n.toInt) :
    Denotes type v (.number n)
  | counted {type : CellType} {v : type.Value} {t : Instant} (hnano : t.nano < 10 ^ 9)
    (h : type.nanos? v = some (t.second * 10 ^ 9 + t.nano)) : Denotes type v (.instant t)
  | read {s : String} {t : Instant} (h : Instant.read? s = some t) : Denotes text s (.instant t)

/-- The date that a cell holds, as a count up to its midnight or as it is written. -/
inductive HoldsDate : (type : CellType) → type.Value → Date → Prop
  | counted {type : CellType} {v : type.Value} {d : Date}
    (h : type.nanos? v = some (d.dayNumber * (86400 * 10 ^ 9))) : HoldsDate type v d
  | written (d : Date) : HoldsDate text (String.ofList d.chars) d

variable {type : CellType} {v : type.Value} {time : RecordTime}

theorem denotes_iff_of_integer {i : ℤ} (h : type.integer? v = some i) :
    type.Denotes v time ↔ ∃ n : Int64, n.toInt = i ∧ .number n = time := by
  constructor
  · intro hd
    cases hd with
    | number hn =>
      rw [h, Option.some.injEq] at hn
      exact ⟨_, hn.symm, rfl⟩
    | counted _ hn => cases type <;> simp_all [integer?, nanos?]
    | read => cases h
  · rintro ⟨n, rfl, rfl⟩
    exact .number h

theorem denotes_iff_of_nanos {i : ℤ} (h : type.nanos? v = some i) :
    type.Denotes v time ↔
      ∃ t : Instant, (t.nano < 10 ^ 9 ∧ t.second * 10 ^ 9 + t.nano = i) ∧ .instant t = time := by
  constructor
  · intro hd
    cases hd with
    | number hn => cases type <;> simp_all [integer?, nanos?]
    | counted hnano hn =>
      rw [h, Option.some.injEq] at hn
      exact ⟨_, ⟨hnano, hn.symm⟩, rfl⟩
    | read => cases h
  · rintro ⟨t, ⟨hnano, rfl⟩, rfl⟩
    exact .counted hnano h

theorem denotes_text_iff {s : String} :
    Denotes text s time ↔ ∃ t, Instant.read? s = some t ∧ .instant t = time := by
  constructor
  · intro hd
    cases hd with
    | number hn => cases hn
    | counted _ hn => cases hn
    | read h => exact ⟨_, h, rfl⟩
  · rintro ⟨t, h, rfl⟩
    exact .read h

/-- A cell denotes one time at most. -/
theorem Denotes.eq {time' : RecordTime} (h : type.Denotes v time) (h' : type.Denotes v time') :
    time = time' := by
  cases h with
  | number h =>
    obtain ⟨n, hn, rfl⟩ := (denotes_iff_of_integer h).mp h'
    rw [Int64.toInt_inj.mp hn]
  | counted hnano h =>
    obtain ⟨t, ⟨hnano', hsum⟩, rfl⟩ := (denotes_iff_of_nanos h).mp h'
    rw [RecordTime.instant.injEq, Instant.eq_iff]
    omega
  | read h =>
    obtain ⟨t, ht, rfl⟩ := denotes_text_iff.mp h'
    rw [Option.some.inj (h.symm.trans ht)]

end CellType

/-! ### Counts in words -/

theorem signedWord?_eq_some {n : UInt64} {i : Int64} :
    signedWord? n = some i ↔ i.toInt = n.toNat := by
  have hbound : n < 0x8000000000000000 ↔ n.toNat < 2 ^ 63 := UInt64.lt_iff_toNat_lt
  have hword : n.toInt64.toInt = (n.toNat : ℤ).bmod (2 ^ 64) := n.toBitVec.toInt_eq_toNat_bmod
  unfold signedWord?
  split_ifs with h
  · rw [hbound] at h
    rw [Int.bmod_eq_of_le (by omega) (by omega)] at hword
    rw [Option.some.injEq, ← Int64.toInt_inj, hword, eq_comm]
  · rw [hbound] at h
    have hlt := i.toInt_lt
    simp only [false_iff]
    omega

namespace RecordTime

variable {time : RecordTime}

/-- A date is counted to the nanosecond. -/
theorem ofDays?_eq_some {days : Int32} : ofDays? days = some time ↔
    ∃ t : Instant, (t.nano < 10 ^ 9 ∧ t.second * 10 ^ 9 + t.nano =
      days.toInt * (86400 * 10 ^ 9)) ∧ .instant t = time := by
  rw [ofDays?_eq, ofDayNumber?, Option.map_eq_some_iff]
  refine exists_congr fun t => and_congr_left' ?_
  rw [Instant.midnight?_eq_some]
  constructor
  · rintro ⟨hsecond, hnano⟩
    omega
  · rintro ⟨hnano, hsum⟩
    omega

/-- Ticks are divided rounding down, so that the fraction of a second is counted forward from it,
before the epoch as after it. -/
theorem ofTicks?_eq_some {unit : TickUnit} {n : Int64} : ofTicks? unit n = some time ↔
    ∃ t : Instant, (t.nano < 10 ^ 9 ∧ t.second * 10 ^ 9 + t.nano = n.toInt * unit.nanos) ∧
      .instant t = time := by
  rw [ofTicks?, Option.map_eq_some_iff]
  refine exists_congr fun t => and_congr_left' ?_
  rw [Instant.ofParts?_eq_some]
  cases unit <;> simp only [TickUnit.perSecond, TickUnit.nanos] <;> omega

end RecordTime

/-- The times of a type are what its cells denote. -/
theorem CellType.timeOf?_eq_some {type : CellType} {timeOf : type.Value → Option RecordTime}
    (h : type.timeOf? = some timeOf) {v : type.Value} {time : RecordTime} :
    timeOf v = some time ↔ type.Denotes v time := by
  cases type with
  | int64 =>
    rw [timeOf?, Option.some.injEq] at h
    rw [← h, denotes_iff_of_integer rfl]
    simp only [Int64.toInt_inj, exists_eq_left, Option.some.injEq]
  | int32 =>
    rw [timeOf?, Option.some.injEq] at h
    rw [← h, denotes_iff_of_integer rfl, ← Int32.toInt_toInt64]
    simp only [Int64.toInt_inj, exists_eq_left, Option.some.injEq]
  | word32 =>
    rw [timeOf?, Option.some.injEq] at h
    have hlt := v.toNat_lt
    rw [← h, denotes_iff_of_integer rfl, ← Int64.toInt_ofNat_of_lt (by omega)]
    simp only [Int64.toInt_inj, exists_eq_left, Option.some.injEq]
  | word64 =>
    rw [timeOf?, Option.some.injEq] at h
    rw [← h, denotes_iff_of_integer rfl, Option.map_eq_some_iff]
    simp only [signedWord?_eq_some]
  | date =>
    rw [timeOf?, Option.some.injEq] at h
    rw [← h, denotes_iff_of_nanos rfl, RecordTime.ofDays?_eq_some]
  | ticks unit =>
    rw [timeOf?, Option.some.injEq] at h
    rw [← h, denotes_iff_of_nanos rfl, RecordTime.ofTicks?_eq_some]
  | text =>
    rw [timeOf?, Option.some.injEq] at h
    rw [← h, denotes_text_iff, Option.map_eq_some_iff]
  | int16 | int8 | double | single | bool => cases h

/-! ### Dates in cells -/

/-- Each date of the calendar has a midnight. -/
theorem Date.exists_midnight {d : Date} (hd : d.IsValid)
    (hyear : minYear ≤ d.year ∧ d.year ≤ maxYear) :
    ∃ t : Instant, t.second = d.dayNumber * 86400 ∧ t.nano = 0 := by
  have hday := (dayNumber_mem_calendar hd).mpr hyear
  obtain ⟨t, ht⟩ := Option.isSome_iff_exists.mp (Instant.ofSecond?_isSome.mpr
    (show minSecond ≤ d.dayNumber * 86400 ∧ _ ≤ maxSecond by
      simp only [minSecond, maxSecond]
      omega))
  exact ⟨t, Instant.ofSecond?_eq_some.mp ht⟩

/-- Nanoseconds inside the calendar count an instant, seconds being rounded down. -/
theorem Instant.exists_of_nanos {n : ℤ} (hlower : minSecond * 10 ^ 9 ≤ n)
    (hupper : n < (maxSecond + 1) * 10 ^ 9) :
    ∃ t : Instant, t.second = n / 10 ^ 9 ∧ t.nano = n % 10 ^ 9 := by
  refine ⟨⟨n / 10 ^ 9, (n % 10 ^ 9).toNat, by omega, by omega, by omega⟩, rfl, ?_⟩
  exact Int.toNat_of_nonneg (Int.emod_nonneg n (by decide))

/-- A written date is read as its midnight. -/
theorem Date.read?_chars {d : Date} (hd : d.IsValid) {t : Instant}
    (hsecond : t.second = d.dayNumber * 86400) (hnano : t.nano = 0) :
    Instant.read? (String.ofList d.chars) = some t := by
  have hday : t.dayNumber = d.dayNumber := by
    rw [Instant.dayNumber, hsecond]
    exact Int.mul_ediv_cancel _ (by decide)
  have hstart : Period.day.IsStart t := ⟨by rw [hsecond, ← hday]; rfl, hnano⟩
  have hdate : t.date = d := (Instant.date_eq_iff hd).mpr hday
  have hdenotes := Instant.denotes_date t [] [] (List.forall_mem_nil _) (List.forall_mem_nil _)
  rw [List.nil_append, List.append_nil, hdate, Period.truncate_of_isStart rfl hstart] at hdenotes
  exact hdenotes

namespace CellType

variable {type : CellType} {v : type.Value}

/-- A cell that holds a date denotes its midnight. -/
theorem HoldsDate.denotes {d : Date} (h : type.HoldsDate v d) (hd : d.IsValid) {t : Instant}
    (hsecond : t.second = d.dayNumber * 86400) (hnano : t.nano = 0) :
    type.Denotes v (.instant t) := by
  cases h with
  | counted h =>
    refine .counted (by omega) (h.trans (congrArg some ?_))
    omega
  | written => exact .read (d.read?_chars hd hsecond hnano)

theorem exists_timeOf?_of_nanos {n : ℤ} (h : type.nanos? v = some n) :
    ∃ timeOf, type.timeOf? = some timeOf := by
  cases type with
  | date => exact ⟨_, rfl⟩
  | ticks unit => exact ⟨_, rfl⟩
  | _ => cases h

/-- Types of cells that denote instants are types of times. -/
theorem exists_timeOf?_of_denotes {t : Instant} (h : type.Denotes v (.instant t)) :
    ∃ timeOf, type.timeOf? = some timeOf := by
  cases h with
  | counted _ h => exact exists_timeOf?_of_nanos h
  | read => exact ⟨_, rfl⟩

/-- A count outside the calendar denotes no time. -/
theorem not_denotes_of_nanos {n : ℤ} (h : type.nanos? v = some n)
    (hout : n < minSecond * 10 ^ 9 ∨ (maxSecond + 1) * 10 ^ 9 ≤ n) (time : RecordTime) :
    ¬ type.Denotes v time := by
  rw [denotes_iff_of_nanos h]
  rintro ⟨t, ⟨hnano, rfl⟩, -⟩
  have hmem := t.inCalendar
  omega

/-- Every date of the calendar is held by cells of dates and by cells of timestamps, though not of
nanoseconds, which reach from 1677 to 2262 only. -/
theorem exists_holdsDate {d : Date} (hd : d.IsValid)
    (hyear : Date.minYear ≤ d.year ∧ d.year ≤ Date.maxYear) :
    (∃ n, HoldsDate date n d) ∧ ∀ unit ≠ .nano, ∃ n, HoldsDate (ticks unit) n d := by
  have hday := (Date.dayNumber_mem_calendar hd).mpr hyear
  simp only [Date.minDay, Date.maxDay] at hday
  constructor
  · refine ⟨Int32.ofInt d.dayNumber, .counted ?_⟩
    rw [nanos?, Int32.toInt_ofInt_of_le (by omega) (by omega)]
  · intro unit hunit
    cases unit with
    | milli =>
      refine ⟨Int64.ofInt (d.dayNumber * 86400000), .counted ?_⟩
      rw [nanos?, Int64.toInt_ofInt_of_le (by omega) (by omega), TickUnit.nanos, Option.some.injEq]
      omega
    | micro =>
      refine ⟨Int64.ofInt (d.dayNumber * 86400000000), .counted ?_⟩
      rw [nanos?, Int64.toInt_ofInt_of_le (by omega) (by omega), TickUnit.nanos, Option.some.injEq]
      omega
    | nano => exact absurd rfl hunit

end CellType

namespace Column

variable {c : Column} {row : ℕ}

/-- The cell of a row denotes a time. -/
def HasTime (c : Column) (row : ℕ) (time : RecordTime) : Prop :=
  ∃ v, c.cell row = some v ∧ c.type.Denotes v time

/-- A row without a time, all rows before it having one. -/
structure LacksTimeFirst (c : Column) (row : ℕ) : Prop where
  lt : row < c.cells.length
  lacks : ∀ time, ¬ c.HasTime row time
  before : ∀ r < row, ∃ time, c.HasTime r time

/-- The first cell without a time decides. -/
theorem timesFrom_eq_error {α : Type} {time : α → Option RecordTime} {start : ℕ}
    {cells : List (Option α)} {e : ArchiveError} :
    timesFrom time start cells = .error e ↔
      ∃ i < cells.length, (cells[i]?).join.bind time = none ∧
        (∀ j < i, (cells[j]?).join.bind time ≠ none) ∧ e = .invalidTime (start + i) := by
  induction cells generalizing start with
  | nil => simp [timesFrom]
  | cons cell cells ih =>
    rw [timesFrom]
    cases hcell : cell.bind time with
    | none =>
      constructor
      · rintro ⟨⟩
        exact ⟨0, Nat.succ_pos _, hcell, fun j hj => absurd hj j.not_lt_zero, rfl⟩
      · rintro ⟨i, -, -, hbefore, rfl⟩
        cases i with
        | zero => rfl
        | succ i => exact absurd hcell (hbefore 0 i.succ_pos)
    | some t =>
      have hrest : (do return t :: (← timesFrom time (start + 1) cells) :
          Except ArchiveError (List RecordTime)) = .error e ↔
          timesFrom time (start + 1) cells = .error e := by
        cases timesFrom time (start + 1) cells <;> simp [pure, Except.pure]
      dsimp only
      rw [hrest, ih]
      constructor
      · rintro ⟨i, hi, hnone, hbefore, rfl⟩
        refine ⟨i + 1, Nat.succ_lt_succ hi, hnone, ?_, by rw [Nat.add_right_comm, Nat.add_assoc]⟩
        intro j hj
        cases j with
        | zero => simp [hcell]
        | succ j => exact hbefore j (Nat.lt_of_succ_lt_succ hj)
      · rintro ⟨i, hi, hnone, hbefore, rfl⟩
        cases i with
        | zero => simp [hcell] at hnone
        | succ i =>
          exact ⟨i, Nat.lt_of_succ_lt_succ hi, hnone,
            fun j hj => hbefore (j + 1) (Nat.succ_lt_succ hj),
            by rw [Nat.add_right_comm, Nat.add_assoc]⟩

theorem hasTime_iff {timeOf : c.type.Value → Option RecordTime} (ht : c.type.timeOf? = some timeOf)
    {time : RecordTime} : c.HasTime row time ↔ (c.cell row).bind timeOf = some time := by
  rw [HasTime, Option.bind_eq_some_iff]
  simp only [CellType.timeOf?_eq_some ht]

/-- A row has one time at most. -/
theorem HasTime.eq {time time' : RecordTime} (h : c.HasTime row time) (h' : c.HasTime row time') :
    time = time' := by
  obtain ⟨v, hv, hdenotes⟩ := h
  obtain ⟨v', hv', hdenotes'⟩ := h'
  obtain rfl := Option.some.inj (hv.symm.trans hv')
  exact hdenotes.eq hdenotes'

/-- A column of times is refused for the first row that lacks one. -/
theorem times_eq_error {timeOf : c.type.Value → Option RecordTime}
    (ht : c.type.timeOf? = some timeOf) {e : ArchiveError} :
    c.times = .error e ↔ ∃ row, c.LacksTimeFirst row ∧ e = .invalidTime row := by
  have hnone (row : ℕ) : (∀ time, ¬ c.HasTime row time) ↔ (c.cell row).bind timeOf = none := by
    simp only [hasTime_iff ht, Option.eq_none_iff_forall_ne_some, ne_eq]
  have hsome (row : ℕ) : (∃ time, c.HasTime row time) ↔ (c.cell row).bind timeOf ≠ none := by
    rw [ne_eq, ← hnone, not_forall_not]
  have htimes : c.times = timesFrom timeOf 0 c.cells := by rw [times, ht]
  rw [htimes, timesFrom_eq_error]
  constructor
  · rintro ⟨row, hlt, hlacks, hbefore, rfl⟩
    exact ⟨row, ⟨hlt, (hnone row).mpr hlacks, fun r hr => (hsome r).mpr (hbefore r hr)⟩,
      by rw [Nat.zero_add]⟩
  · rintro ⟨row, hrow, rfl⟩
    exact ⟨row, hrow.lt, (hnone row).mp hrow.lacks, fun r hr => (hsome r).mp (hrow.before r hr),
      by rw [Nat.zero_add]⟩

end Column

namespace Frame

variable {f : Frame} {name : String} {c : Column} {records : List Record}

theorem records_eq_error (hc : f.column? name = some c) {e : ArchiveError} :
    f.records name = .error e ↔ c.times = .error e := by
  simp only [Frame.records, hc]
  cases c.times <;> simp [pure, Except.pure]

/-- The record of a row has the time that its cell denotes. -/
theorem hasTime_of_records {timeOf : c.type.Value → Option RecordTime}
    (hc : f.column? name = some c) (ht : c.type.timeOf? = some timeOf)
    (h : f.records name = .ok records) {row : ℕ} {r : Record} (hr : records[row]? = some r) :
    c.HasTime row r.time := by
  have htimes := congrArg (·[row]?) (map_time_of_records hc ht h)
  simp only [List.getElem?_map, hr, Option.map_some, Option.map_eq_some_iff] at htimes
  obtain ⟨cell, hcell, htime⟩ := htimes
  rw [Column.hasTime_iff ht, Column.cell, hcell, Option.join_some, htime]

/-- A row is given a time: the frame has records, of which the one of the row has this time, unless
another row is the first without a time. -/
inductive GivesTime (f : Frame) (name : String) (c : Column) (row : ℕ) (time : RecordTime) : Prop
  | answered {records : List Record} {r : Record} (h : f.records name = .ok records)
    (hr : records[row]? = some r) (htime : r.time = time) : GivesTime f name c row time
  | refused {other : ℕ} (hne : other ≠ row) (hother : c.LacksTimeFirst other)
    (h : f.records name = .error (.invalidTime other)) : GivesTime f name c row time

theorem givesTime_of_hasTime {timeOf : c.type.Value → Option RecordTime}
    (hc : f.column? name = some c) (ht : c.type.timeOf? = some timeOf) {row : ℕ} {time : RecordTime}
    (h : c.HasTime row time) : f.GivesTime name c row time := by
  cases hrecords : f.records name with
  | error e =>
    obtain ⟨other, hother, rfl⟩ :=
      (Column.times_eq_error ht).mp ((records_eq_error hc).mp hrecords)
    refine .refused ?_ hother hrecords
    rintro rfl
    exact hother.lacks time h
  | ok records =>
    rw [Column.hasTime_iff ht] at h
    have htimes := congrArg (·[row]?) (map_time_of_records hc ht hrecords)
    obtain ⟨v, hv, hv'⟩ := Option.bind_eq_some_iff.mp h
    rw [Column.cell, Option.join_eq_some_iff] at hv
    simp only [List.getElem?_map, hv, Option.map_some, Option.bind_some, hv'] at htimes
    obtain ⟨r, hr, heq⟩ := Option.map_eq_some_iff.mp htimes.symm
    exact .answered hrecords hr (Option.some.inj heq)

theorem refused_of_lacks {timeOf : c.type.Value → Option RecordTime}
    (hc : f.column? name = some c) (ht : c.type.timeOf? = some timeOf) {row : ℕ}
    (hlt : row < c.cells.length) (h : ∀ time, ¬ c.HasTime row time) :
    ∃ first ≤ row, c.LacksTimeFirst first ∧ f.records name = .error (.invalidTime first) := by
  have hfirst : ∃ r, ∀ time, ¬ c.HasTime r time := ⟨row, h⟩
  classical
  have hle : Nat.find hfirst ≤ row := Nat.find_min' hfirst h
  have hlacks : c.LacksTimeFirst (Nat.find hfirst) :=
    ⟨hle.trans_lt hlt, Nat.find_spec hfirst,
      fun r hr => not_forall_not.mp (Nat.find_min hfirst hr)⟩
  exact ⟨_, hle, hlacks,
    (records_eq_error hc).mpr ((Column.times_eq_error ht).mpr ⟨_, hlacks, rfl⟩)⟩

/-- Cells of different types that hold a date give their row the same time, its midnight; each date
of the calendar has a cell among dates, among timestamps in milliseconds and in microseconds. A count
inside the calendar gives its instant, with its fraction, before the epoch too. A count outside the
calendar has the frame refused, though the words in which it is computed go around. -/
theorem time_of_cell (hc : f.column? name = some c) {row : ℕ} {v : c.type.Value}
    (hv : c.cell row = some v) :
    (∀ d : Date, d.IsValid → Date.minYear ≤ d.year ∧ d.year ≤ Date.maxYear →
      ((∃ n, CellType.HoldsDate .date n d) ∧
        ∀ unit ≠ .nano, ∃ n, CellType.HoldsDate (.ticks unit) n d) ∧
      ∃ t : Instant, t.second = d.dayNumber * 86400 ∧ t.nano = 0 ∧
        (c.type.HoldsDate v d → f.GivesTime name c row (.instant t))) ∧
    (∀ n, c.type.nanos? v = some n → minSecond * 10 ^ 9 ≤ n → n < (maxSecond + 1) * 10 ^ 9 →
      ∃ t : Instant, t.second = n / 10 ^ 9 ∧ t.nano = n % 10 ^ 9 ∧
        f.GivesTime name c row (.instant t)) ∧
    ∀ n, c.type.nanos? v = some n → n < minSecond * 10 ^ 9 ∨ (maxSecond + 1) * 10 ^ 9 ≤ n →
      ∃ first ≤ row, c.LacksTimeFirst first ∧ f.records name = .error (.invalidTime first) := by
  have hgives : ∀ {t : Instant}, c.type.Denotes v (.instant t) →
      f.GivesTime name c row (.instant t) := by
    intro t hdenotes
    obtain ⟨timeOf, ht⟩ := CellType.exists_timeOf?_of_denotes hdenotes
    exact givesTime_of_hasTime hc ht ⟨v, hv, hdenotes⟩
  refine ⟨fun d hd hyear => ⟨CellType.exists_holdsDate hd hyear, ?_⟩,
    fun n hn hlower hupper => ?_, fun n hn hout => ?_⟩
  · obtain ⟨t, hsecond, hnano⟩ := d.exists_midnight hd hyear
    exact ⟨t, hsecond, hnano, fun hholds => hgives (hholds.denotes hd hsecond hnano)⟩
  · obtain ⟨t, hsecond, hnano⟩ := Instant.exists_of_nanos hlower hupper
    refine ⟨t, hsecond, hnano, hgives (.counted (by omega) (hn.trans (congrArg some ?_)))⟩
    omega
  · obtain ⟨timeOf, ht⟩ := CellType.exists_timeOf?_of_nanos hn
    refine refused_of_lacks hc ht ?_ ?_
    · rw [Column.cell, Option.join_eq_some_iff] at hv
      exact (List.getElem?_eq_some_iff.mp hv).1
    · rintro time ⟨u, hu, hdenotes⟩
      obtain rfl := Option.some.inj (hv.symm.trans hu)
      exact CellType.not_denotes_of_nanos hn hout time hdenotes

/-- Microseconds that hold a leap day, the last microsecond before the epoch, and a count of days that
goes around when the days before 1970 are added. -/
theorem time_of_cell_of_counts :
    let timestamps : Column := ⟨"time", .ticks .micro, [some 1709164800000000, some (-1)]⟩
    let days : Column := ⟨"time", .date, [some 2147483647]⟩
    let f : Frame := ⟨[timestamps], 2, [], by simp [timestamps], by simp⟩
    let g : Frame := ⟨[days], 1, [], by simp [days], by simp⟩
    let last : Instant := ⟨-1, 999999000, by decide, by decide, by decide⟩
    (∃ t : Instant, t.second = 1709164800 ∧ t.nano = 0 ∧
      f.GivesTime "time" timestamps 0 (.instant t)) ∧
      f.GivesTime "time" timestamps 1 (.instant last) ∧
      g.records "time" = .error (.invalidTime 0) := by
  intro timestamps days f g last
  have hf : f.column? "time" = some timestamps := rfl
  have hg : g.column? "time" = some days := rfl
  have hday : (⟨2024, 2, 29⟩ : Date).dayNumber = 19782 := by decide
  have hvalid : (⟨2024, 2, 29⟩ : Date).IsValid := ⟨by decide, by decide, by decide, by decide⟩
  have hholds : timestamps.type.HoldsDate (1709164800000000 : Int64) ⟨2024, 2, 29⟩ :=
    .counted (by rw [hday]; rfl)
  have hleap : timestamps.cell 0 = some (1709164800000000 : Int64) := rfl
  have hbefore : timestamps.cell 1 = some (-1 : Int64) := rfl
  have haround : days.cell 0 = some (2147483647 : Int32) := rfl
  obtain ⟨hdates, -, -⟩ := time_of_cell hf hleap
  obtain ⟨-, hcounts, -⟩ := time_of_cell hf hbefore
  obtain ⟨-, -, houtside⟩ := time_of_cell hg haround
  obtain ⟨-, t, hsecond, hnano, hgives⟩ := hdates ⟨2024, 2, 29⟩ hvalid (by decide)
  obtain ⟨first, hfirst, -, herror⟩ := houtside _ rfl (.inr (by decide))
  obtain ⟨u, husecond, hunano, hugives⟩ := hcounts _ rfl (by decide) (by decide)
  obtain rfl : u = last := Instant.eq_iff.mpr ⟨husecond, Int.ofNat.inj hunano⟩
  rw [hday] at hsecond
  rw [Nat.le_zero.mp hfirst] at herror
  exact ⟨⟨t, hsecond, hnano, hgives hholds⟩, hugives, herror⟩

end Frame

end Meteogram
