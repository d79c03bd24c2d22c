import Meteogram.Proofs.Align.Scale
import Meteogram.Proofs.Calendar.Bucket

/-!
# Aligners and their scales

`Aligner.bucketOf?` says in which bucket of its axis a time falls, without a walk, and
`Aligner.axisFault?` what is wrong with the axis itself. `Aligner.LaysOn` ties an aligner to the
scale that it chooses: calendar and range are scales of the lawful kind, on which it finds these
buckets.
-/
namespace Meteogram

theorem CalendarScale.lawful_toScale (s : CalendarScale) : s.toScale.Lawful where
  before_iff _ _ := decide_eq_true_iff
  lt_of_step _ _ := Period.lt_of_advance
  bucketOf_ok i j time k h := by
    change s.bucketOf i time = .ok k at h
    change s.bucketOf j time = .ok k
    unfold bucketOf at h ⊢
    cases hr : time.reading s.offset with
    | shown t => rw [hr] at h; exact h
    | outside | overflow => rw [hr] at h; cases h
  label_lt _ _ := Iff.rfl

theorem IndexScale.lawful_toScale (s : IndexScale) : s.toScale.Lawful where
  before_iff _ _ := decide_eq_true_iff
  lt_of_step a b h := by
    change (if a + 1 < IndexRange.slotLimit then some (a + 1) else none) = some b at h
    split_ifs at h
    cases h
    exact Nat.lt_succ_self a
  bucketOf_ok i j time k h := by
    change s.bucketOf i time = .ok k at h
    change s.bucketOf j time = .ok k
    unfold bucketOf at h ⊢
    cases hi : s.slotOf? time with
    | none => rw [hi] at h; cases h
    | some n =>
      rw [hi] at h
      dsimp only at h ⊢
      split_ifs at h ⊢
      exact h
  label_lt _ _ := Iff.rfl

/-- Whether a clock leaves the calendar at a time inside of it. -/
def RecordTime.Overflows (offset : Offset) : RecordTime → Prop
  | .number n => (minSecond ≤ n.toInt ∧ n.toInt ≤ maxSecond) ∧
    ¬ (minSecond ≤ n.toInt + offset.seconds ∧ n.toInt + offset.seconds ≤ maxSecond)
  | .instant _ => False

instance (offset : Offset) : (time : RecordTime) → Decidable (time.Overflows offset)
  | .number _ => instDecidableAnd
  | .instant _ => instDecidableFalse

theorem RecordTime.reading_eq_overflow {time : RecordTime} {offset : Offset} :
    time.reading offset = .overflow ↔ time.Overflows offset := by
  cases time with
  | number n => exact Offset.reading_eq_overflow
  | instant t => simp [reading, Overflows]

/-- The slot that a time says on an axis of slots, in the range or not. -/
def IndexRange.slotOf? (range : IndexRange) : RecordTime → Option ℕ
  | .number n => if 0 ≤ n.toInt ∧ n.toInt < slotLimit then some n.toInt.toNat else none
  | .instant t => range.indexOf? t

namespace IndexScale

theorem slotOf?_eq (range : IndexRange) (first last : ℕ) (time : RecordTime) :
    slotOf? ⟨range, first, last⟩ time = range.slotOf? time := by cases time <;> rfl

theorem bucket?_toScale (range : IndexRange) (first last : ℕ) (time : RecordTime) :
    (toScale ⟨range, first, last⟩).bucket? time =
      (range.slotOf? time).bind fun i => if first ≤ i ∧ i ≤ last then some i else none := by
  change (bucketOf ⟨range, first, last⟩ 0 time).toOption = _
  simp only [bucketOf, slotOf?_eq]
  cases range.slotOf? time with
  | none => rfl
  | some i =>
    simp only [Option.bind_some, ← not_or, ← not_lt, ite_not]
    split_ifs <;> rfl

end IndexScale

namespace Aligner

variable {a : Aligner}

/-- The instant of a time on the clock of an aligner. -/
def instant? (a : Aligner) (time : RecordTime) : Option Instant := time.toInstant? a.options.offset

/-- The bucket of a time on the axis of an aligner, if the axis has one. -/
def bucketOf? (a : Aligner) (time : RecordTime) : Option Label :=
  match a.axis with
  | .calendar p => (a.instant? time).map fun t => .instant (p.truncate t)
  | .index range => do
    let last ← range.last?
    let i ← range.slotOf? time
    if range.first ≤ i ∧ i ≤ last then some (.index i) else none

/-- What a time without an instant comes to: an error, unless the clock leaves the calendar there. -/
def lack (a : Aligner) (time : RecordTime) (e : AlignError) : AlignError :=
  if time.Overflows a.options.offset then .clockOverflow else e

/-- What is wrong with a time that has no bucket: a slot that leaves the range is named, other times
are invalid. -/
def timeError (a : Aligner) (position : ℕ) (time : RecordTime) : AlignError :=
  match a.axis with
  | .calendar _ => a.lack time (.invalidTime position)
  | .index range =>
    match range.slotOf? time with
    | some i => .indexOutOfRange position i range.first (range.last?.getD 0)
    | none => .invalidTime position

/-- A bound of the window that is no instant. -/
def boundFault? (a : Aligner) (bound : Option RecordTime) : Option AlignError :=
  bound.bind fun time =>
    if a.instant? time = none then some (a.lack time (.invalidWindow time.text)) else none

/-- What is wrong with the axis itself: its range, or a bound of its window, the lower one first. -/
def axisFault? (a : Aligner) : Option AlignError :=
  match a.axis with
  | .calendar _ => a.boundFault? a.lower <|> a.boundFault? a.upper
  | .index range => if range.last? = none then some (.invalidIndexRange range.invalidText) else none

/-- The same aligner under another policy. -/
def withDuplicates (a : Aligner) (policy : DuplicatePolicy) : Aligner :=
  { a with options := { a.options with duplicates := policy } }

/-- An aligner lays records on a scale, on which it finds their buckets. -/
structure LaysOn (a : Aligner) {κ : Type} [LinearOrder κ] (s : Scale κ) : Prop where
  lawful : s.Lawful
  withDuplicates_eq : ∀ policy records fields,
    (a.withDuplicates policy).alignFields records fields = s.align policy records fields
  bucketOf?_eq : a.bucketOf? = s.labelOf?
  bucketOf_error : ∀ position time, s.bucket? time = none →
    s.bucketOf position time = .error (a.timeError position time)

theorem LaysOn.alignFields_eq {κ : Type} [LinearOrder κ] {s : Scale κ} (h : a.LaysOn s)
    (records : List Record) (fields : List String) :
    a.alignFields records fields = s.align a.options.duplicates records fields :=
  h.withDuplicates_eq a.options.duplicates records fields

/-- The scale of a calendar axis whose window is resolved. -/
def calendarScale (a : Aligner) (p : Period) : CalendarScale :=
  ⟨p, a.options.offset, a.lower.bind a.instant?, a.upper.bind a.instant?⟩

theorem lack_cases (a : Aligner) (time : RecordTime) (e : AlignError) :
    a.lack time e = .clockOverflow ∨ a.lack time e = e := by
  unfold lack
  split_ifs
  · exact .inl rfl
  · exact .inr rfl

theorem axisFault?_cases {e : AlignError} (h : a.axisFault? = some e) :
    e = .clockOverflow ∨ (∃ text, e = .invalidWindow text) ∨ ∃ text, e = .invalidIndexRange text := by
  have hbound : ∀ {bound : Option RecordTime}, a.boundFault? bound = some e →
      e = .clockOverflow ∨ ∃ text, e = .invalidWindow text := by
    intro bound hbound
    obtain ⟨time, -, htime⟩ := Option.bind_eq_some_iff.mp hbound
    split_ifs at htime
    cases htime
    exact (a.lack_cases time _).imp_right fun heq => ⟨_, heq⟩
  unfold axisFault? at h
  cases ha : a.axis with
  | calendar p =>
    simp only [ha, Option.orElse_eq_some] at h
    rcases h with h | ⟨-, h⟩
    · exact (hbound h).imp_right .inl
    · exact (hbound h).imp_right .inl
  | index range =>
    simp only [ha] at h
    split_ifs at h
    exact .inr (.inr ⟨_, (Option.some.inj h).symm⟩)

theorem orElse_reading (a : Aligner) (time : RecordTime) (e : AlignError) :
    (time.reading a.options.offset).orElse e .clockOverflow = match a.instant? time with
      | some t => .ok t
      | none => .error (a.lack time e) := by
  simp only [lack, instant?, RecordTime.toInstant?, ← RecordTime.reading_eq_overflow]
  cases time.reading a.options.offset <;> rfl

theorem resolve_eq (a : Aligner) (bound : Option RecordTime) :
    CalendarScale.resolve a.options.offset bound = match a.boundFault? bound with
      | some e => .error e
      | none => .ok (bound.bind a.instant?) := by
  cases bound with
  | none => rfl
  | some time =>
    rw [CalendarScale.resolve, orElse_reading]
    cases ht : a.instant? time <;> simp [boundFault?, ht, Except.map]

theorem exists_instant_of_boundFault {time : RecordTime}
    (h : a.boundFault? (some time) = none) : ∃ t, a.instant? time = some t := by
  rw [← Option.ne_none_iff_exists']
  simpa [boundFault?] using h

theorem alignFields_of_axisFault {e : AlignError} (h : a.axisFault? = some e)
    (records : List Record) (fields : List String) : a.alignFields records fields = .error e := by
  unfold alignFields
  unfold axisFault? at h
  cases ha : a.axis with
  | calendar p =>
    simp only [ha] at h ⊢
    simp only [CalendarScale.new, resolve_eq]
    cases hl : a.boundFault? a.lower with
    | some e' =>
      rw [hl] at h
      cases h
      rfl
    | none =>
      rw [hl] at h
      rw [show a.boundFault? a.upper = some e from h]
      rfl
  | index range =>
    simp only [ha] at h ⊢
    split_ifs at h with hlast
    cases h
    simp only [IndexScale.new, hlast]
    rfl

theorem axisFault?_of_alignFields {records : List Record} {fields : List String}
    {frame : AlignedFrame} (h : a.alignFields records fields = .ok frame) :
    a.axisFault? = none := by
  cases hfault : a.axisFault? with
  | none => rfl
  | some e =>
    rw [alignFields_of_axisFault hfault] at h
    cases h

theorem bucket?_calendarScale (a : Aligner) (p : Period) (time : RecordTime) :
    (a.calendarScale p).toScale.bucket? time = (a.instant? time).map p.truncate := by
  change ((a.calendarScale p).bucketOf 0 time).toOption = _
  rw [CalendarScale.bucketOf, calendarScale, orElse_reading]
  cases a.instant? time <;> rfl

theorem laysOn_calendarScale {p : Period} (ha : a.axis = .calendar p)
    (h : a.axisFault? = none) : a.LaysOn (a.calendarScale p).toScale := by
  constructor
  · exact CalendarScale.lawful_toScale _
  · intro policy records fields
    simp only [axisFault?, ha, Option.orElse_eq_none] at h
    simp only [withDuplicates, alignFields, ha, CalendarScale.new, resolve_eq, h]
    rfl
  · funext time
    simp only [bucketOf?, ha, Scale.labelOf?, bucket?_calendarScale, Option.map_map]
    rfl
  · intro position time hnone
    rw [bucket?_calendarScale, Option.map_eq_none_iff] at hnone
    change (a.calendarScale p).bucketOf position time = _
    rw [CalendarScale.bucketOf, calendarScale, orElse_reading, hnone]
    simp only [timeError, ha]
    rfl

theorem laysOn_indexScale {range : IndexRange} {last : ℕ} (ha : a.axis = .index range)
    (hlast : range.last? = some last) :
    a.LaysOn (⟨range, range.first, last⟩ : IndexScale).toScale := by
  constructor
  · exact IndexScale.lawful_toScale _
  · intro policy records fields
    simp only [withDuplicates, alignFields, ha, IndexScale.new, hlast]
    rfl
  · funext time
    simp only [bucketOf?, ha, hlast, Scale.labelOf?, IndexScale.bucket?_toScale]
    cases range.slotOf? time with
    | none => rfl
    | some i =>
      simp only [Option.bind_eq_bind, Option.bind_some]
      split_ifs <;> rfl
  · intro position time hnone
    rw [IndexScale.bucket?_toScale] at hnone
    change IndexScale.bucketOf ⟨range, range.first, last⟩ position time = _
    simp only [IndexScale.bucketOf, IndexScale.slotOf?_eq, timeError, ha, hlast, Option.getD_some]
    cases hi : range.slotOf? time with
    | none => rfl
    | some i =>
      rw [hi, Option.bind_some] at hnone
      split_ifs at hnone with hin
      simp only
      rw [if_pos (by omega)]

/-- An aligner lays its records on a scale unless there is something wrong with its axis. -/
theorem exists_laysOn (h : a.axisFault? = none) :
    ∃ (κ : Type) (_ : LinearOrder κ) (s : Scale κ), a.LaysOn s := by
  cases ha : a.axis with
  | calendar p => exact ⟨_, _, _, laysOn_calendarScale ha h⟩
  | index range =>
    simp only [axisFault?, ha] at h
    cases hlast : range.last? with
    | none => simp [hlast] at h
    | some last => exact ⟨_, _, _, laysOn_indexScale ha hlast⟩

theorem ne_nil_of_alignFields {records : List Record} {fields : List String} {frame : AlignedFrame}
    (h : a.alignFields records fields = .ok frame) : records ≠ [] := by
  rintro rfl
  obtain ⟨κ, _, s, hs⟩ := exists_laysOn (axisFault?_of_alignFields h)
  rw [hs.alignFields_eq, Scale.align_nil] at h
  cases h

end Aligner

end Meteogram
