import Meteogram.Proofs.Align.Independence
import Meteogram.Proofs.IndexRange

/-!
# Axes of slots

A range of slots is either valid, and then all that is computed from its length stays in the words,
or it is refused as a whole. Instants on an axis of slots fall in a slot of the range or in none, so
a slot that leaves the range has been said by a bare number.
-/
namespace Meteogram

/-- What a range with so many slots is like. -/
structure IndexRange.HasSlots (range : IndexRange) (n : ℕ) : Prop where
  pos : 1 ≤ n
  fits : range.first + n < slotLimit
  nonempty : range.isEmpty = false
  last_eq : range.last? = some (range.first + n - 1)
  /-- The words of 32 bits neither go over their end nor below zero. -/
  word_eq : (UInt32.ofNat range.first + UInt32.ofNat n - 1).toNat = range.first + n - 1
  new_eq : IndexScale.new range = .ok ⟨range, range.first, range.first + n - 1⟩
  /-- The last slot is not the last word. -/
  step_last : (IndexScale.toScale ⟨range, range.first, range.first + n - 1⟩).step
    (range.first + n - 1) = some (range.first + n)
  indexOf_mem : ∀ t i, range.indexOf? t = some i → range.first ≤ i ∧ i ≤ range.first + n - 1

theorem IndexRange.hasSlots {range : IndexRange} {n : ℕ} (h : range.length? = some n) :
    range.HasSlots n := by
  obtain ⟨hpos, hfits⟩ := length?_mem h
  have hlast : range.last? = some (range.first + n - 1) :=
    last?_eq_some.mpr ⟨n, h, by omega⟩
  refine ⟨hpos, hfits, ?_, hlast, ?_, ?_, ?_, fun t i hi => ?_⟩
  · simpa [isEmpty, h] using Nat.ne_of_gt hpos
  · have hone : (1 : UInt32).toNat = 1 := rfl
    simp only [slotLimit] at hfits
    simp only [UInt32.toNat_sub, UInt32.toNat_add, UInt32.toNat_ofNat', hone]
    omega
  · simp only [IndexScale.new, hlast]
  · change (if range.first + n - 1 + 1 < slotLimit then some (range.first + n - 1 + 1) else none) = _
    rw [Nat.sub_add_cancel (by omega), if_pos hfits]
  · have hmem := indexOf?_mem h hi
    omega

theorem IndexRange.refused_of_length?_eq_none {range : IndexRange} (h : range.length? = none) :
    range.last? = none ∧ range.isEmpty = true ∧
      IndexScale.new range = .error (.invalidIndexRange range.invalidText) := by
  have hlast : range.last? = none := by rw [last?, h]; rfl
  exact ⟨hlast, by simp [isEmpty, h], by simp only [IndexScale.new, hlast]⟩

namespace Aligner

variable {a : Aligner} {range : IndexRange} {records : List Record} {fields : List String}
  {field : String} {position index first last : ℕ}

/-- An instant has a slot in the range or none. -/
theorem bucketOf?_instant (ha : a.axis = .index range) {last : ℕ} (hlast : range.last? = some last)
    {t : Instant} {i : ℕ} (hi : range.indexOf? t = some i) :
    a.bucketOf? (.instant t) = some (.index i) := by
  obtain ⟨n, hn, hsum⟩ := IndexRange.last?_eq_some.mp hlast
  have hmem := IndexRange.indexOf?_mem hn hi
  have hin : range.first ≤ i ∧ i ≤ last := by omega
  simp only [bucketOf?, ha, hlast, IndexRange.slotOf?, hi, Option.bind_eq_bind, Option.bind_some,
    if_pos hin]

/-- An alignment finds a slot outside the range only where a record says a number. -/
theorem exists_number_of_indexOutOfRange (ha : a.axis = .index range)
    (h : a.alignFields records fields = .error (.indexOutOfRange position index first last)) :
    ∃ n, records[position]?.map (·.time) = some (.number n) ∧ n.toInt = index := by
  cases hlast : range.last? with
  | none =>
    have hfault : a.axisFault? = some (.invalidIndexRange range.invalidText) := by
      simp [axisFault?, ha, hlast]
    rw [alignFields_of_axisFault hfault] at h
    cases h
  | some last' =>
    have hs := laysOn_indexScale ha hlast
    rw [hs.alignFields_eq, Scale.align_eq_error_iff hs.lawful hs.bucketOf_error,
      ← hs.bucketOf?_eq] at h
    generalize he : AlignError.indexOutOfRange position index first last = e at h
    cases h with
    | noRecord => cases he
    | unknownField => cases he
    | misplaced hf hb hp hk hbefore h => cases h <;> cases he
    | @noBucket hf i r hi hbefore hnone =>
      simp only [timeError, ha] at he
      cases hslot : range.slotOf? r.time with
      | none => simp [hslot] at he
      | some slot =>
        simp only [hslot, AlignError.indexOutOfRange.injEq] at he
        obtain ⟨rfl, rfl, -, -⟩ := he
        rw [hi, Option.map_some]
        cases htime : r.time with
        | instant t =>
          rw [htime] at hslot hnone
          rw [bucketOf?_instant ha hlast hslot] at hnone
          cases hnone
        | number n =>
          rw [htime, IndexRange.slotOf?, Option.ite_none_right_eq_some, Option.some.injEq] at hslot
          exact ⟨n, rfl, by omega⟩

end Aligner

/-- A range is valid or refused as a whole. The slots of a valid one stay in the words, with the slot
after the last one; an instant says one of them or none. A month is valid if the calendar goes on
after it, and its slots are then the numbers of its days. Hence only bare numbers leave the range. -/
theorem IndexRange.slots_of_range (range : IndexRange) :
    (∀ n, range.length? = some n → range.HasSlots n) ∧
    (range.length? = none → range.last? = none ∧ range.isEmpty = true ∧
      IndexScale.new range = .error (.invalidIndexRange range.invalidText)) ∧
    (∀ year month, range = .daysOfMonth year month →
      (range.length? ≠ none ↔ (1 ≤ month ∧ month ≤ 12) ∧
        (Date.minYear ≤ year ∧ year ≤ Date.maxYear) ∧ ¬ (year = Date.maxYear ∧ month = 12)) ∧
      ∀ last, range.last? = some last →
        ∀ i, range.first ≤ i ∧ i ≤ last ↔ (⟨year, month, i⟩ : Date).IsValid) ∧
    ∀ a : Aligner, a.axis = .index range → ∀ records position index first last,
      (∃ fields, a.alignFields records fields =
        .error (.indexOutOfRange position index first last)) ∨
      (∃ field, a.align records field = .error (.indexOutOfRange position index first last)) →
      ∃ n, records[position]?.map (·.time) = some (.number n) ∧ n.toInt = index := by
  refine ⟨fun n => hasSlots, refused_of_length?_eq_none, ?_, ?_⟩
  · rintro year month rfl
    constructor
    · rw [Option.ne_none_iff_exists']
      change (∃ n, Date.daysInMonth? year month = some n) ↔ _
      simp only [Date.daysInMonth?_eq_some, ← and_assoc, exists_and_left, exists_eq, and_true]
    · intro last hlast i
      obtain ⟨n, hn, hsum⟩ := last?_eq_some.mp hlast
      rw [← mem_daysOfMonth_iff hn]
      omega
  · rintro a ha records position index first last (⟨fields, h⟩ | ⟨field, h⟩)
    · exact Aligner.exists_number_of_indexOutOfRange ha h
    · exact Aligner.exists_number_of_indexOutOfRange ha (Aligner.align_eq_error_iff.mp h)

/-- In February 2024 the 29th has a slot; a record that says 30 has none. -/
theorem IndexRange.slots_of_february :
    let range := daysOfMonth 2024 2
    let a : Aligner := ⟨.index range, default, none, none⟩
    let t : Instant := ⟨1709208000, 0, by decide, by decide, by decide⟩
    let records := [(Record.new (.instant t)).set "rain" (some 1), Record.new (.number 30)]
    (range.HasSlots 29 ∧ range.indexOf? t = some 29) ∧ (⟨2024, 2, 29⟩ : Date).IsValid ∧
      a.align records "rain" = .error (.indexOutOfRange 1 30 1 29) ∧
      (∃ n, records[1]?.map (·.time) = some (.number n) ∧ n.toInt = 30) ∧
      (span 4294967295 1).last? = none := by
  intro range a t records
  have hlength : range.length? = some 29 := by decide
  have hlast : range.last? = some 29 := by decide
  have herror : a.align records "rain" = .error (.indexOutOfRange 1 30 1 29) := by decide +kernel
  obtain ⟨hvalid, -, hmonth, halign⟩ := slots_of_range range
  exact ⟨⟨hvalid 29 hlength, by decide +kernel⟩,
    ((hmonth 2024 2 rfl).2 29 hlast 29).mp (by decide), herror,
    halign a rfl records 1 30 1 29 (.inr ⟨"rain", herror⟩),
    ((slots_of_range (span 4294967295 1)).2.1 (by decide)).1⟩

end Meteogram
