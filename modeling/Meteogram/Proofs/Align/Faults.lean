import Meteogram.Proofs.Align.Aligner

/-!
# What an alignment refuses

An alignment fails for the first thing that is wrong: with its axis, with its records as a whole,
with a field, with the time of a record, and last with the order of the records. `RecordFault` says
what is wrong with records once the axis is right. A record is compared with the record before it,
and not with all that the walk remembers. A time that its clock takes out of the calendar is no such
fault of its own: it stops the whole alignment, and `Aligner.Overflows` says where.
-/
namespace Meteogram

/-- What is wrong first with records on an axis that gives their times these buckets. -/
inductive RecordFault (policy : DuplicatePolicy) (bucketOf? : RecordTime → Option Label)
    (timeError : ℕ → RecordTime → AlignError) (records : List Record) (fields : List String) :
    AlignError → Prop
  | noRecord (h : records = []) :
    RecordFault policy bucketOf? timeError records fields .emptyInput
  | unknownField (hr : records ≠ []) {i : ℕ} {f : String} (hi : fields[i]? = some f)
    (hbefore : ∀ g ∈ fields.take i, IsKnown records g) (h : ¬ IsKnown records f) :
    RecordFault policy bucketOf? timeError records fields (.unknownField f)
  | noBucket (hf : ∀ f ∈ fields, IsKnown records f) {i : ℕ} {r : Record} (hi : records[i]? = some r)
    (hbefore : ∀ r' ∈ records.take i, (bucketOf? r'.time).isSome = true)
    (h : bucketOf? r.time = none) :
    RecordFault policy bucketOf? timeError records fields (timeError i r.time)
  | misplaced (hf : ∀ f ∈ fields, IsKnown records f) {buckets : List Label}
    (hb : records.map (fun r => bucketOf? r.time) = buckets.map some) {i : ℕ} {p k : Label}
    (hp : buckets[i]? = some p) (hk : buckets[i + 1]? = some k)
    (hbefore : (buckets.take (i + 1)).IsChain policy.Follows) {e : AlignError}
    (h : Misplaced policy (i + 1) p k e) :
    RecordFault policy bucketOf? timeError records fields e

namespace Scale

variable {κ : Type} [LinearOrder κ] {s : Scale κ} {policy : DuplicatePolicy}
  {records : List Record} {fields : List String}

theorem Lawful.follows_label (hs : s.Lawful) {a b : κ} :
    policy.Follows (s.label a) (s.label b) ↔ policy.Follows a b := by
  have hinj : s.label a = s.label b ↔ a = b := ⟨hs.label_injective, congrArg s.label⟩
  simp only [DuplicatePolicy.Follows, hs.label_lt, hinj]

theorem Lawful.isChain_map_label (hs : s.Lawful) {keys : List κ} :
    (keys.map s.label).IsChain policy.Follows ↔ keys.IsChain policy.Follows := by
  rw [List.isChain_map]
  simp only [hs.follows_label]

omit [LinearOrder κ] in
theorem exists_keys_of_labels {labels : List Label}
    (h : records.map (fun r => s.labelOf? r.time) = labels.map some) :
    ∃ keys : List κ, records.map (fun r => s.bucket? r.time) = keys.map some ∧
      labels = keys.map s.label := by
  have hsome : ∀ r ∈ records, (s.bucket? r.time).isSome = true := by
    intro r hr
    have hmem : s.labelOf? r.time ∈ labels.map some := h ▸ List.mem_map_of_mem hr
    obtain ⟨label, -, hlabel⟩ := List.mem_map.mp hmem
    rw [labelOf?] at hlabel
    cases hb : s.bucket? r.time with
    | none => rw [hb] at hlabel; cases hlabel
    | some k => rfl
  obtain ⟨keys, hkeys⟩ := exists_keys hsome
  refine ⟨keys, hkeys, List.map_injective_iff.mpr (Option.some_injective Label) ?_⟩
  rw [← h, map_labelOf? hkeys]

/-- The first thing that is wrong with the records is what the alignment fails for. -/
theorem align_of_recordFault (hs : s.Lawful) {timeError : ℕ → RecordTime → AlignError}
    (ht : ∀ position time, s.bucket? time = none →
      s.bucketOf position time = .error (timeError position time)) {e : AlignError}
    (h : RecordFault policy s.labelOf? timeError records fields e) :
    s.align policy records fields = .error e := by
  cases h with
  | noRecord h => rw [h, align_nil]
  | @unknownField hr i f hi hbefore h =>
    obtain ⟨hlt, rfl⟩ := List.getElem?_eq_some_iff.mp hi
    apply align_of_unknown hr
    rw [List.find?_eq_some_iff_append]
    refine ⟨by simpa [IsKnown] using h, fields.take i, fields.drop (i + 1), ?_, ?_⟩
    · rw [← List.drop_eq_getElem_cons hlt, List.take_append_drop]
    · intro g hg
      simpa [IsKnown] using hbefore g hg
  | @noBucket hf i r hi hbefore h =>
    apply align_of_badTime hs hf hi
    · simpa [labelOf?] using hbefore
    · exact ht _ _ (by simpa [labelOf?] using h)
  | @misplaced hf buckets hb i p k hp hk hbefore e h =>
    obtain ⟨keys, hkeys, rfl⟩ := exists_keys_of_labels hb
    rw [List.getElem?_map, Option.map_eq_some_iff] at hp hk
    obtain ⟨p, hp, rfl⟩ := hp
    obtain ⟨k, hk, rfl⟩ := hk
    rw [← List.map_take, hs.isChain_map_label] at hbefore
    exact align_of_misplaced hs hf hkeys hp hk hbefore h

variable (policy records fields) in
/-- Something is wrong with the records, or they can be laid. -/
theorem exists_recordFault_or_follows (hs : s.Lawful) (timeError : ℕ → RecordTime → AlignError) :
    (∃ e, RecordFault policy s.labelOf? timeError records fields e) ∨
      (∀ f ∈ fields, IsKnown records f) ∧ ∃ first rest,
        records.map (fun r => s.bucket? r.time) = (first :: rest).map some ∧
        (first :: rest).IsChain policy.Follows := by
  by_cases hr : records = []
  · exact .inl ⟨_, .noRecord hr⟩
  by_cases hf : ∀ f ∈ fields, IsKnown records f
  swap
  · obtain ⟨i, f, hi, h, hbefore⟩ := exists_first_not hf
    exact .inl ⟨_, .unknownField hr hi hbefore h⟩
  by_cases hb : ∀ r ∈ records, (s.labelOf? r.time).isSome = true
  swap
  · obtain ⟨i, r, hi, h, hbefore⟩ := exists_first_not hb
    exact .inl ⟨_, .noBucket hf hi hbefore (by simpa using h)⟩
  have hbucket : ∀ r ∈ records, (s.bucket? r.time).isSome = true := by
    simpa [labelOf?] using hb
  obtain ⟨keys, hkeys⟩ := exists_keys hbucket
  by_cases hchain : keys.IsChain policy.Follows
  · cases keys with
    | nil => exact absurd (List.map_eq_nil_iff.mp hkeys) hr
    | cons first rest => exact .inr ⟨hf, first, rest, hkeys, hchain⟩
  · obtain ⟨i, p, k, hp, hk, h, hbefore⟩ := exists_first_not_follows hchain
    obtain ⟨e, he⟩ := exists_misplaced hs h (i + 1)
    rw [← hs.isChain_map_label, List.map_take] at hbefore
    exact .inl ⟨e, .misplaced hf (map_labelOf? hkeys) (by simp [hp]) (by simp [hk]) hbefore he⟩

theorem align_eq_error_iff (hs : s.Lawful) {timeError : ℕ → RecordTime → AlignError}
    (ht : ∀ position time, s.bucket? time = none →
      s.bucketOf position time = .error (timeError position time)) {e : AlignError} :
    s.align policy records fields = .error e ↔
      RecordFault policy s.labelOf? timeError records fields e := by
  refine ⟨?_, align_of_recordFault hs ht⟩
  intro h
  rcases exists_recordFault_or_follows policy records fields hs timeError with
    ⟨e', he'⟩ | ⟨hf, first, rest, hkeys, hchain⟩
  · have heq := align_of_recordFault hs ht he'
    rw [h] at heq
    exact Except.error.inj heq ▸ he'
  · obtain ⟨frame, -, hframe, -⟩ := align_of_follows hs hf hkeys hchain
    rw [h] at hframe
    cases hframe

/-! Refusing shared buckets and keeping the later record differ only where a bucket is shared. -/

omit [LinearOrder κ] in
theorem layFrom_lastWins_of_reject {laid : List (κ × Record)} {position : ℕ} {w w' : Walk κ}
    (h : s.layFrom .reject position w laid = .ok w') :
    s.layFrom .lastWins position w laid = .ok w' := by
  induction laid generalizing position w with
  | nil => exact h
  | cons e laid ih =>
    obtain ⟨k, r⟩ := e
    simp only [layFrom, Except.bind_eq_ok] at h ⊢
    obtain ⟨w₁, hlay, hrest⟩ := h
    refine ⟨w₁, ?_, ih hrest⟩
    unfold lay at hlay ⊢
    cases hp : w.previous with
    | none => rwa [hp] at hlay
    | some p =>
      simp only [hp] at hlay ⊢
      split_ifs at hlay ⊢
      exact hlay

theorem align_lastWins_of_reject (hs : s.Lawful) {frame : AlignedFrame}
    (h : s.align .reject records fields = .ok frame) :
    s.align .lastWins records fields = .ok frame := by
  obtain ⟨first, rest, w, ha⟩ := isAligned_of_align hs h
  have hr : records ≠ [] := by rintro rfl; cases h
  rw [align_of_known hr (find?_unknown_eq_none.mpr ha.known),
    (bucketsFrom_eq_ok hs).mpr ha.keys_eq] at h ⊢
  simp only [Except.ok_bind, Except.bind_eq_ok] at h ⊢
  obtain ⟨w', hw, hframe⟩ := h
  exact ⟨w', layFrom_lastWins_of_reject hw, hframe⟩

theorem isChain_reject_iff {keys : List κ} :
    keys.IsChain DuplicatePolicy.reject.Follows ↔ keys.Pairwise (· < ·) := by
  have heq : (DuplicatePolicy.reject.Follows : κ → κ → Prop) = (· < ·) := by
    funext a b
    simp [DuplicatePolicy.Follows]
  rw [heq, List.isChain_iff_pairwise]

theorem isChain_lastWins_iff {keys : List κ} :
    keys.IsChain DuplicatePolicy.lastWins.Follows ↔ keys.Pairwise (· ≤ ·) := by
  have heq : (DuplicatePolicy.lastWins.Follows : κ → κ → Prop) = (· ≤ ·) := by
    funext a b
    simp [DuplicatePolicy.Follows, le_iff_lt_or_eq]
  rw [heq, List.isChain_iff_pairwise]

theorem nodup_labels_iff (hs : s.Lawful) {keys : List κ}
    (h : records.map (fun r => s.bucket? r.time) = keys.map some) :
    (records.map (fun r => s.labelOf? r.time)).Nodup ↔ keys.Nodup := by
  rw [map_labelOf? h, List.nodup_map_iff (Option.some_injective Label),
    List.nodup_map_iff fun a b => hs.label_injective (a := a) (b := b)]

/-- Refusing shared buckets succeeds where keeping the later record does and no bucket is shared. -/
theorem align_reject_eq_ok_iff (hs : s.Lawful) {frame : AlignedFrame} :
    s.align .reject records fields = .ok frame ↔
      s.align .lastWins records fields = .ok frame ∧
        (records.map (fun r => s.labelOf? r.time)).Nodup := by
  constructor
  · intro h
    obtain ⟨first, rest, w, ha⟩ := isAligned_of_align hs h
    refine ⟨align_lastWins_of_reject hs h, (nodup_labels_iff hs ha.keys_eq).mpr ?_⟩
    exact (isChain_reject_iff.mp ha.follows).imp LT.lt.ne
  · rintro ⟨h, hnodup⟩
    obtain ⟨first, rest, w, ha⟩ := isAligned_of_align hs h
    have hle := isChain_lastWins_iff.mp ha.follows
    have hlt := (hle.and ((nodup_labels_iff hs ha.keys_eq).mp hnodup)).imp
      fun hab => lt_of_le_of_ne hab.1 hab.2
    obtain ⟨frame', -, hframe, -⟩ :=
      align_of_follows hs ha.known ha.keys_eq (isChain_reject_iff.mpr hlt)
    have heq := align_lastWins_of_reject hs hframe
    rw [h] at heq
    exact Except.ok.inj heq ▸ hframe

end Scale

namespace Aligner

variable {a : Aligner} {records : List Record} {fields : List String}

theorem lack_eq_clockOverflow_iff {time : RecordTime} {e : AlignError} (he : e ≠ .clockOverflow) :
    a.lack time e = .clockOverflow ↔ time.Overflows a.options.offset := by
  unfold lack
  split_ifs with h
  · exact iff_of_true rfl h
  · exact iff_of_false he h

theorem instant?_of_overflows {time : RecordTime} (h : time.Overflows a.options.offset) :
    a.instant? time = none := by
  rw [instant?, RecordTime.toInstant?, RecordTime.reading_eq_overflow.mpr h, Reading.instant?]

theorem boundFault?_eq_clockOverflow_iff {bound : Option RecordTime} :
    a.boundFault? bound = some .clockOverflow ↔
      ∃ time, bound = some time ∧ time.Overflows a.options.offset := by
  have hlack (time : RecordTime) : a.lack time (.invalidWindow time.text) = .clockOverflow ↔
      time.Overflows a.options.offset :=
    lack_eq_clockOverflow_iff (by simp)
  unfold boundFault?
  constructor
  · intro h
    obtain ⟨time, rfl, htime⟩ := Option.bind_eq_some_iff.mp h
    split_ifs at htime
    exact ⟨time, rfl, (hlack time).mp (Option.some.inj htime)⟩
  · rintro ⟨time, rfl, h⟩
    rw [Option.bind_some, if_pos (instant?_of_overflows h), (hlack time).mpr h]

theorem timeError_eq_clockOverflow_iff {position : ℕ} {time : RecordTime} :
    a.timeError position time = .clockOverflow ↔
      (∃ p, a.axis = .calendar p) ∧ time.Overflows a.options.offset := by
  unfold timeError
  cases a.axis with
  | calendar p => simp [lack_eq_clockOverflow_iff]
  | index range => cases hi : range.slotOf? time <;> simp [hi]

/-- How an alignment comes to a time that its clock takes out of the calendar: at a bound of its
window, the lower one first, or at the first record without a bucket. -/
inductive Overflows (a : Aligner) (records : List Record) (fields : List String) : Prop
  | lower {p : Period} (ha : a.axis = .calendar p) {time : RecordTime} (hl : a.lower = some time)
    (h : time.Overflows a.options.offset) : Overflows a records fields
  | upper {p : Period} (ha : a.axis = .calendar p) {time : RecordTime}
    (hl : a.boundFault? a.lower = none) (hu : a.upper = some time)
    (h : time.Overflows a.options.offset) : Overflows a records fields
  | record {p : Period} (ha : a.axis = .calendar p) (hfault : a.axisFault? = none)
    (hf : ∀ f ∈ fields, IsKnown records f) {i : ℕ} {r : Record} (hi : records[i]? = some r)
    (hbefore : ∀ r' ∈ records.take i, (a.bucketOf? r'.time).isSome = true)
    (h : r.time.Overflows a.options.offset) : Overflows a records fields

theorem axisFault?_eq_clockOverflow_iff :
    a.axisFault? = some .clockOverflow ↔ (∃ p, a.axis = .calendar p) ∧
      ((∃ time, a.lower = some time ∧ time.Overflows a.options.offset) ∨
        a.boundFault? a.lower = none ∧
          ∃ time, a.upper = some time ∧ time.Overflows a.options.offset) := by
  unfold axisFault?
  cases a.axis with
  | calendar p => simp [boundFault?_eq_clockOverflow_iff]
  | index range => simp

theorem recordFault_clockOverflow_iff :
    RecordFault a.options.duplicates a.bucketOf? a.timeError records fields .clockOverflow ↔
      (∃ p, a.axis = .calendar p) ∧ (∀ f ∈ fields, IsKnown records f) ∧
        ∃ i r, records[i]? = some r ∧
          (∀ r' ∈ records.take i, (a.bucketOf? r'.time).isSome = true) ∧
          r.time.Overflows a.options.offset := by
  constructor
  · intro h
    generalize he : AlignError.clockOverflow = e at h
    cases h with
    | noRecord => cases he
    | unknownField => cases he
    | noBucket hf hi hbefore =>
      obtain ⟨hp, h⟩ := timeError_eq_clockOverflow_iff.mp he.symm
      exact ⟨hp, hf, _, _, hi, hbefore, h⟩
    | misplaced hf hb hp hk hbefore h => cases h <;> cases he
  · rintro ⟨⟨p, ha⟩, hf, i, r, hi, hbefore, h⟩
    rw [← timeError_eq_clockOverflow_iff.mpr ⟨⟨p, ha⟩, h⟩]
    refine .noBucket hf hi hbefore ?_
    rw [bucketOf?, ha, instant?_of_overflows h]
    rfl

/-- An alignment fails for its axis, or else for its records. -/
theorem alignFields_eq_error_iff_fault {e : AlignError} :
    a.alignFields records fields = .error e ↔
      a.axisFault? = some e ∨
        a.axisFault? = none ∧
          RecordFault a.options.duplicates a.bucketOf? a.timeError records fields e := by
  cases hfault : a.axisFault? with
  | some e' => simp [alignFields_of_axisFault hfault]
  | none =>
    obtain ⟨κ, _, s, hs⟩ := exists_laysOn hfault
    simpa [hs.alignFields_eq, hs.bucketOf?_eq] using
      Scale.align_eq_error_iff hs.lawful hs.bucketOf_error

/-- The clock leaves the calendar where that is what is wrong first. -/
theorem overflows_iff : a.Overflows records fields ↔
    a.axisFault? = some .clockOverflow ∨
      a.axisFault? = none ∧
        RecordFault a.options.duplicates a.bucketOf? a.timeError records fields .clockOverflow := by
  rw [axisFault?_eq_clockOverflow_iff, recordFault_clockOverflow_iff]
  constructor
  · rintro (⟨ha, hl, h⟩ | ⟨ha, hl, hu, h⟩ | ⟨ha, hfault, hf, hi, hbefore, h⟩)
    · exact .inl ⟨⟨_, ha⟩, .inl ⟨_, hl, h⟩⟩
    · exact .inl ⟨⟨_, ha⟩, .inr ⟨hl, _, hu, h⟩⟩
    · exact .inr ⟨hfault, ⟨_, ha⟩, hf, _, _, hi, hbefore, h⟩
  · rintro (⟨⟨p, ha⟩, ⟨time, hl, h⟩ | ⟨hl, time, hu, h⟩⟩ |
      ⟨hfault, ⟨p, ha⟩, hf, i, r, hi, hbefore, h⟩)
    · exact .lower ha hl h
    · exact .upper ha hl hu h
    · exact .record ha hfault hf hi hbefore h

/-- An alignment fails exactly for the first thing that is wrong: with its axis, or else with its
records. It succeeds where nothing is. What is wrong is that the clock leaves the calendar exactly where
a bound or the first record without a bucket takes it there. Refusing shared buckets changes nothing
where none is shared. -/
theorem alignFields_eq_error_iff (a : Aligner) (records : List Record) (fields : List String) :
    (∀ e, a.alignFields records fields = .error e ↔
      a.axisFault? = some e ∨
        a.axisFault? = none ∧
          RecordFault a.options.duplicates a.bucketOf? a.timeError records fields e) ∧
    ((∃ frame, a.alignFields records fields = .ok frame) ↔
      a.axisFault? = none ∧
        ∀ e, ¬ RecordFault a.options.duplicates a.bucketOf? a.timeError records fields e) ∧
    (a.alignFields records fields = .error .clockOverflow ↔ a.Overflows records fields) ∧
    ∀ frame, (a.withDuplicates .reject).alignFields records fields = .ok frame ↔
      (a.withDuplicates .lastWins).alignFields records fields = .ok frame ∧
        (records.map fun r => a.bucketOf? r.time).Nodup := by
  refine ⟨fun e => alignFields_eq_error_iff_fault, ?_, ?_, ?_⟩
  · have hok : (∃ frame, a.alignFields records fields = .ok frame) ↔
        ∀ e, a.alignFields records fields ≠ .error e := by
      cases a.alignFields records fields <;> simp
    simp only [hok, ne_eq, alignFields_eq_error_iff_fault]
    cases a.axisFault? <;> simp
  · rw [alignFields_eq_error_iff_fault, overflows_iff]
  · cases hfault : a.axisFault? with
    | some e =>
      have hrefused : ∀ policy,
          (a.withDuplicates policy).alignFields records fields = .error e :=
        fun policy => alignFields_of_axisFault (a := a.withDuplicates policy) hfault records fields
      simp [hrefused]
    | none =>
      obtain ⟨κ, _, s, hs⟩ := exists_laysOn hfault
      intro frame
      rw [hs.withDuplicates_eq, hs.withDuplicates_eq, hs.bucketOf?_eq]
      exact Scale.align_reject_eq_ok_iff hs.lawful

/-- The last second of the calendar on a clock one hour ahead: the record has no bucket, and the
alignment is stopped where its time would have been refused. -/
theorem alignFields_of_last_second :
    let a : Aligner := ⟨.calendar .day, ⟨⟨3600, by decide⟩, .lastWins⟩, none, none⟩
    let records := [(Record.new (.number 8210266876799)).set "rain" (some 1)]
    records.map (fun r => a.bucketOf? r.time) = [none] ∧
    a.alignFields records ["rain"] = .error .clockOverflow ∧
    a.alignFields records ["rain"] ≠ .error (.invalidTime 0) := by
  decide +kernel

end Aligner

end Meteogram
