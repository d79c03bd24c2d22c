import Meteogram.Proofs.Align.Labels
import Meteogram.Proofs.Align.Values

/-!
# Columns one by one

The walk over the records looks at their times and does not ask which fields are wanted. Records with
the same times therefore have the same labels, whatever they say, and an alignment of several fields
is put together from alignments of one field each. A value is what the record at the latest position
of a bucket says.
-/
namespace Meteogram

section

variable {κ : Type} [LinearOrder κ]

/-- What a walk shows of the axis: its buckets, and where it goes on. -/
def Walk.outline (w : Walk κ) : List κ × Option κ × Option κ :=
  (w.slots.map (·.bucket), w.cursor, w.previous)

namespace Scale

variable {s : Scale κ} {policy : DuplicatePolicy} {records records' : List Record}
  {fields fields' : List String} {frame : AlignedFrame} {first : κ} {rest : List κ} {w w' : Walk κ}

omit [LinearOrder κ] in
variable (policy) in
/-- How a record is laid depends on its bucket and not on what it says. -/
theorem lay_outline (hw : w'.outline = w.outline) (position : ℕ) (k : κ) (r r' : Record) :
    (s.lay policy position w' k r').map Walk.outline =
      (s.lay policy position w k r).map Walk.outline := by
  obtain ⟨slots, cursor, previous⟩ := w
  obtain ⟨slots', cursor', previous'⟩ := w'
  simp only [Walk.outline, Prod.mk.injEq] at hw
  obtain ⟨hslots, rfl, rfl⟩ := hw
  have hfill : (s.fill ⟨slots', cursor', previous'⟩ k r').outline =
      (s.fill ⟨slots, cursor', previous'⟩ k r).outline := by
    simp [Walk.outline, fill, hslots]
  have hoverwrite : (Walk.overwrite ⟨slots', cursor', previous'⟩ r').outline =
      (Walk.overwrite ⟨slots, cursor', previous'⟩ r).outline := by
    cases slots with
    | nil =>
      rw [List.map_nil, List.map_eq_nil_iff] at hslots
      rw [hslots]
      rfl
    | cons slot earlier =>
      cases slots' with
      | nil => simp at hslots
      | cons slot' earlier' => simpa [Walk.outline, Walk.overwrite] using hslots
  cases previous' with
  | none => exact congrArg Except.ok hfill
  | some p =>
    simp only [lay]
    split_ifs
    · rfl
    · exact congrArg Except.ok hfill
    · cases policy with
      | lastWins => exact congrArg Except.ok hoverwrite
      | reject => rfl

omit [LinearOrder κ] in
variable (policy) in
theorem layFrom_outline {laid laid' : List (κ × Record)}
    (hlaid : laid'.map (·.1) = laid.map (·.1)) (hw : w'.outline = w.outline) (position : ℕ) :
    (s.layFrom policy position w' laid').map Walk.outline =
      (s.layFrom policy position w laid).map Walk.outline := by
  induction laid generalizing laid' position w w' with
  | nil =>
    rw [List.map_nil, List.map_eq_nil_iff] at hlaid
    rw [hlaid]
    exact congrArg Except.ok hw
  | cons e laid ih =>
    cases laid' with
    | nil => simp at hlaid
    | cons e' laid' =>
      obtain ⟨k, r⟩ := e
      obtain ⟨k', r'⟩ := e'
      simp only [List.map_cons, List.cons.injEq] at hlaid
      obtain ⟨rfl, hrest⟩ := hlaid
      have hlay := s.lay_outline policy hw position k' r r'
      simp only [layFrom]
      cases h : s.lay policy position w k' r with
      | error e =>
        rw [h] at hlay
        cases h' : s.lay policy position w' k' r' with
        | error e' => rw [h'] at hlay; exact hlay
        | ok w₁' => rw [h'] at hlay; cases hlay
      | ok w₁ =>
        rw [h] at hlay
        cases h' : s.lay policy position w' k' r' with
        | error e' => rw [h'] at hlay; cases hlay
        | ok w₁' =>
          rw [h'] at hlay
          exact ih hrest (Except.ok.inj hlay) (position + 1)

omit [LinearOrder κ] in
theorem map_bucket_finish (hw : w'.outline = w.outline) (last : κ) :
    (s.finish w' last).map (·.bucket) = (s.finish w last).map (·.bucket) := by
  simp only [Walk.outline, Prod.mk.injEq] at hw
  obtain ⟨hslots, hcursor, -⟩ := hw
  simp only [finish, List.map_append, List.map_reverse, hslots, hcursor]

/-- Records with the same times are laid on the same labels, for whatever fields they have. -/
theorem IsAligned.exists_of_times (hs : s.Lawful)
    (h : s.IsAligned policy records fields frame first rest w)
    (htimes : records'.map (·.time) = records.map (·.time))
    (hknown : ∀ f ∈ fields', IsKnown records' f) :
    ∃ frame' w', s.align policy records' fields' = .ok frame' ∧
      s.IsAligned policy records' fields' frame' first rest w' ∧
        frame'.labels = frame.labels := by
  have hkeys : records'.map (fun r => s.bucket? r.time) = (first :: rest).map some := by
    have hmap := congrArg (List.map s.bucket?) htimes
    rw [List.map_map, List.map_map] at hmap
    exact hmap.trans h.keys_eq
  obtain ⟨frame', w', hok, h'⟩ := align_of_follows hs hknown hkeys h.follows
  refine ⟨frame', w', hok, h', ?_⟩
  have hlaid : ((first :: rest).zip records').map (·.1) =
      ((first :: rest).zip records).map (·.1) := by
    rw [map_fst_zip hkeys, map_fst_zip h.keys_eq]
  have hout := s.layFrom_outline policy hlaid
    (rfl : (Walk.fromStart (s.bounds first (rest.getLastD first)).1).outline = _) 0
  rw [h'.walk_eq, h.walk_eq] at hout
  have hbuckets := s.map_bucket_finish (Except.ok.inj hout) (s.bounds first (rest.getLastD first)).2
  rw [h'.frame_eq, h.frame_eq]
  have hlabels := congrArg (List.map s.label) hbuckets
  rw [List.map_map, List.map_map] at hlabels
  exact hlabels

theorem IsAligned.exists_buckets (h : s.IsAligned policy records fields frame first rest w) :
    ∃ buckets : List κ, frame.labels = buckets.map s.label := by
  refine ⟨(s.finish w (s.bounds first (rest.getLastD first)).2).map (·.bucket), ?_⟩
  rw [h.frame_eq, List.map_map]
  rfl

end Scale

end

/-- A column of a frame whose columns are computed field by field. -/
theorem AlignedFrame.column?_of_columns {frame : AlignedFrame} {fields : List String}
    {values : String → List (Option Float)}
    (h : frame.columns = fields.map fun f => (f, values f)) {f : String} (hf : f ∈ fields) :
    frame.column? f = some (values f) := by
  obtain ⟨g, hg⟩ := Option.isSome_iff_exists.mp
    (show (fields.find? (· == f)).isSome = true by simpa using hf)
  have heq : g = f := by simpa using List.find?_some hg
  subst heq
  simp only [column?, h, List.find?_map, Function.comp_def, hg, Option.map_some]

namespace Aligner

variable {a : Aligner} {records records' : List Record} {fields : List String}
  {frame : AlignedFrame}

/-- What the latest record of each bucket says of a field. -/
def latestValues (a : Aligner) (records : List Record) (labels : List Label) (field : String) :
    List (Option Float) :=
  labels.map fun l => (a.latest? records l).bind (·.get field)

theorem LaysOn.latest?_eq {κ : Type} [LinearOrder κ] {s : Scale κ} (hs : a.LaysOn s) :
    s.latest? = a.latest? := by
  funext records label
  rw [latest?, hs.bucketOf?_eq, Scale.latest?]

/-- Every field of an alignment is a column of its own. -/
theorem column?_of_alignFields (h : a.alignFields records fields = .ok frame) {f : String}
    (hf : f ∈ fields) :
    frame.column? f = some (a.latestValues records frame.labels f) := by
  obtain ⟨κ, _, s, hs⟩ := exists_laysOn (axisFault?_of_alignFields h)
  rw [hs.alignFields_eq] at h
  obtain ⟨first, rest, w, hal⟩ := Scale.isAligned_of_align hs.lawful h
  have hcolumns := hal.columns_eq hs.lawful
  rw [hs.latest?_eq] at hcolumns
  exact AlignedFrame.column?_of_columns hcolumns hf

theorem isKnown_of_alignFields (h : a.alignFields records fields = .ok frame) :
    ∀ f ∈ fields, IsKnown records f := by
  obtain ⟨κ, _, s, hs⟩ := exists_laysOn (axisFault?_of_alignFields h)
  rw [hs.alignFields_eq] at h
  obtain ⟨first, rest, w, hal⟩ := Scale.isAligned_of_align hs.lawful h
  exact hal.known

/-- One field of records with the same times has the same labels. -/
theorem align_of_times (h : a.alignFields records fields = .ok frame)
    (htimes : records'.map (·.time) = records.map (·.time)) {f : String} (hf : IsKnown records' f) :
    a.align records' f = .ok ⟨frame.labels, a.latestValues records' frame.labels f⟩ := by
  obtain ⟨κ, _, s, hs⟩ := exists_laysOn (axisFault?_of_alignFields h)
  rw [hs.alignFields_eq] at h
  obtain ⟨first, rest, w, hal⟩ := Scale.isAligned_of_align hs.lawful h
  obtain ⟨frame', w', hok, hal', hlabels⟩ :=
    hal.exists_of_times hs.lawful htimes
      (show ∀ g ∈ [f], IsKnown records' g by simpa using hf)
  have hcolumns := hal'.columns_eq hs.lawful
  rw [hs.latest?_eq, hlabels] at hcolumns
  simp only [align, hs.alignFields_eq, hok, Except.ok_bind, hlabels, hcolumns]
  rfl

/-- A field of an alignment is aligned on its own with the same labels and the same values. -/
theorem align_of_alignFields (h : a.alignFields records fields = .ok frame) {f : String}
    (hf : f ∈ fields) :
    a.align records f = .ok ⟨frame.labels, a.latestValues records frame.labels f⟩ :=
  align_of_times h rfl (isKnown_of_alignFields h f hf)

/-- The bucket of a record is among the labels, so there is one at least. -/
theorem labels_ne_nil (h : a.alignFields records fields = .ok frame) : frame.labels ≠ [] := by
  obtain ⟨r, hr⟩ := List.exists_mem_of_ne_nil _ (ne_nil_of_alignFields h)
  obtain ⟨κ, _, s, hs⟩ := exists_laysOn (axisFault?_of_alignFields h)
  rw [hs.alignFields_eq] at h
  obtain ⟨first, rest, w, hal⟩ := Scale.isAligned_of_align hs.lawful h
  obtain ⟨l, hl, -⟩ := hal.exists_label hs.lawful r hr
  exact List.ne_nil_of_mem hl

/-- The labels of a calendar are instants. -/
theorem exists_instant_of_label {p : Period} (ha : a.axis = .calendar p)
    (h : a.alignFields records fields = .ok frame) : ∀ l ∈ frame.labels, ∃ t, l = .instant t := by
  have hs := laysOn_calendarScale ha (axisFault?_of_alignFields h)
  rw [hs.alignFields_eq] at h
  obtain ⟨first, rest, w, hal⟩ := Scale.isAligned_of_align hs.lawful h
  obtain ⟨buckets, hlabels⟩ := hal.exists_buckets
  intro l hl
  rw [hlabels] at hl
  obtain ⟨t, -, rfl⟩ := List.mem_map.mp hl
  exact ⟨t, rfl⟩

/-- The labels of a range are slots. -/
theorem exists_index_of_label {range : IndexRange} (ha : a.axis = .index range)
    (h : a.alignFields records fields = .ok frame) : ∀ l ∈ frame.labels, ∃ i, l = .index i := by
  have hfault := axisFault?_of_alignFields h
  simp only [axisFault?, ha] at hfault
  cases hlast : range.last? with
  | none => simp [hlast] at hfault
  | some last =>
    intro l hl
    rw [slots_of_alignFields ha hlast h] at hl
    obtain ⟨i, -, rfl⟩ := List.mem_map.mp hl
    exact ⟨i, rfl⟩

/-- The record at a position is the latest one in the bucket with a label. -/
structure IsLatest (a : Aligner) (records : List Record) (label : Label) (position : ℕ) : Prop where
  bucket : ∃ r, records[position]? = some r ∧ a.bucketOf? r.time = some label
  after : ∀ i r, position < i → records[i]? = some r → a.bucketOf? r.time ≠ some label

variable {label : Label} {position : ℕ}

/-- What is latest in a bucket is a matter of times. -/
theorem IsLatest.of_times (h : a.IsLatest records label position)
    (htimes : records'.map (·.time) = records.map (·.time)) :
    a.IsLatest records' label position := by
  have htime : ∀ i : ℕ, records'[i]?.map (·.time) = records[i]?.map (·.time) := by
    intro i
    rw [← List.getElem?_map, ← List.getElem?_map, htimes]
  obtain ⟨r, hr, hbucket⟩ := h.bucket
  refine ⟨?_, ?_⟩
  · have ht := htime position
    rw [hr] at ht
    obtain ⟨r', hr', heq⟩ := Option.map_eq_some_iff.mp ht
    exact ⟨r', hr', heq ▸ hbucket⟩
  · intro i r' hi hr'
    have ht := htime i
    rw [hr'] at ht
    obtain ⟨r'', hr'', heq⟩ := Option.map_eq_some_iff.mp ht.symm
    rw [← show r''.time = r'.time from heq]
    exact h.after i r'' hi hr''

theorem IsLatest.eq (h : a.IsLatest records label position) {position' : ℕ}
    (h' : a.IsLatest records label position') : position = position' := by
  obtain ⟨r, hr, hbucket⟩ := h.bucket
  obtain ⟨r', hr', hbucket'⟩ := h'.bucket
  rcases lt_trichotomy position position' with hlt | heq | hgt
  · exact absurd hbucket' (h.after position' r' hlt hr')
  · exact heq
  · exact absurd hbucket (h'.after position r hgt hr)

theorem latest?_eq_none_iff :
    a.latest? records label = none ↔ ∀ r ∈ records, a.bucketOf? r.time ≠ some label := by
  simp [latest?]

/-- The latest record of a bucket stands at the latest position. -/
theorem latest?_eq_some_iff {r : Record} :
    a.latest? records label = some r ↔
      ∃ position, a.IsLatest records label position ∧ records[position]? = some r := by
  have hfind : a.latest? records label =
      records.reverse.find? fun r => a.bucketOf? r.time = some label := by
    rw [latest?, ← List.head?_reverse, ← List.filter_reverse, List.head?_filter]
  rw [hfind, List.find?_eq_some_iff_append]
  constructor
  · rintro ⟨hbucket, later, earlier, heq, hlater⟩
    have hrecords : records = earlier.reverse ++ r :: later.reverse := by
      rw [← List.reverse_inj, heq]
      simp
    subst hrecords
    refine ⟨earlier.reverse.length, ⟨⟨r, by simp, by simpa using hbucket⟩, ?_⟩, by simp⟩
    intro i r' hi hr'
    rw [List.getElem?_append_right hi.le, List.getElem?_cons, if_neg (by omega)] at hr'
    simpa using hlater r' (by simpa using List.mem_of_getElem? hr')
  · rintro ⟨position, hlatest, hr⟩
    obtain ⟨r', hr', hbucket⟩ := hlatest.bucket
    rw [hr, Option.some.injEq] at hr'
    subst hr'
    obtain ⟨hlt, rfl⟩ := List.getElem?_eq_some_iff.mp hr
    have hsplit : records = records.take position ++
        records[position] :: records.drop (position + 1) := by
      rw [← List.drop_eq_getElem_cons hlt, List.take_append_drop]
    refine ⟨by simpa using hbucket, (records.drop (position + 1)).reverse,
      (records.take position).reverse, ?_, ?_⟩
    · conv_lhs => rw [hsplit]
      simp
    · intro r hr
      obtain ⟨i, hi⟩ := List.mem_iff_getElem?.mp (List.mem_reverse.mp hr)
      rw [List.getElem?_drop] at hi
      simpa using hlatest.after (position + 1 + i) r (by omega) hi

end Aligner

end Meteogram
