import Meteogram.Proofs.Align.Aligner

/-!
# Values of an aligned frame

Every column of a frame says, label by label, what the latest record of the bucket says of its
field. The buckets of records occur once among the labels, so that no value is lost or lands in
another bucket.
-/
namespace Meteogram

namespace Scale

variable {κ : Type} [LinearOrder κ] {s : Scale κ} {policy : DuplicatePolicy}
  {records : List Record} {fields : List String} {frame : AlignedFrame}

/-- The latest record in the bucket with a label. -/
def latest? (s : Scale κ) (records : List Record) (label : Label) : Option Record :=
  (records.filter fun r => s.labelOf? r.time = some label).getLast?

theorem labelOf?_eq_some (hs : s.Lawful) {time : RecordTime} {k : κ} :
    s.labelOf? time = some (s.label k) ↔ s.bucket? time = some k := by
  rw [labelOf?, Option.map_eq_some_iff]
  constructor
  · rintro ⟨k', hk', heq⟩
    rwa [hs.label_injective heq] at hk'
  · exact fun h => ⟨k, h, rfl⟩

theorem filter_zip {keys : List κ} (h : records.map (fun r => s.bucket? r.time) = keys.map some)
    (k : κ) :
    ((keys.zip records).filter (·.1 = k)).map (·.2) =
      records.filter fun r => s.bucket? r.time = some k := by
  induction keys generalizing records with
  | nil =>
    rw [List.map_nil, List.map_eq_nil_iff] at h
    rw [h]
    rfl
  | cons k' keys ih =>
    cases records with
    | nil => cases h
    | cons r rs =>
      rw [List.map_cons, List.map_cons, List.cons.injEq] at h
      simp only [List.zip_cons_cons, List.filter_cons, h.1, Option.some.injEq]
      split_ifs
      · rw [List.map_cons, ih h.2]
      · exact ih h.2

/-- What the walk finds in a bucket is what the records say of its label. -/
theorem latestIn_zip (hs : s.Lawful) {keys : List κ}
    (h : records.map (fun r => s.bucket? r.time) = keys.map some) (k : κ) :
    latestIn (keys.zip records) k = s.latest? records (s.label k) := by
  simp only [latestIn, latest?, labelOf?_eq_some hs]
  rw [← filter_zip h, List.getLast?_map]

variable {first : κ} {rest : List κ} {w : Walk κ}

theorem IsAligned.columns_eq (hs : s.Lawful)
    (h : s.IsAligned policy records fields frame first rest w) :
    frame.columns = fields.map fun f =>
      (f, frame.labels.map fun l => (s.latest? records l).bind (·.get f)) := by
  rw [h.frame_eq]
  simp only [AlignedFrame.ofSlots, List.map_map]
  apply List.map_congr_left
  intro f _
  congr 1
  apply List.map_congr_left
  intro slot hslot
  rw [(h.laidOut hs).record_eq slot hslot, latestIn_zip hs h.keys_eq]
  rfl

theorem IsAligned.nodup_labels (hs : s.Lawful)
    (h : s.IsAligned policy records fields frame first rest w) : frame.labels.Nodup := by
  have hbuckets : List.Nodup _ := (h.laidOut hs).increasing.imp LT.lt.ne
  have hlabels := hbuckets.map fun a b => hs.label_injective (a := a) (b := b)
  rw [List.map_map] at hlabels
  rw [h.frame_eq]
  exact hlabels

/-- The bucket of a record is on the axis. -/
theorem IsAligned.exists_label (hs : s.Lawful)
    (h : s.IsAligned policy records fields frame first rest w) :
    ∀ r ∈ records, ∃ l ∈ frame.labels, s.labelOf? r.time = some l := by
  intro r hr
  have hmem : s.bucket? r.time ∈ (first :: rest).map some := h.keys_eq ▸ List.mem_map_of_mem hr
  obtain ⟨k, hk, hkey⟩ := List.mem_map.mp hmem
  rw [← map_fst_zip h.keys_eq] at hk
  obtain ⟨e, he, rfl⟩ := List.mem_map.mp hk
  obtain ⟨slot, hslot, hbucket⟩ := List.mem_map.mp ((h.laidOut hs).mem e he)
  refine ⟨s.label slot.bucket, ?_, by rw [labelOf?_eq_some hs, ← hkey, hbucket]⟩
  rw [h.frame_eq]
  exact List.mem_map_of_mem hslot

end Scale

namespace Aligner

/-- The latest record in the bucket with a label. -/
def latest? (a : Aligner) (records : List Record) (label : Label) : Option Record :=
  (records.filter fun r => a.bucketOf? r.time = some label).getLast?

/-- One column for each field, in the order asked for, as long as the labels. The bucket of each
record occurs once among these, and a value is what the latest record of the bucket says. -/
theorem columns_of_alignFields {a : Aligner} {records : List Record} {fields : List String}
    {frame : AlignedFrame} (h : a.alignFields records fields = .ok frame) :
    frame.columns = fields.map (fun f =>
      (f, frame.labels.map fun l => (a.latest? records l).bind (·.get f))) ∧
    (∀ c ∈ frame.columns, c.2.length = frame.labels.length) ∧
    ∀ r ∈ records, ∃ l, a.bucketOf? r.time = some l ∧ frame.labels.count l = 1 := by
  obtain ⟨κ, _, s, hs⟩ := exists_laysOn (axisFault?_of_alignFields h)
  rw [hs.alignFields_eq] at h
  obtain ⟨first, rest, w, ha⟩ := Scale.isAligned_of_align hs.lawful h
  have hcolumns := ha.columns_eq hs.lawful
  have hlatest : a.latest? records = s.latest? records := by
    funext label
    rw [latest?, hs.bucketOf?_eq, Scale.latest?]
  refine ⟨hlatest ▸ hcolumns, ?_, ?_⟩
  · intro c hc
    rw [hcolumns] at hc
    obtain ⟨f, -, rfl⟩ := List.mem_map.mp hc
    exact List.length_map _
  · intro r hr
    obtain ⟨l, hl, hlabel⟩ := ha.exists_label hs.lawful r hr
    exact ⟨l, by rw [hs.bucketOf?_eq, hlabel],
      List.count_eq_one_of_mem (ha.nodup_labels hs.lawful) hl⟩

/-- Three days; the two records of the first one say 1 and then nothing. -/
theorem columns_of_three_days :
    let a : Aligner := ⟨.calendar .day, default, none, none⟩
    let records := [(Record.new (.number 3600)).set "rain" (some 1),
      (Record.new (.number 7200)).set "rain" none,
      (Record.new (.number 180000)).set "rain" (some 2)]
    ∃ frame, a.alignFields records ["rain"] = .ok frame ∧
      frame.columns = [("rain", [none, none, some 2])] ∧
      ∀ r ∈ records, ∃ l, a.bucketOf? r.time = some l ∧ frame.labels.count l = 1 := by
  intro a records
  obtain ⟨frame, h⟩ : ∃ frame, a.alignFields records ["rain"] = .ok frame := ⟨_, rfl⟩
  obtain ⟨hcolumns, -, hcount⟩ := columns_of_alignFields h
  refine ⟨frame, h, ?_, hcount⟩
  rw [hcolumns]
  cases h
  rfl

end Aligner

end Meteogram
