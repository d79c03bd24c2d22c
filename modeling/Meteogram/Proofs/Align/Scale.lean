import Meteogram.Align.Frame
import Meteogram.Proofs.Align.Walk

/-!
# Alignments on a scale

An alignment checks that there are records, that every field is carried by one of them and that
every record has a bucket, and then walks over them. `Scale.IsAligned` says how far one has come
that succeeds; the others end at one of these stages.
-/
namespace Meteogram

/-- Whether a field is carried by some record. -/
def IsKnown (records : List Record) (field : String) : Prop := ∃ r ∈ records, r.has field = true

namespace Scale

variable {κ : Type} [LinearOrder κ] {s : Scale κ} {policy : DuplicatePolicy}
  {records : List Record} {fields : List String}

/-- The bucket of a time on a scale, if it has one. -/
def bucket? (s : Scale κ) (time : RecordTime) : Option κ := (s.bucketOf 0 time).toOption

/-- The label of the bucket of a time. -/
def labelOf? (s : Scale κ) (time : RecordTime) : Option Label := (s.bucket? time).map s.label

theorem bucketOf_eq_ok (hs : s.Lawful) {position : ℕ} {time : RecordTime} {k : κ} :
    s.bucketOf position time = .ok k ↔ s.bucket? time = some k := by
  have hzero : s.bucket? time = some k ↔ s.bucketOf 0 time = .ok k := by
    unfold bucket?
    cases s.bucketOf 0 time <;> simp [Except.toOption]
  rw [hzero]
  exact ⟨hs.bucketOf_ok _ _ _ _, hs.bucketOf_ok _ _ _ _⟩

theorem bucketsFrom_eq_ok (hs : s.Lawful) {position : ℕ} {keys : List κ} :
    s.bucketsFrom position records = .ok keys ↔
      records.map (fun r => s.bucket? r.time) = keys.map some := by
  induction records generalizing position keys with
  | nil => cases keys <;> simp [bucketsFrom]
  | cons r rs ih =>
    simp only [bucketsFrom, Except.bind_eq_ok, bucketOf_eq_ok hs, ih]
    cases keys with
    | nil => simp [pure, Except.pure]
    | cons k ks => simp [pure, Except.pure]

/-- The first record without a bucket decides. -/
theorem bucketsFrom_eq_error (hs : s.Lawful) {position i : ℕ} {r : Record}
    (hi : records[i]? = some r) (hbefore : ∀ r' ∈ records.take i, (s.bucket? r'.time).isSome = true)
    {e : AlignError} (he : s.bucketOf (position + i) r.time = .error e) :
    s.bucketsFrom position records = .error e := by
  induction records generalizing position i with
  | nil => cases hi
  | cons r₀ rs ih =>
    cases i with
    | zero =>
      cases hi
      simp only [bucketsFrom]
      rw [show s.bucketOf position r.time = .error e from he]
      rfl
    | succ i =>
      rw [List.take_succ_cons, List.forall_mem_cons] at hbefore
      obtain ⟨k, hk⟩ : ∃ k, s.bucket? r₀.time = some k := Option.isSome_iff_exists.mp hbefore.1
      have hrest : s.bucketsFrom (position + 1) rs = .error e := by
        apply ih hi hbefore.2
        rw [Nat.add_right_comm, Nat.add_assoc]
        exact he
      simp only [bucketsFrom, (bucketOf_eq_ok hs).mpr hk, hrest, Except.ok_bind, Except.error_bind]

omit [LinearOrder κ] in
theorem exists_keys (h : ∀ r ∈ records, (s.bucket? r.time).isSome = true) :
    ∃ keys : List κ, records.map (fun r => s.bucket? r.time) = keys.map some := by
  induction records with
  | nil => exact ⟨[], rfl⟩
  | cons r rs ih =>
    obtain ⟨keys, hkeys⟩ := ih fun r' hr' => h r' (List.mem_cons_of_mem r hr')
    obtain ⟨k, hk⟩ := Option.isSome_iff_exists.mp (h r List.mem_cons_self)
    exact ⟨k :: keys, by simp [hk, hkeys]⟩

omit [LinearOrder κ] in
theorem map_labelOf? {keys : List κ}
    (h : records.map (fun r => s.bucket? r.time) = keys.map some) :
    records.map (fun r => s.labelOf? r.time) = (keys.map s.label).map some := by
  have hmap := congrArg (List.map (Option.map s.label)) h
  rw [List.map_map, List.map_map] at hmap
  rw [List.map_map]
  exact hmap

omit [LinearOrder κ] in
theorem align_nil : s.align policy [] fields = .error .emptyInput := rfl

omit [LinearOrder κ] in
theorem align_of_unknown (hr : records ≠ []) {f : String}
    (hf : fields.find? (fun f => !records.any (·.has f)) = some f) :
    s.align policy records fields = .error (.unknownField f) := by
  have hempty : records.isEmpty = false := by simpa using hr
  unfold align
  simp only [hempty, hf]
  rfl

omit [LinearOrder κ] in
/-- What is left of an alignment once there are records and every field is known. -/
theorem align_of_known (hr : records ≠ [])
    (hf : fields.find? (fun f => !records.any (·.has f)) = none) :
    s.align policy records fields = (do
      match ← s.bucketsFrom 0 records with
      | [] => .error .emptyInput
      | first :: rest =>
        let (start, last) := s.bounds first (rest.getLastD first)
        let walk ← s.layFrom policy 0 (.fromStart start) ((first :: rest).zip records)
        .ok (.ofSlots s.label fields (s.finish walk last))) := by
  have hempty : records.isEmpty = false := by simpa using hr
  unfold align
  simp only [hempty, hf]
  rw [if_neg Bool.false_ne_true]
  congr
  funext buckets
  cases buckets <;> rfl

omit [LinearOrder κ] in
theorem map_fst_zip {keys : List κ}
    (h : records.map (fun r => s.bucket? r.time) = keys.map some) :
    (keys.zip records).map (·.1) = keys := by
  have hlen := congrArg List.length h
  simp only [List.length_map] at hlen
  exact List.map_fst_zip hlen.ge

/-- How far a successful alignment has come: every field is known, every record has its bucket, the
buckets follow one another, and the walk that has laid them is brought to the end of the axis. -/
structure IsAligned (s : Scale κ) (policy : DuplicatePolicy) (records : List Record)
    (fields : List String) (frame : AlignedFrame) (first : κ) (rest : List κ) (w : Walk κ) :
    Prop where
  known : ∀ f ∈ fields, IsKnown records f
  keys_eq : records.map (fun r => s.bucket? r.time) = (first :: rest).map some
  follows : (first :: rest).IsChain policy.Follows
  walk_eq : s.layFrom policy 0 (.fromStart (s.bounds first (rest.getLastD first)).1)
    ((first :: rest).zip records) = .ok w
  covers : w.Covers s (s.bounds first (rest.getLastD first)).1 ((first :: rest).zip records)
  frame_eq : frame = .ofSlots s.label fields (s.finish w (s.bounds first (rest.getLastD first)).2)

theorem find?_unknown_eq_none :
    fields.find? (fun f => !records.any (·.has f)) = none ↔
      ∀ f ∈ fields, IsKnown records f := by
  simp [IsKnown]

variable {frame : AlignedFrame} {first : κ} {rest : List κ} {w : Walk κ}

/-- An alignment succeeds if its records can be laid one after another. -/
theorem align_of_follows (hs : s.Lawful) (hf : ∀ f ∈ fields, IsKnown records f)
    (hkeys : records.map (fun r => s.bucket? r.time) = (first :: rest).map some)
    (hchain : (first :: rest).IsChain policy.Follows) :
    ∃ frame w, s.align policy records fields = .ok frame ∧
      s.IsAligned policy records fields frame first rest w := by
  have hr : records ≠ [] := by rintro rfl; cases hkeys
  rw [← map_fst_zip hkeys] at hchain
  obtain ⟨w, hw, hc⟩ := layFrom_of_isChain hs (s.bounds first (rest.getLastD first)).1 hchain
  rw [map_fst_zip hkeys] at hchain
  refine ⟨_, w, ?_, hf, hkeys, hchain, hw, hc, rfl⟩
  rw [align_of_known hr (find?_unknown_eq_none.mpr hf), (bucketsFrom_eq_ok hs).mpr hkeys]
  simp only [Except.ok_bind, hw]

theorem isAligned_of_align (hs : s.Lawful) (h : s.align policy records fields = .ok frame) :
    ∃ first rest w, s.IsAligned policy records fields frame first rest w := by
  have hr : records ≠ [] := by rintro rfl; cases h
  cases hf : fields.find? (fun f => !records.any (·.has f)) with
  | some f =>
    rw [align_of_unknown hr hf] at h
    cases h
  | none =>
    rw [align_of_known hr hf] at h
    obtain ⟨keys, hkeys, h⟩ := Except.bind_eq_ok.mp h
    rw [bucketsFrom_eq_ok hs] at hkeys
    cases keys with
    | nil => cases h
    | cons first rest =>
      obtain ⟨w, hw, h⟩ := Except.bind_eq_ok.mp h
      have hzip := map_fst_zip hkeys
      have hchain : (first :: rest).IsChain policy.Follows := by
        by_contra hnot
        rw [← hzip] at hnot
        obtain ⟨i, p, k, hp, hk, hnf, hbefore⟩ := exists_first_not_follows hnot
        obtain ⟨e, he⟩ := exists_misplaced hs hnf (i + 1)
        rw [layFrom_of_misplaced hs _ hp hk hbefore he] at hw
        cases hw
      rw [← hzip] at hchain
      obtain ⟨w', hw', hc⟩ := layFrom_of_isChain hs (s.bounds first (rest.getLastD first)).1 hchain
      rw [hzip] at hchain
      cases hw'.symm.trans hw
      exact ⟨first, rest, w, find?_unknown_eq_none.mp hf, hkeys, hchain, hw, hc,
        (Except.ok.inj h).symm⟩

theorem IsAligned.sorted (h : s.IsAligned policy records fields frame first rest w) :
    (first :: rest).Pairwise (· ≤ ·) := by
  rw [← List.isChain_iff_pairwise]
  exact h.follows.imp fun _ _ => DuplicatePolicy.Follows.le

theorem IsAligned.first_le (h : s.IsAligned policy records fields frame first rest w) :
    ∀ k ∈ first :: rest, first ≤ k :=
  fun _ hk => h.sorted.rel_head hk

theorem IsAligned.le_last (h : s.IsAligned policy records fields frame first rest w) :
    ∀ k ∈ first :: rest, k ≤ rest.getLastD first := by
  intro k hk
  rw [← List.getLast_eq_getLastD (List.cons_ne_nil first rest)]
  exact h.sorted.rel_getLast hk

theorem IsAligned.laidOut (hs : s.Lawful)
    (h : s.IsAligned policy records fields frame first rest w) :
    LaidOut ((first :: rest).zip records)
      (s.finish w (s.bounds first (rest.getLastD first)).2) := h.covers.laidOut hs _

/-- The alignment fails at the first record whose bucket does not follow. -/
theorem align_of_misplaced (hs : s.Lawful) (hf : ∀ f ∈ fields, IsKnown records f)
    {keys : List κ} (hkeys : records.map (fun r => s.bucket? r.time) = keys.map some) {i : ℕ}
    {p k : κ} (hp : keys[i]? = some p) (hk : keys[i + 1]? = some k)
    (hbefore : (keys.take (i + 1)).IsChain policy.Follows)
    {e : AlignError} (h : Misplaced policy (i + 1) (s.label p) (s.label k) e) :
    s.align policy records fields = .error e := by
  have hzip := map_fst_zip hkeys
  cases keys with
  | nil => cases hp
  | cons first rest =>
    have hr : records ≠ [] := by rintro rfl; cases hkeys
    rw [← hzip] at hp hk hbefore
    have hlay := layFrom_of_misplaced hs (s.bounds first (rest.getLastD first)).1 hp hk hbefore h
    rw [align_of_known hr (find?_unknown_eq_none.mpr hf), (bucketsFrom_eq_ok hs).mpr hkeys]
    simp only [Except.ok_bind, hlay, Except.error_bind]

theorem align_of_badTime (hs : s.Lawful) (hf : ∀ f ∈ fields, IsKnown records f) {i : ℕ}
    {r : Record} (hi : records[i]? = some r)
    (hbefore : ∀ r' ∈ records.take i, (s.bucket? r'.time).isSome = true) {e : AlignError}
    (he : s.bucketOf i r.time = .error e) : s.align policy records fields = .error e := by
  have hr : records ≠ [] := by rintro rfl; cases hi
  have hb : s.bucketsFrom 0 records = .error e :=
    bucketsFrom_eq_error hs hi hbefore (by rwa [Nat.zero_add])
  rw [align_of_known hr (find?_unknown_eq_none.mpr hf), hb]
  rfl

end Scale

end Meteogram
