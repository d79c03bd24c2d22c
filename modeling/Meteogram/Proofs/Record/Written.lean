import Meteogram.Record
import Meteogram.Proofs.Calendar.Written
import Meteogram.Proofs.Json.Decode
import Meteogram.Proofs.Json.Number

/-!
# Written records

A record is written so that it is read as itself, but for the fraction of a second in its time: its
time as a number or a timestamp, and each of its fields under its name, with `null` where the field
has no value. A field that is called `time` would be taken for the time, and a number that is not
finite would be lost. A record that was read has neither.
-/
namespace Meteogram

open Json

/-! ### Times -/

namespace RecordTime

/-- The time as it is written: an instant without the fraction of its second. -/
def withoutFraction : RecordTime → RecordTime
  | number n => number n
  | instant t => instant t.withoutFraction

/-- The fraction of a second that is not written. -/
def fraction : RecordTime → ℕ
  | number _ => 0
  | instant t => t.fraction

theorem withoutFraction_eq_self_iff {t : RecordTime} : t.withoutFraction = t ↔ t.fraction = 0 := by
  cases t with
  | number n => simp [withoutFraction, fraction]
  | instant t => simp [withoutFraction, fraction, Instant.withoutFraction_eq_self_iff]

theorem toJson_withoutFraction (t : RecordTime) : t.withoutFraction.toJson = t.toJson := by
  cases t with
  | number n => rfl
  | instant t => exact congrArg Value.text t.iso_withoutFraction

theorem decode_null (depth : ℕ) (t : RecordTime) : decode depth .null ≠ .ok t := by
  rintro ⟨⟩

theorem rereads_toJson (depth : ℕ) (t : RecordTime) :
    Rereads decode depth t.toJson t.withoutFraction := by
  cases t with
  | instant t =>
    refine ⟨.text (some t.iso), reads_text t.iso, ?_⟩
    simp only [decode, Tree.keep, ofKept, Tree.textOf, Except.ok_bind, Instant.read?_iso]
    rfl
  | number n =>
    have hge : -0x8000000000000000 ≤ n.toInt := n.le_toInt
    have hlt : n.toInt < 0x8000000000000000 := n.toInt_lt
    refine ⟨.number (.ofInt n.toInt), reads_integer n.toInt, ?_⟩
    rcases lt_or_ge n.toInt 0 with hneg | hpos
    · simp only [decode, Tree.keep, ofKept, Tree.numberOf, Literal.number?_ofInt_of_neg hneg hge,
        Except.ok_bind, Int64.ofInt_toInt]
      rfl
    · have hofNat : Int64.ofNat n.toInt.toNat = n := by
        rw [← Int64.ofInt_eq_ofNat, Int.toNat_of_nonneg hpos, Int64.ofInt_toInt]
      simp only [decode, Tree.keep, ofKept, Tree.numberOf,
        Literal.number?_ofInt_of_nonneg hpos (by omega), Except.ok_bind, hofNat]
      rw [if_pos (by omega)]
      rfl

end RecordTime

/-! ### Fields -/

namespace Fields

variable {fields : Fields} {name : String} {value : Option Float}

theorem eq_iff {a b : Fields} : a = b ↔ a.entries = b.entries := by
  rw [← Fields.mk.injEq]

/-- A name above all others comes last. -/
theorem insertInto_of_lt {entries : List (String × Option Float)} (h : ∀ e ∈ entries, e.1 < name) :
    insertInto name value entries = entries ++ [(name, value)] := by
  induction entries with
  | nil => rfl
  | cons e rest ih =>
    rw [List.forall_mem_cons] at h
    have hne : name ≠ e.1 := (String.ne_of_lt h.1).symm
    rw [insertInto, if_neg (String.lt_asymm h.1), if_neg hne, ih h.2, List.cons_append]

/-- Entries that are set in the order of their names stand in this order. -/
theorem entries_foldl_set {entries : List (String × Option Float)}
    (h : (fields.entries ++ entries).Pairwise fun a b => a.1 < b.1) :
    (entries.foldl (fun f e => f.set e.1 e.2) fields).entries = fields.entries ++ entries := by
  induction entries generalizing fields with
  | nil => exact (List.append_nil _).symm
  | cons e rest ih =>
    have hbefore : ∀ a ∈ fields.entries, a.1 < e.1 := fun a ha =>
      (List.pairwise_append.mp h).2.2 a ha e List.mem_cons_self
    have hset : (fields.set e.1 e.2).entries = fields.entries ++ [e] := insertInto_of_lt hbefore
    rw [List.foldl_cons, ih (by rwa [hset, List.append_assoc]), hset, List.append_assoc]
    rfl

theorem get_eq_some_iff {x : Float} :
    fields.get name = some x ↔ (name, some x) ∈ fields.entries := by
  rw [get, Option.bind_eq_some_iff]
  have hsorted := fields.sorted
  generalize fields.entries = entries at hsorted
  induction entries with
  | nil => simp
  | cons e rest ih =>
    rw [List.pairwise_cons] at hsorted
    by_cases hname : e.1 = name
    · have hrest : (name, some x) ∉ rest := fun hmem =>
        String.ne_of_lt (hsorted.1 _ hmem) hname
      simp [hname, hrest, Prod.ext_iff, eq_comm]
    · have hne : (name, some x) ≠ e := fun heq => hname (congrArg Prod.fst heq.symm)
      rw [List.find?_cons_of_neg (by simpa using hname), List.mem_cons, or_iff_right hne]
      exact ih hsorted.2

end Fields

/-! ### Records -/

namespace Record

variable {r : Record} {depth : ℕ}

/-- The record as it is written: with its time as it is written. -/
def withoutFraction (r : Record) : Record := { r with time := r.time.withoutFraction }

theorem toJson_withoutFraction (r : Record) : r.withoutFraction.toJson = r.toJson := by
  simp only [toJson, withoutFraction, RecordTime.toJson_withoutFraction]

/-- A record whose text says all its fields: none is called `time`, and all numbers are finite. -/
structure IsWritable (r : Record) : Prop where
  ne_time : ∀ e ∈ r.fields.entries, e.1 ≠ "time"
  isFinite : ∀ e ∈ r.fields.entries, ∀ x, e.2 = some x → x.isFinite = true

theorem exists_reads_ofFloat? {value : Option Float}
    (h : ∀ x, value = some x → x.isFinite = true ∧ ReadsBack x) :
    ∃ t, Reads (Value.ofFloat? value).chars t ∧ (∀ depth, t.keep depth = .ok ()) ∧
      fieldOfKept t = .ok value := by
  cases value with
  | none => exact ⟨.null, reads_null, fun _ => rfl, rfl⟩
  | some x =>
    obtain ⟨hfinite, l, hchars, hnumber⟩ := h x rfl
    have hof : Tree.numberOf l = .ok (.float x) := by rw [Tree.numberOf, hnumber]
    have htext : (Value.ofFloat? (some x)).chars = floatChars x := by
      rw [Value.ofFloat?, Value.chars, if_pos hfinite]
    refine ⟨.number l, ?_, fun depth => ?_, ?_⟩
    · rw [htext]
      exact reads_number hchars
    · rw [Tree.keep, hof]
      rfl
    · rw [fieldOfKept, hof]
      rfl

/-- Members under other names than the time are kept. -/
theorem decodeMembers_map (time : Option RecordTime) (kept : List (String × Tree))
    {ms : List (String × Tree)} (hkeep : ∀ m ∈ ms, m.1 ≠ "time" ∧ m.2.keep depth = .ok ()) :
    decodeMembers depth time kept (ms.map fun m => (some m.1, m.2)) =
      .ok (time, kept.reverse ++ ms) := by
  induction ms generalizing kept with
  | nil =>
    rw [List.append_nil]
    rfl
  | cons m ms ih =>
    rw [List.forall_mem_cons] at hkeep
    simp only [List.map_cons, decodeMembers, Tree.textOf, Except.ok_bind, if_neg hkeep.1.1,
      hkeep.1.2, ih _ hkeep.2, List.reverse_cons, List.append_assoc, List.singleton_append]

theorem setKept_map {fields : Fields} {entries : List (String × Option Float)}
    {tree : String × Option Float → Tree} (h : ∀ e ∈ entries, fieldOfKept (tree e) = .ok e.2) :
    setKept fields (entries.map fun e => (e.1, tree e)) =
      .ok (entries.foldl (fun f e => f.set e.1 e.2) fields) := by
  induction entries generalizing fields with
  | nil => rfl
  | cons e entries ih =>
    rw [List.forall_mem_cons] at h
    rw [List.map_cons, setKept, h.1, Except.ok_bind, ih h.2, List.foldl_cons]

/-- A record that was written is read as it was written. -/
theorem rereads_toJson (hdepth : 1 < depth) (h : r.IsWritable)
    (hback : ∀ e ∈ r.fields.entries, ∀ x, e.2 = some x → ReadsBack x) :
    Rereads decode depth r.toJson r.withoutFraction := by
  have htrees : ∀ e ∈ r.fields.entries, ∃ t, Reads (Value.ofFloat? e.2).chars t ∧
      (∀ depth, t.keep depth = .ok ()) ∧ fieldOfKept t = .ok e.2 := fun e he =>
    exists_reads_ofFloat? fun x hx => ⟨h.isFinite e he x hx, hback e he x hx⟩
  have : Nonempty Tree := ⟨.null⟩
  choose! tree hreads hkeep hfield using htrees
  obtain ⟨time, hread, htime⟩ := RecordTime.rereads_toJson (depth - 1) r.time
  refine ⟨.object ((some "time", time) :: r.fields.entries.map fun e => (some e.1, tree e)) none,
    reads_object (.cons ⟨rfl, hread⟩ ?_), ?_⟩
  · rw [List.forall₂_map_left_iff, List.forall₂_map_right_iff, List.forall₂_same]
    exact fun e he => ⟨rfl, hreads e he⟩
  · have hmembers : decodeMembers (depth - 1) none []
        ((some "time", time) :: r.fields.entries.map fun e => (some e.1, tree e)) =
          .ok (some r.withoutFraction.time, r.fields.entries.map fun e => (e.1, tree e)) := by
      have hkept : ∀ m ∈ r.fields.entries.map fun e => (e.1, tree e),
          m.1 ≠ "time" ∧ m.2.keep (depth - 1) = .ok () := by
        rw [List.forall_mem_map]
        exact fun e he => ⟨h.ne_time e he, hkeep e he _⟩
      have hrest := decodeMembers_map (some r.withoutFraction.time) [] hkept
      rw [List.map_map] at hrest
      simp only [decodeMembers, Tree.textOf, Except.ok_bind, if_true, htime]
      exact hrest
    have hset : setKept .empty (r.fields.entries.map fun e => (e.1, tree e)) = .ok r.fields := by
      rw [setKept_map hfield, Except.ok.injEq, Fields.eq_iff]
      exact Fields.entries_foldl_set r.fields.sorted
    simp only [decode, Tree.enter, if_neg (not_le.mpr hdepth), hmembers, hset, Except.ok_bind]
    rfl

/-! ### Records that were read -/

theorem isFinite_of_fieldOfKept {v : Tree} {x : Float} (h : fieldOfKept v = .ok (some x)) :
    x.isFinite = true := by
  cases v with
  | null => cases h
  | number l =>
    rw [fieldOfKept, Except.bind_eq_ok] at h
    obtain ⟨n, hnumber, hx⟩ := h
    cases n with
    | natural n =>
      rw [Except.ok.injEq, Option.some.injEq] at hx
      rw [← hx]
      exact Double.isFinite_toFloat _
    | negative n =>
      rw [Except.ok.injEq, Option.some.injEq] at hx
      rw [← hx]
      exact Double.isFinite_neg (Double.isFinite_toFloat _)
    | float y =>
      rw [Except.ok.injEq, Option.some.injEq] at hx
      rw [← hx]
      exact Literal.isFinite_of_number? (Tree.numberOf_eq_ok.mp hnumber)
  | _ => exact (Tree.mismatch_ne_ok "f64" _ (some x) h).elim

/-- The member `time` is not kept for the fields. -/
theorem ne_time_of_decodeMembers {time time' : Option RecordTime}
    {kept kept' : List (String × Tree)} {ms : List (Quoted × Tree)}
    (h : decodeMembers depth time kept ms = .ok (time', kept'))
    (hkept : ∀ k ∈ kept, k.1 ≠ "time") : ∀ k ∈ kept', k.1 ≠ "time" := by
  induction ms generalizing time kept with
  | nil =>
    cases h
    exact fun k hk => hkept k (List.mem_reverse.mp hk)
  | cons m ms ih =>
    rw [decodeMembers, Except.bind_eq_ok] at h
    obtain ⟨key, -, h⟩ := h
    split_ifs at h with htime hsome
    · cases h
    · simp only [Except.bind_eq_ok] at h
      obtain ⟨t, -, h⟩ := h
      exact ih h hkept
    · rw [Except.bind_eq_ok] at h
      obtain ⟨-, -, h⟩ := h
      exact ih h (List.forall_mem_cons.mpr ⟨htime, hkept⟩)

theorem mem_of_setKept {fields fields' : Fields} {kept : List (String × Tree)}
    (h : setKept fields kept = .ok fields') {e : String × Option Float}
    (he : e ∈ fields'.entries) :
    e ∈ fields.entries ∨ ∃ k ∈ kept, k.1 = e.1 ∧ fieldOfKept k.2 = .ok e.2 := by
  induction kept generalizing fields with
  | nil =>
    cases h
    exact .inl he
  | cons k kept ih =>
    rw [setKept, Except.bind_eq_ok] at h
    obtain ⟨value, hvalue, h⟩ := h
    rcases ih h with hset | ⟨k', hk', hname⟩
    · rcases Fields.mem_insertInto hset with rfl | hold
      · exact .inr ⟨k, List.mem_cons_self, rfl, hvalue⟩
      · exact .inl hold
    · exact .inr ⟨k', List.mem_cons_of_mem k hk', hname⟩

theorem isWritable_of_decode {t : Tree} (h : decode depth t = .ok r) : r.IsWritable := by
  cases t with
  | object ms ending =>
    simp only [decode, Except.bind_eq_ok] at h
    obtain ⟨inner, -, ⟨given, kept⟩, hmembers, -, -, time, -, fields, hset, h⟩ := h
    cases h
    have hkept := ne_time_of_decodeMembers hmembers (List.forall_mem_nil _)
    constructor
    · intro e he
      rcases mem_of_setKept hset he with hempty | ⟨k, hk, hname, -⟩
      · cases hempty
      · rw [← hname]
        exact hkept k hk
    · intro e he x hx
      rcases mem_of_setKept hset he with hempty | ⟨k, -, -, hvalue⟩
      · cases hempty
      · rw [hx] at hvalue
        exact isFinite_of_fieldOfKept hvalue
  | _ => exact (Tree.mismatch_ne_ok "struct Record" _ r h).elim

end Record

end Meteogram
