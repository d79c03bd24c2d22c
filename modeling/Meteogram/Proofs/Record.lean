import Mathlib.Tactic
import Meteogram.Record

/-!
# Fields that are set

Setting a field changes what a record says of it, and nothing else of the record. As a record is
known by its time and by what it says of each field, fields may be set in any order.
-/
namespace Meteogram

namespace Fields

theorem find?_insertInto (entries : List (String × Option Float)) (name : String)
    (value : Option Float) (other : String) :
    (insertInto name value entries).find? (·.1 == other) =
      if other = name then some (name, value) else entries.find? (·.1 == other) := by
  induction entries with
  | nil =>
    by_cases h : other = name
    · simp [insertInto, h]
    · simp [insertInto, h, Ne.symm h]
  | cons e rest ih =>
    simp only [insertInto]
    by_cases h : other = name
    · subst h
      by_cases heq : other = e.1
      · simp [heq]
      · simp only [if_neg heq]
        split_ifs with hlt
        · simp
        · simp [Ne.symm heq, ih]
    · split_ifs with hlt heq
      · simp [Ne.symm h]
      · simp [Ne.symm h, ← heq]
      · simp only [List.find?_cons, ih, if_neg h]

@[simp] theorem get_set (fields : Fields) (name : String) (value : Option Float) (other : String) :
    (fields.set name value).get other = if other = name then value else fields.get other := by
  simp only [get, set, find?_insertInto]
  split_ifs <;> simp

theorem has_eq_isSome_find? (fields : Fields) (name : String) :
    fields.has name = (fields.entries.find? (·.1 == name)).isSome := by
  rw [has, Bool.eq_iff_iff]
  simp

@[simp] theorem has_set (fields : Fields) (name : String) (value : Option Float) (other : String) :
    (fields.set name value).has other = (other == name || fields.has other) := by
  simp only [has_eq_isSome_find?, set, find?_insertInto]
  split_ifs with h <;> simp [h]

variable {a b : Fields}

theorem find?_eq_some_iff {name : String} {e : String × Option Float} :
    a.entries.find? (·.1 == name) = some e ↔ e ∈ a.entries ∧ e.1 = name := by
  constructor
  · intro h
    exact ⟨List.mem_of_find?_eq_some h, by simpa using List.find?_some h⟩
  · rintro ⟨hmem, rfl⟩
    obtain ⟨before, after, heq⟩ := List.append_of_mem hmem
    rw [List.find?_eq_some_iff_append]
    refine ⟨beq_self_eq_true e.1, before, after, heq, fun e' he' => ?_⟩
    have hlt : e'.1 < e.1 :=
      (List.pairwise_append.mp (heq ▸ a.sorted)).2.2 e' he' e List.mem_cons_self
    simpa using String.ne_of_lt hlt

theorem mem_entries_iff {e : String × Option Float} :
    e ∈ a.entries ↔ a.has e.1 = true ∧ a.get e.1 = e.2 := by
  rw [has_eq_isSome_find?, get]
  constructor
  · intro h
    simp [find?_eq_some_iff.mpr ⟨h, rfl⟩]
  · rintro ⟨hhas, hget⟩
    obtain ⟨e', he'⟩ := Option.isSome_iff_exists.mp hhas
    obtain ⟨hmem, hname⟩ := find?_eq_some_iff.mp he'
    rw [he', Option.bind_some] at hget
    exact Prod.ext hname hget ▸ hmem

theorem get_of_has_eq_false {name : String} (h : a.has name = false) : a.get name = none := by
  rw [has_eq_isSome_find?, Option.isSome_eq_false_iff, Option.isNone_iff_eq_none] at h
  rw [get, h]
  rfl

/-- Fields are known by what they say of each name. -/
theorem ext_of_has_get (hhas : ∀ name, a.has name = b.has name)
    (hget : ∀ name, a.get name = b.get name) : a = b := by
  have : Std.Irrefl fun e e' : String × Option Float => e.1 < e'.1 :=
    ⟨fun e => String.lt_irrefl e.1⟩
  have : Std.Antisymm fun e e' : String × Option Float => e.1 < e'.1 :=
    ⟨fun e e' h h' => absurd h' (String.lt_asymm h)⟩
  have hentries : a.entries = b.entries := a.sorted.eq_of_mem_iff b.sorted fun e => by
    rw [mem_entries_iff, mem_entries_iff, hhas, hget]
  cases a
  cases b
  cases hentries
  rfl

end Fields

namespace Record

@[simp] theorem time_set (r : Record) (name : String) (value : Option Float) :
    (r.set name value).time = r.time := rfl

@[simp] theorem get_set (r : Record) (name : String) (value : Option Float) (other : String) :
    (r.set name value).get other = if other = name then value else r.get other :=
  r.fields.get_set name value other

@[simp] theorem has_set (r : Record) (name : String) (value : Option Float) (other : String) :
    (r.set name value).has other = (other == name || r.has other) :=
  r.fields.has_set name value other

/-- A record is known by its time and by what it says of each field. -/
theorem ext_of_has_get {a b : Record} (htime : a.time = b.time)
    (hhas : ∀ field, a.has field = b.has field) (hget : ∀ field, a.get field = b.get field) :
    a = b := by
  cases a
  cases b
  cases htime
  exact congrArg _ (Fields.ext_of_has_get hhas hget)

/-- Two fields may be set in either order. -/
theorem set_comm (r : Record) {a b : String} (h : a ≠ b) (x y : Option Float) :
    (r.set a x).set b y = (r.set b y).set a x := by
  refine ext_of_has_get rfl (fun field => ?_) fun field => ?_
  · simp only [has_set, Bool.or_left_comm]
  · by_cases ha : field = a
    · subst ha
      simp [h]
    · simp [ha]

end Record

end Meteogram
