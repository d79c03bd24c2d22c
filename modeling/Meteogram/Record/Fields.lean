/-!
# The fields of a record

A record carries numbers under names. A name may be absent, present without a value, or present with
one. The names are kept in increasing order, so two records with the same fields are equal.
-/

namespace Meteogram

/-- Names with optional values, in increasing order of the names. -/
structure Fields where
  entries : List (String × Option Float)
  sorted : entries.Pairwise (fun a b => a.1 < b.1)
deriving DecidableEq, Repr

namespace Fields

def empty : Fields := ⟨[], .nil⟩

instance : Inhabited Fields := ⟨empty⟩

/-- Puts an entry in its place in an ordered list, instead of one with the same name. -/
def insertInto (name : String) (value : Option Float) :
    List (String × Option Float) → List (String × Option Float)
  | [] => [(name, value)]
  | e :: rest =>
    if name < e.1 then (name, value) :: e :: rest
    else if name = e.1 then (name, value) :: rest
    else e :: insertInto name value rest

theorem mem_insertInto {name : String} {value : Option Float} {entries : List (String × Option Float)}
    {e : String × Option Float} (h : e ∈ insertInto name value entries) :
    e = (name, value) ∨ e ∈ entries := by
  induction entries with
  | nil => simpa [insertInto] using h
  | cons a rest ih =>
    simp only [insertInto] at h
    split at h
    · simpa using h
    · split at h
      · rcases List.mem_cons.1 h with h | h
        · exact .inl h
        · exact .inr (List.mem_cons_of_mem _ h)
      · rcases List.mem_cons.1 h with h | h
        · exact .inr (h ▸ List.mem_cons_self)
        · exact (ih h).imp id (List.mem_cons_of_mem _)

theorem sorted_insertInto {name : String} {value : Option Float}
    {entries : List (String × Option Float)} (h : entries.Pairwise (fun a b => a.1 < b.1)) :
    (insertInto name value entries).Pairwise (fun a b => a.1 < b.1) := by
  induction entries with
  | nil => simp [insertInto]
  | cons a rest ih =>
    obtain ⟨below, tail⟩ := List.pairwise_cons.1 h
    simp only [insertInto]
    split
    · rename_i lt
      refine List.pairwise_cons.2 ⟨fun e he => ?_, h⟩
      rcases List.mem_cons.1 he with rfl | he
      · exact lt
      · exact String.lt_trans lt (below e he)
    · split
      · rename_i eq
        exact List.pairwise_cons.2 ⟨fun e he => eq ▸ below e he, tail⟩
      · rename_i notLt ne
        refine List.pairwise_cons.2 ⟨fun e he => ?_, ih tail⟩
        rcases mem_insertInto he with rfl | he
        · rcases Std.lt_trichotomy name a.1 with lt | eq | gt
          · exact absurd lt notLt
          · exact absurd eq ne
          · exact gt
        · exact below e he

/-- Sets the value of a name, or that it has none. -/
def set (fields : Fields) (name : String) (value : Option Float) : Fields :=
  ⟨insertInto name value fields.entries, sorted_insertInto fields.sorted⟩

/-- The value under a name; `none` both if the name is absent and if it has no value. -/
def get (fields : Fields) (name : String) : Option Float :=
  (fields.entries.find? (·.1 == name)).bind (·.2)

/-- Whether the name is present, with or without a value. -/
def has (fields : Fields) (name : String) : Bool := fields.entries.any (·.1 == name)

end Fields

end Meteogram
