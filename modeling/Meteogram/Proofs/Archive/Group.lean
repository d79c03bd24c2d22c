import Mathlib.Data.List.Sort
import Mathlib.Tactic
import Meteogram.Archive.Group
import Meteogram.Proofs.Except

/-!
# Groups of rows

The keys of groups are the different keys of the rows in strictly increasing order. A summarised
frame has one column for each step of its plan, under the name of its output, and a column of numbers
is summarised to numbers. Only a missing column keeps a frame from being summarised.
-/
namespace Meteogram

namespace DayKey

theorem eq_of_not_before {a b : DayKey} (hab : before a b = false) (hba : before b a = false) :
    a = b := by
  cases a with
  | none =>
    cases b with
    | none => rfl
    | some y => cases hab
  | some x =>
    cases b with
    | none => cases hba
    | some y =>
      simp only [before, decide_eq_false_iff_not, Int32.not_lt] at hab hba
      rw [Int32.le_antisymm hba hab]

theorem before_irrefl (a : DayKey) : before a a = false := by
  cases a with
  | none => rfl
  | some x => simp [before]

theorem before_trans {a b c : DayKey} (hab : before a b = true) (hbc : before b c = true) :
    before a c = true := by
  cases c with
  | none => cases b <;> cases hbc
  | some z =>
    cases a with
    | none => rfl
    | some x =>
      cases b with
      | none => cases hab
      | some y =>
        simp only [before, decide_eq_true_iff] at hab hbc ⊢
        exact Int32.lt_trans hab hbc

theorem before_asymm {a b : DayKey} (hab : before a b = true) : before b a = false := by
  rw [← Bool.not_eq_true]
  intro hba
  have haa := before_trans hab hba
  rw [before_irrefl] at haa
  cases haa

theorem mem_insertInto {k x : DayKey} {keys : List DayKey} :
    x ∈ insertInto k keys ↔ x = k ∨ x ∈ keys := by
  induction keys with
  | nil => simp [insertInto]
  | cons a rest ih =>
    simp only [insertInto]
    split_ifs with hka hak
    · simp
    · rw [List.mem_cons, List.mem_cons, ih]
      tauto
    · have hk : k = a := eq_of_not_before (Bool.eq_false_iff.mpr hka) (Bool.eq_false_iff.mpr hak)
      rw [hk, List.mem_cons]
      tauto

@[simp] theorem mem_distinct {x : DayKey} {keys : List DayKey} : x ∈ distinct keys ↔ x ∈ keys := by
  induction keys with
  | nil => simp [distinct]
  | cons k rest ih =>
    change x ∈ insertInto k (distinct rest) ↔ _
    rw [mem_insertInto, ih, List.mem_cons]

theorem pairwise_insertInto {k : DayKey} {keys : List DayKey}
    (h : keys.Pairwise (fun a b => before a b = true)) :
    (insertInto k keys).Pairwise (fun a b => before a b = true) := by
  induction keys with
  | nil => simp [insertInto]
  | cons a rest ih =>
    obtain ⟨habove, hrest⟩ := List.pairwise_cons.mp h
    simp only [insertInto]
    split_ifs with hka hak
    · refine List.pairwise_cons.mpr ⟨?_, h⟩
      intro b hb
      rcases List.mem_cons.mp hb with rfl | hb
      · exact hka
      · exact before_trans hka (habove b hb)
    · refine List.pairwise_cons.mpr ⟨?_, ih hrest⟩
      intro b hb
      rcases mem_insertInto.mp hb with rfl | hb
      · exact hak
      · exact habove b hb
    · exact h

/-- Different keys stand in strictly increasing order. -/
theorem pairwise_distinct (keys : List DayKey) :
    (distinct keys).Pairwise (fun a b => before a b = true) := by
  induction keys with
  | nil => exact .nil
  | cons k rest ih => exact pairwise_insertInto ih

/-- No day at all is the first of increasing keys and no other one. -/
theorem head?_eq_none {keys : List DayKey} (h : keys.Pairwise (fun a b => before a b = true))
    (hnone : none ∈ keys) : keys.head? = some none := by
  cases keys with
  | nil => cases hnone
  | cons a rest =>
    rcases List.mem_cons.mp hnone with rfl | hrest
    · rfl
    · have hbefore := List.rel_of_pairwise_cons h hrest
      cases a <;> cases hbefore

theorem none_not_mem_tail {keys : List DayKey}
    (h : keys.Pairwise (fun a b => before a b = true)) : none ∉ keys.tail := by
  cases keys with
  | nil => simp
  | cons a rest =>
    intro hrest
    have hbefore := List.rel_of_pairwise_cons h hrest
    cases a <;> cases hbefore

/-- An increasing list is known by its members. -/
theorem eq_of_mem_iff {keys keys' : List DayKey} (h : keys.Pairwise (fun a b => before a b = true))
    (h' : keys'.Pairwise (fun a b => before a b = true)) (hmem : ∀ k, k ∈ keys ↔ k ∈ keys') :
    keys = keys' := by
  have : Std.Irrefl fun a b : DayKey => before a b = true := ⟨by simp [before_irrefl]⟩
  have : Std.Antisymm fun a b : DayKey => before a b = true :=
    ⟨fun a b hab hba => by rw [before_asymm hab] at hba; cases hba⟩
  exact h.eq_of_mem_iff h' hmem

/-- The different keys of some rows are some of the different keys of all. -/
theorem distinct_filter (keep : DayKey → Bool) (keys : List DayKey) :
    distinct (keys.filter keep) = (distinct keys).filter keep :=
  eq_of_mem_iff (pairwise_distinct _) ((pairwise_distinct keys).filter keep) (by simp)

end DayKey

theorem Group.map_day_ofKeys (keys : List DayKey) :
    (Group.ofKeys keys).map (·.day) = DayKey.distinct keys := by
  simp [ofKeys, Function.comp_def]

theorem Group.ofKeys_ne_nil {keys : List DayKey} (h : keys ≠ []) : Group.ofKeys keys ≠ [] := by
  obtain ⟨k, hk⟩ := List.exists_mem_of_ne_nil _ h
  intro hnil
  have hdays := Group.map_day_ofKeys keys
  rw [hnil] at hdays
  rw [← DayKey.mem_distinct, ← hdays] at hk
  cases hk

/-- Numbers are summarised to numbers. -/
theorem CellType.isNumeric_summaryType {type : CellType} (h : type.isNumeric = true)
    (s : Summary) : (type.summaryType s).isNumeric = true := by
  cases type <;> cases s <;> first | rfl | cases h

namespace Frame

variable {f g : Frame} {plan : Plan} {groups : List Group}

/-- Whether the named columns are there and hold numbers. -/
def HasNumbers (f : Frame) (names : List String) : Prop :=
  ∀ name ∈ names, ∃ c, f.column? name = some c ∧ c.type.isNumeric = true

theorem column_eq_ok {name : String} {c : Column} :
    f.column name = .ok c ↔ f.column? name = some c := by
  unfold column
  cases f.column? name <;> simp

/-- A column is found under its name. -/
theorem column?_eq_some {name : String} {c : Column} :
    f.column? name = some c ↔ c ∈ f.columns ∧ c.name = name := by
  constructor
  · intro h
    exact ⟨mem_of_column? h, by simpa using List.find?_some h⟩
  · rintro ⟨hc, rfl⟩
    obtain ⟨c', hc'⟩ : ∃ c', f.column? c.name = some c' :=
      Option.isSome_iff_exists.mp (by simpa [column?] using ⟨c, hc, rfl⟩)
    have hname : c'.name = c.name := by simpa using List.find?_some hc'
    rw [hc', List.inj_on_of_nodup_map f.distinct (mem_of_column? hc') hc hname]

theorem exists_summaryColumns (rows : List (List ℕ)) {steps : List PlanStep}
    (h : ∀ p ∈ steps, ∃ c, f.column? p.source = some c) :
    ∃ columns, f.summaryColumns rows steps = .ok columns := by
  induction steps with
  | nil => exact ⟨[], rfl⟩
  | cons p ps ih =>
    rw [List.forall_mem_cons] at h
    obtain ⟨c, hc⟩ := h.1
    obtain ⟨columns, hcolumns⟩ := ih h.2
    exact ⟨_, by rw [summaryColumns, column_eq_ok.mpr hc, Except.ok_bind, hcolumns]; rfl⟩

/-- Every step of a plan gives a column. -/
theorem mem_summaryColumns {rows : List (List ℕ)} {steps : List PlanStep} {columns : List Column}
    (h : f.summaryColumns rows steps = .ok columns) :
    ∀ p ∈ steps, ∃ c, f.column? p.source = some c ∧
      c.summarise (c.orderIn f.parts) p.summary p.output rows ∈ columns := by
  induction steps generalizing columns with
  | nil => simp
  | cons p ps ih =>
    obtain ⟨c, hc, h⟩ := Except.bind_eq_ok.mp h
    obtain ⟨rest, hrest, h⟩ := Except.bind_eq_ok.mp h
    cases h
    rw [List.forall_mem_cons]
    refine ⟨⟨c, column_eq_ok.mp hc, List.mem_cons_self⟩, ?_⟩
    intro p' hp'
    obtain ⟨c', hc', hmem⟩ := ih hrest p' hp'
    exact ⟨c', hc', List.mem_cons_of_mem _ hmem⟩

theorem summarise_eq_ok (h : f.summarise plan groups = .ok g) :
    ∃ columns, f.summaryColumns (groups.map (·.rows)) plan.steps = .ok columns ∧
      g.columns = timeColumn groups :: columns := by
  unfold summarise at h
  split at h
  · cases h
  · next columns hcolumns =>
    cases h
    exact ⟨columns, hcolumns, rfl⟩

theorem exists_summarise (h : ∀ p ∈ plan.steps, ∃ c, f.column? p.source = some c)
    (groups : List Group) : ∃ g, f.summarise plan groups = .ok g := by
  obtain ⟨columns, hcolumns⟩ := exists_summaryColumns (groups.map (·.rows)) h
  unfold summarise
  split
  · next e he => rw [hcolumns] at he; cases he
  · exact ⟨_, rfl⟩

theorem column?_summarise (h : f.summarise plan groups = .ok g) :
    g.column? timeName = some (timeColumn groups) := by
  obtain ⟨columns, -, hcolumns⟩ := summarise_eq_ok h
  exact column?_eq_some.mpr ⟨hcolumns ▸ List.mem_cons_self, rfl⟩

/-- A step of a plan gives a column under its name. -/
theorem column?_of_summarise (hg : f.summarise plan groups = .ok g) {p : PlanStep} (hp : p ∈ plan.steps) :
    ∃ c, f.column? p.source = some c ∧ g.column? p.output =
      some (c.summarise (c.orderIn f.parts) p.summary p.output (groups.map (·.rows))) := by
  obtain ⟨columns, hsummary, hcolumns⟩ := summarise_eq_ok hg
  obtain ⟨c, hc, hmem⟩ := mem_summaryColumns hsummary p hp
  exact ⟨c, hc, column?_eq_some.mpr ⟨hcolumns ▸ List.mem_cons_of_mem _ hmem, rfl⟩⟩

/-- A column of numbers is summarised to a column of numbers. -/
theorem HasNumbers.summarise (h : f.HasNumbers (plan.steps.map (·.source)))
    (groups : List Group) :
    ∃ g, f.summarise plan groups = .ok g ∧ g.HasNumbers (plan.steps.map (·.output)) := by
  have hnumbers : ∀ p ∈ plan.steps, ∃ c, f.column? p.source = some c ∧ c.type.isNumeric = true :=
    fun p hp => h p.source (List.mem_map_of_mem hp)
  obtain ⟨g, hg⟩ := exists_summarise (fun p hp => (hnumbers p hp).imp fun c hc => hc.1) groups
  refine ⟨g, hg, ?_⟩
  intro name hname
  obtain ⟨p, hp, rfl⟩ := List.mem_map.mp hname
  obtain ⟨c, hc, hsummary⟩ := column?_of_summarise hg hp
  obtain ⟨c', hc', hnumeric⟩ := hnumbers p hp
  obtain rfl := Option.some.inj (hc.symm.trans hc')
  exact ⟨_, hsummary, CellType.isNumeric_summaryType hnumeric p.summary⟩

end Frame

end Meteogram
