import Mathlib.Tactic
import Meteogram.Proofs.Archive.Group
import Meteogram.Proofs.Archive.Summary

/-!
# Selecting rows by their keys

Rows are selected by a condition on their keys, so that a group is left whole or not at all. Where
the columns of a plan are local, the selected rows are summarised to the selected rows of the summary
of the whole frame.
-/
namespace Meteogram

/-- The rows whose key satisfies a condition. -/
def rowsWith {κ : Type} (keep : κ → Bool) (keys : List κ) : List ℕ :=
  (List.range keys.length).filter fun row => (keys[row]?).any keep

section rowsWith

variable {κ α : Type} {keep : κ → Bool} {keys : List κ}

theorem rowsWith_map {κ' : Type} {keep' : κ' → Bool} {g : κ → κ'}
    (h : ∀ key ∈ keys, keep' (g key) = keep key) :
    rowsWith keep' (keys.map g) = rowsWith keep keys := by
  rw [rowsWith, List.length_map]
  refine List.filter_congr fun row hrow => ?_
  have hlt := List.mem_range.mp hrow
  rw [List.getElem?_map, List.getElem?_eq_getElem hlt]
  exact h _ (List.getElem_mem hlt)

/-- Where no element of a second kind stands before one of a first kind, the elements of both kinds are
those of the first and then those of the second. -/
theorem filter_or_eq_append {p q : α → Bool} {xs : List α}
    (h : xs.Pairwise fun x y => q x = true → p y = false)
    (hdisjoint : ∀ x ∈ xs, q x = true → p x = false) :
    xs.filter (fun x => p x || q x) = xs.filter p ++ xs.filter q := by
  induction xs with
  | nil => rfl
  | cons x xs ih =>
    rw [List.pairwise_cons] at h
    rw [List.forall_mem_cons] at hdisjoint
    have hrest := ih h.2 hdisjoint.2
    cases hq : q x with
    | false =>
      cases hp : p x with
      | false => simp [hp, hq, hrest]
      | true => simp [hp, hq, hrest]
    | true =>
      have hp := hdisjoint.1 hq
      have hnone : xs.filter p = [] := by
        rw [List.filter_eq_nil_iff]
        intro y hy
        rw [h.1 y hy hq]
        exact Bool.false_ne_true
      simp [hp, hq, hrest, hnone]

/-- Rows that satisfy one of two conditions satisfy either the first or the second, if no key satisfies
both. -/
theorem rowsWith_perm {p q : κ → Bool} (keys : List κ) (h : ∀ key, keep key = (p key || q key))
    (hdisjoint : ∀ key, p key = true → q key = false) :
    (rowsWith keep keys).Perm (rowsWith p keys ++ rowsWith q keys) := by
  have hp : (rowsWith keep keys).filter (fun row => (keys[row]?).any p) = rowsWith p keys := by
    rw [rowsWith, rowsWith, List.filter_filter]
    refine List.filter_congr fun row _ => ?_
    cases keys[row]? with
    | none => rfl
    | some key => cases hkey : p key <;> simp [h, hkey]
  have hq : (rowsWith keep keys).filter (fun row => !(keys[row]?).any p) = rowsWith q keys := by
    rw [rowsWith, rowsWith, List.filter_filter]
    refine List.filter_congr fun row _ => ?_
    cases keys[row]? with
    | none => rfl
    | some key =>
      cases hkey : p key with
      | false => simp [h, hkey]
      | true => simp [hkey, hdisjoint key hkey]
  rw [← hp, ← hq]
  exact (List.filter_append_perm _ _).symm

/-- Where no key of a second kind stands before one of a first kind, the rows of both kinds are those of
the first and then those of the second. -/
theorem rowsWith_append {p q : κ → Bool} (h : ∀ key, keep key = (p key || q key))
    (hdisjoint : ∀ key, q key = true → p key = false)
    (hkeys : keys.Pairwise fun a b => q a = true → p b = false) :
    rowsWith keep keys = rowsWith p keys ++ rowsWith q keys := by
  have hrows : rowsWith keep keys = (List.range keys.length).filter fun row =>
      (keys[row]?).any p || (keys[row]?).any q := by
    refine List.filter_congr fun row _ => ?_
    cases keys[row]? with
    | none => rfl
    | some key => exact h key
  rw [hrows]
  refine filter_or_eq_append ?_ fun row _ => ?_
  · refine List.pairwise_lt_range.imp_of_mem ?_
    intro i j hi hj hij
    have hi := List.mem_range.mp hi
    have hj := List.mem_range.mp hj
    rw [List.getElem?_eq_getElem hi, List.getElem?_eq_getElem hj]
    exact List.pairwise_iff_getElem.mp hkeys i j hi hj hij
  · cases keys[row]? with
    | none => exact fun _ => rfl
    | some key => exact hdisjoint key

/-- The cells of selected rows are those that stand beside a selected key. -/
theorem map_rowsWith {cells : List (Option α)} (hlength : keys.length = cells.length) :
    (rowsWith keep keys).map (fun row => (cells[row]?).join) =
      ((keys.zip cells).filter fun pair => keep pair.1).map Prod.snd := by
  unfold rowsWith
  induction keys generalizing cells with
  | nil => rfl
  | cons k ks ih =>
    cases cells with
    | nil => cases hlength
    | cons cell cells =>
      have hrest := ih (Nat.succ.inj hlength)
      rw [List.length_cons, List.range_succ_eq_map, List.filter_cons, List.filter_map,
        List.zip_cons_cons, List.filter_cons]
      simp only [List.getElem?_cons_zero, Option.any_some]
      split_ifs
      · simpa [Function.comp_def] using hrest
      · simpa [Function.comp_def] using hrest

/-- Selected rows where there is one cell per key. -/
theorem map_rowsWith_map (keep : κ → Bool) (keys : List κ) (g : κ → Option α) :
    (rowsWith keep keys).map (fun row => ((keys.map g)[row]?).join) = (keys.filter keep).map g := by
  rw [map_rowsWith (List.length_map g).symm, ← List.map_prod_left_eq_zip, List.filter_map,
    List.map_map]
  rfl

theorem length_rowsWith (keep : κ → Bool) (keys : List κ) :
    (rowsWith keep keys).length = (keys.filter keep).length := by
  have hmap : (rowsWith keep keys).map (fun row => ((keys.map some)[row]?).join) =
      (keys.filter keep).map some := map_rowsWith_map keep keys some
  simpa only [List.length_map] using congrArg List.length hmap

end rowsWith

namespace Group

variable {α : Type} {keep : DayKey → Bool} {keys : List DayKey}

theorem rowsOf_eq_rowsWith (keys : List DayKey) (day : DayKey) :
    rowsOf keys day = rowsWith (· == day) keys := by
  refine List.filter_congr fun row _ => ?_
  cases keys[row]? <;> simp

theorem mem_rowsOf {day : DayKey} {row : ℕ} : row ∈ rowsOf keys day ↔ keys[row]? = some day := by
  rw [rowsOf, List.mem_filter, List.mem_range, beq_iff_eq, and_iff_right_iff_imp]
  exact fun h => (List.getElem?_eq_some_iff.mp h).1

theorem rowsOf_ne_nil {day : DayKey} (h : day ∈ keys) : rowsOf keys day ≠ [] := by
  obtain ⟨row, hrow, hkey⟩ := List.mem_iff_getElem.mp h
  exact List.ne_nil_of_mem (mem_rowsOf.mpr (List.getElem?_eq_some_iff.mpr ⟨hrow, hkey⟩))

/-- A group has rows, all of them within the keys. -/
theorem rows_of_mem_ofKeys {rows : List ℕ} (h : rows ∈ (ofKeys keys).map (·.rows)) :
    rows ≠ [] ∧ rows.Sublist (List.range keys.length) := by
  rw [ofKeys, List.map_map] at h
  obtain ⟨day, hday, rfl⟩ := List.mem_map.mp h
  exact ⟨rowsOf_ne_nil (DayKey.mem_distinct.mp hday), List.filter_sublist⟩

/-- The rows of selected groups are the selected rows, each of them in one group. -/
theorem rowsWith_perm_flatMap (keep : DayKey → Bool) (keys : List DayKey) :
    (rowsWith keep keys).Perm (((DayKey.distinct keys).filter keep).flatMap (rowsOf keys)) := by
  refine (List.perm_ext_iff_of_nodup (List.nodup_range.filter _) ?_).mpr fun row => ?_
  · refine List.nodup_flatMap.mpr ⟨fun day _ => List.nodup_range.filter _, ?_⟩
    refine ((DayKey.pairwise_distinct keys).filter keep).imp ?_
    intro day day' hbefore row hrow hrow'
    rw [mem_rowsOf] at hrow hrow'
    rw [hrow, Option.some.injEq] at hrow'
    rw [hrow', DayKey.before_irrefl] at hbefore
    cases hbefore
  · simp only [List.mem_filter, List.mem_range, List.mem_flatMap, mem_rowsOf,
      DayKey.mem_distinct]
    constructor
    · rintro ⟨hlt, hkeep⟩
      rw [List.getElem?_eq_getElem hlt] at hkeep ⊢
      exact ⟨keys[row], ⟨List.getElem_mem hlt, hkeep⟩, rfl⟩
    · rintro ⟨day, ⟨-, hkeep⟩, hrow⟩
      rw [hrow]
      exact ⟨(List.getElem?_eq_some_iff.mp hrow).1, hkeep⟩

/-- Every row is in one group. -/
theorem flatMap_rowsOf_perm (keys : List DayKey) :
    ((DayKey.distinct keys).flatMap (rowsOf keys)).Perm (List.range keys.length) := by
  have hall : rowsWith (fun _ => true) keys = List.range keys.length := by
    refine List.filter_eq_self.mpr fun row hrow => ?_
    rw [List.getElem?_eq_getElem (List.mem_range.mp hrow), Option.any_some]
  have hperm := rowsWith_perm_flatMap (fun _ => true) keys
  rw [hall, List.filter_true] at hperm
  exact hperm.symm

/-- A group that is selected is selected whole. -/
theorem filterMap_rowsOf {cells selected : List (Option α)} (hlength : keys.length = cells.length)
    (hselected : selected = (rowsWith keep keys).map fun row => (cells[row]?).join) {day : DayKey}
    (hday : keep day = true) :
    (rowsOf (keys.filter keep) day).filterMap (fun row => (selected[row]?).join) =
      (rowsOf keys day).filterMap fun row => (cells[row]?).join := by
  have hlength' : (keys.filter keep).length = selected.length := by
    rw [hselected, List.length_map, length_rowsWith]
  have hkeys : keys.filter keep =
      ((keys.zip cells).filter fun pair => keep pair.1).map Prod.fst := by
    calc
      keys.filter keep = ((keys.zip cells).map Prod.fst).filter keep := by
        rw [List.map_fst_zip hlength.le]
      _ = _ := List.filter_map
  have hpairs : (keys.filter keep).zip selected =
      (keys.zip cells).filter fun pair => keep pair.1 :=
    (List.zip_of_prod hkeys.symm (hselected.trans (map_rowsWith hlength)).symm).symm
  have hrows : (rowsOf (keys.filter keep) day).map (fun row => (selected[row]?).join) =
      (rowsOf keys day).map fun row => (cells[row]?).join := by
    rw [rowsOf_eq_rowsWith, rowsOf_eq_rowsWith, map_rowsWith hlength, map_rowsWith hlength',
      hpairs, List.filter_filter]
    congr 1
    refine List.filter_congr fun pair _ => ?_
    cases hpair : pair.1 == day with
    | false => rfl
    | true => rw [eq_of_beq hpair, hday]; rfl
  have hvalues := congrArg (List.filterMap id) hrows
  rwa [List.filterMap_map, List.filterMap_map] at hvalues

end Group

namespace Column

variable {keep : DayKey → Bool} {keys : List DayKey} {c : Column} {parts parts' : List ℕ}
  {s : Summary}

theorem summarise_ofKeys (c : Column) (order : CellOrder) (s : Summary) (name : String)
    (keys : List DayKey) :
    c.summarise order s name ((Group.ofKeys keys).map (·.rows)) =
      ⟨name, c.type.summaryType s, (DayKey.distinct keys).map fun day =>
        c.type.summarise order (c.averaging (Group.rowsOf keys day)) s
          ((Group.rowsOf keys day).filterMap c.cell)⟩ := by
  rw [summarise, Group.ofKeys, List.map_map, List.map_map]
  rfl

/-- A group of selected rows has the same summary among them as among all rows. -/
theorem IsLocal.summarise_rowsOf (h : c.IsLocal parts s) (hlength : keys.length = c.cells.length)
    (hparts : parts = [] → parts' = []) {day : DayKey} (hday : keep day = true) :
    c.type.summarise ((c.pick (rowsWith keep keys)).orderIn parts')
        ((c.pick (rowsWith keep keys)).averaging (Group.rowsOf (keys.filter keep) day)) s
        ((Group.rowsOf (keys.filter keep) day).filterMap (c.pick (rowsWith keep keys)).cell) =
      c.type.summarise (c.orderIn parts) (c.averaging (Group.rowsOf keys day)) s
        ((Group.rowsOf keys day).filterMap c.cell) := by
  have hlength' : (keys.filter keep).length =
      (c.pick (rowsWith keep keys)).cells.length := by
    rw [length_pick, length_rowsWith]
  have hselected : (rowsWith keep keys).Sublist (List.range c.cells.length) :=
    hlength ▸ List.filter_sublist
  have hrows : (Group.rowsOf keys day).Sublist (List.range c.cells.length) :=
    hlength ▸ List.filter_sublist
  have hrows' : (Group.rowsOf (keys.filter keep) day).Sublist
      (List.range (c.pick (rowsWith keep keys)).cells.length) :=
    hlength' ▸ List.filter_sublist
  have hvalues : (Group.rowsOf (keys.filter keep) day).filterMap
      (c.pick (rowsWith keep keys)).cell = (Group.rowsOf keys day).filterMap c.cell :=
    Group.filterMap_rowsOf hlength rfl hday
  rw [h.summarise_eq hrows]
  refine ((h.pick hselected hparts).summarise_eq hrows').trans ?_
  exact congrArg (c.type.summarise .unknown .fromFirst s) hvalues

/-- Selected rows of a local column are summarised to selected cells. -/
theorem IsLocal.summarise_pick (h : c.IsLocal parts s) (hlength : keys.length = c.cells.length)
    (hparts : parts = [] → parts' = []) (name : String) :
    (c.pick (rowsWith keep keys)).summarise
        ((c.pick (rowsWith keep keys)).orderIn parts') s name
        ((Group.ofKeys (keys.filter keep)).map (·.rows)) =
      (c.summarise (c.orderIn parts) s name ((Group.ofKeys keys).map (·.rows))).pick
        (rowsWith keep (DayKey.distinct keys)) := by
  rw [summarise_ofKeys, summarise_ofKeys, DayKey.distinct_filter]
  refine congrArg (Column.mk name (c.type.summaryType s)) ?_
  refine Eq.trans ?_ (map_rowsWith_map keep (DayKey.distinct keys) _).symm
  refine List.map_congr_left fun day hday => ?_
  exact h.summarise_rowsOf hlength hparts (List.of_mem_filter hday)

end Column

namespace Frame

variable {f g : Frame} {plan : Plan} {keep : DayKey → Bool} {keys : List DayKey}

/-- Frames are known by their columns, their height and their parts. -/
theorem eq_of_columns (hcolumns : f.columns = g.columns) (hheight : f.height = g.height)
    (hparts : f.parts = g.parts) : f = g := by
  cases f
  cases g
  cases hcolumns
  cases hheight
  cases hparts
  rfl

/-- Whether no summary of a plan depends on other rows than those of its group. -/
def IsLocal (f : Frame) (plan : Plan) : Prop :=
  ∀ p ∈ plan.steps, ∀ c, f.column? p.source = some c → c.IsLocal f.parts p.summary

theorem column_keep (rows : List ℕ) (name : String) :
    (f.keep rows).column name = (f.column name).map (·.pick rows) := by
  rw [column, column, column?_keep]
  cases f.column? name <;> rfl

theorem summaryColumns_keep {steps : List PlanStep} (hlength : keys.length = f.height)
    (h : ∀ p ∈ steps, ∀ c, f.column? p.source = some c → c.IsLocal f.parts p.summary)
    (keep : DayKey → Bool) :
    (f.keep (rowsWith keep keys)).summaryColumns
        ((Group.ofKeys (keys.filter keep)).map (·.rows)) steps =
      (f.summaryColumns ((Group.ofKeys keys).map (·.rows)) steps).map
        (List.map (·.pick (rowsWith keep (DayKey.distinct keys)))) := by
  induction steps with
  | nil => rfl
  | cons p ps ih =>
    rw [List.forall_mem_cons] at h
    rw [summaryColumns, summaryColumns, column_keep, ih h.2]
    cases hc : f.column p.source with
    | error e => rfl
    | ok c =>
      rw [column_eq_ok] at hc
      have hcells : keys.length = c.cells.length :=
        hlength.trans (f.height_eq c (mem_of_column? hc)).symm
      have hparts : f.parts = [] → (f.keep (rowsWith keep keys)).parts = [] := by
        intro hnil
        rw [Frame.keep, hnil, heightsOf]
      cases f.summaryColumns ((Group.ofKeys keys).map (·.rows)) ps with
      | error e => rfl
      | ok columns =>
        exact congrArg (fun summary => Except.ok (summary :: columns.map _))
          ((h.1 c hc).summarise_pick hcells hparts p.output)

theorem summarise_of_error {groups : List Group} {e : FrameError}
    (h : f.summaryColumns (groups.map (·.rows)) plan.steps = .error e) :
    f.summarise plan groups = .error e := by
  unfold summarise
  split
  · next e' he =>
    rw [h] at he
    cases he
    rfl
  · next columns hcolumns =>
    rw [h] at hcolumns
    cases hcolumns

theorem summarise_of_ok {groups : List Group} {columns : List Column}
    (h : f.summaryColumns (groups.map (·.rows)) plan.steps = .ok columns) :
    ∃ g, f.summarise plan groups = .ok g ∧ g.columns = timeColumn groups :: columns ∧
      g.height = groups.length ∧ g.parts = [] := by
  unfold summarise
  split
  · next e he =>
    rw [h] at he
    cases he
  · next columns' hcolumns =>
    rw [h] at hcolumns
    cases hcolumns
    exact ⟨_, rfl, rfl, rfl, rfl⟩

theorem timeColumn_pick (keep : DayKey → Bool) (keys : List DayKey) :
    (timeColumn (Group.ofKeys keys)).pick (rowsWith keep (DayKey.distinct keys)) =
      timeColumn (Group.ofKeys (keys.filter keep)) := by
  rw [timeColumn, timeColumn, Group.map_day_ofKeys, Group.map_day_ofKeys, DayKey.distinct_filter]
  refine congrArg (Column.mk timeName .date) ?_
  have hmap := map_rowsWith_map keep (DayKey.distinct keys) id
  rwa [List.map_id, List.map_id] at hmap

/-- Where a plan is local, selected rows are summarised to the selected rows of the summary. -/
theorem summarise_keep (h : f.IsLocal plan) (hlength : keys.length = f.height)
    (keep : DayKey → Bool) :
    (f.keep (rowsWith keep keys)).summarise plan (Group.ofKeys (keys.filter keep)) =
      (f.summarise plan (Group.ofKeys keys)).map
        (·.keep (rowsWith keep (DayKey.distinct keys))) := by
  have hcolumns := summaryColumns_keep hlength h keep
  cases hsummary : f.summaryColumns ((Group.ofKeys keys).map (·.rows)) plan.steps with
  | error e =>
    rw [hsummary] at hcolumns
    rw [summarise_of_error hsummary, summarise_of_error hcolumns]
    rfl
  | ok columns =>
    rw [hsummary] at hcolumns
    obtain ⟨g, hg, hgcolumns, -, hgparts⟩ := summarise_of_ok hsummary
    obtain ⟨g', hg', hgcolumns', hheight', hgparts'⟩ := summarise_of_ok hcolumns
    rw [hg, hg']
    refine congrArg Except.ok (eq_of_columns ?_ ?_ ?_)
    · change _ = g.columns.map (·.pick (rowsWith keep (DayKey.distinct keys)))
      rw [hgcolumns', hgcolumns, List.map_cons, timeColumn_pick]
    · change _ = (rowsWith keep (DayKey.distinct keys)).length
      rw [hheight', length_rowsWith, ← DayKey.distinct_filter, ← Group.map_day_ofKeys,
        List.length_map]
    · change _ = heightsOf 0 g.parts _
      rw [hgparts', hgparts, heightsOf]

theorem size_of_summarise {plan : Plan} {groups : List Group}
    (hg : f.summarise plan groups = .ok g) : g.height = groups.length ∧ g.parts = [] := by
  obtain ⟨columns, hsummary, -⟩ := summarise_eq_ok hg
  obtain ⟨g', hg', -, hsize⟩ := summarise_of_ok hsummary
  rw [hg, Except.ok.injEq] at hg'
  exact hg' ▸ hsize

/-- Where cells have means that are formed alike, so have the extremes of groups of them. -/
theorem averagesAlike_of_summarise {plan : Plan} {keys : List DayKey} {p : PlanStep}
    (hlength : keys.length = f.height) (hp : p ∈ plan.steps)
    (hextreme : p.summary = .least ∨ p.summary = .greatest)
    (h : ∀ c, f.column? p.source = some c → c.type.AveragesAlike c.cells)
    (hg : f.summarise plan (Group.ofKeys keys) = .ok g) :
    ∀ c, g.column? p.output = some c → c.type.AveragesAlike c.cells := by
  obtain ⟨c, hc, hsummary⟩ := column?_of_summarise hg hp
  intro c' hc'
  rw [hsummary, Option.some.injEq] at hc'
  subst hc'
  have hcells : c.cells.length = f.height := f.height_eq c (mem_of_column? hc)
  have hgroups : ∀ rows ∈ (Group.ofKeys keys).map (·.rows),
      rows ≠ [] ∧ rows.Sublist (List.range c.cells.length) := by
    intro rows hrows
    have hne := Group.rows_of_mem_ofKeys hrows
    rwa [hlength, ← hcells] at hne
  obtain ⟨source, summary, output⟩ := p
  rcases hextreme with rfl | rfl
  · exact (h c hc).of_subset
      (Column.map_choice_subset (CellType.isChoice_least c.type _) hgroups)
  · exact (h c hc).of_subset
      (Column.map_choice_subset (CellType.isChoice_greatest c.type _) hgroups)

end Frame

end Meteogram
