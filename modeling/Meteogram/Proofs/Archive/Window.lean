import Mathlib.Tactic
import Meteogram.Archive.File
import Meteogram.Proofs.Except

/-!
# Windows of archive frames

A frame with a column of epoch seconds is cut to the rows whose stamp is after the lower bound and
not after the upper one. Their stamps are those of the whole frame under this condition, in the same
order, whether the rows come from a text or from a stored frame that is asked first.
-/
namespace Meteogram

namespace Column

variable (c : Column)

theorem map_cell : (List.range c.cells.length).map c.cell = c.cells := by
  apply List.ext_getElem
  · simp
  · intro i _ hi
    simp [cell, List.getElem?_eq_getElem hi]

theorem map_cell_rowsWhere (keep : c.type.Value → Bool) :
    (Frame.rowsWhere c keep).map c.cell = c.cells.filter (·.any keep) := by
  have hfilter := List.filter_map (f := c.cell) (p := (·.any keep))
    (l := List.range c.cells.length)
  rw [c.map_cell] at hfilter
  exact hfilter.symm

end Column

namespace Frame

variable {f g : Frame} {stamps : List (Option Int64)} {lower upper : Int64}

@[simp] theorem column?_pick (rows : List ℕ) (name : String) :
    (f.pick rows).column? name = (f.column? name).map (·.pick rows) := by
  simp [column?, pick, List.find?_map, Function.comp_def]

@[simp] theorem column?_keep (rows : List ℕ) (name : String) :
    (f.keep rows).column? name = (f.column? name).map (·.pick rows) := column?_pick rows name

/-- A frame whose time column holds these epoch seconds. -/
def HasStamps (f : Frame) (stamps : List (Option Int64)) : Prop :=
  f.column? timeName = some ⟨timeName, .int64, stamps⟩

theorem exists_hasStamps {c : Column} (h : f.column? timeName = some c) (ht : c.type = .int64) :
    ∃ stamps, f.HasStamps stamps := by
  obtain ⟨name, type, cells⟩ := c
  have hname : name = timeName := by simpa using List.find?_some h
  cases ht
  rw [hname] at h
  exact ⟨cells, h⟩

theorem HasStamps.column_eq (h : f.HasStamps stamps) :
    f.column timeName = .ok ⟨timeName, .int64, stamps⟩ := by
  rw [column, show f.column? timeName = some _ from h]

/-- Whether a stamp is in a window; a missing one is not. -/
def inWindow (lower upper : Int64) (stamp : Option Int64) : Bool :=
  stamp.any fun n => insideWindow lower upper n.toInt

theorem inWindow_iff {stamp : Option Int64} :
    inWindow lower upper stamp = true ↔
      ∃ n, stamp = some n ∧ lower.toInt < n.toInt ∧ n.toInt ≤ upper.toInt := by
  cases stamp <;> simp [inWindow, insideWindow]

theorem HasStamps.window (h : f.HasStamps stamps) (lower upper : Int64) :
    ∃ g, f.window lower upper = .ok g ∧ g.HasStamps (stamps.filter (inWindow lower upper)) := by
  refine ⟨_, by rw [Frame.window, h.column_eq]; rfl, ?_⟩
  rw [HasStamps, column?_keep, show f.column? timeName = some _ from h, Option.map_some]
  exact congrArg (fun cells => some (Column.mk timeName .int64 cells))
    (Column.map_cell_rowsWhere ⟨timeName, .int64, stamps⟩
      fun n => insideWindow lower upper n.toInt)

/-- A stored frame is left unread only where it has no rows. -/
theorem HasStamps.storedWindow_eq (h : f.HasStamps stamps) (lower upper : Int64) :
    f.storedWindow lower upper = f.window lower upper := by
  unfold Frame.storedWindow
  rw [h.column_eq, Except.ok_bind]
  split_ifs with hb
  · rfl
  · have hstamps : stamps = [] := by
      by_contra hne
      apply hb
      have hnan : ∀ cell : Option Int64, cell.any (CellType.isNaN .int64) = false := by
        intro cell
        cases cell <;> rfl
      simp [Column.isBounded, hnan, hne]
    subst hstamps
    rw [Frame.window, h.column_eq]
    rfl

/-- A window leaves some of the rows. -/
theorem exists_keep_of_window (h : f.window lower upper = .ok g) : ∃ rows, g = f.keep rows := by
  unfold Frame.window at h
  obtain ⟨time, -, h⟩ := Except.bind_eq_ok.mp h
  cases hkeep : time.type.inWindow? lower upper with
  | none => simp [hkeep] at h
  | some keep =>
    simp only [hkeep] at h
    exact ⟨_, (Except.ok.inj h).symm⟩

theorem exists_keep_of_storedWindow (h : f.storedWindow lower upper = .ok g) :
    ∃ rows, g = f.keep rows := by
  unfold Frame.storedWindow at h
  obtain ⟨time, -, h⟩ := Except.bind_eq_ok.mp h
  split_ifs at h
  · exact exists_keep_of_window h
  · exact ⟨[], (Except.ok.inj h).symm⟩

end Frame

namespace Archive

variable {a : Archive} {f g : Frame} {stamps : List (Option Int64)} {lower upper : Int64}

theorem window_eq (hf : a.frame = .ok f) (lower upper : Int64) :
    a.window lower upper = f.window lower upper ∨
      a.window lower upper = f.storedWindow lower upper := by
  unfold window
  rw [hf]
  cases a.format with
  | parquet => exact .inr rfl
  | csv => exact .inl rfl

/-- Whether an archive is a text or a stored frame does not matter to a window of its rows. -/
theorem window_of_hasStamps (hf : a.frame = .ok f) (h : f.HasStamps stamps) (lower upper : Int64) :
    a.window lower upper = f.window lower upper := by
  rcases window_eq hf lower upper with hw | hw
  · exact hw
  · rw [hw, h.storedWindow_eq]

theorem exists_window (hf : a.frame = .ok f) (h : f.HasStamps stamps) (lower upper : Int64) :
    ∃ g, a.window lower upper = .ok g ∧
      g.HasStamps (stamps.filter (Frame.inWindow lower upper)) := by
  rw [window_of_hasStamps hf h]
  exact h.window lower upper

theorem hasStamps_of_window (hf : a.frame = .ok f) (h : f.HasStamps stamps)
    (hg : a.window lower upper = .ok g) :
    g.HasStamps (stamps.filter (Frame.inWindow lower upper)) := by
  obtain ⟨g', hg', hs⟩ := exists_window hf h lower upper
  rw [hg, Except.ok.injEq] at hg'
  exact hg' ▸ hs

theorem exists_keep_of_window (hf : a.frame = .ok f) (hg : a.window lower upper = .ok g) :
    ∃ rows, g = f.keep rows := by
  rcases window_eq hf lower upper with hw | hw
  · exact Frame.exists_keep_of_window (hw ▸ hg)
  · exact Frame.exists_keep_of_storedWindow (hw ▸ hg)

end Archive

end Meteogram
