import Meteogram.Archive.Frame

/-!
# Running totals of a column

The sum of a column over a row and all rows before it. A missing cell counts as zero. The name `*`
stands for every column, so it names one where the frame has no other.
-/

namespace Meteogram

/-- The sums of the terms so far, one per term, on top of a first summand. -/
def sumsFrom {α : Type} [Add α] (sum : α) : List α → List α
  | [] => []
  | x :: xs => (sum + x) :: sumsFrom (sum + x) xs

@[simp] theorem length_sumsFrom {α : Type} [Add α] (sum : α) (xs : List α) :
    (sumsFrom sum xs).length = xs.length := by
  induction xs generalizing sum with
  | nil => rfl
  | cons x xs ih => simp [sumsFrom, ih]

namespace Column

/-- The running total of a column of numbers under a new name; a single stays single, other numbers
become doubles. -/
def runningTotal? (c : Column) (output : String) : Option Column :=
  match c with
  | ⟨_, .single, cells⟩ =>
    some ⟨output, .single, (sumsFrom 0 (cells.map (·.getD (0 : Float32)))).map some⟩
  | ⟨_, type, cells⟩ =>
    type.toFloat?.map fun toFloat =>
      ⟨output, .double, (sumsFrom 0 (cells.map fun cell => (cell.map toFloat).getD 0)).map some⟩

theorem length_of_runningTotal? {c d : Column} {output : String}
    (h : c.runningTotal? output = some d) : d.cells.length = c.cells.length := by
  unfold runningTotal? at h
  split at h
  · cases h; simp
  · obtain ⟨toFloat, _, rfl⟩ := Option.map_eq_some_iff.1 h
    simp

end Column

namespace Frame

theorem mem_of_column {f : Frame} {name : String} {c : Column} (h : f.column name = .ok c) :
    c ∈ f.columns := by
  unfold column at h
  split at h
  · rename_i found
    cases h
    exact mem_of_column? found
  · cases h

/-- The columns that a name stands for. -/
def columnsNamed (f : Frame) (name : String) : Except FrameError (List Column) :=
  if name = "*" then .ok f.columns else (f.column name).map ([·])

theorem mem_of_columnsNamed {f : Frame} {name : String} {columns : List Column} {c : Column}
    (h : f.columnsNamed name = .ok columns) (hc : c ∈ columns) : c ∈ f.columns := by
  unfold columnsNamed at h
  split at h
  · cases h; exact hc
  · cases found : f.column name with
    | error e => rw [found] at h; cases h
    | ok d =>
      rw [found] at h
      cases h
      rw [List.mem_singleton.1 hc]
      exact mem_of_column found

/-- The frame with the running total of `field` in the column `output`; a frame without columns
where `field` stands for all of them. -/
def runningTotal (f : Frame) (field output : String) : Except FrameError Frame :=
  match h : f.columnsNamed field with
  | .error e => .error e
  | .ok [] => .ok f
  | .ok [c] =>
    match ht : c.runningTotal? output with
    | none => .error (.unsuitableColumn field c.type)
    | some total =>
      .ok (f.withColumn total
        ((Column.length_of_runningTotal? ht).trans
          (f.height_eq c (mem_of_columnsNamed h (List.mem_singleton_self c)))))
  | .ok _ => .error (.severalColumns field)

end Frame

end Meteogram
