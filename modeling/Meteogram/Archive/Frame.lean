import Meteogram.Archive.Cell

/-!
# Frames

A frame is a table of named columns of one height. `Frame.pick` makes a frame of chosen rows, such as
all rows sorted, and `Frame.keep` one of some rows in their order. A frame that was read in parts
remembers their heights.
-/

namespace Meteogram

structure Column where
  name : String
  type : CellType
  cells : List (Option type.Value)

/-- Columns of one height under different names. -/
structure Frame where
  columns : List Column
  height : Nat
  /-- The heights of the parts that the rows were read in; rows beyond them are one more part. -/
  parts : List Nat := []
  height_eq : ∀ c ∈ columns, c.cells.length = height
  distinct : (columns.map (·.name)).Nodup

/-- A reason for which a frame cannot be worked on. -/
inductive FrameError where
  | missingColumn (name : String)
  /-- A name stands for more than one column. -/
  | severalColumns (name : String)
  /-- The type of a column does not allow what is asked for. -/
  | unsuitableColumn (name : String) (type : CellType)
  /-- The file does not hold a frame. -/
  | unreadable
deriving DecidableEq, Repr

namespace Column

/-- The cell of a row; beyond the end it is missing. -/
def cell (c : Column) (row : Nat) : Option c.type.Value := (c.cells[row]?).join

/-- The cells of the given rows. -/
def pick (c : Column) (rows : List Nat) : Column := ⟨c.name, c.type, rows.map c.cell⟩

@[simp] theorem name_pick (c : Column) (rows : List Nat) : (c.pick rows).name = c.name := rfl

@[simp] theorem length_pick (c : Column) (rows : List Nat) :
    (c.pick rows).cells.length = rows.length := by simp [pick]

end Column

namespace Frame

/-- The frame of columns, if they have one height and different names. -/
def ofColumns? (columns : List Column) : Option Frame :=
  let height := (columns.head?.map (·.cells.length)).getD 0
  if h : (∀ c ∈ columns, c.cells.length = height) ∧ (columns.map (·.name)).Nodup then
    some ⟨columns, height, [], h.1, h.2⟩
  else none

/-- The column with a name. -/
def column? (f : Frame) (name : String) : Option Column := f.columns.find? (·.name == name)

/-- The column with a name, which has to be there. -/
def column (f : Frame) (name : String) : Except FrameError Column :=
  match f.column? name with
  | some c => .ok c
  | none => .error (.missingColumn name)

theorem mem_of_column? {f : Frame} {name : String} {c : Column} (h : f.column? name = some c) :
    c ∈ f.columns := List.mem_of_find?_eq_some h

/-- The chosen rows in the given order. -/
def pick (f : Frame) (rows : List Nat) : Frame where
  columns := f.columns.map (·.pick rows)
  height := rows.length
  height_eq := by simp
  distinct := by simpa [Function.comp_def] using f.distinct

/-- The heights of parts of which only the given rows are left, from a row on. -/
def heightsOf (start : Nat) : List Nat → List Nat → List Nat
  | [], _ => []
  | n :: ns, rows =>
    let left := (rows.takeWhile (· < start + n)).length
    left :: heightsOf (start + n) ns (rows.drop left)

/-- The given rows, which have to increase, in the parts in which they are. -/
def keep (f : Frame) (rows : List Nat) : Frame :=
  { f.pick rows with parts := heightsOf 0 f.parts rows }

/-- Puts a column in the place of the one with its name, or at the end. -/
def withColumn (f : Frame) (c : Column) (h : c.cells.length = f.height) : Frame :=
  if new : c.name ∈ f.columns.map (·.name) then
    { columns := f.columns.map fun old => if old.name = c.name then c else old
      height := f.height
      parts := f.parts
      height_eq := by
        intro d hd
        obtain ⟨old, hold, rfl⟩ := List.mem_map.1 hd
        by_cases eq : old.name = c.name
        · rw [if_pos eq]; exact h
        · rw [if_neg eq]; exact f.height_eq old hold
      distinct := by
        have same : (fun old : Column => (if old.name = c.name then c else old).name) =
            (·.name) := by
          funext old
          split
          · rename_i eq; exact eq.symm
          · rfl
        simpa [List.map_map, Function.comp_def, same] using f.distinct }
  else
    { columns := f.columns ++ [c]
      height := f.height
      parts := f.parts
      height_eq := by
        intro d hd
        rcases List.mem_append.1 hd with hd | hd
        · exact f.height_eq d hd
        · rw [List.mem_singleton.1 hd]; exact h
      distinct := by
        rw [List.map_append, List.nodup_append]
        refine ⟨f.distinct, by simp, ?_⟩
        rintro _ ha _ hb rfl
        simp only [List.map_cons, List.map_nil, List.mem_singleton] at hb
        exact new (hb ▸ ha) }

/-- The rows whose cell in a column satisfies a condition; a missing cell does not. -/
def rowsWhere (c : Column) (keep : c.type.Value → Bool) : List Nat :=
  (List.range c.cells.length).filter fun row => (c.cell row).any keep

/-- The rows in increasing order of a column, missing cells first; rows that are equal in it keep
their order. -/
def rowsInOrder (c : Column) : List Nat :=
  (List.range c.cells.length).mergeSort fun a b => !c.type.before? (c.cell b) (c.cell a)

/-- Sorts a frame by a column. -/
def sortBy (f : Frame) (name : String) : Except FrameError Frame := do
  return f.pick (rowsInOrder (← f.column name))

end Frame

end Meteogram
