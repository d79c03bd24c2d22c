import Meteogram.Archive.Records
import Meteogram.Proofs.Archive.Group
import Meteogram.Proofs.Record

/-!
# Records of frames

A frame has records if every cell of its time column is a time. Each of them carries every other
column of numbers as a field, be its cell missing or not, unless the numbers are narrow.
-/
namespace Meteogram

namespace CellType

/-- Whether cells of the type are integers of 8 or of 16 bits. -/
def isNarrow : CellType → Bool
  | int16 | int8 => true
  | _ => false

@[simp] theorem isNarrow_totalType (type : CellType) : type.totalType.isNarrow = false := by
  cases type <;> rfl

@[simp] theorem isNarrow_meanType (type : CellType) : type.meanType.isNarrow = false := by
  cases type <;> rfl

/-- Columns of numbers become fields unless they are narrow. -/
theorem isField_eq (type : CellType) : type.isField = (type.isNumeric && !type.isNarrow) := by
  cases type <;> rfl

theorem fieldOf?_eq_some {type : CellType} {toFloat : type.Value → Float} :
    type.fieldOf? = some toFloat ↔ type.isNarrow = false ∧ type.toFloat? = some toFloat := by
  cases type <;> simp [fieldOf?, isField, isNarrow, toFloat?]

theorem fieldOf?_isSome (type : CellType) : type.fieldOf?.isSome = type.isField := by
  cases type <;> rfl

end CellType

/-- Every row has its time, or there are no times. -/
theorem Column.timesFrom_eq_ok {α : Type} {time : α → Option RecordTime} {row : ℕ}
    {cells : List (Option α)} {times : List RecordTime} :
    timesFrom time row cells = .ok times ↔ cells.map (·.bind time) = times.map some := by
  induction cells generalizing row times with
  | nil => cases times <;> simp [timesFrom]
  | cons cell cells ih =>
    rw [timesFrom, List.map_cons]
    cases hcell : cell.bind time with
    | none => cases times <;> simp
    | some t =>
      simp only [Except.bind_eq_ok, ih]
      cases times with
      | nil => simp [pure, Except.pure]
      | cons t' times => simp [pure, Except.pure, and_comm]

namespace Frame

variable {f : Frame} {name : String} {c : Column} {records : List Record}

theorem records_eq_ok {time : c.type.Value → Option RecordTime} (hc : f.column? name = some c)
    (ht : c.type.timeOf? = some time) :
    f.records name = .ok records ↔
      ∃ times : List RecordTime, c.cells.map (·.bind time) = times.map some ∧
        records = times.mapIdx fun row t => ⟨t, fieldsOf (f.fieldColumns name) row⟩ := by
  simp only [Frame.records, hc, Column.times, ht, Except.bind_eq_ok, Column.timesFrom_eq_ok]
  simp [pure, Except.pure, eq_comm]

theorem map_time_of_records {time : c.type.Value → Option RecordTime}
    (hc : f.column? name = some c) (ht : c.type.timeOf? = some time)
    (h : f.records name = .ok records) :
    c.cells.map (·.bind time) = records.map fun r => some r.time := by
  obtain ⟨times, htimes, rfl⟩ := (records_eq_ok hc ht).mp h
  rw [htimes]
  apply List.ext_getElem
  · simp
  · intro i _ _
    simp

/-- A frame whose cells are all times has a record for each. -/
theorem exists_records {time : c.type.Value → Option RecordTime} {times : List RecordTime}
    (hc : f.column? name = some c) (ht : c.type.timeOf? = some time)
    (htimes : c.cells.map (·.bind time) = times.map some) :
    ∃ records, f.records name = .ok records ∧ records.map (·.time) = times := by
  refine ⟨_, (records_eq_ok hc ht).mpr ⟨times, htimes, rfl⟩, ?_⟩
  apply List.ext_getElem
  · simp
  · intro i _ _
    simp

theorem has_foldl_set (columns : List (String × List (Option Float))) (row : ℕ) (fields : Fields)
    (name : String) :
    (columns.foldl (fun fields column => fields.set column.1 (column.2[row]?).join) fields).has
      name = (fields.has name || columns.any (·.1 == name)) := by
  induction columns generalizing fields with
  | nil => simp
  | cons column columns ih =>
    rw [List.foldl_cons, ih, Fields.has_set, List.any_cons, BEq.comm (a := name),
      Bool.or_comm (column.1 == name), Bool.or_assoc]

/-- A frame that has records has times, one for each. -/
theorem exists_time_of_records {timeColumn : String} (h : f.records timeColumn = .ok records) :
    ∃ t times, f.column? timeColumn = some t ∧ t.times = .ok times ∧
      records = times.mapIdx fun row time => ⟨time, fieldsOf (f.fieldColumns timeColumn) row⟩ := by
  unfold Frame.records at h
  cases htime : f.column? timeColumn with
  | none => rw [htime] at h; cases h
  | some t =>
    simp only [htime, Except.bind_eq_ok] at h
    obtain ⟨times, htimes, h⟩ := h
    exact ⟨t, times, rfl, htimes, (Except.ok.inj h).symm⟩

/-- The fields of a row are the columns that become fields, the time apart. -/
theorem has_fieldsOf {row : ℕ} {field : String} :
    (fieldsOf (f.fieldColumns name) row).has field = true ↔
      ∃ c ∈ f.columns, c.name = field ∧ field ≠ name ∧ c.type.isField = true := by
  have hempty : Fields.empty.has field = false := rfl
  rw [fieldsOf, has_foldl_set, hempty, Bool.false_or, List.any_eq_true]
  constructor
  · rintro ⟨⟨field', cells⟩, hmem, hfield⟩
    obtain ⟨c, hc, heq⟩ := List.mem_filterMap.mp hmem
    split_ifs at heq with hname
    obtain ⟨cells', hcells, heq⟩ := Option.map_eq_some_iff.mp heq
    cases heq
    rw [beq_iff_eq] at hfield
    subst hfield
    refine ⟨c, hc, rfl, hname, ?_⟩
    rw [← CellType.fieldOf?_isSome, ← Option.isSome_map, ← Column.floats?, hcells]
    rfl
  · rintro ⟨c, hc, rfl, hname, hfield⟩
    rw [← CellType.fieldOf?_isSome] at hfield
    obtain ⟨toFloat, ht⟩ := Option.isSome_iff_exists.mp hfield
    refine ⟨(c.name, c.cells.map (·.map toFloat)), List.mem_filterMap.mpr ⟨c, hc, ?_⟩,
      beq_self_eq_true c.name⟩
    rw [if_neg hname, Column.floats?, ht]
    rfl

/-- A record carries a column if the column becomes a field. -/
theorem has_of_records {timeColumn : String} (h : f.records timeColumn = .ok records)
    (hc : f.column? name = some c) (hname : name ≠ timeColumn) :
    ∀ r ∈ records, r.has name = c.type.isField := by
  intro r hr
  obtain ⟨t, times, -, -, rfl⟩ := exists_time_of_records h
  obtain ⟨row, hrow, rfl⟩ := List.mem_mapIdx.mp hr
  rw [Record.has, Bool.eq_iff_iff, has_fieldsOf]
  constructor
  · rintro ⟨c', hc', hname', -, hfield⟩
    obtain rfl := Option.some.inj (hc.symm.trans (column?_eq_some.mpr ⟨hc', hname'⟩))
    exact hfield
  · intro hfield
    obtain ⟨hmem, hcname⟩ := column?_eq_some.mp hc
    exact ⟨c, hmem, hcname, hname, hfield⟩

end Frame

end Meteogram
