import Meteogram.Archive.RunningTotal
import Meteogram.Proofs.Archive.Group
import Meteogram.Proofs.Archive.Records
import Meteogram.RunningTotal

/-!
# Running totals of columns and of records

A frame may be given the running total of a column before its rows become records, or its records
may be given the running total of the field. Both add the same doubles from left to right, a missing
value being zero, so the records are the same. Only the name that stands for all columns names no
column of a frame that has a time column beside it.
-/
namespace Meteogram

theorem totalsFrom_eq_sumsFrom (field : String) (sum : Float) (records : List Record) :
    totalsFrom field sum records = sumsFrom sum (records.map fun r => (r.get field).getD 0) := by
  induction records generalizing sum with
  | nil => rfl
  | cons r rs ih => rw [totalsFrom, List.map_cons, sumsFrom, ih]

/-- The total of a field is the total of its values. -/
theorem runningTotal_eq_sumsFrom {records : List Record} {field : String}
    {values : List (Option Float)} (h : records.map (·.get field) = values) :
    runningTotal records field = sumsFrom 0 (values.map (·.getD 0)) := by
  rw [runningTotal, totalsFrom_eq_sumsFrom, ← h, List.map_map]
  rfl

theorem annotateRunningTotal_eq_mapIdx (records : List Record) (field output : String) :
    annotateRunningTotal records field output =
      records.mapIdx fun row r => r.set output (runningTotal records field)[row]? := by
  apply List.ext_getElem
  · simp [annotateRunningTotal]
  · intro row hrow _
    have hlt : row < (runningTotal records field).length := by
      simpa [annotateRunningTotal] using hrow
    simp [annotateRunningTotal, List.getElem?_eq_getElem hlt]

namespace Fields

theorem get_foldl_set_of_not_mem {columns : List (String × List (Option Float))} {row : ℕ}
    {fields : Fields} {name : String} (h : name ∉ columns.map (·.1)) :
    (columns.foldl (fun fields column => fields.set column.1 (column.2[row]?).join) fields).get
      name = fields.get name := by
  induction columns generalizing fields with
  | nil => rfl
  | cons column columns ih =>
    rw [List.map_cons, List.mem_cons, not_or] at h
    rw [List.foldl_cons, ih h.2, get_set, if_neg h.1]

/-- A row says of a column what its cell in the row says. -/
theorem get_foldl_set {columns : List (String × List (Option Float))} {row : ℕ} {fields : Fields}
    (hdistinct : (columns.map (·.1)).Nodup) {name : String} {cells : List (Option Float)}
    (h : (name, cells) ∈ columns) :
    (columns.foldl (fun fields column => fields.set column.1 (column.2[row]?).join) fields).get
      name = (cells[row]?).join := by
  induction columns generalizing fields with
  | nil => cases h
  | cons column columns ih =>
    rw [List.map_cons, List.nodup_cons] at hdistinct
    rw [List.foldl_cons]
    rcases List.mem_cons.mp h with rfl | h
    · rw [get_foldl_set_of_not_mem hdistinct.1, get_set, if_pos rfl]
    · exact ih hdistinct.2 h

end Fields

namespace Frame

variable {f g : Frame} {timeColumn field output : String} {c total : Column}
  {records : List Record}

theorem nodup_fieldColumns (f : Frame) (timeColumn : String) :
    ((f.fieldColumns timeColumn).map (·.1)).Nodup := by
  have hnames : ((f.fieldColumns timeColumn).map (·.1)).Sublist (f.columns.map (·.name)) := by
    unfold fieldColumns
    induction f.columns with
    | nil => exact .slnil
    | cons c columns ih =>
      rw [List.filterMap_cons, List.map_cons]
      cases hcells : c.floats? with
      | none => simpa using ih.cons c.name
      | some cells =>
        by_cases hc : c.name = timeColumn
        · simpa [hc] using ih.cons timeColumn
        · simpa [hc] using ih.cons_cons c.name
  exact hnames.nodup f.distinct

/-- A record says of a column of doubles what the column has in its row. -/
theorem get_fieldsOf (hc : f.column? field = some c) (hfield : field ≠ timeColumn)
    {cells : List (Option Float)} (hcells : c.floats? = some cells) (row : ℕ) :
    (fieldsOf (f.fieldColumns timeColumn) row).get field = (cells[row]?).join := by
  obtain ⟨hmem, rfl⟩ := column?_eq_some.mp hc
  refine Fields.get_foldl_set (f.nodup_fieldColumns timeColumn) ?_
  rw [fieldColumns, List.mem_filterMap]
  exact ⟨c, hmem, by rw [if_neg hfield, hcells]; rfl⟩

theorem columns_withColumn_of_new (hnew : f.column? total.name = none)
    (h : total.cells.length = f.height) :
    (f.withColumn total h).columns = f.columns ++ [total] := by
  have hnot : total.name ∉ f.columns.map (·.name) := by
    intro hmem
    obtain ⟨c, hc, hname⟩ := List.mem_map.mp hmem
    rw [column?_eq_some.mpr ⟨hc, hname⟩] at hnew
    cases hnew
  rw [withColumn, dif_neg hnot]

theorem runningTotal_of_column (hcolumns : f.columnsNamed field = .ok [c])
    (htotal : c.runningTotal? output = some total) :
    ∃ h, f.runningTotal field output = .ok (f.withColumn total h) := by
  have hlength : total.cells.length = f.height := by
    rw [Column.length_of_runningTotal? htotal]
    exact f.height_eq c (mem_of_columnsNamed hcolumns (List.mem_singleton_self c))
  refine ⟨hlength, ?_⟩
  unfold runningTotal
  split
  · next hc => rw [hcolumns] at hc; cases hc
  · next hc => rw [hcolumns] at hc; cases hc
  · next c' hc =>
    rw [hcolumns] at hc
    cases hc
    split
    · next ht => rw [htotal] at ht; cases ht
    · next total' ht =>
      rw [htotal] at ht
      cases ht
      rfl
  · next hone hc => exact absurd (Except.ok.inj (hc.symm.trans hcolumns)) (hone c)

/-- A name that stands for more than one column is refused. -/
theorem runningTotal_of_several {a b : Column} {columns : List Column}
    (hcolumns : f.columnsNamed field = .ok (a :: b :: columns)) :
    f.runningTotal field output = .error (.severalColumns field) := by
  unfold runningTotal
  split
  · next hc => rw [hcolumns] at hc; cases hc
  · next hc => rw [hcolumns] at hc; cases hc
  · next hc => rw [hcolumns] at hc; cases hc
  · rfl

theorem length_of_records (h : f.records timeColumn = .ok records) :
    records.length = f.height := by
  obtain ⟨t, times, ht, htimes, rfl⟩ := exists_time_of_records h
  rw [List.length_mapIdx, ← f.height_eq t (mem_of_column? ht)]
  unfold Column.times at htimes
  split at htimes
  · have hlength := congrArg List.length (Column.timesFrom_eq_ok.mp htimes)
    simpa using hlength.symm
  · cases htimes

/-- The values of a field are the cells of its column. -/
theorem map_get_of_records (h : f.records timeColumn = .ok records)
    (hc : f.column? field = some c) (hfield : field ≠ timeColumn)
    {cells : List (Option Float)} (hcells : c.floats? = some cells) :
    records.map (·.get field) = cells := by
  have hlength : cells.length = records.length := by
    obtain ⟨toFloat, -, rfl⟩ := Option.map_eq_some_iff.mp hcells
    rw [List.length_map, f.height_eq c (mem_of_column? hc), length_of_records h]
  obtain ⟨t, times, -, -, rfl⟩ := exists_time_of_records h
  apply List.ext_getElem
  · rw [List.length_map, hlength]
  · intro row _ hrow
    have hget := get_fieldsOf hc hfield hcells row
    rw [List.getElem?_eq_getElem hrow, Option.join_some] at hget
    rw [List.getElem_map, List.getElem_mapIdx]
    exact hget

/-- Records of a frame to which a column of numbers is added say what its cells are. -/
theorem records_of_append (h : f.records timeColumn = .ok records)
    (hcolumns : g.columns = f.columns ++ [total]) (hname : total.name ≠ timeColumn)
    {cells : List (Option Float)} (hcells : total.floats? = some cells) :
    g.records timeColumn =
      .ok (records.mapIdx fun row r => r.set total.name (cells[row]?).join) := by
  have hfields : g.fieldColumns timeColumn =
      f.fieldColumns timeColumn ++ [(total.name, cells)] := by
    simp [fieldColumns, hcolumns, hname, hcells]
  obtain ⟨t, times, ht, htimes, rfl⟩ := exists_time_of_records h
  have ht' : g.column? timeColumn = some t := by
    rw [column?] at ht
    rw [column?, hcolumns, List.find?_append, ht, Option.some_or]
  simp only [Frame.records, ht', htimes, Except.ok_bind, hfields]
  simp [fieldsOf, pure, Except.pure, List.mapIdx_mapIdx, Record.set, Function.comp_def]

theorem ne_of_records (h : f.records timeColumn = .ok records) (hc : f.column? field = some c)
    (htype : c.type = .double) : field ≠ timeColumn := by
  rintro rfl
  obtain ⟨name, type, cells⟩ := c
  cases htype
  simp only [Frame.records, hc] at h
  cases h

/-- A column of doubles is not the only one. -/
theorem exists_columns_of_records (h : f.records timeColumn = .ok records)
    (hc : f.column? field = some c) (htype : c.type = .double) :
    ∃ a b columns, f.columns = a :: b :: columns := by
  have hne := ne_of_records h hc htype
  obtain ⟨t, -, ht, -⟩ := exists_time_of_records h
  obtain ⟨hcmem, hcname⟩ := column?_eq_some.mp hc
  obtain ⟨htmem, htname⟩ := column?_eq_some.mp ht
  match hcolumns : f.columns with
  | [] => rw [hcolumns] at hcmem; cases hcmem
  | [a] =>
    rw [hcolumns, List.mem_singleton] at hcmem htmem
    rw [← hcname, ← htname, hcmem, htmem] at hne
    exact absurd rfl hne
  | a :: b :: columns => exact ⟨a, b, columns, rfl⟩

/-- The running total of a column of doubles is found in the records that are annotated with the
running total of the field, and nothing else changes in them, unless the name of the column stands
for all columns: then there is no total. -/
theorem records_of_runningTotal_iff (h : f.records timeColumn = .ok records)
    (hc : f.column? field = some c) (htype : c.type = .double) (hnew : f.column? output = none) :
    (∃ g, f.runningTotal field output = .ok g ∧
      g.records timeColumn = .ok (annotateRunningTotal records field output)) ↔ field ≠ "*" := by
  constructor
  · rintro ⟨g, hg, -⟩ rfl
    obtain ⟨a, b, columns, hcolumns⟩ := exists_columns_of_records h hc htype
    have hseveral : f.columnsNamed "*" = .ok (a :: b :: columns) := by
      rw [columnsNamed, if_pos rfl, hcolumns]
    rw [runningTotal_of_several hseveral] at hg
    cases hg
  · intro hstar
    obtain ⟨name, type, cells⟩ := c
    cases htype
    have hnamed : f.columnsNamed field = .ok [⟨name, .double, cells⟩] := by
      rw [columnsNamed, if_neg hstar, column_eq_ok.mpr hc]
      rfl
    obtain ⟨hlength, hg⟩ : ∃ hlength, f.runningTotal field output = .ok (f.withColumn
        ⟨output, .double, (sumsFrom 0 (cells.map fun cell => (cell.map id).getD 0)).map some⟩
          hlength) := runningTotal_of_column hnamed rfl
    refine ⟨_, hg, ?_⟩
    have houtput : output ≠ timeColumn := by
      rintro rfl
      obtain ⟨t, -, ht, -⟩ := exists_time_of_records h
      rw [hnew] at ht
      cases ht
    have hvalues : records.map (·.get field) = cells := by
      rw [map_get_of_records h hc (ne_of_records h hc rfl) rfl]
      exact List.map_id'' (fun _ => Option.map_id') cells
    rw [records_of_append h (columns_withColumn_of_new hnew hlength) houtput rfl,
      annotateRunningTotal_eq_mapIdx, runningTotal_eq_sumsFrom hvalues]
    have hjoin (o : Option Float) : (o.map some).join = o := by cases o <;> rfl
    simp [Function.comp_def, hjoin]

/-- Four readings under a name, of which one is missing. -/
def readings (name : String) (h : name ≠ "time") : Frame where
  columns := [⟨"time", .int64, [some 1, some 2, some 3, some 4]⟩,
    ⟨name, .double, [some 1, some 2.5, none, some 4]⟩]
  height := 4
  height_eq := by simp
  distinct := by simpa using h.symm

theorem column?_readings (name : String) (h : name ≠ "time") :
    (readings name h).column? name =
      some ⟨name, .double, [some 1, some 2.5, none, some 4]⟩ := by
  have hname : ("time" == name) = false := beq_false_of_ne h.symm
  simp [column?, readings, hname]

theorem exists_records_of_readings (name : String) (h : name ≠ "time") :
    ∃ records, (readings name h).records "time" = .ok records ∧
      Meteogram.runningTotal records name = [1, 3.5, 3.5, 7.5] := by
  have htime : (readings name h).column? "time" =
      some ⟨"time", .int64, [some 1, some 2, some 3, some 4]⟩ := rfl
  have htimes : [some 1, some 2, some 3, some 4].map (·.bind fun n => some (.number n)) =
      [RecordTime.number 1, .number 2, .number 3, .number 4].map some := rfl
  obtain ⟨records, hrecords, -⟩ := exists_records htime rfl htimes
  have hvalues : records.map (·.get name) = [some 1, some 2.5, none, some 4] :=
    map_get_of_records hrecords (column?_readings name h) h rfl
  refine ⟨records, hrecords, ?_⟩
  rw [runningTotal_eq_sumsFrom hvalues]
  decide +kernel

theorem records_of_total_of_rain :
    let frame := readings "rain" (by decide)
    ∃ records g, frame.records "time" = .ok records ∧
      Meteogram.runningTotal records "rain" = [1, 3.5, 3.5, 7.5] ∧
      frame.runningTotal "rain" "total" = .ok g ∧
      g.records "time" = .ok (annotateRunningTotal records "rain" "total") := by
  intro frame
  obtain ⟨records, hrecords, htotals⟩ := exists_records_of_readings "rain" (by decide)
  have hnew : frame.column? "total" = none := rfl
  obtain ⟨g, hg, hall⟩ :=
    (records_of_runningTotal_iff hrecords (column?_readings "rain" (by decide)) rfl hnew).mpr
      (by decide)
  exact ⟨records, g, hrecords, htotals, hg, hall⟩

/-- A column may bear the name that stands for all. Its records have a total, the frame has none. -/
theorem runningTotal_of_star :
    let frame := readings "*" (by decide)
    ∃ records, frame.records "time" = .ok records ∧
      Meteogram.runningTotal records "*" = [1, 3.5, 3.5, 7.5] ∧
      frame.runningTotal "*" "total" = .error (.severalColumns "*") := by
  intro frame
  obtain ⟨records, hrecords, htotals⟩ := exists_records_of_readings "*" (by decide)
  exact ⟨records, hrecords, htotals, runningTotal_of_several rfl⟩

end Frame

end Meteogram
