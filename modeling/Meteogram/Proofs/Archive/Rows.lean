import Meteogram.Proofs.Archive.RunningTotal
import Meteogram.Proofs.Archive.Times

/-!
# Rows and their records

A frame has one record for each row, in row order, or none at all: it is refused for the first thing
that is wrong with its time column. The record of a row has the time of the row and what the columns
of numbers say in this row, and nothing more, so that all records carry the same fields. Integers of 8
and of 16 bits are left out: such a time column is refused, and such a column of numbers is no field.
-/
namespace Meteogram

/-- Whether cells of the type can be times: integers, dates, timestamps and texts. -/
def CellType.canBeTime : CellType → Bool
  | int64 | int32 | int16 | int8 | word32 | word64 | date | ticks _ | text => true
  | double | single | bool => false

theorem CellType.timeOf?_isSome (type : CellType) :
    type.timeOf?.isSome = (type.canBeTime && !type.isNarrow) := by
  cases type <;> rfl

theorem CellType.timeOf?_eq_none {type : CellType} :
    type.timeOf? = none ↔ type.canBeTime = false ∨ type.isNarrow = true := by
  rw [← Option.isNone_iff_eq_none, ← Option.isSome_eq_false_iff, timeOf?_isSome,
    Bool.and_eq_false_iff, Bool.not_eq_false']

theorem CellType.exists_timeOf?_iff {type : CellType} :
    (∃ timeOf, type.timeOf? = some timeOf) ↔ type.canBeTime = true ∧ type.isNarrow = false := by
  rw [← Option.isSome_iff_exists, timeOf?_isSome, Bool.and_eq_true, Bool.not_eq_true']

namespace Frame

variable {f : Frame} {name : String} {records : List Record}

/-- What is wrong first with a frame whose rows are to become records. -/
inductive RecordsFault (f : Frame) (name : String) : ArchiveError → Prop
  | noColumn (h : ∀ c ∈ f.columns, c.name ≠ name) : RecordsFault f name (.columnNotFound name)
  | unsupported {c : Column} (hc : c ∈ f.columns) (hname : c.name = name)
    (h : c.type.canBeTime = false ∨ c.type.isNarrow = true) :
    RecordsFault f name (.unsupportedTimeColumn name c.type)
  | noTime {c : Column} (hc : c ∈ f.columns) (hname : c.name = name)
    (htype : c.type.canBeTime = true ∧ c.type.isNarrow = false) {row : ℕ}
    (h : c.LacksTimeFirst row) : RecordsFault f name (.invalidTime row)

/-- What the record of a row says: a missing number is a field without a value, and a narrow number is
no field. -/
structure IsRecordOf (f : Frame) (name : String) (row : ℕ) (r : Record) : Prop where
  time : ∃ c ∈ f.columns, c.name = name ∧ c.HasTime row r.time
  has_iff : ∀ field, r.has field = true ↔
    ∃ c ∈ f.columns, c.name = field ∧ field ≠ name ∧
      c.type.isNumeric = true ∧ c.type.isNarrow = false
  get_eq : ∀ c ∈ f.columns, c.name ≠ name → c.type.isNarrow = false →
    ∀ toFloat, c.type.toFloat? = some toFloat → r.get c.name = (c.cell row).map toFloat

theorem records_eq_error_iff {e : ArchiveError} :
    f.records name = .error e ↔ f.RecordsFault name e := by
  constructor
  · intro h
    cases hc : f.column? name with
    | none =>
      rw [Frame.records, hc] at h
      cases h
      refine .noColumn fun c hmem hname => ?_
      rw [column?_eq_some.mpr ⟨hmem, hname⟩] at hc
      cases hc
    | some c =>
      obtain ⟨hmem, rfl⟩ := column?_eq_some.mp hc
      rw [records_eq_error hc] at h
      cases ht : c.type.timeOf? with
      | none =>
        rw [Column.times, ht] at h
        cases h
        exact .unsupported hmem rfl (CellType.timeOf?_eq_none.mp ht)
      | some timeOf =>
        obtain ⟨row, hrow, rfl⟩ := (Column.times_eq_error ht).mp h
        exact .noTime hmem rfl (CellType.exists_timeOf?_iff.mp ⟨timeOf, ht⟩) hrow
  · intro h
    cases h with
    | noColumn h =>
      have hc : f.column? name = none := by simpa [column?] using h
      rw [Frame.records, hc]
    | unsupported hc hname h =>
      subst hname
      rw [records_eq_error (column?_eq_some.mpr ⟨hc, rfl⟩), Column.times,
        CellType.timeOf?_eq_none.mpr h]
    | noTime hc hname htype hrow =>
      obtain ⟨timeOf, ht⟩ := CellType.exists_timeOf?_iff.mpr htype
      rw [records_eq_error (column?_eq_some.mpr ⟨hc, hname⟩), Column.times_eq_error ht]
      exact ⟨_, hrow, rfl⟩

theorem isRecordOf_of_records (h : f.records name = .ok records) {row : ℕ} {r : Record}
    (hr : records[row]? = some r) : f.IsRecordOf name row r := by
  obtain ⟨c, times, hc, htimes, rfl⟩ := exists_time_of_records h
  have hfields : r.fields = fieldsOf (f.fieldColumns name) row := by
    rw [List.getElem?_mapIdx, Option.map_eq_some_iff] at hr
    obtain ⟨time, -, rfl⟩ := hr
    rfl
  refine ⟨?_, fun field => ?_, fun d hd hname hwide toFloat ht => ?_⟩
  · obtain ⟨hmem, hname⟩ := column?_eq_some.mp hc
    cases ht : c.type.timeOf? with
    | none => rw [Column.times, ht] at htimes; cases htimes
    | some timeOf => exact ⟨c, hmem, hname, hasTime_of_records hc ht h hr⟩
  · rw [Record.has, hfields, has_fieldsOf]
    simp only [CellType.isField_eq, Bool.and_eq_true, Bool.not_eq_true']
  · have hcells : d.floats? = some (d.cells.map (·.map toFloat)) := by
      rw [Column.floats?, CellType.fieldOf?_eq_some.mpr ⟨hwide, ht⟩]
      rfl
    rw [Record.get, hfields, get_fieldsOf (column?_eq_some.mpr ⟨hd, rfl⟩) hname hcells, Column.cell,
      List.getElem?_map]
    cases d.cells[row]? with
    | none => rfl
    | some cell => cases cell <;> rfl

/-- A row has no other record. -/
theorem IsRecordOf.unique {row : ℕ} {r r' : Record} (h : f.IsRecordOf name row r)
    (h' : f.IsRecordOf name row r') : r = r' := by
  have htime : r.time = r'.time := by
    obtain ⟨c, hc, hname, ht⟩ := h.time
    obtain ⟨c', hc', hname', ht'⟩ := h'.time
    obtain rfl : c = c' := Option.some.inj
      ((column?_eq_some.mpr ⟨hc, hname⟩).symm.trans (column?_eq_some.mpr ⟨hc', hname'⟩))
    exact ht.eq ht'
  have hhas (field : String) : r.has field = r'.has field := by
    rw [Bool.eq_iff_iff, h.has_iff, h'.has_iff]
  have hget (field : String) : r.get field = r'.get field := by
    cases hfield : r.has field with
    | false =>
      exact (Fields.get_of_has_eq_false hfield).trans
        (Fields.get_of_has_eq_false ((hhas field).symm.trans hfield)).symm
    | true =>
      obtain ⟨c, hc, rfl, hname, hnumeric, hwide⟩ := (h.has_iff field).mp hfield
      obtain ⟨toFloat, ht⟩ := Option.isSome_iff_exists.mp hnumeric
      rw [h.get_eq c hc hname hwide toFloat ht, h'.get_eq c hc hname hwide toFloat ht]
  exact Record.ext_of_has_get htime hhas hget

/-- A frame is refused for what is wrong with its time column and nothing else. Otherwise it has one
record for each row, in their order, and each says what its row says. Narrow integers are no times and
no fields, although they are integers and numbers. -/
theorem records_row_by_row (f : Frame) (name : String) :
    (∀ e, f.records name = .error e ↔ f.RecordsFault name e) ∧
      ∀ records, f.records name = .ok records ↔
        (∀ e, ¬ f.RecordsFault name e) ∧ records.length = f.height ∧
          ∀ row r, records[row]? = some r → f.IsRecordOf name row r := by
  refine ⟨fun e => records_eq_error_iff, fun records => ⟨fun h => ⟨fun e he => ?_,
    length_of_records h, fun row r hr => isRecordOf_of_records h hr⟩, ?_⟩⟩
  · rw [← records_eq_error_iff, h] at he
    cases he
  · rintro ⟨hfault, hlength, hrows⟩
    cases hrecords : f.records name with
    | error e => exact absurd (records_eq_error_iff.mp hrecords) (hfault e)
    | ok records' =>
      refine congrArg Except.ok (List.ext_getElem ?_ fun row hrow hrow' => ?_)
      · rw [hlength, length_of_records hrecords]
      · exact (isRecordOf_of_records hrecords (List.getElem?_eq_getElem hrow)).unique
          (hrows row _ (List.getElem?_eq_getElem hrow'))

/-- A missing number, a column of texts, and a late row whose time is too large for a word with a
sign. -/
theorem records_row_by_row_of_station :
    let station : Frame :=
      { columns := [⟨"time", .int64, [some 1700000000, some 1700000300]⟩,
          ⟨"temp", .double, [some 4.5, none]⟩, ⟨"humidity", .int32, [some 81, some 83]⟩,
          ⟨"name", .text, [some "home", some "home"]⟩]
        height := 2
        height_eq := by simp
        distinct := by decide }
    let late : Frame :=
      { columns := [⟨"time", .word64, [some 5, some 0x8000000000000000]⟩]
        height := 2
        height_eq := by simp
        distinct := by simp }
    (∃ records r, station.records "time" = .ok records ∧ records.length = 2 ∧
      records[1]? = some r ∧ r.time = .number 1700000300 ∧ r.has "temp" = true ∧
      r.get "temp" = none ∧ r.get "humidity" = some 83 ∧ r.has "name" = false) ∧
      late.records "time" = .error (.invalidTime 1) := by
  intro station late
  constructor
  · have htimes : [some 1700000000, some 1700000300].map (·.bind fun n => some (.number n)) =
        [RecordTime.number 1700000000, .number 1700000300].map some := rfl
    have hc : station.column? "time" =
        some ⟨"time", .int64, [some 1700000000, some 1700000300]⟩ := rfl
    obtain ⟨records, hrecords, -⟩ := exists_records hc rfl htimes
    obtain ⟨-, hlength, hrows⟩ := ((records_row_by_row station "time").2 records).mp hrecords
    obtain ⟨r, hr⟩ : ∃ r, records[1]? = some r :=
      ⟨_, List.getElem?_eq_getElem (show 1 < records.length by rw [hlength]; decide)⟩
    have hrow := hrows 1 r hr
    refine ⟨records, r, hrecords, hlength, hr, ?_, ?_, ?_, ?_, ?_⟩
    · have htime := hasTime_of_records hc rfl hrecords hr
      exact htime.eq ⟨_, rfl, .number rfl⟩
    · rw [hrow.has_iff]
      exact ⟨_, .tail _ (.head _), rfl, by decide, rfl, rfl⟩
    · exact hrow.get_eq _ (.tail _ (.head _)) (by decide) rfl _ rfl
    · refine (hrow.get_eq _ (.tail _ (.tail _ (.head _))) (by decide) rfl _ rfl).trans ?_
      decide +kernel
    · rw [Bool.eq_false_iff, ne_eq, hrow.has_iff]
      simp [station, CellType.isNumeric, CellType.toFloat?]
  · rw [(records_row_by_row late "time").1]
    have hc : (⟨"time", .word64, [some 5, some 0x8000000000000000]⟩ : Column) ∈ late.columns :=
      .head _
    have hlacks : (⟨"time", .word64, [some 5, some 0x8000000000000000]⟩ : Column).LacksTimeFirst
        1 := by
      refine ⟨by decide, ?_, ?_⟩
      · rintro time ⟨v, hv, hdenotes⟩
        cases hv
        obtain ⟨n, hn, -⟩ := (CellType.denotes_iff_of_integer rfl).mp hdenotes
        have hlt := n.toInt_lt
        have hbig : ((0x8000000000000000 : UInt64).toNat : ℤ) = 2 ^ 63 := by decide
        omega
      · intro row hrow
        obtain rfl : row = 0 := by omega
        exact ⟨.number 5, _, rfl, .number rfl⟩
    exact .noTime hc rfl ⟨rfl, rfl⟩ hlacks

/-- A humidity of 16 bits is a number, but no record has it, and seconds of 16 bits are integers, but
their column is refused as one that cannot hold times. -/
theorem narrow_left_out :
    let station : Frame :=
      { columns := [⟨"time", .int64, [some 1700000000]⟩, ⟨"humidity", .int16, [some 83]⟩]
        height := 1
        height_eq := by simp
        distinct := by decide }
    let early : Frame :=
      { columns := [⟨"time", .int16, [some 300]⟩, ⟨"temp", .double, [some 4.5]⟩]
        height := 1
        height_eq := by simp
        distinct := by decide }
    (CellType.isNumeric .int16 = true ∧ CellType.canBeTime .int16 = true) ∧
      (∃ r, station.records "time" = .ok [r] ∧ r.has "humidity" = false) ∧
      early.records "time" = .error (.unsupportedTimeColumn "time" .int16) := by
  intro station early
  exact ⟨⟨rfl, rfl⟩, ⟨_, rfl, rfl⟩, rfl⟩

end Frame

end Meteogram
