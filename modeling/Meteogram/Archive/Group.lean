import Meteogram.Archive.Summary
import Meteogram.Archive.Window

/-!
# Groups of rows

Rows are grouped by a day, or by nothing where the day is unknown. The groups come in increasing
order of their days, the rows without a day first. A plan says which columns are summarised and under
which names; `Frame.summarise` has one row per group, whose time is the day.
-/

namespace Meteogram

/-- A count of days since 1970-01-01, if it is known. -/
abbrev DayKey := Option Int32

namespace DayKey

/-- Earlier days come first, and before them no day at all. -/
def before : DayKey → DayKey → Bool
  | some a, some b => a < b
  | none, some _ => true
  | _, none => false

/-- Puts a key in its place in an increasing list, unless it is there. -/
def insertInto (k : DayKey) : List DayKey → List DayKey
  | [] => [k]
  | a :: rest =>
    if before k a then k :: a :: rest else if before a k then a :: insertInto k rest else a :: rest

/-- The different keys of rows in increasing order. -/
def distinct (keys : List DayKey) : List DayKey := keys.foldr insertInto []

end DayKey

/-- The rows of one day. -/
structure Group where
  day : DayKey
  rows : List Nat
deriving DecidableEq, Repr

namespace Group

/-- The rows with a key. -/
def rowsOf (keys : List DayKey) (day : DayKey) : List Nat :=
  (List.range keys.length).filter fun row => keys[row]? == some day

/-- The groups of rows with the given keys. -/
def ofKeys (keys : List DayKey) : List Group :=
  (DayKey.distinct keys).map fun day => ⟨day, rowsOf keys day⟩

end Group

/-- One summarised column. -/
structure PlanStep where
  source : String
  summary : Summary
  output : String
deriving DecidableEq, Repr

/-- The summarised columns beside the time, under different names. -/
structure Plan where
  steps : List PlanStep
  distinct : (Frame.timeName :: steps.map (·.output)).Nodup

namespace Frame

/-- The columns of a plan for groups of rows. -/
def summaryColumns (f : Frame) (groups : List (List Nat)) :
    List PlanStep → Except FrameError (List Column)
  | [] => .ok []
  | p :: ps => do
    let c ← f.column p.source
    let summary := c.summarise (c.orderIn f.parts) p.summary p.output groups
    return summary :: (← f.summaryColumns groups ps)

theorem of_summaryColumns {f : Frame} {groups : List (List Nat)} {steps : List PlanStep}
    {columns : List Column} (h : f.summaryColumns groups steps = .ok columns) :
    columns.map (·.name) = steps.map (·.output) ∧
      ∀ c ∈ columns, c.cells.length = groups.length := by
  induction steps generalizing columns with
  | nil => cases h; simp
  | cons p ps ih =>
    simp only [summaryColumns] at h
    cases hc : f.column p.source with
    | error e => rw [hc] at h; cases h
    | ok c =>
      rw [hc] at h
      cases hr : f.summaryColumns groups ps with
      | error e => rw [hr] at h; cases h
      | ok rest =>
        rw [hr] at h
        cases h
        obtain ⟨names, lengths⟩ := ih hr
        constructor
        · simp [names]
        · intro d hd
          rcases List.mem_cons.1 hd with rfl | hd
          · simp
          · exact lengths d hd

/-- The days of groups as a column of dates. -/
def timeColumn (groups : List Group) : Column := ⟨timeName, .date, groups.map (·.day)⟩

/-- One row per group: its day, and the summaries of the plan. -/
def summarise (f : Frame) (plan : Plan) (groups : List Group) : Except FrameError Frame :=
  match h : f.summaryColumns (groups.map (·.rows)) plan.steps with
  | .error e => .error e
  | .ok columns =>
    .ok {
      columns := timeColumn groups :: columns
      height := groups.length
      height_eq := by
        intro c hc
        rcases List.mem_cons.1 hc with rfl | hc
        · simp [timeColumn]
        · simpa using (of_summaryColumns h).2 c hc
      distinct := by
        rw [List.map_cons, (of_summaryColumns h).1]
        exact plan.distinct }

end Frame

end Meteogram
