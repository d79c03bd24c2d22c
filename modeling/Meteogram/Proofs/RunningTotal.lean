import Meteogram.Proofs.Align.Scale
import Meteogram.Proofs.Record
import Meteogram.RunningTotal

/-!
# Totals that run

The running total at a record is the sum of its field over the records up to this one, from left to
right; annotated records keep their times and all their other fields.
-/
namespace Meteogram

/-- The sum of a field over a record and all records before it; what a record does not say adds
nothing. -/
def totalUpTo (records : List Record) (field : String) (position : ℕ) : Float :=
  (records.take (position + 1)).foldl (fun sum r => sum + (r.get field).getD 0) 0

theorem getElem?_totalsFrom (field : String) (total : Float) (records : List Record) (i : ℕ) :
    (totalsFrom field total records)[i]? = records[i]?.map fun _ =>
      (records.take (i + 1)).foldl (fun sum r => sum + (r.get field).getD 0) total := by
  induction records generalizing total i with
  | nil => rfl
  | cons r rs ih =>
    cases i with
    | zero => simp [totalsFrom]
    | succ i => simp only [totalsFrom, List.getElem?_cons_succ, ih, List.take_succ_cons,
        List.foldl_cons]

theorem getElem?_runningTotal (records : List Record) (field : String) (i : ℕ) :
    (runningTotal records field)[i]? = records[i]?.map fun _ => totalUpTo records field i :=
  getElem?_totalsFrom field 0 records i

theorem getElem?_annotateRunningTotal (records : List Record) (field output : String) (i : ℕ) :
    (annotateRunningTotal records field output)[i]? =
      records[i]?.map fun r => r.set output (some (totalUpTo records field i)) := by
  rw [annotateRunningTotal, List.getElem?_zipWith, getElem?_runningTotal]
  cases records[i]? <;> rfl

/-- What does not change when the total is set is the same for the annotated records. -/
theorem map_annotateRunningTotal {β : Type} {g : Record → β} {output : String}
    (h : ∀ r total, g (r.set output (some total)) = g r) (records : List Record)
    (field : String) : (annotateRunningTotal records field output).map g = records.map g := by
  apply List.ext_getElem?
  intro i
  rw [List.getElem?_map, List.getElem?_map, getElem?_annotateRunningTotal, Option.map_map]
  exact congrArg (records[i]?.map ·) (funext fun r => h r _)

theorem map_time_annotateRunningTotal (records : List Record) (field output : String) :
    (annotateRunningTotal records field output).map (·.time) = records.map (·.time) :=
  map_annotateRunningTotal (fun _ _ => rfl) records field

theorem map_get_annotateRunningTotal {field output : String} (h : field ≠ output)
    (records : List Record) (source : String) :
    (annotateRunningTotal records source output).map (·.get field) = records.map (·.get field) :=
  map_annotateRunningTotal (fun r total => by simp [h]) records source

/-- Annotated records know the total and what they knew before. -/
theorem isKnown_annotateRunningTotal {records : List Record} {field output other : String} :
    IsKnown (annotateRunningTotal records field output) other ↔
      other = output ∧ records ≠ [] ∨ IsKnown records other := by
  constructor
  · rintro ⟨r, hr, hhas⟩
    obtain ⟨i, hi⟩ := List.mem_iff_getElem?.mp hr
    rw [getElem?_annotateRunningTotal, Option.map_eq_some_iff] at hi
    obtain ⟨r, hi, rfl⟩ := hi
    have hmem := List.mem_of_getElem? hi
    rw [Record.has_set, Bool.or_eq_true, beq_iff_eq] at hhas
    exact hhas.imp (fun heq => ⟨heq, List.ne_nil_of_mem hmem⟩) fun hold => ⟨r, hmem, hold⟩
  · intro h
    obtain ⟨r, hr, hhas⟩ : ∃ r ∈ records, other = output ∨ r.has other = true := by
      rcases h with ⟨rfl, hne⟩ | ⟨r, hr, hold⟩
      · obtain ⟨r, hr⟩ := List.exists_mem_of_ne_nil _ hne
        exact ⟨r, hr, .inl rfl⟩
      · exact ⟨r, hr, .inr hold⟩
    obtain ⟨i, hi⟩ := List.mem_iff_getElem?.mp hr
    refine ⟨r.set output (some (totalUpTo records field i)), ?_, by simpa using hhas⟩
    apply List.mem_of_getElem? (i := i)
    rw [getElem?_annotateRunningTotal, hi, Option.map_some]

end Meteogram
