import Meteogram.Record

/-!
# Running totals

The sum of a field over a record and all records before it, in record order. A record that does not
say a value adds nothing. Annotated records carry the total as one more field.
-/

namespace Meteogram

/-- The sums from `total` on, one per record. -/
def totalsFrom (field : String) (total : Float) : List Record → List Float
  | [] => []
  | r :: rs =>
    let total := total + (r.get field).getD 0
    total :: totalsFrom field total rs

/-- The running total of a field. -/
def runningTotal (records : List Record) (field : String) : List Float :=
  totalsFrom field 0 records

@[simp] theorem length_totalsFrom (field : String) (total : Float) (records : List Record) :
    (totalsFrom field total records).length = records.length := by
  induction records generalizing total with
  | nil => rfl
  | cons r rs ih => simp [totalsFrom, ih]

@[simp] theorem length_runningTotal (records : List Record) (field : String) :
    (runningTotal records field).length = records.length := length_totalsFrom ..

/-- The records, each with its running total of `field` under the name `output`. -/
def annotateRunningTotal (records : List Record) (field output : String) : List Record :=
  records.zipWith (fun r total => r.set output (some total)) (runningTotal records field)

end Meteogram
