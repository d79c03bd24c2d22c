import Meteogram.Record.Fields
import Meteogram.Record.Time

/-!
# Records

A record is one observation or one row of an aggregate: a time and the fields observed. As JSON it
is a flat object with the member `time` before the fields. It is read whole before its fields are
judged: the time when it is met, the fields after the end of the object.
-/

namespace Meteogram

structure Record where
  time : RecordTime
  fields : Fields
deriving DecidableEq, Repr

namespace Record

def new (time : RecordTime) : Record := ⟨time, .empty⟩

/-- The value of a field, `none` if the record does not say one. -/
def get (r : Record) (field : String) : Option Float := r.fields.get field

/-- Whether the record carries the field at all. -/
def has (r : Record) (field : String) : Bool := r.fields.has field

def set (r : Record) (field : String) (value : Option Float) : Record :=
  { r with fields := r.fields.set field value }

/-- The record as a flat object. -/
def toJson (r : Record) : Json.Value :=
  .object (("time", r.time.toJson) :: r.fields.entries.map fun (k, v) => (k, .ofFloat? v))

/-- Reads the value of a field from a value that is kept: a number, or nothing. -/
def fieldOfKept (v : Json.Tree) : Json.Result (Option Float) :=
  match v with
  | .null => .ok none
  | .number l => do
    match ← Json.Tree.numberOf l with
    | .natural n => .ok (some n.toUInt64.toFloat)
    | .negative n => .ok (some (-n.natAbs.toUInt64.toFloat))
    | .float x => .ok (some x)
  | v => v.mismatch "f64"

/-- Reads the members of a record: its time, once, and the other members as they are. -/
def decodeMembers (depth : Nat) (time : Option RecordTime) (kept : List (String × Json.Tree)) :
    List (Json.Quoted × Json.Tree) → Json.Result (Option RecordTime × List (String × Json.Tree))
  | [] => .ok (time, kept.reverse)
  | (key, v) :: rest => do
    let key ← Json.Tree.textOf key
    if key = "time" then
      if time.isSome then .error (.data (.duplicateField "time"))
      let t ← RecordTime.decode depth v
      decodeMembers depth (some t) kept rest
    else
      v.keep depth
      decodeMembers depth time ((key, v) :: kept) rest

/-- Judges the kept members in order; of a repeated one the last stays. -/
def setKept (fields : Fields) : List (String × Json.Tree) → Json.Result Fields
  | [] => .ok fields
  | (key, v) :: rest => do setKept (fields.set key (← fieldOfKept v)) rest

def decode : Json.Decoder Record
  | depth, .object members ending => do
    let depth ← Json.Tree.enter depth
    let (time, kept) ← decodeMembers depth none [] members
    Json.Tree.finish ending
    let time ← Json.Decoder.required "time" time
    return ⟨time, ← setKept .empty kept⟩
  | _, v => v.mismatch "struct Record"

end Record

end Meteogram
