import Meteogram.Calendar.Read
import Meteogram.Calendar.Written
import Meteogram.Json.Decode
import Meteogram.Json.Value

/-!
# Times of records

The time of a record is a bare number or an instant. A number is seconds since 1970-01-01T00:00:00Z
on a calendar axis and a slot on an index axis; the axis decides. Texts become instants as soon as
they are read.
-/

namespace Meteogram

inductive RecordTime where
  | number (n : Int64)
  | instant (t : Instant)
deriving DecidableEq, Repr

namespace RecordTime

/-- The first instant of a day. -/
def ofDayNumber? (n : Int) : Option RecordTime := (Instant.midnight? n).map .instant

/-- What a clock makes of a time, a number being read as seconds since the epoch. An instant is on the
clock already. -/
def reading (time : RecordTime) (offset : Offset) : Reading :=
  match time with
  | number n => offset.reading n.toInt
  | instant t => .shown t

/-- The wall-clock instant, a number being read as seconds since the epoch in the given offset. -/
def toInstant? (time : RecordTime) (offset : Offset) : Option Instant := (time.reading offset).instant?

/-- The number in decimal or the timestamp. -/
def text : RecordTime → String
  | number n => String.ofList (Text.signed n.toInt)
  | instant t => t.iso

def toJson : RecordTime → Json.Value
  | number n => .integer n.toInt
  | instant t => .text t.iso

/-- The reason for which a text is refused as a time. -/
def unrecognised (s : String) : String := "unrecognised time '" ++ s ++ "'"

/-- Reads a time from a value that is kept: an integer of 64 bits or a text. -/
def ofKept (v : Json.Tree) : Json.Result RecordTime :=
  let noShape : Json.Result RecordTime := .error (.data (.noShape "RawTime"))
  match v with
  | .number l => do
    match ← Json.Tree.numberOf l with
    | .natural n => if n < 0x8000000000000000 then .ok (.number (Int64.ofNat n)) else noShape
    | .negative n => .ok (.number (Int64.ofInt n))
    | .float _ => noShape
  | .text s => do
    let s ← Json.Tree.textOf s
    match Instant.read? s with
    | some t => .ok (.instant t)
    | none => .error (.refused (unrecognised s))
  | _ => noShape

def decode : Json.Decoder RecordTime := fun depth v => do
  v.keep depth
  ofKept v

end RecordTime

end Meteogram
