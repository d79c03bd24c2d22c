import Meteogram.Calendar.Read

/-!
# Types of archive cells

An archive is a frame of typed columns whose cells may be missing. Integers with a sign come in four
widths, integers without one and doubles in two; a date is a count of days and a timestamp a count of
ticks since 1970-01-01, both without an offset.
-/

namespace Meteogram

/-- A word without a sign as one with a sign, if it fits. -/
def signedWord? (n : UInt64) : Option Int64 :=
  if n < 0x8000000000000000 then some n.toInt64 else none

/-- The double nearest to a signed word. -/
def nearestDouble (n : Int64) : Float :=
  if n < 0 then 0 - (-n).toUInt64.toFloat else n.toUInt64.toFloat

/-- The whole part of a double as a word of 64 bits, if it fits. -/
def wholePart? (x : Float) : Option Int64 :=
  if -9223372036854775808 ≤ x ∧ x < 9223372036854775808 then
    some (if x < 0 then -(0 - x).toUInt64.toInt64 else x.toUInt64.toInt64)
  else none

/-- The unit in which a timestamp counts. -/
inductive TickUnit where
  | milli
  | micro
  | nano
deriving DecidableEq, Repr

namespace TickUnit

def perSecond : TickUnit → Nat
  | milli => 1000
  | micro => 1000000
  | nano => 1000000000

def name : TickUnit → String
  | milli => "ms"
  | micro => "μs"
  | nano => "ns"

end TickUnit

inductive CellType where
  | int64
  | int32
  | int16
  | int8
  | word32
  | word64
  | double
  | single
  | text
  | bool
  /-- Days since 1970-01-01. -/
  | date
  /-- Ticks since 1970-01-01T00:00:00. -/
  | ticks (unit : TickUnit)
deriving DecidableEq, Repr

namespace CellType

/-- What a cell that is not missing holds. -/
abbrev Value : CellType → Type
  | int64 => Int64
  | int32 => Int32
  | int16 => Int16
  | int8 => Int8
  | word32 => UInt32
  | word64 => UInt64
  | double => Float
  | single => Float32
  | text => String
  | bool => Bool
  | date => Int32
  | ticks _ => Int64

def name : CellType → String
  | int64 => "i64"
  | int32 => "i32"
  | int16 => "i16"
  | int8 => "i8"
  | word32 => "u32"
  | word64 => "u64"
  | double => "f64"
  | single => "f32"
  | text => "str"
  | bool => "bool"
  | date => "date"
  | ticks unit => "datetime[" ++ unit.name ++ "]"

/-- The double nearest to a number, if the type is one of numbers. -/
def toFloat? : (type : CellType) → Option (type.Value → Float)
  | int64 => some nearestDouble
  | int32 => some fun n => nearestDouble n.toInt64
  | int16 => some fun n => nearestDouble n.toInt64
  | int8 => some fun n => nearestDouble n.toInt64
  | word32 => some UInt32.toFloat
  | word64 => some UInt64.toFloat
  | double => some id
  | single => some Float32.toFloat
  | _ => none

/-- Whether cells of the type are numbers. -/
def isNumeric (type : CellType) : Bool := type.toFloat?.isSome

/-- Whether the values are doubles: one may be no number, and two zeros may differ by their sign. -/
def isFloating : CellType → Bool
  | double | single => true
  | _ => false

/-- The values that count when the least or the greatest is asked for: what is not a number counts
only where there is nothing else. -/
def ranked : (type : CellType) → List type.Value → List type.Value
  | double, xs => if xs.all Float.isNaN then xs else xs.filter (!·.isNaN)
  | single, xs => if xs.all Float32.isNaN then xs else xs.filter (!·.isNaN)
  | _, xs => xs

/-- Whether a cell comes before another in increasing order. -/
def before : (type : CellType) → type.Value → type.Value → Bool
  | int64, a, b => a < b
  | int32, a, b => a < b
  | int16, a, b => a < b
  | int8, a, b => a < b
  | word32, a, b => a < b
  | word64, a, b => a < b
  | double, a, b => a < b
  | single, a, b => a < b
  | text, a, b => a < b
  | bool, a, b => !a && b
  | date, a, b => a < b
  | ticks _, a, b => a < b

/-- Whether a cell may come before another in rising order; what is not a number comes last. -/
def upTo : (type : CellType) → type.Value → type.Value → Bool
  | double, a, b => a ≤ b || b.isNaN
  | single, a, b => a ≤ b || b.isNaN
  | type, a, b => !type.before b a

/-- Like `before`, with the missing cells first. -/
def before? (type : CellType) : Option type.Value → Option type.Value → Bool
  | some a, some b => type.before a b
  | none, some _ => true
  | _, none => false

end CellType

end Meteogram
