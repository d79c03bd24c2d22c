import Meteogram.Archive.Frame
import Meteogram.Archive.Order

/-!
# Summaries of groups

A group of rows is summarised column by column: the least and the greatest cell, the total and the
mean. Missing cells do not count. Of nothing there is no least, greatest or mean cell, but a total
of numbers is zero. Dates and timestamps have a mean, and no total. Where doubles are known to rise
or to fall, the extremes of a group are its first and its last cell, be they numbers or not.
-/

namespace Meteogram

inductive Summary where
  | least
  | greatest
  | total
  | mean
deriving DecidableEq, Repr

/-- The sum of numbers from left to right, `zero` if there are none. -/
def sumOf {α : Type} [Add α] (zero : α) : List α → α
  | [] => zero
  | x :: xs => xs.foldl (· + ·) x

/-- How a mean is formed. Where its sum starts tells negative zeros alone from zero. -/
inductive Averaging where
  /-- The only row of a frame stands for itself. -/
  | alone
  /-- The sum starts from the first number. -/
  | fromFirst
  /-- The sum starts from zero. -/
  | fromZero
deriving DecidableEq, Repr

/-- The sum of numbers from left to right. -/
def Averaging.sum {α : Type} [Add α] (how : Averaging) (zero : α) (xs : List α) : α :=
  match how with
  | .fromZero => xs.foldl (· + ·) zero
  | _ => sumOf zero xs

/-- The quotient of sum and number of doubles. -/
def meanOf? (how : Averaging) (xs : List Float) : Option Float :=
  if xs.isEmpty then none else some (how.sum 0 xs / Float.ofNat xs.length)

/-- The mean of counts, as the whole part of a double. A count that stands for itself is its own mean,
if the double nearest to it fits in a word. -/
def meanCount? (how : Averaging) (xs : List Int64) : Option Int64 :=
  let whole := (meanOf? how (xs.map nearestDouble)).bind wholePart?
  match how, xs with
  | .alone, [x] => whole.map fun _ => x
  | _, _ => whole

/-- The last value that no other comes before. -/
def leastOf? {α : Type} (before : α → α → Bool) : List α → Option α
  | [] => none
  | x :: xs => some (xs.foldl (fun a b => if before a b then a else b) x)

namespace CellType

/-- The type of a total: numbers keep theirs unless it is narrow, truth values are counted. -/
def totalType : CellType → CellType
  | int16 | int8 => int64
  | bool => word32
  | type => type

/-- The type of a mean: integers and truth values have a double, dates a timestamp. -/
def meanType : CellType → CellType
  | int64 | int32 | int16 | int8 | word32 | word64 | bool => double
  | date => ticks .milli
  | type => type

/-- The total of values; what are no numbers have none. -/
def total : (type : CellType) → List type.Value → Option type.totalType.Value
  | int64, xs => some (sumOf 0 xs : Int64)
  | int32, xs => some (sumOf 0 xs : Int32)
  | int16, xs => some (sumOf 0 (xs.map Int16.toInt64) : Int64)
  | int8, xs => some (sumOf 0 (xs.map Int8.toInt64) : Int64)
  | word32, xs => some (sumOf 0 xs : UInt32)
  | word64, xs => some (sumOf 0 xs : UInt64)
  | double, xs => some (sumOf 0 xs : Float)
  | single, xs => some (sumOf 0 xs : Float32)
  | bool, xs => some (UInt32.ofNat (xs.count true))
  | text, _ => none
  | date, _ => none
  | ticks _, _ => none

/-- The mean of values; texts have none. -/
def mean (how : Averaging) : (type : CellType) → List type.Value → Option type.meanType.Value
  | int64, xs => meanOf? how (xs.map nearestDouble)
  | int32, xs => meanOf? how (xs.map fun n => nearestDouble n.toInt64)
  | int16, xs => meanOf? how (xs.map fun n => nearestDouble n.toInt64)
  | int8, xs => meanOf? how (xs.map fun n => nearestDouble n.toInt64)
  | word32, xs => meanOf? how (xs.map UInt32.toFloat)
  | word64, xs => meanOf? how (xs.map UInt64.toFloat)
  | double, xs => meanOf? how xs
  | single, xs =>
    if xs.isEmpty then none
    else some ((how.sum (0 : Float32) xs).toFloat / Float.ofNat xs.length).toFloat32
  | bool, xs => meanOf? how (xs.map fun b => Float.ofNat b.toNat)
  | text, _ => none
  | date, xs =>
    (meanOf? how (xs.map fun n => nearestDouble n.toInt64)).bind fun days =>
      wholePart? (days * 86400000)
  | ticks _, xs => meanCount? how xs

/-- The least of values in an order, if it is known. -/
def least (type : CellType) (order : CellOrder) (xs : List type.Value) : Option type.Value :=
  match type.isFloating, order with
  | true, .rising => xs.head?
  | true, .falling => xs.getLast?
  | _, _ => leastOf? type.before (type.ranked xs)

/-- The greatest of values in an order, if it is known. -/
def greatest (type : CellType) (order : CellOrder) (xs : List type.Value) : Option type.Value :=
  match type.isFloating, order with
  | true, .rising => xs.getLast?
  | true, .falling => xs.head?
  | _, _ => leastOf? (fun a b => type.before b a) (type.ranked xs)

/-- The type of a summary. -/
def summaryType (type : CellType) : Summary → CellType
  | .least => type
  | .greatest => type
  | .total => type.totalType
  | .mean => type.meanType

/-- The summary of the values of a group. -/
def summarise (type : CellType) (order : CellOrder) (how : Averaging) :
    (s : Summary) → List type.Value → Option (type.summaryType s).Value
  | .least, xs => type.least order xs
  | .greatest, xs => type.greatest order xs
  | .total, xs => type.total xs
  | .mean, xs => mean how type xs

end CellType

namespace Column

/-- The order that is known of the cells of parts; where one is missing none is. -/
def orderIn (c : Column) (parts : List Nat) : CellOrder :=
  if c.cells.any (·.isNone) then .unknown else .ofParts c.type.upTo (inParts parts c.cells)

/-- Means of several rows are summed up from zero in a column with missing cells. -/
def averaging (c : Column) (rows : List Nat) : Averaging :=
  if c.cells.length = 1 then .alone
  else if 1 < rows.length ∧ c.cells.any (·.isNone) then .fromZero
  else .fromFirst

/-- One cell per group of rows, under a new name. -/
def summarise (c : Column) (order : CellOrder) (s : Summary) (name : String)
    (groups : List (List Nat)) : Column :=
  ⟨name, c.type.summaryType s,
    groups.map fun rows => c.type.summarise order (c.averaging rows) s (rows.filterMap c.cell)⟩

@[simp] theorem name_summarise (c : Column) (order : CellOrder) (s : Summary) (name : String)
    (groups : List (List Nat)) : (c.summarise order s name groups).name = name := rfl

@[simp] theorem length_summarise (c : Column) (order : CellOrder) (s : Summary) (name : String)
    (groups : List (List Nat)) :
    (c.summarise order s name groups).cells.length = groups.length := by simp [summarise]

end Column

end Meteogram
