/-!
# Known orders

Cells that are put together from parts may be known to rise or to fall. A part of one row is in any
order; of a part of several rows no order is known. Where one part follows another, the cells at
their ends show whether the whole has an order. Cutting into parts loses nothing: `flatten_inParts`.
-/

namespace Meteogram

/-- Cuts a list into parts of the given lengths; what is left is one more part. -/
def inParts {α : Type} : List Nat → List α → List (List α)
  | [], xs => if xs.isEmpty then [] else [xs]
  | n :: ns, xs => xs.take n :: inParts ns (xs.drop n)

theorem flatten_inParts {α : Type} (lengths : List Nat) (xs : List α) :
    (inParts lengths xs).flatten = xs := by
  induction lengths generalizing xs with
  | nil => cases xs <;> simp [inParts]
  | cons n ns ih => simp [inParts, ih]

/-- What is known about the order of cells. -/
inductive CellOrder where
  | unknown
  | rising
  | falling
deriving DecidableEq, Repr

/-- What has to be known of cells to see the order of more of them. -/
structure Stretch (α : Type) where
  rows : Nat
  /-- Whether a cell is there that is not missing. -/
  hasValues : Bool
  first : Option α
  last : Option α
  order : CellOrder

namespace Stretch

variable {α : Type}

/-- The stretch of a part. -/
def ofCells (cells : List (Option α)) : Stretch α where
  rows := cells.length
  hasValues := cells.any (·.isSome)
  first := cells.head?.join
  last := cells.getLast?.join
  order := if cells.length ≤ 1 then .rising else .unknown

/-- Whether the cells are known to be in an order. -/
def isIn (s : Stretch α) (order : CellOrder) : Bool := s.rows ≤ 1 || s.order == order

/-- The order of a stretch and another one after it, given whether a cell may come before another
when they rise. Missing cells have to stand together at one end. -/
def orderWith (upTo : α → α → Bool) (a b : Stretch α) : CellOrder :=
  match a.hasValues, b.hasValues with
  | false, false => .rising
  | false, true => if a.rows = 0 || b.last.isSome then b.order else .unknown
  | true, false => if b.rows = 0 || a.first.isSome then a.order else .unknown
  | true, true =>
    match a.last, b.first with
    | some l, some r =>
      if a.first.isNone && b.last.isNone then .unknown
      else if a.isIn .rising && b.isIn .rising && upTo l r then .rising
      else if a.isIn .falling && b.isIn .falling && upTo r l then .falling
      else .unknown
    | _, _ => .unknown

/-- A stretch and another one after it. -/
def append (upTo : α → α → Bool) (a b : Stretch α) : Stretch α where
  rows := a.rows + b.rows
  hasValues := a.hasValues || b.hasValues
  first := if a.rows = 0 then b.first else a.first
  last := if b.rows = 0 then a.last else b.last
  order := a.orderWith upTo b

end Stretch

/-- The order that is known of the cells of several parts. -/
def CellOrder.ofParts {α : Type} (upTo : α → α → Bool) (parts : List (List (Option α))) :
    CellOrder :=
  match parts.map Stretch.ofCells with
  | [] => .unknown
  | first :: more => (more.foldl (Stretch.append upTo) first).order

end Meteogram
