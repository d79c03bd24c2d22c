import Meteogram.IndexRange
import Meteogram.Json.Decode
import Meteogram.Json.Value

/-!
# Written ranges

A range of slots as JSON: an object whose member `kind` names it, with the numbers it needs beside
it. It is kept whole before its numbers are judged.
-/

namespace Meteogram

namespace IndexRange

open Json Json.Decoder

/-- The kinds of range by the names that texts use. -/
inductive Kind where
  | hoursOfDay
  | daysOfMonth
  | monthsOfYear
  | span
deriving DecidableEq, Repr

def kinds : List (String × Kind) :=
  [("hours_of_day", .hoursOfDay), ("days_of_month", .daysOfMonth),
    ("months_of_year", .monthsOfYear), ("span", .span)]

/-- A word of 32 bits. -/
def word : Json.Decoder Int := integer 0 4294967295 "u32"

def signedWord : Json.Decoder Int := integer (-2147483648) 2147483647 "i32"

/-- Two named numbers of a range. -/
structure Pair where
  first : Option Int
  second : Option Int

/-- Reads the kind of a range and keeps its other members. -/
def decodeKind (depth : Nat) (kind : Option Kind) (kept : List (Quoted × Tree)) :
    List (Quoted × Tree) → Json.Result (Option Kind × List (Quoted × Tree))
  | [] => .ok (kind, kept.reverse)
  | (key, v) :: rest => do
    let name ← Tree.textOf key
    if name = "kind" then
      if kind.isSome then .error (.data (.duplicateField "kind"))
      let k ← kindOf v
      decodeKind depth (some k) kept rest
    else
      v.keep depth
      decodeKind depth kind ((key, v) :: kept) rest
where
  kindOf : Tree → Json.Result Kind
    | .text s => do variant kinds (← Tree.textOf s)
    | v => v.mismatch "variant identifier"

/-- Two numbers under their names, or one after the other. -/
def decodePair (type first second : String) (decodeFirst : Json.Decoder Int)
    (v : List (Quoted × Tree) ⊕ List Tree) : Json.Result (Int × Int) :=
  match v with
  | .inl kept => do
    let fields : Decoder.Fields Pair := {
      member := fun s key depth v =>
        if key = first then do
          return some { s with first := ← once key s.first decodeFirst depth v }
        else if key = second then do
          return some { s with second := ← once key s.second word depth v }
        else .ok none }
    let s ← Decoder.members fields depthLimit ⟨none, none⟩ kept
    return (← required first s.first, ← required second s.second)
  | .inr items =>
    let expected := "struct variant IndexRange::" ++ type ++ " with 2 elements"
    match items with
    | [] => .error (.data (.invalidLength 0 expected))
    | [a] => do
      let _ ← decodeFirst depthLimit a
      .error (.data (.invalidLength 1 expected))
    | a :: b :: more => do
      let first ← decodeFirst depthLimit a
      let second ← word depthLimit b
      if more.isEmpty then return (first, second)
      .error (.data (.invalidLength (2 + more.length) "2 elements in sequence"))

/-- A range of the given kind from the rest of its members or items. -/
def ofKind (kind : Kind) (v : List (Quoted × Tree) ⊕ List Tree) : Json.Result IndexRange :=
  let bare (r : IndexRange) : Json.Result IndexRange :=
    match v with
    | .inl _ | .inr [] => .ok r
    | .inr items => .error (.data (.invalidLength items.length "0 elements in sequence"))
  match kind with
  | .hoursOfDay => bare hoursOfDay
  | .monthsOfYear => bare monthsOfYear
  | .daysOfMonth => do
    let (year, month) ← decodePair "DaysOfMonth" "year" "month" signedWord v
    return daysOfMonth year month.toNat
  | .span => do
    let (first, count) ← decodePair "Span" "first" "count" word v
    return span first.toNat count.toNat

/-- A range is an object whose member `kind` names it, or an array that begins with the name. -/
def decode : Json.Decoder IndexRange
  | depth, .object members ending => do
    let depth ← Tree.enter depth
    let (kind, kept) ← decodeKind depth none [] members
    Tree.finish ending
    ofKind (← required "kind" kind) (.inl kept)
  | depth, .array items ending => do
    let depth ← Tree.enter depth
    match items with
    | [] => do
      Tree.finish ending
      .error (.data (.missingField "kind"))
    | k :: rest => do
      let kind ← decodeKind.kindOf k
      Tree.keepItems depth rest
      Tree.finish ending
      ofKind kind (.inr rest)
  | _, v => v.mismatch "internally tagged enum IndexRange"

def toJson : IndexRange → Json.Value
  | hoursOfDay => .object [("kind", .text "hours_of_day")]
  | daysOfMonth year month =>
    .object [("kind", .text "days_of_month"), ("year", .integer year), ("month", .integer month)]
  | monthsOfYear => .object [("kind", .text "months_of_year")]
  | span first count =>
    .object [("kind", .text "span"), ("first", .integer first), ("count", .integer count)]

end IndexRange

end Meteogram
