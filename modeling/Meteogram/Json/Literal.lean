import Meteogram.Text.Digits

/-!
# Number literals and what they denote

A JSON number keeps its digits until someone uses it. `Literal.number?` then gives a 64-bit word, a
negative 64-bit integer or a double. Of the digits, those that fit in a 64-bit word count; the
rest only move the point. A double is that word rounded and then scaled by a power of ten in one
multiplication or division.
-/

namespace Meteogram.Json

/-- The digits of a number as they are written. -/
structure Literal where
  negative : Bool
  whole : List Char
  fraction : List Char
  /-- Sign and digits of the exponent. -/
  exponent : Option (Bool × List Char)
  /-- Whether there is a point, and so at least one digit after it. -/
  hasPoint : Bool
deriving DecidableEq, Repr

/-- What a number literal denotes. -/
inductive Number where
  | natural (n : Nat)
  /-- An integer below zero. -/
  | negative (n : Int)
  | float (x : Float)
deriving DecidableEq, Repr

/-- Appends digits to a number while it fits in 64 bits; the digits that are left come back. -/
def appendDigits : Nat → List Char → Nat × List Char
  | n, [] => (n, [])
  | n, d :: ds =>
    let m := 10 * n + Text.digitValue d
    if m < UInt64.size then appendDigits m ds else (n, d :: ds)

/-- The double nearest to a power of ten. -/
def powerOfTen (k : Nat) : Float := OfScientific.ofScientific 1 false k

/-- Divides by a power of ten, by `10 ^ 308` at a time. -/
def scaleDown (x : Float) (k : Nat) : Float :=
  if k ≤ 308 then x / powerOfTen k
  else if x == 0 then x
  else scaleDown (x / powerOfTen 308) (k - 308)
termination_by k

/-- Multiplies by a power of ten, unless the result is too large for a double. -/
def scaleUp? (x : Float) (k : Nat) : Option Float :=
  if k ≤ 308 then
    let y := x * powerOfTen k
    if y.isInf then none else some y
  else if x == 0 then some x
  else none

def scale? (x : Float) (e : Int) : Option Float :=
  if 0 ≤ e then scaleUp? x e.toNat else some (scaleDown x (-e).toNat)

namespace Literal

/-- The power of ten that the written exponent adds. -/
def exponentValue (l : Literal) : Int :=
  match l.exponent with
  | none => 0
  | some (negative, ds) => if negative then -(Text.valueOf ds : Int) else Text.valueOf ds

/-- The double that a literal denotes; `none` if it is too large. -/
def float? (l : Literal) : Option Float :=
  let (n, dropped) := appendDigits 0 l.whole
  let (significand, unused) := appendDigits n l.fraction
  let places : Int := (l.fraction.length : Int) - unused.length
  let x := (scale? significand.toUInt64.toFloat (dropped.length - places + l.exponentValue))
  x.map fun x => if l.negative then -x else x

/-- What a literal denotes. An integer that does not fit in 64 bits is a double, and so is a
negative zero. -/
def number? (l : Literal) : Option Number :=
  if l.hasPoint || l.exponent.isSome then l.float?.map .float
  else
    match appendDigits 0 l.whole with
    | (n, []) =>
      if l.negative then
        if 0 < n ∧ n ≤ 0x8000000000000000 then some (.negative (-(n : Int)))
        else some (.float (-n.toUInt64.toFloat))
      else some (.natural n)
    | _ => l.float?.map .float

end Literal

end Meteogram.Json
