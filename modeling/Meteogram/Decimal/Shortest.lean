import Meteogram.Decimal.Binary
import Meteogram.Text.Digits

/-!
# The fewest digits that read back

Of all decimal numbers that are nearer to a double than to any other double, `shortest` gives one
with the fewest digits, and among these the nearest. For 1, 2, … 17 digits it looks at the two
neighbours of the value on that decimal grid, in exact arithmetic.
-/

namespace Meteogram.Decimal

/-- The decimal number `digits * 10 ^ exponent`. -/
structure Scaled where
  digits : Nat
  exponent : Int
deriving DecidableEq, Repr

/-- The position `k` of the first digit of a positive quotient: it is below `10 ^ k` and at least
`10 ^ (k - 1)`. No double needs more than 350 places. -/
def magnitude (num den : Nat) : Int :=
  ((Text.digits (num * Nat.pow 10 350 / den)).length : Int) - 350

/-- The numbers that read back as `m * 2 ^ q`: between the halfway points to its two neighbours, as
numerators over one denominator, the halfway points included if `m` is even. The neighbour below a
power of two is half as far away. -/
structure Rounding where
  low : Nat
  value : Nat
  high : Nat
  den : Nat
  closed : Bool

def rounding (m : Nat) (q : Int) : Rounding :=
  let below := if m = smallestNormal ∧ -1074 < q then 1 else 2
  let (value, den) := ratio (4 * m) (q - 2)
  let unit := Nat.pow 2 (q - 2).toNat
  ⟨value - below * unit, value, value + 2 * unit, den, m % 2 == 0⟩

/-- The neighbour of the value on the grid of multiples of `10 ^ e` that reads back, the nearer of
two, the even one of two equally near ones. -/
def onGrid? (r : Rounding) (e : Int) : Option Scaled :=
  let up := Nat.pow 10 (-e).toNat
  let den := r.den * Nat.pow 10 e.toNat
  let inside (n : Nat) : Bool :=
    if r.closed then r.low * up ≤ n * den && n * den ≤ r.high * up
    else r.low * up < n * den && n * den < r.high * up
  let floor := r.value * up / den
  match inside floor, inside (floor + 1) with
  | true, true =>
    let twice := 2 * (r.value * up)
    let middle := (2 * floor + 1) * den
    if twice < middle ∨ (twice = middle ∧ floor % 2 = 0) then some ⟨floor, e⟩
    else some ⟨floor + 1, e⟩
  | true, false => some ⟨floor, e⟩
  | false, true => some ⟨floor + 1, e⟩
  | false, false => none

/-- Moves the zeros at the end of the digits into the exponent. -/
def trimZeros : Nat → Scaled → Scaled
  | 0, s => s
  | more + 1, s =>
    if s.digits % 10 = 0 ∧ s.digits ≠ 0 then trimZeros more ⟨s.digits / 10, s.exponent + 1⟩ else s

/-- The shortest decimal number that reads back as the positive value `m * 2 ^ q`. -/
def shortest (m : Nat) (q : Int) : Scaled :=
  let r := rounding m q
  let k := magnitude r.value r.den
  let found := (List.range 17).findSome? fun n => onGrid? r (k - (n + 1 : Nat))
  trimZeros 17 (found.getD ⟨0, 0⟩)

end Meteogram.Decimal
