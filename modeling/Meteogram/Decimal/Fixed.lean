import Meteogram.Decimal.Binary
import Meteogram.Text.Digits

/-!
# A fixed number of places

A double rounded to so many decimal places: its exact binary value, a tie going to the even last
digit.
-/

namespace Meteogram.Decimal

/-- The natural number nearest to a quotient, the even one of two equally near. -/
def roundDiv (num den : Nat) : Nat :=
  let floor := num / den
  let twice := 2 * (num % den)
  if twice < den ∨ (twice = den ∧ floor % 2 = 0) then floor else floor + 1

/-- A count of units of `10 ^ -places`, with a point before the last `places` digits. -/
def placesChars (places units : Nat) : List Char :=
  let ds := Text.padded (places + 1) units
  let whole := ds.take (ds.length - places)
  if places = 0 then whole else whole ++ '.' :: ds.drop (ds.length - places)

/-- The text of a double with a fixed number of places. A negative zero keeps its sign, and so does
a negative number that rounds to zero. -/
def fixed (places : Nat) (x : Float) : String :=
  match Binary.ofFloat x with
  | .notANumber => "NaN"
  | .infinite negative => if negative then "-inf" else "inf"
  | .finite negative m q =>
    let (num, den) := ratio m q
    let body := placesChars places (roundDiv (num * Nat.pow 10 places) den)
    String.ofList (if negative then '-' :: body else body)

end Meteogram.Decimal
