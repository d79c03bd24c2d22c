import Meteogram.Text.Digits

/-!
# The double nearest to a decimal

Reading a decimal number with an exponent of any size.
-/

namespace Meteogram.Decimal

def infinity : Float := 1 / 0

/-- The double nearest to `significand * 10 ^ exponent`. Beyond 310 digits before the point it is
infinite, and with 330 zeros behind the point it is zero. -/
def nearest (significand : Nat) (exponent : Int) : Float :=
  let magnitude := (Text.digits significand).length + exponent
  if significand = 0 ∨ magnitude < -330 then 0
  else if 310 < magnitude then infinity
  else if 0 ≤ exponent then OfScientific.ofScientific significand false exponent.toNat
  else OfScientific.ofScientific significand true (-exponent).toNat

end Meteogram.Decimal
