/-!
# The exact value of a double

A finite double is a sign, a natural number and a power of two. `Binary.ofFloat` takes these from
the bit pattern, so what is said about a printed number is said about naturals.
-/

namespace Meteogram.Decimal

/-- What the bit pattern of a double says. -/
inductive Binary where
  | notANumber
  | infinite (negative : Bool)
  /-- The value `significand * 2 ^ exponent` with a sign. -/
  | finite (negative : Bool) (significand : Nat) (exponent : Int)
deriving DecidableEq, Repr

/-- The least significand of a double with all its 53 bits: `2 ^ 52`. -/
def smallestNormal : Nat := 0x10000000000000

namespace Binary

/-- Reads the sign, the eleven exponent bits and the 52 fraction bits. -/
def ofBits (bits : Nat) : Binary :=
  let negative := bits / 0x8000000000000000 % 2 == 1
  let exponent : Nat := bits / smallestNormal % 2048
  let fraction := bits % smallestNormal
  if exponent = 2047 then
    if fraction = 0 then .infinite negative else .notANumber
  else if exponent = 0 then .finite negative fraction (-1074)
  else .finite negative (smallestNormal + fraction) ((exponent : Int) - 1075)

def ofFloat (x : Float) : Binary := ofBits x.toBits.toNat

end Binary

/-- Numerator and denominator of `n * 2 ^ e`. -/
def ratio (n : Nat) (e : Int) : Nat × Nat := (n * Nat.pow 2 e.toNat, Nat.pow 2 (-e).toNat)

end Meteogram.Decimal
