/-!
# Binary numbers

A `Float` taken apart: not a number, an infinity, or a sign and a whole number times a power of
two (`Binary.ofFloat`).  Exact decimal texts are computed from these parts with whole numbers
alone.
-/

namespace StructuralGrading.Decimal

/-- What a `Float` stands for. -/
inductive Binary where
  | nan
  | infinite (negative : Bool)
  /-- The number `mantissa * 2 ^ exponent`, or its negative. -/
  | finite (negative : Bool) (mantissa : Nat) (exponent : Int)
  deriving DecidableEq, Repr

namespace Binary

/-- Reads the 64 bits of a double: a sign, 11 bits of exponent and 52 bits of fraction. -/
def ofBits (bits : Nat) : Binary :=
  let negative := bits.testBit 63
  let power : Nat := bits / Nat.pow 2 52 % Nat.pow 2 11
  let fraction : Nat := bits % Nat.pow 2 52
  if power = 2047 then
    if fraction = 0 then infinite negative else nan
  else if power = 0 then finite negative fraction (-1074)
  else finite negative (Nat.pow 2 52 + fraction) ((power : Int) - 1075)

/-- What a `Float` stands for. -/
def ofFloat (x : Float) : Binary := ofBits x.toBits.toNat

end Binary

/-- The positive infinity. -/
def infinity : Float := Float.ofBits 0x7FF0000000000000

/-- The number that is no number. -/
def notANumber : Float := Float.ofBits 0x7FF8000000000000

/-- A power of two times a whole number, as a fraction of whole numbers. -/
def fraction (mantissa : Nat) (exponent : Int) : Nat × Nat :=
  if 0 ≤ exponent then (mantissa * Nat.pow 2 exponent.toNat, 1)
  else (mantissa, Nat.pow 2 (-exponent).toNat)

end StructuralGrading.Decimal
