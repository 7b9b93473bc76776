import StructuralGrading.Decimal.Binary

/-!
# Decimals with fixed places

A double rounded to a number of decimal places.  The exact binary value is rounded, and a value
half way between two decimals goes to the one whose last digit is even.  All digits before the
point are written, and a number that rounds to zero keeps its sign.
-/

namespace StructuralGrading.Decimal

/-- The whole number nearest to a quotient; of two that are equally near, the even one. -/
def roundDiv (numerator denominator : Nat) : Nat :=
  let below := numerator / denominator
  let rest := 2 * (numerator % denominator)
  if rest < denominator then below
  else if denominator < rest then below + 1
  else below + below % 2

/-- A number of hundredths, thousandths and so on, with the point in its place. -/
def pointed (places : Nat) (n : Nat) : List Char :=
  let digits := Nat.toDigits 10 (n % Nat.pow 10 places)
  Nat.toDigits 10 (n / Nat.pow 10 places) ++
    if places = 0 then [] else '.' :: List.replicate (places - digits.length) '0' ++ digits

/-- The text of a double with a fixed number of places. -/
def fixed (places : Nat) (x : Float) : String :=
  match Binary.ofFloat x with
  | .nan => "NaN"
  | .infinite negative => if negative then "-inf" else "inf"
  | .finite negative mantissa exponent =>
    let (numerator, denominator) := fraction mantissa exponent
    let rounded := roundDiv (numerator * Nat.pow 10 places) denominator
    String.ofList ((if negative then ['-'] else []) ++ pointed places rounded)

/-- Scores and points are shown with two places. -/
def points (x : Float) : String := fixed 2 x

end StructuralGrading.Decimal
