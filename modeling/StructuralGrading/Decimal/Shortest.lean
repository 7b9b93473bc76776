import StructuralGrading.Decimal.Binary

/-!
# Shortest decimals

The shortest decimal that reads back as a given double: of all decimals that round to it, one
with the fewest digits, and of those the nearest.

The numbers that round to a double form an interval around it, whose ends belong to it if the
mantissa is even (`Neighbourhood`).  For 1, 2, ... 17 digits the two decimals next to the
double with that many digits are tried; the first count with a hit wins.  Where both hit and are
equally near, a `Tie` decides.

How the digits are laid out is the matter of a `Layout`.
-/

namespace StructuralGrading.Decimal

/-- Which of two equally near decimals is taken. -/
inductive Tie where
  /-- The one whose last digit is even. -/
  | toEven
  | toUpper
  deriving DecidableEq, Repr

/-- Whether the lower of two equally near decimals is taken, by its digits. -/
def Tie.takesLower (t : Tie) (lower : Nat) : Bool :=
  match t with
  | toEven => lower % 2 == 0
  | toUpper => false

/-- A number `value / denominator`, and the interval of the numbers that round to it. -/
structure Neighbourhood where
  low : Nat
  value : Nat
  high : Nat
  denominator : Nat
  /-- The ends belong to the interval. -/
  closed : Bool
  deriving DecidableEq, Repr

namespace Neighbourhood

/-- The neighbourhood of `mantissa * 2 ^ exponent`, in quarters of the last bit.  Below a power
of two the doubles lie twice as close. -/
def ofBinary (mantissa : Nat) (exponent : Int) : Neighbourhood :=
  let (unit, denominator) := fraction 1 (exponent - 2)
  let below := if mantissa = Nat.pow 2 52 ∧ -1074 < exponent then 1 else 2
  { low := (4 * mantissa - below) * unit
    value := 4 * mantissa * unit
    high := (4 * mantissa + 2) * unit
    denominator := denominator
    closed := mantissa % 2 == 0 }

/-- The place of the leading digit: the greatest `k` such that the value is at least `10 ^ k`. -/
def leadingPlace (v : Neighbourhood) : Int :=
  if v.denominator ≤ v.value then
    ((Nat.toDigits 10 (v.value / v.denominator)).length : Int) - 1
  else
    let places := (Nat.toDigits 10 (v.denominator / v.value)).length
    if v.denominator ≤ v.value * Nat.pow 10 (places - 1) then 1 - (places : Int)
    else -(places : Int)

/-- The multiple of `10 ^ place` nearest to the value, if one rounds to it: the quotient. -/
def onGrid? (v : Neighbourhood) (tie : Tie) (place : Int) : Option Nat :=
  let scale := Nat.pow 10 (-place).toNat
  let unit := v.denominator * Nat.pow 10 place.toNat
  let hits (c : Nat) : Bool :=
    if v.closed then v.low * scale ≤ c * unit && c * unit ≤ v.high * scale
    else v.low * scale < c * unit && c * unit < v.high * scale
  let below := v.value * scale / unit
  let toBelow := v.value * scale - below * unit
  let toAbove := (below + 1) * unit - v.value * scale
  match hits below, hits (below + 1) with
  | true, true =>
    if toBelow < toAbove ∨ (toBelow = toAbove ∧ tie.takesLower below) then some below
    else some (below + 1)
  | true, false => some below
  | false, true => some (below + 1)
  | false, false => none

/-- The shortest decimal in the neighbourhood, as a whole number and a power of ten. -/
def shortest (v : Neighbourhood) (tie : Tie) : Nat × Int :=
  let lead := v.leadingPlace
  let found := (List.range 17).findSome? fun (n : Nat) =>
    let place := lead - (n : Int)
    (v.onGrid? tie place).map fun c => (c, place)
  found.getD (0, 0)

end Neighbourhood

/-! ### Layout -/

/-- How decimals are laid out. -/
structure Layout where
  /-- Whole numbers are followed by a point and a zero. -/
  pointed : Bool
  /-- The positions of the point, counted from the front of the digits, for which the number is
  written without an exponent; all, if there is no range. -/
  positional : Option (Int × Int)
  /-- An exponent that is not negative has a sign. -/
  signed : Bool
  /-- Of two equally near decimals. -/
  tie : Tie
  deriving DecidableEq, Repr

/-- The digits of a number without the zeros at the end, and the position of the point counted
from the front of the digits. -/
def digitsOf (coefficient : Nat) (exponent : Int) : List Char × Int :=
  let digits := Nat.toDigits 10 coefficient
  let kept := (digits.reverse.dropWhile (· == '0')).reverse
  (if kept.isEmpty then ['0'] else kept, digits.length + exponent)

namespace Layout

/-- A run of zeros. -/
def zeros (n : Int) : List Char := List.replicate n.toNat '0'

/-- Digits with the point at a position, without an exponent. -/
def place (l : Layout) (digits : List Char) (point : Int) : List Char :=
  let count : Int := digits.length
  if point ≤ 0 then ['0', '.'] ++ zeros (-point) ++ digits
  else if point < count then digits.take point.toNat ++ '.' :: digits.drop point.toNat
  else digits ++ zeros (point - count) ++ if l.pointed then ['.', '0'] else []

/-- Digits with one digit before the point, and an exponent. -/
def scientific (l : Layout) (digits : List Char) (point : Int) : List Char :=
  let mantissa :=
    match digits with
    | d :: e :: rest => d :: '.' :: e :: rest
    | _ => digits
  let sign := if l.signed && decide (0 < point) then ['+'] else []
  mantissa ++ 'e' :: sign ++ (toString (point - 1)).toList

/-- The text of a decimal. -/
def lay (l : Layout) (coefficient : Nat) (exponent : Int) : List Char :=
  let (digits, point) := digitsOf coefficient exponent
  match l.positional with
  | some (least, greatest) =>
    if coefficient = 0 ∨ (least ≤ point ∧ point ≤ greatest) then l.place digits point
    else l.scientific digits point
  | none => l.place digits point

/-- The text of a double: the shortest digits that read back. -/
def render (l : Layout) (x : Float) : String :=
  match Binary.ofFloat x with
  | .nan => "NaN"
  | .infinite negative => if negative then "-inf" else "inf"
  | .finite negative mantissa exponent =>
    let (c, e) :=
      if mantissa = 0 then (0, 0) else (Neighbourhood.ofBinary mantissa exponent).shortest l.tie
    String.ofList ((if negative then ['-'] else []) ++ l.lay c e)

/-- Numbers in messages: no exponent, and whole numbers without a point. -/
def plain : Layout := ⟨false, none, false, .toUpper⟩

/-- Numbers in the log: whole ones with a point, and an exponent below `0.0001` and from `10 ^ 16`
on. -/
def log : Layout := ⟨true, some (-3, 16), false, .toUpper⟩

/-- Numbers in written values: whole ones with a point, and an exponent with its sign below
`0.00001` and from `10 ^ 16` on. -/
def written : Layout := ⟨true, some (-4, 16), true, .toEven⟩

end Layout

end StructuralGrading.Decimal
