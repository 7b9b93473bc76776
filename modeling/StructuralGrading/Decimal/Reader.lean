import StructuralGrading.Decimal.Binary

/-!
# Reading decimals

A decimal literal is an optional sign followed by `inf`, `infinity` or `nan` in any mixture of
cases, or by digits with an optional point, at least one digit on one of its sides, and an
optional exponent.  It reads as the nearest double; a number beyond the greatest double reads
as an infinity.
-/

namespace StructuralGrading.Decimal

/-- The whole number with the given digits. -/
def numeral (cs : List Char) : Nat := cs.foldl (fun n c => 10 * n + (c.toNat - 48)) 0

/-- The double nearest to `coefficient * 10 ^ exponent`.  Numbers whose leading digit lies far
beyond the range of doubles are settled by its place alone. -/
def nearest (coefficient : Nat) (exponent : Int) : Float :=
  let place := ((Nat.toDigits 10 coefficient).length : Int) + exponent
  if coefficient = 0 ∨ place < -400 then 0
  else if 400 < place then infinity
  else if exponent < 0 then Float.ofScientific coefficient true (-exponent).toNat
  else Float.ofScientific coefficient false exponent.toNat

/-- Splits the leading digits off. -/
def spanDigits (cs : List Char) : List Char × List Char := cs.span Char.isDigit

/-- Reads an exponent up to the end of the text; none is the exponent zero. -/
def exponent? : List Char → Option Int
  | [] => some 0
  | e :: cs =>
    if e = 'e' ∨ e = 'E' then
      let (negative, cs) :=
        match cs with
        | '-' :: rest => (true, rest)
        | '+' :: rest => (false, rest)
        | _ => (false, cs)
      if cs.isEmpty || !cs.all Char.isDigit then none
      else some (if negative then -(numeral cs : Int) else numeral cs)
    else none

/-- Reads digits with an optional point and an optional exponent. -/
def unsigned? (cs : List Char) : Option Float :=
  let (whole, rest) := spanDigits cs
  let (part, rest) :=
    match rest with
    | '.' :: after => spanDigits after
    | _ => ([], rest)
  if whole.isEmpty && part.isEmpty then none
  else (exponent? rest).map fun e => nearest (numeral (whole ++ part)) (e - part.length)

/-- Reads a number without its sign. -/
def magnitude? (cs : List Char) : Option Float :=
  let word := cs.map Char.toLower
  if word = "inf".toList ∨ word = "infinity".toList then some infinity
  else if word = "nan".toList then some notANumber
  else unsigned? cs

/-- Reads a decimal literal. -/
def read? (text : String) : Option Float :=
  match text.toList with
  | '-' :: cs => (magnitude? cs).map (- ·)
  | '+' :: cs => magnitude? cs
  | cs => magnitude? cs

end StructuralGrading.Decimal
