/-!
# Distance of words

How many single changes lead from one word to another: a character put in, left out or replaced,
or two neighbours swapped, where what was swapped is not changed again.

The changes are counted for all beginnings of the two words.  `nextRow` goes over to one more
character of the first word; a row has the counts for all beginnings of the second.
-/

namespace StructuralGrading.Text

/-- The counts for one more character `c` of the first word, given those without it (`above`) and
those without it and the character `last?` before it (`before`). -/
def nextRow (second : List Char) (last? : Option Char) (c : Char) (before above : Array Nat) :
    Array Nat :=
  second.zipIdx.foldl (fun row (d, n) =>
    let changed := above.getD n 0 + if c = d then 0 else 1
    let plain := min changed (min (above.getD (n + 1) 0) (row.getD n 0) + 1)
    let swaps := last? == some d && decide (0 < n) && second[n - 1]? == some c
    row.push (if swaps then min plain (before.getD (n - 1) 0 + 1) else plain))
    #[above.getD 0 0 + 1]

/-- The counts for the whole first word. -/
def lastRow (first second : List Char) : Array Nat :=
  let start := Array.range (second.length + 1)
  (first.foldl (fun (last?, before, above) c =>
    (some c, above, nextRow second last? c before above)) (none, #[], start)).2.2

/-- The distance of a single character from a word.  It is counted by halves: of two neighbours
that are put in, one is free. -/
def loneDistance (c : Char) (second : List Char) : Nat :=
  (second.foldl (fun (before, above) d =>
    (above, min (above + 1) (before + if c = d then 0 else 1))) (0, 1)).2

/-- The distance of a word from another. -/
def distance (first second : String) : Nat :=
  match first.toList with
  | [c] => loneDistance c second.toList
  | cs => (lastRow cs second.toList).getD second.length 0

end StructuralGrading.Text
