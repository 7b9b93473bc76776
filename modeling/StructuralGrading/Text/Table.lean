import StructuralGrading.Text.Width

/-!
# Tables

Rows of cells between lines.  A column is as wide as its widest cell, a row as high as its
highest; cells start at the left and at the top, with a blank on both sides.
-/

namespace StructuralGrading.Text.Table

/-- The lines of a cell. -/
def cellLines (cell : String) : List String := (cell.toList.splitOn '\n').map String.ofList

/-- The columns that the lines of a cell take up. -/
def cellWidth (cell : String) : Nat := ((cellLines cell).map width).foldl max 0

/-- The widths of the columns of several rows. -/
def columnWidths (rows : List (List String)) : List Nat :=
  rows.foldl (fun widths row =>
    let own := row.map cellWidth
    (List.range (max widths.length own.length)).map fun n =>
      max (widths.getD n 0) (own.getD n 0)) []

/-- A character several times. -/
def run (c : Char) (n : Nat) : String := String.ofList (List.replicate n c)

/-- A text followed by blanks up to a width. -/
def padded (columns : Nat) (s : String) : String := s ++ run ' ' (columns - width s)

/-- A line between two rows. -/
def rule (left cross right : String) (widths : List Nat) : String :=
  left ++ cross.intercalate (widths.map fun n => run '─' (n + 2)) ++ right

/-- The lines of a row. -/
def rowLines (widths : List Nat) (row : List String) : List String :=
  let cells := row.map cellLines
  let height := (cells.map List.length).foldl max 0
  (List.range height).map fun n =>
    let parts := (cells.zip widths).map fun (lines, columns) =>
      " " ++ padded columns (lines.getD n "") ++ " "
    "│" ++ "│".intercalate parts ++ "│"

/-- A table with a line around it and between all rows. -/
def render (rows : List (List String)) : String :=
  let widths := columnWidths rows
  let body := ([rule "├" "┼" "┤" widths]).intercalate (rows.map (rowLines widths))
  "\n".intercalate ([rule "┌" "┬" "┐" widths] ++ body ++ [rule "└" "┴" "┘" widths])

end StructuralGrading.Text.Table
