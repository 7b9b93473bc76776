import StructuralGrading.Decimal.Reader
import StructuralGrading.Program.Tree

/-!
# Written parse trees

A parse tree as a text: a line for every node, a parent before its children.  A line has eight
words: the depth of the node, its kind, the field of its parent that it fills or a dash, its marks
as one number, its row and column, and the bounds of its text.

* `Node.ofMarks` takes the marks of a node from a number.
* `Tree.ofText?` reads a written tree.
-/

namespace StructuralGrading

/-- The node whose marks are given as one number: the sum of one for a named node, two for an error,
four for a missing node, and eight for a fault in it or below. -/
def Node.ofMarks (kind : String) (field : Option String)
    (marks row column startByte endByte : Nat) : Node :=
  ⟨kind, field, marks.testBit 0, marks.testBit 1, marks.testBit 2, marks.testBit 3,
    row, column, startByte, endByte⟩

namespace Tree

/-- Reads a whole number. -/
def number? (word : List Char) : Option Nat :=
  if !word.isEmpty && word.all Char.isDigit then some (Decimal.numeral word) else none

/-- Reads a line: a node with its depth. -/
def entry? (line : List Char) : Option (Nat × Node) :=
  match line.splitOn ' ' with
  | [depth, kind, field, marks, row, column, startByte, endByte] => do
    let field := if field = ['-'] then none else some (String.ofList field)
    return (← number? depth, Node.ofMarks (String.ofList kind) field (← number? marks)
      (← number? row) (← number? column) (← number? startByte) (← number? endByte))
  | _ => none

/-- Reads a written tree.  Empty lines say nothing. -/
def ofText? (text : String) : Option Tree := do
  let lines := (text.toList.splitOn '\n').filter (· ≠ [])
  ofListing? (← lines.mapM entry?)

end Tree

end StructuralGrading
