/-!
# Lines

The lines of a text.  A line break ends a line, so one at the very end opens no further line;
nothing but a line feed is a line break.
-/

namespace StructuralGrading.Text

/-- The number of lines of a text. -/
def lineCount (s : String) : Nat :=
  let cs := s.toList
  cs.count '\n' + if cs.getLast?.any (· ≠ '\n') then 1 else 0

end StructuralGrading.Text
