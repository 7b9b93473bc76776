import StructuralGrading.Program.Tree
import StructuralGrading.Text.Lines

/-!
# Programs

A program is a source text with its parse tree.  The parser is a parameter wherever programs
are read from files: a function from source texts to trees.
-/

namespace StructuralGrading

/-- Turns a source text into its parse tree.  A tree exists for faulty source too. -/
abbrev Parser := String → Tree

/-- A source text and its parse tree. -/
structure Program where
  source : String
  tree : Tree
  deriving Repr

namespace Program

/-- The program with the given source. -/
def ofSource (parse : Parser) (source : String) : Program := ⟨source, parse source⟩

/-- The part of the source that a node spans; empty if its bounds cut through a character. -/
def text (p : Program) (n : Node) : String :=
  (String.fromUTF8? (p.source.toByteArray.extract n.startByte n.endByte)).getD ""

/-- The number of lines of the source. -/
def lineCount (p : Program) : Nat := Text.lineCount p.source

/-- A program in one line, for messages about it. -/
def describe (p : Program) : String := "Parser \x7b lines: " ++ toString p.lineCount ++ " \x7d"

end Program

end StructuralGrading
