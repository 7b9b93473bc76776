import StructuralGrading.Grading.Fault
import StructuralGrading.Rubric.Reader
import StructuralGrading.Script

/-!
# Grading files

The scripts that read the programs and the rubric of a task and grade it.
-/

namespace StructuralGrading

/-- Reads a rubric, and tells of every item that can never be earned. -/
def Rubric.load (p : Path) : ExceptT InputFault Script Rubric := do
  let text ← (Script.readText p).adapt (.unreadable p)
  match Rubric.ofText text with
  | .error fault => throw (.rubric fault)
  | .ok rubric =>
    Script.tellAll (rubric.unknownLabels.map fun label => .unknownLabel ⟨label⟩)
    return rubric

namespace TaskGrade

/-- Grades a student's program, and tells of every step. -/
def grade (parse : Parser) (c : Configuration) (rubric : Rubric) (task student reference : String) :
    ExceptT SourceFault Script TaskGrade := do
  match Program.conceptGraphs parse student reference with
  | .error fault => throw fault
  | .ok (student, reference) =>
    let g := ofGraphs c rubric task student reference
    Script.tellAll [.graphBuilt student, .graphBuilt reference, .compared g.comparison, .graded g]
    return g

/-- Grades the program in a file against the one in another.  Without a rubric there are no points
to earn. -/
def gradeFiles (parse : Parser) (c : Configuration) (task : String) (student reference : Path)
    (rubric? : Option Path) : ExceptT GradingFault Script TaskGrade := do
  let studentText ← (Script.readText student).adapt (.submission student)
  let referenceText ← (Script.readText reference).adapt (.reference reference)
  let rubric ← match rubric? with
    | some p => (Rubric.load p).adapt .rubric
    | none => pure .empty
  (grade parse c rubric task studentText referenceText).adapt (.programs student)

end TaskGrade

end StructuralGrading
