import StructuralGrading.CommandLine.Arguments
import StructuralGrading.Store.Path

/-!
# Commands

The commands that the program knows, the options and words they take, and how a command takes them
from the command line.
-/

namespace StructuralGrading.CommandLine

/-- What can be asked for. -/
inductive Command where
  /-- Grade one program. -/
  | grade (student reference : Path) (rubric : Option Path) (task : Option String)
  /-- Grade every task of every student; what is not given is left to the settings. -/
  | batch (submissions references rubrics results : Option Path) (tasks : List String)
  /-- Show the concept graph of a program. -/
  | graph (file : Path)
  deriving DecidableEq, Repr

/-- The kinds of commands. -/
inductive Verb where
  | grade
  | batch
  | graph
  deriving DecidableEq, Repr

namespace Verb

def all : List Verb := [grade, batch, graph]

/-- The word that names a command. -/
def name : Verb → String
  | grade => "grade"
  | batch => "batch"
  | graph => "graph"

/-- What a command does. -/
def summary : Verb → String
  | grade => "Grade one submission against a reference solution"
  | batch => "Grade every task for every student"
  | graph => "Print the concept graph of a Python file as JSON"

end Verb

/-- An option that takes a value. -/
structure ValueOption where
  name : String
  metavar : String
  help : String
  /-- It may be given several times. -/
  repeatable : Bool
  deriving DecidableEq, Repr

/-- A word that has to be there. -/
structure Operand where
  metavar : String
  help : String
  deriving DecidableEq, Repr

/-! ### What commands take -/

def rubricOption : ValueOption :=
  ⟨"rubric", "FILE", "Rubric JSON mapping concept labels to points", false⟩

def taskOption : ValueOption :=
  ⟨"task", "NAME", "Task name shown in the report (defaults to the student file name)", false⟩

def submissionsOption : ValueOption :=
  ⟨"submissions", "DIR", "Directory of per-student submission folders", false⟩

def referencesOption : ValueOption :=
  ⟨"references", "DIR", "Directory of reference solutions", false⟩

def rubricsOption : ValueOption := ⟨"rubrics", "DIR", "Directory of task rubrics", false⟩

def resultsOption : ValueOption :=
  ⟨"results", "DIR", "Directory to write result files to", false⟩

def tasksOption : ValueOption :=
  ⟨"task", "NAME", "Task to grade; repeat for several (defaults to task1..task7)", true⟩

def studentOperand : Operand := ⟨"STUDENT", "Student's Python file"⟩

def referenceOperand : Operand := ⟨"REFERENCE", "Reference Python file"⟩

def fileOperand : Operand := ⟨"FILE", "Python file"⟩

namespace Verb

/-- The options of a command. -/
def options : Verb → List ValueOption
  | grade => [rubricOption, taskOption]
  | batch => [submissionsOption, referencesOption, rubricsOption, resultsOption, tasksOption]
  | graph => []

/-- The operands of a command. -/
def operands : Verb → List Operand
  | grade => [studentOperand, referenceOperand]
  | batch => []
  | graph => [fileOperand]

end Verb

/-! ### Taking them -/

/-- Takes an option. -/
def ValueOption.take (o : ValueOption) : Taking (Option String) := Taking.option? o.name o.metavar

/-- Takes an option that is a path. -/
def ValueOption.takePath (o : ValueOption) : Taking (Option Path) := do
  return (← o.take).map OsText.ofText

/-- Takes an operand that is a path. -/
def Operand.takePath (o : Operand) : Taking Path := do
  return .ofText (← Taking.positional o.metavar)

/-- Takes what a command needs. -/
def Verb.take : Verb → Taking Command
  | grade => do
    let ((rubric, task), (student, reference)) ←
      (rubricOption.takePath.both taskOption.take).both
        (studentOperand.takePath.both referenceOperand.takePath)
    return .grade student reference rubric task
  | batch => do
    let ((submissions, references), (rubrics, results), tasks) ←
      (submissionsOption.takePath.both referencesOption.takePath).both
        ((rubricsOption.takePath.both resultsOption.takePath).both
          (Taking.options tasksOption.name tasksOption.metavar))
    return .batch submissions references rubrics results tasks
  | graph => do return .graph (← fileOperand.takePath)

end StructuralGrading.CommandLine
