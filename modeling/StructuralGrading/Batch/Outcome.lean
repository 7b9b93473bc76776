import StructuralGrading.Decimal.Fixed
import StructuralGrading.Grading.Basic
import StructuralGrading.Grading.Fault
import StructuralGrading.Json

/-!
# Outcomes of a batch

What became of one task of one student: it was graded and its report written, or it was skipped
for a reason.  An outcome is a row of several parts; `TaskOutcome.graded` and `TaskOutcome.skipped`
fill it in.
-/

namespace StructuralGrading

/-- Why a report is not there. -/
inductive ReportFault where
  | folder (path : Path) (fault : AccessFault)
  | file (path : Path) (fault : AccessFault)
  deriving DecidableEq, Repr

def ReportFault.explanation : ReportFault → Explanation
  | folder path fault => .because ("Could not create " ++ path.shown) (.plain fault.message)
  | file path fault => .because ("Could not write " ++ path.shown) (.plain fault.message)

/-- Why a task was skipped. -/
inductive SkipReason where
  | missingFiles
  /-- The student's program or the reference cannot be read. -/
  | unreadable (fault : AccessFault)
  | rubric (fault : InputFault)
  /-- The student's program or the reference is faulty. -/
  | programs (fault : SourceFault)
  | notReported (fault : ReportFault)
  deriving DecidableEq, Repr

def SkipReason.message : SkipReason → String
  | missingFiles => "missing files"
  | unreadable fault => fault.message
  | rubric fault => fault.message
  | programs fault => fault.message
  | notReported fault => fault.explanation.chain

/-- Whether a task was graded. -/
inductive TaskStatus where
  | graded
  | skipped (reason : SkipReason)
  deriving DecidableEq, Repr

namespace TaskStatus

def display : TaskStatus → String
  | graded => "Graded"
  | skipped reason => "Skipped: " ++ reason.message

def toJson : TaskStatus → Json
  | graded => .text "Graded"
  | skipped reason => .object [("Skipped", .text reason.message)]

end TaskStatus

/-- What became of a task of a student. -/
structure TaskOutcome where
  /-- The name of the student's folder as it is shown. -/
  student : String
  task : String
  finalScore : Option Float
  /-- The similarity as a percentage. -/
  similarity : Option Float
  status : TaskStatus
  report : Option Path
  deriving DecidableEq, Repr

namespace TaskOutcome

/-- The row of a task that was not graded. -/
def skipped (student task : String) (reason : SkipReason) : TaskOutcome where
  student := student
  task := task
  finalScore := none
  similarity := none
  status := .skipped reason
  report := none

/-- The row of a task that was graded, with its report. -/
def graded (student : String) (g : TaskGrade) (report : Path) : TaskOutcome where
  student := student
  task := g.task
  finalScore := some g.finalScore
  similarity := some g.similarityPercent
  status := .graded
  report := some report

/-! ### Wording -/

/-- A score, or a dash where there is none. -/
def scoreText : Option Float → String
  | some x => Decimal.points x
  | none => "-"

/-- The names of the columns of a table of outcomes. -/
def columns : List String := ["Student", "Task", "Final", "Similarity", "Status"]

/-- An outcome as a row of that table. -/
def row (o : TaskOutcome) : List String :=
  [o.student, o.task, scoreText o.finalScore, scoreText o.similarity, o.status.display]

/-- An outcome in writing.  The path of a report can be written only if it is a text. -/
def toJson? (o : TaskOutcome) : Option Json := do
  let report ← match o.report with
    | none => some .null
    | some path => path.text?.map .text
  return .object [
    ("student", .text o.student),
    ("task", .text o.task),
    ("final_score", .ofOption .real o.finalScore),
    ("similarity", .ofOption .real o.similarity),
    ("status", o.status.toJson),
    ("report", report)]

end TaskOutcome

end StructuralGrading
