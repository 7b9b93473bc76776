import StructuralGrading.Configuration
import StructuralGrading.Feedback
import StructuralGrading.Program.Check
import StructuralGrading.Rubric.Basic
import StructuralGrading.Written

/-!
# Grading a task

A student's program is graded by comparing its concept graph with that of a reference and by
scoring it with a rubric.

* `Program.conceptGraphs` reads the two programs; either of them may be faulty.
* `TaskGrade.ofGraphs` grades one graph against another.
* `TaskGrade.ofSources` puts the two together.
-/

namespace StructuralGrading

/-- The concept graphs of the programs with the given sources.  Of two faulty programs the first
is reported. -/
def Program.conceptGraphs (parse : Parser) (student reference : String) :
    Except SourceFault (ConceptGraph × ConceptGraph) := do
  let student ← Program.ofSource? parse student
  let reference ← Program.ofSource? parse reference
  return (student.conceptGraph, reference.conceptGraph)

/-- The outcome of grading one task. -/
structure TaskGrade where
  task : String
  /-- The score on a scale to 100. -/
  finalScore : Float
  comparison : Comparison
  tally : Tally
  /-- What is missing and what is extra; empty for an exact match. -/
  feedback : String
  deriving DecidableEq, Repr

namespace TaskGrade

/-- Grades a student's graph. -/
def ofGraphs (c : Configuration) (rubric : Rubric) (task : String)
    (student reference : ConceptGraph) : TaskGrade :=
  let comparison := Comparison.compare c.weights student reference
  let tally := rubric.tally student
  { task := task
    finalScore := Score.final c.share comparison.similarity tally.percent
    comparison := comparison
    tally := tally
    feedback := Feedback.render comparison }

/-- Grades a student's program. -/
def ofSources (parse : Parser) (c : Configuration) (rubric : Rubric) (task : String)
    (student reference : String) : Except SourceFault TaskGrade := do
  let (student, reference) ← Program.conceptGraphs parse student reference
  return ofGraphs c rubric task student reference

/-- The similarity as a percentage. -/
def similarityPercent (g : TaskGrade) : Float := Score.similarityPercent g.comparison.similarity

/-- Whether the student's graph is that of the reference. -/
def isExact (g : TaskGrade) : Bool := g.comparison.isExact

/-! ### Wording -/

/-- The report on a task. -/
def report (g : TaskGrade) : String :=
  "Task: " ++ g.task ++
    "\nFinal Task Score: " ++ Decimal.points g.finalScore ++
    "\nSimilarity Score: " ++ Decimal.points g.similarityPercent ++
    "\nFeedback:\n" ++ g.feedback

/-- The scores in one line. -/
def summary (g : TaskGrade) : String :=
  g.task ++ ": " ++ Decimal.points g.finalScore ++
    " (similarity " ++ Decimal.points g.similarityPercent ++
    ", rubric " ++ g.tally.display ++ ")"

def toJson (g : TaskGrade) : Json :=
  .object [
    ("task", .text g.task),
    ("final_score", .real g.finalScore),
    ("similarity", g.comparison.toJson),
    ("rubric", g.tally.toJson),
    ("feedback", .text g.feedback)]

end TaskGrade

end StructuralGrading
