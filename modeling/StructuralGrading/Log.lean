import StructuralGrading.Grading.Basic

/-!
# The log

What happens during a run, as events.  An event has a level and the part of the program it
comes from, and it is written in one line: a message, then named values.
-/

namespace StructuralGrading

/-- What can happen. -/
inductive Event where
  | configured (c : Configuration)
  | tasksFound (tasks : List String)
  | evaluating (student : String)
  | graphBuilt (g : ConceptGraph)
  | compared (c : Comparison)
  | graded (g : TaskGrade)
  /-- A rubric has an item that can never be earned. -/
  | unknownLabel (e : UnknownConcept)
  | skipped (task student reason : String)
  | reported (task student : String) (report : Path)
  deriving DecidableEq, Repr

/-- How much an event matters. -/
inductive Level where
  | debug
  | info
  | warn
  deriving DecidableEq, Repr

namespace Level

/-- The name of a level, five columns wide. -/
def display : Level → String
  | debug => "DEBUG"
  | info => " INFO"
  | warn => " WARN"

end Level

namespace Event

def level : Event → Level
  | configured _ | tasksFound _ | graphBuilt _ | compared _ | graded _ => .debug
  | evaluating _ | reported .. => .info
  | unknownLabel _ | skipped .. => .warn

/-- The part of the program that an event comes from. -/
def origin : Event → String
  | configured _ => "config"
  | tasksFound _ | evaluating _ | skipped .. | reported .. => "batch"
  | graphBuilt _ => "concept"
  | compared _ => "matcher"
  | graded _ => "grade"
  | unknownLabel _ => "rubric"

def message : Event → String
  | configured _ => "Loaded grading configuration"
  | tasksFound _ => "Discovered tasks from reference solutions"
  | evaluating student => "Evaluating tasks for " ++ student ++ "..."
  | graphBuilt g =>
    "Built concept graph: " ++ ", ".intercalate (g.nodes.map fun n => n.concept.label)
  | compared _ => "Compared concept graphs"
  | graded _ => "Graded submission"
  | unknownLabel e => e.message ++ " Its rubric points can never be earned."
  | skipped task student reason => "Skipping " ++ task ++ " for " ++ student ++ ": " ++ reason
  | reported task student report =>
    "Task " ++ task ++ " evaluated for " ++ student ++ ". Results saved to " ++ report.shown ++ "."

/-- A number as it is logged. -/
def real (x : Float) : String := Decimal.Layout.log.render x

/-- The named values of an event. -/
def values : Event → List (String × String)
  | configured c => [("config", c.describe)]
  | tasksFound tasks => [("tasks", Configuration.quotedList tasks)]
  | graphBuilt g => [("blocks", toString g.size), ("edges", toString g.edgeCount)]
  | compared c =>
    [("node_similarity", real c.nodeSimilarity),
     ("edge_similarity", real c.edgeSimilarity),
     ("similarity", real c.similarity),
     ("missing_nodes", toString c.missingNodes.length),
     ("extra_nodes", toString c.extraNodes.length),
     ("missing_edges", toString c.missingEdges.length),
     ("extra_edges", toString c.extraEdges.length)]
  | graded g =>
    [("task", Text.quoted g.task),
     ("rubric", g.tally.display),
     ("similarity", real g.comparison.similarity),
     ("final_score", real g.finalScore)]
  | evaluating _ | unknownLabel _ | skipped .. | reported .. => []

/-- A character of a message.  Those that a terminal would act on are written as escapes, except
line breaks and tabs. -/
def escape (c : Char) : List Char :=
  let n := c.toNat
  if n = 0x07 ∨ n = 0x08 ∨ n = 0x0C ∨ n = 0x1B ∨ n = 0x7F then
    ['\\', 'x', Json.hexDigit (n / 16), Json.hexDigit (n % 16)]
  else if 0x80 ≤ n ∧ n ≤ 0x9F then Text.escapeCode c
  else [c]

/-- The line of an event. -/
def line (e : Event) : String :=
  e.level.display ++ " conceptgrade::" ++ e.origin ++ ": " ++
    String.ofList (e.message.toList.flatMap escape) ++
    "".intercalate (e.values.map fun (name, value) => " " ++ name ++ "=" ++ value)

/-- Whether an event is shown.  Only a verbose log shows what matters least. -/
def isShown (verbose : Bool) (e : Event) : Bool := verbose || e.level != .debug

end Event

end StructuralGrading
