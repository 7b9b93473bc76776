import StructuralGrading.Batch.Basic
import StructuralGrading.CommandLine.Environment
import StructuralGrading.CommandLine.Help
import StructuralGrading.CommandLine.Request
import StructuralGrading.Text.Table

/-!
# Sessions

A run of the program: the command line and the environment are read, the command is carried out,
and what is to be printed is put together.  The file `.env` of the working folder extends the
environment.

`Session.script` is the whole of it; what it leaves to be done is to perform its file operations, to
print the events it tells, and to print what comes of it.
-/

namespace StructuralGrading

/-- What comes of a run. -/
structure Exit where
  code : Nat
  /-- For standard output, after the events. -/
  output : String
  /-- For standard error. -/
  errors : String
  /-- Whether events that matter little are printed as well. -/
  verbose : Bool
  deriving DecidableEq, Repr

/-- Why a command fails. -/
inductive SessionFault where
  | setting (fault : SettingFault)
  | grading (fault : GradingFault)
  | batch (fault : BatchFault)
  | unreadable (path : Path) (fault : AccessFault)
  | program (fault : SourceFault)
  deriving DecidableEq, Repr

def SessionFault.explanation : SessionFault → Explanation
  | setting fault => fault.explanation
  | grading fault => fault.explanation
  | batch fault => fault.explanation
  | unreadable path fault => .because ("Could not read " ++ path.shown) (.plain fault.message)
  | program fault => .plain fault.message

namespace Session

open CommandLine

/-! ### Commands -/

/-- What a command prints on standard output and standard error. -/
abbrev Printed := String × String

/-- The task of a program: its name without the extension, unless another is given. -/
def taskName (student : Path) (task : Option String) : String :=
  (task.or (student.stem?.map OsText.shown)).getD "task"

/-- The summary of a grade in a line.  It is a good one if the program has the concepts of its
reference exactly. -/
def summaryLine (palette : Palette) (g : TaskGrade) : String :=
  palette.highlight (if g.isExact then .good else .mixed) g.summary ++ "\n"

/-- Grades one program and shows its report and its scores. -/
def grade (parse : Parser) (palette : Palette) (c : Configuration) (student reference : Path)
    (rubric : Option Path) (task : Option String) : ExceptT GradingFault Script Printed := do
  let g ← TaskGrade.gradeFiles parse c (taskName student task) student reference rubric
  return (g.report ++ "\n", summaryLine palette g)

/-- A configuration with some parts given otherwise. -/
def override (c : Configuration) (submissions references rubrics results : Option Path)
    (tasks : List String) : Configuration :=
  { c with
    submissions := submissions.getD c.submissions
    references := references.getD c.references
    rubrics := rubrics.getD c.rubrics
    results := results.getD c.results
    tasks := if tasks.isEmpty then c.tasks else tasks }

/-- The table of outcomes. -/
def outcomeTable (outcomes : List TaskOutcome) : String :=
  Text.Table.render (TaskOutcome.columns :: outcomes.map TaskOutcome.row)

/-- Grades a batch and shows what became of every task. -/
def batch (parse : Parser) (palette : Palette) (c : Configuration) :
    ExceptT BatchFault Script Printed := do
  let outcomes ← Batch.evaluate parse c
  if outcomes.isEmpty then return ("", palette.highlight .notice "No submissions found." ++ "\n")
  else return (outcomeTable outcomes ++ "\n", "")

/-- Shows the concept graph of a program. -/
def graph (parse : Parser) (file : Path) : ExceptT SessionFault Script Printed := do
  let source ← (Script.readText file).adapt (.unreadable file)
  match Program.ofSource? parse source with
  | .error fault => throw (.program fault)
  | .ok program =>
    let g := program.conceptGraph
    Script.tell (.graphBuilt g)
    return (g.pretty ++ "\n", "")

/-- Carries a command out. -/
def carryOut (parse : Parser) (palette : Palette) (c : Configuration) :
    Command → ExceptT SessionFault Script Printed
  | .grade student reference rubric task =>
    (grade parse palette c student reference rubric task).adapt .grading
  | .batch submissions references rubrics results tasks =>
    (batch parse palette (override c submissions references rubrics results tasks)).adapt .batch
  | .graph file => graph parse file

/-! ### Runs -/

/-- The environment extended by the file of settings, if there is one. -/
def environment (env : Environment) : Script Environment := do
  match ← (Script.read (.ofText ".env")).run with
  | .ok content => return env.extend content
  | .error _ => return env

/-- Reads the settings and carries a command out. -/
def execute (parse : Parser) (env : Environment) (command : Command) :
    ExceptT SessionFault Script Printed := do
  match Configuration.ofLookup (env.lookup ·) with
  | .error fault => throw (.setting fault)
  | .ok c =>
    Script.tell (.configured c)
    carryOut parse env.resultPalette c command

/-- A run of the program. -/
def script (parse : Parser) (args : List String) (env : Environment) : Script Exit := do
  let env ← environment env
  match CommandLine.parse args with
  | .error fault => return ⟨1, "", fault.report env.usagePalette ++ "\n", false⟩
  | .ok (.help verb?) => return ⟨0, helpText env.usagePalette verb? ++ "\n", "", false⟩
  | .ok (.run verbose command) =>
    match ← (execute parse env command).run with
    | .ok (output, errors) => return ⟨0, output, errors, verbose⟩
    | .error fault => return ⟨1, "", fault.explanation.report ++ "\n", verbose⟩

/-- Everything on standard output: the events, each in a line, and what is printed after them. -/
def standardOutput (exit : Exit) (events : List Event) : String :=
  let shown := events.filter (·.isShown exit.verbose)
  "".intercalate (shown.map fun e => e.line ++ "\n") ++ exit.output

end Session

end StructuralGrading
