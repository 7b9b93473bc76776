import StructuralGrading.Batch.Outcome
import StructuralGrading.Grading.Files

/-!
# Grading a batch

Every task of every student below a folder is graded, and a report is written for each that can
be.  A batch is prepared first (`Batch.prepare`): the tasks and the students are listed, and the
folder for the reports is made.  What is then left are jobs, one for each task of each student
(`Job.evaluate`).  They share nothing but the configuration, and a report if the folders of two
students are shown by one name.

`Batch.evaluate` does one after the other, student by student.  A job always comes to its end: what
goes wrong in it is the reason for which its task is skipped.
-/

namespace StructuralGrading

/-- Why files cannot be searched for. -/
inductive SearchFault where
  /-- The path of the folder is no text. -/
  | notText
  | pattern (fault : Pattern.Fault)
  deriving DecidableEq, Repr

def SearchFault.explanation : SearchFault → Explanation
  | notText => .plain "Could not convert root_dir to string"
  | pattern fault => .because "Could not create glob" (.plain fault.message)

/-- Why a batch cannot be prepared. -/
inductive BatchFault where
  | search (fault : SearchFault)
  | submissions (path : Path) (fault : AccessFault)
  | results (path : Path) (fault : AccessFault)
  deriving DecidableEq, Repr

def BatchFault.explanation : BatchFault → Explanation
  | search fault => fault.explanation
  | submissions path fault =>
    .because ("Could not read directory " ++ path.shown) (.plain fault.message)
  | results path fault =>
    .because ("Could not create results directory " ++ path.shown) (.plain fault.message)

/-! ### Listing files -/

/-- The paths of everything with an extension in a folder, in order.  Any depth above zero reaches
everything below the folder. -/
def findFiles (extension : String) (depth : Int) (root : Path) :
    ExceptT SearchFault Script (List Path) := do
  match (Pattern.pathFor extension depth root).text? with
  | none => throw .notText
  | some text =>
    match Pattern.ofText text with
    | .error fault => throw (.pattern fault)
    | .ok pattern =>
      let paths ← Script.search pattern
      return Path.sort paths

/-- Those of the given paths that lead to folders. -/
def foldersAmong : List Path → Script (List Path)
  | [] => return []
  | p :: ps => do
    let isFolder ← Script.hasFolder p
    let rest ← foldersAmong ps
    return if isFolder then p :: rest else rest

/-- The paths of the folders in a folder, in order. -/
def subfolders (root : Path) : ExceptT AccessFault Script (List Path) := do
  let names ← Script.list root
  let folders ← foldersAmong (names.map root.join)
  return Path.sort folders

/-! ### Tasks of a batch -/

/-- The tasks of a configuration.  If it has none, these are the names of all references. -/
def resolveTasks (c : Configuration) : ExceptT SearchFault Script (List String) := do
  if c.tasks.isEmpty then
    let paths ← findFiles "py" 0 c.references
    let tasks := paths.filterMap fun p => p.stem?.map OsText.shown
    Script.tell (.tasksFound tasks)
    return tasks
  else return c.tasks

/-! ### Jobs -/

/-- One task of one student. -/
structure Job where
  /-- The name of the student's folder as it is shown. -/
  student : String
  /-- Holds the student's programs. -/
  folder : Path
  task : String
  deriving DecidableEq, Repr

namespace Job

/-- The student's program. -/
def source (j : Job) : Path := Configuration.sourceIn j.folder j.task

/-- The folder for the student's reports.  It is named by what is shown of the student's folder. -/
def reportFolder (c : Configuration) (j : Job) : Path := c.results.join (.ofText j.student)

/-- The report on the task. -/
def reportFile (c : Configuration) (j : Job) : Path :=
  (j.reportFolder c).join (.ofText (j.task ++ "_results.txt"))

/-- Whether there is something at every one of several paths. -/
def allPresent : List Path → Script Bool
  | [] => return true
  | p :: ps => do if ← Script.hasEntry p then allPresent ps else return false

/-- Writes a report and tells where. -/
def writeReport (c : Configuration) (j : Job) (g : TaskGrade) :
    ExceptT ReportFault Script Path := do
  (Script.makeFolders (j.reportFolder c)).adapt (.folder (j.reportFolder c))
  (Script.write (j.reportFile c) g.report).adapt (.file (j.reportFile c))
  return j.reportFile c

/-- The files that the task needs: the student's program, the reference and the rubric. -/
def inputs (c : Configuration) (j : Job) : List Path :=
  [j.source, c.referenceOf j.task, c.rubricOf j.task]

/-- Reads the files of the task, if all are there, and grades it. -/
def grade (parse : Parser) (c : Configuration) (j : Job) :
    ExceptT SkipReason Script TaskGrade := do
  if ← allPresent (j.inputs c) then
    let student ← (Script.readText j.source).adapt .unreadable
    let reference ← (Script.readText (c.referenceOf j.task)).adapt .unreadable
    let rubric ← (Rubric.load (c.rubricOf j.task)).adapt .rubric
    (TaskGrade.grade parse c rubric j.task student reference).adapt .programs
  else throw .missingFiles

/-- Grades the task and writes the report. -/
def attempt (parse : Parser) (c : Configuration) (j : Job) :
    ExceptT SkipReason Script (TaskGrade × Path) := do
  let g ← j.grade parse c
  let report ← (j.writeReport c g).adapt .notReported
  return (g, report)

/-- What becomes of the task. -/
def evaluate (parse : Parser) (c : Configuration) (j : Job) : Script TaskOutcome := do
  match ← (j.attempt parse c).run with
  | .ok (g, report) =>
    Script.tell (.reported j.task j.student report)
    return .graded j.student g report
  | .error reason =>
    Script.tell (.skipped j.task j.student reason.message)
    return .skipped j.student j.task reason

end Job

/-! ### Batches -/

namespace Batch

/-- The jobs for the tasks in the given students' folders, student by student. -/
def jobs (folders : List Path) (tasks : List String) : List Job :=
  folders.flatMap fun folder =>
    match folder.fileName? with
    | some student => tasks.map fun task => ⟨student.shown, folder, task⟩
    | none => []

/-- Lists the tasks and the students, and makes the folder for the reports. -/
def prepare (c : Configuration) : ExceptT BatchFault Script (List Job) := do
  let tasks ← (resolveTasks c).adapt .search
  let folders ← (subfolders c.submissions).adapt (.submissions c.submissions)
  (Script.makeFolders c.results).adapt (.results c.results)
  Script.tellAll ((folders.filterMap Path.fileName?).map fun student => .evaluating student.shown)
  return jobs folders tasks

/-- Evaluates jobs one after the other. -/
def evaluateAll (parse : Parser) (c : Configuration) : List Job → Script (List TaskOutcome)
  | [] => return []
  | j :: js => do
    let outcome ← j.evaluate parse c
    let outcomes ← evaluateAll parse c js
    return outcome :: outcomes

/-- Grades every task of every student. -/
def evaluate (parse : Parser) (c : Configuration) :
    ExceptT BatchFault Script (List TaskOutcome) := do
  evaluateAll parse c (← prepare c)

end Batch

end StructuralGrading
