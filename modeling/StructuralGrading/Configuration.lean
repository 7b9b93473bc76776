import StructuralGrading.Comparison
import StructuralGrading.Decimal.Reader
import StructuralGrading.Decimal.Shortest
import StructuralGrading.Explanation
import StructuralGrading.Store.Path
import StructuralGrading.Text.Blank
import StructuralGrading.Text.Quoted

/-!
# Configuration

Where submissions, references and rubrics lie, where reports go, which tasks to grade, and how
scores are weighted.  Everything has a default, and every part but the edge weight can be given
by a named setting.

* `taskList` reads a list of tasks.
* `Configuration.ofLookup` reads the settings; it fails only for a weight that is no number
  between zero and one.
-/

namespace StructuralGrading

/-- What a grading run needs to know. -/
structure Configuration where
  /-- Has a folder for every student, which holds the student's programs by task. -/
  submissions : Path
  /-- Holds the reference programs by task. -/
  references : Path
  /-- Holds the rubrics by task. -/
  rubrics : Path
  /-- Receives the reports. -/
  results : Path
  /-- The tasks to grade; none stands for every task that has a reference. -/
  tasks : List String
  weights : Weights Float
  /-- The share of the final score that comes from similarity. -/
  share : Float
  deriving DecidableEq, Repr

/-! ### Tasks -/

/-- The tasks that are graded if none are named. -/
def defaultTasks : List String := (List.range 7).map fun n => "task" ++ toString (n + 1)

/-- The parts of a text between commas, without white space around them and without those that
are blank. -/
def taskList (text : String) : List String :=
  ((text.toList.splitOn ',').map fun cs => String.ofList (Text.trimChars cs)).filter (· ≠ "")

/-! ### Settings -/

/-- The settings by which a configuration can be changed. -/
inductive Setting where
  | submissions
  | references
  | rubrics
  | results
  | tasks
  | nodeWeight
  | similarityShare
  deriving DecidableEq, Repr

/-- Every setting. -/
def Setting.all : List Setting :=
  [submissions, references, rubrics, results, tasks, nodeWeight, similarityShare]

/-- The name under which a setting is looked up. -/
def Setting.name : Setting → String
  | submissions => "CONCEPTGRADE_SUBMISSIONS"
  | references => "CONCEPTGRADE_REFERENCES"
  | rubrics => "CONCEPTGRADE_RUBRICS"
  | results => "CONCEPTGRADE_RESULTS"
  | tasks => "CONCEPTGRADE_TASKS"
  | nodeWeight => "CONCEPTGRADE_NODE_WEIGHT"
  | similarityShare => "CONCEPTGRADE_SIMILARITY_SHARE"

/-- What can be wrong with a setting. -/
inductive SettingFault where
  | notNumber (setting : Setting) (text : String)
  | outOfRange (setting : Setting) (value : Float)
  deriving DecidableEq, Repr

def SettingFault.explanation : SettingFault → Explanation
  | notNumber setting text =>
    .because (setting.name ++ " must be a number, got `" ++ text ++ "`")
      (.plain "invalid float literal")
  | outOfRange setting value =>
    .plain (setting.name ++ " must be between 0 and 1, got " ++ Decimal.Layout.plain.render value)

/-- The value of a setting without the white space around it.  Blank settings count as not set. -/
def Setting.value? (lookup : String → Option String) (setting : Setting) : Option String :=
  ((lookup setting.name).map Text.trim).filter (· ≠ "")

/-- Reads a number between zero and one. -/
def Setting.fraction (setting : Setting) (text : String) : Except SettingFault Float :=
  match Decimal.read? text with
  | none => .error (.notNumber setting text)
  | some x => if 0 ≤ x ∧ x ≤ 1 then .ok x else .error (.outOfRange setting x)

namespace Configuration

/-- The configuration without any settings. -/
def standard : Configuration where
  submissions := .ofText "submissions"
  references := .ofText "correct_code"
  rubrics := .ofText "concepts"
  results := .ofText "results"
  tasks := defaultTasks
  weights := .standard
  share := 0.5

/-- The weights that a setting gives: that of the nodes is the setting, that of the edges is what is
left of one. -/
def weightsOf : Option String → Except SettingFault (Weights Float)
  | none => .ok standard.weights
  | some text => (Setting.fraction .nodeWeight text).map fun x => ⟨x, 1 - x⟩

/-- The share that a setting gives. -/
def shareOf : Option String → Except SettingFault Float
  | none => .ok standard.share
  | some text => Setting.fraction .similarityShare text

/-- The configuration given by settings. -/
def ofLookup (lookup : String → Option String) : Except SettingFault Configuration := do
  let value? := Setting.value? lookup
  let folder? (setting : Setting) := (value? setting).map OsText.ofText
  let weights ← weightsOf (value? .nodeWeight)
  let share ← shareOf (value? .similarityShare)
  return {
    submissions := (folder? .submissions).getD standard.submissions
    references := (folder? .references).getD standard.references
    rubrics := (folder? .rubrics).getD standard.rubrics
    results := (folder? .results).getD standard.results
    tasks := ((value? .tasks).map taskList).getD standard.tasks
    weights := weights
    share := share }

/-! ### Files of a task -/

/-- The program of a task in a folder. -/
def sourceIn (folder : Path) (task : String) : Path := folder.join (.ofText (task ++ ".py"))

/-- The reference of a task. -/
def referenceOf (c : Configuration) (task : String) : Path := sourceIn c.references task

/-- The rubric of a task. -/
def rubricOf (c : Configuration) (task : String) : Path :=
  c.rubrics.join (.ofText (task ++ ".json"))

/-! ### Wording -/

/-- A list of texts in quotes. -/
def quotedList (texts : List String) : String :=
  "[" ++ ", ".intercalate (texts.map Text.quoted) ++ "]"

/-- A configuration in one line, for the log. -/
def describe (c : Configuration) : String :=
  let real := Decimal.Layout.log.render
  "GradingConfig \x7b submissions_dir: " ++ c.submissions.quoted ++
    ", references_dir: " ++ c.references.quoted ++
    ", rubrics_dir: " ++ c.rubrics.quoted ++
    ", results_dir: " ++ c.results.quoted ++
    ", tasks: " ++ quotedList c.tasks ++
    ", weights: MatchWeights \x7b node: " ++ real c.weights.node ++
    ", edge: " ++ real c.weights.edge ++
    " \x7d, similarity_share: " ++ real c.share ++ " \x7d"

end Configuration

end StructuralGrading
