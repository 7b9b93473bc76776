import StructuralGrading.Grading.Files
import StructuralGrading.Proofs.Script.Looking

/-! # What grading files comes to

Grading files only looks at the files, so it comes to a function of the store: the student's text,
the reference's, the rubric, and then the two programs, the first of which to fail decides.

* `TaskGrade.ofStore`: that function;
* `TaskGrade.onlyLooks_gradeFiles`, `TaskGrade.yields_gradeFiles`: grading files comes to it;
* `GradingFault.found`: what is wrong, without what is said about where it was found. -/

namespace StructuralGrading

open Script (yields OnlyLooks Looks)

/-! ### Files of a store -/

namespace Store

/-- The text of the file at a path. -/
def readText (s : Store) (p : Path) : Except AccessFault String := do
  match String.fromUTF8? (← s.read p) with
  | some text => return text
  | none => throw .notText

/-- The rubric in the file at a path. -/
def readRubric (s : Store) (p : Path) : Except InputFault Rubric := do
  let text ← (s.readText p).mapError (.unreadable p)
  (Rubric.ofText text).mapError .rubric

end Store

/-- The grade that the files of a store come to.  The first step that fails decides what is
wrong. -/
def TaskGrade.ofStore (parse : Parser) (c : Configuration) (task : String) (s : Store)
    (student reference rubric : Path) : Except GradingFault TaskGrade := do
  let studentText ← (s.readText student).mapError (.submission student)
  let referenceText ← (s.readText reference).mapError (.reference reference)
  let r ← (s.readRubric rubric).mapError .rubric
  (ofSources parse c r task studentText referenceText).mapError (.programs student)

/-! ### Reading -/

namespace Script

variable {α ε : Type} {P : Path → Prop} {p : Path}

theorem onlyLooks_readText (hp : P p) : OnlyLooks P (readText p) := by
  refine OnlyLooks.bind (x := read p) ⟨⟨p, rfl, hp⟩, fun _ => trivial⟩ fun content => ?_
  split <;> trivial

theorem yields_readText (p : Path) (s : Store) : yields (readText p) s = s.readText p := by
  rw [readText, Store.readText, yields_bind]
  have hread : yields (read p) s = s.read p := rfl
  rw [hread]
  cases s.read p with
  | error fault => rfl
  | ok content =>
      simp only [Bind.bind, Except.bind]
      cases String.fromUTF8? content <;> rfl

end Script

/-! ### Rubrics -/

namespace Rubric

variable {P : Path → Prop} {p : Path}

theorem onlyLooks_load (hp : P p) : OnlyLooks P (load p) := by
  refine OnlyLooks.bind ((Script.onlyLooks_readText hp).adapt _) fun text => ?_
  split
  · trivial
  · exact Script.onlyLooks_tellAll _ trivial

theorem yields_load (p : Path) (s : Store) : yields (load p) s = s.readRubric p := by
  have hlook : OnlyLooks (· = p) (Script.readText p) := Script.onlyLooks_readText rfl
  rw [load, Store.readRubric, (hlook.adapt _).yields_bind, Script.yields_adapt,
    Script.yields_readText]
  cases s.readText p with
  | error fault => rfl
  | ok text =>
      have hread : (Except.ok text : Except AccessFault String).mapError (InputFault.unreadable p) =
          .ok text := rfl
      simp only [hread, Bind.bind, Except.bind]
      cases ofText text with
      | error fault => rfl
      | ok r => exact Script.yields_tellAll _ _ s

end Rubric

/-! ### Grading -/

namespace TaskGrade

variable {P : Path → Prop}

section programs

variable (parse : Parser) (c : Configuration) (r : Rubric) (task student reference : String)

theorem onlyLooks_grade : OnlyLooks P (grade parse c r task student reference) := by
  rw [grade]
  split
  · trivial
  · exact Script.onlyLooks_tellAll _ trivial

theorem yields_grade (s : Store) :
    yields (grade parse c r task student reference) s =
      ofSources parse c r task student reference := by
  rw [grade, ofSources]
  cases Program.conceptGraphs parse student reference with
  | error fault => rfl
  | ok graphs => exact Script.yields_tellAll _ _ s

end programs

section files

variable (parse : Parser) (c : Configuration) (task : String) {student reference rubric : Path}

theorem onlyLooks_gradeFiles (hs : P student) (hr : P reference) (hq : P rubric) :
    OnlyLooks P (gradeFiles parse c task student reference (some rubric)) :=
  OnlyLooks.bind ((Script.onlyLooks_readText hs).adapt _) fun _ =>
    OnlyLooks.bind ((Script.onlyLooks_readText hr).adapt _) fun _ =>
      OnlyLooks.bind ((Rubric.onlyLooks_load hq).adapt _) fun _ =>
        (onlyLooks_grade ..).adapt _

theorem yields_gradeFiles (s : Store) :
    yields (gradeFiles parse c task student reference (some rubric)) s =
      ofStore parse c task s student reference rubric := by
  have hs : OnlyLooks (fun _ => True) (Script.readText student) := Script.onlyLooks_readText trivial
  have hr : OnlyLooks (fun _ => True) (Script.readText reference) :=
    Script.onlyLooks_readText trivial
  have hq : OnlyLooks (fun _ => True) (Rubric.load rubric) := Rubric.onlyLooks_load trivial
  simp only [gradeFiles, ofStore, (hs.adapt _).yields_bind, (hr.adapt _).yields_bind,
    (hq.adapt _).yields_bind, Script.yields_adapt, Script.yields_readText, Rubric.yields_load,
    yields_grade]

end files

end TaskGrade

/-! ### Faults -/

namespace GradingFault

/-- What is wrong, without what is said about where it was found. -/
def found : GradingFault → Explanation
  | submission _ fault => .plain fault.message
  | reference _ fault => .plain fault.message
  | rubric fault => fault.explanation
  | programs _ fault => (InputFault.source fault).explanation

/-- A message about the file is added on top, if anything is. -/
theorem explanation_eq_found (f : GradingFault) :
    f.explanation = f.found ∨ ∃ m, f.explanation = .because m f.found := by
  cases f with
  | submission p fault => exact .inr ⟨_, rfl⟩
  | reference p fault => exact .inr ⟨_, rfl⟩
  | rubric fault => exact .inl rfl
  | programs p fault => exact .inr ⟨_, rfl⟩

end GradingFault

end StructuralGrading
