import StructuralGrading.Explanation
import StructuralGrading.Program.Check
import StructuralGrading.Rubric.Fault
import StructuralGrading.Store.Access

/-!
# Why something cannot be graded

`InputFault` is what can be wrong with one input, and `GradingFault` says for which of the files
of a task something is wrong.
-/

namespace StructuralGrading

/-- What can be wrong with an input. -/
inductive InputFault where
  | source (fault : SourceFault)
  | rubric (fault : Rubric.Fault)
  | unreadable (path : Path) (fault : AccessFault)
  deriving DecidableEq, Repr

def InputFault.explanation : InputFault → Explanation
  | source fault => .plain fault.message
  | rubric fault => .because ("Could not parse rubric: " ++ fault.message) (.plain fault.message)
  | unreadable path fault =>
    .because ("Could not read " ++ path.shown ++ ": " ++ fault.message) (.plain fault.message)

def InputFault.message (f : InputFault) : String := f.explanation.message

/-- Why a student's program cannot be graded. -/
inductive GradingFault where
  | submission (path : Path) (fault : AccessFault)
  | reference (path : Path) (fault : AccessFault)
  | rubric (fault : InputFault)
  /-- The program of the student, at the given path, or the reference is faulty. -/
  | programs (path : Path) (fault : SourceFault)
  deriving DecidableEq, Repr

namespace GradingFault

def explanation : GradingFault → Explanation
  | submission path fault =>
    .because ("Could not read submission " ++ path.shown) (.plain fault.message)
  | reference path fault =>
    .because ("Could not read reference " ++ path.shown) (.plain fault.message)
  | rubric fault => fault.explanation
  | programs path fault =>
    .because ("Could not grade " ++ path.shown) (InputFault.source fault).explanation

end GradingFault

end StructuralGrading
