/-!
# Explanations

What a failure says: a message, and the causes below it from the nearest to the deepest.
-/

namespace StructuralGrading

/-- A message with its causes. -/
structure Explanation where
  message : String
  causes : List String
  deriving DecidableEq, Repr

namespace Explanation

/-- A message without a cause. -/
def plain (message : String) : Explanation := ⟨message, []⟩

/-- The explanation of something that failed for a reason which has its own explanation. -/
def because (message : String) (reason : Explanation) : Explanation :=
  ⟨message, reason.message :: reason.causes⟩

/-- The message and all causes in one line. -/
def chain (e : Explanation) : String := ": ".intercalate (e.message :: e.causes)

/-- A cause on a line of its own, with its number if there are several. -/
def causeLine (several : Bool) (n : Nat) (cause : String) : String :=
  if several then
    let digits := toString n
    "\n" ++ String.ofList (List.replicate (5 - digits.length) ' ') ++ digits ++ ": " ++ cause
  else "\n    " ++ cause

/-- The message and below it the causes. -/
def report (e : Explanation) : String :=
  "Error: " ++ e.message ++
    if e.causes.isEmpty then ""
    else "\n\nCaused by:" ++
      "".intercalate (e.causes.zipIdx.map fun (cause, n) => causeLine (1 < e.causes.length) n cause)

end Explanation

end StructuralGrading
