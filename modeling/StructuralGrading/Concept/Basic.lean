import StructuralGrading.Flow.Graph

/-!
# Concepts

A concept is what a block teaches: a function with its name, one of the loops, a condition, a
branch, or anything else.  Every concept has a label, and `Concept.ofLabel` reads labels back.

Concepts are ordered: functions first, by name, then the rest in the order of the type.
-/

namespace StructuralGrading

/-- The concepts a block can stand for. -/
inductive Concept where
  | function (name : String)
  | forLoop
  | whileLoop
  | ifCondition
  | conditionalBranch
  | general
  deriving DecidableEq, Repr

/-- A text that is no concept's label. -/
structure UnknownConcept where
  text : String
  deriving DecidableEq, Repr

def UnknownConcept.message (e : UnknownConcept) : String :=
  "`" ++ e.text ++ "` is not a concept label."

namespace Concept

/-- How the label of a function starts. -/
def functionHead : String := "Function: "

/-- The label of a concept. -/
def label : Concept → String
  | function name => functionHead ++ name
  | forLoop => "Concept: For Loop"
  | whileLoop => "Concept: While Loop"
  | ifCondition => "Concept: If Condition"
  | conditionalBranch => "Concept: Conditional Branch"
  | general => "Concept: General"

/-- The concept that a text names.  The head of a function is tried before the fixed texts. -/
def ofLabel (text : String) : Except UnknownConcept Concept :=
  match functionHead.toList.isPrefixOf? text.toList with
  | some name => .ok (.function (String.ofList name))
  | none =>
    match text with
    | "Concept: For Loop" => .ok forLoop
    | "Concept: While Loop" => .ok whileLoop
    | "Concept: If Condition" => .ok ifCondition
    | "Concept: Conditional Branch" => .ok conditionalBranch
    | "Concept: General" => .ok general
    | _ => .error ⟨text⟩

/-! ### Order -/

/-- A concept's place among the concepts, and its name if it is a function. -/
def key : Concept → Nat × String
  | function name => (0, name)
  | forLoop => (1, "")
  | whileLoop => (2, "")
  | ifCondition => (3, "")
  | conditionalBranch => (4, "")
  | general => (5, "")

theorem key_injective {c d : Concept} (h : c.key = d.key) : c = d := by
  cases c <;> cases d <;> simp_all [key]

/-- By place, then by name. -/
instance : Ord Concept where
  compare c d := (compare c.key.1 d.key.1).then (compare c.key.2 d.key.2)

/-! ### Abstraction -/

/-- The concept that a block stands for.  Both branches of a conditional are one concept, and a
statement is the general one. -/
def ofBlock : BlockLabel → Concept
  | .function name => function name
  | .forLoop => forLoop
  | .whileLoop => whileLoop
  | .ifCondition => ifCondition
  | .trueBranch => conditionalBranch
  | .falseBranch => conditionalBranch
  | .statement _ => general

end Concept

end StructuralGrading
