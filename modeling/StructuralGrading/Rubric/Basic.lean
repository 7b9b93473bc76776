import StructuralGrading.Concept.Graph
import StructuralGrading.Decimal.Fixed
import StructuralGrading.Score
import StructuralGrading.Json

/-!
# Rubrics

A rubric gives points for concepts.  Its items are kept under the labels they were given; a
label that names no concept counts towards the possible points but can never be earned.

* `Rubric.ofItems` and `Rubric.withItem` build rubrics, all at once or item by item.
* `Rubric.tally` scores a concept graph: an item is earned, once, if its concept occurs anywhere.
-/

namespace StructuralGrading

/-- The points for one concept. -/
structure RubricItem where
  points : Float
  /-- A note for those who grade. -/
  description : Option String
  deriving DecidableEq, Repr

/-- Items by label, and the concepts of those labels that name one. -/
structure Rubric where
  items : SortedMap String RubricItem
  concepts : SortedMap String Concept
  deriving DecidableEq, Repr

/-- The points earned of those that could be. -/
structure Tally where
  earned : Float
  possible : Float
  deriving DecidableEq, Repr

namespace Tally

/-- The part that is earned, as a percentage. -/
def percent (t : Tally) : Float := Score.percent t.earned t.possible

/-- The points with two places. -/
def display (t : Tally) : String :=
  Decimal.points t.earned ++ "/" ++ Decimal.points t.possible

end Tally

namespace Rubric

/-! ### Building -/

/-- The concept that a label names. -/
def conceptOf? (label : String) : Option Concept := (Concept.ofLabel label).toOption

/-- The rubric with the given items. -/
def ofItems (items : SortedMap String RubricItem) : Rubric where
  items := items
  concepts := items.filterMap fun label _ => conceptOf? label

/-- The rubric without items. -/
def empty : Rubric := ⟨.empty, .empty⟩

/-- Adds an item, instead of the one with the same label. -/
def withItem (r : Rubric) (label : String) (item : RubricItem) : Rubric where
  items := r.items.insert label item
  concepts :=
    match conceptOf? label with
    | some c => r.concepts.insert label c
    | none => r.concepts.erase label

/-! ### Questions -/

/-- The concept of a label of the rubric. -/
def concept? (r : Rubric) (label : String) : Option Concept := r.concepts.get? label

/-- The labels that name no concept, in order. -/
def unknownLabels (r : Rubric) : List String :=
  r.items.keys.filter fun label => !r.concepts.contains label

/-- Whether there are no items. -/
def isEmpty (r : Rubric) : Bool := r.items.isEmpty

/-- The points of all items. -/
def possiblePoints (r : Rubric) : List Float := r.items.values.map (·.points)

/-- The sum of the points of all items. -/
def maxPoints (r : Rubric) : Float := Score.sum r.possiblePoints

/-! ### Scoring -/

/-- Whether the concept of a label occurs in a graph. -/
def isEarned (r : Rubric) (g : ConceptGraph) (label : String) : Bool :=
  (r.concept? label).any g.contains

/-- The items whose concepts occur in a graph, with their labels, in order. -/
def awarded (r : Rubric) (g : ConceptGraph) : List (String × RubricItem) :=
  r.items.entries.filter fun e => r.isEarned g e.1

/-- The points earned by a graph. -/
def tally (r : Rubric) (g : ConceptGraph) : Tally where
  earned := Score.sum ((r.awarded g).map (·.2.points))
  possible := r.maxPoints

end Rubric

/-! ### Rubrics in writing -/

/-- An item; without a description there is no member for it. -/
def RubricItem.toJson (i : RubricItem) : Json :=
  .object (("points", .real i.points) ::
    match i.description with
    | some d => [("description", .text d)]
    | none => [])

def Rubric.toJson (r : Rubric) : Json :=
  .object (r.items.entries.map fun (label, item) => (label, item.toJson))

def Tally.toJson (t : Tally) : Json :=
  .object [("earned", .real t.earned), ("max", .real t.possible)]

end StructuralGrading
