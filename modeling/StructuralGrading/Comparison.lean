import StructuralGrading.Concept.Graph
import StructuralGrading.Score

/-!
# Comparing concept graphs

A student's concept graph is compared with a reference.  A node matches if the reference has
the same concept at the same place; a relationship matches if the reference has an edge between
the same two concepts.  The similarity is normalised by the reference, so comparing the other
way round gives another number in general.

* `Comparison.nodeSimilarity`, `Comparison.edgeSimilarity` and `Comparison.similarity` are the
  formulas, over any type of numbers.
* `Comparison.compare` collects them with what is missing and what is extra.
-/

namespace StructuralGrading

/-- What node similarity and edge similarity count for. -/
structure Weights (α : Type) where
  node : α
  edge : α
  deriving DecidableEq, Repr

namespace Weights

/-- Nodes count for more than edges. -/
def standard : Weights Float := ⟨0.7, 0.3⟩

end Weights

/-- The outcome of comparing a student's graph with a reference. -/
structure Comparison where
  nodeSimilarity : Float
  edgeSimilarity : Float
  /-- The two similarities with their weights. -/
  similarity : Float
  /-- Placements of the reference that the student lacks. -/
  missingNodes : List Placement
  /-- Placements of the student that the reference lacks. -/
  extraNodes : List Placement
  /-- Relationships of the reference that the student lacks. -/
  missingEdges : List Relationship
  /-- Relationships of the student that the reference lacks. -/
  extraEdges : List Relationship
  /-- The reference's line of each missing node. -/
  missingLines : List (Nat × Nat)
  /-- The student's line of each extra node. -/
  extraLines : List (Nat × Nat)
  deriving DecidableEq, Repr

namespace Comparison

/-! ### Matches and differences -/

section lists

variable {β : Type} [DecidableEq β]

/-- How many members of one list are in another. -/
def matchCount (student reference : List β) : Nat := (student.filter (· ∈ reference)).length

/-- The members of one list that are not in another. -/
def lacking (these others : List β) : List β := these.filter (· ∉ others)

theorem mem_lacking {a : β} {xs ys : List β} : a ∈ lacking xs ys ↔ a ∈ xs ∧ a ∉ ys := by
  simp [lacking]

theorem lacking_self (xs : List β) : lacking xs xs = [] := by
  simp [lacking, List.filter_eq_nil_iff]

end lists

/-! ### Similarities -/

section numbers

variable {α : Type} [Add α] [Mul α] [Div α] [NatCast α]

/-- The share of the reference's nodes that the student matches. -/
def nodeSimilarityOf (student reference : ConceptGraph) : α :=
  Score.ratio (matchCount student.placements reference.placements) reference.placements.length

/-- The share of the reference's relationships that the student matches. -/
def edgeSimilarityOf (student reference : ConceptGraph) : α :=
  Score.ratio (matchCount student.relationships reference.relationships)
    reference.relationships.length

/-- The similarity of two graphs. -/
def similarityOf (weights : Weights α) (student reference : ConceptGraph) : α :=
  Score.blend weights.node weights.edge (nodeSimilarityOf student reference)
    (edgeSimilarityOf student reference)

end numbers

/-! ### Comparing -/

/-- The line of each placement in the graph it is taken from. -/
def linesOf (g : ConceptGraph) (ps : List Placement) : List (Nat × Nat) :=
  ps.filterMap fun p => (g.line? p.id).map fun line => (p.id, line)

/-- Compares a student's graph with a reference. -/
def compare (weights : Weights Float) (student reference : ConceptGraph) : Comparison :=
  let missing := lacking reference.placements student.placements
  let extra := lacking student.placements reference.placements
  { nodeSimilarity := nodeSimilarityOf student reference
    edgeSimilarity := edgeSimilarityOf student reference
    similarity := similarityOf weights student reference
    missingNodes := missing
    extraNodes := extra
    missingEdges := lacking reference.relationships student.relationships
    extraEdges := lacking student.relationships reference.relationships
    missingLines := linesOf reference missing
    extraLines := linesOf student extra }

/-- The reference's line of a missing node. -/
def missingLine? (c : Comparison) (id : Nat) : Option Nat := c.missingLines.lookup id

/-- The student's line of an extra node. -/
def extraLine? (c : Comparison) (id : Nat) : Option Nat := c.extraLines.lookup id

/-- Whether nothing is missing and nothing is extra. -/
def isExact (c : Comparison) : Bool :=
  c.missingNodes.isEmpty && c.extraNodes.isEmpty && c.missingEdges.isEmpty && c.extraEdges.isEmpty

end Comparison

end StructuralGrading
