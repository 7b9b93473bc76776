import StructuralGrading.Concept.Basic
import StructuralGrading.Flow.Trace

/-!
# Concept graphs

A concept graph has the nodes and edges of the flow graph it is taken from, with concepts for
labels.  Two views of it are compared when programs are graded:

* `placements`: every node as its number with its concept;
* `relationships`: every edge as the concepts at its ends, each pair once.
-/

namespace StructuralGrading

/-- A concept with the line it starts on. -/
structure ConceptNode where
  concept : Concept
  line : Nat
  deriving DecidableEq, Repr

/-- Nodes in the order of their numbers, and edges in the order of the flow graph. -/
structure ConceptGraph where
  nodes : List ConceptNode
  edges : List (Nat × Nat)
  deriving DecidableEq, Repr

/-- A concept at a place: the node's number and its concept. -/
structure Placement where
  id : Nat
  concept : Concept
  deriving DecidableEq, Repr

/-- The concepts at the two ends of an edge. -/
structure Relationship where
  source : Concept
  target : Concept
  deriving DecidableEq, Repr

/-- By source, then by target. -/
instance : Ord Relationship where
  compare r s := (compare r.source s.source).then (compare r.target s.target)

/-- The concept graph of a flow graph. -/
def FlowGraph.conceptGraph (g : FlowGraph) : ConceptGraph where
  nodes := g.blocks.map fun b => ⟨.ofBlock b.label, b.line⟩
  edges := g.edges

/-- The concept graph of a program. -/
def Program.conceptGraph (p : Program) : ConceptGraph := p.flow.conceptGraph

namespace ConceptGraph

/-- The number of nodes. -/
def size (g : ConceptGraph) : Nat := g.nodes.length

/-- The number of edges. -/
def edgeCount (g : ConceptGraph) : Nat := g.edges.length

/-- Whether there are no nodes. -/
def isEmpty (g : ConceptGraph) : Bool := g.nodes.isEmpty

/-- The concepts in the order of the nodes. -/
def concepts (g : ConceptGraph) : List Concept := g.nodes.map (·.concept)

/-- The concept in a slot. -/
def concept? (g : ConceptGraph) (id : Nat) : Option Concept := g.concepts[slot id]?

/-- The line of a node. -/
def line? (g : ConceptGraph) (id : Nat) : Option Nat := (g.nodes.map (·.line))[id]?

/-- Whether some node has the concept. -/
def contains (g : ConceptGraph) (c : Concept) : Bool := c ∈ g.concepts

/-- Every node's number and concept, in the order of the numbers. -/
def placements (g : ConceptGraph) : List Placement :=
  g.concepts.zipIdx.map fun (c, id) => ⟨id, c⟩

/-- The concepts at the ends of an edge. -/
def relationship? (g : ConceptGraph) (edge : Nat × Nat) : Option Relationship := do
  return ⟨← g.concepts[edge.1]?, ← g.concepts[edge.2]?⟩

/-- The concepts at the ends of the edges, in increasing order and each pair once. -/
def relationships (g : ConceptGraph) : List Relationship :=
  Sorted.ofList (g.edges.filterMap g.relationship?)

end ConceptGraph

end StructuralGrading
