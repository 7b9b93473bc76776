import StructuralGrading.Comparison
import StructuralGrading.Decimal.Shortest
import StructuralGrading.Json

/-!
# Results in writing

How flow graphs, concept graphs and comparisons are written down as values.  A concept is
written as its label, so it can be read back; an edge is the pair of its ends.
-/

namespace StructuralGrading

/-- A label without a name is its own name; one with a name is an object with one member. -/
def BlockLabel.toJson : BlockLabel → Json
  | function name => .object [("Function", .text name)]
  | forLoop => .text "ForLoop"
  | whileLoop => .text "WhileLoop"
  | ifCondition => .text "IfCondition"
  | trueBranch => .text "TrueBranch"
  | falseBranch => .text "FalseBranch"
  | statement kind => .object [("Statement", .text kind)]

def Block.toJson (b : Block) : Json :=
  .object [("id", .nat b.id), ("label", b.label.toJson), ("line", .nat b.line)]

/-- An edge as the numbers of its ends. -/
def edgeToJson (e : Nat × Nat) : Json := .pair (.nat e.1) (.nat e.2)

def Concept.toJson (c : Concept) : Json := .text c.label

/-- Reads a written concept back. What is no text is no concept. -/
def Concept.ofJson? (v : Json) : Option Concept := v.text?.bind fun text => (ofLabel text).toOption

def Placement.toJson (p : Placement) : Json := .pair (.nat p.id) p.concept.toJson

def Relationship.toJson (r : Relationship) : Json := .pair r.source.toJson r.target.toJson

/-! ### Concept graphs -/

namespace ConceptGraph

/-- A node with its number, its concept and its line. -/
def nodeToJson (id : Nat) (n : ConceptNode) : Json :=
  .object [("id", .nat id), ("concept", n.concept.toJson), ("line", .nat n.line)]

def toJson (g : ConceptGraph) : Json :=
  .object [
    ("nodes", .list (g.nodes.zipIdx.map fun (n, id) => nodeToJson id n)),
    ("edges", .ofList edgeToJson g.edges)]

/-- A concept graph laid out over several lines. -/
def pretty (g : ConceptGraph) : String := g.toJson.pretty (Decimal.Layout.written.render)

end ConceptGraph

/-! ### Comparisons -/

namespace Comparison

/-- Lines by node, the number of the node as the name of the member. -/
def linesToJson (lines : List (Nat × Nat)) : Json :=
  .object (lines.map fun (id, line) => (toString id, .nat line))

def toJson (c : Comparison) : Json :=
  .object [
    ("node_similarity", .real c.nodeSimilarity),
    ("edge_similarity", .real c.edgeSimilarity),
    ("similarity", .real c.similarity),
    ("missing_nodes", .ofList Placement.toJson c.missingNodes),
    ("extra_nodes", .ofList Placement.toJson c.extraNodes),
    ("missing_edges", .ofList Relationship.toJson c.missingEdges),
    ("extra_edges", .ofList Relationship.toJson c.extraEdges),
    ("missing_lines", linesToJson c.missingLines),
    ("extra_lines", linesToJson c.extraLines)]

end Comparison

end StructuralGrading
