import StructuralGrading.Flow.Graph
import StructuralGrading.Program.Outline

/-!
# From outlines to flow graphs

The constructs of an outline are traced in order; each adds its blocks to the graph and leaves
a block active, to which the next construct is attached.  Two rules shape every graph:

* branches never meet again: what follows a conditional is attached to the branch traced last;
* a loop gets an edge to itself and no way out: the block that is active after it is the last
  one of its body, or its head.
-/

namespace StructuralGrading

/-- The label of a loop's head. -/
def LoopStyle.label : LoopStyle → BlockLabel
  | forLoop => .forLoop
  | whileLoop => .whileLoop

/-- A graph under construction, with the block that the next construct is attached to. -/
structure Trail where
  graph : FlowGraph
  active : Option Nat
  deriving DecidableEq, Repr

namespace Trail

/-- The trail before any construct. -/
def start : Trail := ⟨.empty, none⟩

/-- Adds a block, attaches it to a given one and makes it active. -/
def branch (t : Trail) (origin : Nat) (label : BlockLabel) (line : Nat) : Trail :=
  ⟨(t.graph.addBlock label line).link origin t.graph.size, some t.graph.size⟩

/-- Adds a block, attaches it to the active one, if there is one, and makes it active. -/
def enter (t : Trail) (label : BlockLabel) (line : Nat) : Trail :=
  match t.active with
  | some origin => t.branch origin label line
  | none => ⟨t.graph.addBlock label line, some t.graph.size⟩

/-- Adds the edge from a loop's head to itself. -/
def closeLoop (t : Trail) (head : Nat) : Trail := { t with graph := t.graph.link head head }

end Trail

mutual

/-- Adds the blocks and edges of a construct. -/
def Construct.trace : Construct → Trail → Trail
  | .function name line body, t => traceAll body (t.enter (.function name) line)
  | .loop style line body, t => (traceAll body (t.enter style.label line)).closeLoop t.graph.size
  | .ifThen line test thenLine thenBody, t =>
    let tested := traceAll test (t.enter .ifCondition line)
    traceAll thenBody (tested.branch t.graph.size .trueBranch thenLine)
  | .ifElse line test thenLine thenBody elseLine elseBody, t =>
    let tested := traceAll test (t.enter .ifCondition line)
    let taken := traceAll thenBody (tested.branch t.graph.size .trueBranch thenLine)
    traceAll elseBody (taken.branch t.graph.size .falseBranch elseLine)

/-- Adds the blocks and edges of several constructs in order. -/
def traceAll : List Construct → Trail → Trail
  | [], t => t
  | c :: cs, t => traceAll cs (c.trace t)

end

/-- The flow graph of an outline. -/
def FlowGraph.ofOutline (outline : List Construct) : FlowGraph := (traceAll outline .start).graph

/-- The flow graph of a program.  It exists for faulty programs too. -/
def Program.flow (p : Program) : FlowGraph := .ofOutline p.outline

theorem traceAll_append :
    ∀ (cs ds : List Construct) (t : Trail), traceAll (cs ++ ds) t = traceAll ds (traceAll cs t)
  | [], _, _ => rfl
  | c :: cs, ds, t => by
    rw [List.cons_append, traceAll, traceAll, traceAll_append cs ds]

end StructuralGrading
