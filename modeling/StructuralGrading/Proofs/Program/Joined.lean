import StructuralGrading.Proofs.Concept.Sequence
import StructuralGrading.Proofs.Flow.Append
import StructuralGrading.Proofs.Program.Alike
import StructuralGrading.Rubric.Basic

/-! # One program after another

Statements added at the end of a program change nothing of what stands before them.

* `Program.Joined a b ab`: the program `ab` has the statements of `a` and then those of `b`;
* `Joined.flow_eq`: its graph is that of `a` and after it that of `b`;
* `Program.flow_joined`: so nothing of `a` is missing from it, and it earns what `a` earns. -/

namespace StructuralGrading

/-- The statements of two modules in one module, on the lines they had.  Where on its line and
where in the source a statement stands may differ. -/
structure Program.Joined (a b ab : Program) : Prop where
  first : a.tree.info.kind = "module"
  second : b.tree.info.kind = "module"
  both : ab.tree.info.kind = "module"
  children : ∃ as bs, ab.tree.children = as ++ bs ∧
    List.Forall₂ (Tree.Alike .full a.text ab.text) a.tree.children as ∧
    List.Forall₂ (Tree.Alike .full b.text ab.text) b.tree.children bs

/-! ### Outlines of modules -/

theorem Node.role_module {n : Node} (h : n.kind = "module") : n.role = .plain := by
  rw [role, h]
  rfl

/-- The outline of statements one after another. -/
def Program.statements (p : Program) (ts : List Tree) : List Construct :=
  ((ts.map p.summary).filter (·.node.named)).flatMap (·.whole)

namespace Program

variable {p q : Program}

theorem outline_module (h : p.tree.info.kind = "module") :
    p.outline = p.statements p.tree.children := by
  obtain ⟨source, ⟨n, ts⟩⟩ := p
  have hrole : n.role = .plain := Node.role_module h
  rw [outline, summary, Tree.fold_node, Summary.whole_ofNode_plain hrole]
  rfl

theorem statements_append (p : Program) (ts us : List Tree) :
    p.statements (ts ++ us) = p.statements ts ++ p.statements us := by
  rw [statements, List.map_append, List.filter_append, List.flatMap_append]
  rfl

theorem ofOutline_statements {ts us : List Tree}
    (h : List.Forall₂ (Tree.Alike .full p.text q.text) ts us) :
    FlowGraph.ofOutline (p.statements ts) = .ofOutline (q.statements us) := by
  have hsummaries := Summary.filter_alike Node.Alike.named (Tree.map_fold_alike ts us h)
  have houtline := Summary.flatMap_whole_alike hsummaries
  rw [← View.graph_full (.ofOutline (p.statements ts)),
    ← View.graph_full (.ofOutline (q.statements us))]
  exact View.graph_eq_of_outline_eq _ houtline

theorem Joined.flow_eq {a b ab : Program} (h : Joined a b ab) :
    ab.flow = a.flow.append b.flow := by
  obtain ⟨as, bs, hchildren, has, hbs⟩ := h.children
  have ha : FlowGraph.ofOutline (ab.statements as) = a.flow := by
    rw [flow, outline_module h.first, ofOutline_statements has]
  have hb : FlowGraph.ofOutline (ab.statements bs) = b.flow := by
    rw [flow, outline_module h.second, ofOutline_statements hbs]
  rw [flow, outline_module h.both, hchildren, statements_append, FlowGraph.ofOutline_append, ha, hb]

end Program

/-! ### Concepts of joined graphs -/

theorem FlowGraph.labels_append (g h : FlowGraph) :
    (g.append h).labels = g.labels ++ h.labels := by
  rw [labels, append, List.map_append, List.map_map]
  rfl

theorem FlowGraph.concepts_append (g h : FlowGraph) :
    (g.append h).conceptGraph.concepts =
      g.conceptGraph.concepts ++ h.conceptGraph.concepts := by
  rw [concepts_conceptGraph, concepts_conceptGraph, concepts_conceptGraph, labels_append,
    List.map_append]

namespace Program

variable {a b ab : Program}

theorem Joined.concepts_eq (h : Joined a b ab) :
    ab.conceptGraph.concepts = a.conceptGraph.concepts ++ b.conceptGraph.concepts := by
  unfold conceptGraph
  rw [h.flow_eq, FlowGraph.concepts_append]

/-- Every node of the first part is a node of the whole. -/
theorem Joined.lacking_placements (h : Joined a b ab) :
    Comparison.lacking a.conceptGraph.placements ab.conceptGraph.placements = [] := by
  rw [Comparison.lacking_placements_eq_nil_iff]
  intro id c hc
  have hid := (List.getElem?_eq_some_iff.mp hc).1
  rw [h.concepts_eq, List.getElem?_append_left hid]
  exact hc

theorem Joined.mem_awarded (h : Joined a b ab) {r : Rubric} {e : String × RubricItem}
    (he : e ∈ r.awarded a.conceptGraph) : e ∈ r.awarded ab.conceptGraph := by
  unfold Rubric.awarded at he ⊢
  rw [List.mem_filter] at he ⊢
  refine ⟨he.1, ?_⟩
  have hearned := he.2
  unfold Rubric.isEarned at hearned ⊢
  rw [Option.any_eq_true] at hearned ⊢
  obtain ⟨c, hc, hmem⟩ := hearned
  refine ⟨c, hc, ?_⟩
  unfold ConceptGraph.contains at hmem ⊢
  rw [decide_eq_true_iff] at hmem ⊢
  rw [h.concepts_eq]
  exact List.mem_append_left _ hmem

/-- **Programs only grow at their end.**  The graph of a program with more statements after it
is its own graph followed by that of the other statements.  Compared with the longer program,
nothing of the shorter one is missing and nothing of it is extra, and under every rubric the
longer one is awarded what the shorter one is. -/
theorem flow_joined (h : Joined a b ab) :
    ab.flow = a.flow.append b.flow ∧
    (∀ weights : Weights Float,
      let longer := Comparison.compare weights ab.conceptGraph a.conceptGraph
      let shorter := Comparison.compare weights a.conceptGraph ab.conceptGraph
      longer.missingNodes = [] ∧ longer.missingEdges = [] ∧
      shorter.extraNodes = [] ∧ shorter.extraEdges = []) ∧
    ∀ (r : Rubric), ∀ e ∈ r.awarded a.conceptGraph, e ∈ r.awarded ab.conceptGraph := by
  have hnodes := h.lacking_placements
  have hedges := lacking_relationships a ab hnodes
  refine ⟨h.flow_eq, ?_, fun r e he => h.mem_awarded he⟩
  intro weights longer shorter
  exact ⟨hnodes, hedges, hnodes, hedges⟩

/-! ### A function, and a conditional after it -/

/-- A function that does nothing. -/
def idleFunction : Tree :=
  .node (.phrase "function_definition" none 0 0 17)
    [.node (.phrase "identifier" (some "name") 0 4 5) [],
      .node (.phrase "block" (some "body") 1 13 17)
        [.node (.phrase "pass_statement" none 1 13 17) []]]

/-- A conditional that does nothing, on the third line and from the given byte on. -/
def idleTest (start : Nat) : Tree :=
  .node (.phrase "if_statement" none 2 start (start + 14))
    [.node (.phrase "identifier" (some "condition") 2 (start + 3) (start + 4)) [],
      .node (.phrase "block" (some "consequence") 3 (start + 10) (start + 14))
        [.node (.phrase "pass_statement" none 3 (start + 10) (start + 14)) []]]

def idleStart : Program :=
  ⟨"def f():\n    pass\n", .node (.phrase "module" none 0 0 18) [idleFunction]⟩

def idleEnd : Program :=
  ⟨"\n\nif x:\n    pass\n", .node (.phrase "module" none 0 0 17) [idleTest 2]⟩

def idleWhole : Program :=
  ⟨"def f():\n    pass\nif x:\n    pass\n",
    .node (.phrase "module" none 0 0 33) [idleFunction, idleTest 18]⟩

theorem joined_idle : Joined idleStart idleEnd idleWhole where
  first := rfl
  second := rfl
  both := rfl
  children := ⟨[idleFunction], [idleTest 18], rfl, by decide, by decide⟩

/-- The edge between the two parts leads from the function to the conditional. -/
theorem flow_joined_idle :
    Joined idleStart idleEnd idleWhole ∧ idleWhole.flow = idleStart.flow.append idleEnd.flow ∧
      idleStart.flow.bridge idleEnd.flow = [(0, 1)] :=
  ⟨joined_idle, (flow_joined joined_idle).1, by decide⟩

end Program

end StructuralGrading
