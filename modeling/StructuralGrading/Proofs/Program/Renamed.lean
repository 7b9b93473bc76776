import StructuralGrading.Proofs.Concept.Placewise
import StructuralGrading.Proofs.Concept.Sequence
import StructuralGrading.Proofs.Program.Surface

/-! # Programs with other names

The source text of a program is read for the names of its functions only.  Two programs whose trees
have the same shape can tell themselves apart by these names, and by nothing else that is compared.

* `Tree.skeleton`: a tree without marks, columns and bounds, so without the text;
* `FlowGraph.IsRenaming`: two graphs that differ in names of functions alone;
* `Program.isRenaming_flow`: programs with one skeleton have such graphs;
* `FlowGraph.renamings`: the blocks with different names;
* `Program.compare_renamed`: a comparison finds these blocks, and edges at functions. -/

namespace StructuralGrading

/-! ### Skeletons -/

/-- A tree of bare nodes: what a program has in common with others of the same shape. -/
def Tree.skeleton (t : Tree) : Tree := t.fold fun n below => .node n.bare below

/-- Names of functions are not told apart. -/
def View.unnamed : View := ⟨fun _ => "", id⟩

theorem Node.alike_of_bare {text text' : Node → String} {n m : Node} (h : n.bare = m.bare) :
    n.Alike .unnamed text text' m where
  kind := show n.bare.kind = m.bare.kind by rw [h]
  field := show n.bare.field = m.bare.field by rw [h]
  named := show n.bare.named = m.bare.named by rw [h]
  line := show n.bare.line = m.bare.line by rw [h]
  name := fun _ => rfl

namespace Tree

theorem skeleton_node (n : Node) (ts : List Tree) :
    (Tree.node n ts).skeleton = .node n.bare (ts.map skeleton) := fold_node _ n ts

mutual

theorem alike_of_skeleton (text text' : Node → String) : ∀ t u : Tree,
    t.skeleton = u.skeleton → t.Alike .unnamed text text' u
  | .node n ts, .node m us, h => by
      rw [skeleton_node, skeleton_node] at h
      obtain ⟨hnode, hbelow⟩ := Tree.node.inj h
      exact .node (Node.alike_of_bare hnode) (forall₂_alike_of_skeleton text text' ts us hbelow)

theorem forall₂_alike_of_skeleton (text text' : Node → String) : ∀ ts us : List Tree,
    ts.map skeleton = us.map skeleton → List.Forall₂ (Tree.Alike .unnamed text text') ts us
  | [], [], _ => .nil
  | [], _ :: _, h => nomatch h
  | _ :: _, [], h => nomatch h
  | t :: ts, u :: us, h => by
      rw [List.map_cons, List.map_cons] at h
      obtain ⟨htu, hrest⟩ := List.cons.inj h
      exact .cons (alike_of_skeleton text text' t u htu)
        (forall₂_alike_of_skeleton text text' ts us hrest)

end

end Tree

/-! ### Renamed functions -/

/-- The name on a block of a function. -/
def BlockLabel.name? : BlockLabel → Option String
  | function name => some name
  | _ => none

/-- Two labels that differ in the name of a function, if at all. -/
def BlockLabel.IsRenaming (a b : BlockLabel) : Prop :=
  a = b ∨ ∃ m n, a = .function m ∧ b = .function n

theorem BlockLabel.IsRenaming.symm {a b : BlockLabel} (h : a.IsRenaming b) : b.IsRenaming a := by
  rcases h with heq | ⟨m, n, ha, hb⟩
  · exact .inl heq.symm
  · exact .inr ⟨n, m, hb, ha⟩

def Concept.IsFunction (c : Concept) : Prop := ∃ name, c = .function name

theorem View.isRenaming_of_unnamed {a b : BlockLabel}
    (h : View.unnamed.label a = View.unnamed.label b) : a.IsRenaming b := by
  cases a <;> cases b <;> simp_all [View.label, BlockLabel.IsRenaming]

namespace FlowGraph

variable {g h : FlowGraph}

/-- Two graphs that differ in the names of functions alone. -/
structure IsRenaming (g h : FlowGraph) : Prop where
  size_eq : g.size = h.size
  lines_eq : g.blocks.map (·.line) = h.blocks.map (·.line)
  edges_eq : g.edges = h.edges
  labels : List.Forall₂ BlockLabel.IsRenaming g.labels h.labels

/-- The blocks of functions with different names. -/
def renamings (g h : FlowGraph) : List Nat :=
  (List.range g.size).filter fun v =>
    g.labels[v]?.bind BlockLabel.name? ≠ h.labels[v]?.bind BlockLabel.name?

/-- Graphs that look the same without the names of functions are renamings of each other. -/
theorem isRenaming_of_unnamed (heq : View.unnamed.graph g = View.unnamed.graph h) :
    g.IsRenaming h := by
  have hblocks : g.blocks.map View.unnamed.block = h.blocks.map View.unnamed.block :=
    congrArg FlowGraph.blocks heq
  refine ⟨?_, ?_, ?_, ?_⟩
  · simpa [size] using congrArg List.length hblocks
  · simpa [View.block, View.unnamed, Function.comp_def] using
      congrArg (List.map (·.line)) hblocks
  · rw [← View.unnamed.edges_graph g, heq, View.edges_graph]
  · have hlabels : g.labels.map View.unnamed.label = h.labels.map View.unnamed.label := by
      simpa [labels, View.block, Function.comp_def] using congrArg (List.map (·.label)) hblocks
    have hforall : List.Forall₂ (· = ·) (g.labels.map View.unnamed.label)
        (h.labels.map View.unnamed.label) := by
      rw [List.forall₂_eq_eq_eq, hlabels]
    rw [List.forall₂_map_left_iff, List.forall₂_map_right_iff] at hforall
    exact hforall.imp fun _ _ => View.isRenaming_of_unnamed

namespace IsRenaming

theorem symm (hr : g.IsRenaming h) : h.IsRenaming g where
  size_eq := hr.size_eq.symm
  lines_eq := hr.lines_eq.symm
  edges_eq := hr.edges_eq.symm
  labels := hr.labels.flip.imp fun _ _ => BlockLabel.IsRenaming.symm

theorem label_cases (hr : g.IsRenaming h) (v : Nat) :
    g.labels[v]? = h.labels[v]? ∨
      ∃ m n, g.labels[v]? = some (.function m) ∧ h.labels[v]? = some (.function n) := by
  have hlength : g.labels.length = h.labels.length := hr.labels.length_eq
  by_cases hv : v < g.labels.length
  · have hlabel : g.labels[v].IsRenaming h.labels[v] := hr.labels.get hv (hlength ▸ hv)
    rw [List.getElem?_eq_getElem hv, List.getElem?_eq_getElem (hlength ▸ hv)]
    rcases hlabel with heq | ⟨m, n, hm, hn⟩
    · exact .inl (congrArg some heq)
    · exact .inr ⟨m, n, congrArg some hm, congrArg some hn⟩
  · left
    rw [List.getElem?_eq_none (by omega), List.getElem?_eq_none (by omega)]

theorem mem_renamings_iff (hr : g.IsRenaming h) {v : Nat} : v ∈ g.renamings h ↔
    ∃ m n, g.labels[v]? = some (.function m) ∧ h.labels[v]? = some (.function n) ∧ m ≠ n := by
  have hsize : v < g.size ↔ g.labels[v]?.isSome = true := by
    simp [← length_labels]
  rw [renamings, List.mem_filter, List.mem_range, hsize]
  constructor
  · rintro ⟨-, hne⟩
    rcases hr.label_cases v with heq | ⟨m, n, hm, hn⟩
    · simp [heq] at hne
    · refine ⟨m, n, hm, hn, ?_⟩
      rintro rfl
      simp [hm, hn] at hne
  · rintro ⟨m, n, hm, hn, hne⟩
    simp [hm, hn, BlockLabel.name?, hne]

theorem renamings_comm (hr : g.IsRenaming h) : h.renamings g = g.renamings h := by
  unfold renamings
  rw [hr.size_eq]
  apply List.filter_congr
  intro v _
  exact decide_eq_decide.mpr ne_comm

/-! ### Comparing renamed graphs -/

/-- Renamed graphs have different concepts where they have different names. -/
theorem concepts_ne_iff (hr : g.IsRenaming h) (v : Nat) :
    g.conceptGraph.concepts[v]? ≠ h.conceptGraph.concepts[v]? ↔
      g.labels[v]?.bind BlockLabel.name? ≠ h.labels[v]?.bind BlockLabel.name? := by
  rw [concepts_conceptGraph, concepts_conceptGraph, List.getElem?_map, List.getElem?_map]
  rcases hr.label_cases v with heq | ⟨m, n, hm, hn⟩
  · simp [heq]
  · simp [hm, hn, Concept.ofBlock, BlockLabel.name?]

theorem map_id_lacking (hr : g.IsRenaming h) :
    (Comparison.lacking g.conceptGraph.placements h.conceptGraph.placements).map (·.id) =
      g.renamings h := by
  have hsize : g.conceptGraph.size = g.size := List.length_map _
  rw [Comparison.map_id_lacking, hsize, renamings]
  apply List.filter_congr
  intro v _
  exact decide_eq_decide.mpr (hr.concepts_ne_iff v)

theorem concept_eq (hr : g.IsRenaming h) {v : Nat} {c : Concept}
    (hc : g.conceptGraph.concepts[v]? = some c) (hother : ¬ c.IsFunction) :
    h.conceptGraph.concepts[v]? = some c := by
  rw [concept_eq_some_iff] at hc ⊢
  obtain ⟨label, hlabel, rfl⟩ := hc
  rcases hr.label_cases v with heq | ⟨m, n, hm, -⟩
  · exact ⟨label, heq ▸ hlabel, rfl⟩
  · obtain rfl := Option.some.inj (hlabel.symm.trans hm)
    exact absurd ⟨m, rfl⟩ hother

/-- An edge that one of the graphs lacks has a function at one of its ends. -/
theorem function_of_mem_lacking (hr : g.IsRenaming h) {r : Relationship}
    (hlack : r ∈ Comparison.lacking g.conceptGraph.relationships h.conceptGraph.relationships) :
    r.source.IsFunction ∨ r.target.IsFunction := by
  obtain ⟨c, d⟩ := r
  obtain ⟨hmem, hnot⟩ := Comparison.mem_lacking.mp hlack
  by_contra hneither
  rw [not_or] at hneither
  -- The other graph has the same edge, with the same concepts at its ends.
  obtain ⟨u, v, hedge, hu, hv⟩ := ConceptGraph.mem_relationships.mp hmem
  apply hnot
  have hedge' : (u, v) ∈ h.edges := by
    rw [← hr.edges_eq]
    exact hedge
  exact ConceptGraph.mem_relationships.mpr
    ⟨u, v, hedge', hr.concept_eq hu hneither.1, hr.concept_eq hv hneither.2⟩

end IsRenaming

end FlowGraph

/-! ### Renamed programs -/

namespace Program

theorem isRenaming_flow {p q : Program} (h : p.tree.skeleton = q.tree.skeleton) :
    p.flow.IsRenaming q.flow :=
  FlowGraph.isRenaming_of_unnamed
    (graph_flow_of_alike (Tree.alike_of_skeleton p.text q.text p.tree q.tree h))

/-- **Only the names of functions count.**  Two programs whose trees differ in marks, columns and
bounds alone, over any two source texts, have flow graphs that differ in the names of functions
alone.  A comparison of the two finds nodes missing, and nodes extra, at the functions with
different names and nowhere else.  All other nodes match, and an edge that is missing or extra has a
function at one of its ends. -/
theorem compare_renamed (p q : Program) (h : p.tree.skeleton = q.tree.skeleton) :
    p.flow.IsRenaming q.flow ∧
    (∀ v, v ∈ p.flow.renamings q.flow ↔ ∃ m n, p.flow.labels[v]? = some (.function m) ∧
      q.flow.labels[v]? = some (.function n) ∧ m ≠ n) ∧
    ∀ weights : Weights Float,
      let c := Comparison.compare weights p.conceptGraph q.conceptGraph
      let matched := Comparison.matchCount p.conceptGraph.placements q.conceptGraph.placements
      c.missingNodes.map (·.id) = p.flow.renamings q.flow ∧
      c.extraNodes.map (·.id) = p.flow.renamings q.flow ∧
      matched + (p.flow.renamings q.flow).length = p.flow.size ∧
      c.nodeSimilarity = Score.ratio matched q.flow.size ∧
      ∀ r, r ∈ c.missingEdges ∨ r ∈ c.extraEdges → r.source.IsFunction ∨ r.target.IsFunction := by
  have hr := isRenaming_flow h
  refine ⟨hr, fun v => hr.mem_renamings_iff, ?_⟩
  intro weights c matched
  have hextra : c.extraNodes.map (·.id) = p.flow.renamings q.flow := hr.map_id_lacking
  have hmissing : c.missingNodes.map (·.id) = p.flow.renamings q.flow :=
    hr.symm.map_id_lacking.trans hr.renamings_comm
  have hsize : ∀ r : Program, r.conceptGraph.placements.length = r.flow.size :=
    fun r => r.conceptGraph.length_placements.trans (List.length_map _)
  have hsplit : matched + c.extraNodes.length = p.conceptGraph.placements.length :=
    Comparison.matchCount_add_length_lacking _ _
  refine ⟨hmissing, hextra, ?_, ?_, ?_⟩
  · rw [← hextra, List.length_map, hsplit, hsize]
  · rw [← hsize]
    rfl
  · rintro r (hmem | hmem)
    · exact hr.symm.function_of_mem_lacking hmem
    · exact hr.function_of_mem_lacking hmem

/-- A function with a loop, and a function of another name inside it. -/
def nested (outer inner : String) : Program :=
  let start := 9 + outer.utf8ByteSize
  let stop := start + 32 + inner.utf8ByteSize
  ⟨"def " ++ outer ++ "():\n  def " ++ inner ++ "():\n    while x:\n      pass\n",
    .node (.phrase "module" none 0 0 stop)
      [.node (.phrase "function_definition" none 0 0 stop)
        [.node (.phrase "identifier" (some "name") 0 4 (start - 5)) [],
          .node (.phrase "block" (some "body") 1 (start + 1) stop)
            [.node (.phrase "function_definition" none 1 (start + 1) stop)
              [.node (.phrase "identifier" (some "name") 1 (start + 5)
                  (start + 5 + inner.utf8ByteSize)) [],
                .node (.phrase "block" (some "body") 2 (stop - 19) stop)
                  [.node (.phrase "while_statement" none 2 (stop - 19) stop)
                    [.node (.phrase "block" (some "body") 3 (stop - 4) stop) []]]]]]]⟩

/-- The outer function is renamed and the inner one is not, so the outer one is missing, and the
edge from it to the inner one. -/
theorem compare_renamed_nested :
    let student := nested "f" "g"
    let reference := nested "solve" "g"
    let c := Comparison.compare .standard student.conceptGraph reference.conceptGraph
    student.tree.skeleton = reference.tree.skeleton ∧
    student.flow.IsRenaming reference.flow ∧ student.flow.size = 3 ∧
    student.flow.renamings reference.flow = [0] ∧
    c.missingNodes.map (·.id) = student.flow.renamings reference.flow ∧
    c.missingNodes = [⟨0, .function "solve"⟩] ∧ c.extraNodes = [⟨0, .function "f"⟩] ∧
    c.missingEdges = [⟨.function "solve", .function "g"⟩] ∧
    ∀ r, r ∈ c.missingEdges ∨ r ∈ c.extraEdges →
      r.source.IsFunction ∨ r.target.IsFunction := by
  intro student reference c
  have hskeleton : student.tree.skeleton = reference.tree.skeleton := rfl
  have hall := compare_renamed student reference hskeleton
  obtain ⟨hmissing, -, -, -, hedges⟩ := hall.2.2 .standard
  exact ⟨hskeleton, hall.1, by decide +kernel, by decide +kernel, hmissing, by decide +kernel,
    by decide +kernel, by decide +kernel, hedges⟩

end Program

end StructuralGrading
