import StructuralGrading.Proofs.Flow.Tracing

/-! # Flow graphs seen in part

Two programs may have graphs that differ only in some of what is written on the blocks: the
names of the functions, or the lines.  A view says what is seen of both.

* `View.outline` and `View.graph`: an outline and a graph as they are seen;
* `ofOutline_outline`: the graph of what is seen of an outline is what is seen of its graph.

The edges are always seen, for they depend on neither names nor lines. -/

namespace StructuralGrading

/-- What is seen of the names of functions and of lines. -/
structure View where
  name : String → String
  line : Nat → Nat

namespace View

/-- Everything is seen. -/
def full : View := ⟨id, id⟩

/-- Lines are not told apart. -/
def unlined : View := ⟨id, fun _ => 0⟩

variable (v : View)

/-! ### What is seen -/

def label : BlockLabel → BlockLabel
  | .function name => .function (v.name name)
  | .forLoop => .forLoop
  | .whileLoop => .whileLoop
  | .ifCondition => .ifCondition
  | .trueBranch => .trueBranch
  | .falseBranch => .falseBranch
  | .statement kind => .statement kind

def cell (c : BlockLabel × Nat) : BlockLabel × Nat := (v.label c.1, v.line c.2)

def block (b : Block) : Block := { b with label := v.label b.label, line := v.line b.line }

/-- What is seen of a graph. -/
def graph (g : FlowGraph) : FlowGraph := { g with blocks := g.blocks.map v.block }

mutual

def construct : Construct → Construct
  | .function name line body => .function (v.name name) (v.line line) (outline body)
  | .loop style line body => .loop style (v.line line) (outline body)
  | .ifThen line test thenLine thenBody =>
    .ifThen (v.line line) (outline test) (v.line thenLine) (outline thenBody)
  | .ifElse line test thenLine thenBody elseLine elseBody =>
    .ifElse (v.line line) (outline test) (v.line thenLine) (outline thenBody) (v.line elseLine)
      (outline elseBody)

/-- What is seen of an outline. -/
def outline : List Construct → List Construct
  | [] => []
  | c :: cs => construct c :: outline cs

end

theorem outline_singleton (c : Construct) : v.outline [c] = [v.construct c] := by
  rw [outline, outline]

theorem outline_append : ∀ cs ds : List Construct,
    v.outline (cs ++ ds) = v.outline cs ++ v.outline ds
  | [], ds => by rw [outline, List.nil_append, List.nil_append]
  | c :: cs, ds => by
      rw [List.cons_append, outline, outline, outline_append cs ds, List.cons_append]

/-! ### Graphs of what is seen -/

theorem label_style (style : LoopStyle) : v.label style.label = style.label := by
  cases style <;> rfl

mutual

theorem cells_construct : ∀ c : Construct, (v.construct c).cells = c.cells.map v.cell
  | .function name line body => by
      rw [construct, Construct.cells, Construct.cells, List.map_cons, cellsAll_outline body]
      rfl
  | .loop style line body => by
      rw [construct, Construct.cells, Construct.cells, List.map_cons, cellsAll_outline body, cell,
        v.label_style style]
  | .ifThen line test thenLine thenBody => by
      rw [construct, Construct.cells, Construct.cells, List.map_append, List.map_cons,
        List.map_cons, cellsAll_outline test, cellsAll_outline thenBody]
      rfl
  | .ifElse line test thenLine thenBody elseLine elseBody => by
      rw [construct, Construct.cells, Construct.cells, List.map_append, List.map_append,
        List.map_cons, List.map_cons, List.map_cons, cellsAll_outline test,
        cellsAll_outline thenBody, cellsAll_outline elseBody]
      rfl

theorem cellsAll_outline : ∀ cs : List Construct,
    cellsAll (v.outline cs) = (cellsAll cs).map v.cell
  | [] => by rw [outline, cellsAll, List.map_nil]
  | c :: cs => by
      rw [outline, cellsAll, cellsAll, cells_construct c, cellsAll_outline cs, List.map_append]

end

theorem width_outline (cs : List Construct) : width (v.outline cs) = width cs := by
  rw [width, v.cellsAll_outline, List.length_map, width]

mutual

theorem inner_construct : ∀ (c : Construct) (n : Nat), (v.construct c).inner n = c.inner n
  | .function name line body, n => by
      rw [construct, Construct.inner, Construct.inner, edgesAll_outline body]
  | .loop style line body, n => by
      rw [construct, Construct.inner, Construct.inner, edgesAll_outline body]
  | .ifThen line test thenLine thenBody, n => by
      rw [construct, Construct.inner, Construct.inner, v.width_outline test, edgesAll_outline test,
        edgesAll_outline thenBody]
  | .ifElse line test thenLine thenBody elseLine elseBody, n => by
      rw [construct, Construct.inner, Construct.inner, v.width_outline test,
        v.width_outline thenBody, edgesAll_outline test, edgesAll_outline thenBody,
        edgesAll_outline elseBody]

theorem edgesAll_outline : ∀ (cs : List Construct) (n : Nat),
    edgesAll (v.outline cs) n = edgesAll cs n
  | [], n => by rw [outline]
  | c :: cs, n => by
      rw [outline, edgesAll, edgesAll, inner_construct c, edgesAll_outline cs,
        v.cells_construct c, List.length_map]

end

/-- The graph of what is seen of an outline is what is seen of its graph. -/
theorem ofOutline_outline (cs : List Construct) :
    FlowGraph.ofOutline (v.outline cs) = v.graph (.ofOutline cs) := by
  have hblocks : Block.ofCells 0 ((cellsAll cs).map v.cell) =
      (Block.ofCells 0 (cellsAll cs)).map v.block := by
    apply List.ext_getElem
    · simp [Block.ofCells]
    · intro i h₁ h₂
      simp [Block.ofCells, block, cell]
  rw [FlowGraph.ofOutline_eq, FlowGraph.ofOutline_eq, graph, v.cellsAll_outline,
    v.edgesAll_outline, hblocks]

theorem graph_eq_of_outline_eq {cs ds : List Construct} (h : v.outline cs = v.outline ds) :
    v.graph (.ofOutline cs) = v.graph (.ofOutline ds) := by
  rw [← ofOutline_outline, ← ofOutline_outline, h]

/-! ### What a view leaves as it is -/

theorem edges_graph (g : FlowGraph) : (v.graph g).edges = g.edges := rfl

theorem graph_full (g : FlowGraph) : full.graph g = g := by
  have hblock : full.block = id := by
    funext b
    obtain ⟨id, label, line⟩ := b
    cases label <;> rfl
  rw [graph, hblock, List.map_id]

theorem labels_unlined (g : FlowGraph) : (unlined.graph g).labels = g.labels := by
  have hlabel : ∀ label : BlockLabel, unlined.label label = label := by
    intro label
    cases label <;> rfl
  rw [FlowGraph.labels, FlowGraph.labels, graph, List.map_map]
  apply List.map_congr_left
  intro b _
  exact hlabel b.label

end View

end StructuralGrading
