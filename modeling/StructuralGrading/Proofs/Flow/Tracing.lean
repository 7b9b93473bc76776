import StructuralGrading.Proofs.Flow.Layout

/-! # Tracing appends a layout

A trail stands at the end of its graph if the active block is the last one, or if there is no
block at all.  Every step of a trace keeps it there:

* `FlowGraph.trail`: the trail at the end of a graph;
* `FlowGraph.extend`: a graph with more blocks and edges;
* `trail_enter`, `trail_branch`, `trail_closeLoop`: what one step appends;
* `traceAll_trail`: a whole trace appends the cells and edges of the layout.

An edge is put in only if it is not there yet.  No edge of a trace is ever dropped for that: an
edge into a new block is new (`Bounded`), and a loop is closed once. -/

namespace StructuralGrading

/-- Blocks with the given labels and lines, numbered from `n` on. -/
def Block.ofCells (n : Nat) (cells : List (BlockLabel × Nat)) : List Block :=
  cells.mapIdx fun i c => ⟨n + i, c.1, c.2⟩

theorem Block.ofCells_append (n : Nat) (cs ds : List (BlockLabel × Nat)) :
    Block.ofCells n (cs ++ ds) = Block.ofCells n cs ++ Block.ofCells (n + cs.length) ds := by
  simp only [Block.ofCells, List.mapIdx_append]
  congr 2
  funext i c
  congr 1
  omega

theorem Block.length_ofCells (n : Nat) (cs : List (BlockLabel × Nat)) :
    (Block.ofCells n cs).length = cs.length := List.length_mapIdx

namespace FlowGraph

/-- Every edge leads to a block of the graph. -/
def Bounded (g : FlowGraph) : Prop := ∀ e ∈ g.edges, e.2 < g.size

/-- The graph with more blocks and edges. -/
def extend (g : FlowGraph) (cells : List (BlockLabel × Nat)) (edges : List (Nat × Nat)) :
    FlowGraph :=
  ⟨g.blocks ++ Block.ofCells g.size cells, g.edges ++ edges⟩

/-- The trail at the end of a graph: its last block is active. -/
def trail (g : FlowGraph) : Trail where
  graph := g
  active :=
    match g.size with
    | 0 => none
    | n + 1 => some n

variable {g : FlowGraph}

theorem size_extend (cells : List (BlockLabel × Nat)) (edges : List (Nat × Nat)) :
    (g.extend cells edges).size = g.size + cells.length := by
  simp [extend, size, Block.length_ofCells]

theorem extend_extend (cs ds : List (BlockLabel × Nat)) (es fs : List (Nat × Nat)) :
    (g.extend cs es).extend ds fs = g.extend (cs ++ ds) (es ++ fs) := by
  rw [extend, size_extend]
  simp [extend, Block.ofCells_append]

theorem extend_nil : g.extend [] [] = g := by
  simp [extend, Block.ofCells]

theorem Bounded.extend (h : g.Bounded) {cells : List (BlockLabel × Nat)} {edges : List (Nat × Nat)}
    (he : ∀ e ∈ edges, e.2 < g.size + cells.length) : (g.extend cells edges).Bounded := by
  intro e hmem
  rw [size_extend]
  rcases List.mem_append.mp hmem with hold | hnew
  · have := h e hold
    omega
  · exact he e hnew

theorem addBlock_eq_extend (label : BlockLabel) (line : Nat) :
    g.addBlock label line = g.extend [(label, line)] [] := by
  simp [addBlock, extend, Block.ofCells]

theorem link_eq_extend {source target : Nat} (h : (source, target) ∉ g.edges) :
    g.link source target = g.extend [] [(source, target)] := by
  simp [link, h, extend, Block.ofCells]

/-! ### One step -/

/-- An edge into the next block is never there yet. -/
theorem trail_branch (h : g.Bounded) (origin : Nat) (label : BlockLabel) (line : Nat) :
    g.trail.branch origin label line = (g.extend [(label, line)] [(origin, g.size)]).trail := by
  have hnew : (origin, g.size) ∉ (g.extend [(label, line)] []).edges := by
    intro hmem
    simp only [extend, List.append_nil] at hmem
    exact Nat.lt_irrefl _ (h _ hmem)
  rw [Trail.branch]
  show Trail.mk ((g.addBlock label line).link origin g.size) (some g.size) = _
  rw [addBlock_eq_extend, link_eq_extend hnew, extend_extend]
  simp [trail, size_extend]

theorem trail_enter (h : g.Bounded) (label : BlockLabel) (line : Nat) :
    g.trail.enter label line = (g.extend [(label, line)] (entry g.size)).trail := by
  cases hn : g.size with
  | zero =>
      simp only [Trail.enter, trail, hn, addBlock_eq_extend, entry, size_extend]
      rfl
  | succ n =>
      have hactive : g.trail.active = some n := by simp [trail, hn]
      rw [Trail.enter, hactive]
      show g.trail.branch n label line = _
      rw [trail_branch h, hn, entry]

theorem trail_closeLoop {head : Nat} (h : (head, head) ∉ g.edges) :
    g.trail.closeLoop head = (g.extend [] [(head, head)]).trail := by
  rw [Trail.closeLoop]
  show Trail.mk (g.link head head) g.trail.active = _
  rw [link_eq_extend h]
  simp [trail, size_extend]

/-! ### A whole trace -/

/-- After the entry into a first construct and the edges inside it, an edge from its first block
to itself is still missing: the edges inside lead further on. -/
theorem not_mem_after_body (h : g.Bounded) (label : BlockLabel) (line : Nat)
    (body : List Construct) :
    (g.size, g.size) ∉ ((g.extend [(label, line)] (entry g.size)).extend (cellsAll body)
      (edgesAll body (g.size + 1))).edges := by
  intro hmem
  simp only [extend, List.mem_append] at hmem
  rcases hmem with (hold | hentry) | hbody
  · exact Nat.lt_irrefl _ (h _ hold)
  · have := entry_target hentry
    omega
  · have := edgesAll_target body _ _ hbody
    simp only at this
    omega

theorem Bounded.enter (h : g.Bounded) (label : BlockLabel) (line : Nat) :
    (g.extend [(label, line)] (entry g.size)).Bounded := by
  apply h.extend
  intro e he
  have := entry_target he
  simp only [List.length_singleton]
  omega

theorem Bounded.branch (h : g.Bounded) (origin : Nat) (label : BlockLabel) (line : Nat) :
    (g.extend [(label, line)] [(origin, g.size)]).Bounded := by
  apply h.extend
  intro e he
  obtain rfl := List.mem_singleton.mp he
  simp

theorem Bounded.layout (h : g.Bounded) (cs : List Construct) :
    (g.extend (cellsAll cs) (edgesAll cs g.size)).Bounded := by
  apply h.extend
  intro e he
  exact (edgesAll_target cs _ _ he).2

end FlowGraph

open FlowGraph

mutual

/-- Tracing a construct at the end of a graph appends its layout and stays at the end. -/
theorem Construct.trace_trail : ∀ (c : Construct) {g : FlowGraph}, g.Bounded →
    c.trace g.trail = (g.extend c.cells (entry g.size ++ c.inner g.size)).trail
  | .function name line body, g, h => by
      have h₁ := h.enter (.function name) line
      rw [Construct.trace, trail_enter h, traceAll_trail body h₁, extend_extend, size_extend]
      rfl
  | .loop style line body, g, h => by
      have h₁ := h.enter style.label line
      have hloop := not_mem_after_body h style.label line body
      rw [Construct.trace, trail_enter h, traceAll_trail body h₁, size_extend]
      rw [show g.trail.graph.size = g.size from rfl, List.length_singleton]
      rw [trail_closeLoop hloop, extend_extend, extend_extend]
      simp [Construct.cells, Construct.inner]
  | .ifThen line test thenLine thenBody, g, h => by
      have h₁ := h.enter .ifCondition line
      have h₂ := h₁.layout test
      have h₃ := h₂.branch g.size .trueBranch thenLine
      rw [Construct.trace, trail_enter h, traceAll_trail test h₁]
      rw [show g.trail.graph.size = g.size from rfl, trail_branch h₂, traceAll_trail thenBody h₃]
      -- The sizes come first: merged extensions would add up the widths in another order.
      simp only [size_extend, List.length_singleton]
      simp only [extend_extend, Construct.cells, Construct.inner, width, List.append_assoc,
        List.cons_append, List.nil_append]
  | .ifElse line test thenLine thenBody elseLine elseBody, g, h => by
      have h₁ := h.enter .ifCondition line
      have h₂ := h₁.layout test
      have h₃ := h₂.branch g.size .trueBranch thenLine
      have h₄ := h₃.layout thenBody
      have h₅ := h₄.branch g.size .falseBranch elseLine
      rw [Construct.trace, trail_enter h, traceAll_trail test h₁]
      rw [show g.trail.graph.size = g.size from rfl, trail_branch h₂, traceAll_trail thenBody h₃]
      rw [trail_branch h₄, traceAll_trail elseBody h₅]
      simp only [size_extend, List.length_singleton]
      simp only [extend_extend, Construct.cells, Construct.inner, width, List.append_assoc,
        List.cons_append, List.nil_append]

theorem traceAll_trail : ∀ (cs : List Construct) {g : FlowGraph}, g.Bounded →
    traceAll cs g.trail = (g.extend (cellsAll cs) (edgesAll cs g.size)).trail
  | [], g, _ => by
      rw [cellsAll, edgesAll, extend_nil]
      rfl
  | c :: cs, g, h => by
      have h₁ : (g.extend c.cells (entry g.size ++ c.inner g.size)).Bounded := by
        apply h.extend
        intro e he
        have hc := length_cells_pos c
        rcases List.mem_append.mp he with hentry | hinner
        · have := entry_target hentry
          omega
        · exact (c.inner_target _ _ hinner).2
      rw [traceAll, c.trace_trail h, traceAll_trail cs h₁, extend_extend, size_extend]
      rfl

end

/-! ### The graph of an outline -/

namespace FlowGraph

/-- The labels of the blocks, in order. -/
def labels (g : FlowGraph) : List BlockLabel := g.blocks.map (·.label)

theorem length_labels (g : FlowGraph) : g.labels.length = g.size := List.length_map _

theorem ofOutline_eq (cs : List Construct) :
    ofOutline cs = ⟨Block.ofCells 0 (cellsAll cs), edgesAll cs 0⟩ := by
  have hbounded : empty.Bounded := by
    intro e he
    cases he
  rw [ofOutline, show Trail.start = empty.trail from rfl, traceAll_trail cs hbounded]
  rfl

theorem edges_ofOutline (cs : List Construct) : (ofOutline cs).edges = edgesAll cs 0 := by
  rw [ofOutline_eq]

theorem size_ofOutline (cs : List Construct) : (ofOutline cs).size = width cs := by
  rw [ofOutline_eq, size, Block.length_ofCells, width]

theorem labels_ofOutline (cs : List Construct) :
    (ofOutline cs).labels = (cellsAll cs).map (·.1) := by
  rw [ofOutline_eq, labels, Block.ofCells]
  apply List.ext_getElem
  · simp
  · intro i h₁ h₂
    simp

theorem lines_ofOutline (cs : List Construct) :
    (ofOutline cs).blocks.map (·.line) = (cellsAll cs).map (·.2) := by
  rw [ofOutline_eq, Block.ofCells]
  apply List.ext_getElem
  · simp
  · intro i h₁ h₂
    simp

end FlowGraph

end StructuralGrading
