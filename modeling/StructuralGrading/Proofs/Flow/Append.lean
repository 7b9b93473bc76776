import StructuralGrading.Proofs.Flow.Tracing

/-! # One outline after another

The graph of an outline that continues another one is that of the first, an edge from its last
block to the next, and the graph of the second with all numbers moved on.

* `edgesAll_shift`: a layout further on has the same edges, moved;
* `edgesAll_eq_entry_append`: moved from number zero, it gains the edge into its first block;
* `ofOutline_append`: the graph of two outlines in sequence. -/

namespace StructuralGrading

/-- The edge with both ends moved on by `k`. -/
def shiftEdge (k : Nat) (e : Nat × Nat) : Nat × Nat := (e.1 + k, e.2 + k)

/-- The block with its number moved on by `k`. -/
def Block.shift (k : Nat) (b : Block) : Block := { b with id := b.id + k }

theorem Block.ofCells_shift (k : Nat) (cells : List (BlockLabel × Nat)) :
    Block.ofCells k cells = (Block.ofCells 0 cells).map (Block.shift k) := by
  apply List.ext_getElem
  · simp [Block.ofCells]
  · intro i h₁ h₂
    simp [Block.ofCells, Block.shift, Nat.add_comm]

theorem entry_shift {n : Nat} (k : Nat) (h : 0 < n) :
    entry (n + k) = (entry n).map (shiftEdge k) := by
  obtain ⟨m, rfl⟩ : ∃ m, n = m + 1 := ⟨n - 1, by omega⟩
  rw [Nat.succ_add_eq_add_succ, entry]
  simp [entry, shiftEdge]
  omega

mutual

/-- The edges inside a construct move with its first block. -/
theorem Construct.inner_shift (k : Nat) : ∀ (c : Construct) (n : Nat),
    c.inner (n + k) = (c.inner n).map (shiftEdge k)
  | .function name line body, n => by
      rw [Construct.inner, Construct.inner, Nat.add_right_comm]
      exact edgesAll_shift k body (n + 1) (Nat.succ_pos n)
  | .loop style line body, n => by
      rw [Construct.inner, Construct.inner, Nat.add_right_comm,
        edgesAll_shift k body (n + 1) (Nat.succ_pos n), List.map_append]
      rfl
  | .ifThen line test thenLine thenBody, n => by
      have htest := edgesAll_shift k test (n + 1) (Nat.succ_pos n)
      have hthen := edgesAll_shift k thenBody (n + 1 + width test + 1) (Nat.succ_pos _)
      have hn : n + k + 1 = n + 1 + k := by omega
      have htaken : n + 1 + k + width test = n + 1 + width test + k := by omega
      have hafter : n + 1 + width test + k + 1 = n + 1 + width test + 1 + k := by omega
      simp only [Construct.inner, List.map_append, List.map_cons]
      rw [hn, htaken, hafter, htest, hthen]
      rfl
  | .ifElse line test thenLine thenBody elseLine elseBody, n => by
      have htest := edgesAll_shift k test (n + 1) (Nat.succ_pos n)
      have hthen := edgesAll_shift k thenBody (n + 1 + width test + 1) (Nat.succ_pos _)
      have helse := edgesAll_shift k elseBody
        (n + 1 + width test + 1 + width thenBody + 1) (Nat.succ_pos _)
      have hn : n + k + 1 = n + 1 + k := by omega
      have htaken : n + 1 + k + width test = n + 1 + width test + k := by omega
      have hafter : n + 1 + width test + k + 1 = n + 1 + width test + 1 + k := by omega
      have hother : n + 1 + width test + 1 + k + width thenBody =
          n + 1 + width test + 1 + width thenBody + k := by omega
      have hlast : n + 1 + width test + 1 + width thenBody + k + 1 =
          n + 1 + width test + 1 + width thenBody + 1 + k := by omega
      simp only [Construct.inner, List.map_append, List.map_cons]
      rw [hn, htaken, hafter, hother, hlast, htest, hthen, helse]
      rfl

theorem edgesAll_shift (k : Nat) : ∀ (cs : List Construct) (n : Nat), 0 < n →
    edgesAll cs (n + k) = (edgesAll cs n).map (shiftEdge k)
  | [], n, _ => rfl
  | c :: cs, n, h => by
      rw [edgesAll, edgesAll, List.map_append, List.map_append, entry_shift k h,
        c.inner_shift k n, Nat.add_right_comm, edgesAll_shift k cs _ (by omega)]

end

/-- A layout that starts further on has the edge into its first block besides. -/
theorem edgesAll_eq_entry_append {cs : List Construct} (n : Nat) (h : cs ≠ []) :
    edgesAll cs n = entry n ++ (edgesAll cs 0).map (shiftEdge n) := by
  cases cs with
  | nil => exact absurd rfl h
  | cons c cs =>
      have hpos : 0 < 0 + c.cells.length := by
        rw [Nat.zero_add]
        exact length_cells_pos c
      have hinner := c.inner_shift n 0
      have hrest := edgesAll_shift n cs (0 + c.cells.length) hpos
      rw [Nat.zero_add] at hinner
      rw [Nat.zero_add, Nat.add_comm] at hrest
      rw [edgesAll, edgesAll, hinner, hrest, List.map_append, List.append_assoc, Nat.zero_add]
      rfl

/-! ### Two layouts in sequence -/

theorem cellsAll_append : ∀ cs ds : List Construct,
    cellsAll (cs ++ ds) = cellsAll cs ++ cellsAll ds
  | [], ds => rfl
  | c :: cs, ds => by
      rw [List.cons_append, cellsAll, cellsAll, cellsAll_append cs ds, List.append_assoc]

theorem edgesAll_append : ∀ (cs ds : List Construct) (n : Nat),
    edgesAll (cs ++ ds) n = edgesAll cs n ++ edgesAll ds (n + width cs)
  | [], ds, n => rfl
  | c :: cs, ds, n => by
      rw [List.cons_append, edgesAll, edgesAll, edgesAll_append cs ds, width_cons,
        Nat.add_assoc, List.append_assoc _ (edgesAll cs _)]

namespace FlowGraph

/-- The edge from the last block of a graph to the first of the one that follows it.  There is
none if one of the two has no blocks. -/
def bridge (g h : FlowGraph) : List (Nat × Nat) :=
  if g.isEmpty || h.isEmpty then [] else [(g.size - 1, g.size)]

/-- One graph, and after it another. -/
def append (g h : FlowGraph) : FlowGraph where
  blocks := g.blocks ++ h.blocks.map (Block.shift g.size)
  edges := g.edges ++ g.bridge h ++ h.edges.map (shiftEdge g.size)

theorem isEmpty_iff (g : FlowGraph) : g.isEmpty = true ↔ g.size = 0 :=
  List.isEmpty_iff_length_eq_zero

theorem bridge_eq_nil_of_left {g : FlowGraph} (h : FlowGraph) (hg : g.size = 0) :
    g.bridge h = [] := by
  rw [bridge, (isEmpty_iff g).mpr hg, Bool.true_or, if_pos rfl]

theorem bridge_eq_nil_of_right (g : FlowGraph) {h : FlowGraph} (hh : h.size = 0) :
    g.bridge h = [] := by
  rw [bridge, (isEmpty_iff h).mpr hh, Bool.or_true, if_pos rfl]

theorem bridge_eq_entry (g : FlowGraph) {h : FlowGraph} (hh : 0 < h.size) :
    g.bridge h = entry g.size := by
  have hh' : h.isEmpty = false := by
    rw [← Bool.not_eq_true, isEmpty_iff]
    omega
  rcases Nat.eq_zero_or_eq_succ_pred g.size with hg | hg
  · rw [bridge_eq_nil_of_left h hg, hg, entry]
  · have hg' : g.isEmpty = false := by
      rw [← Bool.not_eq_true, isEmpty_iff]
      omega
    rw [bridge, hg', hh', hg, entry]
    rfl

/-- The edges of a layout that goes on after a graph, with the edge into its first block. -/
theorem edgesAll_eq_bridge_append (g : FlowGraph) (ds : List Construct) :
    edgesAll ds g.size =
      g.bridge (ofOutline ds) ++ (ofOutline ds).edges.map (shiftEdge g.size) := by
  rw [edges_ofOutline]
  cases ds with
  | nil => rw [bridge_eq_nil_of_right g (size_ofOutline [])]
           rfl
  | cons d ds =>
      have hpos : 0 < (ofOutline (d :: ds)).size := by
        have := length_cells_pos d
        rw [size_ofOutline, width_cons]
        omega
      rw [bridge_eq_entry g hpos, edgesAll_eq_entry_append g.size (List.cons_ne_nil d ds)]

theorem ofOutline_append (cs ds : List Construct) :
    ofOutline (cs ++ ds) = (ofOutline cs).append (ofOutline ds) := by
  have hedges := edgesAll_eq_bridge_append (ofOutline cs) ds
  rw [size_ofOutline] at hedges
  have hblocks : Block.ofCells (width cs) (cellsAll ds) =
      (Block.ofCells 0 (cellsAll ds)).map (Block.shift (width cs)) := Block.ofCells_shift _ _
  rw [append, size_ofOutline, List.append_assoc, ← hedges, edges_ofOutline, ofOutline_eq (cs ++ ds),
    ofOutline_eq cs, ofOutline_eq ds, cellsAll_append, Block.ofCells_append, edgesAll_append,
    Nat.zero_add, Nat.zero_add, ← hblocks]
  rfl

end FlowGraph

end StructuralGrading
