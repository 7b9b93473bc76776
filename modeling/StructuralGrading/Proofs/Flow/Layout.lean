import StructuralGrading.Flow.Trace

/-! # The layout of an outline

Tracing an outline adds blocks and edges to a trail one by one, and each step depends on the
block that is active.  This module gives the same graph without a trail.

* `cellsAll cs`: the labels and lines of the blocks that `cs` adds, in order.  They do not depend
  on the trail at all.
* `edgesAll cs n`: the edges that `cs` adds when its first block gets the number `n`, in order.
  They depend on the trail through `n` alone, because the active block is always the last one.

That tracing appends exactly these, and leaves the last block active, is `traceAll_trail`; for a
whole graph it is `FlowGraph.ofOutline_eq`. -/

namespace StructuralGrading

/-! ### Cells and edges -/

mutual

/-- The labels and lines of the blocks that a construct adds. -/
def Construct.cells : Construct → List (BlockLabel × Nat)
  | .function name line body => (.function name, line) :: cellsAll body
  | .loop style line body => (style.label, line) :: cellsAll body
  | .ifThen line test thenLine thenBody =>
    (.ifCondition, line) :: cellsAll test ++ (.trueBranch, thenLine) :: cellsAll thenBody
  | .ifElse line test thenLine thenBody elseLine elseBody =>
    (.ifCondition, line) :: cellsAll test ++ (.trueBranch, thenLine) :: cellsAll thenBody ++
      (.falseBranch, elseLine) :: cellsAll elseBody

/-- The labels and lines of the blocks that several constructs add. -/
def cellsAll : List Construct → List (BlockLabel × Nat)
  | [] => []
  | c :: cs => c.cells ++ cellsAll cs

end

/-- The number of blocks that several constructs add. -/
def width (cs : List Construct) : Nat := (cellsAll cs).length

/-- The edge from the block before `n` to `n`.  The first block of a graph has none. -/
def entry : Nat → List (Nat × Nat)
  | 0 => []
  | n + 1 => [(n, n + 1)]

mutual

/-- The edges that a construct adds after the one into its first block `n`. -/
def Construct.inner : Construct → Nat → List (Nat × Nat)
  | .function _ _ body, n => edgesAll body (n + 1)
  | .loop _ _ body, n => edgesAll body (n + 1) ++ [(n, n)]
  | .ifThen _ test _ thenBody, n =>
    let taken := n + 1 + width test
    edgesAll test (n + 1) ++ (n, taken) :: edgesAll thenBody (taken + 1)
  | .ifElse _ test _ thenBody _ elseBody, n =>
    let taken := n + 1 + width test
    let other := taken + 1 + width thenBody
    edgesAll test (n + 1) ++ (n, taken) :: edgesAll thenBody (taken + 1) ++
      (n, other) :: edgesAll elseBody (other + 1)

/-- The edges that several constructs add when their first block is `n`. -/
def edgesAll : List Construct → Nat → List (Nat × Nat)
  | [], _ => []
  | c :: cs, n => entry n ++ c.inner n ++ edgesAll cs (n + c.cells.length)

end

/-! ### Widths -/

theorem width_cons (c : Construct) (cs : List Construct) :
    width (c :: cs) = c.cells.length + width cs := by
  simp [width, cellsAll]

theorem length_cells_function (name : String) (line : Nat) (body : List Construct) :
    (Construct.function name line body).cells.length = 1 + width body := by
  simp [Construct.cells, width, Nat.add_comm]

theorem length_cells_loop (style : LoopStyle) (line : Nat) (body : List Construct) :
    (Construct.loop style line body).cells.length = 1 + width body := by
  simp [Construct.cells, width, Nat.add_comm]

theorem length_cells_ifThen (line : Nat) (test : List Construct) (thenLine : Nat)
    (thenBody : List Construct) :
    (Construct.ifThen line test thenLine thenBody).cells.length =
      1 + width test + 1 + width thenBody := by
  simp [Construct.cells, width]
  omega

theorem length_cells_ifElse (line : Nat) (test : List Construct) (thenLine : Nat)
    (thenBody : List Construct) (elseLine : Nat) (elseBody : List Construct) :
    (Construct.ifElse line test thenLine thenBody elseLine elseBody).cells.length =
      1 + width test + 1 + width thenBody + 1 + width elseBody := by
  simp [Construct.cells, width]
  omega

theorem length_cells_pos (c : Construct) : 0 < c.cells.length := by
  cases c with
  | function => simp [Construct.cells]
  | loop => simp [Construct.cells]
  | ifThen => simp [Construct.cells]
  | ifElse => simp [Construct.cells]

/-! ### Where the edges lead -/

theorem entry_target {n : Nat} {e : Nat × Nat} (h : e ∈ entry n) : e.1 + 1 = n ∧ e.2 = n := by
  cases n with
  | zero => simp [entry] at h
  | succ n =>
      obtain rfl := List.mem_singleton.mp h
      exact ⟨rfl, rfl⟩

mutual

/-- The edges inside a construct lead to its own blocks only. -/
theorem Construct.inner_target : ∀ (c : Construct) (n : Nat) (e : Nat × Nat), e ∈ c.inner n →
    n ≤ e.2 ∧ e.2 < n + c.cells.length
  | .function name line body, n, e, h => by
      rw [length_cells_function]
      have := edgesAll_target body (n + 1) e h
      omega
  | .loop style line body, n, e, h => by
      rw [length_cells_loop]
      simp only [Construct.inner, List.mem_append, List.mem_singleton] at h
      rcases h with h | rfl
      · have := edgesAll_target body (n + 1) e h
        omega
      · omega
  | .ifThen line test thenLine thenBody, n, e, h => by
      rw [length_cells_ifThen]
      simp only [Construct.inner, List.mem_append, List.mem_cons] at h
      rcases h with h | rfl | h
      · have := edgesAll_target test _ e h
        omega
      · omega
      · have := edgesAll_target thenBody _ e h
        omega
  | .ifElse line test thenLine thenBody elseLine elseBody, n, e, h => by
      rw [length_cells_ifElse]
      simp only [Construct.inner, List.mem_append, List.mem_cons] at h
      rcases h with (h | rfl | h) | rfl | h
      · have := edgesAll_target test _ e h
        omega
      · omega
      · have := edgesAll_target thenBody _ e h
        omega
      · omega
      · have := edgesAll_target elseBody _ e h
        omega

theorem edgesAll_target : ∀ (cs : List Construct) (n : Nat) (e : Nat × Nat), e ∈ edgesAll cs n →
    n ≤ e.2 ∧ e.2 < n + width cs
  | [], n, e, h => by simp [edgesAll] at h
  | c :: cs, n, e, h => by
      have hc := length_cells_pos c
      rw [width_cons]
      simp only [edgesAll, List.mem_append] at h
      rcases h with (h | h) | h
      · have := entry_target h
        omega
      · have := c.inner_target n e h
        omega
      · have := edgesAll_target cs _ e h
        omega

end

end StructuralGrading
