import StructuralGrading.Order.Sorted

/-!
# Flow graphs

A flow graph holds numbered blocks and the edges between them.  An edge means that control may
pass from its source to its target; no edge is stored twice, and edges keep the order in which
they were first put in.

Block numbers handed to `connect?` and `block?` are slots of 32 bits: only the number modulo
`2 ^ 32` counts.  Questions about edges compare the whole number.
-/

namespace StructuralGrading

/-- What a block stands for. -/
inductive BlockLabel where
  /-- Entry of a function. -/
  | function (name : String)
  /-- Head of a `for` loop. -/
  | forLoop
  /-- Head of a `while` loop. -/
  | whileLoop
  /-- Test of an `if` or `elif`. -/
  | ifCondition
  /-- What runs when the test holds. -/
  | trueBranch
  /-- What runs when the test fails. -/
  | falseBranch
  /-- A run of plain statements, named by its kind.  Programs are never reduced to one. -/
  | statement (kind : String)
  deriving DecidableEq, Repr

namespace BlockLabel

/-- The text of a label. -/
def display : BlockLabel → String
  | function name => "Function: " ++ name
  | forLoop => "Loop: For"
  | whileLoop => "Loop: While"
  | ifCondition => "Condition: If"
  | trueBranch => "If: True Block"
  | falseBranch => "If: False Block"
  | statement kind => "Statement: " ++ kind

end BlockLabel

/-- A block with its number and the line it starts on. -/
structure Block where
  id : Nat
  label : BlockLabel
  line : Nat
  deriving DecidableEq, Repr

/-- Blocks in the order of their numbers, and edges in the order they were put in. -/
structure FlowGraph where
  blocks : List Block
  edges : List (Nat × Nat)
  deriving DecidableEq, Repr

/-- The number of slots. -/
def slotCount : Nat := Nat.pow 2 32

/-- The slot that a block number addresses. -/
def slot (id : Nat) : Nat := id % slotCount

theorem slot_of_lt {id : Nat} (h : id < slotCount) : slot id = id := Nat.mod_eq_of_lt h

namespace FlowGraph

/-- The graph without blocks. -/
def empty : FlowGraph := ⟨[], []⟩

/-- The number of blocks, which is the number that the next block will have. -/
def size (g : FlowGraph) : Nat := g.blocks.length

/-- The number of edges. -/
def edgeCount (g : FlowGraph) : Nat := g.edges.length

/-- Whether there are no blocks. -/
def isEmpty (g : FlowGraph) : Bool := g.blocks.isEmpty

/-! ### Building -/

/-- Adds a block; its number is the size of the graph so far. -/
def addBlock (g : FlowGraph) (label : BlockLabel) (line : Nat) : FlowGraph :=
  { g with blocks := g.blocks ++ [⟨g.size, label, line⟩] }

/-- Adds an edge unless it is there already. -/
def link (g : FlowGraph) (source target : Nat) : FlowGraph :=
  if (source, target) ∈ g.edges then g else { g with edges := g.edges ++ [(source, target)] }

/-- Adds the edge between two slots; there is none if one of them holds no block. -/
def connect? (g : FlowGraph) (source target : Nat) : Option FlowGraph :=
  if slot source < g.size ∧ slot target < g.size then some (g.link (slot source) (slot target))
  else none

theorem size_addBlock (g : FlowGraph) (label : BlockLabel) (line : Nat) :
    (g.addBlock label line).size = g.size + 1 := by simp [addBlock, size]

theorem size_link (g : FlowGraph) (source target : Nat) :
    (g.link source target).size = g.size := by
  unfold link size
  split <;> rfl

theorem mem_edges_link {g : FlowGraph} {source target : Nat} {e : Nat × Nat} :
    e ∈ (g.link source target).edges ↔ e ∈ g.edges ∨ e = (source, target) := by
  unfold link
  split <;> grind

/-! ### Questions -/

/-- The block in a slot. -/
def block? (g : FlowGraph) (id : Nat) : Option Block := g.blocks[slot id]?

/-- Whether there is an edge between two blocks. -/
def hasEdge (g : FlowGraph) (source target : Nat) : Bool :=
  source < g.size && target < g.size && (source, target) ∈ g.edges

/-- The blocks that control may pass to from a block, in increasing order. -/
def successors (g : FlowGraph) (id : Nat) : List Nat :=
  if id < g.size then Sorted.sort ((g.edges.filter (·.1 == id)).map (·.2)) else []

end FlowGraph

end StructuralGrading
