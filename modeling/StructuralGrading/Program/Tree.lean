/-!
# Parse trees

A parse tree as a parser for the graded language hands it over: every node says what kind of
phrase it stands for, which field of its parent it fills, whether the parser marked it as a
fault, and where it lies in the source.  Anonymous tokens such as `if` or `:` are not part of
the tree.

* `Tree.fold` computes a value for every node from the values of its children.
* `Tree.nodes` lists the nodes of a tree, a parent before its children.
* `Tree.ofListing?` rebuilds a tree from that list when each node comes with its depth.
-/

namespace StructuralGrading

/-- What a parse tree records of one node.  Rows and columns count from zero, columns in
bytes; `startByte` and `endByte` bound the node's text in the source. -/
structure Node where
  /-- The kind of phrase, such as `if_statement`. -/
  kind : String
  /-- The field of the parent that this node fills, such as `condition`. -/
  field : Option String
  /-- Named nodes are phrases; the others are tokens kept because they carry a fault. -/
  named : Bool
  /-- The parser could not read this stretch of source. -/
  isError : Bool
  /-- The parser put this node in although the source lacks it. -/
  isMissing : Bool
  /-- This node or one below it is an error or a missing node. -/
  hasError : Bool
  row : Nat
  column : Nat
  startByte : Nat
  endByte : Nat
  deriving DecidableEq, Repr

namespace Node

/-- The line a node starts on, counted from one. -/
def line (n : Node) : Nat := n.row + 1

/-- A node that is a fault in itself. -/
def isFault (n : Node) : Bool := n.isError || n.isMissing

/-- Whether the node fills the given field of its parent. -/
def fills (n : Node) (field : String) : Bool := n.field == some field

end Node

/-- A node with its children, in source order. -/
inductive Tree where
  | node (info : Node) (children : List Tree)
  deriving Repr

namespace Tree

/-- The root node of a tree. -/
def info : Tree → Node
  | .node n _ => n

/-- The trees directly below the root. -/
def children : Tree → List Tree
  | .node _ ts => ts

variable {α : Type}

/-! ### Folding a tree -/

mutual

/-- Computes a value for a tree from its root node and the values of its children. -/
def fold (f : Node → List α → α) : Tree → α
  | .node n ts => f n (foldAll f ts)

/-- The values of several trees. -/
def foldAll (f : Node → List α → α) : List Tree → List α
  | [] => []
  | t :: ts => t.fold f :: foldAll f ts

end

theorem foldAll_eq_map (f : Node → List α → α) :
    ∀ ts : List Tree, foldAll f ts = ts.map (fold f)
  | [] => rfl
  | t :: ts => by rw [foldAll, foldAll_eq_map f ts, List.map_cons]

theorem fold_node (f : Node → List α → α) (n : Node) (ts : List Tree) :
    (Tree.node n ts).fold f = f n (ts.map (fold f)) := by
  rw [fold, foldAll_eq_map]

/-! ### The nodes of a tree -/

/-- Every node of a tree: the root, then the nodes of each child in order. -/
def nodes (t : Tree) : List Node := t.fold fun n below => n :: below.flatten

theorem nodes_node (n : Node) (ts : List Tree) :
    (Tree.node n ts).nodes = n :: (ts.map nodes).flatten := fold_node _ n ts

/-! ### Listings -/

/-- The trees that a listing, read from its end, has completed so far, each with its depth. -/
def place (entry : Nat × Node) (done : List (Nat × Tree)) : List (Nat × Tree) :=
  let (below, beside) := done.span fun t => entry.1 < t.1
  (entry.1, .node entry.2 (below.map (·.2))) :: beside

/-- The tree with the given listing: its nodes in the order of `nodes`, each with its depth.
There is none if the listing is empty or does not come from one root. -/
def ofListing? (listing : List (Nat × Node)) : Option Tree :=
  match listing.foldr place [] with
  | [(_, t)] => some t
  | _ => none

end Tree

end StructuralGrading
