import StructuralGrading.Program.Basic

/-!
# Outlines

The outline of a program is what is left when everything but functions, loops and conditionals
is taken away.  It is computed bottom up: every node of the parse tree is summarised from the
summaries of its children (`Summary.ofNode`), so no part of the tree is visited twice.

* A function definition is outlined with everything below it, its parameters included.
* A loop is outlined with its body alone; an `else` clause of a loop is left out.
* A conditional is outlined with its test, its consequence and its first alternative.  An
  `elif` clause is an alternative that holds one conditional, whose alternatives are those that
  follow it (`Clause.chain`), so a chain of clauses and nested conditionals have one outline.
* Any other node contributes the outline of its named children.
-/

namespace StructuralGrading

/-- The two kinds of loop. -/
inductive LoopStyle where
  | forLoop
  | whileLoop
  deriving DecidableEq, Repr

/-- A construct that shapes the flow of control, with the constructs inside it.  Lines count
from one. -/
inductive Construct where
  | function (name : String) (line : Nat) (body : List Construct)
  | loop (style : LoopStyle) (line : Nat) (body : List Construct)
  | ifThen (line : Nat) (test : List Construct) (thenLine : Nat) (thenBody : List Construct)
  | ifElse (line : Nat) (test : List Construct) (thenLine : Nat) (thenBody : List Construct)
      (elseLine : Nat) (elseBody : List Construct)
  deriving Repr

/-! ### Kinds of node -/

/-- What a node means for the outline. -/
inductive Role where
  | function
  | conditional
  | loop (style : LoopStyle)
  | plain
  deriving DecidableEq, Repr

/-- The role of a node depends on its kind alone. -/
def Node.role (n : Node) : Role :=
  if n.kind = "function_definition" then .function
  else if n.kind = "if_statement" then .conditional
  else if n.kind = "for_statement" then .loop .forLoop
  else if n.kind = "while_statement" then .loop .whileLoop
  else .plain

/-- Whether a node is an `elif` clause. -/
def Node.isElif (n : Node) : Bool := n.kind == "elif_clause"

/-! ### Summaries -/

/-- An `if` statement or `elif` clause up to its alternatives. -/
structure Clause where
  line : Nat
  test : List Construct
  thenLine : Nat
  thenBody : List Construct
  deriving Repr

/-- What the outline needs to know of a node. -/
structure Summary where
  node : Node
  /-- The node read as the head of a conditional. -/
  clause : Clause
  /-- The outline of what is inside the node's `body` child. -/
  body : List Construct
  /-- The outline of the named children. -/
  inner : List Construct
  /-- The outline of the node itself. -/
  whole : List Construct
  deriving Repr

/-- The conditional with the given head and alternatives.  Alternatives after one that is not
an `elif` clause are left out. -/
def Clause.chain (head : Clause) : List Summary → Construct
  | [] => .ifThen head.line head.test head.thenLine head.thenBody
  | alternative :: rest =>
    .ifElse head.line head.test head.thenLine head.thenBody alternative.node.line
      (if alternative.node.isElif then [alternative.clause.chain rest] else alternative.body)

/-- The first child that fills a field. -/
def Summary.child? (field : String) (parts : List Summary) : Option Summary :=
  parts.find? (·.node.fills field)

/-- A node as the head of a conditional.  Without a consequence the branch starts on the line
of the node itself. -/
def Clause.ofNode (n : Node) (parts : List Summary) : Clause where
  line := n.line
  test := ((Summary.child? "condition" parts).map (·.whole)).getD []
  thenLine := ((Summary.child? "consequence" parts).map (·.node.line)).getD n.line
  thenBody := ((Summary.child? "consequence" parts).map (·.inner)).getD []

/-- Summarises a node from the summaries of its children; `text` gives the source text of a
node and is asked for the names of functions only. -/
def Summary.ofNode (text : Node → String) (n : Node) (parts : List Summary) : Summary :=
  let clause := Clause.ofNode n parts
  let body := ((Summary.child? "body" parts).map (·.inner)).getD []
  let inner := (parts.filter (·.node.named)).flatMap (·.whole)
  { node := n
    clause := clause
    body := body
    inner := inner
    whole :=
      match n.role with
      | .function =>
        let name := ((Summary.child? "name" parts).map fun s => text s.node).getD ""
        [.function name n.line inner]
      | .conditional => [clause.chain (parts.filter (·.node.fills "alternative"))]
      | .loop style => [.loop style n.line body]
      | .plain => inner }

namespace Program

/-- The summary of a part of the program's tree. -/
def summary (p : Program) (t : Tree) : Summary := t.fold (Summary.ofNode p.text)

/-- The constructs of a program, in source order. -/
def outline (p : Program) : List Construct := (p.summary p.tree).whole

end Program

end StructuralGrading
