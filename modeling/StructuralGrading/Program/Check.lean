import StructuralGrading.Program.Basic
import StructuralGrading.Text.Blank

/-!
# Faults in a program

A program is rejected at its first error or missing node; failing that, at its first `print`
or `exec` statement of the old style, one whose operands do not stand in parentheses.

* `Tree.firstError?` looks for the first fault, only below nodes that are marked as holding one.
* `Program.firstOldStyle?` looks for the first statement of the old style.
* `Program.check` gives the place of the fault to report, if there is any.
-/

namespace StructuralGrading

/-- The place of a fault in a source text; line and column count from one, columns in bytes. -/
structure SourceFault where
  line : Nat
  column : Nat
  deriving DecidableEq, Repr

namespace SourceFault

/-- The start of a node. -/
def atNode (n : Node) : SourceFault := ⟨n.row + 1, n.column + 1⟩

def message (f : SourceFault) : String :=
  s!"Syntax error at line {f.line}, column {f.column}."

end SourceFault

/-! ### Errors of the parser -/

namespace Tree

mutual

/-- The first node that is an error or missing. -/
def firstError? : Tree → Option Node
  | .node n ts => if n.isFault then some n else firstErrorIn? ts

/-- The first error in several trees, skipping those not marked as holding one. -/
def firstErrorIn? : List Tree → Option Node
  | [] => none
  | t :: ts =>
    if t.info.hasError || t.info.isMissing then t.firstError?.or (firstErrorIn? ts)
    else firstErrorIn? ts

end

end Tree

/-! ### Statements of the old style -/

/-- The word that opens a statement which has since become a call. -/
def Node.oldKeyword? (n : Node) : Option String :=
  if n.kind = "print_statement" then some "print"
  else if n.kind = "exec_statement" then some "exec"
  else none

namespace Program

/-- A statement text is a call if a parenthesis follows the keyword and white space. -/
def isCall (keyword text : String) : Bool :=
  match keyword.toList.isPrefixOf? text.toList with
  | some rest => (Text.dropBlank rest).head? == some '('
  | none => false

/-- Whether a node is a `print` or `exec` statement that is not written as a call. -/
def isOldStyle (p : Program) (n : Node) : Bool :=
  match n.oldKeyword? with
  | some keyword => !isCall keyword (p.text n)
  | none => false

mutual

/-- The first statement of the old style in a tree. -/
def firstOldStyle? (p : Program) : Tree → Option Node
  | .node n ts => if p.isOldStyle n then some n else p.firstOldStyleIn? ts

/-- The first statement of the old style in several trees. -/
def firstOldStyleIn? (p : Program) : List Tree → Option Node
  | [] => none
  | t :: ts => (p.firstOldStyle? t).or (p.firstOldStyleIn? ts)

end

/-! ### The check -/

/-- The node at which a program is rejected. -/
def faultyNode? (p : Program) : Option Node :=
  if p.tree.info.hasError then some (p.tree.firstError?.getD p.tree.info)
  else p.firstOldStyle? p.tree

/-- Accepts a program without faults and otherwise reports the place of its first one. -/
def check (p : Program) : Except SourceFault Unit :=
  match p.faultyNode? with
  | some n => .error (.atNode n)
  | none => .ok ()

/-- The program with the given source, if it has no fault. -/
def ofSource? (parse : Parser) (source : String) : Except SourceFault Program := do
  let p := ofSource parse source
  p.check
  return p

end Program

end StructuralGrading
