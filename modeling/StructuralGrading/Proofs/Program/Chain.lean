import Mathlib.Logic.Relation
import StructuralGrading.Proofs.Program.Alike

/-! # Chains of clauses and nested conditionals

An `elif` clause says what an `else` clause would say whose body holds a conditional.  Writing a
chain of clauses in the one way or the other makes no difference to the flow graph.

* `Tree.Nests`: an `else` clause says what an `elif` clause and the alternatives after it say;
* `Tree.Unchains`: somewhere in a tree, such an `else` clause has replaced the alternatives;
* `Unchains.alike`: the summaries of the two trees are alike;
* `Program.flow_unchained`: so are the graphs, however many clauses have been replaced. -/

namespace StructuralGrading

theorem Node.fills_of_ne {n : Node} {field other : String} (h : n.fills field = true)
    (hne : field ≠ other) : n.fills other = false := by
  rw [fills] at h
  rw [fills, eq_of_beq h]
  exact beq_false_of_ne fun heq => hne (Option.some.inj heq)

namespace Tree

/-! ### Replacing a clause -/

/-- The first tree that fills a field. -/
def child? (field : String) (ts : List Tree) : Option Tree := ts.find? (·.info.fills field)

/-- The trees that are alternatives. -/
def alternatives (ts : List Tree) : List Tree := ts.filter (·.info.fills "alternative")

/-- The trees that are no alternatives. -/
def others (ts : List Tree) : List Tree := ts.filter (!·.info.fills "alternative")

/-- The tree `x` is an `else` clause with a block for its body, and all that the block holds is
the conditional `inner`.  That one has the test and the consequence of the clause `e`, and the
alternatives `rest`.  Both new nodes are near the node of `e`. -/
structure Nests (near : Node → Node → Prop) (e : Tree) (rest : List Tree) (x block inner : Tree) :
    Prop where
  clause_kind : x.info.kind = "else_clause"
  clause_near : near e.info x.info
  body : child? "body" x.children = some block
  block_kind : block.info.kind = "block"
  block_children : block.children = [inner]
  inner_kind : inner.info.kind = "if_statement"
  inner_named : inner.info.named = true
  inner_near : near e.info inner.info
  test : child? "condition" inner.children = child? "condition" e.children
  consequence : child? "consequence" inner.children = child? "consequence" e.children
  alternatives : alternatives inner.children = rest

/-- Some conditional of the first tree, in a place as given, has an `elif` clause for its first
alternative.  In the second tree an `else` clause that nests it stands in the place of all
alternatives. -/
inductive Unchains (near : Node → Node → Prop) (place : Node → Prop) : Tree → Tree → Prop
  | root {n : Node} {cs ds rest : List Tree} {e x block inner : Tree} : n.role = .conditional →
      place n → others ds = others cs → alternatives cs = e :: rest →
      e.info.isElif = true → alternatives ds = [x] → Nests near e rest x block inner →
      Unchains near place (.node n cs) (.node n ds)
  | inside {n : Node} {ts us : List Tree} {t u : Tree} : Unchains near place t u →
      Unchains near place (.node n (ts ++ t :: us)) (.node n (ts ++ u :: us))

/-! ### Children and their summaries -/

variable (text : Node → String)

theorem child?_map_fold (field : String) (ts : List Tree) :
    Summary.child? field (ts.map (fold (Summary.ofNode text))) =
      (child? field ts).map (fold (Summary.ofNode text)) := by
  rw [Summary.child?, List.find?_map, child?]
  congr 2
  funext t
  rw [Function.comp_apply, node_fold]

theorem filter_map_fold (select : Node → Bool) (ts : List Tree) :
    (ts.map (fold (Summary.ofNode text))).filter (select ·.node) =
      (ts.filter (select ·.info)).map (fold (Summary.ofNode text)) := by
  rw [List.filter_map]
  congr 2
  funext t
  rw [Function.comp_apply, node_fold]

theorem child?_others {field : String} (h : field ≠ "alternative") (ts : List Tree) :
    child? field (others ts) = child? field ts := by
  rw [child?, others, List.find?_filter, child?]
  congr 1
  funext t
  cases hfield : t.info.fills field with
  | false => simp
  | true =>
      simp [Node.fills_of_ne hfield h]

theorem child?_eq_of_others {field : String} (h : field ≠ "alternative") {cs ds : List Tree}
    (hothers : others ds = others cs) : child? field ds = child? field cs := by
  rw [← child?_others h ds, hothers, child?_others h cs]

end Tree

theorem Clause.ofNode_congr {n : Node} {ps qs : List Summary}
    (htest : Summary.child? "condition" ps = Summary.child? "condition" qs)
    (hthen : Summary.child? "consequence" ps = Summary.child? "consequence" qs) :
    Clause.ofNode n ps = Clause.ofNode n qs := by
  rw [Clause.ofNode, Clause.ofNode, htest, hthen]

/-! ### The two ways of writing say the same -/

namespace Tree

variable {v : View} (text : Node → String) {near : Node → Node → Prop} {place : Node → Prop}

namespace Nests

variable {e x block inner : Tree} {rest : List Tree}

/-- What the `else` clause holds is the outline of the nested conditional. -/
theorem body_fold (h : Nests near e rest x block inner) :
    (x.fold (Summary.ofNode text)).body = (inner.fold (Summary.ofNode text)).whole := by
  have hblock : (block.fold (Summary.ofNode text)).inner =
      (inner.fold (Summary.ofNode text)).whole := by
    rw [fold_eq, h.block_children]
    show (List.filter (·.node.named) [inner.fold (Summary.ofNode text)]).flatMap (·.whole) = _
    rw [List.filter_cons_of_pos (by rw [node_fold, h.inner_named]), List.filter_nil,
      List.flatMap_singleton]
  rw [fold_eq]
  show ((Summary.child? "body" _).map (·.inner)).getD [] = _
  rw [child?_map_fold, h.body]
  exact hblock

theorem whole_fold (h : Nests near e rest x block inner) :
    (inner.fold (Summary.ofNode text)).whole =
      [(inner.fold (Summary.ofNode text)).clause.chain
        (rest.map (fold (Summary.ofNode text)))] := by
  have hrole : inner.info.role = .conditional := by
    rw [Node.role, h.inner_kind]
    rfl
  rw [fold_eq, Summary.whole_ofNode_conditional hrole,
    filter_map_fold text (·.fills "alternative"), ← h.alternatives]
  rfl

theorem clause_fold (h : Nests near e rest x block inner)
    (hnear : ∀ n m, near n m → v.line n.line = v.line m.line) :
    (e.fold (Summary.ofNode text)).clause.Alike v (inner.fold (Summary.ofNode text)).clause := by
  have hclause : Clause.ofNode e.info (e.children.map (fold (Summary.ofNode text))) =
      Clause.ofNode e.info (inner.children.map (fold (Summary.ofNode text))) := by
    apply Clause.ofNode_congr
    · rw [child?_map_fold, child?_map_fold, h.test]
    · rw [child?_map_fold, child?_map_fold, h.consequence]
  rw [fold_eq, fold_eq]
  show (Clause.ofNode e.info _).Alike v (Clause.ofNode inner.info _)
  rw [hclause]
  exact Clause.alike_ofNode (hnear _ _ h.inner_near)
    (Summary.forall₂_refl text (inner.children.map (fold (Summary.ofNode text))))

/-- A conditional that ends in the clause looks like one that ends in the nested conditional. -/
theorem construct_chain (h : Nests near e rest x block inner)
    (hnear : ∀ n m, near n m → v.line n.line = v.line m.line) (he : e.info.isElif = true)
    (c : Clause) :
    v.construct (c.chain ((e :: rest).map (fold (Summary.ofNode text)))) =
      v.construct (c.chain ([x].map (fold (Summary.ofNode text)))) := by
  have hx : x.info.isElif = false := by
    rw [Node.isElif, h.clause_kind]
    rfl
  have hline := hnear _ _ h.clause_near
  have hrest := Clause.chain_alike (h.clause_fold text hnear)
    (Summary.forall₂_refl text (rest.map (fold (Summary.ofNode text))))
  rw [List.map_cons, List.map_singleton, Clause.chain, Clause.chain, node_fold, node_fold,
    if_pos he, if_neg (by rw [hx]; exact Bool.false_ne_true), h.body_fold, h.whole_fold,
    View.construct, View.construct, hline, v.outline_singleton, v.outline_singleton, hrest]

end Nests

/-- Where a clause has been replaced, the summaries are alike all the way up. -/
theorem Unchains.alike {t u : Tree} (h : Unchains near place t u)
    (hplace : ∀ n, place n → n.isSuite = false)
    (hnear : ∀ n m, near n m → v.line n.line = v.line m.line) :
    (t.fold (Summary.ofNode text)).Alike v text text (u.fold (Summary.ofNode text)) := by
  induction h with
  | @root n cs ds rest e x block inner hrole hn hothers hcs he hds hnests =>
      have hparts : ∀ field : String, field ≠ "alternative" →
          Summary.child? field (cs.map (fold (Summary.ofNode text))) =
            Summary.child? field (ds.map (fold (Summary.ofNode text))) := by
        intro field hfield
        rw [child?_map_fold, child?_map_fold, child?_eq_of_others hfield hothers]
      have hclause : Clause.ofNode n (cs.map (fold (Summary.ofNode text))) =
          Clause.ofNode n (ds.map (fold (Summary.ofNode text))) :=
        Clause.ofNode_congr (hparts "condition" (by decide)) (hparts "consequence" (by decide))
      have hchain := hnests.construct_chain text hnear he
        (Clause.ofNode n (ds.map (fold (Summary.ofNode text))))
      rw [← hcs, ← hds] at hchain
      rw [fold_node, fold_node]
      constructor
      case node => exact Node.Alike.refl n
      case clause =>
        show (Clause.ofNode n _).Alike v (Clause.ofNode n _)
        rw [hclause]
        exact Clause.Alike.refl _
      case body =>
        show v.outline (((Summary.child? "body" _).map (·.inner)).getD []) = _
        rw [hparts "body" (by decide)]
        rfl
      case inner =>
        intro hsuite
        have hnot := hplace n hn
        rw [show n.isSuite = true from hsuite] at hnot
        cases hnot
      case whole =>
        rw [Summary.whole_ofNode_conditional hrole, Summary.whole_ofNode_conditional hrole,
          v.outline_singleton, v.outline_singleton, hclause,
          filter_map_fold text (·.fills "alternative"),
          filter_map_fold text (·.fills "alternative")]
        exact congrArg (fun c => [c]) hchain
  | @inside n ts us t u _ ih =>
      rw [fold_node, fold_node, List.map_append, List.map_append, List.map_cons, List.map_cons]
      apply Summary.alike_ofNode (Node.Alike.refl n)
      exact List.rel_append (Summary.forall₂_refl text _) (.cons ih (Summary.forall₂_refl text _))

/-! ### Every clause can be replaced -/

theorem Unchains.last {n : Node} (ts : List Tree) {t u : Tree} (h : Unchains near place t u) :
    Unchains near place (.node n (ts ++ [t])) (.node n (ts ++ [u])) := .inside h

/-- The `else` clause that nests a clause and the alternatives after it, on the same row. -/
def nesting (e : Tree) (rest : List Tree) : Tree :=
  .node { e.info with kind := "else_clause" }
    [.node { e.info with kind := "block", field := some "body" }
      [.node { e.info with kind := "if_statement", field := none, named := true }
        (others e.children ++ rest)]]

theorem child?_alternatives {field : String} (h : field ≠ "alternative") {ts : List Tree}
    (halternatives : ∀ t ∈ ts, t.info.fills "alternative" = true) : child? field ts = none := by
  have hothers : others ts = [] := by
    rw [others, List.filter_eq_nil_iff]
    intro t ht
    rw [halternatives t ht]
    exact Bool.false_ne_true
  rw [← child?_others h ts, hothers]
  rfl

theorem alternatives_others (ts : List Tree) : alternatives (others ts) = [] := by
  rw [alternatives, others, List.filter_filter, List.filter_eq_nil_iff]
  intro t _
  simp

theorem nests_nesting (e : Tree) {rest : List Tree}
    (hrest : ∀ t ∈ rest, t.info.fills "alternative" = true) :
    ∃ block inner, Nests (fun e n => n.row = e.row) e rest (nesting e rest) block inner := by
  have hchild : ∀ field : String, field ≠ "alternative" →
      child? field (others e.children ++ rest) = child? field e.children := by
    intro field hfield
    rw [child?, List.find?_append]
    show (child? field (others e.children)).or (child? field rest) = _
    rw [child?_others hfield, child?_alternatives hfield hrest, Option.or_none]
  have halternatives : alternatives (others e.children ++ rest) = rest := by
    rw [alternatives, List.filter_append]
    show alternatives (others e.children) ++ alternatives rest = rest
    rw [alternatives_others, List.nil_append, alternatives, List.filter_eq_self]
    exact hrest
  refine ⟨_, _, rfl, rfl, rfl, rfl, rfl, rfl, rfl, rfl, ?_, ?_, halternatives⟩
  · exact hchild "condition" (by decide)
  · exact hchild "consequence" (by decide)

/-- A chain can be replaced wherever a conditional has one. -/
theorem unchains_nesting {n : Node} {cs rest : List Tree} {e : Tree} (hrole : n.role = .conditional)
    (hn : place n) (hcs : alternatives cs = e :: rest) (he : e.info.isElif = true) :
    Unchains (fun e n => n.row = e.row) place (.node n cs)
      (.node n (others cs ++ [nesting e rest])) := by
  have hfills : ∀ t ∈ e :: rest, t.info.fills "alternative" = true := by
    intro t ht
    rw [← hcs] at ht
    exact (List.mem_filter.mp ht).2
  have hnew : (nesting e rest).info.fills "alternative" = true := hfills e List.mem_cons_self
  obtain ⟨block, inner, hnests⟩ :=
    nests_nesting e (fun t ht => hfills t (List.mem_cons_of_mem e ht))
  refine .root hrole hn ?_ hcs he ?_ hnests
  · rw [others, List.filter_append, List.filter_singleton, hnew]
    simp [others]
  · rw [alternatives, List.filter_append, List.filter_singleton, hnew]
    show alternatives (others cs) ++ [nesting e rest] = _
    rw [alternatives_others, List.nil_append]

end Tree

namespace Program

variable {near : Node → Node → Prop} {place : Node → Prop}

/-- The program with another tree for the same source. -/
def withTree (p : Program) (t : Tree) : Program := { p with tree := t }

theorem graph_flow_of_unchains (v : View) (p : Program) {t : Tree}
    (hplace : ∀ n, place n → n.isSuite = false)
    (hnear : ∀ n m, near n m → v.line n.line = v.line m.line)
    (h : Relation.ReflTransGen (Tree.Unchains near place) p.tree t) :
    v.graph (p.withTree t).flow = v.graph p.flow := by
  induction h with
  | refl => rfl
  | @tail u w _ hstep ih =>
      have hsummary := hstep.alike p.text hplace hnear
      rw [← ih]
      exact (graph_flow_of_summary (p := p.withTree u) (q := p.withTree w) hsummary).symm

/-- **Chains mean nested conditionals.**  However many `elif` clauses of a program are replaced
by `else` clauses that nest them, its graph keeps its labels and its edges.  It is the same graph
if every new node starts on the row of the clause that it stands for.

No conditional among those may itself be a body or a consequence, where only what is inside is
outlined: the grammar has blocks there. -/
theorem flow_unchained (p : Program) (t : Tree)
    (hblocks : ∀ n, place n → n.isSuite = false)
    (h : Relation.ReflTransGen (Tree.Unchains near place) p.tree t) :
    (p.withTree t).flow.labels = p.flow.labels ∧
    (p.withTree t).flow.edges = p.flow.edges ∧
    ((∀ e n, near e n → n.row = e.row) → (p.withTree t).flow = p.flow) := by
  have hunlined := graph_flow_of_unchains .unlined p hblocks (fun _ _ _ => rfl) h
  refine ⟨?_, ?_, ?_⟩
  · rw [← View.labels_unlined (p.withTree t).flow, hunlined, View.labels_unlined]
  · rw [← View.edges_graph .unlined (p.withTree t).flow, hunlined, View.edges_graph]
  · intro hrow
    have hline : ∀ e n : Node, near e n → View.full.line e.line = View.full.line n.line := by
      intro e n hnear
      rw [Node.line, Node.line, hrow e n hnear]
    have hfull := graph_flow_of_unchains .full p hblocks hline h
    rw [View.graph_full, View.graph_full] at hfull
    exact hfull

/-! ### A chain of two clauses -/

/-- A test on the given row and a body on the next one, each at its byte. -/
def chainedParts (row test body : Nat) : List Tree :=
  [.node (.phrase "identifier" (some "condition") row test (test + 1)) [],
    .node (.phrase "block" (some "consequence") (row + 1) body (body + 4))
      [.node (.phrase "pass_statement" none (row + 1) body (body + 4)) []]]

/-- An `elif` clause with a body of one statement. -/
def chainedClause (row start : Nat) : Tree :=
  .node (.phrase "elif_clause" (some "alternative") row start (start + 16))
    (chainedParts row (start + 5) (start + 12))

/-- A module with one conditional that has the given alternatives. -/
def testModule (alternatives : List Tree) : Tree :=
  .node (.phrase "module" none 0 0 49)
    [.node (.phrase "if_statement" none 0 0 48) (chainedParts 0 3 10 ++ alternatives)]

def chained : Program :=
  ⟨"if a:\n    pass\nelif b:\n    pass\nelif c:\n    pass\n",
    testModule [chainedClause 2 15, chainedClause 4 32]⟩

/-- The chain with one conditional inside the other. -/
def unchained : Tree :=
  testModule [.nesting (chainedClause 2 15) [.nesting (chainedClause 4 32) []]]

theorem isSuite_of_field_eq_none (n : Node) (h : n.field = none) : n.isSuite = false := by
  rw [Node.isSuite, Node.fills, Node.fills, h]
  rfl

theorem unchains_chained :
    Relation.ReflTransGen (Tree.Unchains (fun e n => n.row = e.row) (·.field = none))
      chained.tree unchained := by
  have houter : Tree.Unchains (fun e n => n.row = e.row) (·.field = none) chained.tree
      (testModule [.nesting (chainedClause 2 15) [chainedClause 4 32]]) :=
    .last [] (Tree.unchains_nesting rfl rfl rfl rfl)
  have hinner : Tree.Unchains (fun e n => n.row = e.row) (·.field = none)
      (.nesting (chainedClause 2 15) [chainedClause 4 32])
      (.nesting (chainedClause 2 15) [.nesting (chainedClause 4 32) []]) :=
    .last [] (.last [] (Tree.unchains_nesting rfl rfl rfl rfl))
  exact (Relation.ReflTransGen.single houter).tail (.last [] (.last (chainedParts 0 3 10) hinner))

/-- No clause is left, and the graph is the same. -/
theorem flow_unchained_chained :
    (∀ n : Node, n.field = none → n.isSuite = false) ∧
    Relation.ReflTransGen (Tree.Unchains (fun e n => n.row = e.row) (·.field = none))
        chained.tree unchained ∧
      (unchained.nodes.all fun n => !n.isElif) = true ∧
      (chained.withTree unchained).flow = chained.flow :=
  ⟨isSuite_of_field_eq_none, unchains_chained, by decide,
    (flow_unchained chained unchained isSuite_of_field_eq_none unchains_chained).2.2
      fun _ _ hrow => hrow⟩

end Program

end StructuralGrading
